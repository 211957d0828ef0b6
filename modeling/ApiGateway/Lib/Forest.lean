import Mathlib.Logic.Relation

/-!
# Relations without cycles

Taking pairs away keeps a relation acyclic. Adding one keeps it so unless the relation already
leads back from the end of the new pair to its start, which is what a cycle check has to answer.
-/

namespace Forest

open Relation

variable {α : Type} {R R' : α → α → Prop}
variable {start stop : α}

def Acyclic (R : α → α → Prop) : Prop := ∀ a, ¬ TransGen R a a

/-- The relation with one more pair. -/
def addEdge (R : α → α → Prop) (start stop : α) : α → α → Prop :=
  fun a b => R a b ∨ a = start ∧ b = stop

theorem Acyclic.mono (h : Acyclic R) (hsub : ∀ a b, R' a b → R a b) : Acyclic R' :=
  fun a hcycle => h a (TransGen.mono hsub a a hcycle)

theorem acyclic_of_empty (h : ∀ a b, ¬ R a b) : Acyclic R := by
  intro a hcycle
  obtain ⟨b, hab, -⟩ := TransGen.head'_iff.mp hcycle
  exact h a b hab

/-- A path over the new pair uses it once: nothing leads back to its start. -/
theorem transGen_addEdge {a b : α} (hback : ¬ ReflTransGen R stop start)
    (h : TransGen (addEdge R start stop) a b) :
    TransGen R a b ∨ ReflTransGen R a start ∧ ReflTransGen R stop b := by
  induction h with
  | single hab =>
    rcases hab with hab | ⟨rfl, rfl⟩
    · exact .inl (.single hab)
    · exact .inr ⟨.refl, .refl⟩
  | tail _ hbc ih =>
    rcases hbc with hbc | ⟨rfl, rfl⟩
    · rcases ih with ih | ⟨hstart, hstop⟩
      · exact .inl (ih.tail hbc)
      · exact .inr ⟨hstart, hstop.tail hbc⟩
    · rcases ih with ih | ⟨-, hstop⟩
      · exact .inr ⟨ih.to_reflTransGen, .refl⟩
      · exact absurd hstop hback

theorem Acyclic.addEdge (h : Acyclic R) (hback : ¬ ReflTransGen R stop start) :
    Acyclic (addEdge R start stop) := by
  intro a hcycle
  rcases transGen_addEdge hback hcycle with hcycle | ⟨hstart, hstop⟩
  · exact h a hcycle
  · exact hback (hstop.trans hstart)

/-- **One more pair closes a cycle exactly when its end leads back to its start.** -/
theorem Acyclic.exists_cycle_iff (h : Acyclic R) :
    (∃ a, TransGen (Forest.addEdge R start stop) a a) ↔ ReflTransGen R stop start := by
  constructor
  · rintro ⟨a, hcycle⟩
    refine Classical.byContradiction fun hback => ?_
    exact h.addEdge hback a hcycle
  · intro hback
    refine ⟨start, TransGen.head' (.inr ⟨rfl, rfl⟩) ?_⟩
    exact ReflTransGen.mono (fun _ _ hab => Or.inl hab) stop start hback

end Forest
