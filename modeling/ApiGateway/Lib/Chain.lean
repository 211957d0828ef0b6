import Mathlib.Data.Set.Card
import Mathlib.Logic.Relation

/-!
# Following a relation with one successor

Where every element has at most one successor, the elements reached from a start form one chain.
It has one end or runs into a cycle, never both, and one of the two if it is finite.
-/

namespace Chain

open Relation

variable {α : Type} {R : α → α → Prop} {a b e e' : α}

/-- `e` is reached from `a` and has no successor. -/
def EndsAt (R : α → α → Prop) (a e : α) : Prop := ReflTransGen R a e ∧ ∀ b, ¬ R e b

/-- From `a` a cycle is reached. -/
def EntersCycle (R : α → α → Prop) (a : α) : Prop := ∃ b, ReflTransGen R a b ∧ TransGen R b b

theorem eq_of_dead_end (hdead : ∀ b, ¬ R e b) (h : ReflTransGen R e b) : b = e := by
  rcases h.cases_head with heq | ⟨c, hec, -⟩
  · exact heq.symm
  · exact absurd hec (hdead c)

/-- The end of a chain is the end of what is left of it anywhere. -/
theorem EndsAt.of_path (hR : Relator.RightUnique R) (h : EndsAt R a e) (hab : ReflTransGen R a b) :
    EndsAt R b e := by
  refine ⟨?_, h.2⟩
  rcases ReflTransGen.total_of_right_unique hR hab h.1 with hpath | hpath
  · exact hpath
  · rw [eq_of_dead_end h.2 hpath]

theorem EndsAt.unique (hR : Relator.RightUnique R) (h : EndsAt R a e) (h' : EndsAt R a e') :
    e = e' :=
  (eq_of_dead_end h.2 (h'.of_path hR h.1).1).symm

/-- Along a cycle every element is on the cycle. -/
theorem transGen_self_of_path (hR : Relator.RightUnique R) (hcycle : TransGen R a a)
    (hpath : ReflTransGen R a b) : TransGen R b b := by
  induction hpath with
  | refl => exact hcycle
  | tail _ hbc ih =>
    obtain ⟨d, hbd, hdb⟩ := TransGen.head'_iff.mp ih
    rw [hR hbd hbc] at hdb
    exact TransGen.tail' hdb hbc

/-- **A chain that ends enters no cycle.** -/
theorem EndsAt.not_entersCycle (hR : Relator.RightUnique R) (h : EndsAt R a e) :
    ¬ EntersCycle R a := by
  rintro ⟨b, hab, hcycle⟩
  have hself : TransGen R e e := transGen_self_of_path hR hcycle (h.of_path hR hab).1
  obtain ⟨c, hec, -⟩ := TransGen.head'_iff.mp hself
  exact h.2 c hec

/-- **A finite chain that enters no cycle ends.** -/
theorem exists_endsAt (hfinite : {b | ReflTransGen R a b}.Finite) (h : ¬ EntersCycle R a) :
    ∃ e, EndsAt R a e := by
  -- what is reached from a successor does not contain the element itself
  induction hn : {b | ReflTransGen R a b}.ncard using Nat.strong_induction_on generalizing a with
  | _ n ih =>
    by_cases hdead : ∀ b, ¬ R a b
    · exact ⟨a, .refl, hdead⟩
    push Not at hdead
    obtain ⟨b, hab⟩ := hdead
    have hless : {c | ReflTransGen R b c} ⊂ {c | ReflTransGen R a c} :=
      ⟨fun c hc => .head hab hc, fun hall => h ⟨a, .refl, .head' hab (hall .refl)⟩⟩
    obtain ⟨e, hbe, hend⟩ := ih _ (hn ▸ Set.ncard_lt_ncard hless hfinite)
      (hfinite.subset hless.subset) (fun ⟨c, hbc, hcycle⟩ => h ⟨c, .head hab hbc, hcycle⟩) rfl
    exact ⟨e, .head hab hbe, hend⟩

theorem not_entersCycle_of_lt [Preorder α] (h : ∀ a b, R a b → a < b) : ¬ EntersCycle R a :=
  fun ⟨b, _, hcycle⟩ => lt_irrefl b (transGen_minimal h b b hcycle)

end Chain
