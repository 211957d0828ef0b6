import Mathlib.Logic.Function.Basic

/-!
# Exclusive locks

A transaction that locks a row keeps the lock until it ends. Each lock that is taken gets a ticket
of its own. So whoever sees their own ticket on a row knows that it has been locked all the time,
and that nobody else has written it. `Locks.Guards` is that argument.
-/

/-- Who holds which lock, by ticket. -/
structure Locks (κ : Type) where
  holder : κ → Option Nat
  /-- The next ticket. -/
  next : Nat
  issued : ∀ k t, holder k = some t → t < next

namespace Locks

open Function

variable {κ : Type} {l l' l'' : Locks κ}
variable {P : κ → Prop}

/-- Nothing is locked. -/
def empty : Locks κ := ⟨fun _ => none, 0, fun _ _ h => nomatch h⟩

/-- Lock `k` under a new ticket, which is `l.next`. -/
def acquire [DecidableEq κ] (l : Locks κ) (k : κ) : Locks κ where
  holder := update l.holder k (some l.next)
  next := l.next + 1
  issued j t h := by
    by_cases hj : j = k
    · subst hj
      rw [update_self, Option.some.injEq] at h
      omega
    · rw [update_of_ne hj] at h
      exact Nat.lt_succ_of_lt (l.issued j t h)

/-- Give up everything held under ticket `t`. -/
def release (l : Locks κ) (t : Nat) : Locks κ where
  holder k := if l.holder k = some t then none else l.holder k
  next := l.next
  issued j t' h := by
    split at h
    · cases h
    · exact l.issued j t' h

/-- From `l` to `l'`, `P` holds of every row that was locked all the time, under a ticket issued
before `l`. -/
structure Guards (l l' : Locks κ) (P : κ → Prop) : Prop where
  next_le : l.next ≤ l'.next
  held : ∀ k t, l'.holder k = some t → t < l.next → l.holder k = some t ∧ P k

theorem Guards.refl (h : ∀ k, P k) : Guards l l P :=
  ⟨Nat.le_refl _, fun k _ hk _ => ⟨hk, h k⟩⟩

theorem Guards.trans {Q R : κ → Prop} (h : Guards l l' P) (h' : Guards l' l'' Q)
    (hR : ∀ k, P k → Q k → R k) : Guards l l'' R := by
  refine ⟨Nat.le_trans h.next_le h'.next_le, fun k t hk ht => ?_⟩
  obtain ⟨hk', hQ⟩ := h'.held k t hk (Nat.lt_of_lt_of_le ht h.next_le)
  obtain ⟨hk'', hP⟩ := h.held k t hk' ht
  exact ⟨hk'', hR k hP hQ⟩

/-- A step that takes no lock and does right by the rows that are locked before and after it. -/
theorem guards_of_sub (hnext : l.next ≤ l'.next)
    (h : ∀ k t, l'.holder k = some t → l.holder k = some t ∧ P k) : Guards l l' P :=
  ⟨hnext, fun k t hk _ => h k t hk⟩

theorem guards_acquire [DecidableEq κ] (k : κ) (h : ∀ k, P k) : Guards l (l.acquire k) P := by
  refine ⟨Nat.le_succ _, fun j t hj ht => ⟨?_, h j⟩⟩
  by_cases hjk : j = k
  · -- the new ticket is not an old one
    subst hjk
    simp only [acquire, update_self, Option.some.injEq] at hj
    omega
  · simpa only [acquire, update_of_ne hjk] using hj

theorem holder_release_some {t t' : Nat} {k : κ} (h : (l.release t).holder k = some t') :
    l.holder k = some t' ∧ l.holder k ≠ some t := by
  simp only [release] at h
  split at h
  · cases h
  · rename_i hne
    exact ⟨h, hne⟩

theorem guards_release (t : Nat) (h : ∀ k t', l.holder k = some t' → t' ≠ t → P k) :
    Guards l (l.release t) P := by
  refine guards_of_sub (Nat.le_refl _) fun k t' hk => ?_
  obtain ⟨hk', hne⟩ := holder_release_some hk
  exact ⟨hk', h k t' hk' fun he => hne (he ▸ hk')⟩

end Locks
