import Mathlib.Algebra.BigOperators.Group.Finset.Piecewise
import Mathlib.Algebra.Order.BigOperators.Group.List
import Mathlib.Tactic.Abel
import Mathlib.Tactic.Linarith

/-!
# Tables, guards and sums over rows

A table is the list of its rows in insertion order, and the primary key of a row is its position:
the tables modelled here never delete. `Table.lookup` is a `SELECT … LIMIT 1`, `List.modify` an
update by primary key and `Table.updateWhere` an update by condition. Money questions about a table
are sums over its rows (`Table.total`).

Transactions are functions into `Except`; `bind_eq_ok` and `failIf_eq_ok` take a successful run
apart again.
-/

namespace Table

open List

variable {α ε β : Type}
variable {e : ε} {a b : α} {p : α → Bool} {xs ys : List α} {i j : Nat} {f : α → α} {g : α → β}
  {M : Type}

/-! ## Guards -/

/-- `if c { return e }`. -/
def failIf (c : Prop) [Decidable c] (e : ε) : Except ε Unit :=
  if c then .error e else .ok ()

/-- Unwrap a row that was looked up, or fail. -/
def orFail (a : Option α) (e : ε) : Except ε α :=
  match a with
  | some a => .ok a
  | none => .error e

@[simp] theorem failIf_eq_ok {c : Prop} [Decidable c] {u : Unit} : failIf c e = .ok u ↔ ¬ c := by
  unfold failIf; split <;> simp_all

@[simp] theorem orFail_eq_ok {a : Option α} : orFail a e = .ok b ↔ a = some b := by
  cases a <;> simp [orFail]

/-- A successful sequence is a successful first step and a successful rest. -/
theorem bind_eq_ok {x : Except ε α} {f : α → Except ε β} {b : β} :
    (x >>= f) = .ok b ↔ ∃ a, x = .ok a ∧ f a = .ok b := by
  cases x <;> simp [bind, Except.bind]

@[simp] theorem pure_eq_ok : (pure a : Except ε α) = .ok b ↔ a = b := by
  simp [pure, Except.pure]

theorem ok_pair_inj {a a' : α} {b b' : β} (h : (.ok (a, b) : Except ε (α × β)) = .ok (a', b')) :
    a = a' ∧ b = b' := Prod.mk.inj (Except.ok.inj h)

theorem some_pair_inj {a a' : α} {b b' : β} (h : some (a, b) = some (a', b')) :
    a = a' ∧ b = b' := Prod.mk.inj (Option.some.inj h)

/-! ## Lookups -/

/-- The first row that satisfies `p`, with its primary key. -/
def lookup (p : α → Bool) : List α → Option (Nat × α)
  | [] => none
  | a :: as => if p a then some (0, a) else (lookup p as).map fun r => (r.1 + 1, r.2)

theorem lookup_some (h : lookup p xs = some (i, a)) : xs[i]? = some a ∧ p a = true := by
  induction xs generalizing i with
  | nil => simp [lookup] at h
  | cons x _ ih =>
    unfold lookup at h
    split at h
    · rename_i hp
      obtain ⟨rfl, rfl⟩ := some_pair_inj h
      exact ⟨rfl, hp⟩
    · simp only [Option.map_eq_some_iff, Prod.exists] at h
      obtain ⟨j, b, hj, rfl, rfl⟩ := h
      simpa using ih hj

theorem lookup_none (h : lookup p xs = none) : ∀ a ∈ xs, p a = false := by
  induction xs with
  | nil => simp
  | cons x _ ih =>
    unfold lookup at h
    split at h
    · cases h
    rename_i hp
    simp only [Option.map_eq_none_iff] at h
    intro a ha
    rcases mem_cons.mp ha with rfl | ha
    · simpa using hp
    · exact ih h a ha

theorem lookup_append : lookup p (xs ++ ys) =
    (lookup p xs).or ((lookup p ys).map fun r => (xs.length + r.1, r.2)) := by
  induction xs with
  | nil => simp [lookup]
  | cons x xs ih =>
    cases hx : p x
    · cases hxs : lookup p xs <;> cases hys : lookup p ys <;>
        simp [lookup, hx, ih, hxs, hys, Nat.add_right_comm]
    · simp [lookup, hx]

/-- A row that was not there is found once it is inserted. -/
theorem lookup_append_of_none (h : lookup p xs = none) (ha : p a = true) :
    lookup p (xs ++ [a]) = some (xs.length, a) := by
  simp [lookup_append, h, lookup, ha]

/-- A row that was found is still found after an insert. -/
theorem lookup_append_of_some {r : Nat × α} (h : lookup p xs = some r) :
    lookup p (xs ++ ys) = some r := by
  simp [lookup_append, h]

/-! ## Writes -/

/-- `UPDATE … WHERE p`; the condition may look at the primary key. -/
def updateWhere (p : Nat → α → Bool) (f : α → α) (xs : List α) : List α :=
  xs.mapIdx fun i a => if p i a then f a else a

/-- Whether `updateWhere p` affects any row. -/
def affects (p : Nat → α → Bool) (xs : List α) : Bool := (xs.mapIdx p).any id

theorem getElem?_updateWhere {p : Nat → α → Bool} :
    (updateWhere p f xs)[i]? = xs[i]?.map fun a => if p i a then f a else a := by
  simp [updateWhere]

theorem affects_iff {p : Nat → α → Bool} :
    affects p xs = true ↔ ∃ i a, xs[i]? = some a ∧ p i a = true := by
  simp only [affects, any_eq_true, mem_iff_getElem?, getElem?_mapIdx, Option.map_eq_some_iff]
  constructor
  · rintro ⟨b, ⟨i, a, ha, hp⟩, rfl⟩
    exact ⟨i, a, ha, hp⟩
  · rintro ⟨i, a, ha, hp⟩
    exact ⟨true, ⟨i, a, ha, hp⟩, rfl⟩

theorem getElem?_modify_self (h : xs[i]? = some a) : (xs.modify i f)[i]? = some (f a) := by
  rw [getElem?_modify, h]; simp

/-- A row found after some row was rewritten is that row, or was there before. -/
theorem getElem?_modify_some {b : α} (h : xs[i]? = some a) (hb : (xs.modify i f)[j]? = some b) :
    (i = j ∧ f a = b) ∨ (i ≠ j ∧ xs[j]? = some b) := by
  by_cases hij : i = j
  · subst hij
    exact .inl ⟨rfl, Option.some.inj ((getElem?_modify_self h).symm.trans hb)⟩
  · exact .inr ⟨hij, (getElem?_modify_ne _ _ hij).symm.trans hb⟩

/-- A row is still there after some row was rewritten, with what holds before and after. -/
theorem exists_getElem?_modify {P : α → Prop}
    (h : xs[j]? = some a) (hold : P a) (hnew : i = j → P (f a)) :
    ∃ a', (xs.modify i f)[j]? = some a' ∧ P a' := by
  by_cases hij : i = j
  · subst hij
    exact ⟨f a, getElem?_modify_self h, hnew rfl⟩
  · exact ⟨a, (getElem?_modify_ne _ _ hij).trans h, hold⟩

/-- A table around one of its rows, and what rewriting the row makes of it. -/
theorem exists_split (h : xs[i]? = some a) :
    ∃ l1 l2, xs = l1 ++ a :: l2 ∧ l1.length = i ∧ ∀ f, xs.modify i f = l1 ++ f a :: l2 := by
  obtain ⟨hi, rfl⟩ := List.getElem?_eq_some_iff.mp h
  refine ⟨xs.take i, xs.drop (i + 1), ?_, by simp; omega, fun f => ?_⟩
  · rw [getElem_cons_drop, take_append_drop]
  · rw [modify_eq_take_cons_drop hi]

/-- Rewriting a row that is known. -/
theorem modify_of_getElem? (h : xs[i]? = some a) : xs.modify i f = xs.modify i fun _ => f a := by
  obtain ⟨l1, l2, -, -, hmod⟩ := exists_split h
  rw [hmod, hmod]

/-- The row an insert appends. -/
theorem getElem?_singleton_some (h : [a][i]? = some b) : i = 0 ∧ b = a := by
  cases i with
  | zero => simpa using h.symm
  | succ => simp at h

/-- A row of a table after an insert. -/
theorem getElem?_append_some (h : xs[i]? = some a) : (xs ++ ys)[i]? = some a := by
  rw [getElem?_append_left (List.getElem?_eq_some_iff.mp h).1, h]

theorem getElem?_append_singleton_some (h : (xs ++ [a])[j]? = some b) :
    xs[j]? = some b ∨ (j = xs.length ∧ b = a) := by
  rcases Nat.lt_or_ge j xs.length with hlt | hge
  · rw [getElem?_append_left hlt] at h
    exact .inl h
  · rw [getElem?_append_right hge] at h
    obtain ⟨hj, rfl⟩ := getElem?_singleton_some h
    exact .inr ⟨by omega, rfl⟩

/-- A row of a table after one of its rows was rewritten. -/
theorem mem_modify (h : xs[i]? = some a) (hb : b ∈ xs.modify i f) : b = f a ∨ b ∈ xs := by
  obtain ⟨l1, l2, rfl, -, hmod⟩ := exists_split h
  rw [hmod] at hb
  simp only [mem_append, mem_cons] at hb ⊢
  tauto

/-- A lookup after its own row was rewritten into a row that still matches. -/
theorem lookup_modify (h : lookup p xs = some (i, a)) (hf : p (f a) = true) :
    lookup p (xs.modify i f) = some (i, f a) := by
  obtain ⟨l1, l2, rfl, rfl, hmod⟩ := exists_split (lookup_some h).1
  rw [lookup_append] at h
  cases hbefore : lookup p l1 with
  | none => simp [hmod, lookup_append, hbefore, lookup, hf]
  | some =>
    rw [hbefore, Option.some_or] at h
    have hrow := (lookup_some (h ▸ hbefore)).1
    simp at hrow

/-- A lookup after a row was rewritten that matches neither before nor after. -/
theorem lookup_modify_of_not (h : xs[i]? = some a) (ha : p a = false) (hf : p (f a) = false) :
    lookup p (xs.modify i f) = lookup p xs := by
  obtain ⟨l1, l2, rfl, -, hmod⟩ := exists_split h
  simp [hmod, lookup_append, lookup, ha, hf]

/-- A column after one row was rewritten. -/
theorem map_modify_eq_set (h : xs[i]? = some a) :
    (xs.modify i f).map g = (xs.map g).set i (g (f a)) := by
  obtain ⟨l1, l2, rfl, rfl, hmod⟩ := exists_split h
  rw [hmod]
  simp

/-- A column that the rewrite keeps. -/
theorem map_modify_of_eq (h : xs[i]? = some a) (hg : g (f a) = g a) :
    (xs.modify i f).map g = xs.map g := by
  obtain ⟨l1, l2, rfl, -, hmod⟩ := exists_split h
  simp [hmod, hg]

/-- Selecting rows commutes with rewriting one of the selected rows. -/
theorem filter_modify (h : xs[i]? = some a) (ha : p a = true) (hf : p (f a) = true) :
    ∃ j, (xs.filter p)[j]? = some a ∧ (xs.modify i f).filter p = (xs.filter p).modify j f := by
  obtain ⟨l1, l2, rfl, -, hmod⟩ := exists_split h
  refine ⟨(l1.filter p).length, by simp [ha], ?_⟩
  rw [hmod, modify_eq_take_cons_drop (by simp [ha])]
  simp [ha, hf]

/-- Rewriting a row that is selected neither before nor after. -/
theorem filter_modify_of_not (h : xs[i]? = some a) (ha : p a = false) (hf : p (f a) = false) :
    (xs.modify i f).filter p = xs.filter p := by
  obtain ⟨l1, l2, rfl, -, hmod⟩ := exists_split h
  simp [hmod, ha, hf]

/-- Rows that stay as they are stay selected. -/
theorem filter_sublist_of_kept (h : ∀ (i : Nat) a, xs[i]? = some a → p a = true → ys[i]? = some a) :
    (xs.filter p).Sublist (ys.filter p) := by
  induction xs generalizing ys with
  | nil => simp
  | cons x xs ih =>
    cases ys with
    | nil =>
      have hnone : (x :: xs).filter p = [] := by
        rw [filter_eq_nil_iff]
        intro a ha hp
        obtain ⟨i, hi⟩ := mem_iff_getElem?.mp ha
        exact nomatch (h i a hi hp)
      simp [hnone]
    | cons y ys =>
      have htail := ih fun i a hi hp => by simpa using h (i + 1) a (by simpa using hi) hp
      by_cases hx : p x = true
      · obtain rfl : y = x := by simpa using h 0 x rfl hx
        rw [filter_cons_of_pos hx, filter_cons_of_pos hx]
        exact htail.cons_cons y
      · rw [filter_cons_of_neg hx]
        exact htail.trans ((sublist_cons_self y ys).filter p)

/-! ## Sums over rows -/

/-- The sum of `f` over the rows of a table. -/
def total (f : α → ℚ) (xs : List α) : ℚ := (xs.map f).sum

@[simp] theorem total_nil {f : α → ℚ} : total f [] = 0 := rfl

@[simp] theorem total_append {f : α → ℚ} : total f (xs ++ ys) = total f xs + total f ys := by
  simp [total]

@[simp] theorem total_cons {f : α → ℚ} : total f (a :: xs) = f a + total f xs := by
  simp [total]

/-- Rewriting one row changes a sum by that row alone. -/
theorem sum_map_modify [AddCommGroup M] {f : α → M} {g : α → α} (h : xs[i]? = some a) :
    ((xs.modify i g).map f).sum = (xs.map f).sum - f a + f (g a) := by
  obtain ⟨l1, l2, rfl, -, hmod⟩ := exists_split h
  rw [hmod]
  simp only [map_append, map_cons, sum_append, sum_cons]
  abel

theorem total_modify {f : α → ℚ} {g : α → α} (h : xs[i]? = some a) :
    total f (xs.modify i g) = total f xs - f a + f (g a) :=
  sum_map_modify h

/-- A sum over the selected rows, as one over all rows. -/
theorem sum_map_filter [AddCommGroup M] {f : α → M} :
    ((xs.filter p).map f).sum = (xs.map fun a => if p a then f a else 0).sum := by
  induction xs with
  | nil => rfl
  | cons x _ ih => cases hx : p x <;> simp [hx, ih]

/-- A rewrite that leaves the summand of every row alone leaves the sum alone. -/
theorem total_congr_of_getElem? {f : α → ℚ} (h : ∀ i : Nat, (xs[i]?).map f = (ys[i]?).map f) :
    total f xs = total f ys := by
  have hmap : xs.map f = ys.map f := by
    apply ext_getElem?
    intro i
    simpa using h i
  rw [total, total, hmap]

/-- One row of a sum of non-negative rows is at most the sum. -/
theorem le_total {f : α → ℚ} (hf : ∀ x ∈ xs, 0 ≤ f x) (ha : a ∈ xs) : f a ≤ total f xs := by
  refine single_le_sum ?_ _ (mem_map_of_mem ha)
  intro y hy
  obtain ⟨x, hx, rfl⟩ := mem_map.mp hy
  exact hf x hx

/-- Rows in the same slot, where slots are distinct: at most one. -/
theorem length_le_one_of_slot {b : β} (h : (xs.map g).Nodup) (hb : ∀ a ∈ xs, g a = b) :
    xs.length ≤ 1 := by
  match xs, h, hb with
  | [], _, _ => simp
  | [_], _, _ => simp
  | x :: y :: _, h, hb =>
    have hx := hb x mem_cons_self
    have hy := hb y (mem_cons_of_mem x mem_cons_self)
    simp [hx, hy] at h

/-- A sum over at most one row. -/
theorem total_le_of_length_le_one {f : α → ℚ} {b : ℚ} (h : xs.length ≤ 1)
    (hb : 0 ≤ b) (hf : ∀ a ∈ xs, f a ≤ b) : total f xs ≤ b := by
  match xs, h, hf with
  | [], _, _ => simpa using hb
  | [x], _, hf => simpa using hf x mem_cons_self

/-- A sum, split by a condition on the rows. -/
theorem sum_map_filter_add [AddCommMonoid M] {f : α → M} (p : α → Bool) (xs : List α) :
    ((xs.filter p).map f).sum + ((xs.filter fun a => !p a).map f).sum = (xs.map f).sum := by
  induction xs with
  | nil => simp
  | cons x _ ih =>
    cases hx : p x
    · simp [hx, ← ih, add_left_comm]
    · simp [hx, ← ih, add_assoc]

theorem total_filter_add {f : α → ℚ} :
    total f (xs.filter p) + total f (xs.filter fun a => !p a) = total f xs :=
  sum_map_filter_add p xs

/-- A sum over the rows that have a key, one key at a time. -/
theorem sum_map_filter_isSome {κ : Type} [AddCommMonoid M] [DecidableEq κ] {f : α → M}
    {key : α → Option κ} (keys : Finset κ) (h : ∀ a ∈ xs, ∀ k, key a = some k → k ∈ keys) :
    ((xs.filter fun a => (key a).isSome).map f).sum =
      ∑ k ∈ keys, ((xs.filter fun a => key a == some k).map f).sum := by
  induction xs with
  | nil => simp
  | cons x xs ih =>
    have ih := ih fun a ha => h a (mem_cons_of_mem x ha)
    cases hx : key x with
    | none => simpa [hx] using ih
    | some k =>
      have hk : k ∈ keys := h x mem_cons_self k hx
      -- the new row is in the sum of its own key only
      have hone : ∀ j, (((x :: xs).filter fun a => key a == some j).map f).sum =
          (if j = k then f x else 0) + ((xs.filter fun a => key a == some j).map f).sum := by
        intro j
        by_cases hj : j = k
        · simp [hj, hx]
        · simp [hj, hx, Ne.symm hj]
      simp only [hone, Finset.sum_add_distrib, Finset.sum_ite_eq_of_mem' keys k _ hk]
      simp [hx, ih]

/-- A sum, one key at a time. -/
theorem sum_map_by_key {κ : Type} [AddCommMonoid M] [DecidableEq κ] {f : α → M} {key : α → κ}
    (keys : Finset κ) (h : ∀ a ∈ xs, key a ∈ keys) :
    (xs.map f).sum = ∑ k ∈ keys, ((xs.filter fun a => key a == k).map f).sum := by
  have hsum : ((xs.filter fun a => (some (key a)).isSome).map f).sum =
      ∑ k ∈ keys, ((xs.filter fun a => some (key a) == some k).map f).sum :=
    sum_map_filter_isSome keys fun a ha k hk => Option.some.inj hk ▸ h a ha
  simpa only [Option.isSome_some, filter_true, Option.some_beq_some] using hsum

/-- A sum over a table, by primary key. -/
theorem sum_map_eq_sum_range [AddCommMonoid M] {f : α → M} :
    (xs.map f).sum = ∑ i ∈ Finset.range xs.length, (xs[i]?.map f).getD 0 := by
  induction xs with
  | nil => simp
  | cons x _ ih => simp [Finset.sum_range_succ', ih, add_comm]

end Table
