import Mathlib.Data.List.Induction
import Mathlib.Data.List.Nodup

/-!
# Streams

A converter reads one item at a time, keeps a state and emits any number of items. The reader of a
stream gathers the fragments that belong to one key, in the order in which the keys first appear.
-/

namespace Streams

open List

variable {n : Int}

section Converter

variable {σ ι ο : Type} (step : σ → ι → σ × List ο)

/-- The state after a list of items, and everything emitted on the way. -/
def run : σ → List ι → σ × List ο
  | s, [] => (s, [])
  | s, x :: xs => ((run (step s x).1 xs).1, (step s x).2 ++ (run (step s x).1 xs).2)

variable {step} {s : σ}

@[simp] theorem run_nil : run step s [] = (s, []) := rfl

theorem run_cons {x : ι} {xs : List ι} :
    run step s (x :: xs) =
      ((run step (step s x).1 xs).1, (step s x).2 ++ (run step (step s x).1 xs).2) := rfl

theorem run_append {xs ys : List ι} :
    run step s (xs ++ ys) =
      ((run step (run step s xs).1 ys).1, (run step s xs).2 ++ (run step (run step s xs).1 ys).2) := by
  induction xs generalizing s with
  | nil => rfl
  | cons x _ ih => rw [cons_append, run_cons, ih, run_cons, append_assoc]

theorem run_singleton {x : ι} : run step s [x] = step s x := by
  rw [run_cons, run_nil, append_nil]

variable {I : List ι → σ → List ο → Prop} {all : List ι}

theorem run_invariant_from
    (hstep : ∀ pre x post s out, all = pre ++ x :: post → I pre s out →
      I (pre ++ [x]) (step s x).1 (out ++ (step s x).2)) :
    ∀ {xs pre : List ι} {s : σ} {out : List ο}, all = pre ++ xs → I pre s out →
      I all (run step s xs).1 (out ++ (run step s xs).2) := by
  intro xs
  induction xs with
  | nil =>
    intro pre s out hall hI
    rw [append_nil] at hall
    subst hall
    rw [run_nil, append_nil]
    exact hI
  | cons x xs ih =>
    intro pre s out hall hI
    rw [run_cons, ← append_assoc]
    refine ih ?_ (hstep pre x xs s out hall hI)
    rw [append_assoc]
    exact hall

/-- **Induction over what was read.** A relation between the items read, the state and the items
emitted that every step keeps. -/
theorem run_invariant (hinit : I [] s [])
    (hstep : ∀ pre x post s out, all = pre ++ x :: post → I pre s out →
      I (pre ++ [x]) (step s x).1 (out ++ (step s x).2)) :
    I all (run step s all).1 (run step s all).2 :=
  run_invariant_from hstep rfl hinit

end Converter

section Gather

variable {κ α : Type} [DecidableEq κ] (merge : α → α → α)

/-- Add a fragment to the entry of its key, or start an entry. -/
def put : List (κ × α) → κ → α → List (κ × α)
  | [], k, a => [(k, a)]
  | (k', a') :: rest, k, a =>
    if k' = k then (k', merge a' a) :: rest else (k', a') :: put rest k a

/-- The fragments gathered by key. -/
def gather (fragments : List (κ × α)) : List (κ × α) :=
  fragments.foldl (fun acc f => put merge acc f.1 f.2) []

variable {merge}
variable {acc l1 l2 : List (κ × α)} {k : κ} {a b : α} {fs : List (κ × α)}

theorem gather_append_singleton {f : κ × α} :
    gather merge (fs ++ [f]) = put merge (gather merge fs) f.1 f.2 := by
  unfold gather
  rw [foldl_append]
  rfl

theorem put_of_notMem (h : k ∉ acc.map Prod.fst) : put merge acc k a = acc ++ [(k, a)] := by
  induction acc with
  | nil => rfl
  | cons e _ ih =>
    rw [map_cons, mem_cons, not_or] at h
    rw [put, if_neg (Ne.symm h.1), ih h.2]
    rfl

theorem put_split (h : k ∉ l1.map Prod.fst) :
    put merge (l1 ++ (k, a) :: l2) k b = l1 ++ (k, merge a b) :: l2 := by
  induction l1 with
  | nil => rw [nil_append, put, if_pos rfl, nil_append]
  | cons e _ ih =>
    rw [map_cons, mem_cons, not_or] at h
    rw [cons_append, put, if_neg (Ne.symm h.1), ih h.2, cons_append]

theorem foldl_put_last {as : List α} (h : k ∉ acc.map Prod.fst) :
    (as.map fun b => (k, b)).foldl (fun acc f => put merge acc f.1 f.2) (acc ++ [(k, a)]) =
      acc ++ [(k, as.foldl merge a)] := by
  induction as generalizing a with
  | nil => rfl
  | cons b _ ih =>
    rw [map_cons, foldl_cons]
    rw [put_split h]
    exact ih

/-- Groups of fragments that follow each other and have keys of their own stay groups. -/
theorem gather_groups {groups : List (κ × α × List α)} (h : (groups.map Prod.fst).Nodup) :
    gather merge (groups.flatMap fun g => (g.1, g.2.1) :: g.2.2.map fun a => (g.1, a)) =
      groups.map fun g => (g.1, g.2.2.foldl merge g.2.1) := by
  induction groups using List.reverseRecOn with
  | nil => rfl
  | append_singleton groups g ih =>
    rw [map_append, nodup_append] at h
    have hnew : g.1 ∉ (groups.map fun g => (g.1, g.2.2.foldl merge g.2.1)).map Prod.fst := by
      intro hmem
      rw [map_map] at hmem
      exact h.2.2 g.1 hmem g.1 (mem_singleton_self g.1) rfl
    have hstep : ∀ xs ys : List (κ × α), gather merge (xs ++ ys) =
        ys.foldl (fun acc f => put merge acc f.1 f.2) (gather merge xs) := by
      intro xs ys
      unfold gather
      rw [foldl_append]
    rw [flatMap_append, hstep, ih h.1, flatMap_singleton, foldl_cons,
      put_of_notMem hnew, foldl_put_last hnew, map_append]
    rfl

end Gather

section Number

variable {α : Type} {merge : α → α → α}

/-- Entries numbered from `n` on. -/
def number : Int → List α → List (Int × α)
  | _, [] => []
  | n, a :: l => (n, a) :: number (n + 1) l

variable {l : List α}

theorem map_snd_number : (number n l).map Prod.snd = l := by
  induction l generalizing n with
  | nil => rfl
  | cons a l ih => rw [number, map_cons, ih]

theorem number_inj {l l' : List α} : number n l = number n l' ↔ l = l' := by
  constructor
  · intro h
    rw [← map_snd_number (l := l), h, map_snd_number]
  · exact congrArg _

/-- The numbers of the entries. -/
theorem lt_of_mem_number {i : Int} (h : i ∈ (number n l).map Prod.fst) :
    i < n + l.length := by
  induction l generalizing n with
  | nil => simp [number] at h
  | cons c l ih =>
    rw [length_cons]
    rcases mem_cons.mp h with rfl | h
    · omega
    · have := ih h
      omega

theorem number_append {l l' : List α} : number n (l ++ l') = number n l ++ number (n + l.length) l' := by
  induction l generalizing n with
  | nil => simp [number]
  | cons c l ih =>
    rw [cons_append, number, ih, number, length_cons]
    congr 3
    omega

theorem put_number {l1 l2 : List α} {a b : α} :
    put merge (number n (l1 ++ a :: l2)) (n + l1.length) b = number n (l1 ++ merge a b :: l2) := by
  rw [number_append, number_append]
  exact put_split fun h => Int.lt_irrefl _ (lt_of_mem_number h)

/-- A fragment with the next number becomes the last entry. -/
theorem put_number_next {b : α} :
    put merge (number n l) (n + l.length) b = number n (l ++ [b]) := by
  rw [put_of_notMem fun h => Int.lt_irrefl _ (lt_of_mem_number h), number_append]
  rfl

end Number

section Lists

variable {α β : Type} {f : α → Option β} {a : α}

theorem filterMap_concat_none (h : f a = none)
    (l : List α) : (l ++ [a]).filterMap f = l.filterMap f := by
  rw [filterMap_append, filterMap_cons_none h, filterMap_nil, append_nil]

theorem filterMap_concat_some {b : β} (h : f a = some b)
    (l : List α) : (l ++ [a]).filterMap f = l.filterMap f ++ [b] := by
  rw [filterMap_append, filterMap_cons_some h, filterMap_nil]

theorem lookup_zipIdx_of_notMem {l : List String} {k : String} {n : Nat} (h : k ∉ l) :
    (l.zipIdx n).lookup k = none := by
  refine lookup_eq_none_iff.mpr fun p hp => bne_iff_ne.mpr ?_
  rintro rfl
  exact h (fst_mem_of_mem_zipIdx hp)

theorem eq_of_map_eq {f : α → β} {all : List α} (hnodup : (all.map f).Nodup) :
    ∀ {l l' : List α}, (∀ a ∈ l, a ∈ all) → (∀ a ∈ l', a ∈ all) → l.map f = l'.map f → l = l' := by
  intro l
  induction l with
  | nil =>
    intro l' _ _ heq
    exact (map_eq_nil_iff.mp heq.symm).symm
  | cons a l ih =>
    intro l' hl hl' heq
    cases l' with
    | nil => cases heq
    | cons a' =>
      rw [map_cons, map_cons, List.cons.injEq] at heq
      rw [inj_on_of_nodup_map hnodup (hl a (mem_cons_self ..)) (hl' a' (mem_cons_self ..)) heq.1,
        ih (fun b hb => hl b (mem_cons_of_mem _ hb))
          (fun b hb => hl' b (mem_cons_of_mem _ hb)) heq.2]

end Lists

section Texts

theorem join_eq_empty {l : List String} : String.join l = "" ↔ ∀ t ∈ l, t = "" := by
  induction l with
  | nil => simp
  | cons s l ih =>
    rw [String.join_cons, String.append_eq_empty_iff, ih]
    simp

theorem join_const_empty {α : Type} (l : List α) : String.join (l.map fun _ => "") = "" :=
  join_eq_empty.mpr (by simp)

theorem join_eq_last {l : List String} :
    String.join l = l.getLast?.getD "" ↔ ∀ t ∈ l.dropLast, t = "" := by
  induction l using List.reverseRecOn with
  | nil => simp
  | append_singleton =>
    rw [dropLast_concat, String.join_append, getLast?_append, ← join_eq_empty]
    exact String.append_eq_right_iff

end Texts

end Streams
