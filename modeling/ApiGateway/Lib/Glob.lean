import Mathlib.Data.List.Infix

/-!
# Glob patterns

The patterns in which a key-value server looks for keys, over bytes: `*` stands for any text, `?`
for one byte, `[...]` for one of a set and `[^...]` for one outside it, and a backslash takes the
next byte as it is. A set that is not closed ends with the pattern.
-/

namespace Glob

open List

/-- One piece of a pattern. -/
inductive Item where
  | any
  | one (q : UInt8 → Bool)

mutual

def parse : List UInt8 → List Item
  | [] => []
  | 42 :: p => .any :: parse p
  | 63 :: p => .one (fun _ => true) :: parse p
  | 91 :: 94 :: p => parseSet true (fun _ => false) p
  | 91 :: p => parseSet false (fun _ => false) p
  | 92 :: c :: p => .one (· == c) :: parse p
  | c :: p => .one (· == c) :: parse p

/-- The bytes of a set up to here are those that satisfy `q`. -/
def parseSet (negated : Bool) (q : UInt8 → Bool) : List UInt8 → List Item
  | [] => [.one fun b => q b != negated]
  | 92 :: c :: p => parseSet negated (fun b => q b || b == c) p
  | 93 :: p => .one (fun b => q b != negated) :: parse p
  | lo :: 45 :: hi :: p =>
    parseSet negated (fun b => q b || (min lo hi ≤ b && b ≤ max lo hi)) p
  | c :: p => parseSet negated (fun b => q b || b == c) p

end

def fits : List Item → List UInt8 → Bool
  | [], t => t.isEmpty
  | .any :: p, t => t.tails.any (fits p)
  | .one q :: p, t => t.head?.any q && fits p t.tail

/-- No byte of the text means anything but itself. -/
def Plain (t : List UInt8) : Prop := ∀ b ∈ t, b ∉ [42, 63, 91, 92]

theorem parse_plain {t : List UInt8} (h : Plain t) (p : List UInt8) :
    parse (t ++ p) = t.map (fun c => .one (· == c)) ++ parse p := by
  induction t with
  | nil => rfl
  | cons c t ih =>
    have hc := h c mem_cons_self
    simp only [mem_cons, not_or] at hc
    rw [cons_append, parse, ih fun b hb => h b (mem_cons_of_mem _ hb)]
    all_goals simp_all

/-- A plain text with a star behind it fits what begins with the text. -/
theorem fits_plain {p : List UInt8} (h : Plain p) (t : List UInt8) :
    fits (parse (p ++ [42])) t = true ↔ p <+: t := by
  rw [parse_plain h]
  induction p generalizing t with
  | nil =>
    refine iff_of_true ?_ nil_prefix
    rw [map_nil, nil_append, parse, parse, fits, any_eq_true]
    exact ⟨[], by simp, rfl⟩
  | cons c p ih =>
    rw [map_cons, cons_append, fits, Bool.and_eq_true, ih fun b hb => h b (mem_cons_of_mem _ hb)]
    cases t with
    | nil => simp
    | cons b t =>
      rw [cons_prefix_cons, eq_comm (a := c)]
      simp

end Glob
