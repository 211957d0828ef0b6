import Mathlib.Data.List.DropRight
import Mathlib.Data.Rat.Floor

/-!
# Exact decimals and trimmed text

Amounts are exact rationals. Here are the roundings of a decimal library, its parser, and the
helpers that decide whether a parameter is blank.
-/

namespace Decimal

open List

/-! ## Rounding -/

/-- Truncate towards zero. -/
def intPart (q : ℚ) : ℤ := if 0 ≤ q then ⌊q⌋ else ⌈q⌉

/-- Round to the nearest integer, halves away from zero. -/
def round0 (q : ℚ) : ℤ := if 0 ≤ q then ⌊q + 1 / 2⌋ else ⌈q - 1 / 2⌉

/-- What 64 bits hold of an integer. -/
def int64 (n : ℤ) : ℤ := n.bmod (2 ^ 64)

theorem int64_eq_iff {n m : ℤ} (hlo : -2 ^ 63 ≤ m) (hhi : m < 2 ^ 63) :
    int64 n = m ↔ 2 ^ 64 ∣ n - m := by
  have hm : m.bmod (2 ^ 64) = m := Int.bmod_eq_of_le (by omega) (by omega)
  calc
    int64 n = m ↔ n.bmod (2 ^ 64) = m.bmod (2 ^ 64) := by rw [hm, int64]
    _ ↔ ((2 ^ 64 : ℕ) : ℤ) ∣ n - m := by
      rw [Int.bmod_eq_bmod_iff_bmod_sub_eq_zero, Int.dvd_iff_bmod_eq_zero]

/-! ## Text -/

variable (s : String)

/-- The white space of Unicode. -/
def isSpace (c : Char) : Bool :=
  (9 ≤ c.toNat && c.toNat ≤ 13) || (0x2000 ≤ c.toNat && c.toNat ≤ 0x200a) ||
    [32, 0x85, 0xa0, 0x1680, 0x2028, 0x2029, 0x202f, 0x205f, 0x3000].contains c.toNat

def trimChars (t : List Char) : List Char := (t.dropWhile isSpace).rdropWhile isSpace

/-- Drop leading and trailing white space. -/
def trimSpace : String := String.ofList (trimChars s.toList)

/-- Nothing but white space. -/
def isBlank : Bool := s.toList.all isSpace

/-- Cutting off the end does not uncover anything at the front. -/
theorem dropWhile_rdropWhile {α : Type} (p : α → Bool) (l : List α) :
    ((l.dropWhile p).rdropWhile p).dropWhile p = (l.dropWhile p).rdropWhile p := by
  rw [dropWhile_eq_self_iff]
  intro hl
  have hpre := rdropWhile_prefix p (l.dropWhile p)
  have hhead := dropWhile_get_zero_not p l (Nat.lt_of_lt_of_le hl hpre.length_le)
  rw [hpre.getElem hl]
  exact hhead

theorem trimChars_of_not {t : List Char} (h : ∀ c ∈ t, isSpace c = false) : trimChars t = t := by
  have h' : ∀ c ∈ t, ¬ isSpace c = true := by simpa using h
  rw [trimChars, dropWhile_eq_self_iff.mpr, rdropWhile_eq_self_iff]
  · exact fun hne => h' _ (getLast_mem hne)
  · exact fun hpos => h' _ (getElem_mem hpos)

theorem trimChars_trimChars (t : List Char) : trimChars (trimChars t) = trimChars t := by
  unfold trimChars
  rw [dropWhile_rdropWhile, rdropWhile_idempotent]

@[simp] theorem trimSpace_trimSpace : trimSpace (trimSpace s) = trimSpace s := by
  simp only [trimSpace, String.toList_ofList, trimChars_trimChars]

theorem isBlank_iff {s : String} : isBlank s = true ↔ trimSpace s = "" := by
  rw [isBlank, all_eq_true, trimSpace, String.ofList_eq_empty_iff, trimChars, rdropWhile_eq_nil_iff]
  constructor
  · intro h x hx
    exact h x (dropWhile_suffix _ |>.mem hx)
  intro h
  have hnil : s.toList.dropWhile isSpace = [] := by
    by_contra hne
    have hpos := length_pos_iff.mpr hne
    exact dropWhile_get_zero_not _ _ hpos (h _ (get_mem _ _))
  exact dropWhile_eq_nil_iff.mp hnil

@[simp] theorem isBlank_trimSpace : isBlank (trimSpace s) = isBlank s := by
  rw [Bool.eq_iff_iff, isBlank_iff, isBlank_iff, trimSpace_trimSpace]

/-- The first argument that is not blank, trimmed. -/
def firstNonEmpty : List String → String
  | [] => ""
  | s :: ss => if isBlank s then firstNonEmpty ss else trimSpace s

/-- Whether `m` occurs in the text. -/
def occursIn (m : List Char) : List Char → Bool
  | [] => m.isEmpty
  | c :: cs => m.isPrefixOf (c :: cs) || occursIn m cs

/-- Hundredths printed with two digits behind the point. -/
def fixed2OfCents (c : ℤ) : String :=
  let n := c.natAbs
  let sign := if c < 0 then "-" else ""
  let pad := if n % 100 < 10 then "0" else ""
  sign ++ toString (n / 100) ++ "." ++ pad ++ toString (n % 100)

/-- A rational printed with two digits behind the point. -/
def fixed2 (q : ℚ) : String := fixed2OfCents (round0 (q * 100))

/-! ## Parsing

The scan follows the usual library: an exponent behind `e` or `E`, at most one
point, and the remaining characters an optionally signed run of digits. -/

/-- A non-empty run of digits. -/
def parseDigits : List Char → Option ℕ
  | [] => none
  | cs => cs.foldl (fun acc c =>
    acc.bind fun n => if c.isDigit then some (10 * n + (c.toNat - '0'.toNat)) else none) (some 0)

/-- An optionally signed run of digits. -/
def parseInt : List Char → Option ℤ
  | '-' :: cs => (parseDigits cs).map fun n => -(n : ℤ)
  | '+' :: cs => (parseDigits cs).map fun n => (n : ℤ)
  | cs => (parseDigits cs).map fun n => (n : ℤ)

/-- Split at the first character satisfying `p`, dropping it. -/
def splitAtFirst (p : Char → Bool) (cs : List Char) : List Char × Option (List Char) :=
  match cs.span fun c => !p c with
  | (pre, []) => (pre, none)
  | (pre, _ :: post) => (pre, some post)

/-- Mantissa without exponent: the point only moves the scale. -/
def parseMantissa (cs : List Char) : Option ℚ :=
  match splitAtFirst (· == '.') cs with
  | (digits, none) => (parseInt digits).map fun n => (n : ℚ)
  | (pre, some post) =>
    if post.contains '.' then none
    else (parseInt (pre ++ post)).map fun n => (n : ℚ) / 10 ^ post.length

/-- Parse a decimal literal. -/
def ofString : Option ℚ :=
  match splitAtFirst (fun c => c == 'e' || c == 'E') s.toList with
  | (m, none) => parseMantissa m
  | (m, some e) =>
    (parseInt e).bind fun n => (parseMantissa m).map fun q => q * (10 : ℚ) ^ n

example : ofString "-12.50" = some (-25 / 2) := by decide +kernel

/-! ## Printing and parsing -/

variable {cs : List Char} {p : Char → Bool}

theorem splitAtFirst_of_not (h : ∀ c ∈ cs, p c = false) :
    splitAtFirst p cs = (cs, none) := by
  have hall : ∀ c ∈ cs, (!p c) = true := by simpa using h
  rw [splitAtFirst, span_eq_takeWhile_dropWhile, takeWhile_eq_self_iff.mpr hall,
    dropWhile_eq_nil_iff.mpr hall]

theorem splitAtFirst_append {c : Char} {cs ds : List Char} (h : ∀ c ∈ cs, p c = false)
    (hc : p c = true) :
    splitAtFirst p (cs ++ c :: ds) = (cs, some ds) := by
  have hall : ∀ c ∈ cs, (!p c) = true := by simpa using h
  rw [splitAtFirst, span_eq_takeWhile_dropWhile, takeWhile_append_of_pos hall,
    dropWhile_append_of_pos hall]
  simp [hc]

theorem parseDigits_of_isDigit (hne : cs ≠ []) (h : ∀ c ∈ cs, c.isDigit = true) :
    parseDigits cs = some (Nat.ofDigitChars 10 cs 0) := by
  have hfold : ∀ cs n, (∀ c ∈ cs, c.isDigit = true) →
      cs.foldl (fun acc c => acc.bind fun n =>
        if c.isDigit then some (10 * n + (c.toNat - '0'.toNat)) else none) (some n) =
      some (Nat.ofDigitChars 10 cs n) := by
    intro cs
    induction cs with
    | nil => intro n _; rfl
    | cons c _ ih =>
      intro n h
      rw [foldl_cons, Option.bind_some, if_pos (h c (by simp))]
      exact ih _ fun d hd => h d (by simp [hd])
  cases cs with
  | nil => exact absurd rfl hne
  | cons c cs => exact hfold (c :: cs) 0 h

theorem parseInt_of_isDigit (hne : cs ≠ []) (h : ∀ c ∈ cs, c.isDigit = true) :
    parseInt cs = some (Nat.ofDigitChars 10 cs 0 : ℤ) := by
  unfold parseInt
  split
  · exact absurd (h '-' (by simp)) (by decide)
  · exact absurd (h '+' (by simp)) (by decide)
  · rw [parseDigits_of_isDigit hne h]
    rfl

theorem ne_of_isDigit {c d : Char} (h : c.isDigit = true) (hd : d.isDigit = false) : c ≠ d := by
  rintro rfl
  exact absurd (h.symm.trans hd) (by decide)

theorem parseMantissa_of_isDigit {pre post : List Char} (hne : pre ≠ [])
    (h : ∀ c ∈ pre ++ post, c.isDigit = true) :
    parseMantissa (pre ++ '.' :: post) =
      some (((Nat.ofDigitChars 10 (pre ++ post) 0 : ℤ) : ℚ) / 10 ^ post.length) := by
  have hdot : ∀ c ∈ pre ++ post, (c == '.') = false := fun c hc =>
    beq_false_of_ne (ne_of_isDigit (h c hc) (by decide))
  unfold parseMantissa
  rw [splitAtFirst_append (fun c hc => hdot c (by simp [hc])) rfl]
  dsimp only
  rw [if_neg, parseInt_of_isDigit (by simp [hne]) h]
  · rfl
  · rw [contains_iff_mem]
    intro hmem
    exact absurd (hdot '.' (by simp [hmem])) (by decide)

/-- Printed hundredths: a run of digits, the point, and two more digits. -/
theorem fixed2OfCents_digits (n : ℕ) : ∃ pre post : List Char,
    (fixed2OfCents n).toList = pre ++ '.' :: post ∧ pre ≠ [] ∧ post.length = 2 ∧
      (∀ c ∈ pre ++ post, c.isDigit = true) ∧ Nat.ofDigitChars 10 (pre ++ post) 0 = n := by
  have htwo : ∀ m < 100, let post := (if m < 10 then ['0'] else []) ++ Nat.toDigits 10 m
      post.length = 2 ∧ post.all Char.isDigit = true ∧ Nat.ofDigitChars 10 post 0 = m := by
    decide +kernel
  obtain ⟨hlen, hpost, hval⟩ := htwo (n % 100) (Nat.mod_lt _ (by decide))
  refine ⟨Nat.toDigits 10 (n / 100), _, ?_, Nat.toDigits_ne_nil, hlen, fun c hc => ?_, ?_⟩
  · by_cases hlt : n % 100 < 10 <;> simp [fixed2OfCents, hlt]
  · rcases mem_append.mp hc with hc | hc
    · exact Nat.isDigit_of_mem_toDigits (by decide) (by decide) hc
    · exact all_eq_true.mp hpost c hc
  · rw [Nat.ofDigitChars_append, Nat.ofDigitChars_ten_toDigits,
      Nat.ofDigitChars_eq_ofDigitChars_zero, hlen, hval, Nat.div_add_mod]

/-- What was printed with two digits behind the point is read back. -/
theorem ofString_fixed2OfCents {c : ℤ} (h : 0 ≤ c) :
    ofString (fixed2OfCents c) = some ((c : ℚ) / 100) := by
  obtain ⟨n, rfl⟩ := Int.eq_ofNat_of_zero_le h
  obtain ⟨pre, post, htext, hne, hlen, hdigit, hval⟩ := fixed2OfCents_digits n
  unfold ofString
  rw [htext, splitAtFirst_of_not]
  · dsimp only
    rw [parseMantissa_of_isDigit hne hdigit, hlen, hval]
    norm_num
  · intro c hc
    rw [mem_append, mem_cons, or_left_comm, ← mem_append] at hc
    rcases hc with rfl | hc
    · rfl
    · simp [ne_of_isDigit (hdigit c hc)]

theorem isSpace_of_isDigit {c : Char} (h : c.isDigit = true) : isSpace c = false := by
  rw [Char.isDigit, Bool.and_eq_true, decide_eq_true_eq, decide_eq_true_eq] at h
  obtain ⟨h1, h2⟩ := h
  have hlo : 48 ≤ c.toNat := h1
  have hhi : c.toNat ≤ 57 := h2
  simp [isSpace]
  omega

/-- There is no white space in a printed amount. -/
theorem trimSpace_fixed2OfCents {c : ℤ} (h : 0 ≤ c) :
    trimSpace (fixed2OfCents c) = fixed2OfCents c ∧ isBlank (fixed2OfCents c) = false := by
  obtain ⟨n, rfl⟩ := Int.eq_ofNat_of_zero_le h
  obtain ⟨pre, post, htext, -, -, hdigit, -⟩ := fixed2OfCents_digits n
  have hspace : ∀ c ∈ pre ++ '.' :: post, isSpace c = false := by
    intro c hc
    rw [mem_append, mem_cons, or_left_comm, ← mem_append] at hc
    rcases hc with rfl | hc
    · rfl
    · exact isSpace_of_isDigit (hdigit c hc)
  constructor
  · rw [trimSpace, htext, trimChars_of_not hspace, ← htext, String.ofList_toList]
  · rw [isBlank, htext]
    exact all_eq_false.mpr ⟨'.', by simp, by decide⟩

end Decimal
