import ApiGateway.Relay.ParamOverride

/-!
# What a move leaves

The deletion at the end takes away the moved value itself if `toPath` is inside `fromPath`, and
a part of it if the value has something of its own where it has been taken from. The value is
written with `float64` numbers, which may be others than those of the body.
-/

namespace ApiGateway

open JsonTree List

variable {α : Type}

/-- The value is where it was to go, it is no longer where it was, and fields on neither path
are as before. -/
structure Moved (fromPath toPath : Path) (body body' : Json α) : Prop where
  value : get toPath body' = get fromPath body
  gone : ¬ fromPath <+: toPath → get fromPath body' = none
  kept : ∀ path, ¬ fromPath <+: path → ¬ path <+: fromPath → ¬ toPath <+: path →
    ¬ path <+: toPath → get path body' = get path body

theorem moveValue_ok {toValue : α → α} {fromPath toPath : Path} {body body' : Json α}
    (h : moveValue toValue body fromPath toPath = .ok body') : ∃ value result, fromPath ≠ [] ∧
      get fromPath body = some value ∧ set toPath (value.map toValue) body = some result ∧
        body' = delete fromPath result := by
  unfold moveValue at h
  split at h
  · cases h
  rename_i value hvalue
  split at h
  · cases h
  rename_i result hresult
  obtain ⟨hfrom, hvalue⟩ := Option.ite_none_left_eq_some.mp hvalue
  obtain ⟨-, hresult⟩ := Option.ite_none_left_eq_some.mp hresult
  cases h
  exact ⟨value, result, hfrom, hvalue, hresult, rfl⟩

/-- **A move keeps the value** exactly if its numbers are kept, it is not moved into itself, nor to
a path around it that the value has a field of its own below. -/
theorem moved_iff {toValue : α → α} {fromPath toPath : Path} {body body' : Json α}
    (h : moveValue toValue body fromPath toPath = .ok body') : Moved fromPath toPath body body' ↔
      (get fromPath body).map (Json.map toValue) = get fromPath body ∧
      ¬ fromPath <+: toPath ∧ ∀ rest, fromPath = toPath ++ rest →
        (get fromPath body).bind (get rest) = none := by
  obtain ⟨value, result, hfrom, hvalue, hresult, rfl⟩ := moveValue_ok h
  have hgone := get_delete hfrom result
  have hto := get_set hresult
  simp only [hvalue, Option.map_some, Option.some.injEq, Option.bind_some]
  -- what the deletion leaves of the value
  have hleft : ¬ fromPath <+: toPath → (∀ rest, fromPath = toPath ++ rest → get rest value = none) →
      get toPath (delete fromPath result) = some (value.map toValue) := by
    intro hinto haround
    by_cases hpre : toPath <+: fromPath
    · obtain ⟨rest, rfl⟩ := hpre
      have hrest : rest ≠ [] := by
        rintro rfl
        exact hinto ⟨[], by simp⟩
      have hnone : get rest (value.map toValue) = none := by
        rw [get_map, haround rest rfl, Option.map_none]
      rw [get_delete_append hrest, hto, Option.map_some, delete_of_get_none hnone]
    · rw [get_delete_other hinto hpre, hto]
  constructor
  · intro hmoved
    have hkept := hmoved.value.trans hvalue
    have hinto : ¬ fromPath <+: toPath := by
      rintro ⟨rest, rfl⟩
      rw [get_append, hgone] at hkept
      cases hkept
    have haround : ∀ rest, fromPath = toPath ++ rest → get rest value = none := by
      rintro rest rfl
      have hrest : rest ≠ [] := by
        rintro rfl
        exact hinto ⟨[], by simp⟩
      rw [get_delete_append hrest, hto] at hkept
      rw [← Option.some.inj hkept]
      exact get_delete hrest _
    exact ⟨Option.some.inj ((hleft hinto haround).symm.trans hkept), hinto, haround⟩
  · rintro ⟨hnumbers, hinto, haround⟩
    refine ⟨?_, fun _ => hgone, ?_⟩
    · rw [hleft hinto haround, hnumbers, hvalue]
    · intro path hfp hpf htp hpt
      rw [get_delete_other hfp hpf, get_set_other hresult htp hpt]

def oneField (n : Nat) : Json Nat := .object fun key => if key = "a" then some (.scalar n) else none

theorem moved_iff_renamed : ∃ body', moveValue float64 (oneField 1) ["a"] ["b"] = .ok body' ∧
    Moved ["a"] ["b"] (oneField 1) body' := by
  refine ⟨_, rfl, (moved_iff rfl).mpr ⟨rfl, by decide, fun rest h => ?_⟩⟩
  simp at h

/-- A field that is moved to where it is already is lost, and a large number is not the same after
a move. -/
theorem moved_to_itself_lost :
    (∃ body', moveValue float64 (oneField 1) ["a"] ["a"] = .ok body' ∧
      ¬ Moved ["a"] ["a"] (oneField 1) body') ∧
    ∃ body', moveValue float64 (oneField 9007199254740993) ["a"] ["b"] = .ok body' ∧
      get ["b"] body' = some (.scalar 9007199254740992) :=
  ⟨⟨_, rfl, fun h => nomatch h.value⟩, _, rfl, rfl⟩

end ApiGateway
