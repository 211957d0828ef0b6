import Mathlib.Logic.Function.Basic

/-!
# JSON values and paths of keys

A write puts the objects on its path in place where they are missing, and a scalar gives way to an
object; an array has no keys.
-/

namespace JsonTree

open Function List Option

variable {α : Type}

inductive Json (α : Type) where
  | scalar (value : α)
  | array (items : List (Json α))
  | object (fields : String → Option (Json α))

abbrev Path := List String

/-- The fields that a write finds. -/
def Json.fields? : Json α → Option (String → Option (Json α))
  | .object fields => some fields
  | .scalar _ => some fun _ => none
  | .array _ => none

/-- The fields that a read finds. -/
def Json.field (doc : Json α) (key : String) : Option (Json α) :=
  match doc with
  | .object fields => fields key
  | _ => none

def get : Path → Json α → Option (Json α)
  | [], doc => some doc
  | key :: path, doc => (doc.field key).bind (get path)

def set : Path → Json α → Json α → Option (Json α)
  | [], value, _ => some value
  | key :: path, value, doc =>
    doc.fields?.bind fun fields =>
      (set path value ((fields key).getD (.object fun _ => none))).map fun child =>
        .object (update fields key (some child))

/-- Nothing changes if the path is not there. -/
def delete : Path → Json α → Json α
  | key :: path, .object fields =>
    .object (update fields key (if path = [] then none else (fields key).map (delete path)))
  | _, doc => doc

mutual

/-- The same value with other scalars. -/
def Json.map (f : α → α) : Json α → Json α
  | .scalar value => .scalar (f value)
  | .array items => .array (mapItems f items)
  | .object fields => .object fun key => mapField f (fields key)

def mapItems (f : α → α) : List (Json α) → List (Json α)
  | [] => []
  | item :: items => item.map f :: mapItems f items

def mapField (f : α → α) : Option (Json α) → Option (Json α)
  | none => none
  | some doc => some (doc.map f)

end

variable {doc doc' value : Json α} {p q : Path}

theorem mapField_eq (f : α → α) (field : Option (Json α)) :
    mapField f field = field.map (Json.map f) := by
  cases field <;> rw [mapField] <;> rfl

theorem get_map (f : α → α) (p : Path) (doc : Json α) :
    get p (doc.map f) = (get p doc).map (Json.map f) := by
  induction p generalizing doc with
  | nil => rfl
  | cons key p ih =>
    have hfield : (doc.map f).field key = (doc.field key).map (Json.map f) := by
      cases doc with
      | object fields => rw [Json.map, Json.field, Json.field, mapField_eq]
      | _ => rw [Json.map]; rfl
    rw [get, get, hfield, bind_map, map_bind]
    exact congrArg _ (funext ih)

theorem get_append (p q : Path) (doc : Json α) : get (p ++ q) doc = (get p doc).bind (get q) := by
  induction p generalizing doc with
  | nil => rfl
  | cons _ p ih =>
    rw [cons_append, get, get, bind_assoc]
    exact congrArg _ (funext ih)

/-- A write that went through. -/
theorem set_cons {key : String} (h : set (key :: p) value doc = some doc') : ∃ fields child,
    doc.fields? = some fields ∧ set p value ((fields key).getD (.object fun _ => none)) = some child ∧
      doc' = .object (update fields key (some child)) := by
  obtain ⟨fields, hfields, h⟩ := bind_eq_some_iff.mp h
  obtain ⟨child, hchild, rfl⟩ := map_eq_some_iff.mp h
  exact ⟨fields, child, hfields, hchild, rfl⟩

theorem get_set (h : set p value doc = some doc') : get p doc' = some value := by
  induction p generalizing doc doc' with
  | nil => exact congrArg some (some.inj h).symm
  | cons _ p ih =>
    obtain ⟨fields, child, -, hchild, rfl⟩ := set_cons h
    simp [get, Json.field, ih hchild]

/-- A write leaves what is not on its path. -/
theorem get_set_other (h : set p value doc = some doc') (hpq : ¬ p <+: q) (hqp : ¬ q <+: p) :
    get q doc' = get q doc := by
  induction p generalizing doc doc' q with
  | nil => exact absurd nil_prefix hpq
  | cons key p ih =>
    obtain ⟨fields, child, hfields, hchild, rfl⟩ := set_cons h
    have hfield : doc.field = fields := by cases doc <;> cases hfields <;> rfl
    cases q with
    | nil => exact absurd nil_prefix hqp
    | cons key' q =>
      rw [get, get, hfield, Json.field]
      by_cases hkey : key' = key
      · subst hkey
        rw [cons_prefix_cons, not_and] at hpq hqp
        rw [update_self, bind_some, ih hchild (hpq rfl) (hqp rfl)]
        cases fields key' with
        | some => rfl
        | none =>
          cases q with
          | nil => exact absurd nil_prefix (hqp rfl)
          | cons => rfl
      · rw [update_of_ne hkey]

/-- A deletion is one in every value on the way to it. -/
theorem get_delete_append (hq : q ≠ []) (p : Path) (doc : Json α) :
    get p (delete (p ++ q) doc) = (get p doc).map (delete q) := by
  induction p generalizing doc with
  | nil => rfl
  | cons key p ih =>
    cases doc with
    | object fields =>
      rw [cons_append, delete, if_neg (by simp [hq]), get, get, Json.field, update_self, Json.field]
      cases fields key with
      | none => rfl
      | some child => exact ih child
    | _ => rfl

theorem get_delete (hp : p ≠ []) (doc : Json α) : get p (delete p doc) = none := by
  obtain ⟨path, -, rfl⟩ := eq_nil_or_concat p |>.resolve_left hp
  rw [concat_eq_append, get_append, get_delete_append (cons_ne_nil _ _)]
  cases get path doc with
  | none => rfl
  | some child => cases child <;> simp [get, delete, Json.field]

/-- A deletion leaves what is not on its path. -/
theorem get_delete_other (hpq : ¬ p <+: q) (hqp : ¬ q <+: p) (doc : Json α) :
    get q (delete p doc) = get q doc := by
  induction p generalizing doc q with
  | nil => exact absurd nil_prefix hpq
  | cons key p ih =>
    cases doc with
    | object fields =>
      cases q with
      | nil => exact absurd nil_prefix hqp
      | cons key' =>
        rw [delete, get, get, Json.field, Json.field]
        by_cases hkey : key' = key
        · subst hkey
          rw [cons_prefix_cons, not_and] at hpq hqp
          rw [update_self, if_neg]
          · cases fields key' with
            | none => rfl
            | some child => exact ih (hpq rfl) (hqp rfl) child
          · rintro rfl
            exact hpq rfl nil_prefix
        · rw [update_of_ne hkey]
    | _ => rfl

theorem delete_of_get_none (h : get p doc = none) : delete p doc = doc := by
  induction p generalizing doc with
  | nil => rfl
  | cons key p ih =>
    cases doc with
    | object fields =>
      rw [delete]
      congr 1
      rw [update_eq_self_iff]
      rw [get, Json.field] at h
      cases hfield : fields key with
      | none => simp
      | some =>
        rw [hfield] at h
        rw [if_neg, map_some, ih h]
        rintro rfl
        cases h
    | _ => rfl

end JsonTree
