import ApiGateway.Lib.JsonTree

/-!
# Operations on the request body

An administrator may have fields of the body moved before it is sent to a channel. A move is a
write and then a deletion, on the body that the write has left.
-/

namespace ApiGateway

open JsonTree

variable {α : Type}

inductive MoveErr where
  | sourcePathMissing
  | notSettable
deriving DecidableEq

/-- On paths of object keys. The empty path selects nothing. `toValue` is what `Value()` makes of
the scalars in the source value: a number becomes a `float64`. -/
def moveValue (toValue : α → α) (body : Json α) (fromPath toPath : Path) :
    Except MoveErr (Json α) :=
  match if fromPath = [] then none else get fromPath body with
  | none => .error .sourcePathMissing
  | some sourceValue =>
    match if toPath = [] then none else set toPath (sourceValue.map toValue) body with
    | none => .error .notSettable
    | some result => .ok (delete fromPath result)

/-- The `float64` nearest to a whole number, the even one of two. -/
def float64 (n : Nat) : Nat :=
  let ulp := 1 <<< (n.log2 - 52)
  let up := ulp < 2 * (n % ulp) ∨ ulp = 2 * (n % ulp) ∧ n / ulp % 2 = 1
  (n / ulp + if up then 1 else 0) * ulp

end ApiGateway
