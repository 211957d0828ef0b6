import ApiGateway.Lib.Threads
import Mathlib.Data.List.AList

/-!
# Batched updates

With batch updates on, a change of a counter is first recorded in a map of its type. Now and then
the maps are swapped out, each under its lock, and their entries written to the database one by one.
-/

namespace ApiGateway

open Threads Function

inductive BatchUpdateType where
  | userQuota | tokenQuota | usedQuota | channelUsedQuota | requestCount
deriving DecidableEq

def BatchUpdateType.all : List BatchUpdateType :=
  [.userQuota, .tokenQuota, .usedQuota, .channelUsedQuota, .requestCount]

/-- The value recorded for each id. -/
abbrev BatchStore := AList fun _ : Nat => Int

/-- `batchUpdateStores`, and for each type and id the sums of the values recorded, of those applied
to the database, and of those whose update failed. -/
structure BatchState where
  stores : BatchUpdateType → BatchStore := fun _ => ∅
  recorded : BatchUpdateType × Nat → Int := 0
  applied : BatchUpdateType × Nat → Int := 0
  failed : BatchUpdateType × Nat → Int := 0

/-- Where a call stands; `types` are the types a run of `batchUpdate` still has to see. -/
inductive BatchThread where
  | addNewRecord (type : BatchUpdateType) (id : Nat) (value : Int)
  | batchUpdate (types : List BatchUpdateType)
  | swap (types : List BatchUpdateType)
  | apply (type : BatchUpdateType) (store : BatchStore) (types : List BatchUpdateType)
  | finished

def BatchThread.Starts : BatchThread → Prop
  | .addNewRecord _ _ _ => True
  | .batchUpdate types => types = BatchUpdateType.all
  | _ => False

/-- The next critical section or database update of a call. The environment says which entry comes
next, and whether its update succeeds. -/
def batchStep (x : Nat × Bool) (thread : BatchThread) (s : BatchState) :
    Option (BatchThread × BatchState) :=
  match thread with
  | .addNewRecord type id value =>
    let store := s.stores type
    let sum := match store.lookup id with
      | none => value
      | some old => old + value
    some (.finished, { s with
      stores := update s.stores type (store.insert id sum)
      recorded := s.recorded + Pi.single (type, id) value })
  | .batchUpdate [] => some (.finished, s)
  | .batchUpdate (type :: types) =>
    some (if (s.stores type).keys = [] then .batchUpdate types else .swap BatchUpdateType.all, s)
  | .swap [] => some (.finished, s)
  | .swap (type :: types) =>
    some (.apply type (s.stores type) types, { s with stores := update s.stores type ∅ })
  | .apply type store types =>
    if store.keys = [] then some (.swap types, s)
    else
      match store.lookup x.1 with
      | none => none
      | some value =>
        let rest := BatchThread.apply type (store.erase x.1) types
        if x.2 then some (rest, { s with applied := s.applied + Pi.single (type, x.1) value })
        -- the error is logged, and the entry is in no map any more
        else some (rest, { s with failed := s.failed + Pi.single (type, x.1) value })
  | .finished => none

end ApiGateway
