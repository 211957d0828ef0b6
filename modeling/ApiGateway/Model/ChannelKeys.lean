import Mathlib.Data.List.Rotate

/-!
# The keys of a channel

In polling mode the keys of a channel take turns, and the position where the next call starts is
kept in the record of the channel. A call holds the lock of the channel while it reads and writes
that position, so calls are listed in the order in which they get the lock.
-/

namespace ApiGateway

inductive MultiKeyMode where
  | random | polling | other
deriving DecidableEq

inductive KeyError where
  | noKeysAvailable | noEnabledKeys | getChannelFailed
deriving DecidableEq

/-- What does not change from call to call. -/
structure KeyedChannel where
  key : String
  isMultiKey : Bool
  keys : List String
  multiKeyStatusList : Nat → Option Nat
  multiKeyMode : MultiKeyMode

def channelStatusEnabled : Nat := 1

namespace KeyedChannel

variable (c : KeyedChannel)

def isEnabled (i : Nat) : Bool :=
  (c.multiKeyStatusList i).getD channelStatusEnabled == channelStatusEnabled

def enabledIdx : List Nat := (List.range c.keys.length).filter c.isEnabled

def keyAt (idx : Nat) : String := c.keys.getD idx ""

/-- The saved polling index, if it is one. -/
def start (pollingIndex : Int) : Nat :=
  if pollingIndex < 0 ∨ c.keys.length ≤ pollingIndex then 0 else pollingIndex.toNat

/-- The key, its position, and the polling index that the caller's copy of the channel is left
with. Only a polling call looks up the record of the channel. -/
def getNextEnabledKey (draw : Nat) (lookupFails : Bool) (pollingIndex : Int) :
    Except KeyError (String × Nat × Int) :=
  let len := c.keys.length
  if !c.isMultiKey then .ok (c.key, 0, pollingIndex)
  else if len = 0 then .error .noKeysAvailable
  else
    match c.enabledIdx with
    | [] => .error .noEnabledKeys
    | first :: rest =>
      match c.multiKeyMode with
      | .random =>
        let idx := (first :: rest).getD (draw % (rest.length + 1)) first
        .ok (c.keyAt idx, idx, pollingIndex)
      | .polling =>
        if lookupFails then .error .getChannelFailed
        else match ((List.range len).map fun i =>
          (c.start pollingIndex + i) % len).find? c.isEnabled with
        | some idx => .ok (c.keyAt idx, idx, ((idx + 1) % len : Nat))
        | none => .ok (c.keyAt first, first, pollingIndex)
      | .other => .ok (c.keyAt first, first, pollingIndex)

end KeyedChannel

/-- A call, with the channel as its caller has it. -/
structure KeyCall where
  draw : Nat := 0
  /-- The caller's channel is the record of the cache, and not a copy from the database. -/
  cached : Bool
  /-- The database refuses to save the channel. -/
  saveFails : Bool := false
  /-- The record of the channel is not found, or cannot be read. -/
  lookupFails : Bool := false

/-- The index is written to the record that the next call reads. -/
def KeyCall.writesThrough (memoryCacheEnabled : Bool) (call : KeyCall) : Bool :=
  !call.lookupFails && if memoryCacheEnabled then call.cached else !call.saveFails

/-- What the calls return. -/
def nextKeys (memoryCacheEnabled : Bool) (c : KeyedChannel) :
    Int → List KeyCall → List (Except KeyError (String × Nat))
  | _, [] => []
  | pollingIndex, call :: calls =>
    match c.getNextEnabledKey call.draw call.lookupFails pollingIndex with
    | .error e => .error e :: nextKeys memoryCacheEnabled c pollingIndex calls
    | .ok (key, idx, next) => .ok (key, idx) :: nextKeys memoryCacheEnabled c
        (if call.writesThrough memoryCacheEnabled then next else pollingIndex) calls

end ApiGateway
