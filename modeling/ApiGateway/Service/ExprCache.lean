import ApiGateway.Lib.Threads
import Mathlib.Data.List.AList

/-!
# The cache of compiled expressions

A billing expression is compiled once and kept with the identifiers it uses. Every access to
the cache holds a lock, but a call takes it several times, and in between another call may
start the cache anew.
-/

namespace ApiGateway

open Threads

/-- What compiling an expression says about its identifiers. -/
structure ExprCompiler where
  compile : String → Option (List String)
  compile_empty : compile "" = none

/-- Entries by their expression, which stands for its hash. -/
abbrev ExprCache := AList fun _ : String => List String

def maxCacheSize : Nat := 256

/-- Where a call stands; `again` says that it was made by `UsedVars`, which looks once more. -/
inductive ExprThread where
  | usedVars (exprStr : String)
  | compile (exprStr : String) (again : Bool)
  | store (exprStr : String) (vars : List String) (again : Bool)
  | lookAgain (exprStr : String)
  | returned (exprStr : String) (vars : List String)
  | invalidateCache
  | done
deriving DecidableEq

def ExprThread.Starts : ExprThread → Prop
  | .usedVars _ | .compile _ false | .invalidateCache => True
  | _ => False

/-- The next access of a call, up to where it needs the lock again. -/
def exprStep (C : ExprCompiler) (_ : Unit) (thread : ExprThread) (cache : ExprCache) :
    Option (ExprThread × ExprCache) :=
  match thread with
  | .usedVars exprStr =>
    if exprStr = "" then some (.returned exprStr [], cache)
    else
      match cache.lookup exprStr with
      | some vars => some (.returned exprStr vars, cache)
      | none => some (.compile exprStr true, cache)
  | .compile exprStr again =>
    match cache.lookup exprStr, C.compile exprStr with
    | some _, _ => some (if again then .lookAgain exprStr else .done, cache)
    | none, some vars => some (.store exprStr vars again, cache)
    | none, none => some (if again then .returned exprStr [] else .done, cache)
  | .store exprStr vars again =>
    let kept := if maxCacheSize ≤ cache.keys.length then ∅ else cache
    some (if again then .lookAgain exprStr else .done, kept.insert exprStr vars)
  | .lookAgain exprStr => some (.returned exprStr ((cache.lookup exprStr).getD []), cache)
  | .invalidateCache => some (.done, ∅)
  | .returned _ _ | .done => none

/-- Whether the next access drops entries. -/
def ExprThread.clears (cache : ExprCache) : ExprThread → Bool
  | .store _ _ _ => maxCacheSize ≤ cache.keys.length
  | .invalidateCache => true
  | _ => false

def ExprThread.looksAgain : ExprThread → Bool
  | .lookAgain _ => true
  | _ => false

/-- Entries are dropped only while no call is about to look again. -/
def dropsUnread (w : World ExprCache ExprThread) (i : Nat) (_ : Unit) : Bool :=
  !(w.threads[i]?.any (·.clears w.shared) && w.threads.any (·.looksAgain))

end ApiGateway
