import Mathlib.Data.List.MinMax
import ApiGateway.Lib.Threads
import ApiGateway.Lib.Decimal

/-!
# Phone verification codes

A send takes a lock, reads the clock, checks the limits, and replaces the pending codes by a new
one; a verification reads the newest pending code and then counts a wrong guess or uses the code up.
Every statement is a step of its own; the comparison of a guess is part of the write that follows.
-/

namespace ApiGateway

open Threads Decimal

def phoneVerificationSendIntervalSeconds : Nat := 60
def phoneVerificationMaxSends : Nat := 5
def phoneVerificationMaxAttempts : Nat := 5

inductive PhoneVerificationStatus where
  | pending | used | expired
  deriving DecidableEq

inductive PhoneVerificationError where
  | sendTooFrequent | sendTooMany | sendFailed | codeInvalid | codeExpired | tooManyAttempts
  | database
  deriving DecidableEq

structure PhoneVerificationCode where
  code : String
  expiresAt : Nat
  attemptCount : Nat := 0
  status : PhoneVerificationStatus := .pending
  createdAt : Nat
  deriving DecidableEq

/-- The key of the lock in Redis, or the mutex of a process when Redis gives an error. -/
inductive SendLock where
  | redis
  | process (n : Nat)
  deriving DecidableEq

structure LockHolder where
  token : Nat
  /-- The end of the lease. -/
  expires : Option Nat

/-- A code that was accepted, with what was true of it at that moment. -/
structure PhoneAcceptance where
  id : Nat
  at_ : Nat
  row : PhoneVerificationCode
  /-- How many codes had been issued. -/
  issued : Nat

structure PhoneShared where
  codes : List PhoneVerificationCode := []
  now : Nat := 0
  locks : SendLock → Option LockHolder := fun _ => none
  accepted : List PhoneAcceptance := []
  /-- The codes that wrong guesses were compared with. -/
  compared : List Nat := []

namespace PhoneShared

variable (d : PhoneShared)

/-- `created_at DESC, id DESC` -/
def latest (p : PhoneVerificationCode → Bool) : Option (PhoneVerificationCode × Nat) :=
  (d.codes.zipIdx.filter fun r => p r.1).reverse.argmax fun r => r.1.createdAt

def countSince (t : Nat) (window : Nat) : Nat := d.codes.countP fun r => t ≤ r.createdAt + window

def pendingIds : List Nat :=
  (d.codes.zipIdx.filter fun r => r.1.status == .pending).map Prod.snd

/-- An update of codes, by their ids. -/
def update (f : Nat → PhoneVerificationCode → PhoneVerificationCode) : PhoneShared :=
  { d with codes := d.codes.mapIdx f }

def setStatus (ids : List Nat) (status : PhoneVerificationStatus) : PhoneShared :=
  d.update fun i r => if i ∈ ids then { r with status := status } else r

/-- `IncrementPhoneVerificationAttempt` -/
def incrementAttempt (id : Nat) (expire : Bool) : PhoneShared :=
  d.update fun i r =>
    if i = id ∧ r.status = .pending then
      { r with attemptCount := r.attemptCount + 1, status := if expire then .expired else .pending }
    else r

def isLocked (lock : SendLock) : Bool :=
  match d.locks lock with
  | none => false
  | some h => h.expires.all (d.now < ·)

def lock (lock : SendLock) (token : Nat) : PhoneShared :=
  let expires := if lock = .redis then some (d.now + 15) else none
  { d with locks := Function.update d.locks lock (some { token := token, expires := expires }) }

def unlock (lock : SendLock) (token : Nat) : PhoneShared :=
  if (d.locks lock).map LockHolder.token = some token then
    { d with locks := Function.update d.locks lock none }
  else d

end PhoneShared

inductive SendPc where
  | called
  | locked
  | timed (now : Nat)
  /-- The newest code is old enough; `checked` is the time of the check. -/
  | spaced (now checked : Nat)
  | counted (now : Nat)
  | expiring (now : Nat) (ids : List Nat)
  | sending (id : Nat)
  | unlocking (result : Except PhoneVerificationError Unit)
  | returned (result : Except PhoneVerificationError Unit)

structure SendCall where
  code : String
  via : SendLock
  token : Nat

inductive VerifyPc where
  | called
  | read (id : Nat) (row : PhoneVerificationCode) (now : Nat)
  | returned (result : Except PhoneVerificationError Unit)

inductive PhoneThread where
  | clock
  | send (c : SendCall) (pc : SendPc)
  | verify (guess : String) (pc : VerifyPc)

structure PhoneInput where
  /-- The statement, or the provider of the message, gives an error. -/
  fails : Bool := false
  seconds : Nat := 0

variable (valid : Nat)

/-- `SendPhoneVerificationCode` after the checks of its arguments; `valid` is how long a code is
valid. -/
def sendStep (x : PhoneInput) (c : SendCall) (d : PhoneShared) :
    SendPc → Option (SendPc × PhoneShared)
  | .called =>
    if d.isLocked c.via then some (.returned (.error .sendTooFrequent), d)
    else some (.locked, d.lock c.via c.token)
  | .locked => some (.timed d.now, d)
  | .timed now =>
    if x.fails then some (.unlocking (.error .database), d)
    else match d.latest fun _ => true with
      | none => some (.spaced now d.now, d)
      | some (row, _) =>
        if d.now < row.createdAt + phoneVerificationSendIntervalSeconds then
          some (.unlocking (.error .sendTooFrequent), d)
        else some (.spaced now d.now, d)
  | .spaced now checked =>
    if x.fails then some (.unlocking (.error .database), d)
    else if phoneVerificationMaxSends ≤ d.countSince checked valid then
      some (.unlocking (.error .sendTooMany), d)
    else some (.counted now, d)
  | .counted now =>
    if x.fails then some (.unlocking (.error .database), d)
    else some (.expiring now d.pendingIds, d)
  | .expiring now ids =>
    if x.fails then some (.unlocking (.error .database), d)
    else some (.sending d.codes.length, { d.setStatus ids .expired with
      codes := (d.setStatus ids .expired).codes ++
        [{ code := c.code, expiresAt := now + valid, createdAt := now }] })
  | .sending id =>
    if x.fails then some (.unlocking (.error .sendFailed), d.setStatus [id] .expired)
    else some (.unlocking (.ok ()), d)
  | .unlocking result => some (.returned result, d.unlock c.via c.token)
  | .returned _ => none

/-- `ConsumePhoneVerificationCodeWithTx` -/
def verifyStep (x : PhoneInput) (guess : String) (d : PhoneShared) :
    VerifyPc → Option (VerifyPc × PhoneShared)
  | .called =>
    if isBlank guess then some (.returned (.error .codeInvalid), d)
    else match d.latest fun r => r.status == .pending with
      | none => some (.returned (.error .codeInvalid), d)
      | some (row, id) => some (.read id row d.now, d)
  | .read id row now =>
    if row.expiresAt ≤ now then
      some (.returned (.error .codeExpired), if x.fails then d else d.setStatus [id] .expired)
    else if phoneVerificationMaxAttempts ≤ row.attemptCount then
      some (.returned (.error .tooManyAttempts), if x.fails then d else d.setStatus [id] .expired)
    else if trimSpace guess ≠ row.code then
      let d := { d with compared := d.compared ++ [id] }
      if x.fails then some (.returned (.error .database), d)
      else some (.returned (.error .codeInvalid), d.incrementAttempt id
        (phoneVerificationMaxAttempts ≤ row.attemptCount + 1))
    else if x.fails then some (.returned (.error .database), d)
    else match d.codes[id]? with
      | none => some (.returned (.error .codeInvalid), d)
      | some r =>
        if r.status = .pending then
          some (.returned (.ok ()), { d.setStatus [id] .used with
            accepted := d.accepted ++ [⟨id, d.now, r, d.codes.length⟩] })
        else some (.returned (.error .codeInvalid), d)
  | .returned _ => none

def phoneStep (x : PhoneInput) (t : PhoneThread) (d : PhoneShared) :
    Option (PhoneThread × PhoneShared) :=
  match t with
  | .clock => some (.clock, { d with now := d.now + x.seconds })
  | .send c pc => (sendStep valid x c d pc).map fun r => (.send c r.1, r.2)
  | .verify guess pc => (verifyStep x guess d pc).map fun r => (.verify guess r.1, r.2)

/-- The clock, or a call of which nothing has happened yet. -/
def PhoneThread.Starts (t : PhoneThread) : Prop :=
  t = .clock ∨ (∃ c, t = .send c .called) ∨ ∃ guess, t = .verify guess .called

/-- The checks of a send, made at once. -/
def PhoneShared.maySend (d : PhoneShared) : Bool :=
  (d.latest fun _ => true).all (fun r =>
    r.1.createdAt + phoneVerificationSendIntervalSeconds ≤ d.now) &&
    d.countSince d.now valid < phoneVerificationMaxSends

/-- Nothing is written on the strength of something that is no longer so. When a send inserts its
code, its checks would still pass, its time is that of the clock, and it has seen what is pending;
when a verification writes, the code is as it was read, and still in time. -/
def phoneFresh (w : World PhoneShared PhoneThread) (i : Nat) (x : PhoneInput) :
    Bool :=
  match w.threads[i]? with
  | some (.send _ (.expiring now ids)) =>
    w.shared.maySend valid && now == w.shared.now && w.shared.pendingIds.all (· ∈ ids)
  | some (.verify _ (.read id row now)) =>
    w.shared.codes[id]? == some row && row.status == .pending && !x.fails &&
      (row.expiresAt ≤ now || w.shared.now < row.expiresAt)
  | _ => true

end ApiGateway
