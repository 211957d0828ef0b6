import ApiGateway.Lib.Threads
import ApiGateway.Service.Wallet

/-!
# Redemption codes and check-ins

Both give a user quota, and both write it to `users.quota` alone.

`redeem` is the transaction of a redemption run on its own. `redeemStep` is the same transaction one
statement at a time, for any number of calls at once. The code is read without a lock (the query
option that asks for one is ignored by the library); a row that was written stays locked, and hidden
from the others, until the transaction of the write is over.
-/

namespace ApiGateway

open Table Threads

/-! ## Redeeming a code -/

def errRedeemFailed : Err := .message "redeem.failed"

/-- The row of a code that was not deleted. -/
def Store.redemptionByKey (s : Store) (key : String) : Option (Nat × Redemption) :=
  lookup (fun r => r.key == key && !r.deleted) s.redemptions

/-- `tx.Save(redemption)` -/
@[simps]
def Store.saveRedemption (s : Store) (id : Nat) (r : Redemption) : Store :=
  { s with redemptions := s.redemptions.modify id fun _ => r }

/-- What is checked before the transaction. -/
def checkRedeemArguments (key : String) (u : Nat) : Except Err Unit := do
  failIf (key = "") (.message "未提供兑换码")
  failIf (u = 0) (.message "无效的 user id")

/-- The first statement of the transaction, and the checks of what it read. -/
def readRedemptionTx (key : String) (now : Int) (s : Store) : Except Err (Nat × Redemption) := do
  let (id, redemption) ← orFail (s.redemptionByKey key) (.message "无效的兑换码")
  failIf (redemption.status ≠ .enabled) (.message "该兑换码已被使用")
  failIf (redemption.expiredTime ≠ 0 ∧ redemption.expiredTime < now) (.message "该兑换码已过期")
  return (id, redemption)

def Redemption.redeemedBy (r : Redemption) (u : Nat) (now : Int) : Redemption :=
  { r with redeemedTime := now, status := .used, usedUserId := u }

/-- The quota that was added, and the store. Whatever fails in the transaction, the caller
is told the same. -/
def redeem (key : String) (u : Nat) (now : Int) (s : Store) : Except Err (Int × Store) := do
  checkRedeemArguments key u
  let (id, redemption) ← (readRedemptionTx key now s).mapError fun _ => errRedeemFailed
  let s := s.addQuota u redemption.quota none
  return (redemption.quota, s.saveRedemption id (redemption.redeemedBy u now))

/-! ## Statement by statement -/

structure RedeemCall where
  key : String
  userId : Nat

/-- How far a call has come. -/
inductive RedeemThread where
  | called (c : RedeemCall)
  /-- The row was read and passed the checks. -/
  | read (c : RedeemCall) (id : Nat) (r : Redemption)
  /-- The quota of the user was written. -/
  | credited (c : RedeemCall) (id : Nat) (r : Redemption)
  /-- The row of the code was written too. -/
  | saved (c : RedeemCall) (id : Nat) (r : Redemption) (redeemedTime : Int)
  | returned (c : RedeemCall) (result : Except Err Int)

/-- The clock, and whether the statement or the commit fails. -/
structure RedeemInput where
  now : Int
  fails : Bool := false

/-- Quota that a code added to a user. -/
structure RedeemPayment where
  key : String
  userId : Nat
  quota : Int

/-- The database, with a log of what the codes paid. -/
structure RedeemShared where
  store : Store
  payments : List RedeemPayment := []

/-- The transaction commits. -/
@[simps]
def RedeemShared.commit (d : RedeemShared) (c : RedeemCall) (id : Nat) (r : Redemption)
    (redeemedTime : Int) : RedeemShared where
  store := (d.store.addQuota c.userId r.quota none).saveRedemption id
    (r.redeemedBy c.userId redeemedTime)
  payments := d.payments ++ [{ key := c.key, userId := c.userId, quota := r.quota }]

def redeemStep (x : RedeemInput) (t : RedeemThread) (d : RedeemShared) :
    Option (RedeemThread × RedeemShared) :=
  match t with
  | .called c =>
    match checkRedeemArguments c.key c.userId with
    | .error e => some (.returned c (.error e), d)
    | .ok _ =>
      match readRedemptionTx c.key x.now d.store with
      | .error _ => some (.returned c (.error errRedeemFailed), d)
      | .ok (id, r) =>
        if x.fails then some (.returned c (.error errRedeemFailed), d)
        else some (.read c id r, d)
  | .read c id r =>
    if x.fails then some (.returned c (.error errRedeemFailed), d)
    else some (.credited c id r, d)
  | .credited c id r =>
    if x.fails then some (.returned c (.error errRedeemFailed), d)
    else some (.saved c id r x.now, d)
  | .saved c id r redeemedTime =>
    if x.fails then some (.returned c (.error errRedeemFailed), d)
    else some (.returned c (.ok r.quota), d.commit c id r redeemedTime)
  | .returned .. => none

namespace RedeemThread

def Starts (t : RedeemThread) : Prop := ∃ c, t = .called c

/-- The row a call has read, from then on until it returns. -/
def opened : RedeemThread → Option (String × Nat × Redemption)
  | .read c id r => some (c.key, id, r)
  | .credited c id r => some (c.key, id, r)
  | .saved c id r _ => some (c.key, id, r)
  | _ => none

def openKey (t : RedeemThread) : Option String := t.opened.map Prod.fst

/-- The code a call is about to read. -/
def readsKey : RedeemThread → Option String
  | .called c => some c.key
  | _ => none

/-- The code of a call that reported success. -/
def paidKey : RedeemThread → Option String
  | .returned c (.ok _) => some c.key
  | _ => none

/-! Row locks: of the user, and of the code. -/

def asksUser : RedeemThread → Option Nat
  | .read c _ _ => some c.userId
  | _ => none

def locksUser : RedeemThread → Option Nat
  | .credited c _ _ => some c.userId
  | .saved c _ _ _ => some c.userId
  | _ => none

def asksCode : RedeemThread → Option Nat
  | .credited _ id _ => some id
  | _ => none

def locksCode : RedeemThread → Option Nat
  | .saved _ id _ _ => some id
  | _ => none

end RedeemThread

/-- An update waits for the transaction that wrote the row before, unless it gives up. -/
def redeemRowLocks (w : World RedeemShared RedeemThread) (i : Nat) (x : RedeemInput) : Bool :=
  x.fails || (waits RedeemThread.asksUser RedeemThread.locksUser w i &&
    waits RedeemThread.asksCode RedeemThread.locksCode w i)

/-- Besides, a code is read only when no other call that has read it is still open: what
a lock taken by the read would do. -/
def redeemOneReader (w : World RedeemShared RedeemThread) (i : Nat) (x : RedeemInput) : Bool :=
  redeemRowLocks w i x && waits RedeemThread.readsKey RedeemThread.openKey w i

/-! ## Check-ins -/

structure CheckinSetting where
  enabled : Bool := false
  minQuota : Int := 1000
  maxQuota : Int := 10000

/-- The date is that of the server, and `draw` is what `rand.Intn` gives for a number of
values. -/
structure CheckinInput where
  now : Int
  today : String
  draw : Nat → Nat
  draw_lt : ∀ n, 0 < n → draw n < n

def Store.hasCheckedInToday (s : Store) (u : Nat) (today : String) : Bool :=
  s.checkins.any fun c => c.userId == u && c.checkinDate == today

def CheckinSetting.quotaAwarded (setting : CheckinSetting) (x : CheckinInput) : Int :=
  if setting.minQuota < setting.maxQuota then
    setting.minQuota + x.draw (setting.maxQuota - setting.minQuota + 1).toNat
  else setting.minQuota

/-- With `usingSQLite` the two writes are not one transaction; the second refuses a negative quota,
and the check-in is deleted again. -/
def userCheckin (setting : CheckinSetting) (usingSQLite : Bool) (u : Nat) (x : CheckinInput)
    (s : Store) : Except Err (Checkin × Store) := do
  failIf (¬ setting.enabled) (.message "签到功能未启用")
  failIf (s.hasCheckedInToday u x.today) (.message "今日已签到")
  let quotaAwarded := setting.quotaAwarded x
  let checkin : Checkin :=
    { userId := u, checkinDate := x.today, quotaAwarded := quotaAwarded, createdAt := x.now }
  failIf (usingSQLite ∧ quotaAwarded < 0) (.message "签到失败：更新额度出错")
  return (checkin, { s with checkins := s.checkins ++ [checkin] }.addQuota u quotaAwarded none)

end ApiGateway
