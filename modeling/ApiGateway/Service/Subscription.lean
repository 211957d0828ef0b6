import Mathlib.Data.List.MinMax
import Mathlib.Data.Prod.Lex
import ApiGateway.Service.Funding

/-!
# Subscriptions

What a subscription has used starts over at the end of every reset period of its plan, either when a
request is charged to it or when a background job finds it. It ends when its time is over, when an
administrator invalidates it, or when its row is deleted.

A plan may also put its buyer into another group. The row of the subscription remembers the group
the buyer had, and the end of the subscription may give it back.

Plans are read from their table; the cache in front of it is left out.
-/

namespace ApiGateway

open Table Decimal

/-- Arithmetic on Unix times, in the time zone of the server. -/
structure Clock where
  addYears : Int → Int → Int
  addMonths : Int → Int → Int
  nextDay : Int → Int
  /-- The next Monday. -/
  nextWeek : Int → Int
  nextMonth : Int → Int
  addSeconds : Int → Int → Int

/-- `Add` of a number of seconds as a `time.Duration`, which has nanoseconds in 64 bits. -/
def addDuration (t seconds : Int) : Int := t + int64 (seconds * 10 ^ 9) / 10 ^ 9

/-- A clock on which every reset period moves forward. -/
structure Calendar extends Clock where
  lt_nextDay : ∀ t, t < nextDay t
  lt_nextWeek : ∀ t, t < nextWeek t
  lt_nextMonth : ∀ t, t < nextMonth t
  lt_addSeconds : ∀ t seconds, 0 < seconds → t < addSeconds t seconds

/-- A calendar in UTC whose months have thirty days. -/
def thirtyDayMonths : Calendar where
  addYears t n := t + n * 360 * 86400
  addMonths t n := t + n * 30 * 86400
  nextDay t := (t / 86400 + 1) * 86400
  -- the epoch was a Thursday
  nextWeek t := ((t / 86400 + 3) / 7 + 1) * 7 * 86400 - 3 * 86400
  nextMonth t := (t / (30 * 86400) + 1) * (30 * 86400)
  addSeconds t n := t + n
  lt_nextDay t := by omega
  lt_nextWeek t := by omega
  lt_nextMonth t := by omega
  lt_addSeconds t n h := by omega

variable (clock : Clock) (cal : Calendar)

namespace SubscriptionPlan

variable (plan : SubscriptionPlan)

def calcPlanEndTime (start : Int) : Except Err Int := do
  failIf (plan.durationValue ≤ 0 ∧ plan.durationUnit ≠ .custom)
    (.message "duration_value must be > 0")
  match plan.durationUnit with
  | .year => return clock.addYears start plan.durationValue
  | .month => return clock.addMonths start plan.durationValue
  | .day => return clock.addSeconds start (plan.durationValue * 24 * 3600)
  | .hour => return clock.addSeconds start (plan.durationValue * 3600)
  | .custom => do
    failIf (plan.customSeconds ≤ 0) (.message "custom_seconds must be > 0")
    return clock.addSeconds start plan.customSeconds
  | .other unit => .error (.message s!"invalid duration_unit: {unit}")

/-- The end of the reset period that `base` is in. -/
def nextBoundary (base : Int) : Option Int :=
  match plan.quotaResetPeriod with
  | .never => none
  | .daily => some (clock.nextDay base)
  | .weekly => some (clock.nextWeek base)
  | .monthly => some (clock.nextMonth base)
  | .custom =>
    if plan.quotaResetCustomSeconds ≤ 0 then none
    else some (clock.addSeconds base plan.quotaResetCustomSeconds)

/-- Zero when the subscription ends before the next reset, or is never reset. -/
def calcNextResetTime (base endTime : Int) : Int :=
  match plan.nextBoundary clock base with
  | none => 0
  | some next => if 0 < endTime ∧ endTime < next then 0 else next

/-- The loop that moves `base` over every boundary up to `now`; nothing if it needs more rounds. -/
def passBoundaries (endTime now : Int) : Nat → Int → Option Int
  | 0, _ => none
  | rounds + 1, base =>
    if 0 < plan.calcNextResetTime clock base endTime ∧
        plan.calcNextResetTime clock base endTime ≤ now then
      passBoundaries endTime now rounds (plan.calcNextResetTime clock base endTime)
    else some base

end SubscriptionPlan

/-! ## Reset periods -/

/-- When the current reset period of a subscription began. -/
def UserSubscription.resetBase (sub : UserSubscription) : Int :=
  if sub.lastResetTime ≤ 0 then sub.startTime else sub.lastResetTime

/-- `maybeResetUserSubscriptionWithPlanTx`, with a number of rounds for its loop. -/
def maybeResetWithin (rounds : Nat) (plan : SubscriptionPlan) (now : Int) (sub : UserSubscription) :
    Option UserSubscription :=
  if 0 < sub.nextResetTime ∧ now < sub.nextResetTime then some sub
  else if plan.quotaResetPeriod = .never then some sub
  else do
    let base ← plan.passBoundaries clock sub.endTime now rounds sub.resetBase
    let next := plan.calcNextResetTime clock base sub.endTime
    let advanced := 0 < plan.calcNextResetTime clock sub.resetBase sub.endTime ∧
      plan.calcNextResetTime clock sub.resetBase sub.endTime ≤ now
    if advanced then
      return { sub with amountUsed := 0, lastResetTime := base, nextResetTime := next }
    else if sub.nextResetTime = 0 ∧ 0 < next then
      return { sub with nextResetTime := next, lastResetTime := base }
    else return sub

/-- On a calendar a round moves the base by a second or more, so these rounds are enough. -/
def maybeResetUserSubscriptionWithPlanTx (plan : SubscriptionPlan) (now : Int)
    (sub : UserSubscription) : UserSubscription :=
  (maybeResetWithin cal.toClock ((now - sub.resetBase).toNat + 1) plan now sub).getD sub

/-- A candidate starts over by its plan. -/
def resetByPlan (plans : List SubscriptionPlan) (now : Int) : SubscriptionReset := fun _ sub => do
  let plan ← orFail plans[sub.planId]? (.message "record not found")
  return maybeResetUserSubscriptionWithPlanTx cal plan now sub

/-- `PreConsumeUserSubscription`, with the resets the plans ask for at time `now`. -/
def preConsumeUserSubscriptionAt (requestId : String) (u : Nat) (amount now : Int) (s : Store) :
    Except Err (Nat × Int × Store) :=
  preConsumeWithReset (resetByPlan cal s.subscriptionPlans now) requestId u amount now s

/-- The transaction of `ResetDueSubscriptions` for one subscription. -/
def resetDueSubscription (id : Nat) (now : Int) (s : Store) : Store :=
  match s.subscriptions[id]? with
  | none => s
  | some sub =>
    match s.subscriptionPlans[sub.planId]? with
    | none => s
    | some plan =>
      if 0 < sub.nextResetTime ∧ sub.nextResetTime ≤ now then
        { s with subscriptions := s.subscriptions.modify id fun _ =>
            maybeResetUserSubscriptionWithPlanTx cal plan now sub }
      else s

/-! ## Groups -/

/-- `UPDATE users SET group = …` -/
@[simps]
def Store.updateUserGroup (s : Store) (u : Nat) (group : String) : Store :=
  { s with users := Function.update s.users u { s.users u with group := group } }

/-- A subscription of the user that put them into a group and is still running. -/
def UserSubscription.upgrades (u : Nat) (now : Int) (sub : UserSubscription) : Bool :=
  sub.userId == u && sub.status == .active && decide (now < sub.endTime) && sub.upgradeGroup != ""

/-- What the end of a subscription does to the group of its user. -/
def downgradeUserGroupForSubscriptionTx (id : Nat) (sub : UserSubscription) (now : Int)
    (s : Store) : Store :=
  let upgradeGroup := trimSpace sub.upgradeGroup
  let currentGroup := (s.users sub.userId).group
  let prevGroup := trimSpace sub.prevUserGroup
  if upgradeGroup = "" ∨ currentGroup ≠ upgradeGroup then s
  else if s.subscriptions.zipIdx.any fun r => r.1.upgrades sub.userId now && r.2 != id then s
  else if prevGroup = "" ∨ prevGroup = currentGroup then s
  else s.updateUserGroup sub.userId prevGroup

def createUserSubscriptionFromPlanTx (u planId : Nat) (now : Int) (s : Store) :
    Except Err Store := do
  let plan ← orFail s.subscriptionPlans[planId]? (.message "invalid plan")
  failIf (u = 0) (.message "invalid user id")
  failIf (0 < plan.maxPurchasePerUser ∧ plan.maxPurchasePerUser ≤
      s.subscriptions.countP fun sub => sub.userId == u && sub.planId == planId && !sub.deleted)
    (.message "已达到该套餐购买上限")
  let endTime ← plan.calcPlanEndTime clock now
  let nextReset := plan.calcNextResetTime clock now endTime
  let upgradeGroup := trimSpace plan.upgradeGroup
  let currentGroup := (s.users u).group
  let moves := upgradeGroup ≠ "" ∧ currentGroup ≠ upgradeGroup
  let s := if moves then s.updateUserGroup u upgradeGroup else s
  return { s with subscriptions := s.subscriptions ++ [{
    userId := u
    planId := planId
    amountTotal := plan.totalAmount
    startTime := now
    endTime := endTime
    lastResetTime := if 0 < nextReset then now else 0
    nextResetTime := nextReset
    upgradeGroup := upgradeGroup
    prevUserGroup := if moves then currentGroup else "" }] }

/-- The row of a subscription that was not deleted. -/
def Store.subscription (s : Store) (id : Nat) : Option UserSubscription :=
  s.subscriptions[id]?.filter fun sub => !sub.deleted

def adminInvalidateUserSubscription (id : Nat) (now : Int) (s : Store) : Except Err Store := do
  let sub ← orFail (s.subscription id) (.message "record not found")
  let s := { s with subscriptions := s.subscriptions.modify id fun sub =>
    { sub with status := .cancelled, endTime := now } }
  return downgradeUserGroupForSubscriptionTx id sub now s

def adminDeleteUserSubscription (id : Nat) (now : Int) (s : Store) : Except Err Store := do
  let sub ← orFail (s.subscription id) (.message "record not found")
  let s := downgradeUserGroupForSubscriptionTx id sub now s
  return { s with subscriptions := s.subscriptions.modify id fun sub =>
    { sub with status := .cancelled, deleted := true } }

/-- Whether the subscription is over and not yet marked so. -/
def UserSubscription.overdue (now : Int) (sub : UserSubscription) : Bool :=
  sub.status == .active && decide (0 < sub.endTime) && decide (sub.endTime ≤ now)

section LastExpired

-- the order that can be computed with, whatever else is known about the integers
local instance intPreorder : Preorder Int := Int.instLinearOrder.toPreorder

/-- The subscription that ended last, among those that put the user into a group. -/
def lastExpired (u : Nat) (s : Store) : Option UserSubscription :=
  ((s.subscriptions.zipIdx.filter fun r =>
    r.1.userId == u && r.1.status == .expired && r.1.upgradeGroup != "").argmax
      fun r => toLex (r.1.endTime, r.2)).map Prod.fst

end LastExpired

/-- Mark the subscriptions of the user that are over. -/
def markOverdue (u : Nat) (now : Int) (s : Store) : Store :=
  { s with
    subscriptions := updateWhere (fun _ sub => sub.userId == u && sub.overdue now)
      (fun sub => { sub with status := .expired }) s.subscriptions }

/-- The transaction of `ExpireDueSubscriptions` for one user. -/
def expireUserSubscriptions (u : Nat) (now : Int) (s : Store) : Store :=
  let s := markOverdue u now s
  if s.subscriptions.any fun sub => sub.upgrades u now then s
  else
    match lastExpired u s with
    | none => s
    | some last =>
      let upgradeGroup := trimSpace last.upgradeGroup
      let prevGroup := trimSpace last.prevUserGroup
      let currentGroup := (s.users u).group
      if upgradeGroup = "" ∨ prevGroup = "" then s
      else if currentGroup ≠ upgradeGroup ∨ currentGroup = prevGroup then s
      else s.updateUserGroup u prevGroup

/-- The users of the first subscriptions that are over. A map gives them in any order; here it is
that of their first subscription. -/
def overdueUsers (limit : Nat) (now : Int) (s : Store) : List Nat :=
  let due := (s.subscriptions.filter fun sub => sub.overdue now).insertionSort
    fun a b => a.endTime ≤ b.endTime
  (((due.take limit).map UserSubscription.userId).filter fun u => decide (0 < u)).dedup

/-- The transactions for these users, and how many subscriptions they mark. -/
def expireUsers (now : Int) : List Nat → Store → Nat × Store
  | [], s => (0, s)
  | u :: users, s =>
    let (count, s') := expireUsers now users (expireUserSubscriptions u now s)
    ((s.subscriptions.countP fun sub => sub.userId == u && sub.overdue now) + count, s')

def expireDueSubscriptions (limit : Nat) (now : Int) (s : Store) : Nat × Store :=
  expireUsers now (overdueUsers limit now s) s

def subscriptionResetBatchSize : Nat := 300

/-- The first loop of `runSubscriptionQuotaResetOnce`, with the times of its rounds; nothing if it
does not end with them. -/
def expireLoop : List Int → Store → Option Store
  | [], _ => none
  | now :: times, s =>
    let (n, s) := expireDueSubscriptions subscriptionResetBatchSize now s
    if n < subscriptionResetBatchSize then some s else expireLoop times s

end ApiGateway
