import ApiGateway.Lib.Threads
import ApiGateway.Service.Subscription

/-!
# Orders of subscriptions

A payment callback completes the order of a plan: the subscription is created, the payment is booked
as a top-up without an amount, and the order becomes `success`. An order that is not paid for
expires.

`orderStep` runs both transactions one statement at a time, for any number of calls at once. The
order is read without a lock (the query option that asks for one is ignored by the library). Rows
that were written, and trade numbers that were inserted, are locked, and hidden from the others,
until the transaction of the write is over.
-/

namespace ApiGateway

open Table Threads Decimal

variable (clock : Clock)

/-! ## Rows -/

def errSubscriptionOrderNotFound : Err := .message "subscription order not found"

def errSubscriptionOrderStatusInvalid : Err := .message "subscription order status invalid"

def Store.subscriptionOrderByTradeNo (s : Store) (tradeNo : String) :
    Option (Nat × SubscriptionOrder) :=
  lookup (fun o => o.tradeNo == tradeNo) s.subscriptionOrders

def Store.topUpByTradeNo (s : Store) (tradeNo : String) : Option (Nat × TopUp) :=
  lookup (fun t => t.tradeNo == tradeNo) s.topUps

/-- `tx.Save(&order)` -/
@[simps]
def Store.saveSubscriptionOrder (s : Store) (id : Nat) (order : SubscriptionOrder) : Store :=
  { s with subscriptionOrders := s.subscriptionOrders.modify id fun _ => order }

/-- A top-up is inserted, or the row that was found is saved. -/
inductive TopUpWrite where
  | insert (topUp : TopUp)
  | save (id : Nat) (topUp : TopUp)

def TopUpWrite.apply (s : Store) : TopUpWrite → Store
  | .insert topUp => { s with topUps := s.topUps ++ [topUp] }
  | .save id topUp => { s with topUps := s.topUps.modify id fun _ => topUp }

variable (order : SubscriptionOrder)

/-- `upsertSubscriptionTopUpTx`: the top-up that books the payment of an order, given the row
with its trade number. -/
def subscriptionTopUp (now : Int) :
    Option (Nat × TopUp) → Except Err TopUpWrite
  | none => return .insert {
      userId := order.userId
      amount := 0
      money := order.money
      discount := 1
      tradeNo := order.tradeNo
      paymentMethod := order.paymentMethod
      paymentProvider := .unset
      completeTime := now
      status := .success }
  | some (id, topUp) => do
    failIf (topUp.paymentMethod ≠ "" ∧ topUp.paymentMethod ≠ order.paymentMethod)
      .paymentMethodMismatch
    return .save id { topUp with
      money := order.money
      paymentMethod := order.paymentMethod
      completeTime := now
      status := .success }

/-! ## Calls -/

/-- What both calls are told; `unset` for a provider that is not checked. -/
structure OrderCall where
  tradeNo : String
  expectedPaymentProvider : PaymentProvider

structure CompleteCall extends OrderCall where
  providerPayload : String := ""
  actualPaymentMethod : String := ""

/-- The order of a call, if it is one the provider may speak of. -/
def OrderCall.findOrderTx (c : OrderCall) (s : Store) : Except Err (Nat × SubscriptionOrder) := do
  let (id, order) ← orFail (s.subscriptionOrderByTradeNo c.tradeNo) errSubscriptionOrderNotFound
  failIf (c.expectedPaymentProvider ≠ .unset ∧
    order.paymentProvider ≠ c.expectedPaymentProvider) .paymentMethodMismatch
  return (id, order)

/-- The first statement of a completion. There is nothing to do for an order that was
completed before. -/
def OrderCall.readToCompleteTx (c : OrderCall) (s : Store) :
    Except Err (Option (Nat × SubscriptionOrder)) := do
  let (id, order) ← c.findOrderTx s
  if order.status = .success then
    return none
  failIf (order.status ≠ .pending) errSubscriptionOrderStatusInvalid
  return some (id, order)

/-- The first statement of an expiry. -/
def OrderCall.readToExpireTx (c : OrderCall) (s : Store) :
    Except Err (Option (Nat × SubscriptionOrder)) := do
  let (id, order) ← c.findOrderTx s
  if order.status ≠ .pending then
    return none
  return some (id, order)

def SubscriptionOrder.completed (c : CompleteCall) (now : Int) :
    SubscriptionOrder :=
  { order with
    status := .success
    completeTime := now
    providerPayload := if c.providerPayload ≠ "" then c.providerPayload else order.providerPayload
    paymentMethod :=
      if c.actualPaymentMethod ≠ "" then c.actualPaymentMethod else order.paymentMethod }

def SubscriptionOrder.expired (now : Int) : SubscriptionOrder :=
  { order with status := .expired, completeTime := now }

/-! ## Statement by statement -/

/-- The statements before the new row in `CreateUserSubscriptionFromPlanTx`. -/
def checkPurchaseLimitTx (u planId : Nat) (plan : SubscriptionPlan) (s : Store) :
    Except Err Unit := do
  failIf (u = 0) (.message "invalid user id")
  failIf (0 < plan.maxPurchasePerUser ∧ plan.maxPurchasePerUser ≤
      s.subscriptions.countP fun sub => sub.userId == u && sub.planId == planId && !sub.deleted)
    (.message "已达到该套餐购买上限")

/-- The row of a new subscription, and whether its buyer changes groups. -/
structure NewSubscription where
  row : UserSubscription
  moves : Bool

def newSubscription (u planId : Nat) (plan : SubscriptionPlan) (now : Int) (currentGroup : String) :
    Except Err NewSubscription := do
  let endTime ← plan.calcPlanEndTime clock now
  let nextReset := plan.calcNextResetTime clock now endTime
  let upgradeGroup := trimSpace plan.upgradeGroup
  let moves := decide (upgradeGroup ≠ "" ∧ currentGroup ≠ upgradeGroup)
  return {
    row := {
      userId := u
      planId := planId
      amountTotal := plan.totalAmount
      startTime := now
      endTime := endTime
      lastResetTime := if 0 < nextReset then now else 0
      nextResetTime := nextReset
      upgradeGroup := upgradeGroup
      prevUserGroup := if moves then currentGroup else "" }
    moves := moves }

def NewSubscription.apply (new : NewSubscription) (s : Store) : Store :=
  let s := if new.moves then s.updateUserGroup new.row.userId new.row.upgradeGroup else s
  { s with subscriptions := s.subscriptions ++ [new.row] }

/-- The next statement of a completion that has read its order. -/
inductive CompletePc where
  | readPlan
  | countPurchases (plan : SubscriptionPlan)
  | readGroup (plan : SubscriptionPlan)
  | writeGroup (new : NewSubscription)
  | insertSubscription (new : NewSubscription)
  | readTopUp (new : NewSubscription)
  | writeTopUp (new : NewSubscription) (found : Option (Nat × TopUp))
  | saveOrder (new : NewSubscription) (topUp : TopUpWrite)
  | commit (new : NewSubscription) (topUp : TopUpWrite) (completeTime : Int)

/-- The next statement of an expiry that has read its order. -/
inductive ExpirePc where
  | saveOrder
  | commit (completeTime : Int)

inductive OrderThread where
  | completeCalled (c : CompleteCall)
  | expireCalled (c : OrderCall)
  | completing (c : CompleteCall) (id : Nat) (order : SubscriptionOrder) (pc : CompletePc)
  | expiring (c : OrderCall) (id : Nat) (order : SubscriptionOrder) (pc : ExpirePc)
  | returned (result : Except Err Unit)

/-- The clock, and the error of a statement or a commit that fails. -/
structure OrderInput where
  now : Int
  failure : Option Err := none

/-- The database, with a log of the orders that a subscription was created from. -/
structure OrderShared where
  store : Store
  created : List String := []

/-- The transaction of a completion commits. -/
@[simps]
def OrderShared.complete (d : OrderShared) (c : CompleteCall) (id : Nat) (order : SubscriptionOrder)
    (new : NewSubscription) (topUp : TopUpWrite) (completeTime : Int) : OrderShared where
  store := (topUp.apply (new.apply d.store)).saveSubscriptionOrder id
    (order.completed c completeTime)
  created := d.created ++ [c.tradeNo]

/-- The transaction of an expiry commits. -/
@[simps]
def OrderShared.expire (d : OrderShared) (id : Nat) (order : SubscriptionOrder)
    (completeTime : Int) : OrderShared where
  store := d.store.saveSubscriptionOrder id (order.expired completeTime)
  created := d.created

/-- Go on with the result of a statement, or return its error. -/
def OrderThread.andThen {α : Type} (result : Except Err α) (next : α → OrderThread) :
    OrderThread :=
  match result with
  | .error e => .returned (.error e)
  | .ok a => next a

/-- An insert finds a trade number that was committed after it was looked for. -/
def errDuplicateTradeNo : Err := .message "duplicate trade_no"

/-- One statement of a completion that has read its order. -/
def completeStatement (now : Int) (c : CompleteCall) (id : Nat) (order : SubscriptionOrder)
    (d : OrderShared) : CompletePc → OrderThread × OrderShared
  | .readPlan =>
    (.andThen (orFail d.store.subscriptionPlans[order.planId]? (.message "record not found"))
      fun plan => .completing c id order (.countPurchases plan), d)
  | .countPurchases plan =>
    (.andThen (checkPurchaseLimitTx order.userId order.planId plan d.store)
      fun _ => .completing c id order (.readGroup plan), d)
  | .readGroup plan =>
    (.andThen (newSubscription clock order.userId order.planId plan now
        (d.store.users order.userId).group) fun new =>
      .completing c id order (if new.moves then .writeGroup new else .insertSubscription new), d)
  | .writeGroup new => (.completing c id order (.insertSubscription new), d)
  | .insertSubscription new => (.completing c id order (.readTopUp new), d)
  | .readTopUp new =>
    (.completing c id order (.writeTopUp new (d.store.topUpByTradeNo order.tradeNo)), d)
  | .writeTopUp new found =>
    if found.isNone ∧ (d.store.topUpByTradeNo order.tradeNo).isSome then
      (.returned (.error errDuplicateTradeNo), d)
    else
      (.andThen (subscriptionTopUp order now found) fun topUp =>
        .completing c id order (.saveOrder new topUp), d)
  | .saveOrder new topUp => (.completing c id order (.commit new topUp now), d)
  | .commit new topUp completeTime =>
    (.returned (.ok ()), d.complete c id order new topUp completeTime)

def orderStep (x : OrderInput) (t : OrderThread) (d : OrderShared) :
    Option (OrderThread × OrderShared) :=
  match t with
  | .completeCalled c =>
    if c.tradeNo = "" then some (.returned (.error (.message "tradeNo is empty")), d)
    else if x.failure.isSome then some (.returned (.error errSubscriptionOrderNotFound), d)
    else some (.andThen (c.readToCompleteTx d.store) fun
      | none => .returned (.ok ())
      | some (id, order) => .completing c id order .readPlan, d)
  | .expireCalled c =>
    if c.tradeNo = "" then some (.returned (.error (.message "tradeNo is empty")), d)
    else if x.failure.isSome then some (.returned (.error errSubscriptionOrderNotFound), d)
    else some (.andThen (c.readToExpireTx d.store) fun
      | none => .returned (.ok ())
      | some (id, order) => .expiring c id order .saveOrder, d)
  | .completing c id order pc =>
    match x.failure with
    | some e => some (.returned (.error e), d)
    | none => some (completeStatement clock x.now c id order d pc)
  | .expiring c id order pc =>
    match x.failure, pc with
    | some e, _ => some (.returned (.error e), d)
    | none, .saveOrder => some (.expiring c id order (.commit x.now), d)
    | none, .commit completeTime => some (.returned (.ok ()), d.expire id order completeTime)
  | .returned _ => none

namespace OrderThread

def Starts (t : OrderThread) : Prop :=
  (∃ c, t = .completeCalled c) ∨ ∃ c, t = .expireCalled c

/-- The order a call has read, from then on until it returns. -/
def opened : OrderThread → Option (String × Nat × SubscriptionOrder)
  | .completing c id order _ => some (c.tradeNo, id, order)
  | .expiring c id order _ => some (c.tradeNo, id, order)
  | _ => none

def openTradeNo (t : OrderThread) : Option String := t.opened.map Prod.fst

/-- The order a call is about to read. -/
def readsTradeNo : OrderThread → Option String
  | .completeCalled c => some c.tradeNo
  | .expireCalled c => some c.tradeNo
  | _ => none

/-! Row locks: of the buyer, of the trade number of the top-up, and of the order. -/

def asksUser : OrderThread → Option Nat
  | .completing _ _ order (.writeGroup _) => some order.userId
  | _ => none

def locksUser : OrderThread → Option Nat
  | .completing _ _ order pc =>
    let moved (new : NewSubscription) := if new.moves then some order.userId else none
    match pc with
    | .insertSubscription new => moved new
    | .readTopUp new => moved new
    | .writeTopUp new _ => moved new
    | .saveOrder new _ => moved new
    | .commit new _ _ => moved new
    | _ => none
  | _ => none

def asksTopUp : OrderThread → Option String
  | .completing _ _ order (.writeTopUp _ _) => some order.tradeNo
  | _ => none

def locksTopUp : OrderThread → Option String
  | .completing _ _ order (.saveOrder _ _) => some order.tradeNo
  | .completing _ _ order (.commit _ _ _) => some order.tradeNo
  | _ => none

def asksOrder : OrderThread → Option Nat
  | .completing _ id _ (.saveOrder _ _) => some id
  | .expiring _ id _ .saveOrder => some id
  | _ => none

def locksOrder : OrderThread → Option Nat
  | .completing _ id _ (.commit _ _ _) => some id
  | .expiring _ id _ (.commit _) => some id
  | _ => none

end OrderThread

/-- A write waits for the transaction that wrote the row before, unless it gives up. -/
def orderRowLocks (w : World OrderShared OrderThread) (i : Nat) (x : OrderInput) : Bool :=
  x.failure.isSome ||
    (waits OrderThread.asksUser OrderThread.locksUser w i &&
      waits OrderThread.asksTopUp OrderThread.locksTopUp w i &&
      waits OrderThread.asksOrder OrderThread.locksOrder w i)

/-- Besides, an order is read only when no other call that has read it is still open: what
a lock taken by the read would do. -/
def orderOneReader (w : World OrderShared OrderThread) (i : Nat) (x : OrderInput) : Bool :=
  orderRowLocks w i x && waits OrderThread.readsTradeNo OrderThread.openTradeNo w i

end ApiGateway
