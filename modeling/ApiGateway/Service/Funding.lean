import Mathlib.Data.List.Sort
import ApiGateway.Service.Wallet

/-!
# Funding sources

A request is paid from the wallet, from the wallet at the upstream's market price, or from a
subscription, and it also counts against the quota of its token. A flag says whether a storage call
is refused. The counters that the Go structs keep are part of the `Funding` value, so they survive a
call that fails.
-/

namespace ApiGateway

open Table Decimal

variable (cfg : Config)

/-- A storage call, which the database may refuse. -/
def storageCall {α : Type} (refused : Bool) (call : Except Err α) : Except Err α :=
  if refused then .error (.message "storage error") else call

/-! ## Token quota -/

/-- `UPDATE tokens SET remain_quota = remain_quota - q, used_quota = used_quota + q`. -/
@[simps]
def Store.chargeToken (s : Store) (id : Nat) (q : Int) : Store :=
  { s with tokens := s.tokens.modify id fun t => { t with
      remainQuota := t.remainQuota - q, usedQuota := t.usedQuota + q } }

def increaseTokenQuota (id : Nat) (quota : Int) (s : Store) : Except Err Store := do
  failIf (quota < 0) (.message "quota 不能为负数！")
  return s.chargeToken id (-quota)

def decreaseTokenQuota (id : Nat) (quota : Int) (s : Store) : Except Err Store := do
  failIf (quota < 0) (.message "quota 不能为负数！")
  return s.chargeToken id quota

/-! ## Subscriptions -/

/-- Change the used amount of a subscription on behalf of a request. -/
@[simps]
def Store.useSubscription (s : Store) (id : Nat) (used amount : Int) : Store :=
  { s with
    subscriptions := s.subscriptions.modify id fun sub => { sub with amountUsed := used }
    subscriptionUsage := s.subscriptionUsage ++ [{ subscriptionId := id, amount := amount }] }

def postConsumeUserSubscriptionDelta (id : Option Nat) (delta : Int) (s : Store) :
    Except Err Store := do
  let id ← orFail id (.message "invalid userSubscriptionId")
  if delta = 0 then
    return s
  let sub ← orFail s.subscriptions[id]? (.message "record not found")
  let newUsed := max 0 (sub.amountUsed + delta)
  failIf (sub.amountTotal > 0 ∧ newUsed > sub.amountTotal)
    (.message s!"subscription used exceeds total, used={newUsed} total={sub.amountTotal}")
  return s.useSubscription id newUsed (newUsed - sub.amountUsed)

/-- The active subscriptions of a user, the one that ends first first. -/
def activeSubscriptions (u : Nat) (now : Int) (s : Store) : List (UserSubscription × Nat) :=
  (s.subscriptions.zipIdx.filter fun r =>
    r.1.userId == u && r.1.status == .active && decide (now < r.1.endTime)).insertionSort
      fun a b => a.1.endTime ≤ b.1.endTime

/-- How the row of a candidate starts over at the end of a reset period. -/
abbrev SubscriptionReset := Nat → UserSubscription → Except Err UserSubscription

/-- The first candidate with enough left. A candidate is brought into its current reset
period before it is looked at. -/
def chargeFirstSubscription (requestId : String) (u : Nat) (amount : Int)
    (reset : SubscriptionReset) :
    List (UserSubscription × Nat) → Store → Except Err (Nat × Store)
  | [], _ => .error (.message s!"subscription quota insufficient, need={amount}")
  | (sub, id) :: rest, s => do
    let sub ← reset id sub
    let s := { s with subscriptions := s.subscriptions.modify id fun _ => sub }
    if sub.amountTotal > 0 ∧ sub.amountTotal - sub.amountUsed < amount then
      chargeFirstSubscription requestId u amount reset rest s
    else
      return (id, { s.useSubscription id (sub.amountUsed + amount) amount with
        subscriptionPreConsumes := s.subscriptionPreConsumes ++
          [{ requestId := requestId, userId := u, userSubscriptionId := id,
             preConsumed := amount }] })

/-- Charge a request to a subscription. A request that was charged before is not
charged again. -/
def preConsumeWithReset (reset : SubscriptionReset) (requestId : String) (u : Nat) (amount : Int)
    (now : Int) (s : Store) : Except Err (Nat × Int × Store) := do
  failIf (u = 0) (.message "invalid userId")
  failIf (isBlank requestId) (.message "requestId is empty")
  failIf (amount ≤ 0) (.message "amount must be > 0")
  match lookup (fun r : SubscriptionPreConsumeRecord => r.requestId == requestId)
      s.subscriptionPreConsumes with
  | some (_, existing) =>
    failIf existing.refunded (.message "subscription pre-consume already refunded")
    return (existing.userSubscriptionId, existing.preConsumed, s)
  | none =>
    let candidates := activeSubscriptions u now s
    failIf candidates.isEmpty (.message "no active subscription")
    let (id, s) ← chargeFirstSubscription requestId u amount reset candidates s
    return (id, amount, s)

/-- Start over the candidates that `due` says have reached the end of a period. -/
def resetDue (due : Nat → Bool) : SubscriptionReset :=
  fun id sub => .ok (if due id then { sub with amountUsed := 0 } else sub)

/-- For any choice of the subscriptions that start over. -/
def preConsumeUserSubscription (requestId : String) (u : Nat) (amount : Int) (due : Nat → Bool)
    (now : Int) (s : Store) : Except Err (Nat × Int × Store) :=
  preConsumeWithReset (resetDue due) requestId u amount now s

/-- How an attempt to return a subscription charge goes wrong. -/
inductive SubscriptionRefundFault where
  | none
  /-- Nothing was committed. -/
  | refused
  /-- The used amount is changed in a transaction of its own, which was committed when the one that
  marks the record was not. -/
  | recordLost
  deriving DecidableEq

/-- The record of a request, marked as returned. -/
def markPreConsumeRefunded (id : Nat) (s : Store) : Store :=
  { s with
    subscriptionPreConsumes :=
      s.subscriptionPreConsumes.modify id fun r => { r with refunded := true } }

/-- Return the charge of a request. The result says whether the attempt succeeded. -/
def refundSubscriptionPreConsume (requestId : String) (fault : SubscriptionRefundFault)
    (s : Store) : Bool × Store :=
  match lookup (fun r : SubscriptionPreConsumeRecord => r.requestId == requestId)
      s.subscriptionPreConsumes with
  | none => (false, s)
  | some (id, record) =>
    if isBlank requestId ∨ fault = .refused then (false, s)
    else if record.refunded then (fault != .recordLost, s)
    else if record.preConsumed ≤ 0 then
      if fault = .recordLost then (false, s) else (true, markPreConsumeRefunded id s)
    else
      match postConsumeUserSubscriptionDelta (some record.userSubscriptionId)
          (-record.preConsumed) s with
      | .error _ => (false, s)
      | .ok s => if fault = .recordLost then (false, s) else (true, markPreConsumeRefunded id s)

/-- One attempt for each listed fault, until one succeeds. -/
def refundWithRetry (requestId : String) : List SubscriptionRefundFault → Store → Bool × Store
  | [], s => (false, s)
  | fault :: faults, s =>
    let (ok, s) := refundSubscriptionPreConsume requestId fault s
    if ok then (true, s) else refundWithRetry requestId faults s

/-! ## The three sources -/

structure SubscriptionFunding where
  requestId : String
  userId : Nat
  amount : Int
  subscriptionId : Option Nat := none
  preConsumed : Int := 0

/-- A funding source, with what it has consumed so far. -/
inductive Funding where
  | wallet (userId : Nat) (consumed : Int)
  | qiniuWallet (userId : Nat) (consumed : Int)
  | subscription (sub : SubscriptionFunding)

namespace Funding

def preConsume (refused : Bool) (due : Nat → Bool) (now : Int) (amount : Int) :
    Funding → Store → Except Err (Funding × Store)
  | wallet u consumed, s =>
    if amount ≤ 0 then .ok (wallet u consumed, s)
    else do
      let s ← storageCall refused
        (consumeWalletQuota cfg u amount "wallet-preconsume" "钱包预扣费" s)
      return (wallet u amount, s)
  | qiniuWallet u consumed, s =>
    if amount ≤ 0 then .ok (qiniuWallet u consumed, s)
    else do
      let s ← storageCall refused (debitBalanceByQuotaSilentlyTx cfg u amount s)
      return (qiniuWallet u (consumed + amount), s)
  | subscription sub, s => do
    -- the amount was fixed when the source was built; the argument is not read
    let (id, preConsumed, s) ← storageCall refused
      (preConsumeUserSubscription sub.requestId sub.userId sub.amount due now s)
    return (subscription { sub with subscriptionId := some id, preConsumed := preConsumed }, s)

/-- Charge (`delta > 0`) or return (`delta < 0`) the difference to the actual quota. -/
def settle (refused : Bool) (delta : Int) : Funding → Store → Funding × Except Err Store
  | wallet u consumed, s =>
    if delta = 0 then (wallet u consumed, .ok s)
    else
      -- the counter moves before the storage call is made
      (wallet u (consumed + delta), storageCall refused
        (if delta > 0 then consumeWalletQuota cfg u delta "wallet-settle" "钱包后结算补扣" s
         else refundWalletQuota cfg u (-delta) "wallet-settle" "钱包后结算退还" s))
  | qiniuWallet u consumed, s =>
    if delta = 0 then (qiniuWallet u consumed, .ok s)
    else if delta > 0 then
      match storageCall refused (debitBalanceByQuotaSilentlyAllowDebtTx cfg u delta s) with
      | .error e => (qiniuWallet u consumed, .error e)
      | .ok s => (qiniuWallet u (consumed + delta), .ok s)
    else
      match storageCall refused (creditBalanceByQuotaSilentlyTx cfg u (-delta) s) with
      | .error e => (qiniuWallet u consumed, .error e)
      | .ok s => (qiniuWallet u (max 0 (consumed + delta)), .ok s)
  | subscription sub, s =>
    if delta = 0 then (subscription sub, .ok s)
    else (subscription sub,
      storageCall refused (postConsumeUserSubscriptionDelta sub.subscriptionId delta s))

/-- What goes wrong when a source is refunded. -/
structure RefundFaults where
  wallet : Bool := false
  first : SubscriptionRefundFault := .none
  second : SubscriptionRefundFault := .none
  third : SubscriptionRefundFault := .none

/-- Return everything that was consumed; the result says whether that succeeded. -/
def refund (faults : RefundFaults) : Funding → Store → Funding × Bool × Store
  | wallet u consumed, s =>
    if consumed ≤ 0 then (wallet u consumed, true, s)
    else
      match storageCall faults.wallet
          (refundWalletQuota cfg u consumed "wallet-refund" "钱包预扣费退款" s) with
      | .error _ => (wallet u consumed, false, s)
      | .ok s => (wallet u consumed, true, s)
  | qiniuWallet u consumed, s =>
    if consumed ≤ 0 then (qiniuWallet u consumed, true, s)
    else
      match storageCall faults.wallet (creditBalanceByQuotaSilentlyTx cfg u consumed s) with
      | .error _ => (qiniuWallet u consumed, false, s)
      | .ok s => (qiniuWallet u 0, true, s)
  | subscription sub, s =>
    if sub.preConsumed ≤ 0 then (subscription sub, true, s)
    else (subscription sub,
      refundWithRetry sub.requestId [faults.first, faults.second, faults.third] s)

def isSubscription : Funding → Bool
  | subscription _ => true
  | _ => false

end Funding

end ApiGateway
