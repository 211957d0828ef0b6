import ApiGateway.Service.BillingSession

/-!
# Asynchronous tasks

A task is charged by the billing session of the request that submits it, and refunded when it fails,
from what its row says. The row is written after the settlement, whatever became of it.
-/

namespace ApiGateway

open Table Decimal

variable (cfg : Config)

/-! ## Submission -/

/-- `qiniuRealtimeWalletIdempotencyKey` of a request that is neither batched nor logged. -/
def requestKey (requestId : String) : Option RealtimeKey :=
  if isBlank requestId then none else some (.request (trimSpace requestId))

/-- Only requests at the upstream's market price have a settlement record. -/
def buildQiniuRealtimeTaskSettlement (info : RelayInfo) (preConsumed actualQuota : Int)
    (settlementApplied : Bool) (s : Store) : Option QiniuRealtimeTaskSettlement :=
  if info.qiniuMarket then
    some {
      applicationId := (requestKey info.requestId).bind fun k =>
        (lookup (fun a : QiniuRealtimeWalletApplication => a.idempotencyKey == k)
          s.realtimeApplications).map Prod.fst
      preConsumedQuota := preConsumed
      actualQuota := actualQuota
      settlementApplied := settlementApplied }
  else none

/-- The row of a task that was accepted upstream. -/
def newTask (taskId : String) (b : BillingSession) (actualQuota : Int) (settlementApplied : Bool)
    (s : Store) : Task :=
  let settlement := buildQiniuRealtimeTaskSettlement b.info b.preConsumedQuota actualQuota
    settlementApplied s
  { taskId := taskId
    userId := b.info.userId
    quota :=
      match settlement with
      | some st =>
        if !st.settlementApplied && decide (0 < st.preConsumedQuota) then st.preConsumedQuota
        else actualQuota
      | none => actualQuota
    billingSource := b.info.billingSource
    subscriptionId := b.info.subscriptionId
    tokenId := some b.info.tokenId
    qiniuRealtimeSettlement := settlement }

/-- The end of `RelayTask` for a task that is not billed at the market price: the settlement, whose
error is only logged, and the row. -/
def Billing.submitTask (faults : SettleFaults) (taskId : String) (actualQuota : Int) (b : Billing) :
    Billing × Task :=
  let (b, err) := b.settle cfg faults actualQuota
  (b, newTask taskId b.session actualQuota err.isNone b.store)

/-! ## Refund -/

namespace Task

variable (t : Task)

def isSubscription : Bool :=
  t.billingSource == .subscription && t.subscriptionId.isSome

def usesQiniuOfficialLedger : Bool := t.billingSource == .qiniuOfficialLedger

def refundQuota : Int :=
  match t.qiniuRealtimeSettlement with
  | some st =>
    if !st.settlementApplied && decide (0 < st.preConsumedQuota) then st.preConsumedQuota
    else t.quota
  | none => t.quota

/-- Charge (`delta > 0`) or return (`delta < 0`) what a task costs its source. -/
def adjustFunding (delta : Int) (s : Store) : Except Err Store :=
  if t.usesQiniuOfficialLedger then .ok s
  else if t.qiniuRealtimeSettlement.isSome then
    if delta > 0 then debitBalanceByQuotaSilentlyAllowDebtTx cfg t.userId delta s
    else creditBalanceByQuotaSilentlyTx cfg t.userId (-delta) s
  else if t.isSubscription then postConsumeUserSubscriptionDelta t.subscriptionId delta s
  else
    let bizNo := if t.taskId = "" then "task" else "task:" ++ trimSpace t.taskId
    if delta > 0 then consumeWalletQuota cfg t.userId delta bizNo "异步任务钱包扣费" s
    else refundWalletQuota cfg t.userId (-delta) bizNo "异步任务钱包退款" s

/-- The token's side; errors are only logged. -/
def adjustTokenQuota (refused : Bool) (delta : Int) (s : Store) : Store :=
  match t.tokenId with
  | none => s
  | some id =>
    if t.usesQiniuOfficialLedger ∨ delta = 0 ∨ refused then s
    else
      match (if delta > 0 then decreaseTokenQuota id delta s
        else increaseTokenQuota id (-delta) s) with
      | .error _ => s
      | .ok s => s

/-- Storage calls of a refund that are refused. -/
structure RefundFaults where
  funding : Bool := false
  token : Bool := false

inductive RefundOutcome where
  /-- The official ledger takes care of it, or there was nothing to return. -/
  | skipped
  | failed
  | refunded
  deriving DecidableEq

def refundTaskQuota (faults : RefundFaults) (t : Task) (s : Store) : RefundOutcome × Store :=
  if t.usesQiniuOfficialLedger ∨ t.refundQuota = 0 then (.skipped, s)
  else
    match storageCall faults.funding (t.adjustFunding cfg (-t.refundQuota) s) with
    | .error _ => (.failed, s)
    | .ok s => (.refunded, t.adjustTokenQuota faults.token (-t.refundQuota) s)

end Task

end ApiGateway
