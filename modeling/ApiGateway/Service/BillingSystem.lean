import ApiGateway.Lib.Interleave
import ApiGateway.Service.RealtimeWallet

/-!
# The billing system

Requests at the market price, the job that repairs their applications, and the pollers of
asynchronous tasks all work on the same rows without a common lock. A step is one transaction; where
a statement follows it at once that only touches the row of a token, the two are one step and a flag
says whether the second was refused.

Steps on behalf of a realtime request are measured: `BillingTx.exec` appends the difference of the
rows to `realtimeEvents`. The steps that end a task are listed in `taskEvents`.
-/

namespace ApiGateway

open Table Decimal Interleave

variable (cfg : Config)

/-! ## Completed tasks -/

/-- `RecalculateTaskQuota`: charge or return the difference between what a completed task
was charged and what it came to. -/
def Task.recalculateTaskQuota (faults : Task.RefundFaults) (actualQuota : Int) (t : Task)
    (s : Store) : Store :=
  let delta := actualQuota - t.quota
  if actualQuota ≤ 0 ∨ t.qiniuRealtimeSettlement.isSome ∨ t.usesQiniuOfficialLedger ∨ delta = 0 then
    s
  else
    match storageCall faults.funding (t.adjustFunding cfg delta s) with
    | .error _ => s
    | .ok s =>
      let s := t.adjustTokenQuota faults.token delta s
      if 0 < delta then s.addUsage t.userId 0 delta else s

/-- `settleTaskBillingOnComplete`. The quota a completed task came to is `none` when it is billed
per call, or nothing is known of it. -/
def Task.settleTaskBillingOnComplete (faults : Task.RefundFaults) (actualQuota : Option Int)
    (t : Task) (s : Store) : Store :=
  match actualQuota with
  | some q => t.recalculateTaskQuota cfg faults q s
  | none => s

/-! ## Questions to the outside world -/

/-- What the upstream says about a request it served. -/
structure UpstreamResult where
  taskId : String := ""
  quota : Int
  params : RecordConsumeLogParams

/-- What the upstream says about a task. -/
structure TaskReply where
  /-- `none` is the empty text. -/
  status : Option TaskStatus
  failReason : String := ""
  progress : String := ""

inductive TaskTimeout where
  | running
  | timedOut
  /-- Submitted before the refund existed. -/
  | legacy
  deriving DecidableEq

/-- Who takes care of an unfinished task. -/
inductive TaskPlatform where
  | midjourney
  | suno
  | video
  /-- It has no upstream id, or its channel is gone. -/
  | lost (failReason : Option String)

inductive BillingCall where
  | preConsumeFaults
  | settleFaults
  | refundFaults
  | tokenRefused
  | upstream
  /-- The platform of a task. -/
  | platform (id : Nat)
  /-- Whether a task has timed out. -/
  | timeout (id : Nat)
  /-- The upstream's word on a task; `none` when it cannot be had. -/
  | fetchTask (id : Nat)
  /-- What the answer for a whole channel says about a task: nothing, or one or more
  items. -/
  | fetchSunoTask (id : Nat)
  /-- Whether a column changes that is not modelled (times, result, data). -/
  | changed (id : Nat)
  /-- What a completed task came to. -/
  | completionQuota (id : Nat)

@[reducible]
def BillingCall.Resp : BillingCall → Type
  | preConsumeFaults => PreConsumeFaults
  | settleFaults => SettleFaults
  | refundFaults => Task.RefundFaults
  | tokenRefused => Bool
  | upstream => Option UpstreamResult
  | platform _ => TaskPlatform
  | timeout _ => TaskTimeout
  | fetchTask _ => Option TaskReply
  | fetchSunoTask _ => List TaskReply
  | changed _ => Bool
  | completionQuota _ => Option Int

/-! ## Steps -/

inductive BillingTx where
  | newBillingSession (faults : PreConsumeFaults) (info : RelayInfo) (quota : Int)
  | settleBilling (faults : SettleFaults) (session : BillingSession) (actualQuota : Int)
  | applyQiniuRealtimeUsageStatsDirect (userId channelId : Nat) (quota : Int)
  | reserveQiniuRealtimeWalletApplication (input : QiniuRealtimeWalletFlowInput)
  | applyQiniuRealtimeWalletFlow (input : QiniuRealtimeWalletFlowInput)
  | recordQiniuRealtimeWalletFailure (input : QiniuRealtimeWalletFlowInput) (cause : Err)
  | markQiniuRealtimeWalletApplicationFailed (id : Nat) (cause : Err)
  | loadQiniuRealtimeWalletApplication (id : Nat)
  | restoreQiniuRealtimeUsageStats (id : Nat) (params : Option RecordConsumeLogParams)
  | markQiniuRealtimeUsageLogApplied (id : Nat) (logId : Option Nat)
  | retryQiniuRealtimeWalletSettlement (id : Nat) (tokenRefused : Bool)
  | scanFailedApplications (limit : Nat)
  | recordConsumeLog (ctx : RequestContext) (userId : Nat) (params : RecordConsumeLogParams)
  | getConsumeLog (a : QiniuRealtimeWalletApplication)
  | findConsumeLog (a : QiniuRealtimeWalletApplication)
  | replayConsumeLog (a : QiniuRealtimeWalletApplication) (params : RecordConsumeLogParams)
  | newTask (taskId : String) (session : BillingSession) (actualQuota : Int)
      (settlementApplied : Bool)
  | insertTask (t : Task)
  | findTasksByApplication (id : Nat)
  | updateTaskSettlement (id : Nat) (t : Task)
  | unfinishedTasks
  | updateWithStatus (id : Nat) (t : Task) (fromStatus : TaskStatus)
  | saveTask (id : Nat) (t : Task)
  | failTask (id : Nat) (failReason : Option String)
  | settleTaskBillingOnComplete (faults : Task.RefundFaults) (id : Nat) (t : Task)
      (actualQuota : Option Int)
  | refundTaskQuota (faults : Task.RefundFaults) (id : Nat) (t : Task)

namespace BillingTx

@[reducible]
def Ret : BillingTx → Type
  | newBillingSession .. => Except APIError BillingSession
  | settleBilling .. => BillingSession × Option Err
  | reserveQiniuRealtimeWalletApplication _ => Nat × QiniuRealtimeWalletApplication × Bool
  | applyQiniuRealtimeWalletFlow _ => Nat × QiniuRealtimeWalletApplication
  | loadQiniuRealtimeWalletApplication _ => QiniuRealtimeWalletApplication
  | scanFailedApplications _ => List Nat
  | recordConsumeLog .. | getConsumeLog _ | findConsumeLog _ => Option Nat
  | replayConsumeLog .. => Nat
  | newTask .. => Task
  | findTasksByApplication _ | unfinishedTasks => List (Task × Nat)
  | updateWithStatus .. => Bool
  | _ => Unit

/-- A step that returns nothing but its effect. -/
def effect (r : Except Err Store) : Except Err (Store × Unit) := r.map fun s => (s, ())

/-- What a step does to the database. -/
def run : (t : BillingTx) → Store → Except Err (Store × t.Ret)
  | newBillingSession faults info quota, s =>
    -- a refused request may still have cost the token its quota
    let r := ApiGateway.newBillingSession cfg faults faults (fun _ => false) 0 info quota s
    .ok (r.2, r.1)
  | settleBilling faults session actualQuota, s =>
    let r := Billing.settle cfg faults actualQuota ⟨session, s⟩
    .ok (r.1.store, r.1.session, r.2)
  | applyQiniuRealtimeUsageStatsDirect u channelId quota, s =>
    .ok (ApiGateway.applyQiniuRealtimeUsageStatsDirect u channelId quota s, ())
  | reserveQiniuRealtimeWalletApplication input, s =>
    ApiGateway.reserveQiniuRealtimeWalletApplication cfg input s
  | applyQiniuRealtimeWalletFlow input, s => ApiGateway.applyQiniuRealtimeWalletFlow cfg input s
  | recordQiniuRealtimeWalletFailure input cause, s =>
    .ok (ApiGateway.recordQiniuRealtimeWalletFailure cfg input cause s, ())
  | markQiniuRealtimeWalletApplicationFailed id cause, s =>
    .ok (ApiGateway.markQiniuRealtimeWalletApplicationFailed id cause s, ())
  | loadQiniuRealtimeWalletApplication id, s =>
    (ApiGateway.loadQiniuRealtimeWalletApplication id s).map fun a => (s, a)
  | restoreQiniuRealtimeUsageStats id params, s =>
    effect (ApiGateway.restoreQiniuRealtimeUsageStats cfg id params s)
  | markQiniuRealtimeUsageLogApplied id logId, s =>
    effect (ApiGateway.markQiniuRealtimeUsageLogApplied id logId s)
  | retryQiniuRealtimeWalletSettlement id tokenRefused, s =>
    effect (ApiGateway.retryQiniuRealtimeWalletSettlement cfg id tokenRefused s)
  | scanFailedApplications limit, s => .ok (s, ApiGateway.scanFailedApplications limit s)
  | recordConsumeLog ctx u params, s => .ok (ApiGateway.recordConsumeLog cfg ctx u params s)
  | getConsumeLog a, s => .ok (s, getQiniuRealtimeConsumeLogByApplication a s)
  | findConsumeLog a, s => .ok (s, ApiGateway.findConsumeLog a s)
  | replayConsumeLog a params, s => .ok (ApiGateway.replayConsumeLog a params s)
  | newTask taskId session actualQuota settlementApplied, s =>
    .ok (s, ApiGateway.newTask taskId session actualQuota settlementApplied s)
  | insertTask t, s => .ok (s.addTask t, ())
  | findTasksByApplication id, s => .ok (s, ApiGateway.findTasksByApplication id s)
  | updateTaskSettlement id t, s => .ok (s.updateTaskSettlement id t, ())
  | unfinishedTasks, s => .ok (s, ApiGateway.unfinishedTasks s)
  | updateWithStatus id t fromStatus, s => .ok (t.updateWithStatus id fromStatus s)
  | saveTask id t, s => .ok (s.saveTask id t, ())
  | failTask id failReason, s => .ok (s.failTask id failReason, ())
  | settleTaskBillingOnComplete faults _ t actualQuota, s =>
    .ok (t.settleTaskBillingOnComplete cfg faults actualQuota s, ())
  | refundTaskQuota faults _ t, s => .ok ((t.refundTaskQuota cfg faults s).2, ())

/-! ## Measuring -/

/-- The request a step is made for. -/
structure Account where
  key : RealtimeKey
  phase : RealtimePhase
  userId : Nat
  tokenId : Option Nat

/-- The account of an application's request. -/
def applicationAccount (phase : RealtimePhase) (a : QiniuRealtimeWalletApplication) : Account :=
  { key := a.idempotencyKey, phase := phase, userId := a.userId, tokenId := some a.tokenId }

/-- The account of a request at the market price. -/
def requestAccount (phase : RealtimePhase) (info : RelayInfo) : Option Account :=
  if info.qiniuMarket then
    (requestKey info.requestId).map fun k =>
      { key := k, phase := phase, userId := info.userId, tokenId := some info.tokenId }
  else none

/-- The application a task was recorded under. -/
def taskApplication (t : Task) (s : Store) : Option QiniuRealtimeWalletApplication :=
  (t.qiniuRealtimeSettlement.bind fun st => st.applicationId).bind fun id =>
    s.realtimeApplications[id]?

def account : BillingTx → Store → Option Account
  | newBillingSession _ info _, _ => requestAccount .preConsume info
  | settleBilling _ session _, _ => requestAccount .settle session.info
  | retryQiniuRealtimeWalletSettlement id _, s =>
    s.realtimeApplications[id]?.map (applicationAccount .settle)
  | restoreQiniuRealtimeUsageStats id _, s =>
    s.realtimeApplications[id]?.map (applicationAccount .usage)
  | refundTaskQuota _ _ t, s =>
    (taskApplication t s).map fun a =>
      { key := a.idempotencyKey, phase := .refund, userId := t.userId, tokenId := t.tokenId }
  | _, _ => none

/-- `used_quota` of a token. -/
def tokenUsedQuota (id : Option Nat) (s : Store) : Int :=
  match id.bind fun id => s.tokens[id]? with
  | some t => t.usedQuota
  | none => 0

/-- The difference a step made to the rows of an account. -/
def Account.measure (a : Account) (before after : Store) : RealtimeEvent where
  key := a.key
  phase := a.phase
  userId := a.userId
  quota := (before.users a.userId).quota - (after.users a.userId).quota
  usedQuota := (after.users a.userId).usedQuota - (before.users a.userId).usedQuota
  requestCount := (after.users a.userId).requestCount - (before.users a.userId).requestCount
  tokenQuota := tokenUsedQuota a.tokenId after - tokenUsedQuota a.tokenId before

/-- The end of a task that a step brings about, given what it returned. -/
def taskEvent : (t : BillingTx) → t.Ret → Option TaskEvent
  | updateWithStatus id t _, won =>
    if won ∧ (t.status = .success ∨ t.status = .failure) then some (.finalised id t.status)
    else none
  | settleTaskBillingOnComplete _ id _ _, _ => some (.settled id)
  | refundTaskQuota _ id _, _ => some (.refunded id)
  | _, _ => none

/-- The store with what a step was seen to do. -/
@[simps]
def logged (before after : Store) (a : Option Account) (e : Option TaskEvent) : Store :=
  { after with
    realtimeEvents := after.realtimeEvents ++ (a.map fun a => a.measure before after).toList
    taskEvents := after.taskEvents ++ e.toList }

/-- A step, with what it was seen to do. -/
def exec (t : BillingTx) (s : Store) : Except Err (Store × t.Ret) :=
  (t.run cfg s).map fun r => (logged s r.1 (t.account s) (t.taskEvent r.2), r.2)

end BillingTx

def billingSystem : System Store Err where
  Tx := BillingTx
  Ret := BillingTx.Ret
  Call := BillingCall
  Resp := BillingCall.Resp
  exec := BillingTx.exec cfg
  onCall _ s := s

end ApiGateway
