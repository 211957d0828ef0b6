import ApiGateway.Service.BillingSystem

/-!
# Billing: the handlers

Each handler is a program of `billingSystem`: the relay of a request, which opens a billing session,
settles it and takes down the outcome; the job that repairs applications; and the pollers of
asynchronous tasks, which work on copies of the rows they loaded. Where the service ignores or only
logs an error, the program uses `Prog.ignore`.
-/

namespace ApiGateway

open Table Decimal Interleave

section Handlers

variable (cfg : Config)

abbrev BillingProg (α : Type) : Type := Prog (billingSystem cfg) α

namespace BillingProg

variable {cfg}

/-- Take a step. -/
def run (t : BillingTx) : BillingProg cfg t.Ret := Prog.run (S := billingSystem cfg) t

/-- Ask the outside world. -/
def ask (c : BillingCall) : BillingProg cfg c.Resp := Prog.ask (S := billingSystem cfg) c

/-- A check that touches neither the database nor the outside world. -/
def check {α : Type} (r : Except Err α) : BillingProg cfg α := .done r

end BillingProg

open BillingProg

/-! ## Applying a settled request -/

/-- Run a stage of an application; if it fails, the row says so. -/
def orMarkFailed {α : Type} (id : Nat) (p : BillingProg cfg α) : BillingProg cfg α := do
  match ← p.attempt with
  | .ok a => return a
  | .error e =>
    (run (.markQiniuRealtimeWalletApplicationFailed id e)).ignore
    Prog.fail e

variable (ctx : RequestContext) (a : QiniuRealtimeWalletApplication)

/-- The consume log of an online request: the one it covers, one that looks like it, or a
new one. -/
def ensureQiniuRealtimeOnlineConsumeLog (params : Option RecordConsumeLogParams) :
    BillingProg cfg (Option Nat) :=
  match params with
  | none => pure none
  | some p =>
    if !cfg.logConsumeEnabled then pure none
    else do
      let covered : Option Nat ← run (.getConsumeLog a)
      if covered.isSome then return covered
      else
        let existing : Option Nat ← run (.findConsumeLog a)
        if existing.isSome then return existing
        else run (.recordConsumeLog ctx a.userId p)

variable (id : Nat)

/-- The log stage of an online request. An error of the log itself does not stop it. -/
def logOnlineRequest (current : QiniuRealtimeWalletApplication)
    (params : Option RecordConsumeLogParams) : BillingProg cfg (Option Err) :=
  if current.usageLogApplied then pure none
  else do
    match ← (ensureQiniuRealtimeOnlineConsumeLog cfg ctx current params).attempt with
    | .ok logId =>
      orMarkFailed cfg id (run (.markQiniuRealtimeUsageLogApplied id logId))
      return none
    | .error e => return some e

def qiniuRealtimeWalletFlowInputFromApplication (remark : String)
    (consumeLogParams : Option RecordConsumeLogParams) :
    QiniuRealtimeWalletFlowInput where
  userId := a.userId
  tokenId := some a.tokenId
  requestId := a.requestId
  batchId := a.batchId
  consumeLogIds := a.consumeLogIds
  quota := a.quota
  preConsumedQuota := a.preConsumedQuota
  settlementApplied := a.settlementApplied
  usageStatsApplied := a.usageStatsApplied
  usageLogApplied := a.usageLogApplied
  usageApplied := a.usageApplied
  consumeLogParams := consumeLogParams
  logUsername := a.logUsername
  upstreamRequestId := a.upstreamRequestId
  remark := remark

/-- Statistics, log and flow of a reserved application. -/
def applyReserved (input : QiniuRealtimeWalletFlowInput) (id : Nat) (statsApplied : Bool) :
    BillingProg cfg Unit := do
  let _ ← (if statsApplied then pure ()
    else orMarkFailed cfg id (run (.restoreQiniuRealtimeUsageStats id input.consumeLogParams)))
  let current ← run (.loadQiniuRealtimeWalletApplication id)
  let logErr ← logOnlineRequest cfg ctx id current input.consumeLogParams
  let current ← run (.loadQiniuRealtimeWalletApplication id)
  let _ ← orMarkFailed cfg id (run (.applyQiniuRealtimeWalletFlow
    (qiniuRealtimeWalletFlowInputFromApplication current input.remark input.consumeLogParams)))
  match logErr with
  | none => return ()
  | some e =>
    (run (.markQiniuRealtimeWalletApplicationFailed id e)).ignore
    Prog.fail e

def applyQiniuRealtimeWalletFlowWithUsageFacts (input : QiniuRealtimeWalletFlowInput) :
    BillingProg cfg Unit := do
  let r ← run (.reserveQiniuRealtimeWalletApplication input)
  if r.2.2 then return ()
  else applyReserved cfg ctx input r.1 r.2.1.usageStatsApplied

/-! ## Taking down the outcome of a request -/

variable (session : BillingSession)

def qiniuRealtimeBillingSessionSettled : Bool :=
  session.info.qiniuMarket && session.settled && !session.refunded

def qiniuRealtimeWalletConsumptionRemark (info : RelayInfo) (requestId modelName : String) :
    String :=
  " ".intercalate (["市场价实时 token/model 消费"] ++
    (if isBlank modelName then [] else ["model=" ++ trimSpace modelName]) ++
    [s!"token_id={info.tokenId}"] ++
    (if isBlank requestId then [] else ["request=" ++ trimSpace requestId]))

def qiniuRealtimeWalletFlowInput (params : RecordConsumeLogParams) :
    QiniuRealtimeWalletFlowInput :=
  let requestId := firstNonEmpty [session.info.requestId, ctx.requestId]
  { userId := session.info.userId
    tokenId := some session.info.tokenId
    requestId := requestId
    quota := params.quota
    preConsumedQuota := session.preConsumedQuota
    settlementApplied := qiniuRealtimeBillingSessionSettled session
    usageLogApplied := !cfg.logConsumeEnabled
    consumeLogParams := some params
    logUsername := ctx.username
    upstreamRequestId := ctx.upstreamRequestId
    remark := qiniuRealtimeWalletConsumptionRemark session.info requestId params.modelName }

/-- All errors are only logged. -/
def recordConsumeLogWithQiniuRealtimeWalletFlow (params : RecordConsumeLogParams)
    (settlementApplied : Bool) (settlementErr : Option Err) :
    BillingProg cfg Unit :=
  if !session.info.qiniuMarket || decide (params.quota ≤ 0) then
    (run (.recordConsumeLog ctx session.info.userId params)).ignore
  else
    let input := qiniuRealtimeWalletFlowInput cfg ctx session params
    match qiniuRealtimeWalletIdempotencyKey input with
    | none =>
      -- without a key there is no application, and the request is only observed
      Prog.ignore (do
        run (.applyQiniuRealtimeUsageStatsDirect session.info.userId params.channelId params.quota)
        let _ ← run (.recordConsumeLog ctx session.info.userId params)
        return ())
    | some _ =>
      if !settlementApplied && !qiniuRealtimeBillingSessionSettled session then
        (run (.recordQiniuRealtimeWalletFailure input
          (settlementErr.getD (.message "七牛实时钱包静默结算未完成")))).ignore
      else
        (applyQiniuRealtimeWalletFlowWithUsageFacts cfg ctx
          { input with settlementApplied := true }).ignore

/-! ## Relaying -/

/-- A step that never reached the database settled nothing. -/
def settleBilling (actualQuota : Int) :
    BillingProg cfg (BillingSession × Option Err) := do
  let faults ← ask .settleFaults
  match ← (run (.settleBilling faults session actualQuota)).attempt with
  | .ok r => return r
  | .error e => return (session, some e)

/-- A request that is not a task. One the upstream does not serve is refunded by its
session and leaves nothing here. -/
def relay (info : RelayInfo) (quota : Int) : BillingProg cfg Unit := do
  let faults ← ask .preConsumeFaults
  match ← run (.newBillingSession faults info quota) with
  | .error e => Prog.fail e.err
  | .ok session =>
    match ← ask .upstream with
    | none => return ()
    | some result =>
      let r ← settleBilling cfg session result.quota
      recordConsumeLogWithQiniuRealtimeWalletFlow cfg ctx r.1
        { result.params with quota := result.quota } r.2.isNone r.2

/-- The end of `RelayTask`: outcome, row. -/
def relayTaskSettled (result : UpstreamResult) (settlementApplied : Bool) :
    BillingProg cfg Unit := do
  recordConsumeLogWithQiniuRealtimeWalletFlow cfg ctx session
    { result.params with quota := result.quota } settlementApplied none
  match ← (run (.newTask result.taskId session result.quota settlementApplied)).attempt with
  | .ok t => (run (.insertTask t)).ignore
  | .error _ =>
    -- a lookup that failed counts as no application
    (run (.insertTask (newTask result.taskId session result.quota settlementApplied {}))).ignore

/-- For a task the upstream accepts or refuses. -/
def relayTask (info : RelayInfo) (quota : Int) : BillingProg cfg Unit := do
  let faults ← ask .preConsumeFaults
  match ← run (.newBillingSession faults info quota) with
  | .error e => Prog.fail e.err
  | .ok session =>
    match ← ask .upstream with
    | none => return ()
    | some result =>
      let r ← settleBilling cfg session result.quota
      relayTaskSettled cfg ctx r.1 result r.2.isNone

/-! ## Repair -/

/-- The log the repair makes sure of. -/
def ensureQiniuRealtimeReplayConsumeLog (p : RecordConsumeLogParams) :
    BillingProg cfg (Option Nat) :=
  if a.consumeLogIds.isEmpty then do
    let existing : Option Nat ← run (.findConsumeLog a)
    if existing.isSome then return existing
    else
      let id ← run (.replayConsumeLog a p)
      return some id
  else pure a.consumeLogIds.head?

def restoreQiniuRealtimeUsageLog (params : Option RecordConsumeLogParams) :
    BillingProg cfg Unit :=
  match params with
  | none => run (.markQiniuRealtimeUsageLogApplied id none)
  | some p =>
    if !cfg.logConsumeEnabled then run (.markQiniuRealtimeUsageLogApplied id none)
    else do
      let current ← run (.loadQiniuRealtimeWalletApplication id)
      if current.usageApplied || current.usageLogApplied then
        if current.usageStatsApplied && !current.usageApplied then
          run (.markQiniuRealtimeUsageLogApplied id none)
        else return ()
      else
        check (failIf (¬ current.usageStatsApplied) (.message "七牛实时使用统计尚未恢复"))
        let logId ← ensureQiniuRealtimeReplayConsumeLog cfg current p
        run (.markQiniuRealtimeUsageLogApplied id logId)

def restoreQiniuRealtimeUsageFacts (a : QiniuRealtimeWalletApplication) :
    BillingProg cfg Unit := do
  run (.restoreQiniuRealtimeUsageStats id a.consumeLogPayload)
  restoreQiniuRealtimeUsageLog cfg id a.consumeLogPayload

/-- Bring the task rows of an application up to date, one copy after the other. -/
def markQiniuRealtimeTaskSettlementApplied (actualQuota : Int) :
    BillingProg cfg Unit := do
  let tasks : List (Task × Nat) ← run (.findTasksByApplication id)
  Prog.forEach tasks fun r => run (.updateTaskSettlement r.2 (r.1.settledAt actualQuota))

/-- The settlement stage of a repair, and the row afterwards. -/
def repairSettlement (existing : QiniuRealtimeWalletApplication) :
    BillingProg cfg QiniuRealtimeWalletApplication :=
  if existing.settlementApplied then pure existing
  else do
    let tokenRefused ← ask .tokenRefused
    orMarkFailed cfg id (run (.retryQiniuRealtimeWalletSettlement id tokenRefused))
    run (.loadQiniuRealtimeWalletApplication id)

/-- The usage stage of a repair, and the row afterwards. -/
def repairUsage (existing : QiniuRealtimeWalletApplication) :
    BillingProg cfg QiniuRealtimeWalletApplication :=
  if existing.usageApplied then pure existing
  else do
    orMarkFailed cfg id (restoreQiniuRealtimeUsageFacts cfg id existing)
    run (.loadQiniuRealtimeWalletApplication id)

def repairQiniuRealtimeWalletApplication : BillingProg cfg Unit := do
  let existing ← run (.loadQiniuRealtimeWalletApplication id)
  let existing ← repairSettlement cfg id existing
  let existing ← repairUsage cfg id existing
  let input := { qiniuRealtimeWalletFlowInputFromApplication existing
      (qiniuRealtimeWalletFlowRemark "" existing.requestId existing.batchId) none with
    logUsername := ""
    upstreamRequestId := "" }
  let r ← orMarkFailed cfg id (run (.applyQiniuRealtimeWalletFlow input))
  orMarkFailed cfg r.1 (markQiniuRealtimeTaskSettlementApplied cfg r.1 r.2.quota)

/-- One repair after the other, whatever becomes of them. -/
def scanFailedQiniuRealtimeWalletApplications (limit : Nat) : BillingProg cfg Unit := do
  let ids : List Nat ← run (.scanFailedApplications limit)
  Prog.forEach ids fun id => (repairQiniuRealtimeWalletApplication cfg id).ignore

/-! ## Pollers -/

def refundTask (t : Task) : BillingProg cfg Unit := do
  let faults ← ask .refundFaults
  run (.refundTaskQuota faults id t)

variable (task : Task)

/-- The row of a task that timed out. -/
def Task.timedOut (isLegacy : Bool) : Task :=
  { task with
    status := .failure
    progress := "100%"
    failReason := if isLegacy then "任务超时（旧系统遗留任务，不进行退款，请联系管理员）"
      else s!"任务超时（{cfg.taskTimeoutMinutes}分钟）" }

/-- Fail a task that timed out, and refund it if this sweep was the one to end it. -/
def timeOutTask (isLegacy : Bool) : BillingProg cfg Unit := do
  let t := task.timedOut cfg isLegacy
  let won : Bool ← run (.updateWithStatus id t task.status)
  if won && !isLegacy && (t.quota != 0 || t.usesQiniuOfficialLedger) then refundTask cfg id t
  else return ()

/-- One task of `sweepTimedOutTasks`. -/
def sweepTimedOutTask : BillingProg cfg Unit := do
  match ← ask (.timeout id) with
  | .running => return ()
  | .timedOut => timeOutTask cfg id task false
  | .legacy => timeOutTask cfg id task true

def sweepTimedOutTasks : BillingProg cfg Unit :=
  if cfg.taskTimeoutMinutes = 0 then pure ()
  else do
    let tasks : List (Task × Nat) ← run .unfinishedTasks
    Prog.forEach tasks fun r => (sweepTimedOutTask cfg r.2 r.1).ignore

/-- The progress the upstream reports, or what stands for the status. -/
def TaskReply.progressOr (reply : TaskReply) (default : String) : String :=
  if reply.progress = "" then default else reply.progress

/-- The row of a task after the upstream answered, with one request per task; `none` is a status the
poller does not know. -/
def videoTaskUpdate (reply : TaskReply) : Option Task :=
  match reply.status with
  | some .submitted => some { task with status := .submitted, progress := reply.progressOr "10%" }
  | some .queued => some { task with status := .queued, progress := reply.progressOr "20%" }
  | some .inProgress => some { task with status := .inProgress, progress := reply.progressOr "30%" }
  | some .success => some { task with status := .success, progress := reply.progressOr "100%" }
  | some .failure =>
    some { task with status := .failure, progress := "100%", failReason := reply.failReason }
  | _ => none

/-- The billing of a video task, if this poller is the one to do it. -/
def billVideoTask (t : Task) : BillingProg cfg Unit := do
  if t.status = .success then
    let faults ← ask .refundFaults
    let actualQuota ← ask (.completionQuota id)
    run (.settleTaskBillingOnComplete faults id t actualQuota)
  else if t.quota != 0 || t.usesQiniuOfficialLedger then refundTask cfg id t
  else return ()

def updateVideoSingleTask : BillingProg cfg Unit := do
  match ← ask (.fetchTask id) with
  | none => return ()
  | some reply =>
    match videoTaskUpdate task reply with
    | none => Prog.fail (.message "unknown task status")
    | some t =>
      if t.status = .success ∨ t.status = .failure then
        if task.status ≠ t.status then
          let won : Bool ← run (.updateWithStatus id t task.status)
          if won then billVideoTask cfg id t else return ()
        else
          -- nothing to move; the billing is not guarded here
          let changed : Bool ← ask (.changed id)
          let _ ← (if changed || t != task then (run (.updateWithStatus id t task.status)).ignore
            else pure ())
          billVideoTask cfg id t
      else
        let changed : Bool ← ask (.changed id)
        if changed || t != task then
          let _ ← run (.updateWithStatus id t task.status)
          return ()
        else return ()

/-- `updateVideoSingleTask` for the tasks of one read. -/
def pollVideoTasks : BillingProg cfg Unit := do
  let tasks : List (Task × Nat) ← run .unfinishedTasks
  Prog.forEach tasks fun r => (updateVideoSingleTask cfg r.2 r.1).ignore

/-- Whether an item says anything new; `changed` speaks for the columns not modelled. -/
def taskNeedsUpdate (changed : Bool) (task : Task) (reply : TaskReply) : Bool :=
  changed || reply.status != some task.status || task.failReason != reply.failReason ||
    (task.status == .failure || task.status == .success) && task.progress != "100%"

/-- The row of a task after an item of the answer for its channel. -/
def sunoTaskUpdate (reply : TaskReply) : Task :=
  let status := reply.status.getD task.status
  { task with
    status := status
    failReason := if reply.failReason = "" then task.failReason else reply.failReason
    progress :=
      if reply.failReason ≠ "" ∨ status = .failure ∨ reply.status = some .success then "100%"
      else task.progress }

/-- The items about one task in `updateSunoTasks`, which all work on the same copy. The refund comes
before the row is saved, whatever it has become in the meantime. -/
def updateSunoTask (id : Nat) : Task → List TaskReply → BillingProg cfg Unit
  | _, [] => pure ()
  | task, reply :: rest => do
    let changed : Bool ← ask (.changed id)
    if taskNeedsUpdate changed task reply then
      let t := sunoTaskUpdate task reply
      let _ ← (if reply.failReason ≠ "" ∨ t.status = .failure then (refundTask cfg id t).ignore
        else pure ())
      (run (.saveTask id t)).ignore
      updateSunoTask id t rest
    else updateSunoTask id task rest

/-- `DispatchPlatformUpdate`, for one task. -/
def pollTask (r : Task × Nat) : BillingProg cfg Unit := do
  match ← ask (.platform r.2) with
  | .midjourney => return ()
  | .suno =>
    let replies : List TaskReply ← ask (.fetchSunoTask r.2)
    updateSunoTask cfg r.2 r.1 replies
  | .video => updateVideoSingleTask cfg r.2 r.1
  | .lost failReason => run (.failTask r.2 failReason)

/-- One round of `TaskPollingLoop`. -/
def pollTasks : BillingProg cfg Unit := do
  sweepTimedOutTasks cfg
  let tasks : List (Task × Nat) ← run .unfinishedTasks
  Prog.forEach tasks fun r => (pollTask cfg r).ignore

end Handlers

/-! ## What can be started -/

inductive BillingRequest where
  | relay (ctx : RequestContext) (info : RelayInfo) (quota : Int)
  | relayTask (ctx : RequestContext) (info : RelayInfo) (quota : Int)
  /-- The outcome of a request, taken down once more. -/
  | record (ctx : RequestContext) (session : BillingSession) (params : RecordConsumeLogParams)
      (settlementApplied : Bool) (settlementErr : Option Err)
  | reserve (input : QiniuRealtimeWalletFlowInput)
  | recordFailure (input : QiniuRealtimeWalletFlowInput) (cause : Err)
  | repair (id : Nat)
  | scan (limit : Nat)
  | pollTasks

def BillingRequest.handle (cfg : Config) : BillingRequest → BillingProg cfg Unit
  | relay ctx info quota => ApiGateway.relay cfg ctx info quota
  | relayTask ctx info quota => ApiGateway.relayTask cfg ctx info quota
  | record ctx session params settlementApplied settlementErr =>
    recordConsumeLogWithQiniuRealtimeWalletFlow cfg ctx session params settlementApplied
      settlementErr
  | reserve input => do
    let _ ← BillingProg.run (.reserveQiniuRealtimeWalletApplication input)
    return ()
  | recordFailure input cause => BillingProg.run (.recordQiniuRealtimeWalletFailure input cause)
  | repair id => repairQiniuRealtimeWalletApplication cfg id
  | scan limit => scanFailedQiniuRealtimeWalletApplications cfg limit
  | pollTasks => ApiGateway.pollTasks cfg

end ApiGateway
