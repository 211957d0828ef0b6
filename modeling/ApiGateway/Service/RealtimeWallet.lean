import ApiGateway.Service.TaskBilling

/-!
# Realtime wallet applications: the transactions

A request at the upstream's market price leaves four traces that have to agree: the wallet is
charged the difference to the final quota, the statistics of the user go up, a consume log is
written, and one wallet flow documents the whole. They are written by different transactions, and a
row of `qiniu_realtime_wallet_applications` keeps track of how far the request has come. A
background job repairs what did not go through.

Every function here is one transaction.
-/

namespace ApiGateway

open Table Decimal

variable (cfg : Config)

/-! ## Inputs -/

structure QiniuRealtimeWalletFlowInput where
  userId : Nat
  /-- `none` for an id that is not positive. -/
  tokenId : Option Nat
  requestId : String := ""
  batchId : String := ""
  consumeLogIds : List Nat := []
  quota : Int
  preConsumedQuota : Int := 0
  settlementApplied : Bool := false
  usageStatsApplied : Bool := false
  usageLogApplied : Bool := false
  usageApplied : Bool := false
  consumeLogParams : Option RecordConsumeLogParams := none
  logUsername : String := ""
  upstreamRequestId : String := ""
  remark : String := ""

/-- The key as it is stored. -/
def RealtimeKey.text : RealtimeKey → String
  | batch id => "qiniu:realtime:batch:" ++ id
  | request id => "qiniu:realtime:request:" ++ id
  | log id => s!"qiniu:realtime:log:{id}"

/-- The key of a batch, of a request, or of a single log, in that order. -/
def realtimeKey (batchId requestId : String) (consumeLogIds : List Nat) : Option RealtimeKey :=
  if !isBlank batchId then some (.batch (trimSpace batchId))
  else if !isBlank requestId then some (.request (trimSpace requestId))
  else
    match consumeLogIds with
    | [id] => some (.log id)
    | _ => none

variable (input : QiniuRealtimeWalletFlowInput)

def qiniuRealtimeWalletIdempotencyKey :
    Option RealtimeKey :=
  realtimeKey input.batchId input.requestId input.consumeLogIds

/-- The checks of an input. The token and the key are what they were made for. -/
def validateQiniuRealtimeWalletFlowInput :
    Except Err (Nat × RealtimeKey) := do
  failIf (input.userId = 0) (.message "用户不存在")
  let tokenId ← orFail input.tokenId (.message "Token 不存在")
  failIf (input.quota ≤ 0) (.message "七牛实时消费 quota 必须大于 0")
  let key ← orFail (qiniuRealtimeWalletIdempotencyKey input) (.message "七牛实时钱包流水缺少幂等键")
  return (tokenId, key)

/-- What is known about the statistics and the log of a request. -/
structure UsageState where
  stats : Bool
  log : Bool
  applied : Bool
  deriving DecidableEq

def qiniuRealtimeUsageStateFromInput : UsageState :=
  if input.usageApplied then { stats := true, log := true, applied := true }
  else
    let covered := !input.consumeLogIds.isEmpty
    let stats := input.usageStatsApplied || covered
    let log := input.usageLogApplied || covered
    if input.consumeLogParams.isNone || !cfg.logConsumeEnabled then
      -- nothing is going to be logged; without any hint the statistics count as done, too
      let stats := stats || (!input.usageStatsApplied && !input.usageLogApplied)
      { stats := stats, log := true, applied := stats }
    else { stats := stats, log := log, applied := stats && log }

def qiniuRealtimeWalletFlowRemark (remark requestId batchId : String) : String :=
  if !isBlank remark then trimSpace remark
  else
    " ".intercalate (["市场价实时 token/model 消费"] ++
      (if isBlank requestId then [] else ["request=" ++ trimSpace requestId]) ++
      (if isBlank batchId then [] else ["batch=" ++ trimSpace batchId]))

/-! ## Rows -/

variable (s : Store) (id : Nat)

@[simps]
def Store.setApplication (a : QiniuRealtimeWalletApplication) : Store :=
  { s with realtimeApplications := s.realtimeApplications.modify id fun _ => a }

variable (a : QiniuRealtimeWalletApplication)

@[simps]
def Store.addApplication : Store :=
  { s with realtimeApplications := s.realtimeApplications ++ [a] }

/-- `lockQiniuRealtimeWalletApplicationByKeyTx` -/
def lockApplicationByKeyTx (key : RealtimeKey) (s : Store) :
    Option (Nat × QiniuRealtimeWalletApplication) :=
  lookup (fun a => a.idempotencyKey == key) s.realtimeApplications

namespace QiniuRealtimeWalletApplication

/-- The row an input describes. -/
def ofInput (tokenId : Nat) (key : RealtimeKey) (settlementApplied : Bool) (usage : UsageState)
    (status : ApplicationStatus) (lastError : String) : QiniuRealtimeWalletApplication where
  userId := input.userId
  tokenId := tokenId
  requestId := trimSpace input.requestId
  batchId := trimSpace input.batchId
  consumeLogIds := input.consumeLogIds
  idempotencyKey := key
  quota := input.quota
  preConsumedQuota := input.preConsumedQuota
  amount := quotaToWalletAmount cfg input.quota
  settlementApplied := settlementApplied
  usageStatsApplied := usage.stats
  usageLogApplied := usage.log
  usageApplied := usage.applied
  consumeLogPayload := input.consumeLogParams
  logUsername := trimSpace input.logUsername
  upstreamRequestId := trimSpace input.upstreamRequestId
  status := status
  lastError := lastError

/-- A row that is written again takes over the logs, the payload and the names it does not have
itself, and all progress on the usage. -/
def keepFrom (existing a : QiniuRealtimeWalletApplication) : QiniuRealtimeWalletApplication :=
  let stats := a.usageStatsApplied || existing.usageStatsApplied || existing.usageApplied
  let log := a.usageLogApplied || existing.usageLogApplied || existing.usageApplied
  { a with
    consumeLogIds := if a.consumeLogIds.isEmpty then existing.consumeLogIds else a.consumeLogIds
    consumeLogPayload := a.consumeLogPayload.or existing.consumeLogPayload
    logUsername := if a.logUsername = "" then existing.logUsername else a.logUsername
    upstreamRequestId :=
      if a.upstreamRequestId = "" then existing.upstreamRequestId else a.upstreamRequestId
    usageStatsApplied := stats
    usageLogApplied := log
    usageApplied := a.usageApplied || existing.usageApplied || (stats && log) }

/-- Applied, with nothing left to do. -/
def isComplete : Bool :=
  a.status == .applied && a.settlementApplied && a.usageApplied

end QiniuRealtimeWalletApplication

open QiniuRealtimeWalletApplication

/-! ## Online transactions -/

/-- Take down what an online request is about to apply: the row, and whether everything had been
applied before. -/
def reserveQiniuRealtimeWalletApplication :
    Except Err (Store × (Nat × QiniuRealtimeWalletApplication × Bool)) := do
  let (tokenId, key) ← validateQiniuRealtimeWalletFlowInput input
  let usage : UsageState := {
    stats := input.usageStatsApplied
    log := input.usageLogApplied
    applied := input.usageApplied || (input.usageStatsApplied && input.usageLogApplied) }
  let reserved := ofInput cfg input tokenId key input.settlementApplied usage .failed
    "七牛实时钱包应用待完成，等待在线流程或后台修复"
  match lockApplicationByKeyTx key s with
  | some (id, existing) =>
    if existing.isComplete && existing.walletFlowId.isSome then
      return (s, id, existing, true)
    -- the settlement flag is the caller's, not the stored one
    let reserved := { existing.keepFrom reserved with
      walletFlowId := existing.walletFlowId
      balanceAfter := existing.balanceAfter
      retryCount := existing.retryCount + 1 }
    return (s.setApplication id reserved, id, reserved, false)
  | none => return (s.addApplication reserved, s.realtimeApplications.length, reserved, false)

/-- Make sure that the flow of a request is there, and close its row over it. -/
def writeWalletFlow (key : RealtimeKey) (application : QiniuRealtimeWalletApplication) (s : Store) :
    Except Err (Store × QiniuRealtimeWalletApplication) := do
  let account ← getOrCreateWalletAccountTx input.userId s
  let flowKey := some (FlowKey.qiniuRealtime key)
  let s := createWalletFlowTx
    (walletFlow input.userId key.text flowKey .balanceConsume .balance .outgoing
      application.amount account
      (qiniuRealtimeWalletFlowRemark input.remark input.requestId input.batchId)) s
  let flow ← orFail (lookup (fun f : WalletFlow => f.idempotencyKey == flowKey) s.walletFlows)
    (.message "record not found")
  return (s, { application with
    balanceAfter := account.balanceAmount
    walletFlowId := some flow.1
    status := if application.usageApplied then .applied else .failed
    lastError := if application.usageApplied then "" else "七牛实时钱包应用未完整完成，等待后台修复" })

/-- Write the wallet flow of a settled request, and say whether everything is done. The settlement
is taken for granted. -/
def applyQiniuRealtimeWalletFlow :
    Except Err (Store × (Nat × QiniuRealtimeWalletApplication)) := do
  let (tokenId, key) ← validateQiniuRealtimeWalletFlowInput input
  let fresh := ofInput cfg input tokenId key true (qiniuRealtimeUsageStateFromInput cfg input)
    .pending ""
  match lockApplicationByKeyTx key s with
  | some (id, existing) =>
    if existing.isComplete && existing.walletFlowId.isSome then
      return (s, id, existing)
    let (s, application) ← writeWalletFlow input key { existing.keepFrom fresh with
      retryCount :=
        if existing.status == .applied then existing.retryCount else existing.retryCount + 1 } s
    return (s.setApplication id application, id, application)
  | none =>
    let (s, application) ← writeWalletFlow input key fresh s
    return (s.addApplication application, s.realtimeApplications.length, application)

/-- Take down that an online request could not be settled. Inputs that cannot be
keyed are dropped. -/
def recordQiniuRealtimeWalletFailure (cause : Err) (s : Store) : Store :=
  match validateQiniuRealtimeWalletFlowInput input with
  | .error _ => s
  | .ok (tokenId, key) =>
    let application := ofInput cfg input tokenId key input.settlementApplied
      (qiniuRealtimeUsageStateFromInput cfg input) .failed cause.text
    match lockApplicationByKeyTx key s with
    | some (id, existing) =>
      if existing.isComplete then s
      -- the settlement flag is the caller's, not the stored one
      else s.setApplication id { existing.keepFrom application with
        userId := existing.userId
        tokenId := existing.tokenId
        walletFlowId := existing.walletFlowId
        balanceAfter := existing.balanceAfter
        retryCount := existing.retryCount + 1 }
    | none => s.addApplication application

def markQiniuRealtimeWalletApplicationFailed (cause : Err) (s : Store) : Store :=
  { s with realtimeApplications := s.realtimeApplications.modify id fun a =>
      { a with status := .failed, lastError := cause.text } }

def loadQiniuRealtimeWalletApplication (s : Store) :
    Except Err QiniuRealtimeWalletApplication :=
  orFail s.realtimeApplications[id]? (.message "record not found")

/-! ## Usage -/

/-- Raise the statistics of a user and a channel; there is no channel 0. -/
@[simps]
def Store.addUsage (u channelId : Nat) (quota : Int) : Store :=
  { s with
    users := Function.update s.users u { s.users u with
      usedQuota := (s.users u).usedQuota + quota
      requestCount := (s.users u).requestCount + 1 }
    channelUsedQuota :=
      if 0 < channelId then
        Function.update s.channelUsedQuota channelId (s.channelUsedQuota channelId + quota)
      else s.channelUsedQuota }

def applyQiniuRealtimeUsageStatsDirect (u channelId : Nat) (quota : Int) (s : Store) : Store :=
  if quota ≤ 0 then s else s.addUsage u channelId quota

/-- Count the request in the statistics, once. -/
def restoreQiniuRealtimeUsageStats (params : Option RecordConsumeLogParams) (s : Store) :
    Except Err Store := do
  let current ← loadQiniuRealtimeWalletApplication id s
  if current.usageApplied then
    return s
  if current.usageStatsApplied then
    if current.usageLogApplied then
      return s.setApplication id { current with usageApplied := true, lastError := "" }
    return s
  let logApplied := current.usageLogApplied || params.isNone || !cfg.logConsumeEnabled
  let s :=
    match params with
    | some p => if 0 < current.quota then s.addUsage current.userId p.channelId current.quota else s
    | none => s
  return s.setApplication id { current with
    usageStatsApplied := true
    usageLogApplied := logApplied
    usageApplied := logApplied
    lastError := "" }

def markQiniuRealtimeUsageLogApplied (logId : Option Nat) (s : Store) :
    Except Err Store := do
  let current ← loadQiniuRealtimeWalletApplication id s
  if current.usageApplied then
    return s
  failIf (¬ current.usageStatsApplied) (.message "七牛实时使用统计尚未恢复")
  if current.usageLogApplied then
    return s.setApplication id { current with usageApplied := true, lastError := "" }
  return s.setApplication id { current with
    usageLogApplied := true
    usageApplied := true
    lastError := ""
    consumeLogIds := if current.consumeLogIds.isEmpty then logId.toList else current.consumeLogIds }

/-! ## Consume logs -/

/-- Who a request came from, as its context has it. -/
structure RequestContext where
  username : String := ""
  requestId : String := ""
  upstreamRequestId : String := ""

def RecordConsumeLogParams.log (p : RecordConsumeLogParams) (u : Nat) (quota : Int) (tokenId : Nat)
    (username requestId upstreamRequestId : String) : Log where
  userId := u
  username := username
  content := p.content
  promptTokens := p.promptTokens
  completionTokens := p.completionTokens
  tokenName := p.tokenName
  modelName := p.modelName
  quota := quota
  channelId := p.channelId
  tokenId := tokenId
  useTime := p.useTimeSeconds
  isStream := p.isStream
  group := p.group
  requestId := requestId
  upstreamRequestId := upstreamRequestId
  other := p.other

@[simps]
def Store.addLog (l : Log) : Store := { s with logs := s.logs ++ [l] }

/-- The result is the row, if logging is switched on. -/
def recordConsumeLog (ctx : RequestContext) (u : Nat) (p : RecordConsumeLogParams) (s : Store) :
    Store × Option Nat :=
  if cfg.logConsumeEnabled then
    (s.addLog (p.log u p.quota p.tokenId ctx.username ctx.requestId ctx.upstreamRequestId),
      some s.logs.length)
  else (s, none)

/-- The first log an application covers, if that log exists. -/
def getQiniuRealtimeConsumeLogByApplication (s : Store) :
    Option Nat :=
  a.consumeLogIds.head?.filter fun id => decide (id < s.logs.length)

/-- A consume log that looks like the one of the application. -/
def findConsumeLog (s : Store) : Option Nat :=
  (lookup (fun l : Log => l.userId == a.userId && l.tokenId == a.tokenId && l.quota == a.quota &&
    (isBlank a.requestId || l.requestId == trimSpace a.requestId)) s.logs).map Prod.fst

/-- The log the repair writes in place of the online request. -/
def replayConsumeLog (p : RecordConsumeLogParams) (s : Store) :
    Store × Nat :=
  (s.addLog (p.log a.userId a.quota a.tokenId (trimSpace a.logUsername) (trimSpace a.requestId)
    (trimSpace a.upstreamRequestId)), s.logs.length)

/-! ## Repair -/

/-- A difference, charged or returned without a flow; the balance may go below zero. -/
def applySilentDelta (u : Nat) (delta : Int) (s : Store) : Except Err Store :=
  if delta > 0 then debitBalanceByQuotaSilentlyAllowDebtTx cfg u delta s
  else if delta < 0 then creditBalanceByQuotaSilentlyTx cfg u (-delta) s
  else .ok s

/-- Charge what the online settlement did not. The token follows in a statement of its own, whose
error is only logged; nothing reads the token's row in between, so both are one step, and
`tokenRefused` says whether the second failed. -/
def retryQiniuRealtimeWalletSettlement (tokenRefused : Bool) (s : Store) :
    Except Err Store := do
  let current ← loadQiniuRealtimeWalletApplication id s
  if current.settlementApplied then
    return s
  let delta := current.quota - current.preConsumedQuota
  let s ← applySilentDelta cfg current.userId delta s
  let account ← getOrCreateWalletAccountTx current.userId s
  let s := s.setApplication id { current with
    settlementApplied := true
    balanceAfter := account.balanceAmount
    lastError := ""
    retryCount := current.retryCount + 1 }
  return if delta = 0 ∨ tokenRefused then s else s.chargeToken current.tokenId delta

/-- What the repair scan selects: everything that is not complete. -/
def scanFailedApplications (limit : Nat) (s : Store) : List Nat :=
  ((s.realtimeApplications.zipIdx.filter fun r => !r.1.isComplete).map Prod.snd).take limit

/-! ## Task rows -/

/-- The tasks whose settlement record names the application. -/
def findTasksByApplication (s : Store) : List (Task × Nat) :=
  s.tasks.zipIdx.filter fun r =>
    (r.1.qiniuRealtimeSettlement.bind fun st => st.applicationId) == some id

variable (t : Task)

/-- `UPDATE tasks SET quota, private_data` from a copy. -/
@[simps]
def Store.updateTaskSettlement : Store :=
  { s with tasks := s.tasks.modify id fun row => { row with
      quota := t.quota
      billingSource := t.billingSource
      subscriptionId := t.subscriptionId
      tokenId := t.tokenId
      qiniuRealtimeSettlement := t.qiniuRealtimeSettlement } }

/-- The copy of a task as the repair writes it back. -/
def Task.settledAt (actualQuota : Int) : Task :=
  { t with
    quota := if 0 < actualQuota then actualQuota else t.quota
    qiniuRealtimeSettlement := t.qiniuRealtimeSettlement.map fun st => { st with
      settlementApplied := true
      actualQuota := if 0 < actualQuota then actualQuota else st.actualQuota } }

/-- The pollers pass over a task that has ended or says it is complete. -/
def Task.unfinished : Bool :=
  t.progress != "100%" && t.status != .failure && t.status != .success

def unfinishedTasks : List (Task × Nat) :=
  s.tasks.zipIdx.filter fun r => r.1.unfinished

/-- `Save`: the whole row, from a copy. -/
@[simps]
def Store.saveTask : Store :=
  { s with tasks := s.tasks.modify id fun _ => t }

/-- The whole row, if it still has the status the copy was loaded with. The result says whether it
had. -/
def Task.updateWithStatus (id : Nat) (fromStatus : TaskStatus) (s : Store) :
    Store × Bool :=
  match s.tasks[id]? with
  | some row => if row.status = fromStatus then (s.saveTask id t, true) else (s, false)
  | none => (s, false)

/-- `TaskBulkUpdateByID`: it only fails tasks. -/
@[simps]
def Store.failTask (failReason : Option String) : Store :=
  { s with tasks := s.tasks.modify id fun t => { t with
      status := .failure
      progress := "100%"
      failReason := failReason.getD t.failReason } }

@[simps]
def Store.addTask : Store := { s with tasks := s.tasks ++ [t] }

end ApiGateway
