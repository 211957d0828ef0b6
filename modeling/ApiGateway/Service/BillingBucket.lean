import ApiGateway.Service.Funding

/-!
# Billing buckets

The upstream bills a day later and in its own numbers. For every token and day a bucket compares the
official bill with what was charged in realtime, and the difference is charged to the user, or given
back: the pending delta is *applied*. Official fees are corrected later on, so a bucket is
recalculated and applied again, each time under the next version.

A call is committed in several transactions, and an error does not undo the ones before it.
-/

namespace ApiGateway

open Table Decimal

variable (cfg : Config)

/-! ## Billing dates -/

/-- The number a list of digits stands for. -/
def decimalNumber (digits : List Char) : Int :=
  digits.foldl (fun n c => 10 * n + (c.toNat - '0'.toNat : Nat)) 0

def daysInMonth (year month : Int) : Int :=
  if month = 2 then
    if year % 4 = 0 ∧ (year % 100 ≠ 0 ∨ year % 400 = 0) then 29 else 28
  else if month = 4 ∨ month = 6 ∨ month = 9 ∨ month = 11 then 30
  else 31

/-- Days since the first of January 1970, counted in years that begin in March. -/
def daysFromCivil (year month day : Int) : Int :=
  let year := if month ≤ 2 then year - 1 else year
  let dayOfYear := (153 * ((month + 9) % 12) + 2) / 5 + day - 1
  year * 365 + year / 4 - year / 100 + year / 400 + dayOfYear - 719468

/-- `time.ParseInLocation("2006-01-02", …)`: when the day begins in China, in Unix time. -/
def parseBillingDate (text : String) : Option Int :=
  match text.toList with
  | [y₁, y₂, y₃, y₄, '-', m₁, m₂, '-', d₁, d₂] =>
    let year := decimalNumber [y₁, y₂, y₃, y₄]
    let month := decimalNumber [m₁, m₂]
    let day := decimalNumber [d₁, d₂]
    if [y₁, y₂, y₃, y₄, m₁, m₂, d₁, d₂].all Char.isDigit = true ∧
        1 ≤ month ∧ month ≤ 12 ∧ 1 ≤ day ∧ day ≤ daysInMonth year month then
      some (daysFromCivil year month day * 86400 - 8 * 3600)
    else none
  | _ => none

example : parseBillingDate "1970-01-02" = some (16 * 3600) := by decide +kernel
example : parseBillingDate "2026-02-29" = none := by decide +kernel

/-! ## The guard -/

/-- The settings of the official bill that may change while the service runs. -/
structure QiniuCostDetailSetting where
  costDetailAutoApplyEnabled : Bool
  /-- Day of the configured cutover, if there is one. -/
  cutoverBillingDate : Option String

variable (setting : QiniuCostDetailSetting)

/-- Status of a bucket with this pending delta, and the reason if it must not be applied. -/
def qiniuBillingBucketStatusForPendingDelta (billingDate : String) (pendingDeltaQuota : Int) :
    QiniuBillingBucketStatus × String :=
  if ¬ setting.costDetailAutoApplyEnabled then (.needsReview, "auto_apply_disabled")
  else
    match setting.cutoverBillingDate with
    | none => (.skipped, "cutover_not_configured")
    | some cutoverBillingDate =>
      if parseBillingDate (trimSpace billingDate) = none then (.skipped, "invalid_billing_date")
      else if trimSpace billingDate < cutoverBillingDate then (.skipped, "before_cutover")
      else if pendingDeltaQuota = 0 then (.reconciled, "")
      else (.pending, "")

/-! ## What was charged in realtime -/

/-- The columns of a realtime application that the summary reads. -/
structure LocalApplication where
  tokenId : Nat
  status : ApplicationStatus
  settlementApplied : Bool
  createdTime : Int
  quota : Int
  requestId : String
  consumeLogIds : List Nat

/-- The columns of a log that the summary reads. -/
structure LocalLog where
  id : Nat
  tokenId : Nat
  type : LogType
  createdAt : Int
  quota : Int
  requestId : String
  /-- The log says that it was billed at the market price. -/
  qiniuMarketRealtime : Bool

/-- The two tables, which may be in different databases. -/
structure LocalUsage where
  applications : List LocalApplication
  logs : List LocalLog

/-- Applications of the day, and the logs of the day that belong to none of them. -/
def summarizeQiniuLocalRealtimeQuota (usage : LocalUsage) (tokenId : Nat) (billingDate : String) :
    Except Err (Int × QiniuBillingLocalRealtimeStatus) := do
  let billingDay ← orFail (parseBillingDate (trimSpace billingDate)) (.message "parsing time")
  let applications := usage.applications.filter fun a =>
    a.tokenId == tokenId && a.status == .applied && a.settlementApplied &&
      decide (billingDay ≤ a.createdTime) && decide (a.createdTime < billingDay + 86400)
  let logs := usage.logs.filter fun l =>
    l.tokenId == tokenId && l.type == .consume && l.qiniuMarketRealtime &&
      decide (billingDay ≤ l.createdAt) && decide (l.createdAt < billingDay + 86400)
  let unmatched := logs.filter fun l =>
    !(applications.any fun a => a.consumeLogIds.contains l.id) &&
      (isBlank l.requestId ||
        !(applications.any fun a => trimSpace a.requestId == trimSpace l.requestId))
  if applications.isEmpty && unmatched.isEmpty then
    return (0, .missing)
  return ((applications.map (·.quota)).sum + (unmatched.map (·.quota)).sum, .found)

/-- Realtime usage as a recalculation sees it: usage that cannot be read counts as none. -/
def localRealtimeOf (usage : Option LocalUsage) (tokenId : Nat) (billingDate : String) :
    Int × QiniuBillingLocalRealtimeStatus :=
  match usage.map fun usage => summarizeQiniuLocalRealtimeQuota usage tokenId billingDate with
  | some (.ok summary) => summary
  | _ => (0, .error)

/-! ## Records and buckets -/

/-- The record is charged to someone. -/
def QiniuCostDetailRecord.isResolved (r : QiniuCostDetailRecord) : Bool :=
  r.ownerStatus == .resolved || r.ownerStatus == .manualResolved

variable (tokenId : Nat)

/-- The record belongs into the bucket of this token and day. -/
def QiniuCostDetailRecord.attributedTo (billingDate : String) (r : QiniuCostDetailRecord) : Bool :=
  r.tokenId == some tokenId && r.billingDate == billingDate && r.isResolved

variable (s : Store)

/-- The records of a bucket, with their ids. -/
def Store.attributedRecords (tokenId : Nat) (billingDate : String) :
    List (QiniuCostDetailRecord × Nat) :=
  s.costDetailRecords.zipIdx.filter fun r => r.1.attributedTo tokenId billingDate

/-- The bucket of a token and day. -/
def Store.bucketOf (tokenId : Nat) (billingDate : String) :
    Option (Nat × QiniuBillingBucket) :=
  lookup (fun b => b.tokenId == some tokenId && b.billingDate == billingDate) s.billingBuckets

/-- The application of a bucket under a version. -/
def Store.bucketApplication (bucketId applyVersion : Nat) :
    Option (Nat × QiniuBillingBucketApplication) :=
  lookup (fun a => a.bucketId == bucketId && a.applyVersion == applyVersion) s.bucketApplications

def Store.addBucket (bucket : QiniuBillingBucket) : Store :=
  { s with billingBuckets := s.billingBuckets ++ [bucket] }

def Store.updateBucket (id : Nat) (f : QiniuBillingBucket → QiniuBillingBucket) :
    Store :=
  { s with billingBuckets := s.billingBuckets.modify id f }

def Store.updateBucketApplication (id : Nat)
    (f : QiniuBillingBucketApplication → QiniuBillingBucketApplication) : Store :=
  { s with bucketApplications := s.bucketApplications.modify id f }

def Store.addBucketApplication (a : QiniuBillingBucketApplication) : Store :=
  { s with bucketApplications := s.bucketApplications ++ [a] }

/-- Money of any sign to quota units. -/
def walletAmountToQuota (amount : ℚ) : Int := intPart (amount * cfg.quotaPerUnit)

def qiniuCostDetailAmountToQuota (amount : ℚ) : Int := walletAmountToQuota cfg amount

def signedWalletAmount (deltaQuota : Int) : ℚ :=
  if deltaQuota = 0 then 0
  else
    let amount := quotaToWalletAmount cfg |deltaQuota|
    if deltaQuota < 0 then -amount else amount

/-! ## Recalculation -/

/-- `qiniuBucketItemKey` -/
def QiniuCostDetailRecord.itemKey (r : QiniuCostDetailRecord) : String × String :=
  (trimSpace r.modelName, trimSpace r.billingItem)

variable (bucketId : Nat)

/-- The items of a bucket, by model and billing item. The currency is that of the last
record. -/
def bucketItems (records : List (QiniuCostDetailRecord × Nat)) :
    List QiniuBillingBucketItem :=
  ((records.map fun r => r.1.itemKey).dedup).map fun key =>
    let rows := records.filter fun r => r.1.itemKey == key
    { bucketId := bucketId
      modelName := key.1
      billingItem := key.2
      usageCount := total (fun r => r.1.usageCount) rows
      feeAmount := total (fun r => r.1.feeAmount) rows
      currency := (rows.getLast?.map fun r => r.1.currency).getD ""
      rawRecordIds := rows.map Prod.snd }

def upsertBucketItem (items : List QiniuBillingBucketItem) (item : QiniuBillingBucketItem) :
    List QiniuBillingBucketItem :=
  match lookup (fun i => i.bucketId == item.bucketId && i.modelName == item.modelName &&
      i.billingItem == item.billingItem) items with
  | none => items ++ [item]
  | some (id, _) => items.modify id fun i => { i with
      usageCount := item.usageCount
      feeAmount := item.feeAmount
      currency := item.currency
      rawRecordIds := item.rawRecordIds }

def upsertQiniuBillingBucketItemsTx (items : List QiniuBillingBucketItem) (s : Store) : Store :=
  { s with billingBucketItems := items.foldl upsertBucketItem s.billingBucketItems }

/-- The quota of the records of a bucket. -/
def officialQuotaOf (records : List (QiniuCostDetailRecord × Nat)) : Int :=
  qiniuCostDetailAmountToQuota cfg (total (fun r => r.1.feeAmount) records)

/-- The row of a bucket after its recalculation from `records`. -/
def QiniuBillingBucket.recalculated (token : Token) (records : List (QiniuCostDetailRecord × Nat))
    (localRealtime : Int × QiniuBillingLocalRealtimeStatus) (bucket : QiniuBillingBucket) :
    QiniuBillingBucket :=
  let officialQuota := officialQuotaOf cfg records
  let pendingDeltaQuota := officialQuota - localRealtime.1 - bucket.appliedDeltaQuota
  let status := qiniuBillingBucketStatusForPendingDelta setting bucket.billingDate pendingDeltaQuota
  { bucket with
    userId := token.userId
    qiniuMaskedKey := ((records.map fun r => r.1.qiniuMaskedKey).find? (· != "")).getD ""
    ownerStatus :=
      if records.any fun r => r.1.ownerStatus == .manualResolved then .manualResolved
      else .resolved
    officialAmount := total (fun r => r.1.feeAmount) records
    officialQuota := officialQuota
    localRealtimeQuota := localRealtime.1
    localRealtimeStatus := localRealtime.2
    pendingDeltaQuota := pendingDeltaQuota
    status := status.1
    lastError := status.2
    retryCount := if status.2 = "" then bucket.retryCount else bucket.retryCount + 1 }

/-- The row a recalculation of token and day writes, from the row it has read. -/
def recalculatedBucket (billingDate : String) (token : Token)
    (records : List (QiniuCostDetailRecord × Nat))
    (localRealtime : Int × QiniuBillingLocalRealtimeStatus) :
    Option (Nat × QiniuBillingBucket) → QiniuBillingBucket
  | none =>
    { userId := token.userId, tokenId := some tokenId, billingDate := billingDate :
      QiniuBillingBucket }.recalculated cfg setting token records localRealtime
  | some (_, bucket) =>
    { bucket with
      previousOfficialAmount := bucket.officialAmount
      previousOfficialQuota := bucket.officialQuota }.recalculated
        cfg setting token records localRealtime

/-- Save the whole row, under the id it was read with or as a new one, and its items. -/
def saveRecalculatedBucket (read : Option (Nat × QiniuBillingBucket)) (bucket : QiniuBillingBucket)
    (records : List (QiniuCostDetailRecord × Nat)) (s : Store) : Nat × Store :=
  match read with
  | none =>
    let id := s.billingBuckets.length
    (id, upsertQiniuBillingBucketItemsTx (bucketItems id records) (s.addBucket bucket))
  | some (id, _) =>
    (id, upsertQiniuBillingBucketItemsTx (bucketItems id records)
      (s.updateBucket id fun _ => bucket))

/-- What a recalculation needs before it can start. -/
def recalculableToken (token : Token) (records : List (QiniuCostDetailRecord × Nat)) :
    Except Err Unit := do
  failIf (¬ token.qiniuManaged) (.message "只能为托管 token 重算 bucket")
  failIf (records.isEmpty) (.message "bucket 重算缺少已归属 cost-detail 明细")

def recalculateQiniuBillingBucketTx (billingDate : String)
    (localRealtime : Int × QiniuBillingLocalRealtimeStatus) (s : Store) :
    Except Err (Nat × Store) := do
  let token ← orFail s.tokens[tokenId]? (.message "record not found")
  let records := s.attributedRecords tokenId billingDate
  recalculableToken token records
  let read := s.bucketOf tokenId billingDate
  let bucket := recalculatedBucket cfg setting tokenId billingDate token records localRealtime read
  return saveRecalculatedBucket read bucket records s

/-! ## Application -/

/-- A validation error is not a failure of the application; it may say what status the bucket should
have instead. -/
inductive BucketErr where
  | failure (e : Err)
  | validation (message : String) (status : Option (QiniuBillingBucketStatus × String))
  deriving DecidableEq

inductive ApplyOutcome where
  | applied
  | skipped
  deriving DecidableEq

/-- Who applies a bucket. A retry names the application it expects to find. -/
structure ApplyOptions where
  expectedApplicationId : Option Nat := none
  operationSource : QiniuBillingOperationSource := .system

/-- The checks that need only the bucket. The answer is whether to go on. -/
def QiniuBillingBucket.admit (bucket : QiniuBillingBucket) :
    Except BucketErr Bool :=
  if bucket.pendingDeltaQuota = 0 ∧ (bucket.status = .applied ∨ bucket.status = .reconciled) then
    .ok false
  else if bucket.ownerStatus ≠ .resolved ∧ bucket.ownerStatus ≠ .manualResolved then
    -- the update of the status is rolled back with the rest
    .error (.failure (.message "账单 bucket 归属未解析，不能应用账务"))
  else
    let status := qiniuBillingBucketStatusForPendingDelta setting bucket.billingDate
      bucket.pendingDeltaQuota
    if status.1 ≠ .pending ∧ status.1 ≠ .reconciled then
      .error (.validation ("账单 bucket 未通过自动落账守卫：" ++ status.2) (some status))
    else .ok true

/-- The checks of the application found under the next version. -/
def ApplyOptions.check (options : ApplyOptions)
    (existing : Option (Nat × QiniuBillingBucketApplication)) : Except BucketErr Bool := do
  match options.expectedApplicationId with
  | none => pure ()
  | some expected =>
    failIf ((existing.map Prod.fst) ≠ some expected)
      (.validation "账单 bucket application 不是当前待应用版本" none)
    failIf ((existing.map fun e => e.2.status) ≠ some .failed)
      (.validation "只能重试失败的账单 bucket application" none)
  return existing.all fun e => e.2.status == .failed

variable (bucket : QiniuBillingBucket)

/-- Text of the flow of an application. -/
def qiniuBillingBucketWalletRemark (deltaQuota debtQuota : Int) :
    String :=
  let action := if deltaQuota > 0 then "补扣" else if deltaQuota < 0 then "退款" else "调整"
  let official := if bucket.localRealtimeStatus = .missing then "官方同步" else ""
  let debt := if debtQuota > 0 then s!" debt={debtQuota}" else ""
  official ++ "账单延迟对账" ++ action ++ s!" date={bucket.billingDate} delta={deltaQuota}" ++ debt

/-- What an application leaves in the wallet. -/
structure WalletDelta where
  walletFlowId : Option Nat := none
  consumeLogId : Option Nat := none
  balanceBeforeQuota : Int := 0
  balanceAfterQuota : Int := 0
  debtQuota : Int := 0

/-- Charge the delta, or give it back. The upstream has served the requests, so a shortfall
becomes debt. -/
def applyQiniuBucketWalletDeltaTx (deltaQuota : Int) (bizNo : String) (key : FlowKey) (s : Store) :
    Except Err (WalletDelta × Store) := do
  failIf (walletFlowExistsTx s (some key)) (.message "账单 bucket 钱包流水已存在")
  let u := bucket.userId
  let s ← ensureLegacyWalletBalanceTx cfg u s
  let account := s.wallets u
  let balanceBeforeQuota := walletAmountToQuota cfg account.balanceAmount
  let amount := quotaToWalletAmount cfg |deltaQuota|
  let account := { account with
    balanceAmount := if deltaQuota > 0 then account.balanceAmount - amount
      else account.balanceAmount + amount }
  let s := s.addQuota u (-deltaQuota) (some key)
  let s := s.saveAccount u account (some key)
  let balanceAfterQuota := walletAmountToQuota cfg account.balanceAmount
  let debtQuota := if balanceAfterQuota < 0 then -balanceAfterQuota else 0
  let flowType : WalletFlowType := if deltaQuota > 0 then .balanceConsume else .balanceRefund
  let direction : WalletFlowDirection := if deltaQuota > 0 then .outgoing else .incoming
  return ({ walletFlowId := some s.walletFlows.length, balanceBeforeQuota, balanceAfterQuota,
            debtQuota : WalletDelta },
    createWalletFlowTx (walletFlow u bizNo (some key) flowType .balance direction amount account
      (qiniuBillingBucketWalletRemark bucket deltaQuota debtQuota)) s)

/-- `used_quota` of the user does not go below zero. -/
def applyUserUsedQuotaDeltaTx (u : Nat) (deltaQuota : Int) (s : Store) : Store :=
  { s with users := Function.update s.users u { s.users u with
      usedQuota := max 0 ((s.users u).usedQuota + deltaQuota) } }

def applyTokenUsedQuotaDeltaTx (tokenId : Option Nat) (deltaQuota : Int) (s : Store) :
    Except Err Store := do
  let id ← orFail tokenId (.message "record not found")
  let token ← orFail s.tokens[id]? (.message "record not found")
  return { s with tokens := s.tokens.modify id fun _ => { token with
      usedQuota := max 0 (token.usedQuota + deltaQuota) } }

/-- The log that tells the user about the delta. -/
def createQiniuBucketSettlementLogTx (deltaQuota : Int) (s : Store) :
    Store :=
  { s with logs := s.logs ++ [{
      userId := bucket.userId
      type := if deltaQuota < 0 then .refund else .consume
      username := ""
      content := if deltaQuota < 0 then "账单延迟对账退款" else "账单延迟对账补扣"
      promptTokens := 0
      completionTokens := 0
      tokenName := ""
      modelName := "billing-settlement"
      quota := |deltaQuota|
      channelId := 0
      tokenId := bucket.tokenId.getD 0
      useTime := 0
      isStream := false
      group := ""
      requestId := ""
      upstreamRequestId := ""
      other := "qiniu_cost_detail_bucket" }] }

/-- The text that `FlowKey.qiniuBillingBucket` stands for. -/
def qiniuBillingBucketIdempotencyKey (bucketId applyVersion : Nat) : String :=
  s!"qiniu:billing_bucket:{bucketId}:v{applyVersion}"

/-- The money side of an application. A delta of zero only reads the balance. -/
def QiniuBillingBucket.chargeDelta (bucket : QiniuBillingBucket) (s : Store) :
    Except Err (WalletDelta × Store) := do
  let deltaQuota := bucket.pendingDeltaQuota
  let applyVersion := bucket.applyVersion + 1
  if deltaQuota = 0 then
    failIf (bucket.userId = 0) (.message "record not found")
    let quota := (s.users bucket.userId).quota
    return ({ balanceBeforeQuota := quota, balanceAfterQuota := quota : WalletDelta }, s)
  else
    let (delta, s) ← applyQiniuBucketWalletDeltaTx cfg bucket deltaQuota
      (qiniuBillingBucketIdempotencyKey bucketId applyVersion)
      (.qiniuBillingBucket bucketId applyVersion) s
    let s := applyUserUsedQuotaDeltaTx bucket.userId deltaQuota s
    let s ← applyTokenUsedQuotaDeltaTx bucket.tokenId deltaQuota s
    return ({ delta with consumeLogId := some s.logs.length },
      createQiniuBucketSettlementLogTx bucket deltaQuota s)

/-- The row of a successful application. -/
def QiniuBillingBucket.successfulApplication (bucket : QiniuBillingBucket) (delta : WalletDelta)
    (source : QiniuBillingOperationSource) : QiniuBillingBucketApplication :=
  { bucketId := bucketId
    applyVersion := bucket.applyVersion + 1
    deltaQuota := bucket.pendingDeltaQuota
    deltaAmount := signedWalletAmount cfg bucket.pendingDeltaQuota
    walletFlowId := delta.walletFlowId
    consumeLogId := delta.consumeLogId
    balanceBeforeQuota := delta.balanceBeforeQuota
    balanceAfterQuota := delta.balanceAfterQuota
    debtQuota := delta.debtQuota
    status := .success
    operationSource := source }

/-- `updateQiniuBillingBucketApplicationSuccessTx`: a failed application keeps its bucket, its
version and its retries. -/
def QiniuBillingBucketApplication.succeed (a app : QiniuBillingBucketApplication) :
    QiniuBillingBucketApplication :=
  { app with
    bucketId := a.bucketId
    applyVersion := a.applyVersion
    retryCount := a.retryCount }

/-- The row of a bucket after its application, with the amounts it was locked with. -/
def QiniuBillingBucket.afterApplication (bucket row : QiniuBillingBucket) : QiniuBillingBucket :=
  { row with
    appliedDeltaQuota := bucket.appliedDeltaQuota + bucket.pendingDeltaQuota
    pendingDeltaQuota := 0
    applyVersion := bucket.applyVersion + 1
    status := if bucket.pendingDeltaQuota = 0 then .reconciled else .applied
    lastError := "" }

/-- A successful application takes the place of the failed one that was found. -/
def Store.storeApplication (existing : Option (Nat × QiniuBillingBucketApplication))
    (application : QiniuBillingBucketApplication) : Store :=
  match existing with
  | some (id, _) => s.updateBucketApplication id (·.succeed application)
  | none => s.addBucketApplication application

/-- Everything a successful application writes, from the bucket it has locked and the failed
application it has found. -/
def QiniuBillingBucket.writeApplication (bucket : QiniuBillingBucket)
    (existing : Option (Nat × QiniuBillingBucketApplication)) (source : QiniuBillingOperationSource)
    (s : Store) : Except Err Store := do
  let (delta, s) ← bucket.chargeDelta cfg bucketId s
  let application := bucket.successfulApplication cfg bucketId delta source
  return (s.storeApplication existing application).updateBucket bucketId bucket.afterApplication

/-- Errors that are not about the bucket itself. -/
def orFailure {α : Type} : Except Err α → Except BucketErr α
  | .ok a => .ok a
  | .error e => .error (.failure e)

/-- The flow of a version is there although its application did not succeed. -/
def refuseDuplicateFlow (flowExists : Bool) : Except Err Unit :=
  failIf (bucket.pendingDeltaQuota ≠ 0 ∧ flowExists = true)
    (.message "账单 bucket 钱包流水已存在但 application 未成功")

/-- The transaction of an application. -/
def applyQiniuBillingBucketTx (options : ApplyOptions) (s : Store) :
    Except BucketErr (ApplyOutcome × Store) := do
  let bucket ← orFail s.billingBuckets[bucketId]? (.failure (.message "record not found"))
  if ¬ (← bucket.admit setting) then
    return (.skipped, s)
  let existing := s.bucketApplication bucketId (bucket.applyVersion + 1)
  if ¬ (← options.check existing) then
    return (.skipped, s)
  orFailure (refuseDuplicateFlow bucket
    (walletFlowExistsTx s (some (.qiniuBillingBucket bucketId (bucket.applyVersion + 1)))))
  let s ← orFailure (bucket.writeApplication cfg bucketId existing options.operationSource s)
  return (.applied, s)

def updateQiniuBillingBucketStatusTx (status : QiniuBillingBucketStatus × String) (s : Store) :
    Store :=
  s.updateBucket bucketId fun b => { b with status := status.1, lastError := status.2 }

def markQiniuBillingBucketFailed (e : Err) (s : Store) : Store :=
  updateQiniuBillingBucketStatusTx bucketId (.failed, e.text) s

/-- The row of a failed application of this version. -/
def QiniuBillingBucket.failedApplication (bucket : QiniuBillingBucket) (cause : Err) :
    QiniuBillingBucketApplication :=
  { bucketId := bucketId
    applyVersion := bucket.applyVersion + 1
    deltaQuota := bucket.pendingDeltaQuota
    deltaAmount := signedWalletAmount cfg bucket.pendingDeltaQuota
    status := .failed
    lastError := cause.text
    retryCount := 1
    operationSource := .system }

/-- The failure of an application that failed before. -/
def QiniuBillingBucketApplication.failAgain (cause : Err) (a : QiniuBillingBucketApplication) :
    QiniuBillingBucketApplication :=
  { a with
    deltaQuota := bucket.pendingDeltaQuota
    deltaAmount := signedWalletAmount cfg bucket.pendingDeltaQuota
    status := .failed
    lastError := cause.text
    retryCount := a.retryCount + 1
    operationSource := .system }

/-- Write down that the next version failed, from the bucket and the application read before. -/
def writeFailedApplication (bucket : QiniuBillingBucket)
    (existing : Option (Nat × QiniuBillingBucketApplication)) (cause : Err) (s : Store) : Store :=
  match existing with
  | none => s.addBucketApplication (bucket.failedApplication cfg bucketId cause)
  | some (id, a) =>
    if a.status = .success then s
    else s.updateBucketApplication id (·.failAgain cfg bucket cause)

def recordQiniuBillingBucketFailedApplication (cause : Err) (s : Store) : Store :=
  match s.billingBuckets[bucketId]? with
  | none => s
  | some bucket =>
    writeFailedApplication cfg bucketId bucket
      (s.bucketApplication bucketId (bucket.applyVersion + 1)) cause s

/-- Storage calls that are refused. An application may be refused at any of its statements,
which all come to the same. -/
structure BillingFaults where
  upsert : Bool := false
  resolution : Bool := false
  recalculation : Bool := false
  application : Bool := false
  status : Bool := false
  failedApplication : Bool := false

/-- What becomes of the store when an application was not made. -/
def afterApplyError (faults : BillingFaults) (bucketId : Nat) (s : Store) : BucketErr → Store
  | .failure e =>
    let s := if faults.status then s else markQiniuBillingBucketFailed bucketId e s
    if faults.failedApplication then s
    else recordQiniuBillingBucketFailedApplication cfg bucketId e s
  | .validation _ (some status) =>
    if faults.status then s else updateQiniuBillingBucketStatusTx bucketId status s
  | .validation _ none => s

def applyQiniuBillingBucket (faults : BillingFaults) (bucketId : Nat) (options : ApplyOptions)
    (s : Store) : Except BucketErr ApplyOutcome × Store :=
  match (if faults.application then .error (.failure (.message "storage error"))
    else applyQiniuBillingBucketTx cfg setting bucketId options s) with
  | .ok (outcome, s) => (.ok outcome, s)
  | .error e => (.error e, afterApplyError cfg faults bucketId s e)

/-! ## Entry points -/

/-- What a call finds outside the database of the buckets. -/
structure BillingEnv where
  setting : QiniuCostDetailSetting
  /-- Realtime usage; `none` if it cannot be read. -/
  usage : Option LocalUsage
  faults : BillingFaults := {}

variable (env : BillingEnv)

def BillingEnv.localRealtime (tokenId : Nat) (billingDate : String) :
    Int × QiniuBillingLocalRealtimeStatus :=
  localRealtimeOf env.usage tokenId billingDate

/-- A bucket that is pending after its recalculation is applied right away. -/
def applyRecalculated (bucketId : Nat) (s : Store) :
    Except BucketErr Nat × Store :=
  if env.setting.costDetailAutoApplyEnabled = true ∧
      (s.billingBuckets[bucketId]?.map (·.status)) = some .pending then
    match applyQiniuBillingBucket cfg env.setting env.faults bucketId {} s with
    | (.ok _, s) => (.ok bucketId, s)
    | (.error e, s) => (.error e, s)
  else (.ok bucketId, s)

def recalculateQiniuBillingBucket (tokenId : Nat) (billingDate : String) (s : Store) :
    Except BucketErr Nat × Store :=
  if isBlank billingDate then (.error (.failure (.message "账单日期不能为空")), s)
  else
    match storageCall env.faults.recalculation (recalculateQiniuBillingBucketTx cfg env.setting
      tokenId billingDate (env.localRealtime tokenId billingDate) s) with
    | .error e => (.error (.failure e), s)
    | .ok (bucketId, s) => applyRecalculated cfg env bucketId s

def adminRetryQiniuBillingBucketApplication (applicationId : Nat) (s : Store) :
    Except BucketErr ApplyOutcome × Store :=
  match s.bucketApplications[applicationId]? with
  | none => (.error (.failure (.message "账单 bucket application 不存在")), s)
  | some application =>
    applyQiniuBillingBucket cfg env.setting env.faults application.bucketId
      { expectedApplicationId := some applicationId, operationSource := .admin } s

def adminSkipQiniuBillingBucket (bucketId : Nat) (reason : String) (s : Store) :
    Except Err Unit × Store :=
  if isBlank reason then (.error (.message "跳过账单 bucket 必须填写原因"), s)
  else
    match s.billingBuckets[bucketId]? with
    | none => (.error (.message "账单 bucket 不存在"), s)
    | some bucket =>
      if bucket.status = .applied ∨ bucket.status = .reconciled then
        (.error (.message "已应用或已对账的账单 bucket 不能跳过"), s)
      else if env.faults.status then (.error (.message "storage error"), s)
      else (.ok (), updateQiniuBillingBucketStatusTx bucketId
        (.skipped, "admin_skip: " ++ trimSpace reason) s)

end ApiGateway
