import ApiGateway.Service.BillingBucket

/-!
# Official bills and whom they belong to

A line of the official bill names the API key it is for with its middle masked, so the token it
belongs to is guessed from the two ends of the key, or chosen by an administrator. Either way the
bucket of that token is recalculated.
-/

namespace ApiGateway

open Table Decimal

variable (cfg : Config)

/-! ## Masked keys -/

/-- A key without its `sk-`. -/
def normalizeQiniuTokenKey (key : String) : String :=
  match (trimSpace key).toList with
  | a :: b :: '-' :: rest =>
    if a.toLower = 's' ∧ b.toLower = 'k' then trimSpace (String.ofList rest) else trimSpace key
  | _ => trimSpace key

/-- What is known of a key from its masked form. -/
structure QiniuTokenKeyIdentity where
  keyPrefix : String := ""
  keySuffix : String := ""
  deriving DecidableEq

def qiniuTokenKeyPrefixLength : Nat := 3

def qiniuTokenKeySuffixLength : Nat := 6

/-- The last `n` characters. -/
def takeLast (n : Nat) (cs : List Char) : List Char := cs.drop (cs.length - n)

def buildQiniuTokenKeyIdentity (key : String) : QiniuTokenKeyIdentity :=
  let cs := (normalizeQiniuTokenKey key).toList
  { keyPrefix := String.ofList (cs.take qiniuTokenKeyPrefixLength)
    keySuffix := String.ofList (takeLast qiniuTokenKeySuffixLength cs) }

/-- What stands before the first and after the last star, cut to the usual lengths. -/
def buildQiniuMaskedKeyIdentity (maskedKey : String) : QiniuTokenKeyIdentity :=
  let cs := (normalizeQiniuTokenKey maskedKey).toList
  if cs.contains '*' then
    { keyPrefix := String.ofList ((cs.takeWhile (· != '*')).take qiniuTokenKeyPrefixLength)
      keySuffix := String.ofList (takeLast qiniuTokenKeySuffixLength
        (cs.reverse.takeWhile (· != '*')).reverse) }
  else buildQiniuTokenKeyIdentity maskedKey

/-- Managed tokens whose key has these ends, by id. -/
def listQiniuManagedTokensByKeyAffixes (keyPrefix keySuffix : String) (limit : Nat) (s : Store) :
    Except Err (List Nat) := do
  let keyPrefix := (normalizeQiniuTokenKey keyPrefix).toList
  let keySuffix := (trimSpace keySuffix).toList
  failIf (keyPrefix = [] ∨ keySuffix = []) (.message "七牛 token Key 前缀和后缀不能为空")
  let found := s.tokens.zipIdx.filter fun t =>
    t.1.qiniuManaged &&
      (keyPrefix.isPrefixOf t.1.key.toList || ("sk-".toList ++ keyPrefix).isPrefixOf t.1.key.toList) &&
      keySuffix.isSuffixOf t.1.key.toList
  return (found.map Prod.snd).take limit

/-! ## Lines of the bill -/

/-- One line as the upstream reports it. -/
structure QiniuOfficialCostDetailItem where
  apiKey : String
  modelName : String
  billingItem : String
  usageCount : ℚ := 0
  usageUnit : String := ""
  feeAmount : ℚ
  currency : String := ""
  /-- The day of `period_start`; empty if the line has none. -/
  periodStartDate : String := ""
  rawResponse : String := ""

/-- `qiniuCostDetailBillingDateForItem` -/
def QiniuOfficialCostDetailItem.billingDate (windowDate : String)
    (item : QiniuOfficialCostDetailItem) : String :=
  if isBlank windowDate then item.periodStartDate else trimSpace windowDate

/-- `qiniuCostDetailRecordHash`; the digest of the text is taken to be the text. -/
def QiniuOfficialCostDetailItem.recordHash (billingDate : String)
    (item : QiniuOfficialCostDetailItem) : String :=
  "qiniu:cost_detail:" ++ trimSpace item.apiKey ++ "|" ++ trimSpace billingDate ++ "|" ++
    trimSpace item.modelName ++ "|" ++ trimSpace item.billingItem

/-- `qiniuCostDetailRecordFromItem` -/
def QiniuOfficialCostDetailItem.record (windowDate : String) (item : QiniuOfficialCostDetailItem) :
    QiniuCostDetailRecord :=
  let identity := buildQiniuMaskedKeyIdentity (trimSpace item.apiKey)
  let billingDate := item.billingDate windowDate
  { qiniuMaskedKey := trimSpace item.apiKey
    keyPrefix := identity.keyPrefix
    keySuffix := identity.keySuffix
    billingDate := billingDate
    modelName := trimSpace item.modelName
    billingItem := trimSpace item.billingItem
    usageCount := item.usageCount
    usageUnit := trimSpace item.usageUnit
    feeAmount := item.feeAmount
    currency := if isBlank item.currency then "CNY" else trimSpace item.currency
    recordHash := item.recordHash billingDate
    rawResponse := item.rawResponse }

/-- A stored record brought up to date. Only an owner chosen by hand is kept. -/
def QiniuCostDetailRecord.refreshed (record existing : QiniuCostDetailRecord) :
    QiniuCostDetailRecord :=
  let manual := existing.ownerStatus = .manualResolved
  { record with
    recordHash := existing.recordHash
    ownerStatus := if manual then existing.ownerStatus else record.ownerStatus
    userId := if manual then existing.userId else record.userId
    tokenId := if manual then existing.tokenId else record.tokenId
    retryCount := existing.retryCount
    lastError := existing.lastError }

variable (record : QiniuCostDetailRecord)

/-- The id of the record, and the store with it. -/
def upsertQiniuCostDetailRecord (s : Store) : Nat × Store :=
  match lookup (fun r => r.recordHash == record.recordHash) s.costDetailRecords with
  | none =>
    (s.costDetailRecords.length, { s with costDetailRecords := s.costDetailRecords ++ [record] })
  | some (id, _) =>
    (id, { s with costDetailRecords := s.costDetailRecords.modify id record.refreshed })

/-! ## Automatic ownership -/

/-- What an ownership decision finds outside the database. -/
structure OwnershipEnv extends BillingEnv where
  officialLedgerEnabled : Bool := true
  /-- The bill of a single token, as the upstream reports it when asked for its full key. -/
  bill : Nat → Except Err (List QiniuOfficialCostDetailItem) := fun _ => .ok []

/-- `qiniuCostDetailItemMatchesRecord` -/
def QiniuOfficialCostDetailItem.matchesRecord (item : QiniuOfficialCostDetailItem) : Bool :=
  (item.periodStartDate == "" || item.periodStartDate == trimSpace record.billingDate) &&
    trimSpace item.modelName == trimSpace record.modelName &&
    trimSpace item.billingItem == trimSpace record.billingItem &&
    decide (|item.feeAmount - record.feeAmount| ≤ walletAmountEpsilon)

def qiniuOwnershipConfirmationMaxCandidates : Nat := 5

variable (env : OwnershipEnv)

/-- The candidates whose own bill contains the record, and the last error on the way. -/
def confirmQiniuCostDetailOwnership (record : QiniuCostDetailRecord) (candidates : List Nat) :
    List Nat × Option Err :=
  if qiniuOwnershipConfirmationMaxCandidates < candidates.length ∨ ¬ env.officialLedgerEnabled then
    ([], none)
  else if parseBillingDate (trimSpace record.billingDate) = none then
    ([], some (.message "parsing time"))
  else
    (candidates.filter fun t =>
        match env.bill t with
        | .ok items => items.any (·.matchesRecord record)
        | .error _ => false,
      (candidates.filterMap fun t =>
        match env.bill t with
        | .ok _ => none
        | .error e => some e).getLast?)

/-- Owner status of a record, its token, and what went wrong if there is none. -/
structure Ownership where
  status : QiniuBillingOwnerStatus
  tokenId : Option Nat := none
  lastError : String := ""
  deriving DecidableEq

/-- The owner that a record has according to its masked key. -/
def ownershipOf (record : QiniuCostDetailRecord) (s : Store) :
    Except Err Ownership := do
  let candidates ← listQiniuManagedTokensByKeyAffixes record.keyPrefix record.keySuffix
    (qiniuOwnershipConfirmationMaxCandidates + 1) s
  match candidates with
  | [] => return { status := .unmapped, lastError := "unmapped" }
  | [tokenId] => return { status := .resolved, tokenId := some tokenId }
  | _ =>
    let (confirmed, err) := confirmQiniuCostDetailOwnership env record candidates
    match confirmed with
    | [tokenId] => return { status := .resolved, tokenId := some tokenId }
    | _ => return { status := .ambiguous, lastError := (err.map Err.text).getD "ambiguous" }

/-- The record with its owner decided. -/
def QiniuCostDetailRecord.ownedBy (owner : Ownership) (s : Store) (r : QiniuCostDetailRecord) :
    QiniuCostDetailRecord :=
  { r with
    ownerStatus := owner.status
    userId := ((owner.tokenId.bind fun t => s.tokens[t]?).map (·.userId)).getD 0
    tokenId := owner.tokenId
    retryCount :=
      if owner.status = .unmapped ∨ owner.status = .ambiguous then r.retryCount + 1
      else r.retryCount
    lastError := owner.lastError }

def Store.updateRecord (s : Store) (id : Nat) (f : QiniuCostDetailRecord → QiniuCostDetailRecord) :
    Store :=
  { s with costDetailRecords := s.costDetailRecords.modify id f }

/-- Forget which bucket was recalculated. -/
def asResolution (r : Except BucketErr Nat × Store) : Except BucketErr Unit × Store :=
  (r.1.map fun _ => (), r.2)

def updateQiniuCostDetailOwnership (id : Nat) (billingDate : String) (owner : Ownership) (s : Store) :
    Except BucketErr Unit × Store :=
  let s := s.updateRecord id (·.ownedBy owner s)
  match owner.tokenId with
  | none => (.ok (), s)
  | some tokenId =>
    asResolution (recalculateQiniuBillingBucket cfg env.toBillingEnv tokenId billingDate s)

def resolveQiniuCostDetailRecordOwnership (id : Nat) (s : Store) :
    Except BucketErr Unit × Store :=
  match s.costDetailRecords[id]? with
  | none => (.error (.failure (.message "record not found")), s)
  | some record =>
    match record.ownerStatus, record.tokenId with
    | .manualResolved, some tokenId =>
      asResolution (recalculateQiniuBillingBucket cfg env.toBillingEnv tokenId
        record.billingDate s)
    | _, _ =>
      match storageCall env.faults.resolution (ownershipOf env record s) with
      | .error e => (.error (.failure e), s)
      | .ok owner => updateQiniuCostDetailOwnership cfg env id record.billingDate owner s

/-- The body of the loop of `persistQiniuCostDetailItems`. -/
def persistQiniuCostDetailItem (windowDate : String) (item : QiniuOfficialCostDetailItem)
    (s : Store) : Except BucketErr Unit × Store :=
  if env.faults.upsert then (.error (.failure (.message "storage error")), s)
  else
    let (id, s) := upsertQiniuCostDetailRecord (item.record windowDate) s
    resolveQiniuCostDetailRecordOwnership cfg env id s

/-! ## Ownership by hand -/

/-- A record given to a token by an administrator. -/
def QiniuCostDetailRecord.assigned (tokenId : Nat) (token : Token) (r : QiniuCostDetailRecord) :
    QiniuCostDetailRecord :=
  { r with ownerStatus := .manualResolved, userId := token.userId, tokenId := some tokenId }

/-- The token an administrator may choose. -/
def manualToken (tokenId : Nat) (s : Store) : Except Err Token := do
  let token ← orFail s.tokens[tokenId]? (.message "record not found")
  failIf (¬ token.qiniuManaged) (.message "只能人工归属到托管 token")
  return token

/-- The transaction of `ManuallyResolveQiniuCostDetailRawRecordOwnership`: the day of the
record. -/
def assignRecordTx (recordId tokenId : Nat) (s : Store) : Except Err (String × Store) := do
  let token ← manualToken tokenId s
  let record ← orFail s.costDetailRecords[recordId]? (.message "record not found")
  return (record.billingDate, s.updateRecord recordId (·.assigned tokenId token))

def manuallyResolveQiniuCostDetailRawRecordOwnership (env : BillingEnv) (recordId tokenId : Nat)
    (s : Store) : Except BucketErr Nat × Store :=
  match storageCall env.faults.resolution (assignRecordTx recordId tokenId s) with
  | .error e => (.error (.failure e), s)
  | .ok (billingDate, s) => recalculateQiniuBillingBucket cfg env tokenId billingDate s

/-- The record belongs to nobody yet. -/
def QiniuCostDetailRecord.isOpen (r : QiniuCostDetailRecord) : Bool :=
  r.ownerStatus == .unmapped || r.ownerStatus == .ambiguous

/-- The records a bucket stands for: those of its items, or those of its masked key that are
still open. -/
def qiniuBillingBucketRawRecordIdsTx (bucketId : Nat) (bucket : QiniuBillingBucket) (s : Store) :
    Except Err (List Nat) := do
  let ids := ((s.billingBucketItems.filter fun i => i.bucketId == bucketId).flatMap
    (·.rawRecordIds)).dedup
  if ids ≠ [] then
    return ids
  failIf (isBlank bucket.qiniuMaskedKey)
    (.message "账单 bucket 缺少脱敏 Key，不能自动匹配 raw record")
  let found := s.costDetailRecords.zipIdx.filter fun r =>
    r.1.billingDate == bucket.billingDate && r.1.qiniuMaskedKey == bucket.qiniuMaskedKey &&
      r.1.isOpen
  return found.map Prod.snd

/-- Hand a bucket over to another token. -/
def QiniuBillingBucket.handedTo (tokenId : Nat) (token : Token) (b : QiniuBillingBucket) :
    QiniuBillingBucket :=
  { b with
    userId := token.userId
    tokenId := some tokenId
    ownerStatus := .manualResolved
    status := .pending
    lastError := "" }

/-- The open records among `ids`. -/
def openAmong (ids : List Nat) (id : Nat) (r : QiniuCostDetailRecord) : Bool :=
  ids.contains id && r.isOpen

/-- Give the open records among `ids` to a token. -/
def Store.assignOpenRecords (s : Store) (ids : List Nat) (tokenId : Nat) (token : Token) : Store :=
  { s with
    costDetailRecords :=
      updateWhere (openAmong ids) (·.assigned tokenId token) s.costDetailRecords }

/-- The transaction of `ManuallyResolveQiniuBillingBucketOwnership`: the day of the bucket,
and whether the bucket itself went to the token. -/
def assignBucketTx (bucketId tokenId : Nat) (s : Store) : Except Err ((String × Bool) × Store) := do
  let token ← manualToken tokenId s
  let source ← orFail s.billingBuckets[bucketId]? (.message "record not found")
  let ids ← qiniuBillingBucketRawRecordIdsTx bucketId source s
  failIf (ids = []) (.message "账单 bucket 缺少可人工归属的 cost-detail 明细")
  failIf (affects (openAmong ids) s.costDetailRecords = false)
    (.message "账单 bucket 没有未归属或冲突归属的 cost-detail 明细")
  let s := s.assignOpenRecords ids tokenId token
  match s.bucketOf tokenId source.billingDate with
  | none => return ((source.billingDate, true), s.updateBucket bucketId (·.handedTo tokenId token))
  | some (target, _) => return ((source.billingDate, target == bucketId), s)

def manuallyResolveQiniuBillingBucketOwnership (env : BillingEnv) (bucketId tokenId : Nat)
    (s : Store) : Except BucketErr Nat × Store :=
  match storageCall env.faults.resolution (assignBucketTx bucketId tokenId s) with
  | .error e => (.error (.failure e), s)
  | .ok ((billingDate, reused), s) =>
    match recalculateQiniuBillingBucket cfg env tokenId billingDate s with
    | (.error e, s) => (.error e, s)
    | (.ok target, s) =>
      if reused = false ∧ target ≠ bucketId ∧ env.faults.status = false then
        (.ok target, updateQiniuBillingBucketStatusTx bucketId
          (.skipped, s!"manual_resolved_to_bucket:{target}") s)
      else (.ok target, s)

/-! ## Operations as data -/

/-- The calls that touch official bills. -/
inductive BillOp where
  | sync (env : OwnershipEnv) (windowDate : String) (item : QiniuOfficialCostDetailItem)
  | resolve (env : OwnershipEnv) (recordId : Nat)
  | assignRecord (env : BillingEnv) (recordId tokenId : Nat)
  | assignBucket (env : BillingEnv) (bucketId tokenId : Nat)
  | recalculate (env : BillingEnv) (tokenId : Nat) (billingDate : String)
  | apply (env : BillingEnv) (bucketId : Nat)
  | retry (env : BillingEnv) (applicationId : Nat)
  | skip (env : BillingEnv) (bucketId : Nat) (reason : String)

/-- The store after a call. A call that returns an error may have changed it, too. -/
def BillOp.exec : BillOp → Store → Except Err Store
  | sync env windowDate item, s => .ok (persistQiniuCostDetailItem cfg env windowDate item s).2
  | resolve env recordId, s => .ok (resolveQiniuCostDetailRecordOwnership cfg env recordId s).2
  | assignRecord env recordId tokenId, s =>
    .ok (manuallyResolveQiniuCostDetailRawRecordOwnership cfg env recordId tokenId s).2
  | assignBucket env bucketId tokenId, s =>
    .ok (manuallyResolveQiniuBillingBucketOwnership cfg env bucketId tokenId s).2
  | recalculate env tokenId billingDate, s =>
    .ok (recalculateQiniuBillingBucket cfg env tokenId billingDate s).2
  | apply env bucketId, s =>
    .ok (applyQiniuBillingBucket cfg env.setting env.faults bucketId {} s).2
  | retry env applicationId, s =>
    .ok (adminRetryQiniuBillingBucketApplication cfg env applicationId s).2
  | skip env bucketId reason, s => .ok (adminSkipQiniuBillingBucket env bucketId reason s).2

end ApiGateway
