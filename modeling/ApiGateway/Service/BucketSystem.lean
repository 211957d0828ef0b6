import ApiGateway.Lib.Interleave
import ApiGateway.Lib.Locks
import ApiGateway.Service.CostDetail

/-!
# Billing buckets, statement by statement

An application locks the row of its bucket before it reads anything else; a recalculation reads the
row without a lock and saves all of it later on. `bucketSystem` has one step for each statement they
send to the database. The writes of a transaction are one step, the last one: they become visible
with its commit, and a row that was written is locked until then. Reads do not wait for locks.
-/

namespace ApiGateway

open Table Decimal Interleave

variable (cfg : Config)

/-- The database, and the buckets that are locked. -/
structure BucketState where
  store : Store
  locks : Locks Nat := .empty

/-! ## Statements -/

/-- What a recalculation has read, and from which it computes the row that it saves. -/
structure Recalculation where
  setting : QiniuCostDetailSetting
  tokenId : Nat
  billingDate : String
  token : Token
  records : List (QiniuCostDetailRecord × Nat)
  localRealtime : Int × QiniuBillingLocalRealtimeStatus
  read : Option (Nat × QiniuBillingBucket)

/-- The row it saves. -/
def Recalculation.bucket (r : Recalculation) : QiniuBillingBucket :=
  recalculatedBucket cfg r.setting r.tokenId r.billingDate r.token r.records r.localRealtime r.read

inductive BucketTx where
  /-- `SELECT … FOR UPDATE` on the row of a bucket. -/
  | lockQiniuBillingBucket (bucketId : Nat)
  | readApplication (bucketId applyVersion : Nat)
  | walletFlowExists (bucketId applyVersion : Nat)
  /-- The writes of an application, and the end of its transaction. -/
  | writeApplication (ticket bucketId : Nat) (bucket : QiniuBillingBucket)
      (existing : Option (Nat × QiniuBillingBucketApplication))
      (source : QiniuBillingOperationSource)
  /-- The end of a transaction that has written nothing, or is rolled back. -/
  | release (ticket : Nat)
  | readToken (tokenId : Nat)
  | readRecords (tokenId : Nat) (billingDate : String)
  | readBucketOf (tokenId : Nat) (billingDate : String)
  /-- The writes of a recalculation, and the end of its transaction. -/
  | saveBucket (r : Recalculation)
  | updateStatus (bucketId : Nat) (status : QiniuBillingBucketStatus × String)
  | readBucket (bucketId : Nat)
  | writeFailedApplication (bucketId : Nat) (bucket : QiniuBillingBucket)
      (existing : Option (Nat × QiniuBillingBucketApplication)) (cause : Err)
  | readApplicationById (applicationId : Nat)
  | upsertRecord (record : QiniuCostDetailRecord)

namespace BucketTx

@[reducible]
def Ret : BucketTx → Type
  | lockQiniuBillingBucket _ => Nat × QiniuBillingBucket
  | readApplication .. => Option (Nat × QiniuBillingBucketApplication)
  | walletFlowExists .. => Bool
  | readToken _ => Token
  | readRecords .. => List (QiniuCostDetailRecord × Nat)
  | readBucketOf .. => Option (Nat × QiniuBillingBucket)
  | saveBucket _ => Nat
  | readBucket _ => QiniuBillingBucket
  | readApplicationById _ => QiniuBillingBucketApplication
  | _ => Unit

def notFound : BucketErr := .failure (.message "record not found")

/-- The row is locked, or a unique index has the key already. -/
def conflict : BucketErr := .failure (.message "storage error")

/-- A write to a row that somebody has locked does not go through. -/
def unlocked (s : BucketState) (bucketId : Nat) : Except BucketErr Unit :=
  failIf ((s.locks.holder bucketId).isSome = true) conflict

/-- There is one application for each bucket and version. -/
def uniqueApplication (s : BucketState) (bucketId applyVersion : Nat)
    (existing : Option (Nat × QiniuBillingBucketApplication)) : Except BucketErr Unit :=
  failIf (existing.isNone ∧ (s.store.bucketApplication bucketId applyVersion).isSome) conflict

def exec : (t : BucketTx) → BucketState → Except BucketErr (BucketState × t.Ret)
  | lockQiniuBillingBucket bucketId, s => do
    let bucket ← orFail s.store.billingBuckets[bucketId]? notFound
    unlocked s bucketId
    return ({ s with locks := s.locks.acquire bucketId }, s.locks.next, bucket)
  | readApplication bucketId applyVersion, s =>
    .ok (s, s.store.bucketApplication bucketId applyVersion)
  | walletFlowExists bucketId applyVersion, s =>
    .ok (s, walletFlowExistsTx s.store (some (.qiniuBillingBucket bucketId applyVersion)))
  | writeApplication ticket bucketId bucket existing source, s => do
    -- the transaction is gone if the server has rolled it back
    failIf (s.locks.holder bucketId ≠ some ticket) conflict
    uniqueApplication s bucketId (bucket.applyVersion + 1) existing
    let store ← orFailure (bucket.writeApplication cfg bucketId existing source s.store)
    return ({ store := store, locks := s.locks.release ticket }, ())
  | release ticket, s => .ok ({ s with locks := s.locks.release ticket }, ())
  | readToken tokenId, s => (orFail s.store.tokens[tokenId]? notFound).map fun token => (s, token)
  | readRecords tokenId billingDate, s => .ok (s, s.store.attributedRecords tokenId billingDate)
  | readBucketOf tokenId billingDate, s => .ok (s, s.store.bucketOf tokenId billingDate)
  | saveBucket r, s => do
    match r.read with
    | none => failIf ((s.store.bucketOf r.tokenId r.billingDate).isSome = true) conflict
    | some (id, _) => unlocked s id
    let (id, store) := saveRecalculatedBucket r.read (r.bucket cfg) r.records s.store
    return ({ s with store := store }, id)
  | updateStatus bucketId status, s => do
    unlocked s bucketId
    return ({ s with store := updateQiniuBillingBucketStatusTx bucketId status s.store }, ())
  | readBucket bucketId, s =>
    (orFail s.store.billingBuckets[bucketId]? notFound).map fun bucket => (s, bucket)
  | writeFailedApplication bucketId bucket existing cause, s => do
    uniqueApplication s bucketId (bucket.applyVersion + 1) existing
    let store := ApiGateway.writeFailedApplication cfg bucketId bucket existing cause s.store
    return ({ s with store := store }, ())
  | readApplicationById applicationId, s =>
    (orFail s.store.bucketApplications[applicationId]? notFound).map fun a => (s, a)
  | upsertRecord record, s =>
    .ok ({ s with store := (upsertQiniuCostDetailRecord record s.store).2 }, ())

end BucketTx

inductive BucketCall where
  /-- The settings of the moment. -/
  | setting
  /-- What was charged in realtime; `none` if it cannot be read. -/
  | usage

@[reducible]
def BucketCall.Resp : BucketCall → Type
  | setting => QiniuCostDetailSetting
  | usage => Option LocalUsage

def bucketSystem : System BucketState BucketErr where
  Tx := BucketTx
  Ret := BucketTx.Ret
  Call := BucketCall
  Resp := BucketCall.Resp
  exec := BucketTx.exec cfg
  onCall _ s := s

/-! ## Programs -/

abbrev BucketProg (α : Type) : Type := Prog (bucketSystem cfg) α

namespace BucketProg

variable {cfg}

def run (t : BucketTx) : BucketProg cfg t.Ret := Prog.run (S := bucketSystem cfg) t

def ask (c : BucketCall) : BucketProg cfg c.Resp := Prog.ask (S := bucketSystem cfg) c

def check {α : Type} (r : Except BucketErr α) : BucketProg cfg α := .done r

variable (cfg)

/-- The transaction of an application, once it has locked the bucket. -/
def applyLocked (ticket bucketId : Nat) (bucket : QiniuBillingBucket) (options : ApplyOptions) :
    BucketProg cfg ApplyOutcome := do
  let setting ← ask .setting
  let admitted ← check <| bucket.admit setting
  if admitted = false then
    run (.release ticket)
    return .skipped
  else
    let existing ← run (.readApplication bucketId (bucket.applyVersion + 1))
    let goOn ← check (options.check existing)
    if goOn = false then
      run (.release ticket)
      return .skipped
    else
      let flowExists ← (if bucket.pendingDeltaQuota = 0 then pure false
        else run (.walletFlowExists bucketId (bucket.applyVersion + 1)))
      check (orFailure (refuseDuplicateFlow bucket flowExists))
      run (.writeApplication ticket bucketId bucket existing options.operationSource)
      return .applied

variable (bucketId : Nat)

/-- The transaction of an application. Its lock goes with it if it fails. -/
def applyQiniuBillingBucketTx (options : ApplyOptions) :
    BucketProg cfg ApplyOutcome := do
  let (ticket, bucket) ← run (.lockQiniuBillingBucket bucketId)
  match ← (applyLocked cfg ticket bucketId bucket options).attempt with
  | .ok outcome => return outcome
  | .error e =>
    (run (.release ticket)).ignore
    Prog.fail e

def recordQiniuBillingBucketFailedApplication (cause : Err) :
    BucketProg cfg Unit := do
  let bucket ← run (.readBucket bucketId)
  let existing ← run (.readApplication bucketId (bucket.applyVersion + 1))
  run (.writeFailedApplication bucketId bucket existing cause)

/-- What follows an application that was not made. -/
def afterApplyError : BucketErr → BucketProg cfg Unit
  | .failure e => do
    (run (.updateStatus bucketId (.failed, e.text))).ignore
    (recordQiniuBillingBucketFailedApplication cfg bucketId e).ignore
  | .validation _ (some status) => (run (.updateStatus bucketId status)).ignore
  | .validation _ none => pure ()

def applyQiniuBillingBucket (options : ApplyOptions) :
    BucketProg cfg ApplyOutcome := do
  match ← (applyQiniuBillingBucketTx cfg bucketId options).attempt with
  | .ok outcome => return outcome
  | .error e =>
    afterApplyError cfg bucketId e
    Prog.fail e

/-- The transaction of a recalculation. It takes no lock before it writes. -/
def recalculateQiniuBillingBucketTx (tokenId : Nat) (billingDate : String)
    (localRealtime : Int × QiniuBillingLocalRealtimeStatus) :
    BucketProg cfg (Nat × QiniuBillingBucket) := do
  let token ← run (.readToken tokenId)
  let records ← run (.readRecords tokenId billingDate)
  check (orFailure (recalculableToken token records))
  let read ← run (.readBucketOf tokenId billingDate)
  let setting ← ask .setting
  let r : Recalculation := { setting, tokenId, billingDate, token, records, localRealtime, read }
  let id ← run (.saveBucket r)
  return (id, r.bucket cfg)

def recalculateQiniuBillingBucket (tokenId : Nat) (billingDate : String) : BucketProg cfg Unit := do
  check (failIf (isBlank billingDate = true) (.failure (.message "账单日期不能为空")))
  let usage ← ask .usage
  let (id, bucket) ← recalculateQiniuBillingBucketTx cfg tokenId billingDate
    (localRealtimeOf usage tokenId billingDate)
  let setting ← ask .setting
  if setting.costDetailAutoApplyEnabled = true ∧ bucket.status = .pending then
    let _ ← applyQiniuBillingBucket cfg id {}
    let _ ← run (.readBucket id)
    return ()
  else return ()

def adminRetryQiniuBillingBucketApplication (applicationId : Nat) : BucketProg cfg Unit := do
  let application ← run (.readApplicationById applicationId)
  let _ ← applyQiniuBillingBucket cfg application.bucketId
    { expectedApplicationId := some applicationId, operationSource := .admin }
  return ()

end BucketProg

/-- Recalculations, applications and their retries can be started at any time; besides, a record of
the bill may be corrected, and the server may end a transaction. -/
inductive BucketRequest where
  | recalculate (tokenId : Nat) (billingDate : String)
  | apply (bucketId : Nat)
  | retry (applicationId : Nat)
  | correct (record : QiniuCostDetailRecord)
  | kill (ticket : Nat)

def BucketRequest.handle : BucketRequest → BucketProg cfg Unit
  | recalculate tokenId billingDate =>
    BucketProg.recalculateQiniuBillingBucket cfg tokenId billingDate
  | apply bucketId => do
    let _ ← BucketProg.applyQiniuBillingBucket cfg bucketId {}
    return ()
  | retry applicationId => BucketProg.adminRetryQiniuBillingBucketApplication cfg applicationId
  | correct record => BucketProg.run (.upsertRecord record)
  | kill ticket => BucketProg.run (.release ticket)

/-- The programs that run side by side. -/
def BucketEntry (p : BucketProg cfg Unit) : Prop := ∃ r : BucketRequest, p = r.handle cfg

end ApiGateway
