import ApiGateway.Service.TopUp

/-!
# Keys at the provider and their limits

A user's requests go out under a key of the provider, who stops serving it at a total limit. A task
creates the key, sets its limit to the balance of the user and writes the token together with a
baseline grant of that amount. Later fundings queue grants, and applying one overwrites the limit by
the sum of the grants applied so far.

An attempt can end anywhere, before or after the provider did its part; its outcome is part of the
operation. `history` is no state of the system; it records when limits were set and users were
funded.
-/

namespace ApiGateway

open Table Decimal

variable (cfg : Config)

structure QiniuKeySyncTask where
  userId : Nat
  /-- The key the provider made for this task; empty if it has made none. -/
  qiniuKey : String := ""
  status : QiniuKeyTaskStatus := .pending

inductive KeyEvent where
  /-- The limit of a key was set; the balance is that of the key's owner. -/
  | limitSet (key : String) (balance : ℚ)
  | funded (userId : Nat) (amount : ℚ)
  deriving DecidableEq

structure KeyState where
  store : Store
  tasks : List QiniuKeySyncTask := []
  /-- All keys the provider has made. -/
  remoteKeys : List String := []
  remoteLimit : String → Option ℚ := fun _ => none
  history : List KeyEvent := []

variable (u : Nat)

/-- The balance of a user in currency, as the provider counts it. -/
def qiniuBalance (s : Store) : ℚ := quotaToWalletAmount cfg (s.users u).quota

/-- How a call of `SetAPIKeyTotalQuota` ended. -/
inductive LimitCall where
  /-- An error came up before the call was made. -/
  | notMade
  /-- The call returned an error, whether or not the provider set the limit. -/
  | error (reached : Bool)
  | ok
  deriving DecidableEq

def LimitCall.reached : LimitCall → Bool
  | .notMade => false
  | .error reached => reached
  | .ok => true

/-- For a key of user `u`. -/
def setAPIKeyTotalQuota (key : String) (limit : ℚ) (call : LimitCall) (s : KeyState) :
    KeyState :=
  if call.reached then
    { s with
      remoteLimit := Function.update s.remoteLimit key (some limit)
      history := s.history ++ [.limitSet key (qiniuBalance cfg u s.store)] }
  else s

/-! ## Creating a key -/

def Store.hasToken (s : Store) (u : Nat) : Bool := s.tokens.any fun t => t.userId == u

/-- A task that may still lead to a key. -/
def QiniuKeySyncTask.blocking (task : QiniuKeySyncTask) : Bool :=
  task.status == .pending || task.status == .running || task.status == .failed

def enqueueQiniuCreateTask (returnBlockedError : Bool) (s : KeyState) :
    Except Err KeyState := do
  failIf (u = 0) .userNotFound
  if s.store.hasToken u then
    failIf returnBlockedError (.message "当前用户最多只能创建 1 个 Key")
    return s
  else if s.tasks.any fun task => task.userId == u && task.blocking then
    failIf returnBlockedError (.message "默认 Key 正在创建或等待补偿，请稍后再试")
    return s
  else
    return { s with tasks := s.tasks ++ [{ userId := u }] }

variable (s : KeyState)

def enqueueDefaultQiniuKeyCreateTask : Except Err KeyState :=
  if u = 0 ∨ ¬ cfg.qiniuKeyLifecycleEnabled then .ok s else enqueueQiniuCreateTask u false s

def createQiniuManagedToken : Except Err KeyState :=
  enqueueQiniuCreateTask u true s

/-- How far an attempt to create a key comes. -/
inductive CreateKeyOutcome where
  /-- An error came up before the provider made a key. -/
  | noKey
  /-- The provider made a key, but it could not be noted in the task. -/
  | keyLost
  /-- The task has a key. `tokenWritten` is whether the transaction that writes the token was
  committed. -/
  | key (call : LimitCall) (tokenWritten : Bool)
  deriving DecidableEq

def KeyState.updateTask (id : Nat) (f : QiniuKeySyncTask → QiniuKeySyncTask) :
    KeyState :=
  { s with tasks := s.tasks.modify id f }

/-- Note the status of a task, unless the database refuses. -/
def KeyState.markTask (id : Nat) (status : QiniuKeyTaskStatus) (noted : Bool) :
    KeyState :=
  s.updateTask id fun task => { task with status := if noted then status else task.status }

def qiniuInitialQuotaLimit (s : Store) : ℚ :=
  let limit := qiniuBalance cfg u s
  if limit < 0 then 0 else limit

def qiniuInitialQuotaBaselineBusinessKey (tokenId : Nat) : String :=
  "key_initial_balance:" ++ toString tokenId

/-- The grant that stands for the first limit of a token. Row numbers start at 1. -/
def createQiniuInitialQuotaBaselineTx (u tokenId : Nat) (amount : ℚ) (s : Store) : Store :=
  let businessKey := qiniuInitialQuotaBaselineBusinessKey (tokenId + 1)
  if s.quotaGrants.any fun g => g.businessKey == businessKey then s
  else { s with quotaGrants := s.quotaGrants ++
    [{ userId := u, tokenId := some tokenId, businessKey
       grantAmount := if amount < 0 then 0 else amount, remoteApplyStatus := .applied }] }

/-- The transaction that writes a token and its baseline. -/
def createManagedTokenTx (key : String) (targetLimit : ℚ) (s : Store) : Store :=
  createQiniuInitialQuotaBaselineTx u s.tokens.length targetLimit
    { s with tokens := s.tokens ++ [{ userId := u, key, enabled := true, qiniuManaged := true }] }

/-- What follows once the task has a key. -/
def initializeKey (taskId u : Nat) (key : String) (call : LimitCall) (tokenWritten noted : Bool)
    (s : KeyState) : KeyState :=
  let targetLimit := qiniuInitialQuotaLimit cfg u s.store
  let s := setAPIKeyTotalQuota cfg u key targetLimit call s
  if call = .ok ∧ tokenWritten then
    { s with store := createManagedTokenTx u key targetLimit s.store }.markTask
      taskId .success noted
  else s.markTask taskId .failed noted

/-- `newKey` is what the provider answers if it is asked for a key, never the same twice. A task
that has a key goes on with it. -/
def executeQiniuCreateKeyTask (taskId : Nat) (task : QiniuKeySyncTask) (newKey : String)
    (outcome : CreateKeyOutcome) (noted : Bool) (s : KeyState) : KeyState :=
  if s.store.hasToken task.userId then s.markTask taskId .skipped noted
  else
    match outcome with
    | .noKey => s.markTask taskId .failed noted
    | .keyLost =>
      -- a task that has a key does not lose it
      if task.qiniuKey ≠ "" ∨ newKey = "" ∨ newKey ∈ s.remoteKeys then
        s.markTask taskId .failed noted
      else { s with remoteKeys := newKey :: s.remoteKeys }.markTask taskId .failed noted
    | .key call tokenWritten =>
      if task.qiniuKey ≠ "" then
        initializeKey cfg taskId task.userId task.qiniuKey call tokenWritten noted s
      else if newKey = "" ∨ newKey ∈ s.remoteKeys then s.markTask taskId .failed noted
      else
        initializeKey cfg taskId task.userId newKey call tokenWritten noted
          ({ s with remoteKeys := newKey :: s.remoteKeys }.updateTask taskId
            fun task => { task with qiniuKey := newKey })

/-- `stale`: a task that is marked as running was given up. `noted`: the status the attempt ends
with could be written. -/
def executeQiniuKeyTask (taskId : Nat) (stale : Bool) (newKey : String)
    (outcome : CreateKeyOutcome) (noted : Bool) (s : KeyState) : Except Err KeyState := do
  let task ← orFail s.tasks[taskId]? (.message "Key 任务正在执行或状态不可重试")
  failIf (¬ (task.status = .pending ∨ task.status = .failed ∨ (task.status = .running ∧ stale)))
    (.message "Key 任务正在执行或状态不可重试")
  return executeQiniuCreateKeyTask cfg taskId task newKey outcome noted
    (s.markTask taskId .running true)

/-! ## Applying grants -/

/-- The enabled key of a grant, or the first of its user; it has to be a managed one. -/
def qiniuQuotaGrantToken (grant : QiniuQuotaGrant) (s : Store) : Option (Nat × Token) :=
  let own := grant.tokenId.bind fun id =>
    (s.tokens[id]?).bind fun token =>
      if token.qiniuManaged ∧ token.enabled then some (id, token) else none
  own.or <| (lookup (fun t : Token => t.userId == grant.userId && t.enabled) s.tokens).bind
    fun found => if found.2.qiniuManaged then some found else none

/-- What a grant adds to the limit of a token. -/
def QiniuQuotaGrant.appliedTo (tokenId : Nat) (grant : QiniuQuotaGrant) : ℚ :=
  if grant.tokenId = some tokenId ∧ grant.remoteApplyStatus = .applied then grant.grantAmount else 0

def qiniuQuotaGrantTargetLimit (tokenId grantId : Nat) (grantAmount : ℚ) (s : Store) : ℚ :=
  let targetLimit :=
    total (QiniuQuotaGrant.appliedTo tokenId) (s.quotaGrants.eraseIdx grantId) + grantAmount
  if targetLimit < 0 then 0 else targetLimit

/-- Rewrite a grant, unless the database refuses. -/
def KeyState.updateGrant (id : Nat) (noted : Bool) (f : QiniuQuotaGrant → QiniuQuotaGrant) :
    KeyState :=
  if noted then
    { s with store := { s.store with quotaGrants := s.store.quotaGrants.modify id f } }
  else s

def markQiniuQuotaGrantFailed (id : Nat) (noted : Bool) (s : KeyState) : KeyState :=
  s.updateGrant id noted fun grant => { grant with remoteApplyStatus := .failed }

/-- `noted` is whether the grant could be updated at the end. -/
def applyQiniuQuotaGrant (grantId : Nat) (call : LimitCall) (noted : Bool) (s : KeyState) :
    KeyState :=
  match s.store.quotaGrants[grantId]? with
  | none => s
  | some grant =>
    if grant.remoteApplyStatus = .applied then s
    else
      match qiniuQuotaGrantToken grant s.store with
      | none => markQiniuQuotaGrantFailed grantId noted s
      | some (tokenId, token) =>
        let s := setAPIKeyTotalQuota cfg token.userId token.key
          (qiniuQuotaGrantTargetLimit tokenId grantId grant.grantAmount s.store) call s
        if call = .ok then
          s.updateGrant grantId noted fun grant =>
            { grant with tokenId := some tokenId, remoteApplyStatus := .applied }
        else markQiniuQuotaGrantFailed grantId noted s

def qiniuQuotaGrantRetryBatchSize : Nat := 100

/-- The grants a scan takes up. `due` says for which the wait after a failure is over. -/
def pendingQuotaGrants (limit : Nat) (due : Nat → Bool) (grants : List QiniuQuotaGrant) :
    List Nat :=
  let limit := if limit = 0 ∨ qiniuQuotaGrantRetryBatchSize < limit
    then qiniuQuotaGrantRetryBatchSize else limit
  ((grants.zipIdx.filter fun entry =>
    entry.1.remoteApplyStatus = .pending ∨
      (entry.1.remoteApplyStatus = .failed ∧ due entry.2)).map Prod.snd).take limit

def scanPendingQiniuQuotaGrants (limit : Nat) (due : Nat → Bool)
    (outcome : Nat → LimitCall × Bool) (s : KeyState) : KeyState :=
  (pendingQuotaGrants limit due s.store.quotaGrants).foldl
    (fun s grantId => applyQiniuQuotaGrant cfg grantId (outcome grantId).1 (outcome grantId).2 s) s

/-! ## Operations as data -/

inductive KeyOp where
  | completeTopUpOrder (faults : CommissionFaults) (req : CompleteTopUpOrderRequest) (now : Int)
  | transferCommission (u : Nat) (amount : ℚ) (timeString : String)
  | enqueueDefaultKey (u : Nat)
  | createManagedToken (u : Nat)
  | executeKeyTask (taskId : Nat) (stale : Bool) (newKey : String) (outcome : CreateKeyOutcome)
      (noted : Bool)
  | applyGrant (grantId : Nat) (call : LimitCall) (noted : Bool)
  | scanGrants (limit : Nat) (due : Nat → Bool) (outcome : Nat → LimitCall × Bool)

namespace KeyOp

/-- The user an operation funds, and by how much. A callback for an order that is already
complete funds nobody. -/
def funding (s : Store) : KeyOp → Option (Nat × ℚ)
  | completeTopUpOrder _ req _ =>
    (lookup (fun t : TopUp => t.tradeNo == req.tradeNo) s.topUps).bind fun row =>
      if row.2.status = .success then none
      else some (row.2.userId, quotaToWalletAmount cfg (calculateTopUpQuota cfg row.2))
  | transferCommission u amount _ => some (u, amount)
  | _ => none

/-- Run a transaction on the database and note whom it funded. -/
def fundWith (funding : Option (Nat × ℚ)) (tx : Store → Except Err Store) (s : KeyState) :
    Except Err KeyState := do
  let store ← tx s.store
  return { s with
    store
    history := s.history ++ (funding.map fun f => KeyEvent.funded f.1 f.2).toList }

def exec (op : KeyOp) (s : KeyState) : Except Err KeyState :=
  match op with
  | completeTopUpOrder faults req now =>
    fundWith (op.funding cfg s.store) (ApiGateway.completeTopUpOrder cfg faults req now) s
  | transferCommission u amount timeString =>
    fundWith (op.funding cfg s.store) (transferCommissionToBalance cfg u amount timeString) s
  | enqueueDefaultKey u => enqueueDefaultQiniuKeyCreateTask cfg u s
  | createManagedToken u => createQiniuManagedToken u s
  | executeKeyTask taskId stale newKey outcome noted =>
    executeQiniuKeyTask cfg taskId stale newKey outcome noted s
  | applyGrant grantId call noted => .ok (applyQiniuQuotaGrant cfg grantId call noted s)
  | scanGrants limit due outcome => .ok (scanPendingQiniuQuotaGrants cfg limit due outcome s)

end KeyOp

/-! ## What the limit should be -/

/-- The balance when the limit of a key was first set, and what happened since. -/
def sinceFirstSet (key : String) : List KeyEvent → Option (ℚ × List KeyEvent)
  | [] => none
  | .limitSet key' balance :: rest =>
    if key' = key then some (balance, rest) else sinceFirstSet key rest
  | .funded _ _ :: rest => sinceFirstSet key rest

def KeyEvent.fundingOf : KeyEvent → ℚ
  | .funded u' amount => if u' = u then amount else 0
  | .limitSet _ _ => 0

/-- The balance of user `u` when the limit of the key was first set, and the fundings since. -/
def entitledLimit (key : String) (history : List KeyEvent) : Option ℚ :=
  (sinceFirstSet key history).map fun since => since.1 + total (KeyEvent.fundingOf u) since.2

end ApiGateway
