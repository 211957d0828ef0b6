import ApiGateway.Service.Funding

/-!
# Billing sessions

A session charges some quota in advance, to the funding source and to the token, may reserve more
while the request is prepared, and is settled at the actual quota or refunded in the background. It
lives in memory and its mutations survive a failed call, so each operation returns the session next
to its error.
-/

namespace ApiGateway

open Table Decimal

variable (cfg : Config)

/-! ## Requests -/

inductive BillingPreference where
  | subscriptionFirst
  | walletFirst
  | subscriptionOnly
  | walletOnly
  deriving DecidableEq

/-- The part of `RelayInfo` that billing reads and writes. -/
structure RelayInfo where
  userId : Nat
  tokenId : Nat
  requestId : String
  tokenUnlimited : Bool := false
  isPlayground : Bool := false
  forcePreConsume : Bool := false
  /-- The request is billed by the upstream's own ledger. -/
  officialLedger : Bool := false
  /-- The request is billed at the upstream's market price. -/
  qiniuMarket : Bool := false
  billingPreference : BillingPreference := .subscriptionFirst
  /-- `token_quota` of the request context. -/
  tokenQuota : Int := 0
  userQuota : Int := 0
  finalPreConsumedQuota : Int := 0
  billingSource : BillingSource := .unset
  subscriptionId : Option Nat := none

inductive ErrorCode where
  | insufficientUserQuota
  | preConsumeTokenQuotaFailed
  | updateDataError
  | queryDataError
  deriving DecidableEq

structure APIError where
  code : ErrorCode
  err : Err

variable (info : RelayInfo)

def preConsumeTokenQuota (refused : Bool) (quota : Int) (s : Store) :
    Except Err Store := do
  if info.officialLedger then
    return s
  failIf (quota < 0) (.message "quota 不能为负数！")
  if info.isPlayground then
    return s
  let token ← storageCall refused (orFail s.tokens[info.tokenId]? (.message "record not found"))
  failIf (¬ info.tokenUnlimited ∧ token.remainQuota < quota)
    (.message s!"token quota is not enough, token remain quota: {token.remainQuota}, need quota: {quota}")
  decreaseTokenQuota info.tokenId quota s

/-! ## The session -/

structure BillingSession where
  info : RelayInfo
  funding : Funding
  preConsumedQuota : Int := 0
  tokenConsumed : Int := 0
  extraReserved : Int := 0
  trusted : Bool := false
  fundingSettled : Bool := false
  settled : Bool := false
  refunded : Bool := false

/-- A session and the database it works on. -/
structure Billing where
  session : BillingSession
  store : Store

def getTrustQuota : Int := intPart (10 * cfg.quotaPerUnit)

variable (b : BillingSession)

/-- Whether a request may go ahead without being charged in advance. -/
def BillingSession.shouldTrust : Bool :=
  match b.funding with
  | .wallet _ _ =>
    !b.info.forcePreConsume && decide (0 < getTrustQuota cfg) &&
      (b.info.tokenUnlimited || decide (getTrustQuota cfg < b.info.tokenQuota)) &&
      decide (getTrustQuota cfg < b.info.userQuota)
  | _ => false

def BillingSession.syncRelayInfo : BillingSession :=
  { b with info := { b.info with
      finalPreConsumedQuota := b.preConsumedQuota
      billingSource := if b.funding.isSubscription then .subscription else .wallet
      subscriptionId :=
        match b.funding with
        | .subscription sub => sub.subscriptionId
        | _ => none } }

/-- Storage calls that are refused while a session is opened. -/
structure PreConsumeFaults where
  userQuota : Bool := false
  token : Bool := false
  funding : Bool := false
  rollback : Bool := false

/-- The error code of a source that could not be charged in advance. -/
def fundingError (e : Err) : APIError :=
  if occursIn "no active subscription".toList e.text.toList ∨
      occursIn "subscription quota insufficient".toList e.text.toList then
    { code := .insufficientUserQuota, err := .message ("订阅额度不足或未配置订阅: " ++ e.text) }
  else { code := .updateDataError, err := e }

variable (faults : PreConsumeFaults)

/-- Charge the token, then the source. A source that refuses gives the token its
quota back. -/
def BillingSession.preConsume (due : Nat → Bool) (now : Int) (quota : Int) (b : BillingSession)
    (s : Store) : Except APIError BillingSession × Store :=
  let trusted := b.shouldTrust cfg
  let effective := if trusted then 0 else quota
  match (if effective > 0 then preConsumeTokenQuota b.info faults.token effective s
    else .ok s) with
  | .error e => (.error { code := .preConsumeTokenQuotaFailed, err := e }, s)
  | .ok s =>
    let tokenConsumed := if effective > 0 then effective else b.tokenConsumed
    match b.funding.preConsume cfg faults.funding due now effective s with
    | .error e =>
      if tokenConsumed > 0 ∧ ¬ b.info.isPlayground then
        match storageCall faults.rollback
            (increaseTokenQuota b.info.tokenId tokenConsumed s) with
        | .error _ => (.error (fundingError e), s)
        | .ok s => (.error (fundingError e), s)
      else (.error (fundingError e), s)
    | .ok (funding, s) =>
      (.ok { b with trusted := trusted, funding := funding, tokenConsumed := tokenConsumed,
                    preConsumedQuota := effective }.syncRelayInfo, s)

/-! ## Opening a session -/

/-- A session on the wallet, after a look at the user's quota. -/
def buildWalletSession (info : RelayInfo) (quota : Int) (funding : Funding) (s : Store) :
    Except APIError BillingSession × Store :=
  if faults.userQuota then
    (.error { code := .queryDataError, err := .message "storage error" }, s)
  else
    let userQuota := (s.users info.userId).quota
    if userQuota ≤ 0 then
      (.error { code := .insufficientUserQuota, err := .message "用户额度不足" }, s)
    else if userQuota - quota < 0 then
      (.error { code := .insufficientUserQuota, err := .message "预扣费额度失败" }, s)
    else
      BillingSession.preConsume cfg faults (fun _ => false) 0 quota
        { info := { info with userQuota := userQuota }, funding := funding } s

/-- A session on a subscription; at least one unit is charged in advance. -/
def trySubscription (due : Nat → Bool) (now : Int) (info : RelayInfo) (quota : Int) (s : Store) :
    Except APIError BillingSession × Store :=
  let subConsume := if quota ≤ 0 then 1 else quota
  BillingSession.preConsume cfg faults due now subConsume
    { info := info
      funding := .subscription
        { requestId := info.requestId, userId := info.userId, amount := subConsume } } s

/-- `first`, unless the user's quota does not reach; then `second`. -/
def orElseInsufficient (first : Except APIError BillingSession × Store)
    (second : Store → Except APIError BillingSession × Store) :
    Except APIError BillingSession × Store :=
  match first with
  | (.error e, s) => if e.code = .insufficientUserQuota then second s else (.error e, s)
  | (.ok b, s) => (.ok b, s)

def newBillingSession (wallet subscription : PreConsumeFaults) (due : Nat → Bool) (now : Int)
    (info : RelayInfo) (quota : Int) (s : Store) : Except APIError BillingSession × Store :=
  let tryWallet := buildWalletSession cfg wallet info quota (.wallet info.userId 0)
  let trySub := trySubscription cfg subscription due now info quota
  if info.qiniuMarket then
    buildWalletSession cfg wallet info quota (.qiniuWallet info.userId 0) s
  else
    match info.billingPreference with
    | .subscriptionOnly => trySub s
    | .walletOnly => tryWallet s
    | .walletFirst => orElseInsufficient (tryWallet s) trySub
    | .subscriptionFirst =>
      if info.userId = 0 then
        (.error { code := .queryDataError, err := .message "invalid userId" }, s)
      else if (activeSubscriptions info.userId now s).isEmpty then tryWallet s
      else orElseInsufficient (trySub s) tryWallet

/-! ## Reserving more -/

structure ReserveFaults where
  funding : Bool := false
  token : Bool := false
  rollback : Bool := false

variable (refused : Bool)

def reserveFunding (delta : Int) : Funding → Store →
    Except Err (Funding × Store)
  | .wallet u consumed, s => do
    let s ← storageCall refused (consumeWalletQuota cfg u delta "wallet-reserve" "钱包补充预留" s)
    return (.wallet u (consumed + delta), s)
  | .qiniuWallet u consumed, s => do
    let s ← storageCall refused (debitBalanceByQuotaSilentlyTx cfg u delta s)
    return (.qiniuWallet u (consumed + delta), s)
  | .subscription sub, s => do
    let s ← storageCall refused (postConsumeUserSubscriptionDelta sub.subscriptionId delta s)
    return (.subscription sub, s)

/-- Give a reservation back; a refused call leaves it where it is. -/
def rollbackFundingReserve (delta : Int) : Funding → Store → Funding × Store
  | .wallet u consumed, s =>
    match storageCall refused
        (refundWalletQuota cfg u delta "wallet-reserve-rollback" "钱包预留回滚" s) with
    | .error _ => (.wallet u consumed, s)
    | .ok s => (.wallet u (consumed - delta), s)
  | .qiniuWallet u consumed, s =>
    match storageCall refused (creditBalanceByQuotaSilentlyTx cfg u delta s) with
    | .error _ => (.qiniuWallet u consumed, s)
    | .ok s => (.qiniuWallet u (max 0 (consumed - delta)), s)
  | .subscription sub, s =>
    match storageCall refused
        (postConsumeUserSubscriptionDelta sub.subscriptionId (-delta) s) with
    | .error _ => (.subscription sub, s)
    | .ok s => (.subscription sub, s)

def reserveToken (refused : Bool) (delta : Int) (s : Store) : Except Err Store :=
  if delta ≤ 0 ∨ info.isPlayground then .ok s else preConsumeTokenQuota info refused delta s

/-- Raise what is charged in advance to `target`. -/
def Billing.reserve (faults : ReserveFaults) (target : Int) (b : Billing) : Billing × Option Err :=
  let ses := b.session
  if ses.settled ∨ ses.refunded ∨ ses.trusted ∨ target ≤ ses.preConsumedQuota then (b, none)
  else
    let delta := target - ses.preConsumedQuota
    match reserveFunding cfg faults.funding delta ses.funding b.store with
    | .error e => (b, some e)
    | .ok (funding, s) =>
      match reserveToken ses.info faults.token delta s with
      | .error e =>
        let (funding, s) := rollbackFundingReserve cfg faults.rollback delta funding s
        ({ session := { ses with funding := funding }, store := s }, some e)
      | .ok s =>
        ({ session := { ses with
             funding := funding
             preConsumedQuota := ses.preConsumedQuota + delta
             tokenConsumed := ses.tokenConsumed + delta
             extraReserved := ses.extraReserved + delta }.syncRelayInfo
           store := s }, none)

/-! ## Settling -/

structure SettleFaults where
  funding : Bool := false
  token : Bool := false

/-- Adjust the token by `delta`; playground requests have none. -/
def settleToken (refused : Bool) (delta : Int) (s : Store) : Except Err Store :=
  if info.isPlayground then .ok s
  else storageCall refused
    (if delta > 0 then decreaseTokenQuota info.tokenId delta s
     else increaseTokenQuota info.tokenId (-delta) s)

/-- First the source, then the token. When only the token fails, the session counts as settled. -/
def Billing.settle (faults : SettleFaults) (actual : Int) (b : Billing) : Billing × Option Err :=
  let ses := b.session
  let delta := actual - ses.preConsumedQuota
  if ses.settled then (b, none)
  else if delta = 0 then ({ b with session := { ses with settled := true } }, none)
  else
    match (if ses.fundingSettled then (ses.funding, .ok b.store)
      else ses.funding.settle cfg faults.funding delta b.store) with
    | (funding, .error e) => ({ b with session := { ses with funding := funding } }, some e)
    | (funding, .ok s) =>
      let ses := { ses with funding := funding, fundingSettled := true, settled := true }
      match settleToken ses.info faults.token delta s with
      | .error e => ({ session := ses, store := s }, some e)
      | .ok s => ({ session := ses, store := s }, none)

/-! ## Refunding -/

def BillingSession.needsRefund : Bool :=
  !(b.settled || b.refunded || b.fundingSettled) &&
    (decide (0 < b.tokenConsumed) ||
      match b.funding with
      | .subscription sub => decide (0 < sub.preConsumed)
      | _ => false)

/-- What a refund takes with it into the background. -/
structure RefundTask where
  tokenConsumed : Int
  extraReserved : Int
  subscriptionId : Option Nat

/-- Start the refund, at most once and only before settlement. -/
def Billing.refund (b : Billing) : Billing × Option RefundTask :=
  let ses := b.session
  if ses.settled ∨ ses.refunded ∨ ¬ ses.needsRefund then (b, none)
  else ({ b with session := { ses with refunded := true } },
    some { tokenConsumed := ses.tokenConsumed, extraReserved := ses.extraReserved,
           subscriptionId := ses.info.subscriptionId })

structure RefundTaskFaults where
  funding : Funding.RefundFaults := {}
  extra : Bool := false
  token : Bool := false

/-- The reservations of a subscription are returned separately. -/
def RefundTask.refundExtra (task : RefundTask) (funding : Funding) (s : Store) :
    Except Err Store :=
  if 0 < task.extraReserved ∧ funding.isSubscription ∧ task.subscriptionId.isSome then
    storageCall refused (postConsumeUserSubscriptionDelta task.subscriptionId
      (-task.extraReserved) s)
  else .ok s

def RefundTask.refundToken (task : RefundTask) (info : RelayInfo) (s : Store) :
    Except Err Store :=
  if 0 < task.tokenConsumed ∧ ¬ info.isPlayground then
    storageCall refused (increaseTokenQuota info.tokenId task.tokenConsumed s)
  else .ok s

/-- Each step of a refund is tried, whatever became of the one before; the result says whether all
of them succeeded. -/
def Billing.runRefund (faults : RefundTaskFaults) (task : RefundTask) (b : Billing) :
    Billing × Bool :=
  let (funding, ok₁, s₁) := b.session.funding.refund cfg faults.funding b.store
  let (ok₂, s₂) :=
    match task.refundExtra faults.extra funding s₁ with
    | .error _ => (false, s₁)
    | .ok s => (true, s)
  let (ok₃, s₃) :=
    match task.refundToken faults.token b.session.info s₂ with
    | .error _ => (false, s₂)
    | .ok s => (true, s)
  ({ session := { b.session with funding := funding }, store := s₃ }, ok₁ && ok₂ && ok₃)

end ApiGateway
