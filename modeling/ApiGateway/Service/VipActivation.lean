import ApiGateway.Service.TopUp

/-!
# VVIP activations

A user becomes VVIP by paying an activation order. The orders are the records; the profile of the
user has a snapshot of what they say, `is_vvip`, that every operation writes from what it knows
about its own order. Callbacks may come more than once, and a user may have several unpaid orders.
An order that was reversed and one that an administrator disabled have the same status.
-/

namespace ApiGateway

open Table Decimal

variable (cfg : Config)

/-- What `common.GetTimestamp` returns. -/
structure Timestamp where
  seconds : Int
  positive : 0 < seconds

/-! ## Parts -/

variable (tradeNo : String)

/-- The order with this trade number, under a lock. -/
def lockVipActivationTx (s : Store) : Except Err (Nat × VipActivationRecord) :=
  orFail (lookup (fun r : VipActivationRecord => r.tradeNo == tradeNo) s.vipActivations)
    .vipActivationOrderNotFound

/-- Rewrite one order by primary key. -/
@[simps]
def Store.saveVipActivation (s : Store) (id : Nat) (order : VipActivationRecord) : Store :=
  { s with vipActivations := s.vipActivations.modify id fun _ => order }

@[simps]
def upsertVvipProfileTx (u : Nat) (activatedAt : Int) (active : Bool) (disabledAt : Int)
    (s : Store) : Store :=
  { s with userProfiles := Function.update s.userProfiles u {
      isVvip := active
      vvipActivatedAt := activatedAt
      vvipDisabledAt := if active then 0 else disabledAt
      vvipStatus := if active then .active else .disabled } }

/-- Whether an order of the user was disabled after `createdAt`. -/
def hasVipActivationDisabledAfterOrderTx (u : Nat) (createdAt : Int) (s : Store) : Bool :=
  s.vipActivations.any fun r => r.userId == u && r.status == .disabled &&
    decide (0 < r.disabledAt) && decide (createdAt < r.disabledAt)

variable (order : VipActivationRecord)

def applyVipActivationPaymentSnapshot : VipActivationRecord :=
  let activation := if order.activationAmount ≤ 0 then cfg.vipActivationPaymentAmount
    else order.activationAmount
  let paid := if order.paidAmount ≤ 0 then cfg.vipActivationPaymentAmount else order.paidAmount
  let discount := if 0 < activation ∧ 0 < paid then paid / activation else order.discount
  { order with
    activationAmount := activation
    paidAmount := paid
    discount := if discount ≤ 0 then 1 else discount }

def vipActivationFlowAmount : ℚ :=
  if order.paidAmount ≤ 0 then cfg.vipActivationPaymentAmount else order.paidAmount

/-- The wallet flow of a payment that did not go through the wallet: it moves nothing. -/
def createPassingFlowTx (key : String) (flowType : WalletFlowType) (direction : WalletFlowDirection)
    (remark : String) (order : VipActivationRecord) (s : Store) : Except Err Store := do
  if order.userId = 0 ∨ isBlank order.tradeNo then
    return s
  let key := some (FlowKey.other (key ++ trimSpace order.tradeNo))
  if walletFlowExistsTx s key then
    return s
  let account ← getOrCreateWalletAccountTx order.userId s
  return createWalletFlowTx (walletFlow order.userId (trimSpace order.tradeNo) key flowType .balance
    direction (vipActivationFlowAmount cfg order) account remark) s

def createVipActivationWalletFlowTx : VipActivationRecord → Store → Except Err Store :=
  createPassingFlowTx cfg "wallet:vip-activation:" .vipActivation .outgoing "VVIP 开通支付"

def createVipActivationReverseWalletFlowTx (reason : String) :
    Store → Except Err Store :=
  createPassingFlowTx cfg "wallet:vip-activation-reverse:" .refundReverse .incoming
    (trimSpace reason) order

/-! ### Commissions -/

/-- What the database does to the commissions of one activation. -/
structure VipCommissionFaults where
  /-- The relation of the level cannot be read; the settlement stops there. -/
  relation : Nat → Bool := fun _ => false
  /-- It cannot be read whether the beneficiary of the level is VVIP. -/
  check : Nat → Option String := fun _ => none
  level : Nat → CommissionFault := fun _ => .none

variable (faults : VipCommissionFaults)

def createVipActivationCommissionForBeneficiaryTx (beneficiary sourceUserId : Nat)
    (sourceOrderNo : String) (level : Nat) (baseAmount amount : ℚ) (now : Int) (s : Store) :
    Store :=
  if baseAmount ≤ 0 ∨ amount ≤ 0 then s
  else
    let label := buildCommissionSourceUserLabelTx s sourceUserId
    let params : CreateCommissionParams := {
      beneficiaryUserId := beneficiary
      sourceUserId := sourceUserId
      sourceOrderNo := sourceOrderNo
      sourceType := .vipActivation
      level := level
      baseAmount := baseAmount
      commissionRate := amount / baseAmount
      amount := amount
      sourceUserLabel := label
      remark := buildCommissionIncomeRemark .vipActivation label }
    match faults.check level with
    | some e => createFailedCommissionTx params e s
    | none =>
      if isUserActiveVvipTx s beneficiary then
        settleCommissionRuleTx (faults.level level) params now s
      else s

/-- `ValidateVipActivationCommissionAmounts` -/
def vipActivationCommissionsValid : Bool :=
  decide (0 < cfg.vipActivationPaymentAmount) &&
  decide (0 ≤ cfg.vipActivationCommissionLevel1Amount) &&
  decide (0 ≤ cfg.vipActivationCommissionLevel2Amount) &&
  decide (cfg.vipActivationCommissionLevel1Amount + cfg.vipActivationCommissionLevel2Amount ≤
    cfg.vipActivationPaymentAmount)

def settleVipActivationCommissionsTx (order : VipActivationRecord) (now : Int) (s : Store) :
    Store :=
  let orderNo := trimSpace order.tradeNo
  let baseAmount := vipActivationFlowAmount cfg order
  if order.userId = 0 ∨ orderNo = "" ∨ !vipActivationCommissionsValid cfg then s
  else
    match (if faults.relation 1 then none else activeParentTx s order.userId) with
    | none => s
    | some parent =>
      let s := if parent = 0 then s else createVipActivationCommissionForBeneficiaryTx faults
        parent order.userId orderNo 1 baseAmount cfg.vipActivationCommissionLevel1Amount now s
      match (if faults.relation 2 then none else activeParentTx s parent) with
      | none => s
      | some grandparent =>
        if grandparent = 0 then s
        else createVipActivationCommissionForBeneficiaryTx faults grandparent order.userId
          orderNo 2 baseAmount cfg.vipActivationCommissionLevel2Amount now s

/-! ## Operations -/

/-- The order number is made from the user, a random text and the time. -/
def createVipActivationOrder (u : Nat) (provider : PaymentProvider) (method random : String)
    (now : Timestamp) (s : Store) : Except Err Store := do
  failIf (u = 0) (.message "用户不存在")
  failIf (provider = .unset ∨ isBlank method) (.message "支付渠道不能为空")
  failIf (isUserActiveVvipTx s u) (.message "用户已开通 VVIP，不能重复发起支付")
  failIf (cfg.vipActivationPaymentAmount ≤ 0) (.message "VVIP 开通费用必须大于等于 0.01")
  let tradeNo := "VIPUSR" ++ toString u ++ "NO" ++ random ++ toString now.seconds
  -- the unique index on the order number
  failIf (s.vipActivations.any fun r => r.tradeNo == tradeNo) (.message "UNIQUE constraint failed")
  return { s with vipActivations := s.vipActivations ++ [{
    userId := u
    tradeNo := tradeNo
    activationAmount := cfg.vipActivationPaymentAmount
    paidAmount := cfg.vipActivationPaymentAmount
    discount := 1
    paymentProvider := provider
    paymentMethod := method
    createdAt := now.seconds }] }

/-- The row of an order whose payment succeeded. -/
def activatedOrder (payload method : String) (activatedAt : Int) (now : Timestamp) :
    VipActivationRecord :=
  { applyVipActivationPaymentSnapshot cfg order with
    status := .success
    activatedAt := if activatedAt ≤ 0 then now.seconds else activatedAt
    providerPayload := if payload = "" then order.providerPayload else payload
    paymentMethod := if method = "" then order.paymentMethod else method }

/-- The discount of new VVIP users, if one is configured. -/
def setDefaultVvipDiscount (u : Nat) (s : Store) : Store :=
  match cfg.defaultVvipTopupDiscount with
  | none => s
  | some discount =>
    { s with
      users := Function.update s.users u { s.users u with topupDiscount := some discount } }

/-- Everything that follows from a successful payment. The default discount is only set the first
time. -/
def applyVipActivationSuccessEffectsTx (id : Nat) (order : VipActivationRecord)
    (payload method : String) (activatedAt : Int) (now : Timestamp) (first : Bool) (s : Store) :
    Except Err Store := do
  if order.userId = 0 ∨ isBlank order.tradeNo then
    return s
  let order := activatedOrder cfg order payload method activatedAt now
  let s := upsertVvipProfileTx order.userId order.activatedAt true 0 (s.saveVipActivation id order)
  let s := if first then setDefaultVvipDiscount cfg order.userId s else s
  let s ← createVipActivationWalletFlowTx cfg order s
  return settleVipActivationCommissionsTx cfg faults order now.seconds s

/-- The order, from the expected provider; `unset` accepts any. -/
def vipActivationOrderOf (provider : PaymentProvider) (s : Store) :
    Except Err (Nat × VipActivationRecord) := do
  let (id, order) ← lockVipActivationTx tradeNo s
  failIf (provider ≠ .unset ∧ order.paymentProvider ≠ provider) .paymentMethodMismatch
  return (id, order)

/-- A pending order whose payment failed. -/
def failedOrder (payload : String) : VipActivationRecord :=
  { order with
    status := .failed
    providerPayload := if payload = "" then order.providerPayload else payload }

/-- Completing an order. That it was paid too late is told by an error after the transaction has
committed. -/
def completeVipActivationOrder (tradeNo payload : String) (provider : PaymentProvider)
    (method : String) (now : Timestamp) (s : Store) :
    Except Err Store := do
  failIf (isBlank tradeNo) .vipActivationOrderNotFound
  let (id, order) ← vipActivationOrderOf tradeNo provider s
  match order.status with
  | .success =>
    applyVipActivationSuccessEffectsTx cfg faults id order "" "" order.activatedAt now false s
  | .disabled => return s
  | .failed => .error .vipActivationOrderStatusInvalid
  | .pending =>
    if hasVipActivationDisabledAfterOrderTx order.userId order.createdAt s then
      return s.saveVipActivation id (failedOrder order payload)
    else
      applyVipActivationSuccessEffectsTx cfg faults id order payload method now.seconds now true s

def repairVipActivationSettlement (tradeNo : String) (provider : PaymentProvider) (now : Timestamp)
    (s : Store) : Except Err Store := do
  failIf (isBlank tradeNo) .vipActivationOrderNotFound
  let (id, order) ← vipActivationOrderOf (trimSpace tradeNo) provider s
  failIf (order.status ≠ .success) .vipActivationOrderStatusInvalid
  applyVipActivationSuccessEffectsTx cfg faults id order "" "" order.activatedAt now false s

def failVipActivationOrder (tradeNo payload : String) (provider : PaymentProvider) (s : Store) :
    Except Err Store := do
  failIf (isBlank tradeNo) .vipActivationOrderNotFound
  let (id, order) ← vipActivationOrderOf tradeNo provider s
  if order.status = .failed then
    return s
  failIf (order.status ≠ .pending) .vipActivationOrderStatusInvalid
  return s.saveVipActivation id (failedOrder order payload)

/-- Disable every active order of a user, and the pending ones with them, so that no late
callback activates the user again. -/
def disableVipActivation (u admin : Nat) (reason : String) (now : Timestamp) (s : Store) :
    Except Err Store := do
  failIf (u = 0) (.message "用户不存在")
  let latestActivatedAt := (s.vipActivations.filter fun r => r.activeFor u).foldl
    (fun t r => max t r.activatedAt) 0
  failIf (latestActivatedAt = 0) .vipActivationOrderNotFound
  let s := { s with
    vipActivations := updateWhere (fun _ r => r.activeFor u)
      (fun r => { r with
        status := .disabled, disabledAt := now.seconds, disabledBy := admin
        disableReason := trimSpace reason }) s.vipActivations }
  let s := { s with
    vipActivations := updateWhere
      (fun _ (r : VipActivationRecord) => r.userId == u && r.status == .pending)
      (fun r => { r with
        status := .failed, providerPayload := "管理员禁用 VVIP 权限，待支付订单失效" })
      s.vipActivations }
  return upsertVvipProfileTx u latestActivatedAt false now.seconds s

/-- Whether `part` occurs in `text`. -/
def containsText (text part : String) : Bool := occursIn part.toList text.toList

def mergeDisableReason (existing reason : String) : String :=
  let existing := trimSpace existing
  let reason := trimSpace reason
  if reason = "" then existing
  else if existing = "" then reason
  else if containsText existing reason then existing
  else existing ++ "；" ++ reason

def reverseVipActivationOrder (provider : PaymentProvider) (reason : String) (now : Timestamp)
    (s : Store) : Except Err Store := do
  failIf (isBlank tradeNo) .vipActivationOrderNotFound
  let reason := normalizeReverseReason reason
  let (id, order) ← vipActivationOrderOf (trimSpace tradeNo) provider s
  let merged := mergeDisableReason order.disableReason reason
  if order.status = .disabled then
    let s := s.saveVipActivation id { order with disableReason := merged }
    let s ← createVipActivationReverseWalletFlowTx cfg order reason s
    reverseCommissionsTx .vipActivation order.tradeNo reason now.seconds s
  else
    failIf (order.status ≠ .success) .vipActivationOrderStatusInvalid
    let s := s.saveVipActivation id { order with
      status := .disabled, disabledAt := now.seconds, disableReason := merged }
    let s := upsertVvipProfileTx order.userId order.activatedAt false now.seconds s
    let s ← createVipActivationReverseWalletFlowTx cfg order reason s
    reverseCommissionsTx .vipActivation order.tradeNo reason now.seconds s

/-! ## Operations as data -/

inductive VipOp where
  | create (u : Nat) (provider : PaymentProvider) (method random : String) (now : Timestamp)
  | complete (faults : VipCommissionFaults) (tradeNo payload : String) (provider : PaymentProvider)
      (method : String) (now : Timestamp)
  | fail (tradeNo payload : String) (provider : PaymentProvider)
  | repair (faults : VipCommissionFaults) (tradeNo : String) (provider : PaymentProvider)
      (now : Timestamp)
  | reverse (tradeNo : String) (provider : PaymentProvider) (reason : String) (now : Timestamp)
  | disable (u admin : Nat) (reason : String) (now : Timestamp)

def VipOp.exec : VipOp → Store → Except Err Store
  | .create u provider method random now, s =>
    createVipActivationOrder cfg u provider method random now s
  | .complete faults tradeNo payload provider method now, s =>
    completeVipActivationOrder cfg faults tradeNo payload provider method now s
  | .fail tradeNo payload provider, s => failVipActivationOrder tradeNo payload provider s
  | .repair faults tradeNo provider now, s =>
    repairVipActivationSettlement cfg faults tradeNo provider now s
  | .reverse tradeNo provider reason now, s =>
    reverseVipActivationOrder cfg tradeNo provider reason now s
  | .disable u admin reason now, s => disableVipActivation u admin reason now s

end ApiGateway
