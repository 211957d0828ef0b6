import ApiGateway.Service.Wallet

/-!
# Commissions

A completed top-up pays up to two commissions, to the payer's active parent and to that user's
active parent, from the spread between their top-up discounts. Each is one record and one wallet
credit, written in a nested transaction: when that fails (`CommissionFault`), the failure is
recorded and the top-up goes on. A reversal takes back the settled records of an order.
-/

namespace ApiGateway

open Table Decimal

variable (cfg : Config) (topUp : TopUp)

/-- The quota a top-up order is worth. -/
def calculateTopUpQuota : Int :=
  match topUp.paymentProvider with
  | .stripe => intPart (topUp.money * cfg.quotaPerUnit)
  | .creem => topUp.amount
  | _ => intPart (topUp.amount * cfg.quotaPerUnit)

/-! ## Rules -/

structure CommissionLevelRule where
  level : Nat
  amount : ℚ
  rate : ℚ
  baseAmount : ℚ
  beneficiary : Nat

def topUpCommissionBaseAmount : ℚ :=
  if topUp.paidAmount > 0 then topUp.paidAmount
  else if topUp.money > 0 then topUp.money
  else if topUp.rechargeAmount > 0 then topUp.rechargeAmount
  else 0

def topUpCommissionRechargeAmount : ℚ :=
  if topUp.rechargeAmount > 0 then topUp.rechargeAmount
  else quotaToWalletAmount cfg (calculateTopUpQuota cfg topUp)

def normalizeCommissionDiscount (discount : ℚ) : ℚ :=
  if discount ≤ 0 ∨ discount > 1 then 1 else discount

variable (s : Store)

/-- The discount a user tops up at; anything outside `(0, 1)` counts as none. -/
def getEffectiveUserTopupDiscountTx (u : Nat) : ℚ :=
  if u = 0 then 1
  else
    match (s.users u).topupDiscount with
    | none => 1
    | some d => if d ≤ 0 ∨ d > 1 then 1 else d

def topUpCommissionSourceDiscountTx (topUp : TopUp) : ℚ :=
  if topUp.paidAmount > 0 ∧ topUp.rechargeAmount > 0 then
    normalizeCommissionDiscount (topUp.paidAmount / topUp.rechargeAmount)
  else if topUp.discount > 0 ∧ topUp.discount ≤ 1 then
    normalizeCommissionDiscount topUp.discount
  else if topUp.userId = 0 then 1
  else normalizeCommissionDiscount (getEffectiveUserTopupDiscountTx s topUp.userId)

/-- A paid activation of the user that was not taken back. -/
def VipActivationRecord.activeFor (u : Nat) (r : VipActivationRecord) : Bool :=
  r.userId == u && r.status == .success && decide (0 < r.activatedAt)

def isUserActiveVvipTx (u : Nat) : Bool :=
  u != 0 && s.vipActivations.any fun r => r.activeFor u

/-- The parent in the active relation of a child, if there is one. -/
def activeParentTx (child : Nat) : Option Nat :=
  (lookup (fun r : UserRelation => r.childUserId == child && r.active) s.userRelations).map
    fun r => r.2.parentUserId

/-! ### Changing the relations -/

/-- Walk up from `current` looking for `child`; a repeated user counts as a cycle. Every user
visited but the last has a relation of its own, which bounds the `fuel`. -/
def reachesChild (s : Store) (child : Nat) : Nat → List Nat → Nat → Bool
  | 0, _, _ => true
  | fuel + 1, visited, current =>
    if current = 0 then false
    else if current = child ∨ current ∈ visited then true
    else
      match activeParentTx s current with
      | none => false
      | some parent => reachesChild s child fuel (current :: visited) parent

def wouldCreateUserRelationCycleTx (parent child : Nat) : Bool :=
  parent != 0 && child != 0 && reachesChild s child (s.userRelations.length + 2) [] parent

def createActiveUserRelationTx (parent child : Nat) (s : Store) : Except Err Store := do
  failIf (parent = 0 ∨ child = 0) (.message "invalid user relation")
  failIf (parent = child) (.message "user relation self binding")
  failIf ((activeParentTx s child).isSome) (.message "user relation already bound")
  failIf (wouldCreateUserRelationCycleTx s parent child) (.message "user relation cycle")
  return { s with userRelations := s.userRelations ++
    [{ parentUserId := parent, childUserId := child }] }

def disableUserRelationById (id : Nat) (s : Store) : Except Err Store := do
  let _ ← orFail s.userRelations[id]? (.message "record not found")
  return { s with userRelations := s.userRelations.modify id fun r => { r with active := false } }

/-! ### Building the rules -/

def buildTopUpDiscountSpreadRule (level : Nat) (baseAmount downstreamDiscount upstreamDiscount : ℚ)
    (beneficiary : Nat) : Option CommissionLevelRule :=
  let downstream := normalizeCommissionDiscount downstreamDiscount
  let upstream := normalizeCommissionDiscount upstreamDiscount
  if level = 0 ∨ beneficiary = 0 ∨ baseAmount ≤ 0 ∨ downstream ≤ upstream then none
  else
    let rate := downstream - upstream
    let amount := baseAmount * rate
    if amount ≤ 0 then none
    else some { level, amount, rate, baseAmount, beneficiary }

/-- The level-2 rule, once the level-1 parent and its discount are known. -/
def buildTopUpLevel2Rule (paidBaseAmount level1Discount : ℚ) (level1Parent : Nat) :
    Option CommissionLevelRule :=
  match activeParentTx s level1Parent with
  | none => none
  | some level2Parent =>
    if isUserActiveVvipTx s level2Parent then
      buildTopUpDiscountSpreadRule 2 paidBaseAmount level1Discount
        (getEffectiveUserTopupDiscountTx s level2Parent) level2Parent
    else none

/-- Commission rules of a top-up, from the relations as they are now. -/
def buildTopUpCommissionRulesTx (topUp : TopUp) : List CommissionLevelRule :=
  let paidBaseAmount := topUpCommissionBaseAmount topUp
  if topUp.userId = 0 then []
  else if paidBaseAmount ≤ 0 ∧ topUpCommissionRechargeAmount cfg topUp ≤ 0 then []
  else
    match activeParentTx s topUp.userId with
    | none => []
    | some level1Parent =>
      if isUserActiveVvipTx s level1Parent then
        let level1Discount := getEffectiveUserTopupDiscountTx s level1Parent
        (buildTopUpDiscountSpreadRule 1 paidBaseAmount (topUpCommissionSourceDiscountTx s topUp)
          level1Discount level1Parent).toList ++
        (buildTopUpLevel2Rule s paidBaseAmount level1Discount level1Parent).toList
      else []

/-! ## Settlement -/

structure CreateCommissionParams where
  beneficiaryUserId : Nat
  sourceUserId : Nat
  sourceOrderNo : String
  sourceType : CommissionSourceType
  level : Nat
  baseAmount : ℚ
  commissionRate : ℚ
  amount : ℚ
  sourceUserLabel : String
  remark : String

/-- How the payer is shown to the beneficiary. -/
def buildCommissionSourceUserLabelTx (u : Nat) : String :=
  let displayName := trimSpace (s.users u).displayName
  let username := trimSpace (s.users u).username
  if u = 0 then ""
  else if displayName ≠ "" ∧ username ≠ "" ∧ displayName ≠ username then
    displayName ++ "/" ++ username ++ " (#" ++ toString u ++ ")"
  else if displayName ≠ "" then displayName ++ " (#" ++ toString u ++ ")"
  else if username ≠ "" then username ++ " (#" ++ toString u ++ ")"
  else "User #" ++ toString u

variable (sourceType : CommissionSourceType)

def buildCommissionIncomeRemark (sourceUserLabel : String) :
    String :=
  let label := if isBlank sourceUserLabel then "未知用户" else trimSpace sourceUserLabel
  match sourceType with
  | .vipActivation => "算力伙伴 开通分佣：下级用户 " ++ label
  | .topUp => "充值分佣：下级用户 " ++ label

variable (params : CreateCommissionParams)

/-- The record of a commission, by source, level and beneficiary. -/
def CreateCommissionParams.matchesRecord (r : CommissionRecord) : Bool :=
  r.sourceType == params.sourceType && r.sourceOrderNo == params.sourceOrderNo &&
    r.level == params.level && r.beneficiaryUserId == params.beneficiaryUserId

def CreateCommissionParams.record (status : CommissionStatus) (errorMessage : String)
    (settledAt : Int) : CommissionRecord :=
  { beneficiaryUserId := params.beneficiaryUserId
    sourceUserId := params.sourceUserId
    sourceUserLabel := trimSpace params.sourceUserLabel
    sourceOrderNo := params.sourceOrderNo
    sourceType := params.sourceType
    level := params.level
    baseAmount := params.baseAmount
    commissionRate := params.commissionRate
    amount := params.amount
    status := status
    errorMessage := errorMessage
    settledAt := settledAt }

def createSettledCommissionTx (now : Int) (s : Store) :
    Except Err Store := do
  if params.beneficiaryUserId = 0 ∨ params.sourceUserId = 0 ∨ params.sourceOrderNo = "" ∨
      params.amount ≤ 0 ∨ params.level = 0 then
    return s
  failIf (s.commissionRecords.any params.matchesRecord) .commissionAlreadyRecorded
  let s := { s with
    commissionRecords := s.commissionRecords ++ [params.record .settled "" now] }
  creditCommissionTx params.beneficiaryUserId params.sourceOrderNo params.amount .commissionIncome
    params.remark
    (some (.commission params.sourceType params.sourceOrderNo params.level params.beneficiaryUserId))
    s

/-- Error messages are cut at 512 characters. -/
def truncateCommissionErrorMessage (message : String) : String :=
  String.ofList ((trimSpace message).toList.take 512)

def createFailedCommissionTx (errorMessage : String) (s : Store) : Store :=
  if params.beneficiaryUserId = 0 ∨ params.sourceUserId = 0 ∨ params.sourceOrderNo = "" ∨
      params.level = 0 then s
  else if s.commissionRecords.any params.matchesRecord then s
  else { s with commissionRecords := s.commissionRecords ++
    [params.record .failed (truncateCommissionErrorMessage errorMessage) 0] }

/-- What the database does to one nested commission transaction. -/
inductive CommissionFault where
  | none
  /-- The nested transaction is rolled back with this error. -/
  | settle (error : String)
  /-- So is the write of the failure record. -/
  | settleAndRecord (error : String)

/-- Settle one commission; no error leaves this function. -/
def settleCommissionRuleTx (fault : CommissionFault) (params : CreateCommissionParams) (now : Int)
    (s : Store) : Store :=
  match fault with
  | .none =>
    match createSettledCommissionTx params now s with
    | .ok s' => s'
    | .error .commissionAlreadyRecorded => s
    | .error e => createFailedCommissionTx params e.text s
  | .settle e => createFailedCommissionTx params e s
  | .settleAndRecord _ => s

def topUpCommissionParams (topUp : TopUp) (rule : CommissionLevelRule) :
    CreateCommissionParams :=
  let label := buildCommissionSourceUserLabelTx s topUp.userId
  { beneficiaryUserId := rule.beneficiary
    sourceUserId := topUp.userId
    sourceOrderNo := topUp.tradeNo
    sourceType := .topUp
    level := rule.level
    baseAmount := rule.baseAmount
    commissionRate := rule.rate
    amount := rule.amount
    sourceUserLabel := label
    remark := buildCommissionIncomeRemark .topUp label }

/-- Settle the rules in order; `faults` gives the fate of each level. -/
def settleRulesTx (faults : Nat → CommissionFault) (now : Int) :
    List CreateCommissionParams → Store → Store
  | [], s => s
  | params :: rest, s =>
    settleRulesTx faults now rest
      (if params.amount ≤ 0 then s
       else settleCommissionRuleTx (faults params.level) params now s)

/-- What the database does to the settlement of one top-up. -/
structure CommissionFaults where
  /-- The rules cannot be read; the settlement is skipped. -/
  rules : Bool := false
  level : Nat → CommissionFault := fun _ => .none

def settleTopUpCommissionsTx (faults : CommissionFaults) (topUp : TopUp) (now : Int)
    (s : Store) : Store :=
  if topUp.userId = 0 ∨ isBlank topUp.tradeNo ∨ faults.rules then s
  else settleRulesTx faults.level now
    ((buildTopUpCommissionRulesTx cfg s topUp).map (topUpCommissionParams s topUp)) s

/-! ## Reversal -/

/-- Take back the listed records, in order. A record whose reversal flow is
already there is left as it is. -/
def reverseRecordsTx (sourceType : CommissionSourceType) (sourceOrderNo reason : String)
    (now : Int) : List (CommissionRecord × Nat) → Store → Except Err Store
  | [], s => .ok s
  | (record, id) :: rest, s => do
    let key := FlowKey.commissionReverse sourceType sourceOrderNo record.level
      record.beneficiaryUserId
    if walletFlowExistsTx s (some key) then
      reverseRecordsTx sourceType sourceOrderNo reason now rest s
    else
      let account ← getOrCreateWalletAccountTx record.beneficiaryUserId s
      -- the commission may go negative here; later income makes up for it
      let account := { account with
        commissionAmount := account.commissionAmount - record.amount }
      let s := s.saveAccount record.beneficiaryUserId account (some key)
      let s := { s with commissionRecords := s.commissionRecords.modify id fun r => { r with
        status := .reversed, reversedAt := now, reverseReason := trimSpace reason } }
      let s := createWalletFlowTx
        (walletFlow record.beneficiaryUserId sourceOrderNo (some key) .refundReverse .commission
          .outgoing record.amount account (trimSpace reason)) s
      reverseRecordsTx sourceType sourceOrderNo reason now rest s

/-- The settled records of an order, with their primary keys. -/
def settledRecords (sourceOrderNo : String) (s : Store) :
    List (CommissionRecord × Nat) :=
  s.commissionRecords.zipIdx.filter fun r =>
    r.1.sourceType == sourceType && r.1.sourceOrderNo == sourceOrderNo && r.1.status == .settled

def reverseCommissionsTx (sourceOrderNo reason : String) (now : Int) (s : Store) :
    Except Err Store := do
  failIf (isBlank sourceOrderNo) (.message "佣金来源不能为空")
  reverseRecordsTx sourceType sourceOrderNo reason now (settledRecords sourceType sourceOrderNo s) s

end ApiGateway
