import ApiGateway.Service.Withdraw

/-!
# Provider withdraw orders: the transactions

Withdrawals can be paid out by the labour-settlement provider "Piggy". Here are the transactions and
the pure checks that `Service.PiggyHandlers` strings together. Each write re-reads the order under
its row lock, or carries its precondition in the `WHERE` clause, so what a handler read earlier
never decides a write.
-/

namespace ApiGateway

open Table Decimal

/-! ## Data from outside -/

/-- `enableError` and `clientError` are the outcomes of validating the configuration and of building
a client from it. -/
structure PiggyWithdrawSetting where
  enabled : Bool := true
  enableError : Option String := none
  clientError : Option String := none
  requestTimeout : Int := 15
  callbackLockTTL : Int := 300
  cooldownMinutes : Int := 30
  platformFeeRate : ℚ := 8
  payNotifyUrl : String := ""
  taxFundId : String := ""
  positionName : String := ""
  position : String := ""
  calcType : String := "C"
  bankRemark : String := ""

/-- A user's payout profile. `contractSigned` is the outcome of comparing the
signed contract with the configured scope. -/
structure WithdrawalProfile where
  id : Nat
  userId : Nat
  accountType : String
  realName : String
  idCardNo : String
  mobile : String
  bankCardNo : String
  bankName : String
  contractSigned : Bool

structure PiggyWithdrawSubmitRequest where
  userId : Nat
  amount : ℚ
  remark : String

/-- Decrypted content of a payment callback, or the payment part of a query. -/
structure PiggyPaymentCallbackContent where
  outerTradeNo : String := ""
  notifyType : String := ""
  tradeStatus : String := ""
  frontLogNo : String := ""
  laborOrderNo : String := ""
  empName : String := ""
  empPhone : String := ""
  licenseType : String := ""
  licenseId : String := ""
  settleType : String := ""
  payAccount : String := ""
  bankName : String := ""
  positionName : String := ""
  tradeFailCode : String := ""
  tradeResult : String := ""
  tradeResultDescribe : String := ""
  pretaxAmount : String := ""
  individualTaxAmount : String := ""
  addedTaxAmount : String := ""
  afterTaxAmount : String := ""
  feeAmount : String := ""
  calcType : String := ""

structure WithdrawApprovalResult where
  submitted : Bool
  recoverable : Bool
  status : WithdrawStatus
  message : String

/-! ## Amounts -/

variable (value : String)

def yuanToCents : Except Err Int :=
  if isBlank value then .ok 0
  else
    match ofString (trimSpace value) with
    | none => .error (.message ("金额格式错误: can\x27t convert " ++ trimSpace value ++ " to decimal"))
    | some q => .ok (int64 (round0 (q * 100)))

def toCentsIgnoreError : Int :=
  match yuanToCents value with
  | .ok c => c
  | .error _ => 0

def floatYuanToCents (value : ℚ) : Int := int64 (round0 (value * 100))

def centsToFloat (cents : Int) : ℚ := cents / 100

structure PiggyPlatformFeeCalculation where
  requestedAmountCents : Int
  platformFeeRate : ℚ
  platformFeeAmountCents : Int
  piggyPayAmountCents : Int
  piggyTaxBeforeAmount : String

def validatePiggyWithdrawPlatformFeeRate (rate : ℚ) : Except Err Unit := do
  failIf (rate < 0 ∨ rate ≥ 100) (.message "小猪平台服务费率必须大于等于 0 且小于 100")
  failIf ((rate * 10000).den ≠ 1) (.message "小猪平台服务费率最多支持 4 位小数")

def calculatePiggyPlatformFee (requestedAmountCents : Int) (platformFeeRate : ℚ) :
    Except Err PiggyPlatformFeeCalculation := do
  failIf (requestedAmountCents ≤ 0) .withdrawAmountInvalid
  validatePiggyWithdrawPlatformFeeRate platformFeeRate
  let feeCents := round0 (requestedAmountCents * platformFeeRate / 100)
  let piggyPayCents := requestedAmountCents - feeCents
  failIf (piggyPayCents ≤ 0) (.message "小猪提现扣除平台服务费后的打款金额必须大于 0")
  return { requestedAmountCents, platformFeeRate, platformFeeAmountCents := feeCents
           piggyPayAmountCents := piggyPayCents
           piggyTaxBeforeAmount := fixed2OfCents piggyPayCents }

variable (order : WithdrawOrder)

/-- The amount frozen for an order; very old rows only have it in cents. -/
def piggyWithdrawOrderAmount : ℚ :=
  if order.amount > 0 then order.amount else centsToFloat order.frozenAmountCents

/-! ## Status predicates -/

def isPiggyTerminalStatus : WithdrawStatus → Bool
  | .paid | .failed | .cancelled | .rejected => true
  | _ => false

variable (setting : PiggyWithdrawSetting) (now : Int)

/-- A claim (`confirming` or `cancelling`) older than the lock TTL. -/
def isPiggyClaimExpired (order : WithdrawOrder) :
    Bool :=
  let ttl := if setting.callbackLockTTL ≤ 0 then 300 else setting.callbackLockTTL
  decide (order.updatedAt ≤ 0) || decide (now - order.updatedAt ≥ ttl)

def isPiggyConfirmingExpired (order : WithdrawOrder) : Bool :=
  order.status == .confirming && isPiggyClaimExpired setting now order

def isPiggyCancellingExpired (order : WithdrawOrder) : Bool :=
  order.status == .cancelling && isPiggyClaimExpired setting now order

/-- Seconds an approved order must have been quiet before it is recovered: twice the request
timeout, at least a minute. -/
def piggyApprovedSubmissionRecoveryDelay : Int :=
  let timeout := if setting.requestTimeout > 0 then setting.requestTimeout else 15
  max 60 (timeout * 2)

/-- The part of the recovery condition that looks at the compensation column. -/
def isPiggySubmitRecoverable (deadline : Int) (order : WithdrawOrder) : Bool :=
  match order.compensationStatus with
  | .none | .pendingCompensation => true
  | .submitRecovering => decide (order.updatedAt ≤ 0) || decide (order.updatedAt ≤ deadline)
  | .manualProcessed => false

def shouldScanPiggyApprovedOrder (deadline : Int) (order : WithdrawOrder) : Bool :=
  order.status == .approved && decide (0 < order.reviewedAt) &&
    decide (order.reviewedAt ≤ deadline) &&
    (decide (order.updatedAt ≤ 0) || decide (order.updatedAt ≤ deadline)) &&
    isPiggySubmitRecoverable deadline order

def shouldScanPiggyManualReviewOrder : Bool :=
  order.status == .manualReview &&
    (order.compensationStatus == .none || order.compensationStatus == .pendingCompensation)

def isWithdrawalProfileComplete (p : WithdrawalProfile) : Bool :=
  decide (0 < p.userId) && p.accountType == "bankcard" && !isBlank p.realName &&
    !isBlank p.idCardNo && !isBlank p.mobile && !isBlank p.bankCardNo && !isBlank p.bankName

def isPiggyOrderPayoutSnapshotComplete : Bool :=
  !isBlank order.accountName && !isBlank order.payoutMobile && !isBlank order.payoutIdCardNo &&
    !isBlank order.payoutBankCardNo && !isBlank order.bankName

/-- A card number with all but the first and last four characters starred. -/
def maskBankCard : String :=
  let cs := (trimSpace value).toList
  if cs.length ≤ 8 then String.ofList (cs.map fun _ => '*')
  else String.ofList (cs.take 4 ++ List.replicate (cs.length - 8) '*' ++ cs.drop (cs.length - 4))

/-! ## Checking callback content against the order -/

def expectedPiggyPretaxAmountCents : Int :=
  if (order.platformFeeRate > 0 ∨ order.platformFeeAmountCents > 0) ∧
      order.piggyPayAmountCents > 0 then order.piggyPayAmountCents
  else if (order.platformFeeRate > 0 ∨ order.platformFeeAmountCents > 0) ∧
      order.taxBeforeAmountCents > 0 then order.taxBeforeAmountCents
  else if order.frozenAmountCents > 0 then order.frozenAmountCents
  else if order.piggyPayAmountCents > 0 then order.piggyPayAmountCents
  else floatYuanToCents order.amount

def validatePiggyCallbackPretaxAmount (content : PiggyPaymentCallbackContent) : Except Err Unit :=
  if isBlank content.pretaxAmount then .ok ()
  else
    match yuanToCents content.pretaxAmount with
    | .error e => .error (.message ("小猪回调税前金额格式错误: " ++ e.text))
    | .ok callbackCents => do
      let expectedCents := expectedPiggyPretaxAmountCents order
      failIf (expectedCents ≤ 0) (.message "小猪回调税前金额无法与本地订单金额核对")
      failIf (callbackCents ≠ expectedCents)
        (.message ("小猪回调税前金额与小猪打款金额不一致: callback=" ++ fixed2OfCents callbackCents ++
          " expected=" ++ fixed2OfCents expectedCents))

/-- `+`, a digit other than zero, and seven to fourteen more digits. -/
def isE164 : List Char → Bool
  | '+' :: c :: cs =>
    c.isDigit && c != '0' && cs.all Char.isDigit && decide (7 ≤ cs.length) &&
      decide (cs.length ≤ 14)
  | _ => false

/-- Drop the country code of a well-formed mainland number. -/
def normalizePiggyContractCallbackMobile : String :=
  let cs := (trimSpace value).toList
  if isE164 cs && "+86".toList.isPrefixOf cs then String.ofList (cs.drop 3) else trimSpace value

def requirePiggyUnsignedCallbackField (name actual expected : String) : Except Err Unit := do
  failIf (isBlank actual) (.message ("小猪无签名支付回调缺少 " ++ name))
  failIf (isBlank expected ∨ trimSpace actual ≠ trimSpace expected)
    (.message ("小猪无签名支付回调 " ++ name ++ " 与订单快照不匹配"))

/-- An unsigned callback must repeat the payout snapshot of its order. -/
def validateUnsignedPiggyPaymentCallbackContent (order : WithdrawOrder)
    (content : PiggyPaymentCallbackContent) : Except Err Unit := do
  validatePiggyCallbackPretaxAmount order content
  requirePiggyUnsignedCallbackField "empName" content.empName order.accountName
  requirePiggyUnsignedCallbackField "empPhone"
    (normalizePiggyContractCallbackMobile content.empPhone)
    (normalizePiggyContractCallbackMobile order.payoutMobile)
  requirePiggyUnsignedCallbackField "licenseType" content.licenseType "ID_CARD"
  requirePiggyUnsignedCallbackField "licenseId" content.licenseId order.payoutIdCardNo
  requirePiggyUnsignedCallbackField "settleType" content.settleType "bankcard"
  requirePiggyUnsignedCallbackField "payAccount" content.payAccount order.payoutBankCardNo
  requirePiggyUnsignedCallbackField "positionName" content.positionName
    (firstNonEmpty [order.positionName, setting.positionName])
  failIf (¬ isBlank content.bankName ∧ ¬ isBlank order.bankName ∧
      trimSpace content.bankName ≠ trimSpace order.bankName)
    (.message "小猪无签名支付回调 bankName 与订单快照不匹配")

variable (content : PiggyPaymentCallbackContent)

def buildPiggyPaymentCallbackIdempotencyKey : String :=
  trimSpace content.outerTradeNo ++ "|" ++ trimSpace content.notifyType ++ "|" ++
    trimSpace content.tradeStatus ++ "|" ++
    firstNonEmpty [content.frontLogNo, content.laborOrderNo]

def inferPiggyQueryNotifyType :
    PiggyPaymentCallbackContent :=
  if ¬ isBlank content.notifyType then content
  else if trimSpace content.tradeStatus = "await" then { content with notifyType := "submitResult" }
  else if trimSpace content.tradeStatus = "success" ∨ trimSpace content.tradeStatus = "failure" then
    { content with notifyType := "tradeResult" }
  else content

/-! ## Order updates written by callbacks -/

def piggyOrderCallbackAmountUpdates (o : WithdrawOrder) :
    WithdrawOrder :=
  { o with
    piggyPretaxAmountCents := toCentsIgnoreError content.pretaxAmount
    piggyIndividualTaxCents := toCentsIgnoreError content.individualTaxAmount
    piggyAddedTaxCents := toCentsIgnoreError content.addedTaxAmount
    piggyAfterTaxAmountCents := toCentsIgnoreError content.afterTaxAmount
    piggyFeeAmountCents := toCentsIgnoreError content.feeAmount
    calcType := firstNonEmpty [content.calcType, setting.calcType] }

/-- A callback for an order still in `approved` proves that its submission
arrived. `order` is the row as it was locked. -/
def addPiggyApprovedSubmissionMarkers (o : WithdrawOrder) :
    WithdrawOrder :=
  if order.status ≠ .approved then o
  else { o with
    externalTradeNo := if isBlank order.externalTradeNo then order.withdrawNo else o.externalTradeNo
    submittedAt := if order.submittedAt ≤ 0 then now else o.submittedAt
    compensationStatus :=
      if order.compensationStatus = .submitRecovering then .none else o.compensationStatus }

/-- Digests are only overwritten by digests that are there. -/
def piggyApplyDigestUpdates (reqDigest respDigest : String) (o : WithdrawOrder) : WithdrawOrder :=
  if ¬ isBlank reqDigest then { o with
    requestPayloadDigest := trimSpace reqDigest, responsePayloadDigest := trimSpace respDigest }
  else if ¬ isBlank respDigest then { o with responsePayloadDigest := trimSpace respDigest }
  else o

/-! ## Transactions -/

variable (withdrawNo : String)

/-- The provider order with this number, under a lock. -/
def lockWithdrawOrderByNoTx (s : Store) :
    Except Err (Nat × WithdrawOrder) := do
  let r ← orFail (lookup (fun o : WithdrawOrder => o.withdrawNo == trimSpace withdrawNo)
    s.withdrawOrders) .withdrawOrderNotFound
  failIf (r.2.provider ≠ .piggyLaborV3) .withdrawStatusInvalid
  return r

def getPiggyOrderByNo (s : Store) : Except Err (Nat × WithdrawOrder) :=
  orFail (lookup (fun o : WithdrawOrder =>
    o.withdrawNo == trimSpace withdrawNo && o.provider == .piggyLaborV3) s.withdrawOrders)
    .withdrawOrderNotFound

variable (id : Nat)

def getPiggyOrderById (s : Store) : Except Err WithdrawOrder := do
  let order ← lockWithdrawOrderTx id s
  failIf (order.provider ≠ .piggyLaborV3) .withdrawOrderNotFound
  return order

/-- Seconds left until the user may withdraw again. -/
def getPiggyWithdrawCooldownRemaining (u : Nat) (cooldownMinutes now : Int) (s : Store) : Int :=
  if cooldownMinutes ≤ 0 then 0
  else
    let recent := (s.withdrawOrders.filter fun o => o.userId == u &&
      o.provider == .piggyLaborV3 && decide (o.createdAt > now - cooldownMinutes * 60)).map
        WithdrawOrder.createdAt
    match recent.max? with
    | none => 0
    | some createdAt => max 0 (cooldownMinutes * 60 - (now - createdAt))

/-- The freezing transaction of `SubmitPiggyWithdrawOrder`. -/
def submitPiggyWithdrawOrderTx (req : PiggyWithdrawSubmitRequest) (setting : PiggyWithdrawSetting)
    (feeCalc : PiggyPlatformFeeCalculation) (profile : WithdrawalProfile) (timeString : String)
    (now : Int) (s : Store) : Except Err (Store × Nat) :=
  let withdrawNo := "PWDR" ++ toString req.userId ++ timeString
  let amount := centsToFloat feeCalc.requestedAmountCents
  freezeCommissionTx
    { userId := req.userId
      withdrawNo := withdrawNo
      amount := amount
      platformFeeRate := feeCalc.platformFeeRate
      platformFeeAmountCents := feeCalc.platformFeeAmountCents
      actualAmount := 0
      status := .pending
      provider := .piggyLaborV3
      piggyStatus := some .pending
      receiveType := "bankcard"
      receiveAccount := maskBankCard profile.bankCardNo
      withdrawalProfileId := profile.id
      accountName := profile.realName
      bankName := profile.bankName
      payoutMobile := profile.mobile
      payoutIdCardNo := profile.idCardNo
      payoutBankCardNo := profile.bankCardNo
      taxBeforeAmountCents := feeCalc.piggyPayAmountCents
      frozenAmountCents := feeCalc.requestedAmountCents
      piggyPayAmountCents := feeCalc.piggyPayAmountCents
      piggyPayAmount := feeCalc.piggyTaxBeforeAmount
      externalTradeNo := ""
      taxFundId := setting.taxFundId
      positionName := setting.positionName
      position := setting.position
      calcType := setting.calcType
      bankRemark := setting.bankRemark
      remark := trimSpace req.remark
      createdAt := now
      updatedAt := now }
    amount (.piggyWithdrawFreeze withdrawNo) "小猪提现申请冻结税前佣金" s

/-- The approving transaction of `approvePiggyWithdrawOrder`. -/
def approvePiggyWithdrawOrderTx (id reviewerId : Nat) (remark : String) (now : Int) (s : Store) :
    Except Err (Store × WithdrawOrder) := do
  let locked ← lockWithdrawOrderTx id s
  failIf (locked.provider ≠ .piggyLaborV3) .withdrawStatusInvalid
  failIf (locked.status ≠ .pending) .withdrawStatusInvalid
  failIf (¬ isPiggyOrderPayoutSnapshotComplete locked)
    (.message "提现订单打款资料快照不完整，请重新提交提现申请")
  let approve (o : WithdrawOrder) : WithdrawOrder := { o with
    status := .approved, piggyStatus := some .approved, reviewerId := reviewerId
    reviewedAt := now, remark := trimSpace remark, updatedAt := now }
  let s := s.updateWithdrawOrder id approve
  return ({ s with trace := s.trace ++ [.approved locked.withdrawNo] }, approve locked)

def rejectPiggyWithdrawOrder (id reviewerId : Nat) (reason : String) (now : Int) (s : Store) :
    Except Err Store := do
  let order ← lockWithdrawOrderTx id s
  failIf (order.provider ≠ .piggyLaborV3) .withdrawStatusInvalid
  failIf (order.status ≠ .pending) .withdrawStatusInvalid
  returnFrozenCommissionTx id order (piggyWithdrawOrderAmount order)
    (.piggyWithdrawReject order.withdrawNo)
    (fun o => { o with
      status := .rejected, piggyStatus := some .rejected, reviewerId := reviewerId
      reviewedAt := now, terminalAt := now, failReason := trimSpace reason
      remark := trimSpace reason, updatedAt := now })
    (trimSpace reason) s

/-! ### Manual results -/

def recordPiggyManualReviewNoteTx (id adminId : Nat) (result : String) (now : Int) (s : Store) :
    Store :=
  s.updateWithdrawOrder id fun o => { o with
    manualHandledBy := adminId, manualHandledAt := now
    manualHandleResult := trimSpace result, compensationStatus := .pendingCompensation
    manualReviewReason := trimSpace result, updatedAt := now }

def markPiggyManualResultPaidTx (order : WithdrawOrder) (adminId : Nat) (result : String)
    (now : Int) (s : Store) : Except Err Store :=
  let remark := firstNonEmpty [result, "人工确认小猪提现已付款"]
  payFrozenCommissionTx id order (piggyWithdrawOrderAmount order)
    (.piggyWithdrawSuccess order.withdrawNo)
    (fun o => { o with
      status := .paid, piggyStatus := some .paid, reviewerId := adminId, reviewedAt := now
      paidAt := now, terminalAt := now, manualHandledBy := adminId, manualHandledAt := now
      manualHandleResult := remark, manualReviewReason := remark
      compensationStatus := .manualProcessed, paymentVoucher := remark
      tradeResultDescribe := remark, updatedAt := now })
    remark s

def failPiggyManualResultAndReleaseTx (order : WithdrawOrder) (adminId : Nat) (result : String)
    (now : Int) (s : Store) : Except Err Store :=
  let reason := firstNonEmpty [result, "人工确认小猪提现失败"]
  returnFrozenCommissionTx id order (piggyWithdrawOrderAmount order)
    (.piggyWithdrawFailed order.withdrawNo)
    (fun o => { o with
      status := .failed, piggyStatus := some .failed, reviewerId := adminId, reviewedAt := now
      terminalAt := now, manualHandledBy := adminId, manualHandledAt := now
      manualHandleResult := reason, manualReviewReason := reason
      compensationStatus := .manualProcessed, failReason := reason
      tradeResultDescribe := reason, updatedAt := now })
    reason s

def adminRecordPiggyManualResult (id adminId : Nat) (result compensationStatus : String)
    (now : Int) (s : Store) : Except Err Store := do
  let manualResult := trimSpace result
  let manualStatus := trimSpace compensationStatus
  let order ← lockWithdrawOrderTx id s
  failIf (order.provider ≠ .piggyLaborV3) .withdrawStatusInvalid
  failIf (order.status ≠ .manualReview ∨ isPiggyTerminalStatus order.status) .withdrawStatusInvalid
  if manualStatus = "" ∨ manualStatus = "pending_compensation" then
    return recordPiggyManualReviewNoteTx id adminId manualResult now s
  else if manualStatus = "manual_paid" ∨ manualStatus = "paid" then
    markPiggyManualResultPaidTx id order adminId manualResult now s
  else if manualStatus = "manual_failed" ∨ manualStatus = "failed" then
    failPiggyManualResultAndReleaseTx id order adminId manualResult now s
  else
    .error .withdrawStatusInvalid

/-! ### Payment results -/

/-- Park an order for manual review because of what a callback said. -/
def markPiggyOrderManualReviewFromCallbackTx (order : WithdrawOrder) (reason : String)
    (setting : PiggyWithdrawSetting) (content : PiggyPaymentCallbackContent) (now : Int) (s : Store) :
    Store :=
  s.updateWithdrawOrder id fun o => addPiggyApprovedSubmissionMarkers order now
    { piggyOrderCallbackAmountUpdates setting content o with
      status := .manualReview, piggyStatus := some .manualReview
      manualReviewReason := trimSpace reason, notifyType := trimSpace content.notifyType
      tradeStatus := trimSpace content.tradeStatus, frontLogNo := trimSpace content.frontLogNo
      laborOrderNo := trimSpace content.laborOrderNo
      tradeFailCode := trimSpace content.tradeFailCode
      tradeResult := trimSpace content.tradeResult
      tradeResultDescribe := trimSpace content.tradeResultDescribe, updatedAt := now }

/-- The provider waits for our confirmation. Returns whether to confirm now. -/
def markPiggyOrderAwaitConfirm (now : Int) (s : Store) :
    Except Err (Store × Bool) := do
  let (id, order) ← lockWithdrawOrderByNoTx content.outerTradeNo s
  if isPiggyTerminalStatus order.status || order.status == .confirmed then
    return (s, false)
  else if order.status = .cancelling then
    return (s, false)
  else if order.status == .confirming && !isPiggyConfirmingExpired setting now order then
    return (s, false)
  else if order.status ≠ .submitted ∧ order.status ≠ .awaitConfirm ∧ order.status ≠ .approved ∧
      order.status ≠ .manualReview ∧ order.status ≠ .confirming then
    if order.status = .pending then
      return (markPiggyOrderManualReviewFromCallbackTx id order
        "小猪回调早于管理员审核提交，请人工核对远端订单状态" setting content now s, false)
    else
      .error .withdrawStatusInvalid
  else
    match validatePiggyCallbackPretaxAmount order content with
    | .error e =>
      return (markPiggyOrderManualReviewFromCallbackTx id order e.text setting content now s, false)
    | .ok _ =>
      return (s.updateWithdrawOrder id fun o => addPiggyApprovedSubmissionMarkers order now
        { piggyOrderCallbackAmountUpdates setting content o with
          status := .awaitConfirm, piggyStatus := some .awaitConfirm
          notifyType := content.notifyType, tradeStatus := content.tradeStatus
          frontLogNo := trimSpace content.frontLogNo
          laborOrderNo := trimSpace content.laborOrderNo, updatedAt := now }, true)

def markPiggyOrderPaid (now : Int) (s : Store) :
    Except Err Store := do
  let (id, order) ← lockWithdrawOrderByNoTx content.outerTradeNo s
  if isPiggyTerminalStatus order.status then
    return s
  else if order.status = .pending then
    return markPiggyOrderManualReviewFromCallbackTx id order
      "小猪回调早于管理员审核提交，请人工核对远端订单状态" setting content now s
  else
    match validatePiggyCallbackPretaxAmount order content with
    | .error e =>
      return markPiggyOrderManualReviewFromCallbackTx id order e.text setting content now s
    | .ok _ =>
      payFrozenCommissionTx id order (piggyWithdrawOrderAmount order)
        (.piggyWithdrawSuccess order.withdrawNo)
        (fun o => addPiggyApprovedSubmissionMarkers order now
          { piggyOrderCallbackAmountUpdates setting content o with
            status := .paid, piggyStatus := some .paid
            actualAmount := centsToFloat (toCentsIgnoreError content.afterTaxAmount)
            feeAmount := centsToFloat (toCentsIgnoreError content.feeAmount)
            notifyType := content.notifyType, tradeStatus := content.tradeStatus
            frontLogNo := trimSpace content.frontLogNo
            laborOrderNo := trimSpace content.laborOrderNo
            tradeResult := trimSpace content.tradeResult
            tradeResultDescribe := trimSpace content.tradeResultDescribe
            paidAt := now, terminalAt := now, updatedAt := now })
        "小猪提现最终打款成功" s

def failPiggyOrderAndRelease (defaultReason : String) (now : Int) (s : Store) :
    Except Err Store := do
  let (id, order) ← lockWithdrawOrderByNoTx content.outerTradeNo s
  if isPiggyTerminalStatus order.status then
    return s
  else if order.status = .pending then
    return markPiggyOrderManualReviewFromCallbackTx id order
      "小猪回调早于管理员审核提交，请人工核对远端订单状态" setting content now s
  else
    let failReason := firstNonEmpty
      [content.tradeResultDescribe, content.tradeFailCode, defaultReason]
    returnFrozenCommissionTx id order (piggyWithdrawOrderAmount order)
      (.piggyWithdrawFailed order.withdrawNo)
      (fun o => addPiggyApprovedSubmissionMarkers order now
        { piggyOrderCallbackAmountUpdates setting content o with
          status := .failed, piggyStatus := some .failed
          notifyType := content.notifyType, tradeStatus := content.tradeStatus
          frontLogNo := trimSpace content.frontLogNo
          laborOrderNo := trimSpace content.laborOrderNo
          tradeFailCode := trimSpace content.tradeFailCode
          tradeResult := trimSpace content.tradeResult
          tradeResultDescribe := trimSpace content.tradeResultDescribe
          failReason := failReason, terminalAt := now, updatedAt := now })
      failReason s

variable (reason reqDigest respDigest : String)

/-- The provider refused the submission. Only an order still in `approved` is
released; the result says whether it was. -/
def failPiggySubmittedOrderAndRelease (now : Int) (s : Store) :
    Except Err (Store × Bool) := do
  let order ← lockWithdrawOrderTx id s
  failIf (order.provider ≠ .piggyLaborV3) .withdrawStatusInvalid
  if order.status ≠ .approved then
    return (s, false)
  else
    let s ← returnFrozenCommissionTx id order (piggyWithdrawOrderAmount order)
      (.piggyWithdrawFailed order.withdrawNo)
      (fun o => { o with
        status := .failed, piggyStatus := some .failed, failReason := trimSpace reason
        terminalAt := now, requestPayloadDigest := reqDigest, responsePayloadDigest := respDigest
        compensationStatus := .none, updatedAt := now })
      (trimSpace reason) s
    return (s, true)

def cancelPiggyOrderAndRelease (adminId : Nat) (reason reqDigest respDigest : String) (now : Int)
    (s : Store) : Except Err Store := do
  let (id, order) ← lockWithdrawOrderByNoTx withdrawNo s
  if isPiggyTerminalStatus order.status then
    return s
  else
    failIf (order.status ≠ .cancelling) .withdrawStatusInvalid
    returnFrozenCommissionTx id order (piggyWithdrawOrderAmount order)
      (.piggyWithdrawCancel order.withdrawNo)
      (fun o => { o with
        status := .cancelled, piggyStatus := some .cancelled, reviewerId := adminId
        reviewedAt := now, terminalAt := now, failReason := reason
        requestPayloadDigest := reqDigest, responsePayloadDigest := respDigest, updatedAt := now })
      reason s

/-! ### Conditional updates

Single statements whose precondition is their `WHERE` clause. Each returns
whether a row was affected. -/

/-- Which row a statement addresses. -/
inductive OrderSelector where
  | byId (id : Nat)
  | byNo (withdrawNo : String)

variable (sel : OrderSelector)

/-- The row is a provider order and the one addressed. -/
def OrderSelector.picks (i : Nat) (o : WithdrawOrder) : Bool :=
  o.provider == .piggyLaborV3 &&
    match sel with
    | .byId id => i == id
    | .byNo no => o.withdrawNo == trimSpace no

/-- `UPDATE withdraw_orders … WHERE`, with its affected-rows flag. -/
def updateOrdersWhere (p : Nat → WithdrawOrder → Bool) (f : WithdrawOrder → WithdrawOrder)
    (s : Store) : Store × Bool :=
  ({ s with withdrawOrders := updateWhere p f s.withdrawOrders }, affects p s.withdrawOrders)

/-- The provider accepted the submission. -/
def markPiggyOrderSubmitted (withdrawNo reqDigest respDigest : String) (now : Int) (s : Store) :
    Store × Bool :=
  updateOrdersWhere (fun i o => (OrderSelector.byId id).picks i o && o.status == .approved)
    (fun o => { o with
      requestPayloadDigest := reqDigest, responsePayloadDigest := respDigest
      externalTradeNo := withdrawNo, status := .submitted, piggyStatus := some .submitted
      manualReviewReason := "", failReason := "", compensationStatus := .none
      submittedAt := now, updatedAt := now }) s

/-- Keep the digests of a remote call; `updated_at` stays. -/
def recordPiggyOrderDigests (reqDigest respDigest : String) (s : Store) :
    Store × Bool :=
  updateOrdersWhere sel.picks (fun o => { o with
    requestPayloadDigest := reqDigest, responsePayloadDigest := respDigest }) s

def markPiggyOrderSubmitRecoverableByIdIfActive (now : Int) (s : Store) : Store × Bool :=
  updateOrdersWhere (fun i o => (OrderSelector.byId id).picks i o && o.status == .approved)
    (fun o => piggyApplyDigestUpdates reqDigest respDigest { o with
      status := .approved, piggyStatus := some .approved, manualReviewReason := trimSpace reason
      compensationStatus := .pendingCompensation, updatedAt := now }) s

/-- The statuses from which manual review is entered when none are given. -/
def piggyActiveStatuses : List WithdrawStatus :=
  [.submitted, .awaitConfirm, .confirming, .cancelling, .manualReview]

/-- The order is neither waiting for its review nor finished. -/
def isPiggyUnderway (status : WithdrawStatus) : Bool :=
  status != .pending && !isPiggyTerminalStatus status

/-- Statuses a caller may name for the update below: each is a status of an order under way. -/
structure UnderwayStatuses where
  statuses : List WithdrawStatus
  underway : ∀ st ∈ statuses, isPiggyUnderway st = true

namespace UnderwayStatuses

def unspecified : UnderwayStatuses := ⟨[], by decide⟩
def approved : UnderwayStatuses := ⟨[.approved], by decide⟩
def confirming : UnderwayStatuses := ⟨[.confirming], by decide⟩
def cancelling : UnderwayStatuses := ⟨[.cancelling], by decide⟩

end UnderwayStatuses

def markPiggyOrderManualReviewIfActiveWithResult (reason reqDigest respDigest : String)
    (allowedStatuses : List WithdrawStatus) (now : Int) (s : Store) : Store × Bool :=
  let statuses := if allowedStatuses.isEmpty then piggyActiveStatuses else allowedStatuses
  updateOrdersWhere (fun i o => sel.picks i o && statuses.contains o.status &&
      (o.status != .manualReview || o.compensationStatus == .none ||
        o.compensationStatus == .pendingCompensation))
    (fun o => piggyApplyDigestUpdates reqDigest respDigest { o with
      status := .manualReview, piggyStatus := some .manualReview
      manualReviewReason := trimSpace reason, compensationStatus := .pendingCompensation
      updatedAt := now }) s

/-- Claim an order for the confirm-payment request. -/
def claimPiggyOrderForConfirmTx (now : Int) (s : Store) : Store × Bool :=
  updateOrdersWhere
    (fun i o => (OrderSelector.byNo withdrawNo).picks i o && o.status == .awaitConfirm)
    (fun o => { o with
      status := .confirming, piggyStatus := some .confirming, updatedAt := now }) s

/-- The provider took the confirmation. -/
def markPiggyOrderConfirmed (reqDigest respDigest : String) (now : Int) (s : Store) :
    Store × Bool :=
  updateOrdersWhere (fun i o => i == id && o.status == .confirming)
    (fun o => { o with
      status := .confirmed, piggyStatus := some .confirmed, confirmedAt := now
      requestPayloadDigest := reqDigest, responsePayloadDigest := respDigest, updatedAt := now }) s

/-- Claim an order for the cancel request. -/
def claimPiggyOrderForCancelTx (now : Int) (s : Store) : Store × Bool :=
  updateOrdersWhere (fun i o => (OrderSelector.byId id).picks i o &&
      [WithdrawStatus.submitted, .awaitConfirm, .manualReview].contains o.status)
    (fun o => { o with
      status := .cancelling, piggyStatus := some .cancelling, updatedAt := now }) s

/-- Claim an approved order whose submission is to be recovered. -/
def claimPiggyApprovedSubmissionTx (deadline now : Int) (s : Store) : Store × Bool :=
  updateOrdersWhere (fun i o => (OrderSelector.byId id).picks i o &&
      shouldScanPiggyApprovedOrder deadline o)
    (fun o => { o with compensationStatus := .submitRecovering, updatedAt := now }) s

/-- The orders a compensation scan looks at, oldest first. -/
def scanPiggyOrders (deadline : Int) (limit : Nat) (s : Store) : List (WithdrawOrder × Nat) :=
  (s.withdrawOrders.zipIdx.filter fun r =>
    r.1.provider == .piggyLaborV3 &&
      (shouldScanPiggyApprovedOrder deadline r.1 ||
        [WithdrawStatus.submitted, .awaitConfirm, .confirming, .cancelling, .confirmed].contains
          r.1.status ||
        shouldScanPiggyManualReviewOrder r.1)).take limit

end ApiGateway
