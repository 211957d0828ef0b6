import ApiGateway.Service.WithdrawSystem

/-!
# Provider withdraw orders: the handlers

Each handler is a program of `withdrawSystem`: transactions in the order the service runs them, with
the remote calls in between and outside of them. `WithdrawRequest` lists what can be started, and
`handle` starts it. Where the service ignores an error (`_ = …`), the program uses `Prog.ignore`.
-/

namespace ApiGateway

open Table Decimal Interleave

section Handlers

variable (cfg : Config)

abbrev WithdrawProg (α : Type) : Type := Prog (withdrawSystem cfg) α

namespace WithdrawProg

variable {cfg}

/-- Run a transaction. -/
def run (t : WithdrawTx) : WithdrawProg cfg t.Ret := Prog.run (S := withdrawSystem cfg) t

/-- Ask the outside world. -/
def ask (c : WithdrawCall) : WithdrawProg cfg c.Resp := Prog.ask (S := withdrawSystem cfg) c

/-- A check that touches neither the database nor the outside world. -/
def check {α : Type} (r : Except Err α) : WithdrawProg cfg α := .done r

end WithdrawProg

open WithdrawProg

/-! ## Configuration -/

/-- The configured client, or why there is none. -/
def newConfiguredPiggyClient (setting : PiggyWithdrawSetting) : Except Err Unit :=
  match setting.clientError with
  | none => .ok ()
  | some e => .error (.message e)

/-- The checks every handler that needs the provider switched on starts with. -/
def requirePiggyEnabled (setting : PiggyWithdrawSetting) : Except Err Unit := do
  failIf (¬ setting.enabled) (.message "小猪提现未启用")
  match setting.enableError with
  | none => .ok ()
  | some e => .error (.message e)

/-! ## Results shown to the admin -/

variable (order : WithdrawOrder)

def piggyWithdrawApprovalResultFromOrder :
    Option WithdrawApprovalResult :=
  match order.status with
  | .approved => some {
      submitted := false, recoverable := isBlank order.externalTradeNo, status := order.status
      message := firstNonEmpty [order.manualReviewReason, "小猪提交结果未知，请稍后恢复提交或检查网络"] }
  | .submitted | .awaitConfirm | .confirming | .confirmed => some {
      submitted := true, recoverable := false, status := order.status, message := "小猪提现已提交" }
  | .paid => some {
      submitted := true, recoverable := false, status := order.status, message := "小猪提现已支付" }
  | .failed | .cancelled | .rejected => some {
      submitted := false, recoverable := false, status := order.status
      message := firstNonEmpty [order.failReason, order.manualReviewReason, "小猪提现已进入终态"] }
  | .manualReview => some {
      submitted := false, recoverable := false, status := order.status
      message := firstNonEmpty [order.manualReviewReason, "小猪提现需要人工核对"] }
  | .pending | .cancelling => none

/-- The result for an order that has moved on, or an error when there is none. -/
def piggyResultOrInvalid : Except Err WithdrawApprovalResult :=
  orFail (piggyWithdrawApprovalResultFromOrder order) .withdrawStatusInvalid

variable (id : Nat)

def piggyWithdrawApprovalResultFromCurrentOrder (fallback : Option WithdrawApprovalResult) :
    WithdrawProg cfg (Option WithdrawApprovalResult) := do
  let order ← run (.getPiggyOrderById id)
  return (piggyWithdrawApprovalResultFromOrder order).or fallback

def piggyResultUnknown : WithdrawApprovalResult :=
  { submitted := false, recoverable := true, status := .approved
    message := "小猪提交结果未知，请稍后恢复提交或检查网络" }

def piggyResultSubmitted : WithdrawApprovalResult :=
  { submitted := true, recoverable := false, status := .submitted, message := "小猪提现已提交" }

/-! ## Reading provider answers -/

/-- A substring test on lower-cased text. -/
def containsAnyPiggyFailureMarker (text : String) (markers : List String) : Bool :=
  markers.any fun m => occursIn m.toList text.toList

def isPiggyDuplicateOuterTradeNoFailure (resp : PiggyAPIResponse) (err : Err) : Bool :=
  let text := (" ".intercalate [resp.errorMessage, resp.msg, resp.errorCode, err.text]).toLower
  containsAnyPiggyFailureMarker text
      ["outertradeno", "outer_trade_no", "out_trade_no", "外部订单号", "商户订单号"] &&
    containsAnyPiggyFailureMarker text ["duplicate", "already exists", "重复", "已存在"]

def piggyIsOrderNotFoundQueryError (err : Err) : Bool :=
  containsAnyPiggyFailureMarker err.text.toLower
    ["劳务订单不存在", "订单不存在", "order not found", "labor order not found"]

def piggySubmitFailureReason (resp : PiggyAPIResponse) (err : Err) : String :=
  firstNonEmpty [resp.errorMessage, resp.msg, resp.errorCode, err.text, "小猪订单提交失败"]

def piggySubmitUnknownRecoverableReason (err : Err) : String :=
  "小猪订单提交结果未知，可使用原流水号恢复提交: " ++ err.text

variable (withdrawNo : String)

/-- The payment content in a query answer, and whether it must be checked
against the order. -/
def piggyPaymentContentFromQueryResponse (data : PiggyResponseData) :
    Except Err (Option (PiggyPaymentCallbackContent × Bool)) :=
  let present (content : PiggyPaymentCallbackContent) : Bool :=
    !(isBlank content.notifyType && isBlank content.tradeStatus)
  match data with
  | .empty => .ok none
  | .undecodable e => .error (.message e)
  | .encrypted content => .ok (if present content then some (content, true) else none)
  | .plain content =>
    let content := { content with
      outerTradeNo := firstNonEmpty [content.outerTradeNo, withdrawNo] }
    .ok (if present content then some (content, false) else none)

def piggyPreferQueryEvidence (reqDigest respDigest queryReqDigest queryRespDigest : String) :
    String × String :=
  if isBlank queryReqDigest then (reqDigest, respDigest) else (queryReqDigest, queryRespDigest)

/-! ## Confirmation -/

/-- This caller has the order, somebody else has taken it further, or it cannot be claimed in its
status. -/
def piggyConfirmClaimResult (claimed : Bool) (id : Nat) (status : WithdrawStatus) :
    Except Err (Nat × Bool) :=
  if claimed then .ok (id, true)
  else
    match status with
    | .confirming | .cancelling | .confirmed | .manualReview => .ok (id, false)
    | _ => if isPiggyTerminalStatus status then .ok (id, false) else .error .withdrawStatusInvalid

/-- Claim the order and re-read it. The flag says whether this caller claimed it. -/
def claimPiggyOrderForConfirm : WithdrawProg cfg (Nat × Bool) := do
  check (failIf (isBlank withdrawNo) .withdrawOrderNotFound)
  let now ← ask .now
  let claimed : Bool ← run (.claimPiggyOrderForConfirm withdrawNo now)
  let r ← run (.getPiggyOrderByNo withdrawNo)
  check (piggyConfirmClaimResult claimed r.1 r.2.status)

def confirmPiggyOrder : WithdrawProg cfg Unit := do
  let setting ← ask .setting
  check (newConfiguredPiggyClient setting)
  let (id, claimed) ← claimPiggyOrderForConfirm cfg withdrawNo
  if claimed then
    let reply ← ask (.singleOrderConfirmPay withdrawNo)
    let now ← ask .now
    match reply.err with
    | some err =>
      (run (.markPiggyOrderManualReviewIfActive (.byId id) ("小猪确认打款失败: " ++ err.text)
        reply.reqDigest reply.respDigest .confirming now)).ignore
      Prog.fail err
    | none =>
      let _ ← run (.markPiggyOrderConfirmed id reply.reqDigest reply.respDigest now)
      return ()
  else
    return ()

/-! ## Payment results -/

def markPiggyOrderManualReviewByNo (withdrawNo reason : String) : WithdrawProg cfg Unit := do
  let now ← ask .now
  let _ ← run (.markPiggyOrderManualReviewIfActive (.byNo withdrawNo) reason "" "" .unspecified now)
  return ()

variable (content : PiggyPaymentCallbackContent)

def failPiggyOrderAndReleaseProg (defaultReason : String) :
    WithdrawProg cfg Unit := do
  let setting ← ask .setting
  let now ← ask .now
  run (.failPiggyOrderAndRelease setting content defaultReason now)

def processPiggyPaymentCallbackContent :
    WithdrawProg cfg Unit := do
  let notifyType := trimSpace content.notifyType
  let tradeStatus := trimSpace content.tradeStatus
  if notifyType = "" then
    let reason := if tradeStatus = "" then "小猪回调缺少 notifyType/tradeStatus"
      else "小猪回调缺少 notifyType"
    markPiggyOrderManualReviewByNo cfg content.outerTradeNo reason
    Prog.fail (.message reason)
  else if notifyType = "submitResult" then
    if tradeStatus = "await" then
      let setting ← ask .setting
      let now ← ask .now
      let shouldConfirm : Bool ← run (.markPiggyOrderAwaitConfirm setting content now)
      if shouldConfirm then confirmPiggyOrder cfg content.outerTradeNo else return ()
    else if tradeStatus = "failure" then
      failPiggyOrderAndReleaseProg cfg content "小猪订单提交失败"
    else
      markPiggyOrderManualReviewByNo cfg content.outerTradeNo ("未知 submitResult 状态: " ++ tradeStatus)
  else if notifyType = "tradeResult" then
    if tradeStatus = "success" then
      let setting ← ask .setting
      let now ← ask .now
      run (.markPiggyOrderPaid setting content now)
    else if tradeStatus = "failure" then
      failPiggyOrderAndReleaseProg cfg content "小猪最终打款失败"
    else
      markPiggyOrderManualReviewByNo cfg content.outerTradeNo ("未知 tradeResult 状态: " ++ tradeStatus)
  else
    markPiggyOrderManualReviewByNo cfg content.outerTradeNo ("未知小猪回调类型: " ++ notifyType)

/-! ## Queries -/

def validatePiggyQueryCallbackContent (expectedWithdrawNo : String)
    (content : PiggyPaymentCallbackContent) : WithdrawProg cfg Unit := do
  check (failIf (isBlank content.outerTradeNo) (.message "小猪订单查询结果缺少 outerTradeNo"))
  check (failIf (¬ isBlank expectedWithdrawNo ∧
      trimSpace content.outerTradeNo ≠ trimSpace expectedWithdrawNo)
    (.message ("小猪订单查询结果 outerTradeNo 与请求单号不匹配: actual=" ++
      trimSpace content.outerTradeNo ++ " expected=" ++ trimSpace expectedWithdrawNo)))
  check (failIf (isBlank content.pretaxAmount) (.message "小猪订单查询结果缺少 pretaxAmount"))
  let (_, order) ← run (.getPiggyOrderByNo content.outerTradeNo)
  check (validatePiggyCallbackPretaxAmount order content)

/-- Apply a query answer. The result says whether it proved a status. -/
def applyPiggyQueryStatus (data : PiggyResponseData) :
    WithdrawProg cfg Bool := do
  match ← check (piggyPaymentContentFromQueryResponse withdrawNo data) with
  | none => return false
  | some (content, requireSnapshotValidation) =>
    if requireSnapshotValidation then validatePiggyQueryCallbackContent cfg withdrawNo content
    processPiggyPaymentCallbackContent cfg (inferPiggyQueryNotifyType content)
    return true

/-- Outcome of a status query: whether a status was proved, the digests to keep
as evidence, and the error if there was one. -/
structure PiggyQueryEvidence where
  statusProved : Bool
  reqDigest : String
  respDigest : String
  err : Option Err

def queryPiggyOrderStatusWithEvidence :
    WithdrawProg cfg PiggyQueryEvidence := do
  let setting ← ask .setting
  match newConfiguredPiggyClient setting with
  | .error e => return ⟨false, "", "", some e⟩
  | .ok _ =>
    let reply ← ask (.singleOrderQuery withdrawNo)
    let reqDigest := reply.reqDigest
    let respDigest := reply.respDigest
    match reply.err with
    | some err =>
      let now ← ask .now
      let marked ← (run (.markPiggyOrderManualReviewIfActive (.byNo withdrawNo)
        ("小猪订单查询失败: " ++ err.text) reqDigest respDigest .unspecified now)).attempt
      match marked with
      | .error markErr => return ⟨false, reqDigest, respDigest, some markErr⟩
      | .ok _ =>
        match ← (run (.getPiggyOrderByNo withdrawNo)).attempt with
        | .ok current =>
          if isPiggyTerminalStatus current.2.status then
            return ⟨false, reqDigest, respDigest, none⟩
          else
            return ⟨false, reqDigest, respDigest, some err⟩
        | .error _ => return ⟨false, reqDigest, respDigest, some err⟩
    | none =>
      match ← (run (.recordPiggyOrderDigests (.byNo withdrawNo) reqDigest respDigest)).attempt
      with
      | .error e => return ⟨false, reqDigest, respDigest, some e⟩
      | .ok _ =>
        let data := match reply.resp with
          | none => PiggyResponseData.empty
          | some resp => resp.data
        match ← (applyPiggyQueryStatus cfg withdrawNo data).attempt with
        | .ok proved => return ⟨proved, reqDigest, respDigest, none⟩
        | .error e => return ⟨false, reqDigest, respDigest, some e⟩

def queryPiggyOrderStatus : WithdrawProg cfg Unit := do
  let evidence ← queryPiggyOrderStatusWithEvidence cfg withdrawNo
  match evidence.err with
  | none => return ()
  | some e => Prog.fail e

/-! ## Submission to the provider -/

/-- The provider already has this trade number: find out what it knows, and park the order when that
does not settle it. -/
def handlePiggyDuplicateOuterTradeNoSubmission (order : WithdrawOrder)
    (failReason reqDigest respDigest : String) :
    WithdrawProg cfg (Option WithdrawApprovalResult) := do
  let evidence ← queryPiggyOrderStatusWithEvidence cfg order.withdrawNo
  let current ← run (.getPiggyOrderById id)
  if current.status ≠ .approved then
    return some (← check (piggyResultOrInvalid current))
  else
    let manualReason := match evidence.err with
      | some queryErr => "小猪订单提交单号重复，原流水号查询失败，请人工核对远端订单状态: " ++ queryErr.text ++
          "; " ++ trimSpace failReason
      | none =>
        if evidence.statusProved then
          "小猪订单提交单号重复，已用原流水号查询但未确认远端订单状态，请人工核对: " ++ trimSpace failReason
        else
          "小猪订单提交单号重复，原流水号查询结果无法判定远端业务状态，请人工核对: " ++ trimSpace failReason
    let digests := piggyPreferQueryEvidence reqDigest respDigest evidence.reqDigest
      evidence.respDigest
    let now ← ask .now
    let marked : Bool ← run (.markPiggyOrderManualReviewIfActive (.byId id) manualReason digests.1
      digests.2 .approved now)
    if marked then
      return some { submitted := false, recoverable := false, status := .manualReview
                    message := manualReason }
    else
      piggyWithdrawApprovalResultFromCurrentOrder cfg id none

def submitPiggyOrderToProvider (order : WithdrawOrder) (setting : PiggyWithdrawSetting) :
    WithdrawProg cfg (Option WithdrawApprovalResult) := do
  check (failIf (¬ isPiggyOrderPayoutSnapshotComplete order)
    (.message "提现订单打款资料快照不完整，请重新提交提现申请"))
  let payAmount := if isBlank order.piggyPayAmount then fixed2OfCents order.piggyPayAmountCents
    else trimSpace order.piggyPayAmount
  let reply ← ask (.singleOrderSubmit
    { notifyUrl := setting.payNotifyUrl, taxFundId := setting.taxFundId
      outerTradeNo := order.withdrawNo, empName := trimSpace order.accountName
      empPhone := trimSpace order.payoutMobile, licenseType := "ID_CARD"
      licenseId := trimSpace order.payoutIdCardNo, settleType := "bankcard"
      payAccount := trimSpace order.payoutBankCardNo, bankName := trimSpace order.bankName
      positionName := setting.positionName, payAmount := payAmount
      bankRemo := setting.bankRemark, calcType := setting.calcType })
  let reqDigest := reply.reqDigest
  let respDigest := reply.respDigest
  let now ← ask .now
  match reply.err, reply.resp.filter fun resp => !resp.success with
  | some err, some resp =>
    -- the provider answered, and refused
    let failReason := piggySubmitFailureReason resp err
    if isPiggyDuplicateOuterTradeNoFailure resp err then
      handlePiggyDuplicateOuterTradeNoSubmission cfg id order failReason reqDigest respDigest
    else
      let released : Bool ← run (.failPiggySubmittedOrderAndRelease id failReason reqDigest
        respDigest now)
      if released then
        Prog.fail err
      else
        let current ← piggyWithdrawApprovalResultFromCurrentOrder cfg id none
        return some (← check (orFail current .withdrawStatusInvalid))
  | some err, none =>
    -- no answer: the order may or may not have arrived
    let marked : Bool ← run (.markPiggyOrderSubmitRecoverable id
      (piggySubmitUnknownRecoverableReason err) reqDigest respDigest now)
    if marked then
      return some piggyResultUnknown
    else
      piggyWithdrawApprovalResultFromCurrentOrder cfg id (some piggyResultUnknown)
  | none, _ =>
    let updated : Bool ← run (.markPiggyOrderSubmitted id order.withdrawNo reqDigest respDigest
      now)
    if updated then
      return some piggyResultSubmitted
    else
      let _ ← run (.recordPiggyOrderDigests (.byId id) reqDigest respDigest)
      piggyWithdrawApprovalResultFromCurrentOrder cfg id (some piggyResultSubmitted)

def approvePiggyWithdrawOrder (id reviewerId : Nat) (remark : String) :
    WithdrawProg cfg (Option WithdrawApprovalResult) := do
  let setting ← ask .setting
  check (requirePiggyEnabled setting)
  check (newConfiguredPiggyClient setting)
  let now ← ask .now
  let order ← run (.approvePiggyWithdrawOrder id reviewerId remark now)
  submitPiggyOrderToProvider cfg id order setting

/-! ## Admin actions -/

def adminApproveWithdrawOrder (id reviewerId : Nat) (remark : String) : WithdrawProg cfg Unit := do
  let provider : WithdrawProvider ← run (.getWithdrawOrderProvider id)
  if provider = .piggyLaborV3 then
    let _ ← approvePiggyWithdrawOrder cfg id reviewerId remark
    return ()
  else
    let now ← ask .now
    run (.approveWithdrawOrder id reviewerId remark now)

def adminRejectWithdrawOrder (id reviewerId : Nat) (reason : String) : WithdrawProg cfg Unit := do
  let provider : WithdrawProvider ← run (.getWithdrawOrderProvider id)
  let now ← ask .now
  if provider = .piggyLaborV3 then
    run (.rejectPiggyWithdrawOrder id reviewerId reason now)
  else
    run (.rejectWithdrawOrder id reviewerId reason now)

def adminRetryPiggyConfirm : WithdrawProg cfg Unit := do
  let order ← run (.getPiggyOrderById id)
  check (failIf (order.status ≠ .awaitConfirm) .withdrawStatusInvalid)
  confirmPiggyOrder cfg order.withdrawNo

/-- Submit an approved order again whose submission left no trace. The provider is asked first,
under the old trade number. -/
def adminRecoverPiggyApprovedSubmissionWithResult :
    WithdrawProg cfg (Option WithdrawApprovalResult) := do
  let setting ← ask .setting
  check (requirePiggyEnabled setting)
  check (newConfiguredPiggyClient setting)
  let now ← ask .now
  let deadline := now - piggyApprovedSubmissionRecoveryDelay setting
  let claimed : Bool ← run (.claimPiggyApprovedSubmission id deadline now)
  let order ← run (.getPiggyOrderById id)
  if claimed = false then
    check (failIf (order.status = .approved) .withdrawStatusInvalid)
    return some (← check (piggyResultOrInvalid order))
  else
    let evidence ← queryPiggyOrderStatusWithEvidence cfg order.withdrawNo
    let now ← ask .now
    match evidence.err, evidence.statusProved with
    | none, true =>
      let current ← run (.getPiggyOrderById id)
      if current.status ≠ .approved ∨ ¬ isBlank current.externalTradeNo then
        return some (← check (piggyResultOrInvalid current))
      else
        submitPiggyOrderToProvider cfg id current setting
    | err, _ =>
      let reasonErr := err.getD (.message "小猪订单查询结果无法判定远端业务状态")
      if (err.map piggyIsOrderNotFoundQueryError).getD false then
        let _ ← run (.markPiggyOrderManualReviewIfActive (.byId id)
          ("小猪订单查询失败，远端返回劳务订单不存在，请人工核对并收口: " ++ trimSpace reasonErr.text)
          evidence.reqDigest evidence.respDigest .approved now)
        let current ← run (.getPiggyOrderById id)
        return some (← check (piggyResultOrInvalid current))
      else
        let reason := piggySubmitUnknownRecoverableReason
          (if isBlank reasonErr.text then reasonErr
           else .message ("查询失败: " ++ trimSpace reasonErr.text))
        let _ ← run (.markPiggyOrderSubmitRecoverable id reason evidence.reqDigest
          evidence.respDigest now)
        let current ← run (.getPiggyOrderById id)
        if current.status ≠ .approved then
          return some (← check (piggyResultOrInvalid current))
        else
          return some piggyResultUnknown

def claimPiggyOrderForCancel : WithdrawProg cfg WithdrawOrder := do
  let now ← ask .now
  let claimed : Bool ← run (.claimPiggyOrderForCancel id now)
  let order ← run (.getPiggyOrderById id)
  check (failIf (claimed = false) .withdrawStatusInvalid)
  return order

def adminCancelPiggyOrder (id adminId : Nat) (reason : String) : WithdrawProg cfg Unit := do
  let setting ← ask .setting
  check (newConfiguredPiggyClient setting)
  let order ← claimPiggyOrderForCancel cfg id
  let reply ← ask (.singleOrderCancel order.withdrawNo)
  let now ← ask .now
  match reply.err with
  | some err =>
    (run (.markPiggyOrderManualReviewIfActive (.byId id) ("取消小猪订单失败: " ++ err.text)
      reply.reqDigest reply.respDigest .cancelling now)).ignore
    Prog.fail err
  | none =>
    run (.cancelPiggyOrderAndRelease order.withdrawNo adminId (trimSpace reason) reply.reqDigest
      reply.respDigest now)

/-! ## The compensation scan -/

/-- What the scan does about one order of its snapshot. -/
def scanPiggyOrder (id : Nat) : WithdrawProg cfg Unit := do
  let setting ← ask .setting
  let now ← ask .now
  match order.status with
  | .approved =>
    if shouldScanPiggyApprovedOrder (now - piggyApprovedSubmissionRecoveryDelay setting) order then
      (adminRecoverPiggyApprovedSubmissionWithResult cfg id).ignore
    else
      return ()
  | .awaitConfirm => (confirmPiggyOrder cfg order.withdrawNo).ignore
  | .confirming =>
    if isPiggyConfirmingExpired setting now order then
      (queryPiggyOrderStatus cfg order.withdrawNo).ignore
    else
      return ()
  | .cancelling =>
    if isPiggyCancellingExpired setting now order then
      match ← (queryPiggyOrderStatus cfg order.withdrawNo).attempt with
      | .ok _ =>
        (run (.markPiggyOrderManualReviewIfActive (.byNo order.withdrawNo)
          "小猪取消结果超时未确认，请人工核对取消结果" "" "" .cancelling now)).ignore
      | .error _ => return ()
    else
      return ()
  | .submitted | .confirmed => (queryPiggyOrderStatus cfg order.withdrawNo).ignore
  | .manualReview =>
    if shouldScanPiggyManualReviewOrder order then
      (queryPiggyOrderStatus cfg order.withdrawNo).ignore
    else
      return ()
  | _ => return ()

def scanPiggyWithdrawCompensations (limit : Nat) : WithdrawProg cfg Unit := do
  let limit := if limit = 0 ∨ limit > 100 then 50 else limit
  let setting ← ask .setting
  let now ← ask .now
  let orders ← run (.scanPiggyOrders (now - piggyApprovedSubmissionRecoveryDelay setting) limit)
  Prog.forEach orders fun r => scanPiggyOrder cfg r.1 r.2

/-! ## Callbacks -/

/-- A payment callback after the envelope was opened. -/
inductive PiggyPaymentCallback where
  /-- Missing key material, undecodable envelope, wrong signature or content. -/
  | rejected (error : String)
  | signed (content : PiggyPaymentCallbackContent)
  | unsigned (content : PiggyPaymentCallbackContent)

/-- The log row of a callback whose content was read. -/
def piggyCallbackLogOf (idempotencyKey : String) (status : PaymentProcessStatus)
    (errorMessage : String) : PiggyWithdrawCallbackLog :=
  { orderNo := trimSpace content.outerTradeNo
    notifyType := trimSpace content.notifyType
    tradeStatus := trimSpace content.tradeStatus
    frontLogNo := trimSpace content.frontLogNo
    laborOrderNo := trimSpace content.laborOrderNo
    idempotencyKey := idempotencyKey
    processStatus := status
    errorMessage := trimSpace errorMessage }

/-- Process a callback at most once for its idempotency key. -/
def processPiggyCallbackOnce (logId : Nat) (content : PiggyPaymentCallbackContent) :
    WithdrawProg cfg Unit := do
  let key := buildPiggyPaymentCallbackIdempotencyKey content
  let finish (status : PaymentProcessStatus) (e : String) : WithdrawProg cfg Unit :=
    (run (.finishPiggyCallbackLog logId (piggyCallbackLogOf content key status e))).ignore
  match ← (run (.hasProcessedPiggyCallback key)).attempt with
  | .error e =>
    finish .failed e.text
    Prog.fail e
  | .ok true => finish .success ""
  | .ok false =>
    match ← (processPiggyPaymentCallbackContent cfg content).attempt with
    | .error e =>
      finish .failed e.text
      Prog.fail e
    | .ok _ => finish .success ""

def handlePiggyPaymentCallback (cb : PiggyPaymentCallback) : WithdrawProg cfg Unit := do
  let setting ← ask .setting
  let logId ← run .createPiggyCallbackLog
  match cb with
  | .rejected e =>
    (run (.finishPiggyCallbackLog logId { processStatus := .failed, errorMessage := e })).ignore
    Prog.fail (.message e)
  | .signed content => processPiggyCallbackOnce cfg logId content
  | .unsigned content =>
    let validation : WithdrawProg cfg Unit := do
      check (failIf (isBlank content.outerTradeNo) (.message "小猪无签名支付回调缺少 outerTradeNo"))
      let (_, order) ← run (.getPiggyOrderByNo content.outerTradeNo)
      check (validateUnsignedPiggyPaymentCallbackContent setting order content)
    match ← validation.attempt with
    | .error e =>
      (run (.finishPiggyCallbackLog logId (piggyCallbackLogOf content "" .failed e.text))).ignore
      Prog.fail e
    | .ok _ => processPiggyCallbackOnce cfg logId content

/-! ## User requests -/

def submitPiggyWithdrawOrder (req : PiggyWithdrawSubmitRequest) : WithdrawProg cfg Unit := do
  check (failIf (req.userId = 0) .userNotFound)
  check (failIf (req.amount ≤ 0) .withdrawAmountInvalid)
  let amountCents := floatYuanToCents req.amount
  check (failIf (amountCents ≤ 0) .withdrawAmountInvalid)
  let setting ← ask .setting
  check (requirePiggyEnabled setting)
  let minAmount := cfg.commissionMinWithdrawAmount
  check (failIf (minAmount > 0 ∧ centsToFloat amountCents + walletAmountEpsilon < minAmount)
    (.message ("提现金额不能小于 " ++ fixed2 minAmount)))
  let forbidden : Bool ← ask .forbiddenTime
  check (failIf forbidden (.message "当前时间禁止提现"))
  let now ← ask .now
  let cooldown : Int ← run (.getPiggyWithdrawCooldownRemaining req.userId setting.cooldownMinutes
    now)
  check (failIf (cooldown > 0) (.message ("提现冷却中，请 " ++ toString cooldown ++ " 秒后再试")))
  let _ ← check (calculatePiggyPlatformFee amountCents setting.platformFeeRate)
  let profile ← check (orFail (← ask (.withdrawalProfile req.userId)) (.message "提现资料不完整"))
  check (failIf (¬ isWithdrawalProfileComplete profile) (.message "提现资料不完整"))
  check (failIf (¬ profile.contractSigned) (.message "小猪电子合同未签约"))
  let timeString ← ask .timeString
  let _ ← run (.submitPiggyWithdrawOrder req setting amountCents profile timeString now)
  return ()

/-! ## Entry points -/

/-- Everything the outside world can start. -/
inductive WithdrawRequest where
  | settleCommission (fault : CommissionFault) (params : CreateCommissionParams)
  | reverseCommissions (sourceType : CommissionSourceType) (sourceOrderNo reason : String)
  | transferCommissionToBalance (userId : Nat) (amount : ℚ)
  | submitWithdrawOrder (req : SubmitWithdrawOrderRequest)
  | submitPiggyWithdrawOrder (req : PiggyWithdrawSubmitRequest)
  | adminApproveWithdrawOrder (id reviewerId : Nat) (remark : String)
  | adminRejectWithdrawOrder (id reviewerId : Nat) (reason : String)
  | markWithdrawOrderPaid (id reviewerId : Nat) (paymentVoucher remark : String)
  | markWithdrawOrderFailed (id reviewerId : Nat) (reason : String)
  | adminRecordPiggyManualResult (id adminId : Nat) (result compensationStatus : String)
  | adminRetryPiggyConfirm (id : Nat)
  | adminRecoverPiggyApprovedSubmission (id : Nat)
  | adminCancelPiggyOrder (id adminId : Nat) (reason : String)
  | scanPiggyWithdrawCompensations (limit : Nat)
  | piggyPaymentCallback (cb : PiggyPaymentCallback)

def WithdrawRequest.handle : WithdrawRequest → WithdrawProg cfg Unit
  | settleCommission fault params => do
    let now ← ask .now
    run (.settleCommission fault params now)
  | reverseCommissions sourceType sourceOrderNo reason => do
    let now ← ask .now
    run (.reverseCommissions sourceType sourceOrderNo reason now)
  | transferCommissionToBalance userId amount => do
    let timeString ← ask .timeString
    run (.transferCommissionToBalance userId amount timeString)
  | submitWithdrawOrder req => do
    let timeString ← ask .timeString
    let now ← ask .now
    let _ ← run (.submitWithdrawOrder req timeString now)
    return ()
  | submitPiggyWithdrawOrder req => ApiGateway.submitPiggyWithdrawOrder cfg req
  | adminApproveWithdrawOrder id reviewerId remark =>
    ApiGateway.adminApproveWithdrawOrder cfg id reviewerId remark
  | adminRejectWithdrawOrder id reviewerId reason =>
    ApiGateway.adminRejectWithdrawOrder cfg id reviewerId reason
  | markWithdrawOrderPaid id reviewerId paymentVoucher remark => do
    let now ← ask .now
    run (.markWithdrawOrderPaid id reviewerId paymentVoucher remark now)
  | markWithdrawOrderFailed id reviewerId reason => do
    let now ← ask .now
    run (.markWithdrawOrderFailed id reviewerId reason now)
  | adminRecordPiggyManualResult id adminId result compensationStatus => do
    let now ← ask .now
    run (.adminRecordPiggyManualResult id adminId result compensationStatus now)
  | adminRetryPiggyConfirm id => ApiGateway.adminRetryPiggyConfirm cfg id
  | adminRecoverPiggyApprovedSubmission id =>
    (adminRecoverPiggyApprovedSubmissionWithResult cfg id).ignore
  | adminCancelPiggyOrder id adminId reason =>
    ApiGateway.adminCancelPiggyOrder cfg id adminId reason
  | scanPiggyWithdrawCompensations limit => ApiGateway.scanPiggyWithdrawCompensations cfg limit
  | piggyPaymentCallback cb => handlePiggyPaymentCallback cfg cb

/-- The programs that can be started. -/
def WithdrawEntry (p : WithdrawProg cfg Unit) : Prop := ∃ req : WithdrawRequest, p = req.handle cfg

end Handlers

end ApiGateway
