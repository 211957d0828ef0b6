import ApiGateway.Lib.Interleave
import ApiGateway.Service.Commission
import ApiGateway.Service.PiggyWithdraw

/-!
# The withdraw subsystem as transactions over one database

`WithdrawTx` lists every transaction that touches withdraw orders or the commission side of the
wallet, and `withdrawSystem` gives them their meaning. Handlers are programs over this system:
between two transactions they may ask for the configuration, the clock or the payout provider.
-/

namespace ApiGateway

open Table Decimal Interleave

/-! ## Answers of the provider -/

/-- The payment part of a query answer, after decoding. -/
inductive PiggyResponseData where
  | empty
  /-- Decryption or decoding failed. -/
  | undecodable (error : String)
  /-- An encrypted payment content; it is checked against the order again. -/
  | encrypted (content : PiggyPaymentCallbackContent)
  /-- Payment fields in the open. -/
  | plain (content : PiggyPaymentCallbackContent)

structure PiggyAPIResponse where
  success : Bool
  errorMessage : String := ""
  msg : String := ""
  errorCode : String := ""
  /-- Digest of the raw body. -/
  digest : String := ""
  data : PiggyResponseData := .empty

/-- What a client call returns. -/
structure PiggyReply where
  resp : Option PiggyAPIResponse
  reqDigest : String := ""
  err : Option Err := none

def PiggyReply.respDigest (r : PiggyReply) : String :=
  match r.resp with
  | none => ""
  | some resp => resp.digest

structure PiggySubmitOrderRequest where
  notifyUrl : String
  taxFundId : String
  outerTradeNo : String
  empName : String
  empPhone : String
  licenseType : String
  licenseId : String
  settleType : String
  payAccount : String
  bankName : String
  positionName : String
  payAmount : String
  bankRemo : String
  calcType : String

/-- Questions the handlers ask. -/
inductive WithdrawCall where
  | setting
  | now
  | timeString
  /-- Whether withdrawals are forbidden at this time of day. -/
  | forbiddenTime
  | withdrawalProfile (userId : Nat)
  | singleOrderSubmit (req : PiggySubmitOrderRequest)
  | singleOrderQuery (withdrawNo : String)
  | singleOrderConfirmPay (withdrawNo : String)
  | singleOrderCancel (withdrawNo : String)

@[reducible]
def WithdrawCall.Resp : WithdrawCall → Type
  | .setting => PiggyWithdrawSetting
  | .now => Int
  | .timeString => String
  | .forbiddenTime => Bool
  | .withdrawalProfile _ => Option WithdrawalProfile
  | .singleOrderSubmit _ | .singleOrderQuery _ | .singleOrderConfirmPay _
  | .singleOrderCancel _ => PiggyReply

/-! ## Transactions -/

inductive WithdrawTx where
  | settleCommission (fault : CommissionFault) (params : CreateCommissionParams) (now : Int)
  | reverseCommissions (sourceType : CommissionSourceType) (sourceOrderNo reason : String)
      (now : Int)
  | transferCommissionToBalance (userId : Nat) (amount : ℚ) (timeString : String)
  | submitWithdrawOrder (req : SubmitWithdrawOrderRequest) (timeString : String) (now : Int)
  | approveWithdrawOrder (id reviewerId : Nat) (remark : String) (now : Int)
  | rejectWithdrawOrder (id reviewerId : Nat) (reason : String) (now : Int)
  | markWithdrawOrderPaid (id reviewerId : Nat) (paymentVoucher remark : String) (now : Int)
  | markWithdrawOrderFailed (id reviewerId : Nat) (reason : String) (now : Int)
  | getWithdrawOrderProvider (id : Nat)
  | getPiggyOrderById (id : Nat)
  | getPiggyOrderByNo (withdrawNo : String)
  | getPiggyWithdrawCooldownRemaining (userId : Nat) (cooldownMinutes now : Int)
  | scanPiggyOrders (deadline : Int) (limit : Nat)
  | submitPiggyWithdrawOrder (req : PiggyWithdrawSubmitRequest) (setting : PiggyWithdrawSetting)
      (amountCents : Int) (profile : WithdrawalProfile) (timeString : String) (now : Int)
  | approvePiggyWithdrawOrder (id reviewerId : Nat) (remark : String) (now : Int)
  | rejectPiggyWithdrawOrder (id reviewerId : Nat) (reason : String) (now : Int)
  | adminRecordPiggyManualResult (id adminId : Nat) (result compensationStatus : String)
      (now : Int)
  | markPiggyOrderAwaitConfirm (setting : PiggyWithdrawSetting)
      (content : PiggyPaymentCallbackContent) (now : Int)
  | markPiggyOrderPaid (setting : PiggyWithdrawSetting) (content : PiggyPaymentCallbackContent)
      (now : Int)
  | failPiggyOrderAndRelease (setting : PiggyWithdrawSetting)
      (content : PiggyPaymentCallbackContent) (defaultReason : String) (now : Int)
  | failPiggySubmittedOrderAndRelease (id : Nat) (reason reqDigest respDigest : String)
      (now : Int)
  | cancelPiggyOrderAndRelease (withdrawNo : String) (adminId : Nat)
      (reason reqDigest respDigest : String) (now : Int)
  | markPiggyOrderSubmitted (id : Nat) (withdrawNo reqDigest respDigest : String) (now : Int)
  | recordPiggyOrderDigests (sel : OrderSelector) (reqDigest respDigest : String)
  | markPiggyOrderSubmitRecoverable (id : Nat) (reason reqDigest respDigest : String) (now : Int)
  | markPiggyOrderManualReviewIfActive (sel : OrderSelector) (reason reqDigest respDigest : String)
      (allowedStatuses : UnderwayStatuses) (now : Int)
  | claimPiggyOrderForConfirm (withdrawNo : String) (now : Int)
  | markPiggyOrderConfirmed (id : Nat) (reqDigest respDigest : String) (now : Int)
  | claimPiggyOrderForCancel (id : Nat) (now : Int)
  | claimPiggyApprovedSubmission (id : Nat) (deadline now : Int)
  | createPiggyCallbackLog
  | finishPiggyCallbackLog (id : Nat) (log : PiggyWithdrawCallbackLog)
  | hasProcessedPiggyCallback (idempotencyKey : String)

namespace WithdrawTx

@[reducible]
def Ret : WithdrawTx → Type
  | submitWithdrawOrder .. | submitPiggyWithdrawOrder .. | createPiggyCallbackLog => Nat
  | getWithdrawOrderProvider _ => WithdrawProvider
  | getPiggyOrderById _ | approvePiggyWithdrawOrder .. => WithdrawOrder
  | getPiggyOrderByNo _ => Nat × WithdrawOrder
  | getPiggyWithdrawCooldownRemaining .. => Int
  | scanPiggyOrders .. => List (WithdrawOrder × Nat)
  | markPiggyOrderAwaitConfirm .. | failPiggySubmittedOrderAndRelease ..
  | markPiggyOrderSubmitted .. | recordPiggyOrderDigests .. | markPiggyOrderSubmitRecoverable ..
  | markPiggyOrderManualReviewIfActive .. | claimPiggyOrderForConfirm ..
  | markPiggyOrderConfirmed .. | claimPiggyOrderForCancel .. | claimPiggyApprovedSubmission ..
  | hasProcessedPiggyCallback _ => Bool
  | _ => Unit

/-- A transaction that returns nothing but its effect. -/
def effect (r : Except Err Store) : Except Err (Store × Unit) := r.map fun s => (s, ())

/-- What the committed transaction does. -/
def exec (cfg : Config) : (t : WithdrawTx) → Store → Except Err (Store × t.Ret)
  | settleCommission fault params now, s => .ok (settleCommissionRuleTx fault params now s, ())
  | reverseCommissions sourceType sourceOrderNo reason now, s =>
    effect (reverseCommissionsTx sourceType sourceOrderNo reason now s)
  | transferCommissionToBalance u amount timeString, s =>
    effect (ApiGateway.transferCommissionToBalance cfg u amount timeString s)
  | submitWithdrawOrder req timeString now, s =>
    ApiGateway.submitWithdrawOrder cfg req timeString now s
  | approveWithdrawOrder id reviewerId remark now, s =>
    effect (ApiGateway.approveWithdrawOrder id reviewerId remark now s)
  | rejectWithdrawOrder id reviewerId reason now, s =>
    effect (ApiGateway.rejectWithdrawOrder id reviewerId reason now s)
  | markWithdrawOrderPaid id reviewerId paymentVoucher remark now, s =>
    effect (ApiGateway.markWithdrawOrderPaid id reviewerId paymentVoucher remark now s)
  | markWithdrawOrderFailed id reviewerId reason now, s =>
    effect (ApiGateway.markWithdrawOrderFailed id reviewerId reason now s)
  | getWithdrawOrderProvider id, s => (lockWithdrawOrderTx id s).map fun o => (s, o.provider)
  | getPiggyOrderById id, s => (ApiGateway.getPiggyOrderById id s).map fun o => (s, o)
  | getPiggyOrderByNo withdrawNo, s =>
    (ApiGateway.getPiggyOrderByNo withdrawNo s).map fun o => (s, o)
  | getPiggyWithdrawCooldownRemaining u cooldownMinutes now, s =>
    .ok (s, ApiGateway.getPiggyWithdrawCooldownRemaining u cooldownMinutes now s)
  | scanPiggyOrders deadline limit, s => .ok (s, ApiGateway.scanPiggyOrders deadline limit s)
  | submitPiggyWithdrawOrder req setting amountCents profile timeString now, s => do
    let feeCalc ← calculatePiggyPlatformFee amountCents setting.platformFeeRate
    submitPiggyWithdrawOrderTx req setting feeCalc profile timeString now s
  | approvePiggyWithdrawOrder id reviewerId remark now, s =>
    approvePiggyWithdrawOrderTx id reviewerId remark now s
  | rejectPiggyWithdrawOrder id reviewerId reason now, s =>
    effect (ApiGateway.rejectPiggyWithdrawOrder id reviewerId reason now s)
  | adminRecordPiggyManualResult id adminId result compensationStatus now, s =>
    effect (ApiGateway.adminRecordPiggyManualResult id adminId result compensationStatus now s)
  | markPiggyOrderAwaitConfirm setting content now, s =>
    ApiGateway.markPiggyOrderAwaitConfirm setting content now s
  | markPiggyOrderPaid setting content now, s =>
    effect (ApiGateway.markPiggyOrderPaid setting content now s)
  | failPiggyOrderAndRelease setting content defaultReason now, s =>
    effect (ApiGateway.failPiggyOrderAndRelease setting content defaultReason now s)
  | failPiggySubmittedOrderAndRelease id reason reqDigest respDigest now, s =>
    ApiGateway.failPiggySubmittedOrderAndRelease id reason reqDigest respDigest now s
  | cancelPiggyOrderAndRelease withdrawNo adminId reason reqDigest respDigest now, s =>
    effect (ApiGateway.cancelPiggyOrderAndRelease withdrawNo adminId reason reqDigest respDigest
      now s)
  | markPiggyOrderSubmitted id withdrawNo reqDigest respDigest now, s =>
    .ok (ApiGateway.markPiggyOrderSubmitted id withdrawNo reqDigest respDigest now s)
  | recordPiggyOrderDigests sel reqDigest respDigest, s =>
    .ok (ApiGateway.recordPiggyOrderDigests sel reqDigest respDigest s)
  | markPiggyOrderSubmitRecoverable id reason reqDigest respDigest now, s =>
    .ok (markPiggyOrderSubmitRecoverableByIdIfActive id reason reqDigest respDigest now s)
  | markPiggyOrderManualReviewIfActive sel reason reqDigest respDigest allowedStatuses now, s =>
    .ok (markPiggyOrderManualReviewIfActiveWithResult sel reason reqDigest respDigest
      allowedStatuses.statuses now s)
  | claimPiggyOrderForConfirm withdrawNo now, s =>
    .ok (claimPiggyOrderForConfirmTx withdrawNo now s)
  | markPiggyOrderConfirmed id reqDigest respDigest now, s =>
    .ok (ApiGateway.markPiggyOrderConfirmed id reqDigest respDigest now s)
  | claimPiggyOrderForCancel id now, s => .ok (claimPiggyOrderForCancelTx id now s)
  | claimPiggyApprovedSubmission id deadline now, s =>
    .ok (claimPiggyApprovedSubmissionTx id deadline now s)
  | createPiggyCallbackLog, s =>
    .ok ({ s with piggyCallbackLogs := s.piggyCallbackLogs ++ [{}] }, s.piggyCallbackLogs.length)
  | finishPiggyCallbackLog id log, s =>
    .ok ({ s with piggyCallbackLogs := s.piggyCallbackLogs.modify id fun _ => log }, ())
  | hasProcessedPiggyCallback idempotencyKey, s =>
    .ok (s, !isBlank idempotencyKey && s.piggyCallbackLogs.any fun l =>
      l.idempotencyKey == idempotencyKey && l.processStatus == .success)

end WithdrawTx

/-- Only the confirm-payment request leaves a trace. -/
def WithdrawCall.record : WithdrawCall → Store → Store
  | .singleOrderConfirmPay no, s => { s with trace := s.trace ++ [.confirmSent (trimSpace no)] }
  | _, s => s

/-- The withdraw subsystem over one shared database. -/
def withdrawSystem (cfg : Config) : System Store Err where
  Tx := WithdrawTx
  Ret := WithdrawTx.Ret
  Call := WithdrawCall
  Resp := WithdrawCall.Resp
  exec := WithdrawTx.exec cfg
  onCall := WithdrawCall.record

end ApiGateway
