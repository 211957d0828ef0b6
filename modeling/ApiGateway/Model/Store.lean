import ApiGateway.Lib.Table
import ApiGateway.Model.Types

/-!
# The database

One record holds every table the modelled services touch. `users` and `wallets` are total: an
account that was never written reads as the zero row, which `getOrCreateWalletAccountTx` would
insert, and user rows are not deleted. All other tables are lists in insertion order, with the
position of a row as its primary key.

Five fields are logs that do not exist in the real database and that no operation reads: `journal`
of what every write to `wallet_accounts` and `users.quota` changed, after clamping, under the
idempotency key of the business event; `subscriptionUsage` of what requests charged and returned;
`realtimeEvents` of what the steps of a realtime request changed; `taskEvents` of how tasks ended;
`trace` of the approvals of provider withdraw orders and the confirm-payment requests sent.
-/

namespace ApiGateway

/-! ## Rows -/

structure User where
  quota : Int := 0
  usedQuota : Int := 0
  requestCount : Nat := 0
  topupDiscount : Option ℚ := none
  email : String := ""
  stripeCustomer : String := ""
  username : String := ""
  displayName : String := ""
  group : String := "default"

structure WalletAccount where
  balanceAmount : ℚ := 0
  commissionAmount : ℚ := 0
  frozenCommissionAmount : ℚ := 0
  totalCommissionAmount : ℚ := 0
  totalWithdrawAmount : ℚ := 0

structure WalletFlow where
  userId : Nat
  bizNo : String
  idempotencyKey : Option FlowKey
  flowType : WalletFlowType
  walletType : WalletType
  direction : WalletFlowDirection
  amount : ℚ
  balanceAfter : ℚ
  commissionAfter : ℚ
  frozenCommissionAfter : ℚ
  remark : String

structure CommissionRecord where
  beneficiaryUserId : Nat
  sourceUserId : Nat
  sourceUserLabel : String
  sourceOrderNo : String
  sourceType : CommissionSourceType
  level : Nat
  baseAmount : ℚ
  commissionRate : ℚ
  amount : ℚ
  status : CommissionStatus
  errorMessage : String := ""
  settledAt : Int := 0
  reversedAt : Int := 0
  reverseReason : String := ""

structure TopUp where
  userId : Nat
  amount : Int
  money : ℚ
  rechargeAmount : ℚ := 0
  paidAmount : ℚ := 0
  discount : ℚ := 0
  tradeNo : String
  paymentMethod : String := ""
  paymentProvider : PaymentProvider
  completeTime : Int := 0
  reversedAt : Int := 0
  status : TopUpStatus := .pending

structure Redemption where
  key : String
  status : RedemptionCodeStatus := .enabled
  quota : Int := 100
  redeemedTime : Int := 0
  usedUserId : Nat := 0
  /-- Zero means that the code does not expire. -/
  expiredTime : Int := 0
  deleted : Bool := false

structure Checkin where
  userId : Nat
  checkinDate : String
  quotaAwarded : Int
  createdAt : Int

structure UserRelation where
  parentUserId : Nat
  childUserId : Nat
  active : Bool := true

structure VipActivationRecord where
  userId : Nat
  tradeNo : String := ""
  activationAmount : ℚ := 0
  paidAmount : ℚ := 0
  discount : ℚ := 1
  paymentProvider : PaymentProvider := .unset
  paymentMethod : String := ""
  status : VipActivationStatus := .pending
  providerPayload : String := ""
  activatedAt : Int := 0
  disabledAt : Int := 0
  disabledBy : Nat := 0
  disableReason : String := ""
  createdAt : Int := 0

/-- The VVIP columns of `user_profiles`. A user without a row has the zero row. -/
structure UserProfile where
  isVvip : Bool := false
  vvipActivatedAt : Int := 0
  vvipDisabledAt : Int := 0
  vvipStatus : VvipStatus := .none

structure Token where
  userId : Nat
  key : String := ""
  enabled : Bool
  qiniuManaged : Bool
  remainQuota : Int := 0
  usedQuota : Int := 0

structure QiniuQuotaGrant where
  userId : Nat
  /-- Row of the token the grant is for; `none` while it is deferred. -/
  tokenId : Option Nat
  businessKey : String
  grantAmount : ℚ
  remoteApplyStatus : QiniuQuotaGrantStatus := .pending

structure SubscriptionPlan where
  durationUnit : SubscriptionDurationUnit := .month
  durationValue : Int := 1
  customSeconds : Int := 0
  /-- Zero means that there is no limit. -/
  maxPurchasePerUser : Nat := 0
  /-- The group of a user who buys the plan; empty for no change. -/
  upgradeGroup : String := ""
  totalAmount : Int := 0
  quotaResetPeriod : QuotaResetPeriod := .never
  quotaResetCustomSeconds : Int := 0

/-- The order of a plan; `status` has the values of a top-up. -/
structure SubscriptionOrder where
  userId : Nat
  planId : Nat
  money : ℚ
  tradeNo : String
  paymentMethod : String := ""
  paymentProvider : PaymentProvider
  status : TopUpStatus := .pending
  completeTime : Int := 0
  providerPayload : String := ""

structure UserSubscription where
  userId : Nat
  planId : Nat := 0
  /-- Zero means that there is no limit. -/
  amountTotal : Int
  amountUsed : Int := 0
  startTime : Int := 0
  endTime : Int
  status : SubscriptionStatus := .active
  lastResetTime : Int := 0
  nextResetTime : Int := 0
  upgradeGroup : String := ""
  prevUserGroup : String := ""
  /-- The row was deleted. Such a row keeps its position, and is `cancelled`. -/
  deleted : Bool := false

structure SubscriptionPreConsumeRecord where
  requestId : String
  userId : Nat
  userSubscriptionId : Nat
  preConsumed : Int
  refunded : Bool := false

/-- `qiniu_realtime_settlement` in the private data of a task. -/
structure QiniuRealtimeTaskSettlement where
  /-- Row of the application; `none` while there is none. -/
  applicationId : Option Nat
  preConsumedQuota : Int
  actualQuota : Int
  settlementApplied : Bool
  deriving DecidableEq

structure Task where
  taskId : String
  userId : Nat
  status : TaskStatus := .notStart
  progress : String := "0%"
  quota : Int
  billingSource : BillingSource
  subscriptionId : Option Nat
  tokenId : Option Nat
  qiniuRealtimeSettlement : Option QiniuRealtimeTaskSettlement := none
  failReason : String := ""
  deriving DecidableEq

structure RecordConsumeLogParams where
  channelId : Nat := 0
  promptTokens : Nat := 0
  completionTokens : Nat := 0
  modelName : String := ""
  tokenName : String := ""
  quota : Int
  content : String := ""
  tokenId : Nat
  useTimeSeconds : Nat := 0
  isStream : Bool := false
  group : String := ""
  /-- The rest, as JSON. -/
  other : String := ""

/-- A consume or refund log. -/
structure Log where
  userId : Nat
  type : LogType := .consume
  username : String
  content : String
  promptTokens : Nat
  completionTokens : Nat
  tokenName : String
  modelName : String
  quota : Int
  channelId : Nat
  tokenId : Nat
  useTime : Nat
  isStream : Bool
  group : String
  requestId : String
  upstreamRequestId : String
  other : String

/-- How far the bookkeeping of a realtime request has come. -/
structure QiniuRealtimeWalletApplication where
  userId : Nat
  tokenId : Nat
  requestId : String
  batchId : String
  consumeLogIds : List Nat
  walletFlowId : Option Nat := none
  idempotencyKey : RealtimeKey
  quota : Int
  preConsumedQuota : Int
  amount : ℚ
  balanceAfter : ℚ := 0
  settlementApplied : Bool
  usageStatsApplied : Bool
  usageLogApplied : Bool
  usageApplied : Bool
  consumeLogPayload : Option RecordConsumeLogParams
  logUsername : String
  upstreamRequestId : String
  status : ApplicationStatus
  retryCount : Nat := 0
  lastError : String := ""

/-- One line of an official bill, and whom it is charged to. -/
structure QiniuCostDetailRecord where
  qiniuMaskedKey : String
  keyPrefix : String
  keySuffix : String
  billingDate : String
  modelName : String
  billingItem : String
  usageCount : ℚ
  usageUnit : String
  feeAmount : ℚ
  currency : String
  recordHash : String
  rawResponse : String
  ownerStatus : QiniuBillingOwnerStatus := .unmapped
  userId : Nat := 0
  /-- Row of the token the fee belongs to; `none` while there is none. -/
  tokenId : Option Nat := none
  retryCount : Nat := 0
  lastError : String := ""

/-- The official bill of a token for one day, against what was charged in realtime. -/
structure QiniuBillingBucket where
  userId : Nat
  tokenId : Option Nat
  billingDate : String
  qiniuMaskedKey : String := ""
  ownerStatus : QiniuBillingOwnerStatus := .resolved
  officialAmount : ℚ := 0
  officialQuota : Int := 0
  previousOfficialAmount : ℚ := 0
  previousOfficialQuota : Int := 0
  localRealtimeQuota : Int := 0
  localRealtimeStatus : QiniuBillingLocalRealtimeStatus := .missing
  appliedDeltaQuota : Int := 0
  pendingDeltaQuota : Int := 0
  applyVersion : Nat := 0
  status : QiniuBillingBucketStatus := .pending
  lastError : String := ""
  retryCount : Nat := 0

/-- The part of a bucket that one model and billing item make up. -/
structure QiniuBillingBucketItem where
  bucketId : Nat
  modelName : String
  billingItem : String
  usageCount : ℚ
  feeAmount : ℚ
  currency : String
  rawRecordIds : List Nat

/-- An attempt to charge the pending delta of a bucket. Its `idempotency_key` is the flow
key of the bucket and the version. -/
structure QiniuBillingBucketApplication where
  bucketId : Nat
  applyVersion : Nat
  deltaQuota : Int
  deltaAmount : ℚ
  walletFlowId : Option Nat := none
  consumeLogId : Option Nat := none
  balanceBeforeQuota : Int := 0
  balanceAfterQuota : Int := 0
  debtQuota : Int := 0
  status : QiniuBillingApplicationStatus
  lastError : String := ""
  retryCount : Nat := 0
  operationSource : QiniuBillingOperationSource

/-- A row of `withdraw_orders`. -/
structure WithdrawOrder where
  userId : Nat
  withdrawNo : String
  amount : ℚ
  feeAmount : ℚ := 0
  platformFeeRate : ℚ := 0
  platformFeeAmountCents : Int := 0
  actualAmount : ℚ := 0
  status : WithdrawStatus := .pending
  provider : WithdrawProvider := .manual
  piggyStatus : Option WithdrawStatus := none
  receiveType : String := ""
  receiveAccount : String := ""
  withdrawalProfileId : Nat := 0
  accountName : String := ""
  bankName : String := ""
  payoutMobile : String := ""
  payoutIdCardNo : String := ""
  payoutBankCardNo : String := ""
  taxBeforeAmountCents : Int := 0
  frozenAmountCents : Int := 0
  piggyPayAmountCents : Int := 0
  piggyPretaxAmountCents : Int := 0
  piggyIndividualTaxCents : Int := 0
  piggyAddedTaxCents : Int := 0
  piggyAfterTaxAmountCents : Int := 0
  piggyFeeAmountCents : Int := 0
  piggyPayAmount : String := ""
  externalTradeNo : String := ""
  frontLogNo : String := ""
  laborOrderNo : String := ""
  notifyType : String := ""
  tradeStatus : String := ""
  tradeFailCode : String := ""
  tradeResult : String := ""
  tradeResultDescribe : String := ""
  taxFundId : String := ""
  positionName : String := ""
  position : String := ""
  calcType : String := ""
  bankRemark : String := ""
  requestPayloadDigest : String := ""
  responsePayloadDigest : String := ""
  manualReviewReason : String := ""
  manualHandledBy : Nat := 0
  manualHandledAt : Int := 0
  manualHandleResult : String := ""
  compensationStatus : CompensationStatus := .none
  submittedAt : Int := 0
  confirmedAt : Int := 0
  terminalAt : Int := 0
  reviewerId : Nat := 0
  reviewedAt : Int := 0
  paidAt : Int := 0
  paymentVoucher : String := ""
  failReason : String := ""
  remark : String := ""
  createdAt : Int := 0
  updatedAt : Int := 0

/-- A row of `piggy_withdraw_callback_logs`. -/
structure PiggyWithdrawCallbackLog where
  orderNo : String := ""
  notifyType : String := ""
  tradeStatus : String := ""
  frontLogNo : String := ""
  laborOrderNo : String := ""
  idempotencyKey : String := ""
  processStatus : PaymentProcessStatus := .pending
  errorMessage : String := ""

/-! ## Ghost rows -/

/-- What one write changed in a user's wallet row and quota. -/
structure Posting where
  userId : Nat
  key : Option FlowKey
  balance : ℚ := 0
  commission : ℚ := 0
  frozen : ℚ := 0
  totalCommission : ℚ := 0
  totalWithdraw : ℚ := 0
  quota : Int := 0

/-- What one request changed in the used amount of a subscription. -/
structure SubscriptionUsage where
  subscriptionId : Nat
  amount : Int

/-- What a step on behalf of a realtime request is for. -/
inductive RealtimePhase where
  | preConsume
  | settle
  | usage
  | refund
  deriving DecidableEq

/-- What one step on behalf of a realtime request changed: the difference between the
rows before and after it. -/
structure RealtimeEvent where
  key : RealtimeKey
  phase : RealtimePhase
  userId : Nat
  /-- Taken from `users.quota`. -/
  quota : Int
  /-- Added to `users.used_quota`. -/
  usedQuota : Int
  /-- Added to `users.request_count`. -/
  requestCount : Int
  /-- Added to `tokens.used_quota`. -/
  tokenQuota : Int
  deriving DecidableEq

/-- What happened to the row of a task. -/
inductive TaskEvent where
  /-- A compare-and-set took the row into a terminal status. -/
  | finalised (id : Nat) (status : TaskStatus)
  /-- The billing of the completed task ran. -/
  | settled (id : Nat)
  /-- `RefundTaskQuota` ran. -/
  | refunded (id : Nat)
  deriving DecidableEq

/-- The two events that decide whether a payout was authorised. -/
inductive PiggyEvent where
  /-- `approvePiggyWithdrawOrder` committed for the order. -/
  | approved (withdrawNo : String)
  /-- A confirm-payment request for the order left for the provider. -/
  | confirmSent (withdrawNo : String)
  deriving DecidableEq

/-! ## The store -/

structure Store where
  users : Nat → User := fun _ => {}
  wallets : Nat → WalletAccount := fun _ => {}
  walletFlows : List WalletFlow := []
  commissionRecords : List CommissionRecord := []
  withdrawOrders : List WithdrawOrder := []
  piggyCallbackLogs : List PiggyWithdrawCallbackLog := []
  topUps : List TopUp := []
  redemptions : List Redemption := []
  checkins : List Checkin := []
  userRelations : List UserRelation := []
  vipActivations : List VipActivationRecord := []
  userProfiles : Nat → UserProfile := fun _ => {}
  tokens : List Token := []
  quotaGrants : List QiniuQuotaGrant := []
  subscriptionPlans : List SubscriptionPlan := []
  subscriptionOrders : List SubscriptionOrder := []
  subscriptions : List UserSubscription := []
  subscriptionPreConsumes : List SubscriptionPreConsumeRecord := []
  tasks : List Task := []
  logs : List Log := []
  /-- `used_quota` of the channels. -/
  channelUsedQuota : Nat → Int := fun _ => 0
  realtimeApplications : List QiniuRealtimeWalletApplication := []
  costDetailRecords : List QiniuCostDetailRecord := []
  billingBuckets : List QiniuBillingBucket := []
  billingBucketItems : List QiniuBillingBucketItem := []
  bucketApplications : List QiniuBillingBucketApplication := []
  subscriptionUsage : List SubscriptionUsage := []
  realtimeEvents : List RealtimeEvent := []
  taskEvents : List TaskEvent := []
  journal : List Posting := []
  trace : List PiggyEvent := []

/-- Deployment constants the modelled services read. -/
structure Config where
  quotaPerUnit : ℚ
  quotaPerUnit_pos : 0 < quotaPerUnit
  qiniuKeyLifecycleEnabled : Bool := false
  commissionMinWithdrawAmount : ℚ := 0
  logConsumeEnabled : Bool := true
  taskTimeoutMinutes : Nat := 1440
  /-- The price of an activation, rounded to cents. -/
  vipActivationPaymentAmount : ℚ := 1680
  vipActivationCommissionLevel1Amount : ℚ := 1000
  vipActivationCommissionLevel2Amount : ℚ := 400
  /-- The top-up discount of new VVIP users, if a usable one is configured. -/
  defaultVvipTopupDiscount : Option ℚ := some 1

/-- The constants as shipped. -/
def Config.shipped : Config where
  quotaPerUnit := 500 * 1000
  quotaPerUnit_pos := by norm_num

namespace Store

variable (s : Store)

/-- `tx.Save(account)`, with the difference it makes logged under `key`. -/
@[simps]
def saveAccount (u : Nat) (a : WalletAccount) (key : Option FlowKey) : Store :=
  { s with
    wallets := Function.update s.wallets u a
    journal := s.journal ++ [{
      userId := u
      key := key
      balance := a.balanceAmount - (s.wallets u).balanceAmount
      commission := a.commissionAmount - (s.wallets u).commissionAmount
      frozen := a.frozenCommissionAmount - (s.wallets u).frozenCommissionAmount
      totalCommission := a.totalCommissionAmount - (s.wallets u).totalCommissionAmount
      totalWithdraw := a.totalWithdrawAmount - (s.wallets u).totalWithdrawAmount }] }

/-- `UPDATE users SET quota = quota + q`, logged under `key`. -/
@[simps]
def addQuota (u : Nat) (q : Int) (key : Option FlowKey) : Store :=
  { s with
    users := Function.update s.users u { s.users u with quota := (s.users u).quota + q }
    journal := s.journal ++ [{ userId := u, key := key, quota := q }] }

/-- Rewrite one withdraw order by primary key. -/
@[simps]
def updateWithdrawOrder (id : Nat) (f : WithdrawOrder → WithdrawOrder) : Store :=
  { s with withdrawOrders := s.withdrawOrders.modify id f }

end Store

end ApiGateway
