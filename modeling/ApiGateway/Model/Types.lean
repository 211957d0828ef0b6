import ApiGateway.Lib.Decimal

/-!
# Enumerations, errors and flow keys

The string constants of the `model` package are closed enumerations. Errors keep the text the
service returns, because some of them are stored again.

Wallet flows are deduplicated by a formatted key. `FlowKey` has one constructor for each format
string: the fixed parts of the formats differ, and the fields are separated by a colon with the
free-text field where the numeric ones delimit it, so two keys are equal as strings exactly when
they are equal here.
-/

namespace ApiGateway

/-! ## Wallet -/

inductive WalletType where
  | balance
  | commission
  deriving DecidableEq

inductive WalletFlowDirection where
  | incoming
  | outgoing
  deriving DecidableEq

inductive WalletFlowType where
  | rechargeBalance
  | vipActivation
  | commissionIncome
  | commissionToBalance
  | withdrawFreeze
  | withdrawSuccess
  | withdrawReject
  | refundReverse
  | balanceConsume
  | balanceRefund
  | legacyBalanceInit
  deriving DecidableEq

inductive CommissionSourceType where
  | topUp
  | vipActivation
  deriving DecidableEq

/-- What identifies a realtime request: its batch, its request id or its only log. -/
inductive RealtimeKey where
  /-- `qiniu:realtime:batch:%s` -/
  | batch (id : String)
  /-- `qiniu:realtime:request:%s` -/
  | request (id : String)
  /-- `qiniu:realtime:log:%d` -/
  | log (id : Nat)
  deriving DecidableEq

/-- Idempotency keys of wallet flows, by format. -/
inductive FlowKey where
  /-- `wallet:legacy-balance-init:%d` -/
  | legacyBalanceInit (userId : Nat)
  /-- `wallet:recharge:` and the trade number -/
  | recharge (tradeNo : String)
  /-- `wallet:topup-reverse:` and the trade number -/
  | topupReverse (tradeNo : String)
  /-- `wallet:commission:%s:%s:%d:%d` -/
  | commission (sourceType : CommissionSourceType) (sourceOrderNo : String)
      (level : Nat) (beneficiary : Nat)
  /-- `wallet:commission-reverse:%s:%s:%d:%d` -/
  | commissionReverse (sourceType : CommissionSourceType) (sourceOrderNo : String)
      (level : Nat) (beneficiary : Nat)
  /-- `wallet:commission-transfer:%d:%s` -/
  | commissionTransfer (userId : Nat) (timeString : String)
  | withdrawFreeze (withdrawNo : String)
  | withdrawReject (withdrawNo : String)
  | withdrawSuccess (withdrawNo : String)
  | piggyWithdrawFreeze (withdrawNo : String)
  | piggyWithdrawReject (withdrawNo : String)
  | piggyWithdrawSuccess (withdrawNo : String)
  | piggyWithdrawFailed (withdrawNo : String)
  | piggyWithdrawCancel (withdrawNo : String)
  /-- `qiniu:realtime:…` -/
  | qiniuRealtime (key : RealtimeKey)
  /-- `qiniu:billing_bucket:%d:v%d` -/
  | qiniuBillingBucket (bucketId applyVersion : Nat)
  /-- Keys built outside the modelled services. -/
  | other (key : String)
  deriving DecidableEq

/-! ## Commission records -/

inductive CommissionStatus where
  | pending
  | settled
  | failed
  | reversed
  deriving DecidableEq

/-! ## Top-up orders -/

inductive TopUpStatus where
  | pending
  | success
  | failed
  | expired
  | reversed
  deriving DecidableEq

/-- `payment_provider`; `unset` is the empty string of old rows. -/
inductive PaymentProvider where
  | epay
  | alipay
  | wechat
  | stripe
  | creem
  | waffo
  | waffoPancake
  | unset
  deriving DecidableEq

/-! ## Redemption codes -/

inductive RedemptionCodeStatus where
  | enabled
  | disabled
  | used
  deriving DecidableEq

/-! ## VVIP activations -/

/-- `status` of an activation order. -/
inductive VipActivationStatus where
  | pending
  | success
  | failed
  | disabled
  deriving DecidableEq

/-- `vvip_status` of a profile. -/
inductive VvipStatus where
  | none
  | active
  | disabled
  deriving DecidableEq

/-! ## Keys of the provider -/

/-- `remote_apply_status` of a quota grant. -/
inductive QiniuQuotaGrantStatus where
  | pending
  | applied
  | failed
  deriving DecidableEq

inductive QiniuKeyTaskStatus where
  | pending
  | running
  | success
  | failed
  | skipped
  deriving DecidableEq

/-! ## Withdraw orders -/

inductive WithdrawStatus where
  | pending
  | approved
  | paid
  | rejected
  | failed
  | submitted
  | awaitConfirm
  | confirming
  | cancelling
  | confirmed
  | cancelled
  | manualReview
  deriving DecidableEq

inductive WithdrawProvider where
  | manual
  | piggyLaborV3
  deriving DecidableEq

/-- `compensation_status`; `none` is the empty string and `NULL`. -/
inductive CompensationStatus where
  | none
  | pendingCompensation
  | submitRecovering
  | manualProcessed
  deriving DecidableEq

/-- `process_status` of a callback log. -/
inductive PaymentProcessStatus where
  | pending
  | success
  | failed
  deriving DecidableEq

/-! ## Requests and tasks -/

inductive BillingSource where
  | unset
  | wallet
  | subscription
  | qiniuOfficialLedger
  deriving DecidableEq

/-- `status` of a subscription. -/
inductive SubscriptionStatus where
  | active
  | expired
  | cancelled
  deriving DecidableEq

/-- `duration_unit` of a plan. -/
inductive SubscriptionDurationUnit where
  | year
  | month
  | day
  | hour
  | custom
  | other (text : String)
  deriving DecidableEq

/-- `quota_reset_period` of a plan; `NormalizeResetPeriod` reads every other text as
`never`. -/
inductive QuotaResetPeriod where
  | never
  | daily
  | weekly
  | monthly
  | custom
  deriving DecidableEq

inductive TaskStatus where
  | notStart
  | submitted
  | queued
  | inProgress
  | failure
  | success
  | unknown
  /-- A text the upstream made up. -/
  | other (text : String)
  deriving DecidableEq

/-- `status` of a realtime wallet application. -/
inductive ApplicationStatus where
  | pending
  | applied
  | failed
  deriving DecidableEq

/-- `type` of a log. -/
inductive LogType where
  | consume
  | refund
  deriving DecidableEq

/-! ## Official bills -/

/-- `owner_status` of a cost-detail record or a billing bucket. -/
inductive QiniuBillingOwnerStatus where
  | resolved
  | unmapped
  | ambiguous
  | manualResolved
  deriving DecidableEq

inductive QiniuBillingBucketStatus where
  | pending
  | needsReview
  | applied
  | failed
  | skipped
  | reconciled
  deriving DecidableEq

inductive QiniuBillingApplicationStatus where
  | success
  | failed
  deriving DecidableEq

inductive QiniuBillingOperationSource where
  | system
  | admin
  deriving DecidableEq

inductive QiniuBillingLocalRealtimeStatus where
  | found
  | missing
  | error
  deriving DecidableEq

/-! ## Errors -/

inductive Err where
  | userNotFound
  | walletAmountInvalid
  | walletBalanceInsufficient
  | commissionInsufficient
  | withdrawAmountInvalid
  | withdrawStatusInvalid
  | withdrawOrderNotFound
  | commissionAlreadyRecorded
  | topUpNotFound
  | topUpStatusInvalid
  | paymentMethodMismatch
  | vipActivationOrderNotFound
  | vipActivationOrderStatusInvalid
  /-- Any other error, by its text. -/
  | message (text : String)
  deriving DecidableEq

/-- The text of an error. -/
def Err.text : Err → String
  | .userNotFound => "用户不存在"
  | .walletAmountInvalid => "钱包金额必须大于 0"
  | .walletBalanceInsufficient => "消费余额不足"
  | .commissionInsufficient => "可提现佣金不足"
  | .withdrawAmountInvalid => "提现金额无效"
  | .withdrawStatusInvalid => "提现订单状态不允许当前操作"
  | .withdrawOrderNotFound => "提现订单不存在"
  | .commissionAlreadyRecorded => "commission already recorded"
  | .topUpNotFound => "topup not found"
  | .topUpStatusInvalid => "topup status invalid"
  | .paymentMethodMismatch => "payment method mismatch"
  | .vipActivationOrderNotFound => "vip activation order not found"
  | .vipActivationOrderStatusInvalid => "vip activation order status invalid"
  | .message text => text

end ApiGateway
