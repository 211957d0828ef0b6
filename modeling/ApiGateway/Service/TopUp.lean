import ApiGateway.Service.Commission

/-!
# Top-up orders

Completing an order credits its quota to the balance, pays the commissions and queues a remote quota
grant, all in one transaction. A callback for an order that is already complete repairs the snapshot
columns and settles the commissions again. A reversal takes the quota and the commissions back.

`TopUpOp` has these two calls and the wallet operations as data, and everything else the server does
in between as some other transaction. A call that returns an error was rolled back.
-/

namespace ApiGateway

open Table Decimal

variable (cfg : Config)

/-! ## Snapshot columns -/

/-- Fill the snapshot columns that are still empty. -/
def applyTopUpSnapshotDefaults (topUp : TopUp) (quotaToAdd : Int) : TopUp :=
  let recharge := if topUp.rechargeAmount ≤ 0 then quotaToWalletAmount cfg quotaToAdd
    else topUp.rechargeAmount
  let paid := if topUp.paidAmount ≤ 0 then topUp.money else topUp.paidAmount
  let discount :=
    if topUp.discount ≤ 0 then
      let d := if recharge > 0 ∧ paid > 0 then paid / recharge else topUp.discount
      if d ≤ 0 then 1 else d
    else topUp.discount
  { topUp with rechargeAmount := recharge, paidAmount := paid, discount := discount }

def applyTopUpActualPaidAmount (topUp : TopUp) (actualPaidAmount : ℚ) : TopUp :=
  if actualPaidAmount ≤ 0 then topUp
  else
    let discount := if topUp.rechargeAmount > 0 then actualPaidAmount / topUp.rechargeAmount
      else topUp.discount
    { topUp with paidAmount := actualPaidAmount, discount := if discount ≤ 0 then 1 else discount }

/-! ## Completion -/

structure CompleteTopUpOrderRequest where
  tradeNo : String
  /-- `unset` accepts any provider. -/
  expectedPaymentProvider : PaymentProvider := .unset
  actualPaymentMethod : String := ""
  actualPaidAmount : ℚ := 0
  stripeCustomerID : String := ""
  customerEmail : String := ""

def updateTopUpUserPaymentSnapshotTx (u : Nat) (req : CompleteTopUpOrderRequest) (s : Store) :
    Store :=
  let user := s.users u
  { s with users := Function.update s.users u { user with
      stripeCustomer := if isBlank req.stripeCustomerID then user.stripeCustomer
        else trimSpace req.stripeCustomerID
      email := if isBlank req.customerEmail ∨ ¬ isBlank user.email then user.email
        else trimSpace req.customerEmail } }

/-- The order with this trade number, under a lock. -/
def lockTopUpTx (tradeNo : String) (s : Store) : Except Err (Nat × TopUp) :=
  orFail (lookup (fun t : TopUp => t.tradeNo == tradeNo) s.topUps) .topUpNotFound

/-- `tx.Save(&topUp)`. -/
@[simps]
def Store.saveTopUp (s : Store) (id : Nat) (topUp : TopUp) : Store :=
  { s with topUps := s.topUps.modify id fun _ => topUp }

/-- The row of a pending order at its completion. -/
def completedTopUp (req : CompleteTopUpOrderRequest) (now : Int) (topUp : TopUp) : TopUp :=
  { applyTopUpActualPaidAmount
      (applyTopUpSnapshotDefaults cfg topUp (calculateTopUpQuota cfg topUp)) req.actualPaidAmount with
    completeTime := now
    status := .success
    paymentMethod := if req.actualPaymentMethod ≠ "" then req.actualPaymentMethod
      else topUp.paymentMethod }

variable (faults : CommissionFaults)

/-- The first completion of a pending order. -/
def completePendingTopUpTx (req : CompleteTopUpOrderRequest) (now : Int) (id : Nat) (topUp : TopUp)
    (s : Store) : Except Err Store := do
  let quotaToAdd := calculateTopUpQuota cfg topUp
  failIf (quotaToAdd ≤ 0) (.message "无效的充值额度")
  let topUp := completedTopUp cfg req now topUp
  let s := updateTopUpUserPaymentSnapshotTx topUp.userId req (s.saveTopUp id topUp)
  let s ← creditBalanceByQuotaTx cfg topUp.userId quotaToAdd topUp.tradeNo .rechargeBalance
    "充值入消费余额" (some (.recharge topUp.tradeNo)) s
  let s := settleTopUpCommissionsTx cfg faults topUp now s
  return createQiniuQuotaGrantForRechargeTx cfg topUp.userId topUp.tradeNo quotaToAdd s

/-- A redelivered callback of a completed order. -/
def replayCompletedTopUpTx (now : Int) (id : Nat) (topUp : TopUp) (s : Store) : Store :=
  let topUp := applyTopUpSnapshotDefaults cfg topUp (calculateTopUpQuota cfg topUp)
  settleTopUpCommissionsTx cfg faults topUp now (s.saveTopUp id topUp)

def completeTopUpOrder (req : CompleteTopUpOrderRequest) (now : Int) (s : Store) :
    Except Err Store := do
  failIf (isBlank req.tradeNo) (.message "未提供支付单号")
  let (id, topUp) ← lockTopUpTx req.tradeNo s
  failIf (req.expectedPaymentProvider ≠ .unset ∧
    topUp.paymentProvider ≠ req.expectedPaymentProvider) .paymentMethodMismatch
  if topUp.status = .success then
    return replayCompletedTopUpTx cfg faults now id topUp s
  else
    failIf (topUp.status ≠ .pending) .topUpStatusInvalid
    completePendingTopUpTx cfg faults req now id topUp s

/-! ## Reversal -/

def normalizeReverseReason (reason : String) : String :=
  if isBlank reason then "支付退款或冲正" else trimSpace reason

def reverseTopUpOrder (tradeNo : String) (provider : PaymentProvider) (reason : String) (now : Int)
    (s : Store) : Except Err Store := do
  failIf (isBlank tradeNo) (.message "未提供支付单号")
  let reason := normalizeReverseReason reason
  let (id, topUp) ← lockTopUpTx (trimSpace tradeNo) s
  failIf (provider ≠ .unset ∧ topUp.paymentProvider ≠ provider) .paymentMethodMismatch
  if topUp.status = .reversed then
    return s
  else
    failIf (topUp.status ≠ .success) .topUpStatusInvalid
    let quotaToReverse := calculateTopUpQuota cfg topUp
    failIf (quotaToReverse ≤ 0) (.message "无效的冲正额度")
    let s ← debitBalanceByQuotaTx cfg topUp.userId quotaToReverse topUp.tradeNo .refundReverse
      reason (some (.topupReverse topUp.tradeNo)) s
    let s ← reverseCommissionsTx .topUp topUp.tradeNo reason now s
    return s.saveTopUp id { topUp with status := .reversed, reversedAt := now }

/-! ## Operations as data -/

/-- A call for a top-up order, a wallet operation, or anything else the server does
in between. -/
inductive TopUpOp where
  | completeTopUpOrder (faults : CommissionFaults) (req : CompleteTopUpOrderRequest) (now : Int)
  | reverseTopUpOrder (tradeNo : String) (provider : PaymentProvider) (reason : String) (now : Int)
  | wallet (op : WalletOp)
  | other (f : Store → Except Err Store)

def TopUpOp.exec : TopUpOp → Store → Except Err Store
  | .completeTopUpOrder faults req now, s => ApiGateway.completeTopUpOrder cfg faults req now s
  | .reverseTopUpOrder tradeNo provider reason now, s =>
    ApiGateway.reverseTopUpOrder cfg tradeNo provider reason now s
  | .wallet op, s => op.exec cfg s
  | .other f, s => f s

end ApiGateway
