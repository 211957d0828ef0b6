import ApiGateway.Service.Wallet

/-!
# Manual withdraw orders

A withdrawal freezes commission when it is requested (`freezeCommissionTx`). The frozen amount
leaves the wallet when the order is paid (`payFrozenCommissionTx`) and goes back to the commission
when it is rejected (`returnFrozenCommissionTx`); every service function that settles an order is
one of the two, applied to its own flow key, texts and column updates.

`now` is the clock reading of the transaction. An update by column map also refreshes `updated_at`.
-/

namespace ApiGateway

open Table Decimal

variable (cfg : Config)

/-! ## The three money movements -/

/-- Freeze `amount` of the user's commission under a new order. The insert fails
when the order number is already taken. -/
def freezeCommissionTx (order : WithdrawOrder) (amount : ℚ) (key : FlowKey) (remark : String)
    (s : Store) : Except Err (Store × Nat) := do
  let account ← getOrCreateWalletAccountTx order.userId s
  failIf (account.commissionAmount + walletAmountEpsilon < amount) .commissionInsufficient
  let account := { account with
    commissionAmount := account.commissionAmount - amount
    frozenCommissionAmount := account.frozenCommissionAmount + amount }
  let s := s.saveAccount order.userId account (some key)
  failIf (s.withdrawOrders.any fun o => o.withdrawNo == order.withdrawNo)
    (.message "UNIQUE constraint failed: withdraw_orders.withdraw_no")
  let id := s.withdrawOrders.length
  let s := { s with withdrawOrders := s.withdrawOrders ++ [order] }
  return (createWalletFlowTx
    (walletFlow order.userId order.withdrawNo (some key) .withdrawFreeze .commission .outgoing
      amount account remark) s, id)

/-- Give the frozen amount of order `id` back to the commission. -/
def returnFrozenCommissionTx (id : Nat) (order : WithdrawOrder) (amount : ℚ) (key : FlowKey)
    (upd : WithdrawOrder → WithdrawOrder) (remark : String) (s : Store) : Except Err Store := do
  let account ← getOrCreateWalletAccountTx order.userId s
  let account := { account with
    frozenCommissionAmount := max 0 (account.frozenCommissionAmount - amount)
    commissionAmount := account.commissionAmount + amount }
  let s := (s.saveAccount order.userId account (some key)).updateWithdrawOrder id upd
  return createWalletFlowTx
    (walletFlow order.userId order.withdrawNo (some key) .withdrawReject .commission .incoming
      amount account remark) s

/-- Let the frozen amount of order `id` leave the wallet. -/
def payFrozenCommissionTx (id : Nat) (order : WithdrawOrder) (amount : ℚ) (key : FlowKey)
    (upd : WithdrawOrder → WithdrawOrder) (remark : String) (s : Store) : Except Err Store := do
  let account ← getOrCreateWalletAccountTx order.userId s
  failIf (account.frozenCommissionAmount + walletAmountEpsilon < amount) .commissionInsufficient
  let account := { account with
    frozenCommissionAmount := max 0 (account.frozenCommissionAmount - amount)
    totalWithdrawAmount := account.totalWithdrawAmount + amount }
  let s := (s.saveAccount order.userId account (some key)).updateWithdrawOrder id upd
  return createWalletFlowTx
    (walletFlow order.userId order.withdrawNo (some key) .withdrawSuccess .commission .outgoing
      amount account remark) s

/-! ## Service functions -/

structure SubmitWithdrawOrderRequest where
  userId : Nat
  amount : ℚ
  feeAmount : ℚ
  receiveType : String
  receiveAccount : String
  remark : String

def submitWithdrawOrder (req : SubmitWithdrawOrderRequest) (timeString : String) (now : Int)
    (s : Store) : Except Err (Store × Nat) := do
  failIf (req.userId = 0) .userNotFound
  failIf (req.amount ≤ 0) .withdrawAmountInvalid
  let minAmount := cfg.commissionMinWithdrawAmount
  failIf (minAmount > 0 ∧ req.amount + walletAmountEpsilon < minAmount)
    (.message ("提现金额不能小于 " ++ fixed2 minAmount))
  failIf (isBlank req.receiveAccount) (.message "收款账户不能为空")
  failIf (req.feeAmount < 0 ∨ req.feeAmount > req.amount) (.message "提现手续费无效")
  let withdrawNo := "WDR" ++ toString req.userId ++ timeString
  freezeCommissionTx
    { userId := req.userId
      withdrawNo := withdrawNo
      amount := req.amount
      feeAmount := req.feeAmount
      actualAmount := req.amount - req.feeAmount
      status := .pending
      provider := .manual
      receiveType := trimSpace req.receiveType
      receiveAccount := trimSpace req.receiveAccount
      remark := trimSpace req.remark
      createdAt := now
      updatedAt := now }
    req.amount (.withdrawFreeze withdrawNo) "提现申请冻结佣金" s

/-- The order row under a lock. -/
def lockWithdrawOrderTx (id : Nat) (s : Store) : Except Err WithdrawOrder :=
  orFail s.withdrawOrders[id]? .withdrawOrderNotFound

variable (id reviewerId : Nat)

def approveWithdrawOrder (remark : String) (now : Int) (s : Store) :
    Except Err Store := do
  let order ← lockWithdrawOrderTx id s
  failIf (order.status ≠ .pending) .withdrawStatusInvalid
  failIf (order.provider ≠ .manual) .withdrawStatusInvalid
  return s.updateWithdrawOrder id fun o => { o with
    status := .approved, reviewerId := reviewerId, reviewedAt := now
    remark := trimSpace remark, updatedAt := now }

def rejectWithdrawOrder (reason : String) (now : Int) (s : Store) :
    Except Err Store := do
  let order ← lockWithdrawOrderTx id s
  failIf (order.status = .rejected ∨ order.status = .paid) .withdrawStatusInvalid
  failIf (order.provider ≠ .manual) .withdrawStatusInvalid
  returnFrozenCommissionTx id order order.amount (.withdrawReject order.withdrawNo)
    (fun o => { o with
      status := .rejected, reviewerId := reviewerId, reviewedAt := now
      failReason := trimSpace reason, remark := trimSpace reason, updatedAt := now })
    (trimSpace reason) s

def markWithdrawOrderPaid (paymentVoucher remark : String) (now : Int) (s : Store) :
    Except Err Store := do
  let order ← lockWithdrawOrderTx id s
  failIf (order.status ≠ .approved ∧ order.status ≠ .failed) .withdrawStatusInvalid
  failIf (order.provider ≠ .manual) .withdrawStatusInvalid
  payFrozenCommissionTx id order order.amount (.withdrawSuccess order.withdrawNo)
    (fun o => { o with
      status := .paid, reviewerId := reviewerId, reviewedAt := now, paidAt := now
      paymentVoucher := trimSpace paymentVoucher, remark := trimSpace remark, updatedAt := now })
    (trimSpace remark) s

/-- The payout failed; the commission stays frozen for a retry or a rejection. -/
def markWithdrawOrderFailed (reason : String) (now : Int) (s : Store) :
    Except Err Store := do
  let order ← lockWithdrawOrderTx id s
  failIf (order.status ≠ .approved) .withdrawStatusInvalid
  failIf (order.provider ≠ .manual) .withdrawStatusInvalid
  return s.updateWithdrawOrder id fun o => { o with
    status := .failed, reviewerId := reviewerId, reviewedAt := now
    failReason := trimSpace reason, remark := trimSpace reason, updatedAt := now }

end ApiGateway
