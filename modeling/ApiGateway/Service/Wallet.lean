import ApiGateway.Model.Store

/-!
# The wallet service

Every function takes the store as its last argument and returns the store the surrounding
transaction would commit; an error means that it is rolled back. The balance of a user is kept
twice, as `wallet_accounts.balance_amount` in currency and as `users.quota` in integer quota units,
written by separate statements.
-/

namespace ApiGateway

open Table Decimal

def walletAmountEpsilon : ℚ := 1 / 1000000

variable (cfg : Config)

/-- Currency to quota units, truncating. -/
def amountToQuota (amount : ℚ) : Int :=
  if amount ≤ 0 then 0 else intPart (amount * cfg.quotaPerUnit)

/-- Quota units to currency. -/
def quotaToWalletAmount (quota : Int) : ℚ :=
  if quota ≤ 0 then 0 else quota / cfg.quotaPerUnit

/-! ## Flows -/

def walletFlowExistsTx (s : Store) : Option FlowKey → Bool
  | none => false
  | some k => s.walletFlows.any fun f => f.idempotencyKey == some k

/-- Insert a flow, unless one with its key is already there. -/
@[simps]
def createWalletFlowTx (flow : WalletFlow) (s : Store) : Store :=
  { s with walletFlows :=
      if walletFlowExistsTx s flow.idempotencyKey then s.walletFlows
      else s.walletFlows ++ [flow] }

variable (u : Nat)

/-- A flow of user `u` carrying the amounts of `a` after the change. -/
def walletFlow (bizNo : String) (key : Option FlowKey) (flowType : WalletFlowType)
    (walletType : WalletType) (direction : WalletFlowDirection) (amount : ℚ) (a : WalletAccount)
    (remark : String) : WalletFlow :=
  { userId := u, bizNo := bizNo, idempotencyKey := key, flowType := flowType,
    walletType := walletType, direction := direction, amount := amount,
    balanceAfter := a.balanceAmount, commissionAfter := a.commissionAmount,
    frozenCommissionAfter := a.frozenCommissionAmount, remark := remark }

/-- The account of a user; user ids start at 1. -/
def getOrCreateWalletAccountTx (s : Store) : Except Err WalletAccount := do
  failIf (u = 0) .userNotFound
  return s.wallets u

/-! ## Balance operations -/

/-- Fill the balance of an old account from `users.quota`, once. -/
def ensureLegacyWalletBalanceTx (s : Store) : Except Err Store := do
  let account ← getOrCreateWalletAccountTx u s
  if account.balanceAmount > walletAmountEpsilon then
    return s
  let legacyKey := FlowKey.legacyBalanceInit u
  if walletFlowExistsTx s (some legacyKey) then
    return s
  if (s.users u).quota ≤ 0 then
    return s
  let amount := quotaToWalletAmount cfg (s.users u).quota
  let account := { account with balanceAmount := amount }
  return createWalletFlowTx
    (walletFlow u s!"legacy-balance-init-{u}" (some legacyKey) .legacyBalanceInit .balance .incoming
      amount account "历史 quota 初始化消费余额")
    (s.saveAccount u account (some legacyKey))

def creditBalanceByQuotaTx (quota : Int) (bizNo : String) (flowType : WalletFlowType)
    (remark : String) (key : Option FlowKey) (s : Store) : Except Err Store := do
  if quota ≤ 0 then
    return s
  if walletFlowExistsTx s key then
    return s
  let amount := quotaToWalletAmount cfg quota
  let s ← ensureLegacyWalletBalanceTx cfg u s
  let account := s.wallets u
  let account := { account with balanceAmount := account.balanceAmount + amount }
  return createWalletFlowTx
    (walletFlow u bizNo key flowType .balance .incoming amount account remark)
    ((s.saveAccount u account key).addQuota u quota key)

def debitBalanceByQuotaTx (quota : Int) (bizNo : String) (flowType : WalletFlowType)
    (remark : String) (key : Option FlowKey) (s : Store) : Except Err Store := do
  if quota ≤ 0 then
    return s
  if walletFlowExistsTx s key then
    return s
  let s ← ensureLegacyWalletBalanceTx cfg u s
  let amount := quotaToWalletAmount cfg quota
  let account := s.wallets u
  failIf (account.balanceAmount + walletAmountEpsilon < amount) .walletBalanceInsufficient
  let account := { account with balanceAmount := max 0 (account.balanceAmount - amount) }
  return createWalletFlowTx
    (walletFlow u bizNo key flowType .balance .outgoing amount account remark)
    ((s.saveAccount u account key).addQuota u (-quota) key)

/-- Account and user of a realtime request; an empty balance is refilled from
`users.quota` without a flow. -/
def getQiniuWalletAccountAndUserTx (s : Store) : Except Err Store := do
  let account ← getOrCreateWalletAccountTx u s
  if account.balanceAmount ≤ walletAmountEpsilon ∧ (s.users u).quota > 0 then
    return s.saveAccount u
      { account with balanceAmount := quotaToWalletAmount cfg (s.users u).quota } none
  return s

def debitBalanceByQuotaSilentlyTx (quota : Int) (s : Store) : Except Err Store := do
  if quota ≤ 0 then
    return s
  let s ← getQiniuWalletAccountAndUserTx cfg u s
  let amount := quotaToWalletAmount cfg quota
  let account := s.wallets u
  failIf ((s.users u).quota < quota ∨ account.balanceAmount + walletAmountEpsilon < amount)
    .walletBalanceInsufficient
  let account := { account with balanceAmount := max 0 (account.balanceAmount - amount) }
  return (s.saveAccount u account none).addQuota u (-quota) none

/-- The upstream already served the request, so a shortfall becomes debt. -/
def debitBalanceByQuotaSilentlyAllowDebtTx (quota : Int) (s : Store) :
    Except Err Store := do
  if quota ≤ 0 then
    return s
  let s ← getQiniuWalletAccountAndUserTx cfg u s
  let account := s.wallets u
  let account := { account with
    balanceAmount := account.balanceAmount - quotaToWalletAmount cfg quota }
  return (s.saveAccount u account none).addQuota u (-quota) none

def creditBalanceByQuotaSilentlyTx (quota : Int) (s : Store) : Except Err Store := do
  if quota ≤ 0 then
    return s
  let s ← getQiniuWalletAccountAndUserTx cfg u s
  let account := s.wallets u
  let account := { account with
    balanceAmount := account.balanceAmount + quotaToWalletAmount cfg quota }
  return (s.saveAccount u account none).addQuota u quota none

/-! ## Commission operations -/

def creditCommissionTx (bizNo : String) (amount : ℚ) (flowType : WalletFlowType) (remark : String)
    (key : Option FlowKey) (s : Store) : Except Err Store := do
  if amount ≤ 0 then
    return s
  if walletFlowExistsTx s key then
    return s
  let account ← getOrCreateWalletAccountTx u s
  let account := { account with
    commissionAmount := account.commissionAmount + amount
    totalCommissionAmount := account.totalCommissionAmount + amount }
  return createWalletFlowTx
    (walletFlow u bizNo key flowType .commission .incoming amount account remark)
    (s.saveAccount u account key)

/-- Queue a remote quota grant for the user's first enabled token. A user without
one gets a deferred grant; a token managed locally gets none. -/
def createQiniuQuotaGrantTx (businessKey : String) (grantAmount : ℚ) (s : Store) :
    Store :=
  if grantAmount ≤ 0 ∨ ¬ cfg.qiniuKeyLifecycleEnabled then s
  else
    let insert (tokenId : Option Nat) : Store :=
      if s.quotaGrants.any fun g => g.businessKey == businessKey then s
      else { s with quotaGrants := s.quotaGrants ++
        [{ userId := u, tokenId, businessKey, grantAmount }] }
    match lookup (fun t : Token => t.userId == u && t.enabled) s.tokens with
    | none => insert none
    | some (id, t) => if t.qiniuManaged then insert (some id) else s

def createQiniuQuotaGrantForRechargeTx (tradeNo : String) (grantQuota : Int) (s : Store) : Store :=
  if u = 0 ∨ isBlank tradeNo ∨ grantQuota ≤ 0 then s
  else createQiniuQuotaGrantTx cfg u ("recharge:" ++ trimSpace tradeNo)
    (quotaToWalletAmount cfg grantQuota) s

def createQiniuQuotaGrantForCommissionTransferTx (walletFlowId : Nat) (amount : ℚ) (s : Store) :
    Store :=
  if u = 0 ∨ walletFlowId = 0 ∨ amount ≤ 0 then s
  else createQiniuQuotaGrantTx cfg u s!"commission_transfer:{walletFlowId}" amount s

/-- Move withdrawable commission into the balance. `timeString` is the clock
reading that goes into the flow key. -/
def transferCommissionToBalance (amount : ℚ) (timeString : String) (s : Store) :
    Except Err Store := do
  failIf (u = 0) .userNotFound
  failIf (amount ≤ 0) .walletAmountInvalid
  let s ← ensureLegacyWalletBalanceTx cfg u s
  let account := s.wallets u
  failIf (account.commissionAmount + walletAmountEpsilon < amount) .commissionInsufficient
  let key := FlowKey.commissionTransfer u timeString
  let account := { account with
    commissionAmount := account.commissionAmount - amount
    balanceAmount := account.balanceAmount + amount }
  let s := s.saveAccount u account (some key)
  let quota := amountToQuota cfg amount
  failIf (quota ≤ 0) .walletAmountInvalid
  let s := s.addQuota u quota (some key)
  -- a duplicate key leaves the flow without a row, and its id at zero
  let walletFlowId := if walletFlowExistsTx s (some key) then 0 else s.walletFlows.length + 1
  let s := createWalletFlowTx
    (walletFlow u s!"commission-transfer-{u}" (some key) .commissionToBalance .commission .outgoing
      amount account "佣金转消费余额") s
  return createQiniuQuotaGrantForCommissionTransferTx cfg u walletFlowId amount s

/-! ## Entry points of the billing paths -/

def consumeWalletQuota (quota : Int) (bizNo remark : String) (s : Store) :
    Except Err Store :=
  debitBalanceByQuotaTx cfg u quota bizNo .balanceConsume remark none s

def refundWalletQuota (quota : Int) (bizNo remark : String) (s : Store) :
    Except Err Store :=
  creditBalanceByQuotaTx cfg u quota bizNo .balanceRefund remark none s

/-! ## Operations as data -/

/-- The operations on the balance side of a wallet. -/
inductive WalletOp where
  | ensureLegacyWalletBalance (u : Nat)
  | creditBalanceByQuota (u : Nat) (quota : Int) (bizNo : String) (flowType : WalletFlowType)
      (remark : String) (key : Option FlowKey)
  | debitBalanceByQuota (u : Nat) (quota : Int) (bizNo : String) (flowType : WalletFlowType)
      (remark : String) (key : Option FlowKey)
  | debitBalanceByQuotaSilently (u : Nat) (quota : Int)
  | debitBalanceByQuotaSilentlyAllowDebt (u : Nat) (quota : Int)
  | creditBalanceByQuotaSilently (u : Nat) (quota : Int)
  | transferCommissionToBalance (u : Nat) (amount : ℚ) (timeString : String)

namespace WalletOp

/-- One call, run as its own transaction. -/
def exec : WalletOp → Store → Except Err Store
  | ensureLegacyWalletBalance u, s => ensureLegacyWalletBalanceTx cfg u s
  | creditBalanceByQuota u quota bizNo flowType remark key, s =>
    creditBalanceByQuotaTx cfg u quota bizNo flowType remark key s
  | debitBalanceByQuota u quota bizNo flowType remark key, s =>
    debitBalanceByQuotaTx cfg u quota bizNo flowType remark key s
  | debitBalanceByQuotaSilently u quota, s => debitBalanceByQuotaSilentlyTx cfg u quota s
  | debitBalanceByQuotaSilentlyAllowDebt u quota, s =>
    debitBalanceByQuotaSilentlyAllowDebtTx cfg u quota s
  | creditBalanceByQuotaSilently u quota, s => creditBalanceByQuotaSilentlyTx cfg u quota s
  | transferCommissionToBalance u amount timeString, s =>
    ApiGateway.transferCommissionToBalance cfg u amount timeString s

def allowsDebt : WalletOp → Bool
  | debitBalanceByQuotaSilentlyAllowDebt _ _ => true
  | _ => false

/-- A keyed debit that has not been made yet and asks for more than `users.quota`. -/
def overdraws (s : Store) : WalletOp → Bool
  | debitBalanceByQuota u quota _ _ _ key =>
    !walletFlowExistsTx s key && decide ((s.users u).quota < quota)
  | _ => false

end WalletOp

end ApiGateway
