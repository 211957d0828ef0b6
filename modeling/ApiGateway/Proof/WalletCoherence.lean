import ApiGateway.Lib.Runs
import ApiGateway.Proof.Wallet

/-!
# The two ledgers of a wallet

The same money is kept twice, as `wallet_accounts.balance_amount` in currency and as `users.quota`
in quota units. `drift` is what the balance is ahead of the quota, in quota units.

A transfer of commission adds the truncated number of quota units, so it leaves the balance ahead by
the part that was cut off. Every other operation keeps the drift, or sets it back to zero when it
refills an empty balance from the quota. The keyed debit compares the amount with the balance only,
and may overdraw the quota.
-/

namespace ApiGateway

open Table Decimal Runs Function WalletOp

variable {cfg : Config} {u v : Nat} {s s' : Store}
variable {key key' : Option FlowKey} {q : Int} {s1 : Store} {op : WalletOp}

/-! ## Drift -/

/-- Quota units the balance of `u` is ahead of `users.quota`. -/
def drift (cfg : Config) (u : Nat) (s : Store) : ℚ :=
  (s.wallets u).balanceAmount * cfg.quotaPerUnit - (s.users u).quota

theorem drift_saveAccount {a : WalletAccount} :
    drift cfg u (s.saveAccount v a key) =
      if v = u then a.balanceAmount * cfg.quotaPerUnit - (s.users u).quota else drift cfg u s := by
  unfold drift
  by_cases h : v = u
  · subst h
    simp
  · simp [h, update_of_ne (Ne.symm h)]

theorem drift_addQuota :
    drift cfg u (s.addQuota v q key) = drift cfg u s - if v = u then (q : ℚ) else 0 := by
  unfold drift
  by_cases h : v = u
  · subst h
    simp only [Store.addQuota_users, Store.addQuota_wallets, update_self]
    push_cast
    ring
  · simp [h, update_of_ne (Ne.symm h)]

/-! ## Refills -/

/-- What reading the account may do: refill an empty balance from the quota. -/
structure Refilled (cfg : Config) (s s₁ : Store) : Prop where
  users : s₁.users = s.users
  bound : ∀ u, 0 ≤ drift cfg u s → 0 ≤ drift cfg u s₁ ∧ drift cfg u s₁ ≤ drift cfg u s
  balance : ∀ u, 0 ≤ (s.wallets u).balanceAmount → 0 ≤ (s₁.wallets u).balanceAmount

theorem Refilled.refl (s : Store) : Refilled cfg s s :=
  ⟨rfl, fun _ h => ⟨h, le_refl _⟩, fun _ h => h⟩

theorem Refilled.writesFlow (h : Refilled cfg s s1) (hw : WritesFlow key s1 s') :
    Refilled cfg s s' := by
  obtain ⟨-, -, rfl⟩ := hw
  exact ⟨h.users, h.bound, h.balance⟩

theorem refilled_saveAccount (hq : 0 < (s.users v).quota) :
    Refilled cfg s (s.saveAccount v { s.wallets v with
      balanceAmount := quotaToWalletAmount cfg (s.users v).quota } key) := by
  refine ⟨rfl, ?_, ?_⟩
  · intro u hd
    rw [drift_saveAccount]
    split
    · rename_i heq
      subst heq
      rw [quotaToWalletAmount_mul hq, sub_self]
      exact ⟨le_refl 0, hd⟩
    · exact ⟨hd, le_refl _⟩
  intro u hb
  by_cases h : u = v
  · subst h
    simp only [Store.saveAccount_wallets, update_self]
    exact quotaToWalletAmount_nonneg _
  · simp only [Store.saveAccount_wallets, update_of_ne h]
    exact hb

theorem ensureLegacyWalletBalanceTx_refilled (h : ensureLegacyWalletBalanceTx cfg v s = .ok s') :
    Refilled cfg s s' := by
  obtain ⟨-, rfl | hinit⟩ := ensureLegacyWalletBalanceTx_ok h
  · exact Refilled.refl _
  · exact (refilled_saveAccount hinit.quota).writesFlow hinit.store

theorem getQiniuWalletAccountAndUserTx_refilled
    (h : getQiniuWalletAccountAndUserTx cfg v s = .ok s') : Refilled cfg s s' := by
  obtain ⟨-, rfl | ⟨-, hq, rfl⟩⟩ := getQiniuWalletAccountAndUserTx_ok h
  · exact Refilled.refl _
  · exact refilled_saveAccount hq

/-! ## One operation -/

/-- The drift a transfer leaves behind: the part of a quota unit it cuts off. -/
def WalletOp.dust (cfg : Config) (u : Nat) : WalletOp → ℚ
  | .transferCommissionToBalance v amount _ => if v = u then Int.fract (amount * cfg.quotaPerUnit) else 0
  | _ => 0

theorem WalletOp.dust_nonneg (op : WalletOp) : 0 ≤ op.dust cfg u := by
  unfold dust
  split
  · split
    · exact Int.fract_nonneg _
    · exact le_refl 0
  · exact le_refl 0

/-- What an operation does to `u`'s two ledgers. -/
structure LedgerMove (cfg : Config) (u : Nat) (op : WalletOp) (s s' : Store) : Prop where
  bound : 0 ≤ drift cfg u s → 0 ≤ drift cfg u s' ∧ drift cfg u s' ≤ drift cfg u s + op.dust cfg u
  balance : op.allowsDebt = false → 0 ≤ (s.wallets u).balanceAmount →
    0 ≤ (s'.wallets u).balanceAmount
  quota : op.allowsDebt = false → 0 ≤ (s.users u).quota → 0 ≤ (s'.users u).quota

/-- After a refill, balance and quota move by the same money, up to the dust. -/
theorem LedgerMove.of_moved {d : ℚ} {w : WalletAccount} (hr : Refilled cfg s s1)
    (hw : w.balanceAmount = (s1.wallets v).balanceAmount + d)
    (hdust : op.dust cfg u = if v = u then d * cfg.quotaPerUnit - q else 0)
    (hb : op.allowsDebt = false → 0 ≤ (s1.wallets v).balanceAmount → 0 ≤ w.balanceAmount)
    (hq : op.allowsDebt = false → 0 ≤ (s.users v).quota → 0 ≤ (s.users v).quota + q) :
    LedgerMove cfg u op s ((s1.saveAccount v w key).addQuota v q key') := by
  refine ⟨?_, ?_, ?_⟩
  · intro hd
    obtain ⟨h1, h2⟩ := hr.bound u hd
    have hdust0 : 0 ≤ op.dust cfg u := op.dust_nonneg
    have hdrift : drift cfg u ((s1.saveAccount v w key).addQuota v q key') =
        drift cfg u s1 + if v = u then d * cfg.quotaPerUnit - q else 0 := by
      rw [drift_addQuota, drift_saveAccount]
      by_cases h : v = u
      · subst h
        simp only [if_true, hw]
        unfold drift
        ring
      · simp [h]
    rw [hdrift]
    constructor <;> linarith
  · intro hdebt h
    have h1 := hr.balance u h
    by_cases hu : u = v
    · subst hu
      simpa using hb hdebt h1
    · simpa [update_of_ne hu] using h1
  · intro hdebt h
    by_cases hu : u = v
    · subst hu
      simpa [hr.users] using hq hdebt h
    · simpa [update_of_ne hu, hr.users] using h

theorem LedgerMove.refilled (hr : Refilled cfg s s') : LedgerMove cfg u op s s' := by
  refine ⟨?_, fun _ => hr.balance u, fun _ h => hr.users ▸ h⟩
  intro hd
  obtain ⟨h1, h2⟩ := hr.bound u hd
  exact ⟨h1, h2.trans (le_add_of_nonneg_right op.dust_nonneg)⟩

theorem LedgerMove.writesFlow (h : LedgerMove cfg u op s s1) (hw : WritesFlow key s1 s') :
    LedgerMove cfg u op s s' := by
  obtain ⟨-, -, rfl⟩ := hw
  exact ⟨h.bound, h.balance, h.quota⟩

theorem amount_le_balance (hd : 0 ≤ drift cfg u s) (hq : 0 < q) (hle : q ≤ (s.users u).quota) :
    quotaToWalletAmount cfg q ≤ (s.wallets u).balanceAmount := by
  refine le_of_mul_le_mul_right ?_ cfg.quotaPerUnit_pos
  rw [quotaToWalletAmount_mul hq]
  have hcast : (q : ℚ) ≤ (s.users u).quota := by exact_mod_cast hle
  unfold drift at hd
  linarith

/-- A debit within the quota meets no clamp. -/
theorem LedgerMove.of_debit (hr : Refilled cfg s s1) (hd : 0 ≤ drift cfg u s) (hq : 0 < q)
    (hle : q ≤ (s.users v).quota) (hdust : op.dust cfg u = 0) :
    LedgerMove cfg u op s ((s1.saveAccount v { s1.wallets v with
      balanceAmount := max 0 ((s1.wallets v).balanceAmount - quotaToWalletAmount cfg q) }
      key).addQuota v (-q) key') := by
  by_cases hv : v = u
  · subst hv
    have hcover := amount_le_balance (hr.bound v hd).1 hq (hr.users ▸ hle)
    have hclamp : max 0 ((s1.wallets v).balanceAmount - quotaToWalletAmount cfg q) =
        (s1.wallets v).balanceAmount - quotaToWalletAmount cfg q :=
      max_eq_right (sub_nonneg.mpr hcover)
    refine .of_moved hr (d := -quotaToWalletAmount cfg q) ?_ ?_ ?_ ?_
    · rw [hclamp, sub_eq_add_neg]
    · rw [if_pos rfl, hdust, neg_mul, quotaToWalletAmount_mul hq]
      push_cast
      ring
    · intro _ _
      exact le_max_left _ _
    · intro _ _
      omega
  · -- the account of somebody else
    have h1 := hr.bound u hd
    refine ⟨fun _ => ?_, fun _ h => ?_, fun _ h => ?_⟩
    · rw [drift_addQuota, drift_saveAccount, if_neg hv, if_neg hv, sub_zero, hdust, add_zero]
      exact h1
    · simpa [update_of_ne (Ne.symm hv)] using hr.balance u h
    · simpa [update_of_ne (Ne.symm hv), hr.users] using h

/-- **What one operation does to the two ledgers.** -/
theorem WalletOp.exec_move (h : op.exec cfg s = .ok s')
    (hd : 0 ≤ drift cfg u s) (ho : op.overdraws s = false) : LedgerMove cfg u op s s' := by
  have hsame : LedgerMove cfg u op s s := .refilled (Refilled.refl s)
  cases op with
  | ensureLegacyWalletBalance => exact .refilled (ensureLegacyWalletBalanceTx_refilled h)
  | creditBalanceByQuota v q =>
    rcases creditBalanceByQuotaTx_ok h with ⟨rfl, -⟩ | ⟨hq, -, s1, hs1, hw⟩
    · exact hsame
    refine .writesFlow (.of_moved (ensureLegacyWalletBalanceTx_refilled hs1) rfl ?_ ?_ ?_) hw
    · rw [quotaToWalletAmount_mul hq, sub_self, ite_self]
      rfl
    · intro _ hb
      exact add_nonneg hb (quotaToWalletAmount_nonneg q)
    · intro _ hb
      omega
  | debitBalanceByQuota =>
    rcases debitBalanceByQuotaTx_ok h with ⟨rfl, -⟩ | ⟨hq, hk, s1, hs1, -, hw⟩
    · exact hsame
    · simp only [overdraws, hk, Bool.not_false, Bool.true_and, decide_eq_false_iff_not,
        not_lt] at ho
      exact .writesFlow (.of_debit (ensureLegacyWalletBalanceTx_refilled hs1) hd hq ho rfl) hw
  | debitBalanceByQuotaSilently =>
    rcases debitBalanceByQuotaSilentlyTx_ok h with ⟨rfl, -⟩ | ⟨hq, s1, hs1, hle, -, rfl⟩
    · exact hsame
    · have hr := getQiniuWalletAccountAndUserTx_refilled hs1
      exact .of_debit hr hd hq (hr.users ▸ hle) rfl
  | debitBalanceByQuotaSilentlyAllowDebt =>
    rcases debitBalanceByQuotaSilentlyAllowDebtTx_ok h with ⟨rfl, -⟩ | ⟨hq, s1, hs1, rfl⟩
    · exact hsame
    refine .of_moved (getQiniuWalletAccountAndUserTx_refilled hs1) (sub_eq_add_neg _ _) ?_ ?_ ?_
    · rw [neg_mul, quotaToWalletAmount_mul hq]
      push_cast
      rw [sub_neg_eq_add, neg_add_cancel, ite_self]
      rfl
    · exact fun hdebt => nomatch hdebt
    · exact fun hdebt => nomatch hdebt
  | creditBalanceByQuotaSilently v q =>
    rcases creditBalanceByQuotaSilentlyTx_ok h with ⟨rfl, -⟩ | ⟨hq, s1, hs1, rfl⟩
    · exact hsame
    refine .of_moved (getQiniuWalletAccountAndUserTx_refilled hs1) rfl ?_ ?_ ?_
    · rw [quotaToWalletAmount_mul hq, sub_self, ite_self]
      rfl
    · intro _ hb
      exact add_nonneg hb (quotaToWalletAmount_nonneg q)
    · intro _ hb
      omega
  | transferCommissionToBalance v amount timeString =>
    obtain ⟨hpos, hq, s1, s2, gs, hs1, hw, rfl⟩ := transferCommissionToBalance_ok h
    have hmove : LedgerMove cfg u (.transferCommissionToBalance v amount timeString) s s2 := by
      refine .writesFlow (.of_moved (ensureLegacyWalletBalanceTx_refilled hs1) rfl ?_ ?_ ?_) hw
      · rw [amountToQuota, intPart, if_neg (not_le.mpr hpos),
          if_pos (mul_pos hpos cfg.quotaPerUnit_pos).le]
        rfl
      · intro _ hb
        exact add_nonneg hb hpos.le
      · intro _ hb
        omega
    exact ⟨hmove.bound, hmove.balance, hmove.quota⟩

/-! ## Whole runs -/

/-- What the transfers of `u` that went through have cut off. -/
def transferDust (cfg : Config) (u : Nat) : List WalletOp → Store → ℚ
  | [], _ => 0
  | op :: ops, s =>
    (match op.exec cfg s with
      | .ok _ => op.dust cfg u
      | .error _ => 0) + transferDust cfg u ops (next (WalletOp.exec cfg) op s)

/-- No operation of the run overdraws the quota with a keyed debit. -/
def NoOverdraft (cfg : Config) : List WalletOp → Store → Prop :=
  Along (WalletOp.exec cfg) fun op s => (op.exec cfg s).isOk = true → op.overdraws s = false

instance (ops : List WalletOp) (s : Store) : Decidable (NoOverdraft cfg ops s) :=
  inferInstanceAs (Decidable (Along _ _ ops s))

theorem drift_run {ops : List WalletOp} (hd : 0 ≤ drift cfg u s) (hG : NoOverdraft cfg ops s) :
    0 ≤ drift cfg u (run (exec cfg) ops s) ∧
      drift cfg u (run (exec cfg) ops s) ≤ drift cfg u s + transferDust cfg u ops s := by
  induction ops generalizing s with
  | nil => exact ⟨hd, by simp [transferDust, run]⟩
  | cons op _ ih =>
    obtain ⟨hop, hrest⟩ := hG
    unfold transferDust run
    cases hx : op.exec cfg s with
    | error =>
      rw [next_of_error hx] at hrest ⊢
      simpa using ih hd hrest
    | ok =>
      rw [next_of_ok hx] at hrest ⊢
      have hmove := exec_move hx hd (hop (by rw [hx]; rfl))
      obtain ⟨h1, h2⟩ := hmove.bound hd
      obtain ⟨h3, h4⟩ := ih h1 hrest
      exact ⟨h3, by linarith⟩

/-- **The two ledgers agree up to the dust of transfers.** From an agreement on, if no keyed debit
overdraws the quota, the balance is never behind the quota, and ahead of it by at most what the
transfers cut off. And no committed operation but the debit that allows debt turns a side negative
that was not. -/
theorem ledgers_agree_up_to_dust (hs : (s.wallets u).balanceAmount * cfg.quotaPerUnit =
      (s.users u).quota) {ops : List WalletOp} (hG : NoOverdraft cfg ops s) :
    0 ≤ drift cfg u (run (WalletOp.exec cfg) ops s) ∧
    drift cfg u (run (WalletOp.exec cfg) ops s) ≤ transferDust cfg u ops s ∧
    ∀ op s', op.allowsDebt = false → NoOverdraft cfg (ops ++ [op]) s →
      op.exec cfg (run (WalletOp.exec cfg) ops s) = .ok s' →
      (0 ≤ ((run (WalletOp.exec cfg) ops s).wallets u).balanceAmount →
        0 ≤ (s'.wallets u).balanceAmount) ∧
      (0 ≤ ((run (WalletOp.exec cfg) ops s).users u).quota → 0 ≤ (s'.users u).quota) := by
  have hzero : drift cfg u s = 0 := sub_eq_zero.mpr hs
  obtain ⟨h₁, h₂⟩ := drift_run hzero.ge hG
  refine ⟨h₁, by linarith, ?_⟩
  intro op s' hdebt hG' hx
  have hop := (along_append.mp hG').2.1 (by rw [hx]; rfl)
  have hmove := WalletOp.exec_move hx h₁ hop
  exact ⟨hmove.balance hdebt, hmove.quota hdebt⟩

/-- User 1 owns a commission of 1 and nothing else. -/
def commissionOnly : Store :=
  { wallets := update (fun _ => {}) 1 { commissionAmount := 1 } }

/-- A top-up, a transfer of one and a half quota units, and a debit. -/
def topUpTransferDebit : List WalletOp :=
  [.creditBalanceByQuota 1 1000 "T" .rechargeBalance "" none,
    .transferCommissionToBalance 1 (3 / 1000000) "t",
    .debitBalanceByQuota 1 700 "D" .balanceConsume "" none]

theorem ledgers_agree_up_to_dust_of_transfer :
    0 ≤ drift Config.shipped 1 (run (WalletOp.exec Config.shipped) topUpTransferDebit commissionOnly) ∧
      drift Config.shipped 1 (run (WalletOp.exec Config.shipped) topUpTransferDebit commissionOnly) ≤
        1 / 2 := by
  have hs : (commissionOnly.wallets 1).balanceAmount * Config.shipped.quotaPerUnit =
      (commissionOnly.users 1).quota := by decide +kernel
  have hG : NoOverdraft Config.shipped topUpTransferDebit commissionOnly := by decide +kernel
  obtain ⟨h₁, h₂, -⟩ := ledgers_agree_up_to_dust hs hG
  exact ⟨h₁, h₂.trans (by decide +kernel)⟩

/-- Transferring one and a half quota units leaves the ledgers half a unit apart. -/
theorem transfer_parts_ledgers :
    (commissionOnly.wallets 1).balanceAmount * Config.shipped.quotaPerUnit =
        (commissionOnly.users 1).quota ∧
      ((run (WalletOp.exec Config.shipped) [.transferCommissionToBalance 1 (3 / 1000000) "t"]
          commissionOnly).wallets 1).balanceAmount * Config.shipped.quotaPerUnit ≠
        ((run (WalletOp.exec Config.shipped) [.transferCommissionToBalance 1 (3 / 1000000) "t"]
          commissionOnly).users 1).quota := by
  decide +kernel

end ApiGateway
