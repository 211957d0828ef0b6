import ApiGateway.Proof.TaskRefund
import ApiGateway.Proof.Redemption

/-!
# What granted quota can buy

A debit looks at the balance of the wallet and not at `users.quota`. A redemption or a check-in
writes `users.quota` and not the balance. The only way from the quota to the balance is the
initialisation of an old account, which happens once, and only while the balance is empty.
-/

namespace ApiGateway

open Table Decimal

variable {cfg : Config} {u : Nat} {q : Int} {s s' : Store}

/-! ## The largest debit -/

/-- The next operation on the balance fills it from `users.quota`. -/
abbrev legacyInitDue (u : Nat) (s : Store) : Prop :=
  (s.wallets u).balanceAmount ≤ walletAmountEpsilon ∧
    walletFlowExistsTx s (some (.legacyBalanceInit u)) = false ∧ 0 < (s.users u).quota

/-- The debits of a user that are accepted. -/
def debitable (cfg : Config) (u : Nat) (bizNo : String) (flowType : WalletFlowType)
    (remark : String) (key : Option FlowKey) (s : Store) : Set Int :=
  { m | ∃ s', debitBalanceByQuotaTx cfg u m bizNo flowType remark key s = .ok s' }

/-- The most a user can spend at once. -/
def spendable (cfg : Config) (u : Nat) (s : Store) : Int :=
  if u = 0 then 0
  else max 0 ⌊(availableBalance cfg u s + walletAmountEpsilon) * cfg.quotaPerUnit⌋

section Debit

variable {bizNo remark : String} {flowType : WalletFlowType} {key : Option FlowKey}

theorem mem_debitable (hkey : walletFlowExistsTx s key = false) {m : Int} :
    m ∈ debitable cfg u bizNo flowType remark key s ↔ m ≤ 0 ∨
      (u ≠ 0 ∧ m ≤ ⌊(availableBalance cfg u s + walletAmountEpsilon) * cfg.quotaPerUnit⌋) := by
  by_cases hm : m ≤ 0
  · refine ⟨fun _ => .inl hm, fun _ => ⟨s, ?_⟩⟩
    simp [debitBalanceByQuotaTx, hm]
  · have hq := not_le.mp hm
    rw [Int.le_floor, ← div_le_iff₀ cfg.quotaPerUnit_pos, ← quotaToWalletAmount_of_pos hq,
      ← debitBalanceByQuotaTx_ok_iff hkey hq]
    exact ⟨.inr, fun h => h.resolve_left hm⟩

theorem spendable_isGreatest (hkey : walletFlowExistsTx s key = false) :
    IsGreatest (debitable cfg u bizNo flowType remark key s) (spendable cfg u s) := by
  unfold spendable
  by_cases hu : u = 0
  · rw [if_pos hu]
    refine ⟨(mem_debitable hkey).mpr (.inl le_rfl), fun m hm => ?_⟩
    rcases (mem_debitable hkey).mp hm with h | ⟨h, -⟩
    · exact h
    · exact absurd hu h
  rw [if_neg hu]
  refine ⟨?_, fun m hm => ?_⟩
  · rcases max_cases 0 ⌊(availableBalance cfg u s + walletAmountEpsilon) * cfg.quotaPerUnit⌋ with
      ⟨h, -⟩ | ⟨h, -⟩
    · rw [h]
      exact (mem_debitable hkey).mpr (.inl le_rfl)
    · rw [h]
      exact (mem_debitable hkey).mpr (.inr ⟨hu, le_rfl⟩)
  · rcases (mem_debitable hkey).mp hm with h | ⟨-, h⟩
    · exact le_max_of_le_left h
    · exact le_max_of_le_right h

end Debit

/-! ## Grants -/

/-- `u` was given `q`, by a code or by a check-in. -/
inductive Grants (u : Nat) (q : Int) (s s' : Store) : Prop where
  | redeemed (key : String) (now : Int) (h : redeem key u now s = .ok (q, s'))
  | checkedIn (setting : CheckinSetting) (usingSQLite : Bool) (x : CheckinInput) (c : Checkin)
      (h : userCheckin setting usingSQLite u x s = .ok (c, s')) (hq : c.quotaAwarded = q)

/-- What a grant does to the two ledgers. -/
structure QuotaOnly (u : Nat) (q : Int) (s s' : Store) : Prop where
  quota : (s'.users u).quota = (s.users u).quota + q
  wallets : s'.wallets = s.wallets
  walletFlows : s'.walletFlows = s.walletFlows

theorem Grants.quotaOnly (h : Grants u q s s') : QuotaOnly u q s s' := by
  cases h with
  | redeemed _ _ h =>
    simp only [redeem, bind_eq_ok, pure_eq_ok, Prod.exists] at h
    obtain ⟨-, -, id, r, -, heq⟩ := h
    obtain ⟨rfl, rfl⟩ := Prod.mk.inj heq
    exact ⟨by simp, rfl, rfl⟩
  | checkedIn _ _ x c h hq =>
    simp only [userCheckin, bind_eq_ok, pure_eq_ok] at h
    obtain ⟨-, -, -, -, -, -, heq⟩ := h
    obtain ⟨rfl, rfl⟩ := Prod.mk.inj heq
    subst hq
    exact ⟨by simp, rfl, rfl⟩

/-! ## What a grant adds -/

/-- Quota units that are within the tolerance of a debit. -/
def slack (cfg : Config) : Int := ⌊walletAmountEpsilon * cfg.quotaPerUnit⌋

/-- The most a user can spend whose balance is not filled from the quota. -/
def spendableBalance (cfg : Config) (u : Nat) (s : Store) : Int :=
  max 0 ⌊((s.wallets u).balanceAmount + walletAmountEpsilon) * cfg.quotaPerUnit⌋

/-- The balance is filled from the quota when it is first needed, and the grant is in time for that.
A user without quota must not have had a balance, up to the tolerance. -/
def WalletTakesGrant (cfg : Config) (u : Nat) (q : Int) (s : Store) : Prop :=
  u ≠ 0 ∧ (s.wallets u).balanceAmount ≤ walletAmountEpsilon ∧
    walletFlowExistsTx s (some (.legacyBalanceInit u)) = false ∧
    ((0 < (s.users u).quota ∧ 0 < (s.users u).quota + q) ∨
      (0 < (s.users u).quota ∧ (s.users u).quota + q ≤ 0 ∧
        (s.users u).quota + q + slack cfg = spendableBalance cfg u s) ∨
      ((s.users u).quota ≤ 0 ∧ 0 < (s.users u).quota + q ∧
        (s.users u).quota + slack cfg = spendableBalance cfg u s))

theorem slack_nonneg (cfg : Config) : 0 ≤ slack cfg := by
  refine Int.floor_nonneg.mpr (mul_nonneg ?_ cfg.quotaPerUnit_pos.le)
  norm_num [walletAmountEpsilon]

theorem spendable_of_due (hu : u ≠ 0) (h : legacyInitDue u s) :
    spendable cfg u s = (s.users u).quota + slack cfg := by
  have hfloor : ⌊(availableBalance cfg u s + walletAmountEpsilon) * cfg.quotaPerUnit⌋ =
      (s.users u).quota + slack cfg := by
    rw [availableBalance, if_pos h, add_mul, quotaToWalletAmount_mul h.2.2, Int.floor_intCast_add, slack]
  have hslack := slack_nonneg cfg
  rw [spendable]
  omega

theorem spendable_of_not_due (hu : u ≠ 0) (h : ¬ legacyInitDue u s) :
    spendable cfg u s = spendableBalance cfg u s := by
  rw [spendable, if_neg hu, availableBalance, if_neg h, spendableBalance]

theorem QuotaOnly.spendable_grows_iff (h : QuotaOnly u q s s') :
    spendable cfg u s' = spendable cfg u s + q ↔ q = 0 ∨ WalletTakesGrant cfg u q s := by
  have hflow : walletFlowExistsTx s' (some (.legacyBalanceInit u)) =
      walletFlowExistsTx s (some (.legacyBalanceInit u)) := by
    simp only [walletFlowExistsTx, h.walletFlows]
  have hsame : spendableBalance cfg u s' = spendableBalance cfg u s := by
    rw [spendableBalance, spendableBalance, h.wallets]
  have hdue : legacyInitDue u s' ↔ (s.wallets u).balanceAmount ≤ walletAmountEpsilon ∧
      walletFlowExistsTx s (some (.legacyBalanceInit u)) = false ∧ 0 < (s.users u).quota + q := by
    rw [legacyInitDue, h.wallets, hflow, h.quota]
  by_cases hu : u = 0
  · have hzero : ∀ s, spendable cfg u s = 0 := fun s => by rw [spendable, if_pos hu]
    rw [hzero, hzero]
    refine ⟨fun heq => .inl (by omega), ?_⟩
    rintro (rfl | ⟨hne, -⟩)
    · omega
    · exact absurd hu hne
  by_cases hold : legacyInitDue u s
  · obtain ⟨hlow, hfresh, hpos⟩ := hold
    rw [spendable_of_due hu ⟨hlow, hfresh, hpos⟩]
    by_cases hnew : 0 < (s.users u).quota + q
    · rw [spendable_of_due hu (hdue.mpr ⟨hlow, hfresh, hnew⟩), h.quota]
      refine ⟨fun _ => .inr ⟨hu, hlow, hfresh, .inl ⟨hpos, hnew⟩⟩, fun _ => by omega⟩
    rw [spendable_of_not_due hu (fun hd => hnew (hdue.mp hd).2.2)]
    refine ⟨fun heq => .inr ⟨hu, hlow, hfresh, .inr (.inl ⟨hpos, by omega, by omega⟩)⟩, ?_⟩
    rintro (rfl | ⟨-, -, -, hcase⟩)
    · omega
    · omega
  rw [spendable_of_not_due hu hold]
  by_cases hnew : legacyInitDue u s'
  · obtain ⟨hlow, hfresh, hpos⟩ := hdue.mp hnew
    have hzero : (s.users u).quota ≤ 0 := by
      by_contra hq
      exact hold ⟨hlow, hfresh, not_le.mp hq⟩
    rw [spendable_of_due hu hnew, h.quota]
    refine ⟨fun heq => .inr ⟨hu, hlow, hfresh, .inr (.inr ⟨hzero, hpos, by omega⟩)⟩, ?_⟩
    rintro (rfl | ⟨-, -, -, hcase⟩)
    · omega
    · omega
  · -- the balance is what it was, and the quota is not asked
    rw [spendable_of_not_due hu hnew]
    refine ⟨fun heq => .inl (by omega), ?_⟩
    rintro (rfl | ⟨-, hlow, hfresh, hcase⟩)
    · omega
    · have hq : ¬ 0 < (s.users u).quota := fun hq => hold ⟨hlow, hfresh, hq⟩
      have hq' : ¬ 0 < (s.users u).quota + q := fun hq => hnew (hdue.mpr ⟨hlow, hfresh, hq⟩)
      omega

/-- **When granted quota can be spent.** The largest debit that is accepted grows by what was
granted, if and only if nothing was granted or the wallet is still to be filled from the quota. -/
theorem granted_quota_spendable_iff {bizNo remark : String} {flowType : WalletFlowType}
    {key : Option FlowKey} (hkey : walletFlowExistsTx s key = false) (hgrant : Grants u q s s') :
    ∃ m m', IsGreatest (debitable cfg u bizNo flowType remark key s) m ∧
      IsGreatest (debitable cfg u bizNo flowType remark key s') m' ∧
      (m' = m + q ↔ q = 0 ∨ WalletTakesGrant cfg u q s) := by
  have heffect := hgrant.quotaOnly
  have hkey' : walletFlowExistsTx s' key = false := by
    cases key with
    | none => rfl
    | some => simpa only [walletFlowExistsTx, heffect.walletFlows] using hkey
  exact ⟨_, _, spendable_isGreatest hkey, spendable_isGreatest hkey', heffect.spendable_grows_iff⟩

/-- A user without quota redeems a code, and can spend what it gave. -/
theorem granted_quota_spendable_of_new_user :
    ∃ s', redeem "code" 1 0 oneCode = .ok (100, s') ∧ ∃ m m',
      IsGreatest (debitable Config.shipped 1 "" .balanceConsume "" none oneCode) m ∧
      IsGreatest (debitable Config.shipped 1 "" .balanceConsume "" none s') m' ∧
      (m' = m + 100 ↔ (100 : Int) = 0 ∨ WalletTakesGrant Config.shipped 1 100 oneCode) :=
  ⟨_, rfl, granted_quota_spendable_iff rfl (.redeemed "code" 0 rfl)⟩

def toppedUp : Store :=
  match creditBalanceByQuotaTx Config.shipped 1 1000 "topup" .rechargeBalance "" none oneCode with
  | .ok s => s
  | .error _ => oneCode

/-- **A code that buys nothing.** The user topped up before, and the balance does not grow
with the code. -/
theorem granted_quota_not_spendable :
    creditBalanceByQuotaTx Config.shipped 1 1000 "topup" .rechargeBalance "" none oneCode =
        .ok toppedUp ∧
      ∃ s', redeem "code" 1 0 toppedUp = .ok (100, s') ∧
        IsGreatest (debitable Config.shipped 1 "" .balanceConsume "" none toppedUp) 1000 ∧
        IsGreatest (debitable Config.shipped 1 "" .balanceConsume "" none s') 1000 := by
  have hcredit : creditBalanceByQuotaTx Config.shipped 1 1000 "topup" .rechargeBalance "" none
      oneCode = .ok toppedUp := by with_unfolding_all rfl
  have hredeem : redeem "code" 1 0 toppedUp = .ok (100, (toppedUp.addQuota 1 100 none).saveRedemption
      0 { key := "code", status := .used, usedUserId := 1 }) := by with_unfolding_all rfl
  have hbefore : spendable Config.shipped 1 toppedUp = 1000 := by decide +kernel
  have hafter : spendable Config.shipped 1 ((toppedUp.addQuota 1 100 none).saveRedemption
      0 { key := "code", status := .used, usedUserId := 1 }) = 1000 := by decide +kernel
  refine ⟨hcredit, _, hredeem, ?_, ?_⟩
  · rw [← hbefore]
    exact spendable_isGreatest rfl
  · rw [← hafter]
    exact spendable_isGreatest rfl

end ApiGateway
