import ApiGateway.Service.Wallet

/-!
# What each wallet operation can do

One inversion lemma for each function of `Service.Wallet`: which guards held and what the new store
is. No other module unfolds the service. The flow that is inserted matters by its key only, so it is
hidden behind `WritesFlow`.
-/

namespace ApiGateway

open Table Decimal

variable {cfg : Config} {u : Nat} {s s' : Store}
variable {q : Int} {bizNo remark : String} {flowType : WalletFlowType} {key : Option FlowKey}

/-- `s'` is `s` with a flow of this key inserted, unless one was there. -/
def WritesFlow (key : Option FlowKey) (s s' : Store) : Prop :=
  ∃ flow : WalletFlow, flow.idempotencyKey = key ∧ s' = createWalletFlowTx flow s

@[simp] theorem walletFlow_idempotencyKey (bizNo : String) (key : Option FlowKey)
    (flowType : WalletFlowType) (walletType : WalletType) (direction : WalletFlowDirection)
    (amount : ℚ) (a : WalletAccount) (remark : String) :
    (walletFlow u bizNo key flowType walletType direction amount a remark).idempotencyKey = key :=
  rfl

/-! ## Flow keys -/

theorem walletFlowExistsTx_iff {k : FlowKey} :
    walletFlowExistsTx s (some k) = true ↔ ∃ f ∈ s.walletFlows, f.idempotencyKey = some k := by
  simp [walletFlowExistsTx]

theorem walletFlowExistsTx_createWalletFlowTx {flow : WalletFlow} {k : FlowKey} :
    walletFlowExistsTx (createWalletFlowTx flow s) (some k) =
      (walletFlowExistsTx s (some k) || decide (flow.idempotencyKey = some k)) := by
  rw [Bool.eq_iff_iff, Bool.or_eq_true, decide_eq_true_eq]
  simp only [walletFlowExistsTx_iff, createWalletFlowTx_walletFlows]
  by_cases hp : walletFlowExistsTx s flow.idempotencyKey = true
  · rw [if_pos hp]
    refine ⟨Or.inl, ?_⟩
    rintro (h | h)
    · exact h
    · rw [h, walletFlowExistsTx_iff] at hp
      exact hp
  · rw [if_neg hp]
    simp

/-! ## Amounts -/

theorem quotaToWalletAmount_of_pos (h : 0 < q) :
    quotaToWalletAmount cfg q = q / cfg.quotaPerUnit := by
  simp [quotaToWalletAmount, not_le.mpr h]

theorem quotaToWalletAmount_nonneg (q : Int) : 0 ≤ quotaToWalletAmount cfg q := by
  unfold quotaToWalletAmount
  split
  · exact le_rfl
  · rename_i h
    have hq : (0 : ℚ) ≤ q := by exact_mod_cast (not_le.mp h).le
    exact div_nonneg hq cfg.quotaPerUnit_pos.le

theorem quotaToWalletAmount_mul (h : 0 < q) : quotaToWalletAmount cfg q * cfg.quotaPerUnit = q := by
  rw [quotaToWalletAmount_of_pos h]
  exact div_mul_cancel₀ _ cfg.quotaPerUnit_pos.ne'

/-! ## Inversion lemmas -/

@[simp] theorem getOrCreateWalletAccountTx_eq_ok {a : WalletAccount} :
    getOrCreateWalletAccountTx u s = .ok a ↔ u ≠ 0 ∧ s.wallets u = a := by
  simp only [getOrCreateWalletAccountTx, bind_eq_ok, failIf_eq_ok, pure_eq_ok, exists_const]

theorem skip_eq_ok {c : Prop} [Decidable c] {x : Except Err Store} :
    (if c then pure s else x) = .ok s' ↔ s' = s ∧ c ∨ ¬ c ∧ x = .ok s' := by
  by_cases hc : c
  · simp [hc, eq_comm (a := s)]
  · simp [hc]

/-- The legacy initialisation fired. -/
structure LegacyInit (cfg : Config) (u : Nat) (s s' : Store) : Prop where
  low : (s.wallets u).balanceAmount ≤ walletAmountEpsilon
  fresh : walletFlowExistsTx s (some (.legacyBalanceInit u)) = false
  quota : 0 < (s.users u).quota
  store : WritesFlow (some (.legacyBalanceInit u))
    (s.saveAccount u { s.wallets u with
      balanceAmount := quotaToWalletAmount cfg (s.users u).quota } (some (.legacyBalanceInit u))) s'

theorem ensureLegacyWalletBalanceTx_ok (h : ensureLegacyWalletBalanceTx cfg u s = .ok s') :
    u ≠ 0 ∧ (s' = s ∨ LegacyInit cfg u s s') := by
  unfold ensureLegacyWalletBalanceTx at h
  simp only [bind_eq_ok, getOrCreateWalletAccountTx_eq_ok, skip_eq_ok, pure_eq_ok] at h
  obtain ⟨a, ⟨hu, rfl⟩, ⟨rfl, -⟩ | ⟨hlow, ⟨rfl, -⟩ | ⟨hfresh, ⟨rfl, -⟩ | ⟨hq, rfl⟩⟩⟩⟩ := h
  case inr.inr.inr =>
    exact ⟨hu, .inr ⟨not_lt.mp hlow, by simpa using hfresh, not_le.mp hq, _, rfl, rfl⟩⟩
  all_goals exact ⟨hu, .inl rfl⟩

theorem creditBalanceByQuotaTx_ok
    (h : creditBalanceByQuotaTx cfg u q bizNo flowType remark key s = .ok s') :
    (s' = s ∧ (q ≤ 0 ∨ walletFlowExistsTx s key = true)) ∨
    (0 < q ∧ walletFlowExistsTx s key = false ∧ ∃ s1, ensureLegacyWalletBalanceTx cfg u s = .ok s1 ∧
      WritesFlow key ((s1.saveAccount u { s1.wallets u with
        balanceAmount := (s1.wallets u).balanceAmount + quotaToWalletAmount cfg q } key).addQuota
          u q key) s') := by
  unfold creditBalanceByQuotaTx at h
  simp only [skip_eq_ok, bind_eq_ok, pure_eq_ok] at h
  rcases h with ⟨rfl, hq⟩ | ⟨hq, ⟨rfl, hk⟩ | ⟨hk, s1, hs1, rfl⟩⟩
  · exact Or.inl ⟨rfl, Or.inl hq⟩
  · exact Or.inl ⟨rfl, Or.inr hk⟩
  · exact Or.inr ⟨not_le.mp hq, by simpa using hk, s1, hs1, _, rfl, rfl⟩

theorem debitBalanceByQuotaTx_ok
    (h : debitBalanceByQuotaTx cfg u q bizNo flowType remark key s = .ok s') :
    (s' = s ∧ (q ≤ 0 ∨ walletFlowExistsTx s key = true)) ∨
    (0 < q ∧ walletFlowExistsTx s key = false ∧ ∃ s1, ensureLegacyWalletBalanceTx cfg u s = .ok s1 ∧
      quotaToWalletAmount cfg q ≤ (s1.wallets u).balanceAmount + walletAmountEpsilon ∧
      WritesFlow key ((s1.saveAccount u { s1.wallets u with
        balanceAmount := max 0 ((s1.wallets u).balanceAmount - quotaToWalletAmount cfg q) }
          key).addQuota u (-q) key) s') := by
  unfold debitBalanceByQuotaTx at h
  simp only [skip_eq_ok, bind_eq_ok, pure_eq_ok, failIf_eq_ok] at h
  rcases h with ⟨rfl, hq⟩ | ⟨hq, ⟨rfl, hk⟩ | ⟨hk, s1, hs1, -, hb, rfl⟩⟩
  · exact Or.inl ⟨rfl, Or.inl hq⟩
  · exact Or.inl ⟨rfl, Or.inr hk⟩
  · exact Or.inr ⟨not_le.mp hq, by simpa using hk, s1, hs1, not_lt.mp hb, _, rfl, rfl⟩

/-- The silent operations refill an empty balance, or leave the store alone. -/
theorem getQiniuWalletAccountAndUserTx_ok (h : getQiniuWalletAccountAndUserTx cfg u s = .ok s') :
    u ≠ 0 ∧ (s' = s ∨ ((s.wallets u).balanceAmount ≤ walletAmountEpsilon ∧ 0 < (s.users u).quota ∧
      s' = s.saveAccount u { s.wallets u with
        balanceAmount := quotaToWalletAmount cfg (s.users u).quota } none)) := by
  unfold getQiniuWalletAccountAndUserTx at h
  simp only [bind_eq_ok, getOrCreateWalletAccountTx_eq_ok] at h
  obtain ⟨a, ⟨hu, rfl⟩, h⟩ := h
  refine ⟨hu, ?_⟩
  split at h
  · rename_i hc
    right
    exact ⟨hc.1, hc.2, (pure_eq_ok.mp h).symm⟩
  · left; exact (pure_eq_ok.mp h).symm

theorem debitBalanceByQuotaSilentlyTx_ok (h : debitBalanceByQuotaSilentlyTx cfg u q s = .ok s') :
    (s' = s ∧ q ≤ 0) ∨
    (0 < q ∧ ∃ s1, getQiniuWalletAccountAndUserTx cfg u s = .ok s1 ∧ q ≤ (s1.users u).quota ∧
      quotaToWalletAmount cfg q ≤ (s1.wallets u).balanceAmount + walletAmountEpsilon ∧
      s' = (s1.saveAccount u { s1.wallets u with
        balanceAmount := max 0 ((s1.wallets u).balanceAmount - quotaToWalletAmount cfg q) }
          none).addQuota u (-q) none) := by
  unfold debitBalanceByQuotaSilentlyTx at h
  simp only [skip_eq_ok, bind_eq_ok, pure_eq_ok, failIf_eq_ok, not_or, not_lt] at h
  rcases h with h | ⟨hq, s1, hs1, -, ⟨hu, hb⟩, rfl⟩
  · exact Or.inl h
  · exact Or.inr ⟨not_le.mp hq, s1, hs1, hu, hb, rfl⟩

theorem debitBalanceByQuotaSilentlyAllowDebtTx_ok
    (h : debitBalanceByQuotaSilentlyAllowDebtTx cfg u q s = .ok s') :
    (s' = s ∧ q ≤ 0) ∨
    (0 < q ∧ ∃ s1, getQiniuWalletAccountAndUserTx cfg u s = .ok s1 ∧
      s' = (s1.saveAccount u { s1.wallets u with
        balanceAmount := (s1.wallets u).balanceAmount - quotaToWalletAmount cfg q }
          none).addQuota u (-q) none) := by
  unfold debitBalanceByQuotaSilentlyAllowDebtTx at h
  simp only [skip_eq_ok, bind_eq_ok, pure_eq_ok] at h
  rcases h with h | ⟨hq, s1, hs1, rfl⟩
  · exact Or.inl h
  · exact Or.inr ⟨not_le.mp hq, s1, hs1, rfl⟩

theorem creditBalanceByQuotaSilentlyTx_ok (h : creditBalanceByQuotaSilentlyTx cfg u q s = .ok s') :
    (s' = s ∧ q ≤ 0) ∨
    (0 < q ∧ ∃ s1, getQiniuWalletAccountAndUserTx cfg u s = .ok s1 ∧
      s' = (s1.saveAccount u { s1.wallets u with
        balanceAmount := (s1.wallets u).balanceAmount + quotaToWalletAmount cfg q }
          none).addQuota u q none) := by
  unfold creditBalanceByQuotaSilentlyTx at h
  simp only [skip_eq_ok, bind_eq_ok, pure_eq_ok] at h
  rcases h with h | ⟨hq, s1, hs1, rfl⟩
  · exact Or.inl h
  · exact Or.inr ⟨not_le.mp hq, s1, hs1, rfl⟩

theorem creditCommissionTx_ok {amount : ℚ}
    (h : creditCommissionTx u bizNo amount flowType remark key s = .ok s') :
    (s' = s ∧ (amount ≤ 0 ∨ walletFlowExistsTx s key = true)) ∨
    (u ≠ 0 ∧ 0 < amount ∧ walletFlowExistsTx s key = false ∧
      WritesFlow key (s.saveAccount u { s.wallets u with
        commissionAmount := (s.wallets u).commissionAmount + amount
        totalCommissionAmount := (s.wallets u).totalCommissionAmount + amount } key) s') := by
  unfold creditCommissionTx at h
  simp only [skip_eq_ok, bind_eq_ok, pure_eq_ok,
    getOrCreateWalletAccountTx_eq_ok] at h
  rcases h with ⟨rfl, hq⟩ | ⟨hq, ⟨rfl, hk⟩ | ⟨hk, a, ⟨hu, rfl⟩, rfl⟩⟩
  · exact Or.inl ⟨rfl, Or.inl hq⟩
  · exact Or.inl ⟨rfl, Or.inr hk⟩
  · exact Or.inr ⟨hu, not_le.mp hq, by simpa using hk, _, rfl, rfl⟩

/-! ## What the balance operations write -/

/-- The account, the quota and the flows of user `u` are written, all under `key` but for a
refill. -/
inductive WalletWrites (u : Nat) (key : Option FlowKey) (s : Store) : Store → Prop where
  | refl : WalletWrites u key s s
  | account {s₁ : Store} {k : Option FlowKey} (h : WalletWrites u key s s₁)
      (hk : k = key ∨ k = none ∨ k = some (.legacyBalanceInit u)) (a : WalletAccount) :
      WalletWrites u key s (s₁.saveAccount u a k)
  | quota {s₁ : Store} (h : WalletWrites u key s s₁) (q : Int) :
      WalletWrites u key s (s₁.addQuota u q key)
  | flow {s₁ s₂ : Store} {k : Option FlowKey} (h : WalletWrites u key s s₁)
      (hk : k = key ∨ k = none ∨ k = some (.legacyBalanceInit u)) (hw : WritesFlow k s₁ s₂) :
      WalletWrites u key s s₂

theorem WalletWrites.post {s1 : Store} (h : WalletWrites u key s s1) (a : WalletAccount) (q : Int) :
    WalletWrites u key s ((s1.saveAccount u a key).addQuota u q key) :=
  (h.account (.inl rfl) a).quota q

theorem ensureLegacyWalletBalanceTx_writes (h : ensureLegacyWalletBalanceTx cfg u s = .ok s') :
    WalletWrites u key s s' := by
  obtain ⟨-, rfl | hinit⟩ := ensureLegacyWalletBalanceTx_ok h
  · exact .refl
  · exact .flow (.account .refl (.inr (.inr rfl)) _) (.inr (.inr rfl)) hinit.store

theorem getQiniuWalletAccountAndUserTx_writes (h : getQiniuWalletAccountAndUserTx cfg u s = .ok s') :
    WalletWrites u key s s' := by
  obtain ⟨-, rfl | ⟨-, -, rfl⟩⟩ := getQiniuWalletAccountAndUserTx_ok h
  · exact .refl
  · exact .account .refl (.inr (.inl rfl)) _

theorem creditBalanceByQuotaTx_writes
    (h : creditBalanceByQuotaTx cfg u q bizNo flowType remark key s = .ok s') :
    WalletWrites u key s s' := by
  rcases creditBalanceByQuotaTx_ok h with ⟨rfl, -⟩ | ⟨-, -, s1, hs1, hw⟩
  · exact .refl
  · exact ((ensureLegacyWalletBalanceTx_writes hs1).post _ _).flow (.inl rfl) hw

theorem debitBalanceByQuotaTx_writes
    (h : debitBalanceByQuotaTx cfg u q bizNo flowType remark key s = .ok s') :
    WalletWrites u key s s' := by
  rcases debitBalanceByQuotaTx_ok h with ⟨rfl, -⟩ | ⟨-, -, s1, hs1, -, hw⟩
  · exact .refl
  · exact ((ensureLegacyWalletBalanceTx_writes hs1).post _ _).flow (.inl rfl) hw

theorem debitBalanceByQuotaSilentlyTx_writes (h : debitBalanceByQuotaSilentlyTx cfg u q s = .ok s') :
    WalletWrites u none s s' := by
  rcases debitBalanceByQuotaSilentlyTx_ok h with ⟨rfl, -⟩ | ⟨-, s1, hs1, -, -, rfl⟩
  · exact .refl
  · exact (getQiniuWalletAccountAndUserTx_writes hs1).post _ _

theorem debitBalanceByQuotaSilentlyAllowDebtTx_writes
    (h : debitBalanceByQuotaSilentlyAllowDebtTx cfg u q s = .ok s') : WalletWrites u none s s' := by
  rcases debitBalanceByQuotaSilentlyAllowDebtTx_ok h with ⟨rfl, -⟩ | ⟨-, s1, hs1, rfl⟩
  · exact .refl
  · exact (getQiniuWalletAccountAndUserTx_writes hs1).post _ _

theorem creditBalanceByQuotaSilentlyTx_writes
    (h : creditBalanceByQuotaSilentlyTx cfg u q s = .ok s') : WalletWrites u none s s' := by
  rcases creditBalanceByQuotaSilentlyTx_ok h with ⟨rfl, -⟩ | ⟨-, s1, hs1, rfl⟩
  · exact .refl
  · exact (getQiniuWalletAccountAndUserTx_writes hs1).post _ _

/-! ## Grants and transfers -/

variable {businessKey : String}

theorem createQiniuQuotaGrantTx_eq {grantAmount : ℚ} :
    ∃ gs, createQiniuQuotaGrantTx cfg u businessKey grantAmount s = { s with quotaGrants := gs } := by
  have same : ∃ gs, s = { s with quotaGrants := gs } := ⟨s.quotaGrants, rfl⟩
  have insert : ∀ tokenId : Option Nat, ∃ gs,
      (if s.quotaGrants.any fun g => g.businessKey == businessKey then s
        else { s with quotaGrants := s.quotaGrants ++
          [{ userId := u, tokenId, businessKey, grantAmount }] }) = { s with quotaGrants := gs } := by
    intro tokenId
    split
    · exact same
    · exact ⟨_, rfl⟩
  unfold createQiniuQuotaGrantTx
  split
  · exact same
  dsimp only
  split
  · exact insert none
  · split
    · exact insert _
    · exact same

theorem createQiniuQuotaGrantTx_ite {c : Prop} {_ : Decidable c} (amount : ℚ) (s : Store) :
    ∃ gs, (if c then s else createQiniuQuotaGrantTx cfg u businessKey amount s) =
      { s with quotaGrants := gs } := by
  split
  · exact ⟨s.quotaGrants, rfl⟩
  · exact createQiniuQuotaGrantTx_eq

theorem transferCommissionToBalance_ok {amount : ℚ} {timeString : String}
    (h : transferCommissionToBalance cfg u amount timeString s = .ok s') :
    0 < amount ∧ 0 < amountToQuota cfg amount ∧
    ∃ s1 s2 gs, ensureLegacyWalletBalanceTx cfg u s = .ok s1 ∧
      WritesFlow (some (.commissionTransfer u timeString))
        ((s1.saveAccount u { s1.wallets u with
          commissionAmount := (s1.wallets u).commissionAmount - amount
          balanceAmount := (s1.wallets u).balanceAmount + amount }
          (some (.commissionTransfer u timeString))).addQuota u (amountToQuota cfg amount)
            (some (.commissionTransfer u timeString))) s2 ∧
      s' = { s2 with quotaGrants := gs } := by
  unfold transferCommissionToBalance at h
  simp only [bind_eq_ok, pure_eq_ok, failIf_eq_ok] at h
  obtain ⟨-, -, -, ha, s1, hs1, -, -, -, hq, rfl⟩ := h
  obtain ⟨gs, hgs⟩ := createQiniuQuotaGrantTx_ite amount (createWalletFlowTx _ _)
  exact ⟨not_le.mp ha, not_le.mp hq, s1, _, gs, hs1, ⟨_, rfl, rfl⟩, hgs⟩

end ApiGateway
