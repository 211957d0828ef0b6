import ApiGateway.Proof.QiniuKeys
import ApiGateway.Proof.TopUpOrders

/-!
# Fundings and the limit of a key

A top-up or a commission transfer queues a grant in the transaction that credits the balance, a
deferred one if the user has no enabled token at that time.
When the key is created, its limit is the balance, in which the funding is contained; when the
deferred grant is applied later, the funding is counted a second time.
-/

namespace ApiGateway

open Table Decimal List Bool Store QiniuQuotaGrant KeyOp

variable {cfg : Config}
variable {faults : CommissionFaults} {req : CompleteTopUpOrderRequest} {now : Int} {u : Nat}
variable {key : Option FlowKey} {businessKey timeString : String} {store : Store} {i v : Nat}
  {t : Token} {returnBlockedError : Bool}

/-! ## What a funding leaves alone -/

/-- Tokens and grants stay, flows are only added, and nobody's quota changes but that of
the user who is funded. -/
structure KeepsKeys (funded : Option Nat) (s s' : Store) : Prop where
  tokens : s'.tokens = s.tokens
  grants : s'.quotaGrants = s.quotaGrants
  flows : s.walletFlows.length ≤ s'.walletFlows.length
  quota : ∀ v, funded ≠ some v → (s'.users v).quota = (s.users v).quota

section Frame

variable {f : Option Nat} {u : Nat} {s s' : Store}

theorem KeepsKeys.refl (s : Store) : KeepsKeys f s s := ⟨rfl, rfl, le_rfl, fun _ _ => rfl⟩

theorem KeepsKeys.trans {s1 s2 s3 : Store} (h : KeepsKeys f s1 s2) (h' : KeepsKeys f s2 s3) :
    KeepsKeys f s1 s3 :=
  ⟨h'.tokens.trans h.tokens, h'.grants.trans h.grants, h.flows.trans h'.flows,
    fun v hv => (h'.quota v hv).trans (h.quota v hv)⟩

theorem WritesFlow.keepsKeys (h : WritesFlow key s s') : KeepsKeys f s s' := by
  obtain ⟨-, -, rfl⟩ := h
  refine ⟨rfl, rfl, ?_, fun _ _ => rfl⟩
  rw [createWalletFlowTx_walletFlows]
  split
  · exact le_rfl
  · simp

theorem saveAccount_keepsKeys (a : WalletAccount) :
    KeepsKeys f s (s.saveAccount u a key) :=
  ⟨rfl, rfl, le_rfl, fun _ _ => rfl⟩

theorem addQuota_keepsKeys (q : Int) :
    KeepsKeys (some u) s (s.addQuota u q key) := by
  refine ⟨rfl, rfl, le_rfl, fun v hv => ?_⟩
  have hne : v ≠ u := fun h => hv (by rw [h])
  rw [addQuota_users, Function.update_of_ne hne]

theorem WalletWrites.keepsKeys (h : WalletWrites u key s s') : KeepsKeys (some u) s s' := by
  induction h with
  | refl => exact .refl _
  | account _ _ a ih => exact ih.trans (saveAccount_keepsKeys a)
  | quota _ q ih => exact ih.trans (addQuota_keepsKeys q)
  | flow _ _ hw ih => exact ih.trans hw.keepsKeys

theorem settleCommissionRuleTx_keepsKeys (fault : CommissionFault) (params : CreateCommissionParams) :
    KeepsKeys f s (settleCommissionRuleTx fault params now s) := by
  have hrecord : ∀ rs, KeepsKeys f s { s with commissionRecords := rs } :=
    fun _ => ⟨rfl, rfl, le_rfl, fun _ _ => rfl⟩
  rcases settleCommissionRuleTx_cases fault params now s with h | ⟨-, ⟨e, h⟩ | ⟨-, hx⟩⟩
  · rw [h]
    exact .refl s
  · rw [h]
    exact hrecord _
  rcases creditCommissionTx_ok hx with ⟨h, -⟩ | ⟨-, -, -, hw⟩
  · rw [h]
    exact hrecord _
  · exact ((hrecord _).trans (saveAccount_keepsKeys _)).trans hw.keepsKeys

theorem settleTopUpCommissionsTx_keepsKeys {topUp : TopUp} :
    KeepsKeys f s (settleTopUpCommissionsTx cfg faults topUp now s) :=
  settleTopUpCommissionsTx_rule .refl .trans faults topUp
    (fun fault params s _ _ => settleCommissionRuleTx_keepsKeys fault params) s

theorem updateTopUpUserPaymentSnapshotTx_keepsKeys :
    KeepsKeys f s (updateTopUpUserPaymentSnapshotTx u req s) := by
  refine ⟨rfl, rfl, le_rfl, fun v _ => ?_⟩
  unfold updateTopUpUserPaymentSnapshotTx
  by_cases hv : v = u
  · subst hv
    dsimp only
    rw [Function.update_self]
  · dsimp only
    rw [Function.update_of_ne hv]

end Frame

/-! ## The transactions -/

section Transactions

variable {s s' : Store}

theorem replayCompletedTopUpTx_keepsKeys (id : Nat) (topUp : TopUp) :
    KeepsKeys none s (replayCompletedTopUpTx cfg faults now id topUp s) := by
  have hsave : KeepsKeys none s (s.saveTopUp id
      (applyTopUpSnapshotDefaults cfg topUp (calculateTopUpQuota cfg topUp))) :=
    ⟨rfl, rfl, le_rfl, fun _ _ => rfl⟩
  exact hsave.trans settleTopUpCommissionsTx_keepsKeys

theorem completePendingTopUpTx_grant
    {id : Nat} {o : TopUp} (hno : ¬ isBlank o.tradeNo) (hu : o.userId ≠ 0)
    (h : completePendingTopUpTx cfg faults req now id o s = .ok s') :
    0 < quotaToWalletAmount cfg (calculateTopUpQuota cfg o) ∧
    ∃ s1, KeepsKeys (some o.userId) s s1 ∧
      s' = createQiniuQuotaGrantTx cfg o.userId ("recharge:" ++ trimSpace o.tradeNo)
        (quotaToWalletAmount cfg (calculateTopUpQuota cfg o)) s1 := by
  unfold completePendingTopUpTx at h
  simp only [bind_eq_ok, failIf_eq_ok, pure_eq_ok, not_le] at h
  obtain ⟨-, hq, s1, hs1, h⟩ := h
  have hsame : SameOrder o (completedTopUp cfg req now o) := completedTopUp_same req now o
  rw [hsame.userId, hsame.tradeNo] at hs1 h
  have hsave : KeepsKeys (some o.userId) s (s.saveTopUp id (completedTopUp cfg req now o)) :=
    ⟨rfl, rfl, le_rfl, fun _ _ => rfl⟩
  have hcredit : KeepsKeys (some o.userId) s s1 :=
    (hsave.trans updateTopUpUserPaymentSnapshotTx_keepsKeys).trans
      (creditBalanceByQuotaTx_writes hs1).keepsKeys
  have hsettle : KeepsKeys (some o.userId) s1
      (settleTopUpCommissionsTx cfg faults (completedTopUp cfg req now o) now s1) :=
    settleTopUpCommissionsTx_keepsKeys
  refine ⟨?_, _, hcredit.trans hsettle, ?_⟩
  · rw [quotaToWalletAmount_of_pos hq]
    exact div_pos (by exact_mod_cast hq) cfg.quotaPerUnit_pos
  rw [← h, createQiniuQuotaGrantForRechargeTx, if_neg]
  rintro (h | h | h)
  · exact hu h
  · exact hno h
  · exact absurd hq (not_lt.mpr h)

theorem transferCommissionToBalance_grant {amount : ℚ}
    (hnew : walletFlowExistsTx s (some (.commissionTransfer u timeString)) = false)
    (h : transferCommissionToBalance cfg u amount timeString s = .ok s') :
    0 < amount ∧ ∃ s1, KeepsKeys (some u) s s1 ∧
      s.walletFlows.length < s1.walletFlows.length ∧
      s' = createQiniuQuotaGrantTx cfg u (commissionTransferBusinessKey s1.walletFlows.length)
        amount s1 := by
  unfold transferCommissionToBalance at h
  simp only [bind_eq_ok, pure_eq_ok, failIf_eq_ok] at h
  obtain ⟨-, hu, -, hpos, s1, hs1, -, -, -, -, h⟩ := h
  have hnew1 : walletFlowExistsTx s1 (some (.commissionTransfer u timeString)) = false := by
    obtain ⟨-, rfl | hinit⟩ := ensureLegacyWalletBalanceTx_ok hs1
    · exact hnew
    · obtain ⟨flow, hkey, rfl⟩ := hinit.store
      rw [walletFlowExistsTx_createWalletFlowTx, hkey, or_eq_false_iff]
      exact ⟨hnew, by simp⟩
  have hlegacy : WalletWrites u none s s1 := ensureLegacyWalletBalanceTx_writes hs1
  -- from here on only the flow table of the credited store matters
  generalize hs2 : ((s1.saveAccount u _ _).addQuota u _ _) = s2 at h
  have hkeep : KeepsKeys (some u) s s2 := by
    rw [← hs2]
    exact (hlegacy.keepsKeys.trans (saveAccount_keepsKeys _)).trans (addQuota_keepsKeys _)
  have hnew2 : walletFlowExistsTx s2 (some (.commissionTransfer u timeString)) = false := by
    rw [← hs2]
    exact hnew1
  generalize hflow : walletFlow u _ _ _ _ _ _ _ _ = flow at h
  have hlength : (createWalletFlowTx flow s2).walletFlows.length = s2.walletFlows.length + 1 := by
    have hfirst : walletFlowExistsTx s2 flow.idempotencyKey = false := hflow ▸ hnew2
    simp [createWalletFlowTx_walletFlows, hfirst]
  refine ⟨not_le.mp hpos, createWalletFlowTx flow s2, hkeep.trans (WritesFlow.keepsKeys ⟨_, rfl, rfl⟩),
    ?_, ?_⟩
  · have := hkeep.flows
    omega
  rw [← h, hnew2, hlength, createQiniuQuotaGrantForCommissionTransferTx, if_neg]
  · rfl
  rintro (h | h | h)
  · exact hu h
  · cases h
  · exact hpos h

end Transactions

/-! ## Steps -/

section Steps

variable {s s' : KeyState}

def Store.hasEnabledToken (s : Store) (u : Nat) : Bool :=
  u != 0 && s.tokens.any fun t => t.userId == u && t.enabled

theorem hasToken_of_hasEnabledToken {s : Store} (h : s.hasEnabledToken u = true) :
    s.hasToken u = true := by
  unfold hasEnabledToken at h
  rw [and_eq_true, any_eq_true] at h
  obtain ⟨-, t, ht, huser⟩ := h
  rw [and_eq_true] at huser
  exact any_eq_true.mpr ⟨t, ht, huser.1⟩

section

variable (h : KeyInv cfg s)

include h

theorem KeyInv.withStore {f : Option Nat} (hkeep : KeepsKeys f s.store store)
    (hf : ∀ u, f = some u → s.store.hasToken u = true) :
    KeyInv cfg { s with store } := by
  have hmanaged : ∀ i t, store.ManagedToken i t ↔ s.store.ManagedToken i t := by
    intro i t
    unfold ManagedToken
    rw [hkeep.tokens]
  refine ⟨h.owner, h.known, h.setKnown, ?_, ?_, ?_⟩
  · intro key u e hown htoken he
    have htoken' : s.store.hasToken u = false := by
      rw [hasToken, ← hkeep.tokens]
      exact htoken
    have hne : f ≠ some u := by
      intro hu
      rw [hf u hu] at htoken'
      cases htoken'
    rw [h.waiting key u e hown htoken' he, qiniuBalance, qiniuBalance, hkeep.quota u hne]
  · intro g hg
    rw [hkeep.grants] at hg
    refine (h.grant g hg).mono ?_ ?_ hkeep.flows
    · intro i t ht
      rw [hkeep.tokens]
      exact ht
    · rw [hkeep.tokens]
  intro i t ht
  have hm := h.managed i t ((hmanaged i t).mp ht)
  refine ⟨hm.enabled, hm.owns, ?_, ?_, ?_⟩
  · rw [hkeep.tokens]
    exact hm.only
  · rw [hkeep.grants]
    exact hm.tracks
  · rw [hkeep.grants]
    exact hm.limit

theorem KeyInv.setKnown_funded (u : Nat) (amount : ℚ) {key : String} {e : ℚ}
    (he : entitledLimit v key (s.history ++ [.funded u amount]) = some e) :
    key ∈ s.remoteKeys := by
  rw [entitledLimit_funded, Option.map_eq_some_iff] at he
  obtain ⟨e', he', -⟩ := he
  exact h.setKnown key v e' he'

theorem KeyInv.waiting_funded (amount : ℚ) {key : String} {e : ℚ} (hu : s.store.hasToken u = true)
    (hown : s.Owns key v) (hnone : s.store.hasToken v = false)
    (he : entitledLimit v key (s.history ++ [.funded u amount]) = some e) :
    e = qiniuBalance cfg v s.store := by
  have hne : u ≠ v := by
    rintro rfl
    rw [hu] at hnone
    cases hnone
  rw [entitledLimit_funded, if_neg hne, Option.map_eq_some_iff] at he
  obtain ⟨e', he', rfl⟩ := he
  rw [add_zero]
  exact h.waiting key v e' hown hnone he'

theorem KeyInv.fund_unmanaged (amount : ℚ) (hget : s.store.tokens[i]? = some t)
    (huser : t.userId = u) (hmanaged : ¬ t.qiniuManaged = true) :
    KeyInv cfg { s with history := s.history ++ [.funded u amount] } := by
  have hu : s.store.hasToken u = true := huser ▸ hasToken_of_getElem? hget
  refine ⟨h.owner, h.known, fun _ _ _ he => h.setKnown_funded u amount he,
    fun _ _ _ hown hnone he => h.waiting_funded amount hu hown hnone he, h.grant, ?_⟩
  intro j t' ht'
  have hm := h.managed j t' ht'
  have hne : u ≠ t'.userId := by
    intro huser'
    obtain rfl := hm.only i t hget (huser.trans huser')
    rw [ht'.1, Option.some.injEq] at hget
    exact hmanaged (hget ▸ ht'.2)
  refine ⟨hm.enabled, hm.owns, hm.only, ?_, hm.limit⟩
  rw [entitledLimit_funded, hm.tracks, if_neg hne, Option.map_some, add_zero]

def fundingGrant (u i : Nat) (businessKey : String) (amount : ℚ) : QiniuQuotaGrant :=
  { userId := u, tokenId := some i, businessKey, grantAmount := amount }

variable {amount : ℚ}

theorem KeyInv.fund_managed (ht : s.store.ManagedToken i t) (huser : t.userId = u)
    (hamount : 0 < amount)
    (htransfer : ∀ n, businessKey = commissionTransferBusinessKey n →
      n ≤ s.store.walletFlows.length)
    (hbaseline : ∀ n, businessKey ≠ qiniuInitialQuotaBaselineBusinessKey n) :
    KeyInv cfg { s with
      store := { s.store with
        quotaGrants := s.store.quotaGrants ++ [fundingGrant u i businessKey amount] }
      history := s.history ++ [.funded u amount] } := by
  have hu : s.store.hasToken u = true := huser ▸ hasToken_of_getElem? ht.1
  refine ⟨h.owner, h.known, fun _ _ _ he => h.setKnown_funded u amount he,
    fun _ _ _ hown hnone he => h.waiting_funded amount hu hown hnone he, ?_, ?_⟩
  · intro g hg
    rcases mem_append.mp hg with hg | hg
    · exact (h.grant g hg).mono (fun _ _ ht => ht) le_rfl le_rfl
    · obtain rfl := mem_singleton.mp hg
      exact ⟨⟨i, t, rfl, ht, huser⟩, hamount.le, htransfer, fun n hn => absurd hn (hbaseline n)⟩
  intro j t' ht'
  have hm := h.managed j t' ht'
  have htotal : total (grantedTo j)
      (s.store.quotaGrants ++ [fundingGrant u i businessKey amount]) =
      total (grantedTo j) s.store.quotaGrants + if i = j then amount else 0 := by
    simp [grantedTo, fundingGrant]
  -- the funded user's token is the one that gets the grant
  have hiff : i = j ↔ u = t'.userId := by
    constructor
    · rintro rfl
      rw [← huser, Option.mem_unique ht.1 ht'.1]
    · intro huser'
      exact hm.only i t ht.1 (huser.trans huser')
  refine ⟨hm.enabled, hm.owns, hm.only, ?_, ?_⟩
  · rw [entitledLimit_funded, hm.tracks, Option.map_some, htotal, if_congr hiff rfl rfl]
  intro happlied
  have hij : i ≠ j := by
    rintro rfl
    cases happlied _ (mem_append_right _ mem_cons_self) rfl
  rw [htotal, if_neg hij, add_zero]
  exact hm.limit fun g hg => happlied g (mem_append_left _ hg)

/-- The grant comes at the end of a transaction. -/
theorem KeyInv.fund (hcfg : cfg.qiniuKeyLifecycleEnabled = true)
    (hkeep : KeepsKeys (some u) s.store store)
    (htoken : s.store.hasEnabledToken u = true) (hamount : 0 < amount)
    (hfresh : ∀ g ∈ s.store.quotaGrants, g.businessKey ≠ businessKey)
    (htransfer : ∀ n, businessKey = commissionTransferBusinessKey n →
      n ≤ store.walletFlows.length)
    (hbaseline : ∀ n, businessKey ≠ qiniuInitialQuotaBaselineBusinessKey n) :
    KeyInv cfg { s with
      store := createQiniuQuotaGrantTx cfg u businessKey amount store
      history := s.history ++ [.funded u amount] } := by
  have h : KeyInv cfg { s with store } := h.withStore hkeep fun v hv =>
    Option.some.inj hv ▸ hasToken_of_hasEnabledToken htoken
  have hany : ¬ (store.quotaGrants.any fun g => g.businessKey == businessKey) = true := by
    rw [any_eq_true, hkeep.grants]
    rintro ⟨g, hg, hkey⟩
    exact hfresh g hg (beq_iff_eq.mp hkey)
  have hactive : ¬ (amount ≤ 0 ∨ ¬ cfg.qiniuKeyLifecycleEnabled = true) := by
    rintro (hle | hoff)
    · exact absurd hamount (not_lt.mpr hle)
    · exact hoff hcfg
  unfold createQiniuQuotaGrantTx
  rw [if_neg hactive]
  cases hlookup : lookup (fun t : Token => t.userId == u && t.enabled) store.tokens with
  | none =>
    unfold hasEnabledToken at htoken
    rw [and_eq_true, any_eq_true, ← hkeep.tokens] at htoken
    obtain ⟨-, t, ht, hp⟩ := htoken
    rw [lookup_none hlookup t ht] at hp
    cases hp
  | some found =>
    obtain ⟨i, t⟩ := found
    obtain ⟨hget, hp⟩ := lookup_some hlookup
    rw [and_eq_true, beq_iff_eq] at hp
    dsimp only
    by_cases hmanaged : t.qiniuManaged = true
    · rw [if_pos hmanaged, if_neg hany]
      exact h.fund_managed ⟨hget, hmanaged⟩ hp.1 hamount htransfer hbaseline
    · rw [if_neg hmanaged]
      exact h.fund_unmanaged amount hget hp.1 hmanaged

/-- A funding reaches a user who has an enabled token, and the keys of its grant and of the flow
that numbers it are new. -/
def KeyOp.fundsKeyHolder (s : Store) : KeyOp → Bool
  | .completeTopUpOrder _ req _ =>
    match topUpRow req.tradeNo s with
    | none => true
    | some (_, topUp) => topUp.status == .success || (s.hasEnabledToken topUp.userId &&
        !s.quotaGrants.any fun g => g.businessKey == "recharge:" ++ trimSpace topUp.tradeNo)
  | .transferCommission u _ timeString =>
    s.hasEnabledToken u && !walletFlowExistsTx s (some (.commissionTransfer u timeString))
  | _ => true

theorem KeyInv.completeTopUpOrder (hcfg : cfg.qiniuKeyLifecycleEnabled = true)
    (hholder : (KeyOp.completeTopUpOrder faults req now).fundsKeyHolder s.store = true)
    (hx : (KeyOp.completeTopUpOrder faults req now).exec cfg s = .ok s') : KeyInv cfg s' := by
  simp only [exec, fundWith, bind_eq_ok, pure_eq_ok] at hx
  obtain ⟨store, hx, rfl⟩ := hx
  have hblank : ¬ isBlank req.tradeNo := by
    simp only [ApiGateway.completeTopUpOrder, bind_eq_ok, failIf_eq_ok] at hx
    obtain ⟨-, hblank, -⟩ := hx
    exact hblank
  obtain ⟨id, o, hrow, hcases⟩ := completeTopUpOrder_ok hx
  have htrade := topUpRow_tradeNo hrow
  have hfunding : (KeyOp.completeTopUpOrder faults req now).funding cfg s.store =
      if o.status = .success then none
      else some (o.userId, quotaToWalletAmount cfg (calculateTopUpQuota cfg o)) := by
    unfold topUpRow at hrow
    rw [funding, hrow]
    rfl
  rw [hfunding]
  rcases hcases with ⟨hst, rfl⟩ | ⟨hst, hx⟩
  · rw [if_pos hst, Option.map_none, Option.toList_none, append_nil]
    exact h.withStore (replayCompletedTopUpTx_keepsKeys id o)
      (fun v hv => absurd hv (Option.some_ne_none v).symm)
  rw [if_neg (by rw [hst]; simp), Option.map_some]
  simp only [fundsKeyHolder, hrow, hst] at hholder
  rw [or_eq_true, and_eq_true] at hholder
  obtain ⟨htoken, hfresh⟩ := hholder.resolve_left (by simp)
  have hu : o.userId ≠ 0 := by
    intro hu
    simp [hasEnabledToken, hu] at htoken
  obtain ⟨hpos, s1, hkeep, rfl⟩ := completePendingTopUpTx_grant (htrade ▸ hblank) hu hx
  refine h.fund hcfg hkeep htoken hpos ?_ ?_ ?_
  · intro g hg hkey
    rw [not_eq_true', any_eq_false] at hfresh
    exact hfresh g hg (beq_iff_eq.mpr hkey)
  · exact fun n hn => absurd hn (append_ne_of_head rfl rfl (by decide) _ _)
  · exact fun n => append_ne_of_head rfl rfl (by decide) _ _

theorem KeyInv.transferCommission (hcfg : cfg.qiniuKeyLifecycleEnabled = true)
    (hholder : (transferCommission u amount timeString).fundsKeyHolder s.store = true)
    (hx : (transferCommission u amount timeString).exec cfg s = .ok s') :
    KeyInv cfg s' := by
  simp only [exec, fundWith, bind_eq_ok, pure_eq_ok] at hx
  obtain ⟨store, hx, rfl⟩ := hx
  simp only [fundsKeyHolder, and_eq_true, not_eq_true'] at hholder
  obtain ⟨htoken, hnew⟩ := hholder
  obtain ⟨hpos, s1, hkeep, hlength, rfl⟩ := transferCommissionToBalance_grant hnew hx
  refine h.fund hcfg hkeep htoken hpos ?_ ?_ ?_
  · -- flows are numbered in order, so no earlier grant has this number
    intro g hg hkey
    have := (h.grant g hg).transfer _ hkey
    omega
  · intro n hn
    exact (toString_nat_inj ((String.append_right_inj _).mp hn)).ge
  · exact fun n => transferKey_ne_baseline _ n

end

theorem enqueueQiniuCreateTask_ok (h : enqueueQiniuCreateTask u returnBlockedError s = .ok s') :
    s' = s ∨ s' = { s with tasks := s.tasks ++ [{ userId := u }] } := by
  unfold enqueueQiniuCreateTask at h
  simp only [bind_eq_ok] at h
  obtain ⟨-, -, h⟩ := h
  split at h
  · simp only [bind_eq_ok, pure_eq_ok] at h
    obtain ⟨-, -, rfl⟩ := h
    exact .inl rfl
  split at h
  · simp only [bind_eq_ok, pure_eq_ok] at h
    obtain ⟨-, -, rfl⟩ := h
    exact .inl rfl
  · exact .inr (pure_eq_ok.mp h).symm

theorem KeyInv.enqueueTask (h : KeyInv cfg s)
    (hx : enqueueQiniuCreateTask u returnBlockedError s = .ok s') : KeyInv cfg s' := by
  rcases enqueueQiniuCreateTask_ok hx with rfl | rfl
  · exact h
  · exact h.enqueue u

/-- Every operation keeps the invariant, if the ones that fund reach users who have a token. -/
theorem KeyInv.step (hcfg : cfg.qiniuKeyLifecycleEnabled = true) (op : KeyOp) (s s' : KeyState)
    (h : KeyInv cfg s) (hholder : op.fundsKeyHolder s.store = true)
    (hx : op.exec cfg s = .ok s') : KeyInv cfg s' := by
  cases op with
  | completeTopUpOrder => exact h.completeTopUpOrder hcfg hholder hx
  | transferCommission => exact h.transferCommission hcfg hholder hx
  | enqueueDefaultKey =>
    simp only [exec, enqueueDefaultQiniuKeyCreateTask] at hx
    split at hx
    · obtain rfl := Except.ok.inj hx
      exact h
    · exact h.enqueueTask hx
  | createManagedToken => exact h.enqueueTask hx
  | executeKeyTask taskId =>
    simp only [exec, executeQiniuKeyTask, bind_eq_ok, orFail_eq_ok, pure_eq_ok] at hx
    obtain ⟨task, hget, -, -, rfl⟩ := hx
    exact (h.markTask taskId .running true).executeTask ⟨_, getElem?_modify_self hget⟩ _
  | applyGrant grantId call noted =>
    obtain rfl := Except.ok.inj hx
    exact h.applyGrant grantId call noted
  | scanGrants limit due outcome =>
    obtain rfl := Except.ok.inj hx
    exact h.scanGrants limit due outcome

end Steps

/-! ## Runs -/

theorem KeyInv.start (hgrants : store.quotaGrants = [])
    (hmanaged : ∀ t ∈ store.tokens, t.qiniuManaged = false) : KeyInv cfg { store } := by
  have hnone : ∀ key u, ¬ { store : KeyState }.Owns key u := by
    rintro - u ⟨-, task, htask, -⟩
    exact absurd htask not_mem_nil
  refine ⟨?_, ?_, ?_, ?_, ?_, ?_⟩
  · intro key u v hu
    exact absurd hu (hnone key u)
  · intro key u hu
    exact absurd hu (hnone key u)
  · intro key u e he
    exact nomatch he
  · intro key u e hu
    exact absurd hu (hnone key u)
  · intro g hg
    rw [hgrants] at hg
    exact absurd hg not_mem_nil
  intro i t ht
  have := hmanaged t (mem_of_getElem? ht.1)
  rw [ht.2] at this
  cases this

/-- When no grant of user `u` is pending or failed, the limit of their key is the balance at the
time it was first set and the fundings since. -/
def LimitTracks (u : Nat) (s : KeyState) : Prop :=
  ∀ i t, s.store.ManagedToken i t → t.userId = u →
    (∀ g ∈ s.store.quotaGrants, g.userId = u → g.remoteApplyStatus = .applied) →
    ∃ limit, entitledLimit u t.key s.history = some limit ∧ s.remoteLimit t.key = some limit

theorem KeyInv.limitTracks {s : KeyState} (h : KeyInv cfg s) (u : Nat) : LimitTracks u s := by
  rintro i t ht rfl happlied
  have hm := h.managed i t ht
  refine ⟨_, hm.tracks, hm.limit fun g hg hi => happlied g hg ?_⟩
  obtain ⟨j, t', hj, ht', huser⟩ := (h.grant g hg).token
  obtain rfl : i = j := Option.mem_unique hi hj
  rw [← huser, Option.mem_unique ht.1 ht'.1]

/-- **The limit of a key follows the fundings** in a run that funds only users who have an enabled
token: attempts may fail anywhere and be repeated in any order, and the limit is right whenever
nothing is left to apply. -/
theorem remote_limit_tracks_funding (hcfg : cfg.qiniuKeyLifecycleEnabled = true) {store : Store}
    (hgrants : store.quotaGrants = []) (hmanaged : ∀ t ∈ store.tokens, t.qiniuManaged = false)
    {ops : List KeyOp}
    (hholder : Runs.Along (KeyOp.exec cfg) (fun op s => op.fundsKeyHolder s.store = true) ops
      { store }) (u : Nat) :
    LimitTracks u (Runs.run (KeyOp.exec cfg) ops { store }) := by
  have hinv := Runs.run_induction (KeyInv.step hcfg)
    (KeyInv.start hgrants hmanaged) hholder
  exact hinv.limitTracks u


/-! ### A key that is late -/

def lifecycleConfig : Config := { Config.shipped with qiniuKeyLifecycleEnabled := true }

/-- User 1 has two units and an order over ten. -/
def tenUnitOrder : Store :=
  { users := fun _ => { quota := 1000000 }
    topUps := [{ userId := 1, amount := 10, money := 10, tradeNo := "T1", paymentProvider := .epay }] }

/-- The key is created at the third attempt; the second already set the limit. The first attempt to
apply the grant reaches the provider, and nobody hears of it. -/
def keyThenTopUp : List KeyOp :=
  [.enqueueDefaultKey 1,
   .executeKeyTask 0 false "" .noKey true,
   .executeKeyTask 0 false "sk-1" (.key (.error true) false) false,
   .executeKeyTask 0 true "" (.key .ok true) true,
   .completeTopUpOrder {} { tradeNo := "T1" } 0,
   .applyGrant 1 (.error true) false,
   .scanGrants 0 (fun _ => true) (fun _ => (.ok, true))]

/-- The balance of two units when the limit was first set, and the ten that were granted. -/
theorem remote_limit_tracks_funding_ten :
    LimitTracks 1 (Runs.run (KeyOp.exec lifecycleConfig) keyThenTopUp { store := tenUnitOrder }) ∧
    (Runs.run (KeyOp.exec lifecycleConfig) keyThenTopUp { store := tenUnitOrder }).remoteLimit
      "sk-1" = some 12 :=
  ⟨remote_limit_tracks_funding rfl rfl (by decide) (by decide +kernel) 1, by decide +kernel⟩

/-- The provider is down when the user registers, and the order is completed before the key
is created. -/
def topUpThenKey : List KeyOp :=
  [.enqueueDefaultKey 1,
   .executeKeyTask 0 false "" .noKey true,
   .completeTopUpOrder {} { tradeNo := "T1" } 0,
   .executeKeyTask 0 false "sk-1" (.key .ok true) true,
   .scanGrants 0 (fun _ => true) (fun _ => (.ok, true))]

/-- The limit was first set to the balance of twelve units, and is twenty-two: the order is in the
balance, and in the deferred grant. -/
theorem deferred_grant_counts_twice :
    ¬ LimitTracks 1
      (Runs.run (KeyOp.exec lifecycleConfig) topUpThenKey { store := tenUnitOrder }) := by
  intro h
  generalize hs : Runs.run (KeyOp.exec lifecycleConfig) topUpThenKey { store := tenUnitOrder } = s
    at h
  have htoken : s.store.tokens[0]?.map (fun t => (t.userId, t.key, t.qiniuManaged)) =
      some (1, "sk-1", true) := by
    rw [← hs]
    decide +kernel
  have happlied : ∀ g ∈ s.store.quotaGrants, g.userId = 1 → g.remoteApplyStatus = .applied := by
    rw [← hs]
    decide +kernel
  have hentitled : entitledLimit 1 "sk-1" s.history = some 12 := by
    rw [← hs]
    decide +kernel
  have hlimit : s.remoteLimit "sk-1" = some 22 := by
    rw [← hs]
    decide +kernel
  obtain ⟨t, hget, ht⟩ := Option.map_eq_some_iff.mp htoken
  simp only [Prod.mk.injEq] at ht
  obtain ⟨limit, h₁, h₂⟩ := h 0 t ⟨hget, ht.2.2⟩ ht.1 happlied
  rw [ht.2.1, hentitled] at h₁
  rw [ht.2.1, hlimit, ← h₁] at h₂
  exact absurd h₂ (by decide)

end ApiGateway
