import ApiGateway.Proof.TopUpCommissions

/-!
# A top-up is credited exactly once

A top-up order is pending, then complete, then perhaps reversed, and callbacks arrive in any number
and any order. `OrderInv` says what the order has contributed to its payer by then. A reversal
tolerates a balance that is short of the amount by `walletAmountEpsilon`, and then stops at zero.
-/

namespace ApiGateway

open Table Decimal Runs Function

variable {cfg : Config} {no : String} {s s' : Store}
variable {o o' o0 : TopUp} {faults : CommissionFaults} {req : CompleteTopUpOrderRequest}
  {now : Int} {id u : Nat} {reason tradeNo : String} {provider : PaymentProvider}
variable {q : Int} {bizNo remark : String} {flowType : WalletFlowType} {key : Option FlowKey}

/-! ## What the two calls do -/

/-- The columns of an order that no call rewrites. -/
structure SameOrder (o o' : TopUp) : Prop where
  userId : o'.userId = o.userId
  amount : o'.amount = o.amount
  money : o'.money = o.money
  tradeNo : o'.tradeNo = o.tradeNo
  provider : o'.paymentProvider = o.paymentProvider

theorem SameOrder.trans {o1 o2 o3 : TopUp} (h : SameOrder o1 o2) (h' : SameOrder o2 o3) :
    SameOrder o1 o3 :=
  ⟨h'.userId.trans h.userId, h'.amount.trans h.amount, h'.money.trans h.money,
    h'.tradeNo.trans h.tradeNo, h'.provider.trans h.provider⟩

theorem SameOrder.quota (h : SameOrder o o') :
    calculateTopUpQuota cfg o' = calculateTopUpQuota cfg o := by
  unfold calculateTopUpQuota
  rw [h.provider, h.money, h.amount]

theorem applyTopUpSnapshotDefaults_same (o : TopUp) :
    SameOrder o (applyTopUpSnapshotDefaults cfg o q) := ⟨rfl, rfl, rfl, rfl, rfl⟩

theorem completedTopUp_same (req : CompleteTopUpOrderRequest) (now : Int) (o : TopUp) :
    SameOrder o (completedTopUp cfg req now o) := by
  unfold completedTopUp applyTopUpActualPaidAmount
  split <;> exact ⟨rfl, rfl, rfl, rfl, rfl⟩

theorem completeTopUpOrder_ok (h : completeTopUpOrder cfg faults req now s = .ok s') :
    ∃ id o, topUpRow req.tradeNo s = some (id, o) ∧
      ((o.status = .success ∧ replayCompletedTopUpTx cfg faults now id o s = s') ∨
       (o.status = .pending ∧ completePendingTopUpTx cfg faults req now id o s = .ok s')) := by
  unfold completeTopUpOrder lockTopUpTx at h
  simp only [bind_eq_ok, orFail_eq_ok] at h
  obtain ⟨-, -, ⟨id, o⟩, hrow, -, -, h⟩ := h
  refine ⟨id, o, hrow, ?_⟩
  by_cases hst : o.status = .success
  · rw [if_pos hst, pure_eq_ok] at h
    exact .inl ⟨hst, h⟩
  rw [if_neg hst] at h
  simp only [bind_eq_ok, failIf_eq_ok, not_not] at h
  obtain ⟨-, hpending, h⟩ := h
  exact .inr ⟨hpending, h⟩

theorem completePendingTopUpTx_ok (h : completePendingTopUpTx cfg faults req now id o s = .ok s') :
    0 < calculateTopUpQuota cfg o ∧ ∃ s1 gs,
      creditBalanceByQuotaTx cfg o.userId (calculateTopUpQuota cfg o) o.tradeNo .rechargeBalance
        "充值入消费余额" (some (.recharge o.tradeNo))
        (updateTopUpUserPaymentSnapshotTx o.userId req
          (s.saveTopUp id (completedTopUp cfg req now o))) = .ok s1 ∧
      s' = { settleTopUpCommissionsTx cfg faults (completedTopUp cfg req now o) now s1 with
        quotaGrants := gs } := by
  unfold completePendingTopUpTx at h
  simp only [bind_eq_ok, failIf_eq_ok, pure_eq_ok, not_le] at h
  obtain ⟨-, hq, s1, hs1, h⟩ := h
  have hsame : SameOrder o (completedTopUp cfg req now o) := completedTopUp_same req now o
  rw [hsame.userId, hsame.tradeNo] at hs1
  obtain ⟨gs, hgs⟩ := createQiniuQuotaGrantTx_ite _
    (settleTopUpCommissionsTx cfg faults (completedTopUp cfg req now o) now s1)
  exact ⟨hq, s1, gs, hs1, h.symm.trans hgs⟩

theorem reverseTopUpOrder_ok (h : reverseTopUpOrder cfg tradeNo provider reason now s = .ok s') :
    ∃ id o, topUpRow (trimSpace tradeNo) s = some (id, o) ∧
      ((o.status = .reversed ∧ s' = s) ∨
       (o.status = .success ∧ 0 < calculateTopUpQuota cfg o ∧ ∃ s1 s2,
        debitBalanceByQuotaTx cfg o.userId (calculateTopUpQuota cfg o) o.tradeNo .refundReverse
          (normalizeReverseReason reason) (some (.topupReverse o.tradeNo)) s = .ok s1 ∧
        reverseCommissionsTx .topUp o.tradeNo (normalizeReverseReason reason) now s1 = .ok s2 ∧
        s' = s2.saveTopUp id { o with status := .reversed, reversedAt := now })) := by
  unfold reverseTopUpOrder lockTopUpTx at h
  simp only [bind_eq_ok, orFail_eq_ok] at h
  obtain ⟨-, -, ⟨id, o⟩, hrow, -, -, h⟩ := h
  refine ⟨id, o, hrow, ?_⟩
  by_cases hst : o.status = .reversed
  · rw [if_pos hst, pure_eq_ok] at h
    exact .inl ⟨hst, h.symm⟩
  rw [if_neg hst] at h
  simp only [bind_eq_ok, failIf_eq_ok, pure_eq_ok, not_not, not_le] at h
  obtain ⟨-, hsuccess, -, hq, s1, hs1, s2, hs2, h⟩ := h
  exact .inr ⟨hsuccess, hq, s1, s2, hs1, hs2, h.symm⟩

/-! ## The row -/

theorem topUpRow_tradeNo (h : topUpRow no s = some (id, o)) : o.tradeNo = no := by
  have hp := (lookup_some h).2
  exact beq_iff_eq.mp hp

theorem topUpRow_saveTopUp (h : topUpRow no s = some (id, o)) (hsame : SameOrder o o') :
    topUpRow no (s.saveTopUp id o') = some (id, o') := by
  refine lookup_modify h ?_
  rw [hsame.tradeNo, topUpRow_tradeNo h]
  exact beq_self_eq_true no

theorem saveTopUp_commissionFrame :
    CommissionFrame no s (s.saveTopUp id o) := ⟨rfl, fun _ _ => rfl, fun _ _ => rfl, rfl, rfl⟩

theorem saveTopUp_sameView {other : String} (hne : other ≠ no)
    (h : s.topUps[id]? = some o) (ho : o.tradeNo = other) (hsame : SameOrder o o') :
    SameView no s (s.saveTopUp id o') := by
  refine ⟨lookup_modify_of_not h ?_ ?_, rfl, rfl, rfl⟩
  · rw [beq_eq_false_iff_ne, ho]
    exact hne
  · rw [beq_eq_false_iff_ne, hsame.tradeNo, ho]
    exact hne

/-! ## Completions -/

/-- The tables the commission rules are read from. -/
structure SameChain (s s' : Store) : Prop where
  relations : s'.userRelations = s.userRelations
  vips : s'.vipActivations = s.vipActivations
  discounts : ∀ u, (s'.users u).topupDiscount = (s.users u).topupDiscount

theorem SameChain.trans {s1 s2 s3 : Store} (h : SameChain s1 s2) (h' : SameChain s2 s3) :
    SameChain s1 s3 :=
  ⟨h'.relations.trans h.relations, h'.vips.trans h.vips,
    fun u => (h'.discounts u).trans (h.discounts u)⟩

theorem updateUser_sameChain {f : User → User} (hf : ∀ x, (f x).topupDiscount = x.topupDiscount) :
    SameChain s { s with users := update s.users u (f (s.users u)) } := by
  refine ⟨rfl, rfl, fun v => ?_⟩
  by_cases hv : v = u
  · subst hv
    simp only [update_self]
    exact hf _
  · simp [update_of_ne hv]

theorem WalletWrites.sameChain (h : WalletWrites u key s s') :
    SameChain s s' ∧ s'.topUps = s.topUps := by
  induction h with
  | refl => exact ⟨⟨rfl, rfl, fun _ => rfl⟩, rfl⟩
  | account _ _ a ih => exact ⟨ih.1.trans ⟨rfl, rfl, fun _ => rfl⟩, ih.2⟩
  | @quota _ _ q ih =>
    exact ⟨ih.1.trans ⟨rfl, rfl, (updateUser_sameChain
      (f := fun x => { x with quota := x.quota + q }) fun _ => rfl).discounts⟩, ih.2⟩
  | flow _ _ hw ih =>
    obtain ⟨-, -, rfl⟩ := hw
    exact ⟨ih.1.trans ⟨rfl, rfl, fun _ => rfl⟩, ih.2⟩

/-- A completion leaves the invariant, and records that were there or follow from the rules as they
were in `s₁`. -/
structure Settles (cfg : Config) (no : String) (o : TopUp) (s s₁ s' : Store) : Prop where
  chain : SameChain s s₁
  inv : CommissionInv no s'
  origin : ∀ r ∈ topUpRecords no s', r ∈ topUpRecords no s ∨
    ∃ rule ∈ buildTopUpCommissionRulesTx cfg s₁ o, (topUpCommissionParams s₁ o rule).Recorded r

/-- **A redelivered callback moves no money.** -/
theorem replayCompletedTopUpTx_view (hrow : topUpRow no s = some (id, o)) (h : CommissionInv no s)
    (ho' : o' = applyTopUpSnapshotDefaults cfg o (calculateTopUpQuota cfg o))
    (hx : replayCompletedTopUpTx cfg faults now id o s = s') :
    MoneyFrame no (s.saveTopUp id o') s' ∧ Settles cfg no o' s (s.saveTopUp id o') s' := by
  unfold replayCompletedTopUpTx at hx
  simp only [← ho'] at hx
  have hno : o'.tradeNo = no := by
    subst ho'
    exact topUpRow_tradeNo (o := o) hrow
  obtain ⟨hinv, hmoney, horigin⟩ := settleTopUpCommissionsTx_inv hno
    (h.frame saveTopUp_commissionFrame) hx
  exact ⟨hmoney, ⟨⟨rfl, rfl, fun _ => rfl⟩, hinv, horigin⟩⟩

/-- **The first completion credits the quota and its amount.** -/
theorem completePendingTopUpTx_view (hrow : topUpRow no s = some (id, o))
    (h : CommissionInv no s) (hfresh : topUpFlows no s (.recharge no) = false)
    (hx : completePendingTopUpTx cfg faults req now id o s = .ok s') :
    topUpRow no s' = some (id, completedTopUp cfg req now o) ∧
    topUpFlows no s' (.topupReverse no) = topUpFlows no s (.topupReverse no) ∧
    topUpQuota no s' = topUpQuota no s + calculateTopUpQuota cfg o ∧
    topUpBalance no s' =
      topUpBalance no s + quotaToWalletAmount cfg (calculateTopUpQuota cfg o) ∧
    ∃ s1, Settles cfg no (completedTopUp cfg req now o) s s1 s' := by
  obtain ⟨hq, s1, gs, hcredit, rfl⟩ := completePendingTopUpTx_ok hx
  have hno := topUpRow_tradeNo hrow
  have hsame : SameOrder o (completedTopUp cfg req now o) := completedTopUp_same req now o
  generalize completedTopUp cfg req now o = o' at hcredit hsame
  have hrow' : topUpRow no (s.saveTopUp id o') = some (id, o') := topUpRow_saveTopUp hrow hsame
  -- the payer's contact columns are none of the order's business
  have hsaved : CommissionFrame no s
      (updateTopUpUserPaymentSnapshotTx o.userId req (s.saveTopUp id o')) :=
    ⟨rfl, fun _ _ => rfl, fun _ _ => rfl, rfl, rfl⟩
  have husers : SameChain s
      (updateTopUpUserPaymentSnapshotTx o.userId req (s.saveTopUp id o')) := by
    refine ⟨rfl, rfl, ?_⟩
    exact (updateUser_sameChain (f := fun user => { user with
      stripeCustomer := if isBlank req.stripeCustomerID then user.stripeCustomer
        else trimSpace req.stripeCustomerID
      email := if isBlank req.customerEmail ∨ ¬ isBlank user.email then user.email
        else trimSpace req.customerEmail }) fun _ => rfl).discounts
  have hchain := (creditBalanceByQuotaTx_writes hcredit).sameChain.1
  rw [hno] at hcredit
  have hfresh' : topUpFlows no (updateTopUpUserPaymentSnapshotTx o.userId req
      (s.saveTopUp id o')) (.recharge no) = false := hfresh
  obtain ⟨hmove, hcomm⟩ := creditBalanceByQuotaTx_view hq hfresh' hcredit
  have hframe := hsaved.trans hcomm
  generalize hs2 : settleTopUpCommissionsTx cfg faults o' now s1 = s2
  obtain ⟨hinv, hmoney, horigin⟩ :=
    settleTopUpCommissionsTx_inv (hsame.tradeNo.trans hno) (h.frame hframe) hs2
  rw [hframe.records] at horigin
  refine ⟨?_, ?_, ?_, ?_, s1, husers.trans hchain, ?_, horigin⟩
  · exact hmoney.row.trans (hmove.row.trans hrow')
  · refine hmoney.reversal.trans ?_
    rw [hmove.flows, decide_eq_false (by simp), Bool.and_false, Bool.or_false]
    rfl
  · exact hmoney.quota.trans hmove.quota
  · exact hmoney.balance.trans hmove.balance
  · exact hinv.frame ⟨rfl, fun _ _ => rfl, fun _ _ => rfl, rfl, rfl⟩

/-! ## The invariant -/

/-- What the order has contributed, by its status. -/
inductive MoneyInv (cfg : Config) (no : String) (s : Store) (o : TopUp) : Prop
  | pending (hst : o.status = .pending) (recharge : topUpFlows no s (.recharge no) = false)
      (reversal : topUpFlows no s (.topupReverse no) = false) (quota : topUpQuota no s = 0)
      (balance : topUpBalance no s = 0)
  | success (hst : o.status = .success) (positive : 0 < calculateTopUpQuota cfg o)
      (reversal : topUpFlows no s (.topupReverse no) = false)
      (quota : topUpQuota no s = calculateTopUpQuota cfg o)
      (balance : topUpBalance no s = quotaToWalletAmount cfg (calculateTopUpQuota cfg o))
  | reversed (hst : o.status = .reversed) (settled : NoneSettled no s) (quota : topUpQuota no s = 0)
      (nonneg : 0 ≤ topUpBalance no s) (balance : topUpBalance no s ≤ walletAmountEpsilon)

/-- A complete order: its row, what it contributed, and its commissions. -/
structure OrderInv (cfg : Config) (no : String) (o₀ : TopUp) (s : Store) : Prop where
  row : ∃ id o, topUpRow no s = some (id, o) ∧ SameOrder o₀ o ∧ MoneyInv cfg no s o
  commissions : CommissionInv no s

structure FreshTopUp (no : String) (o : TopUp) (s : Store) : Prop where
  row : ∃ id, topUpRow no s = some (id, o)
  pending : o.status = .pending
  flows : ∀ k, topUpFlows no s k = false
  records : topUpRecords no s = []
  postings : topUpPostings no s = []

theorem orderInv_fresh (h : FreshTopUp no o s) : OrderInv cfg no o s := by
  obtain ⟨id, hrow⟩ := h.row
  refine ⟨⟨id, o, hrow, ⟨rfl, rfl, rfl, rfl, rfl⟩, .pending h.pending (h.flows _) (h.flows _) ?_ ?_⟩,
    ⟨?_, ?_, ?_, ?_, ?_⟩⟩
  · unfold topUpQuota
    rw [h.postings, total_nil]
  · unfold topUpBalance
    rw [h.postings, total_nil]
  · rw [h.records]
    exact List.nodup_nil
  · intro l b hl
    rw [h.flows] at hl
    cases hl
  · intro l b hl
    rw [h.flows] at hl
    cases hl
  · unfold topUpCommission
    rw [h.postings, h.records, total_nil, total_nil]
  · rw [topUpCredits_eq, h.postings, h.records]
    rfl

/-- Only a reversed order promises something about the records. -/
theorem MoneyInv.frame (h : MoneyInv cfg no s o) (hf : MoneyFrame no s s')
    (hrec : o.status = .reversed → topUpRecords no s' = topUpRecords no s) :
    MoneyInv cfg no s' o := by
  cases h with
  | pending hst h1 h2 hq hb =>
    exact .pending hst (hf.recharge.trans h1) (hf.reversal.trans h2) (hf.quota.trans hq)
      (hf.balance.trans hb)
  | success hst h₀ h2 hq hb =>
    exact .success hst h₀ (hf.reversal.trans h2) (hf.quota.trans hq) (hf.balance.trans hb)
  | reversed hst hn hq h0 hb =>
    refine .reversed hst ?_ (hf.quota.trans hq) (by rw [hf.balance]; exact h0)
      (by rw [hf.balance]; exact hb)
    unfold NoneSettled
    rw [hrec hst]
    exact hn

section

variable (h : OrderInv cfg no o0 s)

include h

theorem OrderInv.sameView (hv : SameView no s s') :
    OrderInv cfg no o0 s' := by
  obtain ⟨id, o, hrow, hsame, hmoney⟩ := h.row
  exact ⟨⟨id, o, hv.row.trans hrow, hsame, hmoney.frame hv.moneyFrame fun _ => hv.records⟩,
    h.commissions.frame hv.commissionFrame⟩

/-! ## Calls for the order -/

theorem orderInv_complete (hno : req.tradeNo = no)
    (hx : completeTopUpOrder cfg faults req now s = .ok s') :
    OrderInv cfg no o0 s' := by
  obtain ⟨id, o, hrow, hsame, hmoney⟩ := h.row
  obtain ⟨id', o', hrow', hcases⟩ := completeTopUpOrder_ok hx
  rw [hno, hrow, Option.some.injEq] at hrow'
  obtain ⟨rfl, rfl⟩ := hrow'
  rcases hcases with ⟨hst, hx⟩ | ⟨hst, hx⟩
  · have hsnap : SameOrder o (applyTopUpSnapshotDefaults cfg o (calculateTopUpQuota cfg o)) :=
      applyTopUpSnapshotDefaults_same o
    obtain ⟨hframe, hsettles⟩ := replayCompletedTopUpTx_view hrow h.commissions rfl hx
    refine ⟨⟨id, _, hframe.row.trans (topUpRow_saveTopUp hrow hsnap), hsame.trans hsnap, ?_⟩,
      hsettles.inv⟩
    cases hmoney with
    | pending hst' | reversed hst' => rw [hst] at hst'; cases hst'
    | success _ hpos hrev hq hb =>
      refine .success hst (by exact hpos) (hframe.reversal.trans hrev) ?_ ?_
      · exact hframe.quota.trans hq
      · exact hframe.balance.trans hb
  · have hdone : SameOrder o (completedTopUp cfg req now o) := completedTopUp_same req now o
    cases hmoney with
    | success hst' | reversed hst' => rw [hst] at hst'; cases hst'
    | pending _ hrecharge hrev hq hb =>
      have hpos := (completePendingTopUpTx_ok hx).1
      obtain ⟨hrow', hrev', hq', hb', s1, hsettles⟩ :=
        completePendingTopUpTx_view hrow h.commissions hrecharge hx
      refine ⟨⟨id, _, hrow', hsame.trans hdone, .success rfl (by rw [hdone.quota]; exact hpos)
        (hrev'.trans hrev) ?_ ?_⟩, hsettles.inv⟩
      · rw [hdone.quota, hq', hq, zero_add]
      · rw [hdone.quota, hb', hb, zero_add]

theorem reverseTopUpOrder_view (hrow : topUpRow no s = some (id, o)) (hst : o.status = .success)
    (hno : trimSpace tradeNo = no)
    (hx : reverseTopUpOrder cfg tradeNo provider reason now s = .ok s') :
    topUpRow no s' = some (id, { o with status := .reversed, reversedAt := now }) ∧
    CommissionInv no s' ∧ NoneSettled no s' ∧ topUpCredits no s' = topUpCredits no s ∧
    topUpQuota no s' = 0 ∧
    ∃ s1, ensureLegacyWalletBalanceTx cfg o.userId s = .ok s1 ∧
      quotaToWalletAmount cfg (calculateTopUpQuota cfg o) ≤
        (s1.wallets o.userId).balanceAmount + walletAmountEpsilon ∧
      topUpBalance no s' = max 0 (quotaToWalletAmount cfg (calculateTopUpQuota cfg o) -
        (s1.wallets o.userId).balanceAmount) := by
  obtain ⟨id', o', hrow', hcases⟩ := reverseTopUpOrder_ok hx
  rw [hno, hrow, Option.some.injEq] at hrow'
  obtain ⟨rfl, rfl⟩ := hrow'
  have htrade := topUpRow_tradeNo hrow
  obtain ⟨id', o', hrow', -, hmoney⟩ := h.row
  rw [hrow, Option.some.injEq] at hrow'
  obtain ⟨rfl, rfl⟩ := hrow'
  rcases hcases with ⟨hst', -⟩ | ⟨-, hq, s1, s2, hdebit, hrev, rfl⟩
  · rw [hst] at hst'
    cases hst'
  rw [htrade] at hdebit hrev
  cases hmoney with
  | pending hst' | reversed hst' => rw [hst] at hst'; cases hst'
  | success _ _ hfresh hquota hbalance =>
    obtain ⟨s0, hs0, hcover, hmove, hcomm⟩ := debitBalanceByQuotaTx_view hq hfresh hdebit
    obtain ⟨hinv, hframe, hnone, hcredits⟩ :=
      reverseCommissionsTx_inv (h.commissions.frame hcomm) hrev
    refine ⟨?_, hinv.frame saveTopUp_commissionFrame, hnone,
      hcredits.trans hcomm.credits, ?_, s0, hs0, hcover, ?_⟩
    · exact topUpRow_saveTopUp (hframe.row.trans (hmove.row.trans hrow)) ⟨rfl, rfl, rfl, rfl, rfl⟩
    · refine (hframe.quota.trans hmove.quota).trans ?_
      rw [hquota]
      push_cast
      ring
    -- the balance gives back what it has of the credit
    refine (hframe.balance.trans hmove.balance).trans ?_
    rw [hbalance]
    rcases le_total (quotaToWalletAmount cfg (calculateTopUpQuota cfg o))
      (s0.wallets o.userId).balanceAmount with hle | hle
    · rw [max_eq_right (sub_nonneg.mpr hle), max_eq_left (sub_nonpos.mpr hle)]
      ring
    · rw [max_eq_left (sub_nonpos.mpr hle), max_eq_right (sub_nonneg.mpr hle)]
      ring

theorem orderInv_reverse (hno : trimSpace tradeNo = no)
    (hx : reverseTopUpOrder cfg tradeNo provider reason now s = .ok s') :
    OrderInv cfg no o0 s' := by
  obtain ⟨id, o, hrow, hsame, -⟩ := h.row
  obtain ⟨id', o', hrow', hcases⟩ := reverseTopUpOrder_ok hx
  rw [hno, hrow, Option.some.injEq] at hrow'
  obtain ⟨rfl, rfl⟩ := hrow'
  rcases hcases with ⟨-, rfl⟩ | ⟨hst, -⟩
  · exact h
  obtain ⟨hrow', hinv, hnone, -, hq, s1, -, hcover, hb⟩ := reverseTopUpOrder_view h hrow hst hno hx
  refine ⟨⟨id, _, hrow', hsame.trans ⟨rfl, rfl, rfl, rfl, rfl⟩, .reversed rfl hnone hq ?_ ?_⟩, hinv⟩
  · rw [hb]
    exact le_max_left _ _
  rw [hb]
  refine max_le ?_ (by linarith)
  unfold walletAmountEpsilon
  norm_num

/-! ## Calls for other orders -/

end

theorem completeTopUpOrder_sameView (hne : req.tradeNo ≠ no)
    (hx : completeTopUpOrder cfg faults req now s = .ok s') : SameView no s s' := by
  obtain ⟨id, o, hrow, hcases⟩ := completeTopUpOrder_ok hx
  have htrade := topUpRow_tradeNo hrow
  have hget : s.topUps[id]? = some o := (lookup_some hrow).1
  rcases hcases with ⟨-, rfl⟩ | ⟨-, hx⟩
  · have hsame : SameOrder o (applyTopUpSnapshotDefaults cfg o (calculateTopUpQuota cfg o)) :=
      applyTopUpSnapshotDefaults_same o
    refine (saveTopUp_sameView hne hget htrade hsame).trans ?_
    refine settleTopUpCommissionsTx_sameView ?_ _
    rw [hsame.tradeNo, htrade]
    exact hne
  obtain ⟨-, s1, gs, hcredit, rfl⟩ := completePendingTopUpTx_ok hx
  have hsame : SameOrder o (completedTopUp cfg req now o) := completedTopUp_same req now o
  have hkey : Foreign no (some (.recharge o.tradeNo)) := by
    refine foreign_some ?_
    rw [htrade]
    simpa [FlowKey.ofTopUp] using hne
  have hsaved : SameView no s (updateTopUpUserPaymentSnapshotTx o.userId req
      (s.saveTopUp id (completedTopUp cfg req now o))) :=
    (saveTopUp_sameView hne hget htrade hsame).trans ⟨rfl, rfl, rfl, rfl⟩
  have hcredited : SameView no s s1 := hsaved.trans (WalletOp.exec_sameView
    (.creditBalanceByQuota _ _ _ _ _ _) hkey hcredit)
  refine (hcredited.trans (settleTopUpCommissionsTx_sameView ?_ s1)).trans ⟨rfl, rfl, rfl, rfl⟩
  rw [hsame.tradeNo, htrade]
  exact hne

theorem reverseCommissionsTx_topUps {sourceType : CommissionSourceType} {source : String}
    (h : reverseCommissionsTx sourceType source reason now s = .ok s') :
    s'.topUps = s.topUps := by
  refine reverseCommissionsTx_rule (R := fun s s' => s'.topUps = s.topUps) (fun _ => rfl)
    (fun h h' => h'.trans h) ?_ h
  rintro s - r id - - - - ⟨-, -, rfl⟩
  rfl

theorem reverseTopUpOrder_sameView (hne : trimSpace tradeNo ≠ no)
    (hx : reverseTopUpOrder cfg tradeNo provider reason now s = .ok s') : SameView no s s' := by
  obtain ⟨id, o, hrow, hcases⟩ := reverseTopUpOrder_ok hx
  have htrade := topUpRow_tradeNo hrow
  rcases hcases with ⟨-, rfl⟩ | ⟨-, -, s1, s2, hdebit, hrev, rfl⟩
  · exact SameView.refl no _
  have hkey : Foreign no (some (.topupReverse o.tradeNo)) := by
    refine foreign_some ?_
    rw [htrade]
    simpa [FlowKey.ofTopUp] using hne
  have hsrc : OtherSource no .topUp o.tradeNo := fun h => hne (htrade ▸ h.2)
  have hmoved : SameView no s s2 :=
    (WalletOp.exec_sameView (.debitBalanceByQuota _ _ _ _ _ _) hkey hdebit).trans
      (reverseCommissionsTx_sameView hsrc hrev)
  have hget : s2.topUps[id]? = some o := by
    rw [reverseCommissionsTx_topUps hrev, (debitBalanceByQuotaTx_writes hdebit).sameChain.2]
    exact (lookup_some hrow).1
  exact hmoved.trans (saveTopUp_sameView hne hget htrade ⟨rfl, rfl, rfl, rfl, rfl⟩)

/-! ## Runs -/

/-- Wallet operations stay off the order's keys, and whatever else happens leaves the order alone.
Calls for top-up orders are free. -/
def OnOrder (no : String) (op : TopUpOp) (s : Store) : Prop :=
  match op with
  | .completeTopUpOrder _ _ _ | .reverseTopUpOrder _ _ _ _ => True
  | .wallet op => op.foreign no
  | .other f => ∀ s', f s = .ok s' → SameView no s s'

theorem orderInv_step (op : TopUpOp) (s s' : Store) (h : OrderInv cfg no o0 s)
    (hop : OnOrder no op s) (hx : op.exec cfg s = .ok s') : OrderInv cfg no o0 s' := by
  cases op with
  | completeTopUpOrder _ req =>
    by_cases hno : req.tradeNo = no
    · exact orderInv_complete h hno hx
    · exact h.sameView (completeTopUpOrder_sameView hno hx)
  | reverseTopUpOrder tradeNo =>
    by_cases hno : trimSpace tradeNo = no
    · exact orderInv_reverse h hno hx
    · exact h.sameView (reverseTopUpOrder_sameView hno hx)
  | wallet op => exact h.sameView (op.exec_sameView hop hx)
  | other => exact h.sameView (hop s' hx)

/-- **A top-up is credited exactly once.** Whatever calls were made for the order, between whatever
other traffic: it has the quota it was placed with; while it is pending it has contributed nothing;
once it is complete its quota, and the amount of that quota to the balance; once it is reversed its
quota and its commissions are gone, and of the amount at most `walletAmountEpsilon` is left, which
the balance was short of. A call that fails changes nothing. -/
theorem topUp_credited_once {o₀ : TopUp} {ops : List TopUpOp} (hfresh : FreshTopUp no o₀ s)
    (hops : Along (TopUpOp.exec cfg) (OnOrder no) ops s)
    (ht : run (TopUpOp.exec cfg) ops s = s') :
    (∃ id o, topUpRow no s' = some (id, o) ∧
      calculateTopUpQuota cfg o = calculateTopUpQuota cfg o₀ ∧
      (o.status = .pending → topUpQuota no s' = 0 ∧ topUpBalance no s' = 0) ∧
      (o.status = .success → topUpQuota no s' = calculateTopUpQuota cfg o ∧
        topUpBalance no s' = calculateTopUpQuota cfg o / cfg.quotaPerUnit) ∧
      (o.status = .reversed → topUpQuota no s' = 0 ∧
        0 ≤ topUpBalance no s' ∧ topUpBalance no s' ≤ walletAmountEpsilon ∧
        NoneSettled no s' ∧ topUpCommission no s' = 0) ∧
      (o.status = .pending ∨ o.status = .success ∨ o.status = .reversed)) ∧
    (∀ id o tradeNo provider reason now t, topUpRow no s' = some (id, o) → o.status = .success →
      trimSpace tradeNo = no → reverseTopUpOrder cfg tradeNo provider reason now s' = .ok t →
      ∃ s₁, ensureLegacyWalletBalanceTx cfg o.userId s' = .ok s₁ ∧
        topUpBalance no t = max 0 (calculateTopUpQuota cfg o / cfg.quotaPerUnit -
          (s₁.wallets o.userId).balanceAmount)) ∧
    (∀ op e, TopUpOp.exec cfg op s' = .error e → next (TopUpOp.exec cfg) op s' = s') := by
  have hinv : OrderInv cfg no o₀ s' := by
    rw [← ht]
    exact run_induction orderInv_step (orderInv_fresh hfresh) hops
  refine ⟨?_, ?_, fun op e he => next_of_error he⟩
  · obtain ⟨id, o, hrow, hsame, hmoney⟩ := hinv.row
    refine ⟨id, o, hrow, hsame.quota, ?_⟩
    cases hmoney with
    | pending hst _ _ hq hb =>
      simp only [hst, reduceCtorEq, false_implies, true_implies, true_or, and_true]
      exact ⟨hq, hb⟩
    | success hst hpos _ hq hb =>
      simp only [hst, reduceCtorEq, false_implies, true_implies, true_or, or_true, and_true,
        true_and]
      rw [quotaToWalletAmount_of_pos hpos] at hb
      exact ⟨hq, hb⟩
    | reversed hst hnone hq h0 hb =>
      simp only [hst, reduceCtorEq, false_implies, true_implies, or_true, and_true, true_and]
      refine ⟨hq, h0, hb, hnone, hinv.commissions.net.trans (List.sum_eq_zero ?_)⟩
      intro x hx
      obtain ⟨r, hr, rfl⟩ := List.mem_map.mp hx
      exact if_neg (hnone r hr)
  · intro id o tradeNo provider reason now t hrow hst hno hx
    obtain ⟨-, -, -, -, -, s₁, hs₁, -, hb⟩ := reverseTopUpOrder_view hinv hrow hst hno hx
    have hpos : 0 < calculateTopUpQuota cfg o := by
      obtain ⟨id', o', hrow', hcases⟩ := reverseTopUpOrder_ok hx
      rw [hno, hrow, Option.some.injEq] at hrow'
      obtain ⟨rfl, rfl⟩ := hrow'
      rcases hcases with ⟨hst', -⟩ | ⟨-, hq, -⟩
      · rw [hst] at hst'
        cases hst'
      · exact hq
    rw [quotaToWalletAmount_of_pos hpos] at hb
    exact ⟨s₁, hs₁, hb⟩

/-! ### Runs of one order -/

def unitOrder : TopUp :=
  { userId := 1, amount := 1, money := 1, tradeNo := "T1", paymentProvider := .epay }

/-- The order was just placed by a user who has earned one unit of commission. -/
def placedUnitOrder : Store :=
  { topUps := [unitOrder], wallets := update (fun _ => {}) 1 { commissionAmount := 1 } }

theorem placedUnitOrder_fresh : FreshTopUp "T1" unitOrder placedUnitOrder where
  row := ⟨0, rfl⟩
  pending := rfl
  flows := fun k => by simp [topUpFlows, walletFlowExistsTx, placedUnitOrder]
  records := rfl
  postings := rfl

/-- The callback of the order, delivered twice, a commission moved to the balance and
two quota units used. -/
def usedUnitOrder : List TopUpOp :=
  [.completeTopUpOrder {} { tradeNo := "T1" } 10, .completeTopUpOrder {} { tradeNo := "T1" } 11,
   .wallet (.transferCommissionToBalance 1 (35 / 10000000) "t"),
   .wallet (.debitBalanceByQuota 1 2 "req" .balanceConsume "" none)]

theorem usedUnitOrder_onOrder {ops : List TopUpOp}
    (h : ops = usedUnitOrder ∨ ops = usedUnitOrder ++ [.reverseTopUpOrder "T1" .unset "" 12]) :
    Along (TopUpOp.exec .shipped) (OnOrder "T1") ops placedUnitOrder := by
  rcases h with rfl | rfl <;> simp [usedUnitOrder, Along, OnOrder, WalletOp.foreign, Foreign]

theorem topUp_credited_once_used :
    topUpQuota "T1" (run (TopUpOp.exec .shipped) usedUnitOrder placedUnitOrder) = 500000 ∧
    topUpBalance "T1" (run (TopUpOp.exec .shipped) usedUnitOrder placedUnitOrder) = 1 := by
  obtain ⟨⟨id, o, hrow, hquota, -, hsuccess, -⟩, -⟩ := topUp_credited_once placedUnitOrder_fresh
    (usedUnitOrder_onOrder (.inl rfl)) rfl
  have hst : (topUpRow "T1" (run (TopUpOp.exec .shipped) usedUnitOrder placedUnitOrder)).map
      (fun r => r.2.status) = some .success := by decide +kernel
  rw [hrow, Option.map_some, Option.some.injEq] at hst
  obtain ⟨hq, hb⟩ := hsuccess hst
  have hunit : calculateTopUpQuota .shipped unitOrder = 500000 := by decide +kernel
  rw [hquota, hunit] at hq hb
  exact ⟨by rw [hq]; norm_num, by rw [hb]; norm_num [Config.shipped]⟩

/-- **A reversal may leave a trace.** After two of the commission's units were used the balance is
short of the order by half a millionth, which the reversal forgives. -/
theorem reversal_leaves_tolerance :
    FreshTopUp "T1" unitOrder placedUnitOrder ∧
    Along (TopUpOp.exec .shipped) (OnOrder "T1")
      (usedUnitOrder ++ [.reverseTopUpOrder "T1" .unset "" 12]) placedUnitOrder ∧
    (topUpRow "T1" (run (TopUpOp.exec .shipped)
      (usedUnitOrder ++ [.reverseTopUpOrder "T1" .unset "" 12]) placedUnitOrder)).map
        (fun r => r.2.status) = some .reversed ∧
    topUpBalance "T1" (run (TopUpOp.exec .shipped)
      (usedUnitOrder ++ [.reverseTopUpOrder "T1" .unset "" 12]) placedUnitOrder) =
        5 / 10000000 :=
  ⟨placedUnitOrder_fresh, usedUnitOrder_onOrder (.inr rfl), by decide +kernel, by decide +kernel⟩

end ApiGateway
