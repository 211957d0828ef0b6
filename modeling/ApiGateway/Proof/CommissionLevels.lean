import ApiGateway.Proof.TopUpOrders

/-!
# At most one commission for each level

A completed top-up pays its payer's parent and that user's parent, each from the spread of their
discounts. The two spreads telescope, so together they stay below the amount paid.

A redelivered callback settles the order again, with the relations as they are by then, and
duplicates are recognised by level *and beneficiary*. So the bound carries over as long as each
redelivery finds the parents, and the parent's discount, that the others find (`SameParents`).
-/

namespace ApiGateway

open Table Decimal Runs List Option CommissionRecord

variable {cfg : Config} {no : String} {s s' : Store}
variable {p1 p2 : Nat} {o o0 : TopUp} {d1 : ℚ}
variable {rule : CommissionLevelRule} {now : Int}

/-! ## The rules of one settlement -/

theorem normalizeCommissionDiscount_pos (d : ℚ) : 0 < normalizeCommissionDiscount d := by
  unfold normalizeCommissionDiscount
  split
  · exact one_pos
  · rename_i h
    rw [not_or, not_le] at h
    exact h.1

theorem normalizeCommissionDiscount_le_one (d : ℚ) : normalizeCommissionDiscount d ≤ 1 := by
  unfold normalizeCommissionDiscount
  split
  · exact le_rfl
  · rename_i h
    rw [not_or, not_lt] at h
    exact h.2

theorem buildTopUpDiscountSpreadRule_some {level beneficiary : Nat} {base down up : ℚ}
    (h : buildTopUpDiscountSpreadRule level base down up beneficiary = some rule) :
    rule.level = level ∧ rule.beneficiary = beneficiary ∧
      rule.amount = base * (normalizeCommissionDiscount down - normalizeCommissionDiscount up) := by
  unfold buildTopUpDiscountSpreadRule at h
  dsimp only at h
  split at h
  · cases h
  split at h
  · cases h
  · rw [some.injEq] at h
    subst h
    exact ⟨rfl, rfl, rfl⟩

/-- The parents of user `u`, and the parent's discount, as far as they earn anything. -/
def SameParents (u p₁ : Nat) (d₁ : ℚ) (p₂ : Nat) (s : Store) : Prop :=
  ∀ p, activeParentTx s u = some p → isUserActiveVvipTx s p = true →
    p = p₁ ∧ getEffectiveUserTopupDiscountTx s p = d₁ ∧
    ∀ q, activeParentTx s p = some q → isUserActiveVvipTx s q = true → q = p₂

instance decidableSameParents (u p₁ : Nat) (d₁ : ℚ) (p₂ : Nat) (s : Store) :
    Decidable (SameParents u p₁ d₁ p₂ s) :=
  inferInstanceAs (Decidable (∀ p ∈ activeParentTx s u, isUserActiveVvipTx s p = true →
    p = p₁ ∧ getEffectiveUserTopupDiscountTx s p = d₁ ∧
    ∀ q ∈ activeParentTx s p, isUserActiveVvipTx s q = true → q = p₂))

theorem SameParents.of_sameChain {u : Nat} (h : SameParents u p1 d1 p2 s)
    (hc : SameChain s s') : SameParents u p1 d1 p2 s' := by
  have hparent : ∀ v, activeParentTx s' v = activeParentTx s v := by
    intro v
    unfold activeParentTx
    rw [hc.relations]
  have hvip : ∀ v, isUserActiveVvipTx s' v = isUserActiveVvipTx s v := by
    intro v
    unfold isUserActiveVvipTx
    rw [hc.vips]
  have hdiscount : ∀ v, getEffectiveUserTopupDiscountTx s' v =
      getEffectiveUserTopupDiscountTx s v := by
    intro v
    unfold getEffectiveUserTopupDiscountTx
    rw [hc.discounts]
  intro p hp hv
  rw [hparent] at hp
  rw [hvip] at hv
  obtain ⟨h1, h2, h3⟩ := h p hp hv
  refine ⟨h1, (hdiscount p).trans h2, fun q hq hvq => ?_⟩
  rw [hparent] at hq
  rw [hvip] at hvq
  exact h3 q hq hvq

/-- A credit of the order: level 1 for the parent, up to the spread above the parent's discount, or
level 2 for the grandparent, up to that discount. -/
def CreditBound (p₁ : Nat) (d₁ : ℚ) (p₂ : Nat) (paid : ℚ) (c : Nat × Nat × ℚ) : Prop :=
  (c.1 = 1 ∧ c.2.1 = p₁ ∧
    (0 < paid → c.2.2 ≤ paid * (1 - normalizeCommissionDiscount d₁))) ∨
  (c.1 = 2 ∧ c.2.1 = p₂ ∧ (0 < paid → c.2.2 ≤ paid * normalizeCommissionDiscount d₁))

/-- **The spreads of one settlement telescope.** -/
theorem buildTopUpCommissionRulesTx_bound (h : SameParents o.userId p1 d1 p2 s)
    (hrule : rule ∈ buildTopUpCommissionRulesTx cfg s o) :
    CreditBound p1 d1 p2 o.paidAmount (rule.level, rule.beneficiary, rule.amount) := by
  have hbase : 0 < o.paidAmount → topUpCommissionBaseAmount o = o.paidAmount := by
    intro hpos
    unfold topUpCommissionBaseAmount
    rw [if_pos hpos]
  unfold buildTopUpCommissionRulesTx at hrule
  dsimp only at hrule
  split at hrule
  · cases hrule
  split at hrule
  · cases hrule
  split at hrule
  · cases hrule
  rename_i p hp
  split at hrule
  · rename_i hvip
    obtain ⟨rfl, hd, hnext⟩ := h p hp hvip
    rw [hd, mem_append, mem_toList, mem_toList] at hrule
    rcases hrule with hrule | hrule
    · -- level 1: from the payer's discount, at most 1
      obtain ⟨hl, hb, ha⟩ := buildTopUpDiscountSpreadRule_some hrule
      refine .inl ⟨hl, hb, fun hpos => ?_⟩
      rw [ha, hbase hpos]
      have := normalizeCommissionDiscount_le_one (topUpCommissionSourceDiscountTx s o)
      exact mul_le_mul_of_nonneg_left (by linarith) hpos.le
    -- level 2: down to the grandparent's discount, above 0
    unfold buildTopUpLevel2Rule at hrule
    split at hrule
    · cases hrule
    rename_i q hq
    split at hrule
    · rename_i hvipq
      obtain ⟨hl, hb, ha⟩ := buildTopUpDiscountSpreadRule_some hrule
      refine .inr ⟨hl, hb.trans (hnext q hq hvipq), fun hpos => ?_⟩
      rw [ha, hbase hpos]
      have := normalizeCommissionDiscount_pos (getEffectiveUserTopupDiscountTx s q)
      exact mul_le_mul_of_nonneg_left (by linarith) hpos.le
    · cases hrule
  · cases hrule

/-! ## The invariant -/

/-- The paid amount of a completed order is settled: later calls leave it alone. -/
def PaidFixed (o : TopUp) : Prop := 0 < o.paidAmount ∨ o.paidAmount = o.money

theorem completedTopUp_paidFixed (req : CompleteTopUpOrderRequest) :
    PaidFixed (completedTopUp cfg req now o) := by
  unfold PaidFixed completedTopUp applyTopUpActualPaidAmount applyTopUpSnapshotDefaults
  split
  · dsimp only
    split
    · exact .inr rfl
    · rename_i h
      exact .inl (not_le.mp h)
  · rename_i h
    exact .inl (not_le.mp h)

/-- The credits of the order so far, by the status of its row. -/
structure LevelInv (cfg : Config) (no : String) (o₀ : TopUp) (p₁ : Nat) (d₁ : ℚ) (p₂ : Nat)
    (s : Store) : Prop where
  order : OrderInv cfg no o₀ s
  unpaid : ∀ id o, topUpRow no s = some (id, o) → o.status = .pending → topUpCredits no s = []
  fixed : ∀ id o, topUpRow no s = some (id, o) → o.status ≠ .pending → PaidFixed o
  bound : ∀ id o, topUpRow no s = some (id, o) → ∀ c ∈ topUpCredits no s,
    CreditBound p₁ d₁ p₂ o.paidAmount c

theorem levelInv_fresh (h : FreshTopUp no o s) : LevelInv cfg no o p1 d1 p2 s := by
  have hnil : topUpCredits no s = [] := by
    rw [topUpCredits_eq, h.postings]
    rfl
  refine ⟨orderInv_fresh h, fun _ _ _ _ => hnil, ?_, ?_⟩
  · intro id o' hrow hst
    obtain ⟨id', hrow'⟩ := h.row
    rw [hrow', some.injEq] at hrow
    obtain ⟨-, rfl⟩ := hrow
    exact absurd h.pending hst
  · intro _ _ _ c hc
    rw [hnil] at hc
    cases hc

theorem LevelInv.sameView (h : LevelInv cfg no o0 p1 d1 p2 s) (hv : SameView no s s') :
    LevelInv cfg no o0 p1 d1 p2 s' := by
  have hcredits := hv.commissionFrame.credits
  refine ⟨h.order.sameView hv, ?_, ?_, ?_⟩
  · intro id o hrow hst
    rw [hcredits]
    exact h.unpaid id o (hv.row ▸ hrow) hst
  · intro id o hrow hst
    exact h.fixed id o (hv.row ▸ hrow) hst
  · intro id o hrow c hc
    rw [hcredits] at hc
    exact h.bound id o (hv.row ▸ hrow) c hc

/-- The credits after a completion: the old ones, or new ones within the bound. -/
theorem Settles.credits_bound {s1 : Store}
    (hinv : CommissionInv no s) (h : Settles cfg no o s s1 s')
    (hp : SameParents o.userId p1 d1 p2 s) :
    ∀ c ∈ topUpCredits no s', c ∈ topUpCredits no s ∨ CreditBound p1 d1 p2 o.paidAmount c := by
  intro c hc
  rw [h.inv.credits] at hc
  obtain ⟨r, hr, hpaid⟩ := mem_filterMap.mp hc
  rcases h.origin r hr with hr | ⟨rule, hrule, hlevel, hben, hamount⟩
  · left
    rw [hinv.credits]
    exact mem_filterMap.mpr ⟨r, hr, hpaid⟩
  right
  have hbound := buildTopUpCommissionRulesTx_bound (hp.of_sameChain h.chain) hrule
  have hcr : c = (r.level, r.beneficiaryUserId, r.amount) := by
    unfold paid at hpaid
    split at hpaid
    · exact (some.inj hpaid).symm
    · cases hpaid
  rw [hcr, hlevel, hben, hamount]
  exact hbound

theorem levelInv_complete {faults : CommissionFaults}
    {req : CompleteTopUpOrderRequest} (h : LevelInv cfg no o0 p1 d1 p2 s)
    (hno : req.tradeNo = no) (hp : SameParents o0.userId p1 d1 p2 s)
    (hx : completeTopUpOrder cfg faults req now s = .ok s') :
    LevelInv cfg no o0 p1 d1 p2 s' := by
  have horder := orderInv_complete h.order hno hx
  obtain ⟨id, o, hrow, hsame, hmoney⟩ := h.order.row
  obtain ⟨id', o', hrow', hcases⟩ := completeTopUpOrder_ok hx
  rw [hno, hrow, some.injEq] at hrow'
  obtain ⟨rfl, rfl⟩ := hrow'
  -- it is enough to know the new row and to bound its credits
  have hnew : ∀ o', topUpRow no s' = some (id, o') → o'.status = .success → PaidFixed o' →
      (∀ c ∈ topUpCredits no s', CreditBound p1 d1 p2 o'.paidAmount c) →
      LevelInv cfg no o0 p1 d1 p2 s' := by
    intro o' hrow' hst hfixed hbound
    refine ⟨horder, ?_, ?_, ?_⟩ <;> intro id'' o'' hrow'' <;>
      rw [hrow', some.injEq] at hrow'' <;> obtain ⟨-, rfl⟩ := hrow''
    · intro hst'
      rw [hst] at hst'
      cases hst'
    · exact fun _ => hfixed
    · exact hbound
  rcases hcases with ⟨hst, hx⟩ | ⟨hst, hx⟩
  · have hsnap : SameOrder o (applyTopUpSnapshotDefaults cfg o (calculateTopUpQuota cfg o)) :=
      applyTopUpSnapshotDefaults_same o
    have hfixed := h.fixed id o hrow (by rw [hst]; simp)
    have hpaid : (applyTopUpSnapshotDefaults cfg o (calculateTopUpQuota cfg o)).paidAmount =
        o.paidAmount := by
      unfold applyTopUpSnapshotDefaults
      dsimp only
      split
      · exact (hfixed.resolve_left (not_lt.mpr ‹_›)).symm
      · rfl
    obtain ⟨hframe, hsettles⟩ := replayCompletedTopUpTx_view hrow h.order.commissions rfl hx
    refine hnew _ (hframe.row.trans (topUpRow_saveTopUp hrow hsnap)) hst ?_ ?_
    · unfold PaidFixed
      rw [hpaid]
      exact hfixed
    intro c hc
    have hp' : SameParents (applyTopUpSnapshotDefaults cfg o
        (calculateTopUpQuota cfg o)).userId p1 d1 p2 s := by
      rw [hsnap.userId, hsame.userId]
      exact hp
    rcases hsettles.credits_bound h.order.commissions hp' c hc with hc | hc
    · rw [hpaid]
      exact h.bound id o hrow c hc
    · exact hc
  · have hdone : SameOrder o (completedTopUp cfg req now o) := completedTopUp_same req now o
    cases hmoney with
    | success hst' | reversed hst' => rw [hst] at hst'; cases hst'
    | pending _ hrecharge =>
      obtain ⟨hrow', -, -, -, s1, hsettles⟩ :=
        completePendingTopUpTx_view hrow h.order.commissions hrecharge hx
      refine hnew _ hrow' rfl (completedTopUp_paidFixed req) ?_
      intro c hc
      have hp' : SameParents (completedTopUp cfg req now o).userId p1 d1 p2 s := by
        rw [hdone.userId, hsame.userId]
        exact hp
      rcases hsettles.credits_bound h.order.commissions hp' c hc with hc | hc
      · rw [h.unpaid id o hrow hst] at hc
        cases hc
      · exact hc

theorem levelInv_reverse {tradeNo reason : String}
    {provider : PaymentProvider} (h : LevelInv cfg no o0 p1 d1 p2 s)
    (hno : trimSpace tradeNo = no)
    (hx : reverseTopUpOrder cfg tradeNo provider reason now s = .ok s') :
    LevelInv cfg no o0 p1 d1 p2 s' := by
  have horder := orderInv_reverse h.order hno hx
  obtain ⟨id, o, hrow, hcases⟩ := reverseTopUpOrder_ok hx
  rw [hno] at hrow
  rcases hcases with ⟨-, rfl⟩ | ⟨hst, -⟩
  · exact h
  obtain ⟨hrow', -, -, hcredits, -⟩ := reverseTopUpOrder_view h.order hrow hst hno hx
  refine ⟨horder, ?_, ?_, ?_⟩ <;> intro id'' o'' hrow'' <;>
    rw [hrow', some.injEq] at hrow'' <;> obtain ⟨-, rfl⟩ := hrow''
  · intro hst'
    cases hst'
  · intro _
    exact h.fixed id o hrow (by rw [hst]; simp)
  · intro c hc
    rw [hcredits] at hc
    exact h.bound id o hrow c hc

/-! ## Runs -/

/-- Every completion of the order finds the same parents. -/
def OnChain (no : String) (u p₁ : Nat) (d₁ : ℚ) (p₂ : Nat) (op : TopUpOp) (s : Store) : Prop :=
  OnOrder no op s ∧
  match op with
  | .completeTopUpOrder _ req _ => req.tradeNo = no → SameParents u p₁ d₁ p₂ s
  | _ => True

theorem levelInv_step (op : TopUpOp) (s s' : Store)
    (h : LevelInv cfg no o0 p1 d1 p2 s) (hop : OnChain no o0.userId p1 d1 p2 op s)
    (hx : op.exec cfg s = .ok s') : LevelInv cfg no o0 p1 d1 p2 s' := by
  cases op with
  | completeTopUpOrder _ req =>
    by_cases hno : req.tradeNo = no
    · exact levelInv_complete h hno (hop.2 hno) hx
    · exact h.sameView (completeTopUpOrder_sameView hno hx)
  | reverseTopUpOrder tradeNo =>
    by_cases hno : trimSpace tradeNo = no
    · exact levelInv_reverse h hno hx
    · exact h.sameView (reverseTopUpOrder_sameView hno hx)
  | wallet op => exact h.sameView (op.exec_sameView hop.1 hx)
  | other => exact h.sameView (hop.1 s' hx)

theorem CommissionInv.credits_nodup (h : CommissionInv no s) :
    ((topUpCredits no s).map fun c => (c.1, c.2.1)).Nodup := by
  have hsub : ((topUpCredits no s).map fun c => (c.1, c.2.1)).Sublist
      ((topUpRecords no s).map slot) := by
    rw [h.credits, map_filterMap]
    induction topUpRecords no s with
    | nil => exact List.Sublist.slnil
    | cons r _ ih =>
      rw [filterMap_cons]
      unfold paid
      split
      · exact ih.cons _
      rename_i hb
      split at hb
      · rw [map_some, some.injEq] at hb
        subst hb
        exact ih.cons_cons _
      · cases hb
  exact h.unique.sublist hsub

def creditsOfLevel (no : String) (l : Nat) (s : Store) : List (Nat × Nat × ℚ) :=
  (topUpCredits no s).filter fun c => c.1 == l

/-- **At most one commission for each level, and no more than was paid.** As long as the completions
of an order find the same parents, all redeliveries together credit at most one level-1 and one
level-2 commission, and the two stay within the amount paid. -/
theorem commission_once_per_level {o₀ : TopUp} {p₁ p₂ : Nat} {d₁ : ℚ} {ops : List TopUpOp}
    (hfresh : FreshTopUp no o₀ s)
    (hops : Along (TopUpOp.exec cfg) (OnChain no o₀.userId p₁ d₁ p₂) ops s)
    (ht : run (TopUpOp.exec cfg) ops s = s') :
    (creditsOfLevel no 1 s').length ≤ 1 ∧ (creditsOfLevel no 2 s').length ≤ 1 ∧
    (∀ c ∈ topUpCredits no s', c.1 = 1 ∨ c.1 = 2) ∧
    ∀ id o, topUpRow no s' = some (id, o) → 0 < o.paidAmount →
      total (fun c => c.2.2) (topUpCredits no s') ≤ o.paidAmount := by
  have hinv : LevelInv cfg no o₀ p₁ d₁ p₂ s' := by
    rw [← ht]
    exact run_induction levelInv_step (levelInv_fresh hfresh) hops
  obtain ⟨id, o, hrow, -⟩ := hinv.order.row
  have hbound := hinv.bound id o hrow
  have hnodup := hinv.order.commissions.credits_nodup
  -- all credits of a level are in one slot
  have hslot : ∀ l b, (∀ c ∈ topUpCredits no s', c.1 = l → c.2.1 = b) →
      (creditsOfLevel no l s').length ≤ 1 := by
    intro l b hb
    refine length_le_one_of_slot (hnodup.sublist (filter_sublist.map _)) (b := (l, b)) ?_
    intro c hc
    obtain ⟨hmem, hl⟩ := mem_filter.mp hc
    exact Prod.ext (beq_iff_eq.mp hl) (hb c hmem (beq_iff_eq.mp hl))
  have h₁ : (creditsOfLevel no 1 s').length ≤ 1 := by
    refine hslot 1 p₁ fun c hc hl => ?_
    rcases hbound c hc with ⟨-, hb, -⟩ | ⟨hl', -⟩
    · exact hb
    · omega
  have h₂ : (creditsOfLevel no 2 s').length ≤ 1 := by
    refine hslot 2 p₂ fun c hc hl => ?_
    rcases hbound c hc with ⟨hl', -⟩ | ⟨-, hb, -⟩
    · omega
    · exact hb
  refine ⟨h₁, h₂, fun c hc => (hbound c hc).imp And.left And.left, ?_⟩
  intro id' o' hrow' hpaid
  rw [hrow, some.injEq] at hrow'
  obtain ⟨-, rfl⟩ := hrow'
  have hD₀ := normalizeCommissionDiscount_pos d₁
  have hD₁ := normalizeCommissionDiscount_le_one d₁
  have hsum₁ : total (fun c => c.2.2) (creditsOfLevel no 1 s') ≤
      o.paidAmount * (1 - normalizeCommissionDiscount d₁) := by
    refine total_le_of_length_le_one h₁ (mul_nonneg hpaid.le (by linarith)) fun c hc => ?_
    obtain ⟨hmem, hl⟩ := mem_filter.mp hc
    rcases hbound c hmem with ⟨-, -, ha⟩ | ⟨hl', -⟩
    · exact ha hpaid
    · rw [beq_iff_eq] at hl
      omega
  have hrest : (topUpCredits no s').filter (fun c => !(c.1 == 1)) = creditsOfLevel no 2 s' := by
    refine filter_congr fun c hc => ?_
    rcases hbound c hc with ⟨hl, -⟩ | ⟨hl, -⟩ <;> simp [hl]
  have hsum₂ : total (fun c => c.2.2) (creditsOfLevel no 2 s') ≤
      o.paidAmount * normalizeCommissionDiscount d₁ := by
    refine total_le_of_length_le_one h₂ (mul_nonneg hpaid.le hD₀.le) fun c hc => ?_
    obtain ⟨hmem, hl⟩ := mem_filter.mp hc
    rcases hbound c hmem with ⟨hl', -⟩ | ⟨-, -, ha⟩
    · rw [beq_iff_eq] at hl
      omega
    · exact ha hpaid
  calc total (fun c => c.2.2) (topUpCredits no s')
      = total (fun c => c.2.2) (creditsOfLevel no 1 s') +
          total (fun c => c.2.2) (creditsOfLevel no 2 s') := by
        rw [← hrest]
        exact total_filter_add.symm
    _ ≤ o.paidAmount * (1 - normalizeCommissionDiscount d₁) +
          o.paidAmount * normalizeCommissionDiscount d₁ := add_le_add hsum₁ hsum₂
    _ = o.paidAmount := by ring

/-! ### Moving a payer to another parent -/

theorem createActiveUserRelationTx_sameView {parent child : Nat}
    (h : createActiveUserRelationTx parent child s = .ok s') : SameView no s s' := by
  unfold createActiveUserRelationTx at h
  simp only [bind_eq_ok, pure_eq_ok] at h
  obtain ⟨-, -, -, -, -, -, -, -, rfl⟩ := h
  exact ⟨rfl, rfl, rfl, rfl⟩

def hundredOrder : TopUp :=
  { userId := 3, amount := 100, money := 100, tradeNo := "T1", paymentProvider := .epay }

/-- User 3 has user 1 as parent; users 1 and 2 are partners who top up at a tenth. -/
def referredOrder : Store :=
  { topUps := [hundredOrder]
    users := fun u => { topupDiscount := if u = 3 then none else some (1 / 10) }
    vipActivations := [{ userId := 1, status := .success, activatedAt := 1 },
      { userId := 2, status := .success, activatedAt := 1 }]
    userRelations := [{ parentUserId := 1, childUserId := 3 }] }

theorem referredOrder_fresh : FreshTopUp "T1" hundredOrder referredOrder where
  row := ⟨0, rfl⟩
  pending := rfl
  flows := fun k => by simp [topUpFlows, walletFlowExistsTx, referredOrder]
  records := rfl
  postings := rfl

theorem commission_once_per_level_redelivered :
    (creditsOfLevel "T1" 1 (run (TopUpOp.exec .shipped)
      [.completeTopUpOrder {} { tradeNo := "T1" } 10,
       .completeTopUpOrder {} { tradeNo := "T1" } 11] referredOrder)).length ≤ 1 := by
  have hops : Along (TopUpOp.exec .shipped) (OnChain "T1" hundredOrder.userId 1 (1 / 10) 2)
      [.completeTopUpOrder {} { tradeNo := "T1" } 10,
       .completeTopUpOrder {} { tradeNo := "T1" } 11] referredOrder :=
    ⟨⟨trivial, fun _ => by decide +kernel⟩, ⟨trivial, fun _ => by decide +kernel⟩, trivial⟩
  exact (commission_once_per_level referredOrder_fresh hops rfl).1

/-- The callback is redelivered after user 3 was moved from user 1 to user 2. -/
def movedBetweenCallbacks : List TopUpOp :=
  [.completeTopUpOrder {} { tradeNo := "T1" } 10, .other (disableUserRelationById 0),
   .other (createActiveUserRelationTx 2 3), .completeTopUpOrder {} { tradeNo := "T1" } 11]

/-- **Two level-1 commissions for one order**, together more than was paid for it. -/
theorem both_parents_paid :
    FreshTopUp "T1" hundredOrder referredOrder ∧
    Along (TopUpOp.exec .shipped) (OnOrder "T1") movedBetweenCallbacks referredOrder ∧
    topUpCredits "T1" (run (TopUpOp.exec .shipped) movedBetweenCallbacks referredOrder) =
      [(1, 1, 90), (1, 2, 90)] ∧
    (topUpRow "T1" (run (TopUpOp.exec .shipped) movedBetweenCallbacks referredOrder)).map
      (fun r => r.2.paidAmount) = some 100 := by
  refine ⟨referredOrder_fresh, ⟨trivial, ?_, ?_, trivial, trivial⟩, by decide +kernel,
    by decide +kernel⟩
  · intro s' h
    simp only [disableUserRelationById, bind_eq_ok, pure_eq_ok] at h
    obtain ⟨r, -, rfl⟩ := h
    exact ⟨rfl, rfl, rfl, rfl⟩
  · exact fun _ => createActiveUserRelationTx_sameView

end ApiGateway
