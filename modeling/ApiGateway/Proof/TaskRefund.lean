import ApiGateway.Service.TaskBilling
import ApiGateway.Proof.BillingSettlement

/-!
# What a failed task costs

A task is settled once, when it is submitted, and its row then says that the actual quota was
charged, even when the source refuses the settlement and only the advance charge was made. A refund
goes by the row.
-/

namespace ApiGateway

open Table Decimal Runs Funding

variable {cfg : Config} {s s' : Store}
variable {u : Nat} {actual c delta : Int} {refused : Bool} {f : Funding} {r : SessionRun}
variable {k q : Int} {bizNo remark : String} {faults : SettleFaults} {b : BillingSession}
  {info : RelayInfo} {t : Task}

/-! ## When a source accepts a settlement -/

/-- What a debit finds on the account: an old account is first filled from
`users.quota`. -/
def availableBalance (cfg : Config) (u : Nat) (s : Store) : ℚ :=
  if (s.wallets u).balanceAmount ≤ walletAmountEpsilon ∧
      walletFlowExistsTx s (some (.legacyBalanceInit u)) = false ∧ 0 < (s.users u).quota then
    quotaToWalletAmount cfg (s.users u).quota
  else (s.wallets u).balanceAmount

theorem ensureLegacyWalletBalanceTx_balance {s1 : Store}
    (h : ensureLegacyWalletBalanceTx cfg u s = .ok s1) :
    (s1.wallets u).balanceAmount = availableBalance cfg u s := by
  unfold ensureLegacyWalletBalanceTx at h
  simp only [bind_eq_ok, getOrCreateWalletAccountTx_eq_ok] at h
  obtain ⟨a, ⟨-, rfl⟩, h⟩ := h
  unfold availableBalance
  split at h
  · rename_i hhigh
    rw [if_neg fun hc => absurd hhigh (not_lt.mpr hc.1), ← pure_eq_ok.mp h]
  rename_i hlow
  split at h
  · rename_i hflow
    rw [if_neg fun hc => absurd hflow (by simp [hc.2.1]), ← pure_eq_ok.mp h]
  rename_i hflow
  split at h
  · rename_i hquota
    rw [if_neg fun hc => absurd hc.2.2 (not_lt.mpr hquota), ← pure_eq_ok.mp h]
  · rename_i hquota
    rw [if_pos ⟨not_lt.mp hlow, by simpa using hflow, not_le.mp hquota⟩, ← pure_eq_ok.mp h]
    simp

/-- **A debit goes through exactly when the account covers it**, up to the tolerance. -/
theorem debitBalanceByQuotaTx_ok_iff
    {flowType : WalletFlowType} {key : Option FlowKey} (hkey : walletFlowExistsTx s key = false)
    (hq : 0 < q) :
    (∃ s', debitBalanceByQuotaTx cfg u q bizNo flowType remark key s = .ok s') ↔
      u ≠ 0 ∧ quotaToWalletAmount cfg q ≤ availableBalance cfg u s + walletAmountEpsilon := by
  constructor
  · rintro ⟨s', h⟩
    rcases debitBalanceByQuotaTx_ok h with ⟨-, hle | hflow⟩ | ⟨-, -, s1, hs1, hcover, -⟩
    · exact absurd hq (not_lt.mpr hle)
    · exact absurd hflow (by simp [hkey])
    · rw [ensureLegacyWalletBalanceTx_balance hs1] at hcover
      exact ⟨(ensureLegacyWalletBalanceTx_ok hs1).1, hcover⟩
  rintro ⟨hu, hcover⟩
  obtain ⟨s1, hs1⟩ := ensureLegacyWalletBalanceTx_total cfg hu s
  rw [← ensureLegacyWalletBalanceTx_balance hs1] at hcover
  have hguard : ¬ (s1.wallets u).balanceAmount + walletAmountEpsilon <
      quotaToWalletAmount cfg q := not_lt.mpr hcover
  unfold debitBalanceByQuotaTx
  rw [if_neg (not_le.mpr hq), if_neg (by simp [hkey]), hs1]
  simp only [bind, Except.bind, failIf, if_neg hguard]
  exact ⟨_, rfl⟩

/-- The source accepts a settlement that moves `delta`: nothing has to be moved, or the call is not
refused and the amount is there. -/
def Funding.Accepts (cfg : Config) (f : Funding) (refused : Bool) (delta : Int) (s : Store) :
    Prop :=
  delta = 0 ∨ refused = false ∧
    match f with
    | .wallet u _ => u ≠ 0 ∧ (delta < 0 ∨
        quotaToWalletAmount cfg delta ≤ availableBalance cfg u s + walletAmountEpsilon)
    | .qiniuWallet u _ => u ≠ 0
    | .subscription sub => ∃ id row, sub.subscriptionId = some id ∧
        s.subscriptions[id]? = some row ∧
        (row.amountTotal > 0 → row.amountUsed + delta ≤ row.amountTotal)

section

variable (hdelta : delta ≠ 0)

include hdelta

theorem Funding.settle_iff_call :
    (∃ f' s', f.settle cfg refused delta s = (f', .ok s')) ↔
      refused = false ∧ ∃ s', f.settleCall cfg delta s = .ok s' := by
  have hcall : (f.settle cfg refused delta s).2 = _ := settle_call hdelta
  constructor
  · rintro ⟨f', s', h⟩
    rw [h] at hcall
    obtain ⟨hok, hs'⟩ := storageCall_eq_ok.mp hcall.symm
    exact ⟨hok, s', hs'⟩
  · rintro ⟨rfl, s', h⟩
    rw [h] at hcall
    exact ⟨_, s', Prod.ext rfl hcall⟩

theorem settleCall_wallet_iff :
    (∃ s', (wallet u k).settleCall cfg delta s = .ok s') ↔
      u ≠ 0 ∧ (delta < 0 ∨
        quotaToWalletAmount cfg delta ≤ availableBalance cfg u s + walletAmountEpsilon) := by
  simp only [settleCall]
  by_cases hpos : delta > 0
  · rw [if_pos hpos, consumeWalletQuota, debitBalanceByQuotaTx_ok_iff rfl hpos]
    have hneg : ¬ delta < 0 := by omega
    rw [or_iff_right hneg]
  rw [if_neg hpos]
  have hneg : delta < 0 := by omega
  constructor
  · rintro ⟨s', h⟩
    exact ⟨(refundWalletQuota_charge (by omega) h).user, .inl hneg⟩
  · rintro ⟨hu, -⟩
    exact refundWalletQuota_total cfg hu _ _ _ s

theorem settleCall_qiniuWallet_iff :
    (∃ s', (qiniuWallet u k).settleCall cfg delta s = .ok s') ↔ u ≠ 0 := by
  constructor
  · rintro ⟨s', h⟩
    exact (silentDelta_charge cfg hdelta h).user
  intro hu
  simp only [settleCall]
  split
  · exact debitBalanceByQuotaSilentlyAllowDebtTx_total cfg hu delta s
  · exact creditBalanceByQuotaSilentlyTx_total cfg hu (-delta) s

theorem settleCall_subscription_iff {sub : SubscriptionFunding}
    (hcov : Covered (.subscription sub) c s) (hc : 0 ≤ c + delta) :
    (∃ s', (subscription sub).settleCall cfg delta s = .ok s') ↔
      ∃ id row, sub.subscriptionId = some id ∧ s.subscriptions[id]? = some row ∧
        (row.amountTotal > 0 → row.amountUsed + delta ≤ row.amountTotal) := by
  obtain ⟨id, row, hid, hrow, hle⟩ := hcov
  simp only [settleCall, hid, Option.some.injEq, exists_and_left, exists_eq_left', hrow]
  constructor
  · rintro ⟨s', h⟩
    rcases postConsumeUserSubscriptionDelta_ok hrow (by omega) h with ⟨hzero, -⟩ | ⟨htotal, -⟩
    · exact absurd hzero hdelta
    · exact htotal
  · intro htotal
    exact ⟨_, postConsumeUserSubscriptionDelta_eq hrow hdelta (by omega) htotal⟩

/-- **A source accepts exactly the settlements that `Accepts` describes.** -/
theorem Funding.settle_ok_iff (hcov : f.Covered c s) (hc : 0 ≤ c + delta) :
    (∃ f' s', f.settle cfg refused delta s = (f', .ok s')) ↔ f.Accepts cfg refused delta s := by
  unfold Accepts
  rw [or_iff_right hdelta, settle_iff_call hdelta]
  refine and_congr_right fun _ => ?_
  cases f with
  | wallet => exact settleCall_wallet_iff hdelta
  | qiniuWallet => exact settleCall_qiniuWallet_iff hdelta
  | subscription => exact settleCall_subscription_iff hdelta hcov hc

end

theorem Held.settle_settled_iff (h : Held r) (hactual : 0 ≤ actual) :
    (r.billing.settle cfg faults actual).1.session.settled = true ↔
      r.billing.session.funding.Accepts cfg faults.funding
        (actual - r.billing.session.preConsumedQuota) r.billing.store := by
  unfold Billing.settle
  dsimp only
  rw [if_neg (by simp [h.unsettled])]
  split
  · rename_i hdelta
    exact iff_of_true rfl (.inl hdelta)
  rename_i hdelta
  rw [if_neg (by simp [h.fundingUnsettled]), ← settle_ok_iff hdelta h.covered (by omega)]
  split
  · rename_i hset
    refine iff_of_false (by simp [h.unsettled]) ?_
    rintro ⟨f'', s'', hok⟩
    rw [hset] at hok
    cases hok
  · rename_i f' s1 hset
    refine iff_of_true ?_ ⟨f', s1, hset⟩
    split <;> rfl

theorem Held.settle_charged (cfg : Config) (faults : SettleFaults)
    (h : Held r) (hactual : 0 ≤ actual) :
    (r.billing.session.funding.Accepts cfg faults.funding
        (actual - r.billing.session.preConsumedQuota) r.billing.store ∧
      (r.move (r.billing.settle cfg faults actual).1).charged = actual) ∨
    (¬ r.billing.session.funding.Accepts cfg faults.funding
        (actual - r.billing.session.preConsumedQuota) r.billing.store ∧
      (r.move (r.billing.settle cfg faults actual).1).charged =
        r.billing.session.preConsumedQuota) := by
  rcases h.settle cfg faults hactual with ⟨f', e, heq, -⟩ | hset
  · right
    refine ⟨fun hacc => ?_, ?_⟩
    · have hsettled := (h.settle_settled_iff hactual).mpr hacc
      rw [heq] at hsettled
      exact absurd hsettled (by simp [h.unsettled])
    have hcharged := h.charged
    rw [heq]
    simp only [SessionRun.move]
    omega
  · exact .inl ⟨(h.settle_settled_iff hactual).mp hset.settled, hset.charged⟩

/-! ## The row of the task -/

/-- What the request says about its source is true. -/
structure Synced (b : BillingSession) : Prop where
  source : b.info.billingSource = if b.funding.isSubscription then .subscription else .wallet
  subscriptionId : b.info.subscriptionId = b.funding.subscriptionId
  funding : b.funding.For b.info

theorem synced_syncRelayInfo (h : b.funding.For b.info) : Synced b.syncRelayInfo where
  source := rfl
  subscriptionId := by
    cases b.funding <;> rfl
  funding := by
    unfold BillingSession.syncRelayInfo
    cases hf : b.funding <;> rw [hf] at h <;> exact h

theorem Funding.Same.for {f' : Funding} (h : f.Same f') (hf : f.For info) : f'.For info := by
  cases f <;> cases f' <;> simp only [Same] at h <;> subst h <;> exact hf

theorem Synced.opened (h : Opens cfg info b s s') :
    Synced b ∧ b.info.qiniuMarket = info.qiniuMarket := by
  obtain ⟨faults, due, now, quota, f, -, -, hfor, -, hx⟩ := h
  obtain ⟨effective, f', s1, -, -, hfund, rfl⟩ := BillingSession.preConsume_ok hx
  refine ⟨synced_syncRelayInfo ?_, rfl⟩
  -- charging a source in advance does not change whose it is
  cases f with
  | wallet | qiniuWallet =>
    simp only [preConsume] at hfund
    split at hfund
    · rw [← (ok_pair_inj hfund).1]
      exact hfor
    · simp only [bind_eq_ok] at hfund
      obtain ⟨_, -, rfl, -⟩ := hfund
      exact hfor
  | subscription =>
    simp only [preConsume, bind_eq_ok] at hfund
    obtain ⟨_, _, _, -, rfl, -⟩ := hfund
    exact hfor

/-- A session that is being prepared: open, and with a truthful request that is not
billed at the market price. -/
structure Prepared (r : SessionRun) : Prop where
  held : Held r
  synced : Synced r.billing.session
  market : r.billing.session.info.qiniuMarket = false

/-- The calls on a session before it is settled. -/
def SessionOp.Preparing (op : SessionOp) (r : SessionRun) : Prop :=
  match op with
  | .reserve faults _ => faults.rollback = false
  | .other f => r.Undisturbed (f r.billing.store)
  | _ => False

theorem Synced.reserve {faults : ReserveFaults} {target : Int} (h : Prepared r)
    (hrollback : faults.rollback = false) :
    Synced (r.billing.reserve cfg faults target).1.session := by
  unfold Billing.reserve
  dsimp only
  split
  · exact h.synced
  have hdelta : 0 < target - r.billing.session.preConsumedQuota := by omega
  split
  · exact h.synced
  rename_i hres
  split
  · obtain ⟨s2, hback, -⟩ := rollbackFundingReserve_ok hdelta h.held.covered h.held.nonneg
      h.held.qiniu_nonneg hres
    rw [hrollback, hback]
    exact h.synced
  · obtain ⟨rfl, -⟩ := reserveFunding_ok hdelta h.held.covered h.held.nonneg hres
    exact synced_syncRelayInfo ((addConsumed_same _ _).for h.synced.funding)

theorem prepared_step (op : SessionOp) (r r' : SessionRun) (h : Prepared r) (hop : op.Preparing r)
    (hx : op.exec cfg r = .ok r') : Prepared r' := by
  cases op with
  | reserve faults target =>
    obtain rfl := Except.ok.inj hx
    refine ⟨h.held.reserve hop, Synced.reserve h hop, Eq.trans ?_ h.market⟩
    unfold Billing.reserve SessionRun.move
    dsimp only
    split
    · rfl
    · split
      · rfl
      · split <;> rfl
  | other =>
    obtain rfl := Except.ok.inj hx
    exact ⟨h.held.other hop, h.synced, h.market⟩
  | settle | refund | runRefund => exact hop.elim

/-- The row that is written for a task at submission. -/
structure Submitted (f : Funding) (actual : Int) (t : Task) : Prop where
  quota : t.quota = actual
  settlement : t.qiniuRealtimeSettlement = none
  source : t.billingSource = if f.isSubscription then .subscription else .wallet
  subscriptionId : t.subscriptionId = f.subscriptionId
  user : ∀ u k, f = .wallet u k → t.userId = u
  market : ∀ u k, f ≠ .qiniuWallet u k

theorem Prepared.submitTask {taskId : String} {b : Billing} (h : Prepared r)
    (hx : r.billing.submitTask cfg faults taskId actual = (b, t)) :
    b = (r.billing.settle cfg faults actual).1 ∧ Submitted r.billing.session.funding actual t := by
  unfold Billing.submitTask at hx
  dsimp only at hx
  obtain ⟨rfl, rfl⟩ := Prod.mk.inj hx
  obtain ⟨hinfo, -⟩ := Billing.settle_frame cfg faults actual r.billing
  refine ⟨rfl, ?_⟩
  have hnone : buildQiniuRealtimeTaskSettlement (r.billing.settle cfg faults actual).1.session.info
      (r.billing.settle cfg faults actual).1.session.preConsumedQuota actual
      (r.billing.settle cfg faults actual).2.isNone (r.billing.settle cfg faults actual).1.store =
      none := by
    unfold buildQiniuRealtimeTaskSettlement
    rw [hinfo, if_neg (by simp [h.market])]
  have hfor := h.synced.funding
  exact {
    quota := by simp only [newTask, hnone]
    settlement := hnone
    source := by
      show (r.billing.settle cfg faults actual).1.session.info.billingSource = _
      rw [hinfo, h.synced.source]
    subscriptionId := by
      show (r.billing.settle cfg faults actual).1.session.info.subscriptionId = _
      rw [hinfo, h.synced.subscriptionId]
    user := by
      intro u k hf
      show (r.billing.settle cfg faults actual).1.session.info.userId = u
      rw [hf] at hfor
      rw [hinfo]
      exact hfor.1.symm
    market := by
      intro u k hf
      rw [hf] at hfor
      exact absurd h.market (by simp [hfor.2]) }

/-! ## The refund -/

theorem Task.adjustTokenQuota_cases (t : Task) (refused : Bool) (delta : Int) (s : Store) :
    t.adjustTokenQuota refused delta s = s ∨
      ∃ id q, t.adjustTokenQuota refused delta s = s.chargeToken id q := by
  unfold adjustTokenQuota
  split
  · exact .inl rfl
  split
  · exact .inl rfl
  split
  · exact .inl rfl
  rename_i hcall
  split at hcall
  · exact .inr ⟨_, _, decreaseTokenQuota_ok hcall⟩
  · exact .inr ⟨_, _, increaseTokenQuota_ok hcall⟩

/-- What a subscription counts as used. -/
def Funding.counted (f : Funding) (s : Store) : Int :=
  match f with
  | .subscription sub =>
    match sub.subscriptionId.bind fun id => s.subscriptions[id]? with
    | some row => row.amountUsed
    | none => 0
  | _ => 0

theorem Funding.Covered.le_counted (h : f.Covered c s) (hsub : f.isSubscription = true) :
    c ≤ f.counted s := by
  cases f with
  | wallet | qiniuWallet => exact nomatch hsub
  | subscription =>
    obtain ⟨id, row, hid, hrow, hle⟩ := h
    simp only [counted, hid, Option.bind_some, hrow]
    exact hle

/-- What a refund of `q` gives back: a subscription stops at zero. -/
def Funding.givesBack (f : Funding) (q : Int) (s : Store) : Int :=
  if f.isSubscription then min q (f.counted s) else q

/-- **A refund goes by the row of the task**, except that a subscription cannot be given
back more than it counts as used. -/
theorem Submitted.refund_used
    {faults : Task.RefundFaults} {outcome : Task.RefundOutcome} (h : Submitted f actual t)
    (hactual : 0 ≤ actual) (hcov : f.Covered c s) (hc : 0 ≤ c)
    (hx : t.refundTaskQuota cfg faults s = (outcome, s')) (hdone : outcome ≠ .failed) :
    f.used s' = f.used s - f.givesBack actual s := by
  have hquota : t.refundQuota = actual := by
    simp only [Task.refundQuota, h.settlement, h.quota]
  have hofficial : t.usesQiniuOfficialLedger = false := by
    simp only [Task.usesQiniuOfficialLedger, h.source]
    split <;> rfl
  unfold Task.refundTaskQuota at hx
  rw [hquota, hofficial] at hx
  simp only [Bool.false_eq_true, false_or] at hx
  split at hx
  · -- nothing was charged
    rename_i hzero
    obtain ⟨-, rfl⟩ := Prod.mk.inj hx
    subst hzero
    have hnone : f.givesBack 0 s = 0 := by
      unfold givesBack
      split
      · cases f with
        | wallet | qiniuWallet => rfl
        | subscription =>
          obtain ⟨id, row, hid, hrow, hle⟩ := hcov
          simp only [counted, hid, Option.bind_some, hrow]
          omega
      · rfl
    rw [hnone, sub_zero]
  split at hx
  · exact absurd (Prod.mk.inj hx).1.symm hdone
  rename_i hcall
  obtain ⟨-, rfl⟩ := Prod.mk.inj hx
  obtain ⟨-, hcall⟩ := storageCall_eq_ok.mp hcall
  have htoken : ∀ refused delta s, f.used (t.adjustTokenQuota refused delta s) = f.used s := by
    intro refused delta s
    rcases t.adjustTokenQuota_cases refused delta s with heq | ⟨id, q, heq⟩
    · rw [heq]
    · rw [heq]
      cases f <;> rfl
  rw [htoken]
  unfold Task.adjustFunding at hcall
  rw [if_neg (by simp [hofficial]), if_neg (by simp [h.settlement])] at hcall
  cases f with
  | qiniuWallet u k => exact absurd rfl (h.market u k)
  | wallet u k =>
    have hsub : t.isSubscription = false := by
      simp [Task.isSubscription, h.source, isSubscription]
    rw [if_neg (by simp [hsub]), if_neg (by omega), h.user u k rfl] at hcall
    have hmove := (refundWalletQuota_charge (by omega) hcall).wallet (c := k)
    rw [hmove.used]
    simp only [givesBack, isSubscription, Bool.false_eq_true, if_false]
    omega
  | subscription =>
    obtain ⟨id, row, hid, hrow, -⟩ := hcov
    have hsub : t.isSubscription = true := by
      simp [Task.isSubscription, h.source, h.subscriptionId, isSubscription,
        Funding.subscriptionId, hid]
    rw [if_pos hsub, h.subscriptionId] at hcall
    simp only [Funding.subscriptionId, hid] at hcall
    rcases postConsumeUserSubscriptionDelta_cases hrow hcall with ⟨hzero, -⟩ | ⟨-, rfl⟩
    · exact absurd hzero (by omega)
    · simp only [used, hid, usageOf_useSubscription, givesBack,
        isSubscription, if_true, counted, Option.bind_some, hrow]
      omega

/-- The task is charged to a subscription that counts nothing but its advance charge,
and the actual quota is more than that. -/
def Funding.HidesShortfall (f : Funding) (preConsumed actual : Int) (s : Store) : Prop :=
  f.isSubscription = true ∧ preConsumed < actual ∧ f.counted s = preConsumed

/-- **A failed task costs nothing exactly when its settlement was accepted by the source**, whether
or not the token followed; otherwise the refund returns the actual quota although only the advance
charge was made. The exception is a subscription that counts nothing else, where the refund stops at
zero. -/
theorem failed_task_costs_nothing_iff {info : RelayInfo} {b : BillingSession}
    (hopen : Opens cfg info b s s') (hmarket : info.qiniuMarket = false) {ops : List SessionOp}
    (hops : Along (SessionOp.exec cfg) SessionOp.Preparing ops (.opened b s s'))
    {r : SessionRun} (hr : r = run (SessionOp.exec cfg) ops (.opened b s s'))
    {faults : SettleFaults} {taskId : String} {actual : Int} (hactual : 0 ≤ actual)
    {b' : Billing} {t : Task} (hsubmit : r.billing.submitTask cfg faults taskId actual = (b', t))
    {s₁ s₂ : Store} (hs₁ : r.billing.session.funding.Covered (r.move b').charged s₁)
    {rf : Task.RefundFaults} {outcome : Task.RefundOutcome}
    (hrefund : t.refundTaskQuota cfg rf s₁ = (outcome, s₂)) (hdone : outcome ≠ .failed) :
    (r.move b').charged +
        (r.billing.session.funding.used s₂ - r.billing.session.funding.used s₁) = 0 ↔
      r.billing.session.funding.Accepts cfg faults.funding
          (actual - r.billing.session.preConsumedQuota) r.billing.store ∨
        r.billing.session.funding.HidesShortfall r.billing.session.preConsumedQuota actual s₁ := by
  obtain ⟨hsynced, hmarket'⟩ := Synced.opened hopen
  have hprep : Prepared r := by
    rw [hr]
    refine run_induction prepared_step ?_ hops
    obtain ⟨_, _, _, _, f, hledger, htoken, -, hinit, hx⟩ := hopen
    exact ⟨(held_opened hledger htoken hinit hx).1, hsynced, hmarket'.trans hmarket⟩
  obtain ⟨rfl, hrow⟩ := hprep.submitTask hsubmit
  have hnonneg := hprep.held.nonneg
  have hcases := hprep.held.settle_charged cfg faults hactual
  generalize (r.move (r.billing.settle cfg faults actual).1).charged = charged at hs₁ hcases
  have hcharged : 0 ≤ charged := by
    rcases hcases with ⟨-, h⟩ | ⟨-, h⟩ <;> omega
  rw [hrow.refund_used hactual hs₁ hcharged hrefund hdone]
  have hcounted := hs₁.le_counted
  unfold Funding.givesBack Funding.HidesShortfall
  rcases hcases with ⟨hacc, rfl⟩ | ⟨hacc, rfl⟩
  · -- the row says what was charged
    refine iff_of_true ?_ (.inl hacc)
    split
    · rename_i hsub
      have := hcounted hsub
      omega
    · omega
  -- the row says what should have been charged
  have hdelta : actual - r.billing.session.preConsumedQuota ≠ 0 := fun h => hacc (.inl h)
  rw [or_iff_right hacc]
  split
  · rename_i hsub
    simp only [hsub, true_and]
    omega
  · rename_i hsub
    exact iff_of_false (by omega) fun h => hsub h.1

/-! The small request again, as a task that fails after it was submitted. -/

/-- A submission at the actual quota and the refund of the task. -/
def failSmallTask (faults : SettleFaults) (actual : Int) (r : SessionRun) :
    Billing × Task.RefundOutcome × Store :=
  let (b, t) := r.billing.submitTask .shipped faults "t1" actual
  (b, t.refundTaskQuota .shipped {} b.store)

/-- What the task has cost in the end. -/
def smallTaskCost (faults : SettleFaults) (actual : Int) : Option Int :=
  (smallRun []).map fun r =>
    let (b, _, s) := failSmallTask faults actual r
    (r.move b).charged + (r.billing.session.funding.used s - r.billing.session.funding.used b.store)

/-- The settlement charges 50 more than was charged in advance, and all of it comes back. -/
theorem failed_task_costs_nothing_settled : smallTaskCost {} 150 = some 0 := by
  have hend : (smallRun []).map (fun r => (r.billing.session.funding.isWallet,
      (r.billing.settle .shipped {} 150).1.session.settled, (failSmallTask {} 150 r).2.1)) =
        some (true, true, .refunded) := by decide +kernel
  unfold smallTaskCost smallRun at *
  split at hend
  · rename_i b s' hx
    rw [Option.map_some, Option.some.injEq, Prod.mk.injEq, Prod.mk.injEq] at hend
    obtain ⟨hwallet, hsettled, hdone⟩ := hend
    have hinit : Funding.Initial (.wallet 1 0) 100 smallStore := ⟨rfl, by decide⟩
    have hfor : Funding.For (.wallet 1 0) smallRequest := ⟨rfl, rfl⟩
    have hheld := (held_opened rfl rfl hinit hx).1
    have hcov : ∀ c s, b.funding.Covered c s := by
      intro c s
      change b.funding.isWallet = true at hwallet
      cases hf : b.funding with
      | wallet u k => trivial
      | qiniuWallet u k | subscription sub => rw [hf] at hwallet; exact nomatch hwallet
    have hops : Along (SessionOp.exec .shipped) SessionOp.Preparing []
        (.opened b smallStore s') := trivial
    have hfailed : (failSmallTask {} 150 (.opened b smallStore s')).2.1 ≠ .failed := by
      change (failSmallTask {} 150 (.opened b smallStore s')).2.1 = .refunded at hdone
      rw [hdone]
      decide
    rw [Option.map_some, Option.some.injEq]
    exact (failed_task_costs_nothing_iff ⟨{}, _, 0, 100, _, rfl, rfl, hfor, hinit, hx⟩ rfl
      hops rfl (by decide) rfl (hcov _ _) rfl hfailed).mpr
        (.inl ((hheld.settle_settled_iff (by decide)).mp hsettled))
  · cases hend

/-- **A refused settlement is paid back all the same.** The source was charged 100 and
gives back 150. -/
theorem refund_exceeds_refused_settlement :
    smallTaskCost { funding := true } 150 = some (-50) := by
  decide +kernel

end ApiGateway
