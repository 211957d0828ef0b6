import ApiGateway.Proof.RealtimeApplications

/-!
# The steps on a realtime application, one by one

Each step keeps the invariant, given that it comes from the request of its key and that
its caller did what the step takes for granted.
-/

namespace ApiGateway

open Table Decimal Interleave QiniuRealtimeWalletApplication List BillingTx Option Progress

variable {cfg : Config} {req : RealtimeKey → RealtimeRequest} {s s' : Store} {k : RealtimeKey}
variable {acc : BillingTx.Account} {a : QiniuRealtimeWalletApplication} {i id : Nat}
  {e : RealtimeEvent} {r : Unit} {input : QiniuRealtimeWalletFlowInput} {t : Task}
variable {info : RelayInfo} {tokenRefused : Bool}

/-! ## Sessions -/

def SessionOf (req : RealtimeKey → RealtimeRequest) (b : BillingSession) : Prop :=
  b.info.qiniuMarket = true → ∀ k, requestKey b.info.requestId = some k →
    b.info.userId = (req k).userId ∧ b.info.tokenId = (req k).tokenId ∧
    b.preConsumedQuota = (req k).preConsumedQuota ∧
    (∃ c, b.funding = .qiniuWallet b.info.userId c) ∧ b.fundingSettled = false

theorem requestAccount_some {phase : RealtimePhase} (h : requestAccount phase info = some acc) :
    info.qiniuMarket = true ∧ requestKey info.requestId = some acc.key ∧ acc.phase = phase ∧
      acc.userId = info.userId ∧ acc.tokenId = some info.tokenId := by
  unfold requestAccount at h
  split at h
  · rename_i hm
    rw [map_eq_some_iff] at h
    obtain ⟨k, hk, rfl⟩ := h
    exact ⟨hm, hk, rfl, rfl, rfl⟩
  · cases h

theorem settling_measure (hp : acc.phase = .settle) (htaken : taken acc.userId s s' ≠ 0)
    (husage : (s'.users acc.userId).usedQuota = (s.users acc.userId).usedQuota ∧
      (s'.users acc.userId).requestCount = (s.users acc.userId).requestCount) :
    Settling (acc.measure s s') where
  phase := hp
  quota := htaken
  usedQuota := by simp [BillingTx.Account.measure, husage.1]
  requestCount := by simp [BillingTx.Account.measure, husage.2]

theorem account_phase {t : BillingTx} (h : t.account s = some acc)
    (ht : ∀ faults info quota, t ≠ .newBillingSession faults info quota) :
    acc.phase ≠ .preConsume := by
  cases t with
  | newBillingSession faults info quota => exact absurd rfl (ht faults info quota)
  | settleBilling =>
    rw [(requestAccount_some h).2.2.1]
    simp
  | retryQiniuRealtimeWalletSettlement | restoreQiniuRealtimeUsageStats
  | refundTaskQuota =>
    obtain ⟨a, -, rfl⟩ := map_eq_some_iff.mp h
    simp [applicationAccount]
  | _ => exact absurd h (by simp [account])

theorem newBillingSession_progress {faults : PreConsumeFaults} {quota : Int}
    {r : Except APIError BillingSession} (h : RealtimeInv req s)
    (hC : oneRequest cfg req s (.newBillingSession faults info quota) = true)
    (hx : (BillingTx.newBillingSession faults info quota).exec cfg s = .ok (s', r)) :
    Progress req s s' := by
  obtain ⟨s1, hrun, rfl⟩ := BillingTx.exec_ok hx
  simp only [run, Except.ok.injEq, Prod.mk.injEq] at hrun
  have hquiet : Quiet s s1 := hrun.1 ▸ newBillingSession_quiet cfg faults faults (fun _ => false) 0
    info quota s
  have hneutral : ∀ acc, (BillingTx.newBillingSession faults info quota).account s = some acc →
      Neutral (acc.measure s s1) := by
    intro acc hacc
    refine neutral_of_quiet hquiet ?_
    rw [(requestAccount_some hacc).2.2.1]
    simp
  refine .of_kept h hquiet.applications hquiet.tasks
    (fun k => (hquiet.kept k).trans (kept_logged fun acc hacc _ => hneutral acc hacc)) ?_
    (neutral_token (hquiet.events ▸ h.token) hneutral)
  intro k ho
  cases hacc : (BillingTx.newBillingSession faults info quota).account s with
  | none => exact opened_congr (preCharged_congr (by simp [hquiet.events])) ho
  | some acc =>
    have hev : (logged s s1 (some acc) none).realtimeEvents =
        s.realtimeEvents ++ [acc.measure s s1] := by simp [hquiet.events]
    by_cases hk : acc.key = k
    · subst hk
      obtain ⟨hm, hkey, -, huser, -⟩ := requestAccount_some hacc
      simp only [oneRequest, hm, hkey, Bool.not_true, Bool.false_or, Bool.and_eq_true,
        beq_iff_eq, decide_eq_true_eq] at hC
      obtain ⟨⟨⟨⟨⟨-, hclean⟩, -⟩, -⟩, hquota⟩, hnonneg⟩ := hC
      -- without a trace, it was only opened if there is nothing to charge in advance
      have hzero : preCharged acc.key s = 0 := preCharged_clean hclean
      have hpre : quota = 0 := hquota.trans (ho.symm.trans hzero)
      have htaken : taken acc.userId s s1 = 0 := by
        rw [huser]
        have hopening := newBillingSession_market hm hnonneg (Prod.ext hrun.2 hrun.1)
        cases r with
        | error => exact hopening
        | ok => exact hopening.2.trans hpre
      have hmeasure : (acc.measure s s1).quota = 0 := htaken
      have hsame : preCharged acc.key (logged s s1 (some acc) none) = preCharged acc.key s := by
        refine (preCharged_append_self hev).trans ?_
        rw [hmeasure, ite_self, add_zero]
        rfl
      exact opened_congr hsame ho
    · exact opened_congr (preCharged_append hev (.inr hk)) ho

theorem settleBilling_progress {faults : SettleFaults} {b : BillingSession} {actual : Int}
    {r : BillingSession × Option Err} (h : RealtimeInv req s)
    (hC : oneRequest cfg req s (.settleBilling faults b actual) = true) (howes : SessionOf req b)
    (hx : (BillingTx.settleBilling faults b actual).exec cfg s = .ok (s', r)) :
    Progress req s s' := by
  obtain ⟨s1, hrun, rfl⟩ := BillingTx.exec_ok hx
  obtain ⟨rfl, -⟩ := ok_pair_inj hrun
  have hquiet := Billing.settle_quiet cfg faults actual ⟨b, s⟩
  cases hacc : (BillingTx.settleBilling faults b actual).account s with
  | none => exact (of_aside h hquiet.toAside).logged (by simp)
  | some acc =>
    obtain ⟨hm, hk, hphase, huser, -⟩ := requestAccount_some hacc
    obtain ⟨hu, -, hpre, ⟨c, hfund⟩, hopen⟩ := howes hm acc.key hk
    simp only [oneRequest, hm, hk, Bool.not_true, Bool.false_or, Bool.and_eq_true, beq_iff_eq,
      unrecorded_iff, List.isEmpty_iff] at hC
    obtain ⟨⟨hfree, hnone⟩, hactual⟩ := hC
    rcases Billing.settle_market cfg faults actual s hfund hopen with hsame | ⟨hne, s1, hcharge, hstore⟩
    · rw [hsame]
      refine (refl h).logged fun acc' hacc' => ?_
      obtain rfl := some.inj hacc'
      exact idle_of_same (by simp [hphase]) rfl rfl
    generalize (Billing.settle cfg faults actual ⟨b, s⟩).1.store = s2 at hquiet hstore
    have husers : s2.users = s1.users := by
      rcases hstore with rfl | rfl
      · rfl
      · rfl
    have htaken : taken acc.userId s s2 = actual - b.preConsumedQuota := by
      rw [taken, husers, huser]
      exact hcharge.taken
    refine settle h (settling_measure hphase (htaken ▸ hne) (hquiet.usage _)) hfree hnone
      (huser.trans hu) ?_ hquiet.applications hquiet.tasks hquiet.flows ?_
    · exact htaken.trans (by rw [hactual, hpre]; rfl)
    · simp [hquiet.events]


/-! ## The repair of a settlement -/

theorem RowInv.settle (h : RowInv req s a) (balance : ℚ)
    (hsettled : WalletSettled req a.idempotencyKey s')
    (husage : usages a.idempotencyKey s' = usages a.idempotencyKey s)
    (hflows : realtimeFlows a.idempotencyKey s' = realtimeFlows a.idempotencyKey s) :
    RowInv req s' (a.settledAt balance) :=
  { h with
    settled := fun _ => hsettled
    unsettled := fun hs => absurd hs (by simp [settledAt])
    counted := fun hs => by
      obtain ⟨e, he, hcount⟩ := h.counted hs
      exact ⟨e, husage.trans he, hcount⟩
    uncounted := fun hs => husage.trans (h.uncounted hs)
    applied := fun hs => ⟨rfl, (h.applied hs).2⟩
    flow := fun hf => hflows.trans_ne (h.flow hf) }

theorem Progress.settleRow (h : RealtimeInv req s) (hi : s.realtimeApplications[i]? = some a)
    (hflag : a.settlementApplied = false) (he : Settling e) (hkey : e.key = a.idempotencyKey)
    (huser : e.userId = a.userId) (hdelta : e.quota = (req a.idempotencyKey).delta) (balance : ℚ)
    (happs : s'.realtimeApplications = s.realtimeApplications.modify i fun _ => a.settledAt balance)
    (htasks : s'.tasks = s.tasks) (hflows : ∀ k, realtimeFlows k s' = realtimeFlows k s)
    (hev : s'.realtimeEvents = s.realtimeEvents ++ [e]) : Progress req s s' := by
  have hrow := h.row hi
  have hone : walletSettlements a.idempotencyKey s' = [e] := by
    have happend := he.settlements hev
    rw [hkey, hrow.unsettled hflag] at happend
    exact happend
  have hsettled : WalletSettled req a.idempotencyKey s' := by
    unfold WalletSettled settledQuota
    rw [hone]
    simpa using hdelta
  refine .update h hi (by rfl) happs htasks ?_ ?_ (fun hs => hs) (fun _ => hsettled)
    (fun k => preCharged_append hev (.inl (by simp [he.phase])))
    (.inr ⟨e, hone, huser.trans hrow.user, hdelta⟩)
    (TokenBound.append h.token hev fun _ _ => he.quota) ?_
  · intro k hk
    exact he.kept hev (hflows k) (hkey ▸ hk)
  · exact hrow.settle balance hsettled (he.usages hev) (hflows _)
  · rw [hflows]
    exact h.flows _

theorem retryQiniuRealtimeWalletSettlement_progress (h : RealtimeInv req s)
    (hx : (BillingTx.retryQiniuRealtimeWalletSettlement id tokenRefused).exec cfg s = .ok (s', r)) :
    Progress req s s' := by
  obtain ⟨s1, hrun, rfl⟩ := BillingTx.exec_ok hx
  have hretry := effect_ok hrun
  obtain ⟨a, ha, ⟨rfl, -⟩ | ⟨hflag, s2, balance, hquiet, hcases⟩⟩ :=
    retryQiniuRealtimeWalletSettlement_ok hretry
  · exact (refl h).logged fun acc hacc =>
      idle_of_same (account_phase hacc (by simp)) rfl rfl
  have hrow := h.row ha
  have hnone := hrow.unsettled hflag
  have hacc : (BillingTx.retryQiniuRealtimeWalletSettlement id tokenRefused).account s =
      some (applicationAccount .settle a) := by simp [account, ha]
  rw [hacc]
  rcases hcases with ⟨hdelta, rfl, rfl⟩ | ⟨hdelta, hcharge, hs1⟩
  · -- nothing to charge: the row says so, and that is all
    refine logged (.rewrite h ha rfl (hrow.settle balance ?_ rfl rfl) fun hs => hs) ?_
    · unfold WalletSettled settledQuota
      rw [hnone, RealtimeRequest.delta, ← hrow.quota, ← hrow.preConsumed]
      exact hdelta.symm
    · intro acc hacc'
      exact idle_of_same (account_phase (hacc.trans hacc') (by simp)) rfl rfl
  -- the charge to the token is out of sight of all the tables that matter here
  have hsame : s1.users = s2.users ∧ s1.tasks = s2.tasks ∧
      s1.realtimeEvents = s2.realtimeEvents ∧ s1.walletFlows = s2.walletFlows ∧
      s1.realtimeApplications = s2.realtimeApplications.modify id fun _ => a.settledAt balance := by
    rcases hs1 with rfl | rfl
    · exact ⟨rfl, rfl, rfl, rfl, rfl⟩
    · exact ⟨rfl, rfl, rfl, rfl, rfl⟩
  obtain ⟨husers, htasks, hevents, hwf, happs⟩ := hsame
  have htaken : taken a.userId s s1 = a.quota - a.preConsumedQuota := by
    rw [taken, husers]
    exact hcharge.taken
  have hset : Settling ((applicationAccount .settle a).measure s s1) := by
    refine settling_measure rfl (htaken ▸ hdelta) ?_
    rw [husers]
    exact hquiet.usage _
  refine settleRow h ha hflag hset rfl rfl ?_ balance ?_ (htasks.trans hquiet.tasks) ?_ ?_
  · rw [RealtimeRequest.delta, ← hrow.quota, ← hrow.preConsumed]
    exact htaken
  · exact happs.trans (by rw [hquiet.applications])
  · intro k
    exact (congrArg _ hwf).trans (hquiet.flows k)
  · rw [logged_realtimeEvents, hevents, hquiet.events]
    rfl

/-! ## Usage -/

/-- An event that counts as usage and as nothing else. -/
structure Using (e : RealtimeEvent) : Prop where
  phase : e.phase = .usage
  requestCount : e.requestCount = 1

theorem Using.usages (h : Using e) (hev : s'.realtimeEvents = s.realtimeEvents ++ [e]) :
    ApiGateway.usages e.key s' = ApiGateway.usages e.key s ++ [e] := by
  simp [ApiGateway.usages, hev, h.requestCount]

theorem Using.settlements (h : Using e) (hev : s'.realtimeEvents = s.realtimeEvents ++ [e]) :
    walletSettlements k s' = walletSettlements k s := by
  simp [walletSettlements, hev, h.phase]

theorem Using.kept (h : Using e) (hev : s'.realtimeEvents = s.realtimeEvents ++ [e])
    (hflows : realtimeFlows k s' = realtimeFlows k s) (hk : k ≠ e.key) : KeyKept k s s' := by
  refine ⟨h.settlements hev, ?_, hflows⟩
  simp [ApiGateway.usages, hev, hk.symm]

theorem Progress.countRow (h : RealtimeInv req s) (hi : s.realtimeApplications[i]? = some a)
    (hflag : a.usageStatsApplied = false) (he : Using e) (hkey : e.key = a.idempotencyKey)
    (huser : e.userId = a.userId) (hused : e.usedQuota = a.quota) {logApplied : Bool}
    (happs : s'.realtimeApplications = s.realtimeApplications.modify i fun _ => { a with
      usageStatsApplied := true
      usageLogApplied := logApplied
      usageApplied := logApplied
      lastError := "" })
    (htasks : s'.tasks = s.tasks) (hflows : ∀ k, realtimeFlows k s' = realtimeFlows k s)
    (hev : s'.realtimeEvents = s.realtimeEvents ++ [e]) : Progress req s s' := by
  have hrow := h.row hi
  have hone : usages a.idempotencyKey s' = [e] := by
    have happend := he.usages hev
    rw [hkey, hrow.uncounted hflag] at happend
    exact happend
  have hsettled : WalletSettled req a.idempotencyKey s → WalletSettled req a.idempotencyKey s' := by
    intro hs
    unfold WalletSettled settledQuota at ⊢
    rwa [he.settlements hev]
  refine .update h hi (by rfl) happs htasks ?_ ?_ (fun _ => rfl) hsettled
    (fun k => preCharged_append hev (.inl (by simp [he.phase]))) ?_
    (TokenBound.append h.token hev (by simp [he.phase])) ?_
  · intro k hk
    exact he.kept hev (hflows k) (hkey ▸ hk)
  · exact { hrow with
      settled := fun hs => hsettled (hrow.settled hs)
      unsettled := fun hs => (he.settlements hev).trans (hrow.unsettled hs)
      counted := fun _ => ⟨e, hone, huser.trans hrow.user, hused.trans hrow.quota, he.requestCount⟩
      uncounted := fun hs => absurd hs (by simp)
      usage := fun hs => ⟨rfl, hs⟩
      covered := fun _ => rfl
      applied := fun hs => by
        -- an applied row has been counted before
        have hstats := (hrow.usage (hrow.applied hs).2.1).1
        exact absurd hflag (by simp [hstats])
      flow := fun hf => by
        rw [hflows]
        exact hrow.flow hf }
  · rw [he.settlements hev]
    exact h.once _
  · rw [hflows]
    exact h.flows _

theorem restoreQiniuRealtimeUsageStats_progress {params : Option RecordConsumeLogParams}
    (h : RealtimeInv req s) (hparams : params.isSome = true)
    (hx : (BillingTx.restoreQiniuRealtimeUsageStats id params).exec cfg s = .ok (s', r)) :
    Progress req s s' := by
  obtain ⟨s1, hrun, rfl⟩ := BillingTx.exec_ok hx
  obtain ⟨a, ha, hcases⟩ := restoreQiniuRealtimeUsageStats_ok (effect_ok hrun)
  have hrow := h.row ha
  rcases hcases with ⟨-, rfl⟩ | ⟨hstats, hlog, rfl⟩ | ⟨hstats, -, rfl⟩
  · exact (refl h).logged fun acc hacc =>
      idle_of_same (account_phase hacc (by simp)) rfl rfl
  · refine logged (.rewrite h ha (by rfl) ?_ fun hs => hs) ?_
    · exact { hrow with
        usage := fun _ => ⟨hstats, hlog⟩
        applied := fun hs => ⟨(hrow.applied hs).1, rfl, (hrow.applied hs).2.2⟩ }
    · intro acc hacc
      exact idle_of_same (account_phase hacc (by simp)) rfl rfl
  · obtain ⟨p, rfl⟩ := isSome_iff_exists.mp hparams
    simp only [restoredUsage, if_pos hrow.positive]
    have hacc : (BillingTx.restoreQiniuRealtimeUsageStats id (some p)).account s =
        some (applicationAccount .usage a) := by simp [account, ha]
    rw [hacc]
    refine countRow h ha hstats
      ⟨rfl, ?_⟩ rfl rfl ?_ rfl rfl (fun k => rfl) rfl
    · simp [BillingTx.Account.measure, applicationAccount]
    · simp [BillingTx.Account.measure, applicationAccount]

theorem markQiniuRealtimeUsageLogApplied_progress {logId : Option Nat} (h : RealtimeInv req s)
    (hx : (BillingTx.markQiniuRealtimeUsageLogApplied id logId).exec cfg s = .ok (s', r)) :
    Progress req s s' := by
  obtain ⟨s1, hrun, rfl⟩ := BillingTx.exec_ok hx
  refine logged ?_ (by simp [account])
  obtain ⟨a, ha, rfl | ⟨hstats, ids, hids, rfl⟩⟩ :=
    markQiniuRealtimeUsageLogApplied_ok (effect_ok hrun)
  · exact .refl h
  have hrow := h.row ha
  exact .rewrite h ha (by rfl) { hrow with
    keyed := realtimeKey_ids hrow.keyed hids
    usage := fun _ => ⟨hstats, rfl⟩
    covered := fun _ => hstats
    applied := fun hs => ⟨(hrow.applied hs).1, rfl, (hrow.applied hs).2.2⟩ } fun hs => hs

theorem markQiniuRealtimeWalletApplicationFailed_progress (cause : Err) (h : RealtimeInv req s) :
    Progress req s (markQiniuRealtimeWalletApplicationFailed id cause s) := by
  unfold markQiniuRealtimeWalletApplicationFailed
  cases ha : s.realtimeApplications[id]? with
  | none =>
    rw [modify_eq_self (getElem?_eq_none_iff.mp ha)]
    exact .of_aside h ⟨rfl, rfl, rfl, rfl, fun _ => rfl⟩
  | some =>
    rw [modify_of_getElem? ha]
    have hrow := h.row ha
    exact .rewrite h ha (by rfl) { hrow with
      applied := fun hs => absurd hs (by simp) } fun hs => hs

/-! ## Taking down what a request has come to -/

/-- What a row that is written from an input brings along. -/
structure FreshRow (req : RealtimeKey → RealtimeRequest) (s : Store)
    (a : QiniuRealtimeWalletApplication) : Prop extends RowOf req s a where
  unsettled : a.settlementApplied = false → walletSettlements a.idempotencyKey s = []
  /-- It does not claim that the request was counted before it was. -/
  counted : a.usageStatsApplied = true → usages a.idempotencyKey s ≠ []
  usage : a.usageApplied = true → a.usageStatsApplied = true ∧ a.usageLogApplied = true
  covered : a.consumeLogIds ≠ [] → a.usageStatsApplied = true

theorem FreshRow.keepFrom {e : QiniuRealtimeWalletApplication} (h : FreshRow req s a)
    (he : RowInv req s e) (hkey : e.idempotencyKey = a.idempotencyKey) :
    RowFacts req s (e.keepFrom a) ∧ (e.keepFrom a).usageStatsApplied = e.usageStatsApplied := by
  have hstats : (e.keepFrom a).usageStatsApplied = e.usageStatsApplied := by
    show (a.usageStatsApplied || e.usageStatsApplied || e.usageApplied) = e.usageStatsApplied
    cases hs : e.usageStatsApplied with
    | true => simp
    | false =>
      have hno : usages a.idempotencyKey s = [] := hkey ▸ he.uncounted hs
      have ha : a.usageStatsApplied = false := by
        rw [Bool.eq_false_iff]
        exact fun ha => h.counted ha hno
      have hu : e.usageApplied = false := by
        rw [Bool.eq_false_iff]
        exact fun hu => absurd (he.usage hu).1 (by simp [hs])
      simp [ha, hu]
  refine ⟨?_, hstats⟩
  exact { h with
    payload := by
      show (a.consumeLogPayload.or e.consumeLogPayload).isSome = true
      simp [he.payload]
    keyed := by
      refine realtimeKey_ids h.keyed fun hne => ?_
      show (if a.consumeLogIds.isEmpty then e.consumeLogIds else a.consumeLogIds) = _
      rw [if_neg (by simpa using hne)]
    counted := fun hs => hkey ▸ he.counted (hstats ▸ hs)
    uncounted := fun hs => hkey ▸ he.uncounted (hstats ▸ hs)
    usage := by
      intro hs
      simp only [QiniuRealtimeWalletApplication.keepFrom, Bool.or_eq_true, Bool.and_eq_true] at hs ⊢
      rcases hs with (hs | hs) | hs
      · exact ⟨.inl (.inl (h.usage hs).1), .inl (.inl (h.usage hs).2)⟩
      · exact ⟨.inr hs, .inr hs⟩
      · exact hs
    covered := by
      intro hne
      rw [hstats]
      by_cases hids : a.consumeLogIds = []
      · refine he.covered ?_
        simpa [QiniuRealtimeWalletApplication.keepFrom, hids] using hne
      · rw [← hstats]
        show (a.usageStatsApplied || _ || _) = true
        simp [h.covered hids] }

theorem FreshRow.insert (h : FreshRow req s a)
    (hi : RealtimeInv req s) (hnew : ∀ b ∈ s.realtimeApplications, b.idempotencyKey ≠ a.idempotencyKey)
    (hpayload : a.consumeLogPayload.isSome = true) (hfailed : a.status = .failed)
    (hflow : a.walletFlowId = none) : Progress req s (s.addApplication a) := by
  have hno := hi.unseen _ hnew
  exact .insert hi hnew { h with
    payload := hpayload
    counted := fun hs => absurd hno (h.counted hs)
    uncounted := fun _ => hno
    applied := fun hs => absurd hs (by simp [hfailed])
    flow := fun hf => absurd hf (by simp [hflow]) }

theorem Truthful.freshRow {tokenId : Nat}
    (usage : UsageState) (status : ApplicationStatus) (lastError : String)
    (h : Truthful cfg req k input s)
    (hval : validateQiniuRealtimeWalletFlowInput input = .ok (tokenId, k))
    (hstats : usage.stats = input.usageStatsApplied)
    (hused : usage.applied = true → usage.stats = true ∧ usage.log = true) :
    FreshRow req s (ofInput cfg input tokenId k input.settlementApplied usage status lastError) := by
  obtain ⟨htok, hpos, hkey⟩ := validate_ok hval
  exact {
    user := h.user
    token := mem_unique htok h.token
    quota := h.quota
    preConsumed := h.preConsumed
    positive := hpos
    keyed := (realtimeKey_trimSpace ..).trans hkey
    settled := h.settled
    unsettled := h.unsettled
    counted := fun hs => h.counted (hstats ▸ hs)
    usage := hused
    covered := fun hs => hstats.trans (h.covered hs) }

theorem reserveQiniuRealtimeWalletApplication_progress
    {r : Nat × QiniuRealtimeWalletApplication × Bool} (h : RealtimeInv req s)
    (hC : oneRequest cfg req s (.reserveQiniuRealtimeWalletApplication input) = true)
    (hrun : reserveQiniuRealtimeWalletApplication cfg input s = .ok (s', r)) :
    Progress req s s' := by
  unfold reserveQiniuRealtimeWalletApplication at hrun
  simp only [bind_eq_ok, Prod.exists] at hrun
  obtain ⟨tokenId, k, hval, hrun⟩ := hrun
  obtain ⟨-, -, hkey⟩ := validate_ok hval
  have ht : Truthful cfg req k input s := by
    refine truthful_iff ?_
    simpa [oneRequest, hkey] using hC
  have hfresh := Truthful.freshRow
    { stats := input.usageStatsApplied
      log := input.usageLogApplied
      applied := input.usageApplied || (input.usageStatsApplied && input.usageLogApplied) }
    .failed "七牛实时钱包应用待完成，等待在线流程或后台修复" ht hval rfl (by
      intro hs
      simp only [Bool.or_eq_true, Bool.and_eq_true] at hs
      exact hs.elim ht.usage id)
  split at hrun
  · rename_i hlock
    obtain ⟨he, hek⟩ := lockApplicationByKeyTx_some hlock
    have hrow := h.row he
    split at hrun
    · exact (ok_pair_inj hrun).1 ▸ .refl h
    obtain ⟨rfl, -⟩ := ok_pair_inj hrun
    obtain ⟨hfacts, hstats⟩ := hfresh.keepFrom hrow hek
    refine .rewrite h he hek.symm ?_ fun hs => hstats.trans hs
    exact { hfacts with
      applied := fun hs => absurd hs (by simp [QiniuRealtimeWalletApplication.keepFrom, ofInput])
      flow := fun hf => hek ▸ hrow.flow hf }
  · rename_i hlock
    obtain ⟨rfl, -⟩ := ok_pair_inj hrun
    exact hfresh.insert h (lockApplicationByKeyTx_none hlock) ht.params rfl rfl

theorem qiniuRealtimeUsageStateFromInput_applied
    (h : (qiniuRealtimeUsageStateFromInput cfg input).applied = true) :
    (qiniuRealtimeUsageStateFromInput cfg input).stats = true ∧
      (qiniuRealtimeUsageStateFromInput cfg input).log = true := by
  unfold qiniuRealtimeUsageStateFromInput at h ⊢
  split
  · exact ⟨rfl, rfl⟩
  rename_i hno
  rw [if_neg hno] at h
  split
  · rename_i hnil
    rw [if_pos hnil] at h
    exact ⟨h, rfl⟩
  · rename_i hnil
    rw [if_neg hnil] at h
    exact Bool.and_eq_true_iff.mp h

theorem qiniuRealtimeUsageStateFromInput_covered (h : input.consumeLogIds ≠ []) :
    (qiniuRealtimeUsageStateFromInput cfg input).stats = true := by
  have hcovered : input.consumeLogIds.isEmpty = false := by simpa using h
  unfold qiniuRealtimeUsageStateFromInput
  split
  · rfl
  split
  · simp [hcovered]
  · simp [hcovered]

theorem Truthful.usageState_stats (h : Truthful cfg req k input s) :
    (qiniuRealtimeUsageStateFromInput cfg input).stats = input.usageStatsApplied := by
  have hcovered : (input.usageStatsApplied || !input.consumeLogIds.isEmpty) =
      input.usageStatsApplied := by
    cases hs : input.usageStatsApplied with
    | true => rfl
    | false =>
      have hnil : input.consumeLogIds = [] := by
        by_contra hne
        exact absurd (h.covered hne) (by simp [hs])
      simp [hnil]
  unfold qiniuRealtimeUsageStateFromInput
  split
  · rename_i hused
    exact (h.usage hused).1.symm
  split
  · rename_i hunlogged
    have hoff : cfg.logConsumeEnabled = false := by
      simpa [isSome_iff_ne_none.mp h.params] using hunlogged
    simp [hcovered, h.unlogged hoff]
  · exact hcovered

theorem recordQiniuRealtimeWalletFailure_progress {cause : Err} (h : RealtimeInv req s)
    (hC : oneRequest cfg req s (.recordQiniuRealtimeWalletFailure input cause) = true) :
    Progress req s (recordQiniuRealtimeWalletFailure cfg input cause s) := by
  unfold recordQiniuRealtimeWalletFailure
  split
  · exact .refl h
  rename_i k hval
  obtain ⟨-, -, hkey⟩ := validate_ok hval
  have ht : Truthful cfg req k input s := by
    refine truthful_iff ?_
    simpa [oneRequest, hkey] using hC
  have hfresh := Truthful.freshRow _ .failed cause.text ht hval ht.usageState_stats
    qiniuRealtimeUsageStateFromInput_applied
  split
  · rename_i hlock
    obtain ⟨he, hek⟩ := lockApplicationByKeyTx_some hlock
    have hrow := h.row he
    split
    · exact .refl h
    obtain ⟨hfacts, hstats⟩ := hfresh.keepFrom hrow hek
    refine .rewrite h he hek.symm ?_ fun hs => hstats.trans hs
    exact { hfacts with
      user := hek ▸ hrow.user
      token := hek ▸ hrow.token
      applied := fun hs => absurd hs (by simp [QiniuRealtimeWalletApplication.keepFrom, ofInput])
      flow := fun hf => hek ▸ hrow.flow hf }
  · rename_i hlock
    exact hfresh.insert h (lockApplicationByKeyTx_none hlock) ht.params rfl rfl

/-! ## The wallet flow -/

theorem realtimeFlows_create {flow : WalletFlow}
    (hkey : flow.idempotencyKey = some (.qiniuRealtime k))
    (h : (realtimeFlows k s).length ≤ 1) :
    (realtimeFlows k (createWalletFlowTx flow s)).length = 1 := by
  unfold realtimeFlows at h ⊢
  rw [createWalletFlowTx_walletFlows, hkey]
  by_cases hex : walletFlowExistsTx s (some (.qiniuRealtime k)) = true
  · rw [if_pos hex]
    obtain ⟨f, hf, hfk⟩ := walletFlowExistsTx_iff.mp hex
    have hmem : f ∈ s.walletFlows.filter fun f => f.idempotencyKey == some (.qiniuRealtime k) :=
      mem_filter.mpr ⟨hf, by simp [hfk]⟩
    have hpos := length_pos_of_mem hmem
    omega
  rw [if_neg hex, filter_append]
  have hnone : (s.walletFlows.filter fun f => f.idempotencyKey == some (.qiniuRealtime k)) = [] := by
    rw [filter_eq_nil_iff]
    intro f hf hfk
    exact hex (walletFlowExistsTx_iff.mpr ⟨f, hf, beq_iff_eq.mp hfk⟩)
  rw [hnone]
  simp [hkey]

theorem writeWalletFlow_ok
    {a' : QiniuRealtimeWalletApplication} (hflows : (realtimeFlows k s).length ≤ 1)
    (h : writeWalletFlow input k a s = .ok (s', a')) :
    (s'.realtimeApplications = s.realtimeApplications ∧ s'.realtimeEvents = s.realtimeEvents ∧
      s'.tasks = s.tasks) ∧
    (∀ k', k' ≠ k → realtimeFlows k' s' = realtimeFlows k' s) ∧
    (realtimeFlows k s').length = 1 ∧
    ∃ balance flowId lastError, a' = { a with
      balanceAfter := balance
      walletFlowId := some flowId
      status := if a.usageApplied then .applied else .failed
      lastError := lastError } := by
  unfold writeWalletFlow at h
  simp only [bind_eq_ok] at h
  obtain ⟨-, -, ⟨flowId, -⟩, -, rfl, rfl⟩ := h
  refine ⟨⟨rfl, rfl, rfl⟩, ?_, ?_, _, flowId, _, rfl⟩
  · intro k' hk'
    simp only [realtimeFlows, createWalletFlowTx_walletFlows]
    split
    · rfl
    · simp [hk'.symm]
  · exact realtimeFlows_create rfl hflows

theorem Progress.writeFlow
    {e b : QiniuRealtimeWalletApplication} {s1 : Store} (h : RealtimeInv req s)
    (hi : s.realtimeApplications[i]? = some e) (hb : RowFacts req s b)
    (hkey : b.idempotencyKey = e.idempotencyKey) (hsettled : b.settlementApplied = true)
    (hstats : e.usageStatsApplied = true → b.usageStatsApplied = true)
    (hwrite : writeWalletFlow input e.idempotencyKey b s = .ok (s1, a)) :
    Progress req s (s1.setApplication i a) := by
  obtain ⟨⟨happs, hevents, htasks⟩, hother, hone, balance, flowId, lastError, rfl⟩ :=
    writeWalletFlow_ok (h.flows _) hwrite
  generalize hrow : ({ b with
    balanceAfter := balance
    walletFlowId := some flowId
    status := if b.usageApplied then ApplicationStatus.applied else .failed
    lastError := lastError } : QiniuRealtimeWalletApplication) = row
  have hset : ∀ k, walletSettlements k (s1.setApplication i row) = walletSettlements k s := by
    intro k
    unfold walletSettlements
    rw [Store.setApplication_realtimeEvents, hevents]
  have husage : ∀ k, usages k (s1.setApplication i row) = usages k s := by
    intro k
    unfold usages
    rw [Store.setApplication_realtimeEvents, hevents]
  have hdone : WalletSettled req e.idempotencyKey (s1.setApplication i row) := by
    have hs := hb.settled hsettled
    rw [hkey] at hs
    unfold WalletSettled settledQuota at ⊢
    rwa [hset]
  have hmodify : (s1.setApplication i row).realtimeApplications =
      s.realtimeApplications.modify i fun _ => row := by
    rw [Store.setApplication_realtimeApplications, happs]
  refine .update h hi ?_ hmodify htasks (fun k hk => ⟨hset k, husage k, hother k hk⟩) ?_ ?_
    (fun _ => hdone) (fun k => preCharged_congr hevents) (hset _ ▸ h.once _) ?_ hone.le
  · rw [← hrow]
    exact hkey
  · subst hrow
    exact { hb.congr (hset _) (husage _) with
      applied := fun hs => by
        refine ⟨hsettled, ?_, rfl⟩
        by_contra (hno : ¬ b.usageApplied = true)
        simp [hno] at hs
      flow := fun _ hnil => by
        have hlen : (realtimeFlows b.idempotencyKey s1).length = 0 := congrArg List.length hnil
        rw [hkey] at hlen
        omega }
  · rw [← hrow]
    exact hstats
  · rw [Store.setApplication_realtimeEvents, hevents]
    exact h.token

theorem FreshRow.writeFlow {a' e : QiniuRealtimeWalletApplication} {s1 : Store} {n : Nat}
    (hfresh : FreshRow req s a) (h : RealtimeInv req s)
    (hi : s.realtimeApplications[i]? = some e) (hkey : e.idempotencyKey = a.idempotencyKey)
    (hsettled : a.settlementApplied = true)
    (hwrite : writeWalletFlow input e.idempotencyKey { e.keepFrom a with retryCount := n } s =
      .ok (s1, a')) : Progress req s (s1.setApplication i a') := by
  obtain ⟨hfacts, hkeep⟩ := hfresh.keepFrom (h.row hi) hkey
  have hb : RowFacts req s { e.keepFrom a with retryCount := n } := { hfacts with }
  exact .writeFlow h hi hb hkey.symm hsettled (fun hs => hkeep.trans hs) hwrite

/-- What writing the flow of a request takes for granted: its row is there, the input describes it,
the wallet was charged, and the usage is not further than the row says. -/
def Appliable (cfg : Config) (req : RealtimeKey → RealtimeRequest)
    (input : QiniuRealtimeWalletFlowInput) (s : Store) : Prop :=
  ∃ (i : Nat) (a : QiniuRealtimeWalletApplication), s.realtimeApplications[i]? = some a ∧
    qiniuRealtimeWalletIdempotencyKey input = some a.idempotencyKey ∧
    input.userId = (req a.idempotencyKey).userId ∧
    input.tokenId = some (req a.idempotencyKey).tokenId ∧
    input.quota = (req a.idempotencyKey).quota ∧
    input.preConsumedQuota = (req a.idempotencyKey).preConsumedQuota ∧
    WalletSettled req a.idempotencyKey s ∧
    ((qiniuRealtimeUsageStateFromInput cfg input).stats = true → a.usageStatsApplied = true)

theorem applyQiniuRealtimeWalletFlow_progress
    {r : Nat × QiniuRealtimeWalletApplication} (h : RealtimeInv req s)
    (howes : Appliable cfg req input s)
    (hrun : applyQiniuRealtimeWalletFlow cfg input s = .ok (s', r)) : Progress req s s' := by
  obtain ⟨i, a, ha, hkey, huser, htoken, hquota, hpre, hsettled, hstats⟩ := howes
  unfold applyQiniuRealtimeWalletFlow at hrun
  simp only [bind_eq_ok, Prod.exists] at hrun
  obtain ⟨tokenId, k, hval, hrun⟩ := hrun
  obtain ⟨htok, hpos, hkey'⟩ := validate_ok hval
  obtain rfl : k = a.idempotencyKey := mem_unique hkey' hkey
  have hrow := h.row ha
  split at hrun
  · rename_i e hlock
    obtain ⟨he, hek⟩ := lockApplicationByKeyTx_some hlock
    -- keys are unique, so the row found is the row that is owed
    obtain rfl : e = a := inj_on_of_nodup_map h.unique (mem_of_getElem? he) (mem_of_getElem? ha) hek
    split at hrun
    · exact (ok_pair_inj hrun).1 ▸ .refl h
    simp only [bind_eq_ok, Prod.exists] at hrun
    obtain ⟨s1, a', hwrite, rfl, -⟩ := hrun
    have hfresh : FreshRow req s (ofInput cfg input tokenId e.idempotencyKey true
        (qiniuRealtimeUsageStateFromInput cfg input) .pending "") := {
      user := huser
      token := mem_unique htok htoken
      quota := hquota
      preConsumed := hpre
      positive := hpos
      keyed := (realtimeKey_trimSpace ..).trans hkey
      settled := fun _ => hsettled
      unsettled := fun hs => absurd hs (by simp [ofInput])
      counted := fun hs => by
        obtain ⟨ev, hev, -⟩ := hrow.counted (hstats hs)
        exact hev.trans_ne (by simp)
      usage := qiniuRealtimeUsageStateFromInput_applied
      covered := qiniuRealtimeUsageStateFromInput_covered }
    exact hfresh.writeFlow h he rfl rfl hwrite
  · rename_i hlock
    exact absurd rfl (lockApplicationByKeyTx_none hlock a (mem_of_getElem? ha))

/-! ## Task rows -/

/-- A copy of the task in row `id`. -/
structure CopyAt (req : RealtimeKey → RealtimeRequest) (s : Store) (id : Nat) (t : Task) :
    Prop where
  copy : CopyOf req s t
  user : ∃ row, s.tasks[id]? = some row ∧ t.userId = row.userId

theorem CopyAt.user_eq {row : Task} (h : CopyAt req s id t) (hrow : s.tasks[id]? = some row) :
    t.userId = row.userId := by
  obtain ⟨row', hrow', hu⟩ := h.user
  rwa [mem_unique hrow' hrow] at hu

theorem Progress.insertTask (h : RealtimeInv req s) (ht : CopyOf req s t) :
    Progress req s (s.addTask t) := by
  refine .of_tasks h rfl (fun _ => ⟨rfl, rfl, rfl⟩) (fun _ ho => ho) h.token ?_ ?_
  · intro t' ht'
    rcases mem_append.mp ht' with ht' | ht'
    · exact h.tasks t' ht'
    · rw [mem_singleton] at ht'
      exact ht' ▸ ht
  · intro i t' ht'
    exact ⟨t', getElem?_append_some ht', rfl⟩

theorem Progress.modifyTask {f : Task → Task} (h : RealtimeInv req s)
    (hf : ∀ row, s.tasks[id]? = some row → CopyOf req s (f row) ∧ (f row).userId = row.userId) :
    Progress req s { s with tasks := s.tasks.modify id f } := by
  refine .of_tasks h rfl (fun _ => ⟨rfl, rfl, rfl⟩) (fun _ ho => ho) h.token ?_ ?_
  · intro t ht
    cases hrow : s.tasks[id]? with
    | none =>
      rw [modify_eq_self (getElem?_eq_none_iff.mp hrow)] at ht
      exact h.tasks t ht
    | some row =>
      rcases mem_modify hrow ht with rfl | ht'
      · exact (hf row hrow).1
      · exact h.tasks t ht'
  · exact fun i t ht => exists_getElem?_modify ht rfl fun hi => (hf t (hi ▸ ht)).2

theorem updateWithStatus_cases {fromStatus : TaskStatus} {won : Bool}
    (h : t.updateWithStatus id fromStatus s = (s', won)) :
    s' = s ∧ won = false ∨ s' = s.saveTask id t ∧ won = true ∧
      ∃ row, s.tasks[id]? = some row ∧ row.status = fromStatus := by
  unfold Task.updateWithStatus at h
  split at h
  · rename_i row hrow
    split at h
    · rename_i hst
      obtain ⟨rfl, rfl⟩ := Prod.mk.inj h
      exact .inr ⟨rfl, rfl, row, hrow, hst⟩
    · obtain ⟨rfl, rfl⟩ := Prod.mk.inj h
      exact .inl ⟨rfl, rfl⟩
  · obtain ⟨rfl, rfl⟩ := Prod.mk.inj h
    exact .inl ⟨rfl, rfl⟩

theorem aside_addLog {l : Log} (h : s.addLog l = s') : Aside s s' :=
  h ▸ ⟨rfl, rfl, rfl, rfl, fun _ => rfl⟩

/-! ## What the steps are owed -/

/-- What a step takes for granted. -/
def BillingTx.Owes (cfg : Config) (req : RealtimeKey → RealtimeRequest) : BillingTx → Store → Prop
  | .settleBilling _ session _, _ => SessionOf req session
  | .applyQiniuRealtimeWalletFlow input, s => Appliable cfg req input s
  | .restoreQiniuRealtimeUsageStats _ params, _ => params.isSome = true
  | .insertTask t, s | .refundTaskQuota _ _ t, s => CopyOf req s t
  | .updateTaskSettlement id t, s | .updateWithStatus id t _, s | .saveTask id t, s =>
    CopyAt req s id t
  | _, _ => True

/-- **A step of one request that is given what it takes for granted keeps the
invariant.** -/
theorem BillingTx.progress (t : BillingTx) {r : t.Ret} (h : RealtimeInv req s)
    (hC : oneRequest cfg req s t = true) (howes : t.Owes cfg req s)
    (hx : t.exec cfg s = .ok (s', r)) : Progress req s s' := by
  have hno : ∀ {s1 : Store}, t.account s = none → Progress req s s1 →
      s' = logged s s1 (t.account s) (t.taskEvent r) → Progress req s s' := by
    rintro s1 hacc hp rfl
    exact hp.logged (by simp [hacc])
  obtain ⟨s1, hrun, hs'⟩ := exec_ok hx
  -- a step that always commits
  have hwrites : ∀ {s2 : Store} {r2 : t.Ret}, t.account s = none →
      (.ok (s2, r2) : Except Err (Store × t.Ret)) = .ok (s1, r) → Progress req s s2 →
      Progress req s s' := by
    intro s2 r2 hacc heq hp
    obtain ⟨rfl, rfl⟩ := ok_pair_inj heq
    exact hno hacc hp hs'
  cases t with
  | newBillingSession => exact newBillingSession_progress h hC hx
  | settleBilling => exact settleBilling_progress h hC howes hx
  | applyQiniuRealtimeUsageStatsDirect u channelId quota =>
    refine hwrites rfl hrun (.of_aside h ?_)
    unfold ApiGateway.applyQiniuRealtimeUsageStatsDirect
    split
    · exact Aside.refl s
    · exact aside_addUsage u channelId quota
  | reserveQiniuRealtimeWalletApplication =>
    exact hno rfl (reserveQiniuRealtimeWalletApplication_progress h hC hrun) hs'
  | applyQiniuRealtimeWalletFlow =>
    exact hno rfl (applyQiniuRealtimeWalletFlow_progress h howes hrun) hs'
  | recordQiniuRealtimeWalletFailure =>
    exact hwrites rfl hrun (recordQiniuRealtimeWalletFailure_progress h hC)
  | markQiniuRealtimeWalletApplicationFailed id cause =>
    exact hwrites rfl hrun (markQiniuRealtimeWalletApplicationFailed_progress cause h)
  | restoreQiniuRealtimeUsageStats =>
    exact restoreQiniuRealtimeUsageStats_progress h howes hx
  | markQiniuRealtimeUsageLogApplied =>
    exact markQiniuRealtimeUsageLogApplied_progress h hx
  | retryQiniuRealtimeWalletSettlement =>
    exact retryQiniuRealtimeWalletSettlement_progress h hx
  | recordConsumeLog =>
    simp only [run, Except.ok.injEq] at hrun
    refine hno rfl (.of_aside h ?_) hs'
    unfold ApiGateway.recordConsumeLog at hrun
    split at hrun
    · exact aside_addLog (Prod.mk.inj hrun).1
    · exact (Prod.mk.inj hrun).1 ▸ Aside.refl s
  | insertTask =>
    exact hwrites rfl hrun (.insertTask h howes)
  | updateTaskSettlement =>
    refine hwrites rfl hrun (.modifyTask h fun row hrow => ⟨?_, by rfl⟩)
    intro st aid hst haid
    obtain ⟨a, ha, ho, hu, hrest⟩ := howes.copy st aid hst haid
    exact ⟨a, ha, ho, (howes.user_eq hrow).symm.trans hu, hrest⟩
  | updateWithStatus =>
    simp only [run, Except.ok.injEq] at hrun
    refine hno rfl ?_ hs'
    rcases updateWithStatus_cases hrun with ⟨rfl, -⟩ | ⟨rfl, -⟩
    · exact .refl h
    · exact .modifyTask h fun row hrow => ⟨howes.copy, howes.user_eq hrow⟩
  | saveTask =>
    exact hwrites rfl hrun (.modifyTask h fun row hrow => ⟨howes.copy, howes.user_eq hrow⟩)
  | failTask =>
    refine hwrites rfl hrun (.modifyTask h fun row hrow => ⟨?_, by rfl⟩)
    exact h.tasks row (mem_of_getElem? hrow)
  | settleTaskBillingOnComplete =>
    exact hwrites rfl hrun (.of_aside h (Task.settleTaskBillingOnComplete_aside _ _ _ _))
  | refundTaskQuota faults _ t =>
    obtain ⟨rfl, -⟩ := ok_pair_inj hrun
    have hquiet := Task.refundTaskQuota_quiet cfg faults t s
    rw [hs']
    refine (of_aside h hquiet.toAside).logged fun acc hacc =>
      ⟨neutral_of_quiet hquiet ?_, account_phase hacc (by simp)⟩
    simp only [account, map_eq_some_iff] at hacc
    obtain ⟨a, -, rfl⟩ := hacc
    simp
  | replayConsumeLog =>
    simp only [run, Except.ok.injEq] at hrun
    exact hno rfl (.of_aside h (aside_addLog (Prod.mk.inj hrun).1)) hs'
  | loadQiniuRealtimeWalletApplication =>
    obtain ⟨-, rfl⟩ := load_ok hrun
    exact hno rfl (.refl h) hs'
  | scanFailedApplications | getConsumeLog | findConsumeLog | newTask | findTasksByApplication
  | unfinishedTasks => exact hwrites rfl hrun (.refl h)

end ApiGateway
