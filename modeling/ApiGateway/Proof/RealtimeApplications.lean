import ApiGateway.Proof.BillingSteps

/-!
# What a realtime application has done so far

The flags of an application are written by six different steps, some of them from the view of a
caller that read the row long ago. They are tied here to what was measured: `settlement_applied` to
the wallet, `usage_stats_applied` to the statistics, the status to all of it. `RealtimeInv` holds
between any two steps of any interleaving, as long as the steps made for one key come from one
request (`oneRequest`).

`applyQiniuRealtimeWalletFlow` takes the settlement for granted, and
`restoreQiniuRealtimeUsageStats` counts nothing without parameters. What they are owed is in
`BillingTx.Owes`, and the handlers pay it.
-/

namespace ApiGateway

open Table Decimal Interleave QiniuRealtimeWalletApplication List BillingTx BillingTx.Account

variable {a : QiniuRealtimeWalletApplication} {s1 : Store} {ev : Option TaskEvent}
  {e : RealtimeEvent}
variable {input : QiniuRealtimeWalletFlowInput} {b r : String} {ids ids' : List Nat} {s'' : Store}
  {i : Nat} {a' : QiniuRealtimeWalletApplication} {acc : BillingTx.Account}

/-! ## Counting -/

/-- The request behind a key. -/
structure RealtimeRequest where
  userId : Nat
  tokenId : Nat
  quota : Int
  preConsumedQuota : Int

def RealtimeRequest.delta (r : RealtimeRequest) : Int := r.quota - r.preConsumedQuota

def walletSettlements (k : RealtimeKey) (s : Store) : List RealtimeEvent :=
  s.realtimeEvents.filter fun e => e.key == k && e.phase == .settle && e.quota != 0

def tokenSettlements (k : RealtimeKey) (s : Store) : List RealtimeEvent :=
  s.realtimeEvents.filter fun e => e.key == k && e.phase == .settle && e.tokenQuota != 0

def usages (k : RealtimeKey) (s : Store) : List RealtimeEvent :=
  s.realtimeEvents.filter fun e => e.key == k && (e.usedQuota != 0 || e.requestCount != 0)

def settledQuota (k : RealtimeKey) (s : Store) : Int :=
  ((walletSettlements k s).map RealtimeEvent.quota).sum

def preCharged (k : RealtimeKey) (s : Store) : Int :=
  ((s.realtimeEvents.filter fun e => e.key == k && e.phase == .preConsume).map
    RealtimeEvent.quota).sum

section Conditions

variable (cfg : Config) (req : RealtimeKey → RealtimeRequest)

/-- An input describes the request of its key, says truthfully how far it has come, and brings the
parameters of its log. -/
def truthful (k : RealtimeKey) (input : QiniuRealtimeWalletFlowInput) (s : Store) : Bool :=
  input.userId == (req k).userId && input.tokenId == some (req k).tokenId &&
  input.quota == (req k).quota && input.preConsumedQuota == (req k).preConsumedQuota &&
  input.consumeLogParams.isSome &&
  (if input.settlementApplied then settledQuota k s == (req k).delta
    else (walletSettlements k s).isEmpty) &&
  (!input.usageStatsApplied || !(usages k s).isEmpty) &&
  (!input.usageApplied || input.usageStatsApplied && input.usageLogApplied) &&
  (input.consumeLogIds.isEmpty || input.usageStatsApplied) &&
  (cfg.logConsumeEnabled || input.usageLogApplied)

def unrecorded (k : RealtimeKey) (s : Store) : Bool :=
  s.realtimeApplications.all fun a => a.idempotencyKey != k

/-- The steps for a key come from one request: its id is not used twice, its session is settled
before the outcome is taken down and not again after that, and what is taken down is true. -/
def oneRequest (s : Store) : BillingTx → Bool
  | .newBillingSession _ info quota =>
    !info.qiniuMarket ||
    match requestKey info.requestId with
    | none => true
    | some k =>
      unrecorded k s && s.realtimeEvents.all (fun e => e.key != k) &&
      info.userId == (req k).userId && info.tokenId == (req k).tokenId &&
      quota == (req k).preConsumedQuota && decide (0 ≤ quota)
  | .settleBilling _ session actualQuota =>
    !session.info.qiniuMarket ||
    match requestKey session.info.requestId with
    | none => true
    | some k =>
      unrecorded k s && (walletSettlements k s).isEmpty && actualQuota == (req k).quota
  | .reserveQiniuRealtimeWalletApplication input | .recordQiniuRealtimeWalletFailure input _ =>
    match qiniuRealtimeWalletIdempotencyKey input with
    | none => true
    | some k => truthful cfg req k input s
  | _ => true

end Conditions

variable {cfg : Config} {req : RealtimeKey → RealtimeRequest} {s s' : Store} {k : RealtimeKey}

/-- What an input is known to be once it passed as truthful. -/
structure Truthful (cfg : Config) (req : RealtimeKey → RealtimeRequest) (k : RealtimeKey)
    (input : QiniuRealtimeWalletFlowInput) (s : Store) : Prop where
  user : input.userId = (req k).userId
  token : input.tokenId = some (req k).tokenId
  quota : input.quota = (req k).quota
  preConsumed : input.preConsumedQuota = (req k).preConsumedQuota
  params : input.consumeLogParams.isSome = true
  settled : input.settlementApplied = true → settledQuota k s = (req k).delta
  unsettled : input.settlementApplied = false → walletSettlements k s = []
  counted : input.usageStatsApplied = true → usages k s ≠ []
  usage : input.usageApplied = true → input.usageStatsApplied = true ∧ input.usageLogApplied = true
  covered : input.consumeLogIds ≠ [] → input.usageStatsApplied = true
  unlogged : cfg.logConsumeEnabled = false → input.usageLogApplied = true

theorem truthful_iff (h : truthful cfg req k input s = true) : Truthful cfg req k input s := by
  simp only [truthful, Bool.and_eq_true, beq_iff_eq, Bool.or_eq_true, Bool.not_eq_true',
    List.isEmpty_iff] at h
  obtain ⟨⟨⟨⟨⟨⟨⟨⟨⟨huser, htoken⟩, hquota⟩, hpre⟩, hparams⟩, hsettle⟩, hstats⟩, husage⟩, hcover⟩,
    hlog⟩ := h
  refine ⟨huser, htoken, hquota, hpre, hparams, ?_, ?_, ?_, ?_, ?_, ?_⟩
  · intro hs
    simpa [hs] using hsettle
  · intro hs
    simpa [hs] using hsettle
  · intro hs hnil
    rcases hstats with hstats | hstats
    · exact absurd hs (by simp [hstats])
    · exact absurd hnil (by simpa using hstats)
  · intro hs
    rcases husage with husage | husage
    · exact absurd hs (by simp [husage])
    · exact husage
  · intro hs
    exact hcover.resolve_left hs
  intro hs
  rcases hlog with hlog | hlog
  · exact absurd hs (by simp [hlog])
  · exact hlog

/-! ## Keys -/

theorem realtimeKey_trimSpace (b r : String) (ids : List Nat) :
    realtimeKey (trimSpace b) (trimSpace r) ids = realtimeKey b r ids := by
  unfold realtimeKey
  rw [isBlank_trimSpace, isBlank_trimSpace, trimSpace_trimSpace, trimSpace_trimSpace]

theorem realtimeKey_ids (h : realtimeKey b r ids = some k) (hids : ids ≠ [] → ids' = ids) :
    realtimeKey b r ids' = some k := by
  unfold realtimeKey at h ⊢
  split
  · rename_i hb
    rwa [if_pos hb] at h
  rename_i hb
  rw [if_neg hb] at h
  split
  · rename_i hr
    rwa [if_pos hr] at h
  rename_i hr
  rw [if_neg hr] at h
  rw [hids]
  · exact h
  · rintro rfl
    cases h

theorem lockApplicationByKeyTx_none (h : lockApplicationByKeyTx k s = none) :
    ∀ a ∈ s.realtimeApplications, a.idempotencyKey ≠ k := by
  intro a ha hk
  have hno := lookup_none h a ha
  simp [hk] at hno

theorem unrecorded_iff : unrecorded k s = true ↔
    ∀ a ∈ s.realtimeApplications, a.idempotencyKey ≠ k := by
  simp [unrecorded]

/-! ## The invariant -/

/-- The wallet has been charged the difference. -/
def WalletSettled (req : RealtimeKey → RealtimeRequest) (k : RealtimeKey) (s : Store) : Prop :=
  settledQuota k s = (req k).delta

def Opened (req : RealtimeKey → RealtimeRequest) (k : RealtimeKey) (s : Store) : Prop :=
  preCharged k s = (req k).preConsumedQuota

/-- The request has been counted in the statistics of its user, once. -/
def Counted (req : RealtimeKey → RealtimeRequest) (k : RealtimeKey) (s : Store) : Prop :=
  ∃ e, usages k s = [e] ∧ e.userId = (req k).userId ∧ e.usedQuota = (req k).quota ∧
    e.requestCount = 1

/-- A row, or a copy of one, that belongs to its request. -/
structure RowOf (req : RealtimeKey → RealtimeRequest) (s : Store)
    (a : QiniuRealtimeWalletApplication) : Prop where
  user : a.userId = (req a.idempotencyKey).userId
  token : a.tokenId = (req a.idempotencyKey).tokenId
  quota : a.quota = (req a.idempotencyKey).quota
  preConsumed : a.preConsumedQuota = (req a.idempotencyKey).preConsumedQuota
  positive : 0 < a.quota
  /-- The repair computes the same key again. -/
  keyed : realtimeKey a.batchId a.requestId a.consumeLogIds = some a.idempotencyKey
  settled : a.settlementApplied = true → WalletSettled req a.idempotencyKey s

/-- What the row of an application says about the request, and what is behind it. -/
structure RowFacts (req : RealtimeKey → RealtimeRequest) (s : Store)
    (a : QiniuRealtimeWalletApplication) : Prop extends RowOf req s a where
  /-- The repair finds the parameters of the consume log. -/
  payload : a.consumeLogPayload.isSome = true
  unsettled : a.settlementApplied = false → walletSettlements a.idempotencyKey s = []
  counted : a.usageStatsApplied = true → Counted req a.idempotencyKey s
  uncounted : a.usageStatsApplied = false → usages a.idempotencyKey s = []
  usage : a.usageApplied = true → a.usageStatsApplied = true ∧ a.usageLogApplied = true
  covered : a.consumeLogIds ≠ [] → a.usageStatsApplied = true

/-- And what it says about itself. -/
structure RowInv (req : RealtimeKey → RealtimeRequest) (s : Store)
    (a : QiniuRealtimeWalletApplication) : Prop extends RowFacts req s a where
  applied : a.status = .applied →
    a.settlementApplied = true ∧ a.usageApplied = true ∧ a.walletFlowId.isSome = true
  flow : a.walletFlowId.isSome = true → realtimeFlows a.idempotencyKey s ≠ []

/-- A copy of a task belongs to the request of its application: it names the user, the quota that
was charged in advance, and once it says that the settlement was applied, the final quota. -/
def CopyOf (req : RealtimeKey → RealtimeRequest) (s : Store) (t : Task) : Prop :=
  ∀ st id, t.qiniuRealtimeSettlement = some st → st.applicationId = some id →
    ∃ a, s.realtimeApplications[id]? = some a ∧ Opened req a.idempotencyKey s ∧
      t.userId = (req a.idempotencyKey).userId ∧
      st.preConsumedQuota = (req a.idempotencyKey).preConsumedQuota ∧
      (st.settlementApplied = true → t.quota = (req a.idempotencyKey).quota)

structure RealtimeInv (req : RealtimeKey → RealtimeRequest) (s : Store) : Prop where
  rows : ∀ a ∈ s.realtimeApplications, RowInv req s a
  unique : (s.realtimeApplications.map idempotencyKey).Nodup
  /-- Nothing is counted before the outcome is taken down. -/
  unseen : ∀ k, (∀ a ∈ s.realtimeApplications, a.idempotencyKey ≠ k) → usages k s = []
  once : ∀ k, walletSettlements k s = [] ∨
    ∃ e, walletSettlements k s = [e] ∧ e.userId = (req k).userId ∧ e.quota = (req k).delta
  /-- The token moves only together with the wallet. -/
  token : ∀ e ∈ s.realtimeEvents, e.phase = .settle → e.tokenQuota ≠ 0 → e.quota ≠ 0
  flows : ∀ k, (realtimeFlows k s).length ≤ 1
  tasks : ∀ t ∈ s.tasks, CopyOf req s t

/-- How the neighbours may move the state. -/
structure RealtimeRely (req : RealtimeKey → RealtimeRequest) (s s' : Store) : Prop where
  rows : ∀ (i : Nat) a, s.realtimeApplications[i]? = some a →
    ∃ a', s'.realtimeApplications[i]? = some a' ∧ a'.idempotencyKey = a.idempotencyKey ∧
      (a.usageStatsApplied = true → a'.usageStatsApplied = true)
  settled : ∀ k, WalletSettled req k s → WalletSettled req k s'
  opened : ∀ k, Opened req k s → Opened req k s'
  /-- A task stays with its user. -/
  tasks : ∀ (i : Nat) t, s.tasks[i]? = some t → ∃ t', s'.tasks[i]? = some t' ∧ t'.userId = t.userId

theorem RealtimeInv.row (h : RealtimeInv req s) (hi : s.realtimeApplications[i]? = some a) :
    RowInv req s a := h.rows a (mem_of_getElem? hi)

/-- The token moves only together with the wallet. -/
def TokenBound (events : List RealtimeEvent) : Prop :=
  ∀ e ∈ events, e.phase = .settle → e.tokenQuota ≠ 0 → e.quota ≠ 0

theorem TokenBound.append {es es' : List RealtimeEvent} (h : TokenBound es) (hev : es' = es ++ [e])
    (he : e.phase = .settle → e.tokenQuota ≠ 0 → e.quota ≠ 0) : TokenBound es' := by
  intro e' he'
  rw [hev] at he'
  rcases mem_append.mp he' with he' | he'
  · exact h e' he'
  · rw [mem_singleton] at he'
    exact he' ▸ he

theorem RealtimeRely.refl (req : RealtimeKey → RealtimeRequest) (s : Store) :
    RealtimeRely req s s where
  rows := fun _ a h => ⟨a, h, rfl, id⟩
  settled := fun _ h => h
  opened := fun _ h => h
  tasks := fun _ t h => ⟨t, h, rfl⟩

theorem RealtimeRely.trans (h : RealtimeRely req s s') (h' : RealtimeRely req s' s'') :
    RealtimeRely req s s'' where
  rows := by
    intro i a ha
    obtain ⟨a', ha', hk, hs⟩ := h.rows i a ha
    obtain ⟨a'', ha'', hk', hs'⟩ := h'.rows i a' ha'
    exact ⟨a'', ha'', hk'.trans hk, fun hst => hs' (hs hst)⟩
  settled := fun k hk => h'.settled k (h.settled k hk)
  opened := fun k hk => h'.opened k (h.opened k hk)
  tasks := by
    intro i t ht
    obtain ⟨t', ht', hu⟩ := h.tasks i t ht
    obtain ⟨t'', ht'', hu'⟩ := h'.tasks i t' ht'
    exact ⟨t'', ht'', hu'.trans hu⟩

theorem CopyOf.mono {t : Task} (h : CopyOf req s t) (hr : RealtimeRely req s s') :
    CopyOf req s' t := by
  intro st id hst hid
  obtain ⟨a, ha, ho, hrest⟩ := h st id hst hid
  obtain ⟨a', ha', hk, -⟩ := hr.rows id a ha
  rw [← hk] at ho hrest
  exact ⟨a', ha', hr.opened _ ho, hrest⟩

/-- A key that a step has nothing to do with. -/
structure KeyKept (k : RealtimeKey) (s s' : Store) : Prop where
  settlements : walletSettlements k s' = walletSettlements k s
  usages : usages k s' = usages k s
  flows : realtimeFlows k s' = realtimeFlows k s

theorem KeyKept.trans (h : KeyKept k s s') (h' : KeyKept k s' s'') : KeyKept k s s'' :=
  ⟨h'.settlements.trans h.settlements, h'.usages.trans h.usages, h'.flows.trans h.flows⟩

theorem KeyKept.settled (h : KeyKept k s s') (hs : WalletSettled req k s) : WalletSettled req k s' := by
  unfold WalletSettled settledQuota at ⊢
  rwa [h.settlements]

theorem opened_congr (h : preCharged k s' = preCharged k s) (ho : Opened req k s) :
    Opened req k s' := by
  unfold Opened at ⊢
  rwa [h]

theorem RowFacts.congr (h : RowFacts req s a)
    (hsettle : walletSettlements a.idempotencyKey s' = walletSettlements a.idempotencyKey s)
    (husage : usages a.idempotencyKey s' = usages a.idempotencyKey s) : RowFacts req s' a :=
  { h with
    settled := fun hs => by
      have hold := h.settled hs
      unfold WalletSettled settledQuota at ⊢
      rwa [hsettle]
    unsettled := fun hs => hsettle.trans (h.unsettled hs)
    counted := fun hs => by
      obtain ⟨e, he, hcount⟩ := h.counted hs
      exact ⟨e, husage.trans he, hcount⟩
    uncounted := fun hs => husage.trans (h.uncounted hs) }

theorem RowInv.kept (h : RowInv req s a) (hk : KeyKept a.idempotencyKey s s') :
    RowInv req s' a where
  toRowFacts := h.toRowFacts.congr hk.settlements hk.usages
  applied := h.applied
  flow := fun hf => by
    rw [hk.flows]
    exact h.flow hf

/-- A step keeps the invariant and stays within what the neighbours rely on. -/
structure Progress (req : RealtimeKey → RealtimeRequest) (s s' : Store) : Prop where
  inv : RealtimeInv req s'
  rely : RealtimeRely req s s'

/-! ## Steps, seen from the tables -/

theorem Progress.of_tasks (h : RealtimeInv req s)
    (happs : s'.realtimeApplications = s.realtimeApplications)
    (hkept : ∀ k, KeyKept k s s') (hopened : ∀ k, Opened req k s → Opened req k s')
    (htoken : TokenBound s'.realtimeEvents) (hcopies : ∀ t ∈ s'.tasks, CopyOf req s t)
    (husers : ∀ (i : Nat) t, s.tasks[i]? = some t →
      ∃ t', s'.tasks[i]? = some t' ∧ t'.userId = t.userId) : Progress req s s' := by
  have hr : RealtimeRely req s s' :=
    ⟨fun i a ha => ⟨a, happs ▸ ha, rfl, id⟩, fun k hk => (hkept k).settled hk, hopened, husers⟩
  refine ⟨⟨?_, happs ▸ h.unique, ?_, ?_, htoken, ?_, ?_⟩, hr⟩
  · intro a ha
    exact (h.rows a (happs ▸ ha)).kept (hkept _)
  · intro k hk
    exact (hkept k).usages.trans (h.unseen k (happs ▸ hk))
  · intro k
    rw [(hkept k).settlements]
    exact h.once k
  · intro k
    rw [(hkept k).flows]
    exact h.flows k
  · intro t ht
    exact (hcopies t ht).mono hr

theorem Progress.of_kept (h : RealtimeInv req s)
    (happs : s'.realtimeApplications = s.realtimeApplications) (htasks : s'.tasks = s.tasks)
    (hkept : ∀ k, KeyKept k s s') (hopened : ∀ k, Opened req k s → Opened req k s')
    (htoken : TokenBound s'.realtimeEvents) : Progress req s s' :=
  .of_tasks h happs hkept hopened htoken (fun t ht => h.tasks t (htasks ▸ ht))
    fun _ t ht => ⟨t, htasks ▸ ht, rfl⟩

theorem Aside.kept (h : Aside s s') (k : RealtimeKey) : KeyKept k s s' := by
  refine ⟨?_, ?_, h.flows k⟩
  · unfold walletSettlements
    rw [h.events]
  · unfold ApiGateway.usages
    rw [h.events]

theorem preCharged_congr (h : s'.realtimeEvents = s.realtimeEvents) :
    preCharged k s' = preCharged k s := by
  unfold preCharged
  rw [h]

theorem Progress.of_aside (h : RealtimeInv req s) (ha : Aside s s') : Progress req s s' :=
  .of_kept h ha.applications ha.tasks ha.kept
    (fun _ ho => opened_congr (preCharged_congr ha.events) ho) (ha.events ▸ h.token)

theorem Progress.refl (h : RealtimeInv req s) : Progress req s s := .of_aside h (.refl s)

theorem Progress.update (h : RealtimeInv req s)
    (hi : s.realtimeApplications[i]? = some a) (hkey : a'.idempotencyKey = a.idempotencyKey)
    (happs : s'.realtimeApplications = s.realtimeApplications.modify i fun _ => a')
    (htasks : s'.tasks = s.tasks) (hother : ∀ k, k ≠ a.idempotencyKey → KeyKept k s s')
    (hrow : RowInv req s' a') (hstats : a.usageStatsApplied = true → a'.usageStatsApplied = true)
    (hsettled : WalletSettled req a.idempotencyKey s → WalletSettled req a.idempotencyKey s')
    (hopened : ∀ k, preCharged k s' = preCharged k s)
    (honce : walletSettlements a.idempotencyKey s' = [] ∨
      ∃ e, walletSettlements a.idempotencyKey s' = [e] ∧
      e.userId = (req a.idempotencyKey).userId ∧ e.quota = (req a.idempotencyKey).delta)
    (htoken : TokenBound s'.realtimeEvents)
    (hflows : (realtimeFlows a.idempotencyKey s').length ≤ 1) : Progress req s s' := by
  have hunique : ∀ b ∈ s.realtimeApplications, b.idempotencyKey = a.idempotencyKey → b = a := by
    intro b hb hk
    exact inj_on_of_nodup_map h.unique hb (mem_of_getElem? hi) hk
  have hkeys : s'.realtimeApplications.map idempotencyKey =
      s.realtimeApplications.map idempotencyKey := by
    rw [happs]
    exact map_modify_of_eq hi hkey
  have hr : RealtimeRely req s s' := by
    refine ⟨?_, ?_, fun k ho => opened_congr (hopened k) ho, fun j t ht => ⟨t, htasks ▸ ht, rfl⟩⟩
    · intro j b hb
      by_cases hij : i = j
      · subst hij
        obtain rfl : a = b := Option.mem_unique hi hb
        exact ⟨a', by rw [happs, getElem?_modify_self hi], hkey, hstats⟩
      · exact ⟨b, by rw [happs, getElem?_modify_ne _ _ hij, hb], rfl, id⟩
    · intro k hk
      by_cases hka : k = a.idempotencyKey
      · subst hka
        exact hsettled hk
      · exact (hother k hka).settled hk
  refine ⟨⟨?_, hkeys ▸ h.unique, ?_, ?_, htoken, ?_, ?_⟩, hr⟩
  · intro b hb
    rw [happs] at hb
    rcases mem_modify hi hb with rfl | hb'
    · exact hrow
    by_cases hk : b.idempotencyKey = a.idempotencyKey
    · -- the old row is gone: its position holds the new one
      obtain rfl := hunique b hb' hk
      have hnew : a' ∈ s'.realtimeApplications :=
        mem_of_getElem? (by rw [happs, getElem?_modify_self hi])
      have hsame := inj_on_of_nodup_map (hkeys ▸ h.unique) (happs ▸ hb) hnew hkey.symm
      exact hsame ▸ hrow
    · exact (h.rows b hb').kept (hother _ hk)
  · intro k hk
    have hfree : ∀ b ∈ s.realtimeApplications, b.idempotencyKey ≠ k := by
      intro b hb hbk
      have hmem : k ∈ s'.realtimeApplications.map idempotencyKey := by
        rw [hkeys]
        exact mem_map.mpr ⟨b, hb, hbk⟩
      obtain ⟨c, hc, hck⟩ := mem_map.mp hmem
      exact hk c hc hck
    have hne : k ≠ a.idempotencyKey := fun hka => hfree a (mem_of_getElem? hi) hka.symm
    exact (hother k hne).usages.trans (h.unseen k hfree)
  · intro k
    by_cases hka : k = a.idempotencyKey
    · subst hka
      exact honce
    · rw [(hother k hka).settlements]
      exact h.once k
  · intro k
    by_cases hka : k = a.idempotencyKey
    · subst hka
      exact hflows
    · rw [(hother k hka).flows]
      exact h.flows k
  · intro t ht
    exact (h.tasks t (htasks ▸ ht)).mono hr

theorem Progress.rewrite (h : RealtimeInv req s)
    (hi : s.realtimeApplications[i]? = some a) (hkey : a'.idempotencyKey = a.idempotencyKey)
    (hrow : RowInv req s a') (hstats : a.usageStatsApplied = true → a'.usageStatsApplied = true) :
    Progress req s (s.setApplication i a') := by
  have hkept : ∀ k, KeyKept k s (s.setApplication i a') := fun k => ⟨rfl, rfl, rfl⟩
  exact .update h hi hkey rfl rfl (fun k _ => hkept k) (hrow.kept (hkept _)) hstats
    (fun hs => (hkept _).settled hs) (fun _ => rfl) (h.once _) h.token (h.flows _)

theorem Progress.insert (h : RealtimeInv req s)
    (hnew : ∀ b ∈ s.realtimeApplications, b.idempotencyKey ≠ a.idempotencyKey)
    (hrow : RowInv req s a) : Progress req s (s.addApplication a) := by
  have hkept : ∀ k, KeyKept k s (s.addApplication a) := fun k => ⟨rfl, rfl, rfl⟩
  have hr : RealtimeRely req s (s.addApplication a) := by
    exact ⟨fun i b hb => ⟨b, getElem?_append_some hb, rfl, id⟩, fun k hk => (hkept k).settled hk,
      fun _ ho => ho, fun i t ht => ⟨t, ht, rfl⟩⟩
  refine ⟨⟨?_, ?_, ?_, h.once, h.token, h.flows, fun t ht => (h.tasks t ht).mono hr⟩, hr⟩
  · intro b hb
    rcases mem_append.mp hb with hb' | hb'
    · exact (h.rows b hb').kept (hkept _)
    · obtain rfl := mem_singleton.mp hb'
      exact hrow.kept (hkept _)
  · rw [Store.addApplication_realtimeApplications, map_append]
    refine nodup_append.mpr ⟨h.unique, by simp, ?_⟩
    intro x hx y hy
    obtain ⟨b, hb, rfl⟩ := mem_map.mp hx
    rw [map_singleton, mem_singleton] at hy
    exact hy ▸ hnew b hb
  · intro k hk
    exact h.unseen k fun b hb => hk b (mem_append_left _ hb)

/-! ## Measured steps -/

theorem BillingTx.exec_ok {t : BillingTx} {r : t.Ret} (h : t.exec cfg s = .ok (s', r)) :
    ∃ s1, t.run cfg s = .ok (s1, r) ∧ s' = logged s s1 (t.account s) (t.taskEvent r) := by
  unfold exec at h
  cases hrun : t.run cfg s with
  | error =>
    rw [hrun] at h
    exact nomatch h
  | ok out =>
    rw [hrun] at h
    obtain ⟨s1, r1⟩ := out
    obtain ⟨rfl, rfl⟩ := h
    exact ⟨s1, rfl, rfl⟩

/-- An event that counts neither as a settlement nor as usage. -/
structure Neutral (e : RealtimeEvent) : Prop where
  settle : e.phase = .settle → e.quota = 0 ∧ e.tokenQuota = 0
  usedQuota : e.usedQuota = 0
  requestCount : e.requestCount = 0

/-- And not as an opening, either. -/
structure Idle (e : RealtimeEvent) : Prop extends Neutral e where
  phase : e.phase ≠ .preConsume

theorem kept_logged {a : Option Account}
    (hidle : ∀ acc, a = some acc → acc.key = k → Neutral (acc.measure s s1)) :
    KeyKept k s1 (logged s s1 a ev) := by
  cases a with
  | none => exact ⟨by simp [walletSettlements], by simp [usages], rfl⟩
  | some acc =>
    refine ⟨?_, ?_, rfl⟩
    · simp only [walletSettlements, logged_realtimeEvents, Option.map_some,
        Option.toList_some, filter_append, append_right_eq_self]
      by_cases hk : acc.key = k
      · have hi := hidle acc rfl hk
        rw [filter_eq_nil_iff]
        rintro e he
        rw [mem_singleton] at he
        subst he
        by_cases hp : (acc.measure s s1).phase = .settle
        · simp [(hi.settle hp).1]
        · simp [hp]
      · simp [Account.measure, hk]
    · simp only [usages]
      by_cases hk : acc.key = k
      · have hi := hidle acc rfl hk
        simp [hi.usedQuota, hi.requestCount]
      · simp [Account.measure, hk]

theorem preCharged_append
    (hev : s'.realtimeEvents = s.realtimeEvents ++ [e]) (he : e.phase ≠ .preConsume ∨ e.key ≠ k) :
    preCharged k s' = preCharged k s := by
  unfold preCharged
  rw [hev, filter_append, map_append]
  rcases he with he | he
  · simp [he]
  · simp [he]

theorem preCharged_append_self (hev : s'.realtimeEvents = s.realtimeEvents ++ [e]) :
    preCharged e.key s' = preCharged e.key s + if e.phase = .preConsume then e.quota else 0 := by
  unfold preCharged
  rw [hev, filter_append, map_append]
  split
  · rename_i hp
    simp [hp]
  · rename_i hp
    simp [hp]

theorem preCharged_clean (h : (s.realtimeEvents.all fun e => e.key != k) = true) :
    preCharged k s = 0 := by
  unfold preCharged
  rw [filter_eq_nil_iff.mpr]
  · rfl
  intro e he
  have hk := all_eq_true.mp h e he
  simp only [bne_iff_ne] at hk
  simp [hk]

theorem neutral_token {a : Option Account}
    (h : TokenBound s1.realtimeEvents) (hidle : ∀ acc, a = some acc → Neutral (acc.measure s s1)) :
    TokenBound (logged s s1 a ev).realtimeEvents := by
  cases a with
  | none => simpa [TokenBound] using h
  | some acc =>
    exact h.append (by simp) fun hp htok => absurd ((hidle acc rfl).settle hp).2 htok

theorem Progress.logged {a : Option Account}
    (h : Progress req s s1) (hidle : ∀ acc, a = some acc → Idle (acc.measure s s1)) :
    Progress req s (logged s s1 a ev) := by
  have hkept : ∀ k, KeyKept k s1 (BillingTx.logged s s1 a ev) :=
    fun k => kept_logged fun acc ha _ => (hidle acc ha).toNeutral
  have h' : Progress req s1 (BillingTx.logged s s1 a ev) := by
    refine .of_kept h.inv rfl rfl hkept (fun k ho => opened_congr ?_ ho)
      (neutral_token h.inv.token fun acc ha => (hidle acc ha).toNeutral)
    cases ha : a with
    | none => exact preCharged_congr (by simp)
    | some acc =>
      exact preCharged_append (by simp) (.inl (hidle acc ha).phase)
  exact ⟨h'.inv, h.rely.trans h'.rely⟩

theorem neutral_of_quiet (h : Quiet s s1) (hp : acc.phase ≠ .settle) :
    Neutral (acc.measure s s1) where
  settle := fun hs => absurd hs hp
  usedQuota := by simp [Account.measure, (h.usage acc.userId).1]
  requestCount := by simp [Account.measure, (h.usage acc.userId).2]

theorem idle_of_same (ho : acc.phase ≠ .preConsume)
    (husers : s1.users = s.users) (htokens : s1.tokens = s.tokens) : Idle (acc.measure s s1) where
  phase := ho
  settle := by
    intro _
    simp [Account.measure, BillingTx.tokenUsedQuota, husers, htokens]
  usedQuota := by simp [Account.measure, husers]
  requestCount := by simp [Account.measure, husers]

/-- An event that counts as a settlement and as nothing else. -/
structure Settling (e : RealtimeEvent) : Prop where
  phase : e.phase = .settle
  quota : e.quota ≠ 0
  usedQuota : e.usedQuota = 0
  requestCount : e.requestCount = 0

theorem Settling.settlements (h : Settling e) (hev : s'.realtimeEvents = s.realtimeEvents ++ [e]) :
    walletSettlements e.key s' = walletSettlements e.key s ++ [e] := by
  simp [walletSettlements, hev, h.phase, h.quota]

theorem Settling.kept (h : Settling e) (hev : s'.realtimeEvents = s.realtimeEvents ++ [e])
    (hflows : realtimeFlows k s' = realtimeFlows k s) (hk : k ≠ e.key) : KeyKept k s s' := by
  refine ⟨?_, ?_, hflows⟩
  · simp [walletSettlements, hev, hk.symm]
  · simp [ApiGateway.usages, hev, h.usedQuota, h.requestCount]

theorem Settling.usages (h : Settling e) (hev : s'.realtimeEvents = s.realtimeEvents ++ [e]) :
    ApiGateway.usages k s' = ApiGateway.usages k s := by
  simp [ApiGateway.usages, hev, h.usedQuota, h.requestCount]

theorem Progress.settle (h : RealtimeInv req s) (he : Settling e)
    (hfree : ∀ a ∈ s.realtimeApplications, a.idempotencyKey ≠ e.key)
    (hnone : walletSettlements e.key s = []) (huser : e.userId = (req e.key).userId)
    (hdelta : e.quota = (req e.key).delta)
    (happs : s'.realtimeApplications = s.realtimeApplications) (htasks : s'.tasks = s.tasks)
    (hflows : ∀ k, realtimeFlows k s' = realtimeFlows k s)
    (hev : s'.realtimeEvents = s.realtimeEvents ++ [e]) : Progress req s s' := by
  have hother : ∀ k, k ≠ e.key → KeyKept k s s' := fun k hk => he.kept hev (hflows k) hk
  have hr : RealtimeRely req s s' := by
    refine ⟨fun i a ha => ⟨a, happs ▸ ha, rfl, id⟩, ?_,
      fun k ho => opened_congr (preCharged_append hev (.inl (by simp [he.phase]))) ho,
      fun i t ht => ⟨t, htasks ▸ ht, rfl⟩⟩
    intro k hk
    by_cases hke : k = e.key
    · -- it cannot have been settled before: that would take a difference of zero
      subst hke
      unfold WalletSettled settledQuota at hk
      rw [hnone] at hk
      exact absurd (hdelta.trans hk.symm) he.quota
    · exact (hother k hke).settled hk
  refine ⟨⟨?_, happs ▸ h.unique, ?_, ?_, TokenBound.append h.token hev fun _ _ => he.quota, ?_, ?_⟩, hr⟩
  · intro a ha
    rw [happs] at ha
    exact (h.rows a ha).kept (hother _ (hfree a ha))
  · intro k hk
    exact (he.usages hev).trans (h.unseen k (happs ▸ hk))
  · intro k
    by_cases hke : k = e.key
    · subst hke
      exact .inr ⟨e, by rw [he.settlements hev, hnone]; rfl, huser, hdelta⟩
    · rw [(hother k hke).settlements]
      exact h.once k
  · intro k
    rw [hflows]
    exact h.flows k
  · intro t ht
    exact (h.tasks t (htasks ▸ ht)).mono hr

end ApiGateway
