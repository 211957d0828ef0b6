import ApiGateway.Proof.RealtimeSteps

/-!
# Realtime wallet applications are applied once

The handlers give the steps what they take for granted: a flow is only written after the settlement
and the statistics of its application went through, whoever did that, and the rows of tasks are only
written over with copies of themselves. So `RealtimeInv` is an invariant of every interleaving.
-/

namespace ApiGateway

open Table Decimal Interleave QiniuRealtimeWalletApplication List BillingTx CopyAt Stable

variable {cfg : Config} {req : RealtimeKey → RealtimeRequest} {s s' : Store} {k : RealtimeKey}
variable {id : Nat} {a : QiniuRealtimeWalletApplication} {P : Store → Prop}
  {input : QiniuRealtimeWalletFlowInput} {t : Task} {b : BillingSession}
  {settlementApplied : Bool}
variable {α : Type} {t' : Task} {actualQuota : Int}

/-- What a handler may rely on and has to provide. -/
def realtimeContract (cfg : Config) (req : RealtimeKey → RealtimeRequest) :
    Contract (billingSystem cfg) (fun s t => oneRequest cfg req s t = true) where
  inv := RealtimeInv req
  rely := RealtimeRely req
  mayRun t s := t.Owes cfg req s
  may _ _ := True
  rely_refl := RealtimeRely.refl req
  rely_trans := RealtimeRely.trans
  tx_inv _ t _ _ hi hC hm hx := (progress t hi hC hm hx).inv
  tx_rely _ t _ _ hi hC hm hx := (progress t hi hC hm hx).rely
  call_inv _ _ hi _ := hi
  call_rely s _ _ _ := RealtimeRely.refl req s

section Contract

variable (cfg req)

abbrev SafeFor (p : BillingProg cfg α) : Prop := Safe (realtimeContract cfg req) p

abbrev StableFor (P : Store → Prop) : Prop := Stable (realtimeContract cfg req) P

abbrev TripleFor (P : Store → Prop) (p : BillingProg cfg α) (Q : α → Store → Prop) : Prop :=
  Triple (realtimeContract cfg req) P p Q

end Contract

/-! ## What a handler knows about a row -/

/-- A copy of an application that was read earlier, and what has to be true of the row
since then. -/
structure Loaded (req : RealtimeKey → RealtimeRequest) (id : Nat)
    (a : QiniuRealtimeWalletApplication) (s : Store) : Prop extends RowOf req s a where
  payload : a.consumeLogPayload.isSome = true
  usage : a.usageApplied = true → a.usageStatsApplied = true
  row : ∃ row, s.realtimeApplications[id]? = some row ∧ row.idempotencyKey = a.idempotencyKey ∧
    (a.usageStatsApplied = true → row.usageStatsApplied = true)

theorem Loaded.of_row (h : RealtimeInv req s) (ha : s.realtimeApplications[id]? = some a) :
    Loaded req id a s :=
  { h.row ha with
    usage := fun hs => ((h.row ha).usage hs).1
    row := ⟨a, ha, rfl, fun hs => hs⟩ }

theorem Loaded.stable (id : Nat) (a : QiniuRealtimeWalletApplication) :
    StableFor cfg req (Loaded req id a) := by
  intro s s' h hr
  refine { h with settled := fun hs => hr.settled _ (h.settled hs), row := ?_ }
  obtain ⟨row, hrow, hkey, hstats⟩ := h.row
  obtain ⟨row', hrow', hkey', hstats'⟩ := hr.rows id row hrow
  exact ⟨row', hrow', hkey'.trans hkey, fun hs => hstats' (hstats hs)⟩

theorem settled_stable : StableFor cfg req (WalletSettled req k) :=
  fun _ _ h hr => hr.settled k h

def KeyAt (id : Nat) (k : RealtimeKey) (s : Store) : Prop :=
  ∃ row, s.realtimeApplications[id]? = some row ∧ row.idempotencyKey = k

theorem keyAt_stable : StableFor cfg req (KeyAt id k) := by
  rintro s s' ⟨row, hrow, hkey⟩ hr
  obtain ⟨row', hrow', hkey', -⟩ := hr.rows id row hrow
  exact ⟨row', hrow', hkey'.trans hkey⟩

def CountedAt (id : Nat) (k : RealtimeKey) (s : Store) : Prop :=
  ∃ row, s.realtimeApplications[id]? = some row ∧ row.idempotencyKey = k ∧
    row.usageStatsApplied = true

theorem countedAt_stable : StableFor cfg req (CountedAt id k) := by
  rintro s s' ⟨row, hrow, hkey, hstats⟩ hr
  obtain ⟨row', hrow', hkey', hstats'⟩ := hr.rows id row hrow
  exact ⟨row', hrow', hkey'.trans hkey, hstats' hstats⟩

theorem Loaded.keyAt (h : Loaded req id a s) : KeyAt id a.idempotencyKey s := by
  obtain ⟨row, hrow, hkey, -⟩ := h.row
  exact ⟨row, hrow, hkey⟩

/-! ## Single steps -/

theorem safe_step {t : BillingTx} (h : ∀ s, t.Owes cfg req s := by exact fun _ => trivial) :
    SafeFor cfg req (BillingProg.run t) :=
  safe_run fun s _ => h s

theorem safe_question (c : BillingCall) : SafeFor cfg req (BillingProg.ask c) :=
  safe_ask fun _ _ => trivial

variable {Q : α → Store → Prop}

theorem question_triple {c : BillingCall} {f : c.Resp → BillingProg cfg α}
    (hP : StableFor cfg req P) (hf : ∀ r, TripleFor cfg req P (f r) Q) :
    TripleFor cfg req P (BillingProg.ask c >>= f) Q :=
  triple_bind (triple_of_safe hP (safe_question c)) hf

@[simp]
theorem logged_none (s s1 : Store) : logged s s1 none none = s1 := by
  simp [logged]

/-- A step that is given what it takes for granted, with the invariant on both sides. -/
theorem step_triple {t : BillingTx} {Q : t.Ret → Store → Prop} (hP : StableFor cfg req P)
    (h : ∀ s s1 (r : t.Ret), RealtimeInv req s → P s → oneRequest cfg req s t = true →
      t.run cfg s = .ok (s1, r) → t.Owes cfg req s ∧
        (RealtimeInv req (logged s s1 (t.account s) (t.taskEvent r)) →
          Q r (logged s s1 (t.account s) (t.taskEvent r)))) :
    TripleFor cfg req P (BillingProg.run t) Q := by
  refine triple_run hP fun s s' r hi hs hC hx => ?_
  obtain ⟨s1, hrun, hs'⟩ := exec_ok hx
  obtain ⟨howes, hQ⟩ := h s s1 r hi hs hC hrun
  refine ⟨howes, ?_⟩
  have hinv := (progress t hi hC howes hx).inv
  rw [hs'] at hinv ⊢
  exact hQ hinv

theorem load_triple (hP : StableFor cfg req P) :
    TripleFor cfg req P
      (BillingProg.run (.loadQiniuRealtimeWalletApplication id))
      fun a s => P s ∧ s.realtimeApplications[id]? = some a ∧ Loaded req id a s := by
  refine step_triple hP fun s s1 a hi hs _ hrun => ⟨trivial, fun _ => ?_⟩
  obtain ⟨ha, rfl⟩ := load_ok hrun
  simp only [BillingTx.account, taskEvent, logged_none]
  exact ⟨hs, ha, .of_row hi ha⟩

variable {p : BillingProg cfg α}

theorem orMarkFailed_triple (h : TripleFor cfg req P p Q) :
    TripleFor cfg req P (orMarkFailed cfg id p) Q := by
  refine triple_bind (triple_attempt h) fun r => ?_
  cases r with
  | ok a => exact triple_pure fun s hs => hs a rfl
  | error e =>
    exact triple_bind (Safe.triple (safe_ignore safe_step)) fun _ =>
      triple_fail e

/-! ## Repair -/

theorem retry_triple (tokenRefused : Bool) :
    TripleFor cfg req (KeyAt id k)
      (BillingProg.run (.retryQiniuRealtimeWalletSettlement id tokenRefused))
      fun _ s => KeyAt id k s ∧ WalletSettled req k s := by
  refine step_triple keyAt_stable fun s s1 r hi hs _ hrun => ⟨trivial, fun hinv => ?_⟩
  obtain ⟨a, ha, hcases⟩ := retryQiniuRealtimeWalletSettlement_ok (effect_ok hrun)
  obtain ⟨row, hrow, rfl⟩ := hs
  obtain rfl : row = a := Option.mem_unique hrow ha
  have hnow : ∃ a', s1.realtimeApplications[id]? = some a' ∧
      a'.idempotencyKey = row.idempotencyKey ∧ a'.settlementApplied = true := by
    rcases hcases with ⟨rfl, hflag⟩ | ⟨-, s2, -, hquiet, ⟨-, rfl, rfl⟩ | ⟨-, -, rfl | rfl⟩⟩
    · exact ⟨row, ha, rfl, hflag⟩
    · exact ⟨_, getElem?_modify_self ha, rfl, rfl⟩
    all_goals exact ⟨_, getElem?_modify_self (hquiet.applications ▸ ha), rfl, rfl⟩
  obtain ⟨a', ha', hkey, hflag⟩ := hnow
  exact ⟨⟨a', ha', hkey⟩, hkey ▸ (hinv.row ha').settled hflag⟩

variable {params : Option RecordConsumeLogParams}

theorem restore_triple (hparams : params.isSome = true) :
    TripleFor cfg req (KeyAt id k)
      (BillingProg.run (.restoreQiniuRealtimeUsageStats id params)) fun _ s => CountedAt id k s := by
  refine step_triple keyAt_stable fun s s1 r hi hs _ hrun => ⟨hparams, fun _ => ?_⟩
  obtain ⟨a, ha, hcases⟩ := restoreQiniuRealtimeUsageStats_ok (effect_ok hrun)
  obtain ⟨row, hrow, rfl⟩ := hs
  obtain rfl : row = a := Option.mem_unique hrow ha
  rcases hcases with ⟨hused | hstats, rfl⟩ | ⟨hstats, -, rfl⟩ | ⟨-, -, rfl⟩
  · exact ⟨row, ha, rfl, ((hi.row ha).usage hused).1⟩
  · exact ⟨row, ha, rfl, hstats⟩
  · exact ⟨_, getElem?_modify_self ha, rfl, hstats⟩
  · obtain ⟨p, rfl⟩ := Option.isSome_iff_exists.mp hparams
    simp only [restoredUsage, if_pos (hi.row ha).positive]
    exact ⟨_, getElem?_modify_self ha, rfl, rfl⟩

theorem restoreQiniuRealtimeUsageLog_safe :
    SafeFor cfg req (restoreQiniuRealtimeUsageLog cfg id params) := by
  unfold restoreQiniuRealtimeUsageLog ensureQiniuRealtimeReplayConsumeLog
  split
  · exact safe_step
  split
  · exact safe_step
  refine safe_bind safe_step fun current => ?_
  split
  · split
    · exact safe_step
    · exact safe_done _
  refine safe_bind (safe_done _) fun _ => safe_bind ?_ fun _ => safe_step
  split
  · refine safe_bind safe_step fun existing => ?_
    split
    · exact safe_done _
    · exact safe_bind safe_step fun _ => safe_done _
  · exact safe_done _

theorem repairSettlement_triple (e : QiniuRealtimeWalletApplication) :
    TripleFor cfg req (Loaded req id e) (repairSettlement cfg id e)
      fun a s => a.idempotencyKey = e.idempotencyKey ∧ Loaded req id a s ∧
        WalletSettled req e.idempotencyKey s := by
  unfold repairSettlement
  split
  · rename_i hflag
    exact triple_pure fun s hs => ⟨rfl, hs, hs.settled hflag⟩
  refine question_triple (Loaded.stable id e) fun refused => ?_
  refine triple_bind (orMarkFailed_triple ((retry_triple refused).pre fun _ hs => hs.keyAt)) fun _ => ?_
  refine (load_triple (keyAt_stable.and settled_stable)).post ?_
  rintro a s ⟨⟨⟨row, hrow, hkey⟩, hsettled⟩, ha, hload⟩
  rw [Option.mem_unique hrow ha] at hkey
  exact ⟨hkey, hload, hsettled⟩

theorem repairUsage_triple (e : QiniuRealtimeWalletApplication) (hk : e.idempotencyKey = k) :
    TripleFor cfg req (fun s => WalletSettled req k s ∧ Loaded req id e s)
      (repairUsage cfg id e)
      fun a s => a.idempotencyKey = k ∧ a.usageStatsApplied = true ∧ Loaded req id a s ∧
        WalletSettled req k s := by
  subst hk
  unfold repairUsage
  split
  · rename_i hused
    exact triple_pure fun s hs => ⟨rfl, hs.2.usage hused, hs.2, hs.1⟩
  have hfacts : TripleFor cfg req (Loaded req id e)
      (restoreQiniuRealtimeUsageFacts cfg id e) fun _ s => CountedAt id e.idempotencyKey s := by
    intro s hs
    refine triple_bind (restore_triple hs.payload) (fun _ => ?_) s hs.keyAt
    exact triple_of_safe countedAt_stable restoreQiniuRealtimeUsageLog_safe
  refine triple_bind (orMarkFailed_triple (triple_frame settled_stable hfacts)) fun _ => ?_
  refine (load_triple (settled_stable.and countedAt_stable)).post ?_
  rintro a s ⟨⟨hsettled, row, hrow, hkey, hstats⟩, ha, hload⟩
  rw [Option.mem_unique hrow ha] at hkey hstats
  exact ⟨hkey, hstats, hload, hsettled⟩

/-! ## Writing the flow -/

/-- An input that was made from a copy of a row. -/
structure InputFrom (a : QiniuRealtimeWalletApplication) (input : QiniuRealtimeWalletFlowInput) :
    Prop where
  user : input.userId = a.userId
  token : input.tokenId = some a.tokenId
  request : input.requestId = a.requestId
  batch : input.batchId = a.batchId
  logs : input.consumeLogIds = a.consumeLogIds
  quota : input.quota = a.quota
  preConsumed : input.preConsumedQuota = a.preConsumedQuota

/-- What a handler knows before it writes the flow. -/
structure Ready (req : RealtimeKey → RealtimeRequest) (id : Nat)
    (a : QiniuRealtimeWalletApplication) (s : Store) : Prop where
  loaded : Loaded req id a s
  counted : a.usageStatsApplied = true
  settled : WalletSettled req a.idempotencyKey s

theorem Ready.stable (id : Nat) (a : QiniuRealtimeWalletApplication) :
    StableFor cfg req (Ready req id a) :=
  fun s s' h hr => ⟨Loaded.stable id a s s' h.loaded hr, h.counted, hr.settled _ h.settled⟩

theorem Ready.appliable (h : Ready req id a s) (hinput : InputFrom a input) :
    Appliable cfg req input s := by
  obtain ⟨row, hrow, hkey, hstats⟩ := h.loaded.row
  refine ⟨id, row, hrow, ?_⟩
  rw [hkey]
  refine ⟨?_, hinput.user.trans h.loaded.user, ?_, hinput.quota.trans h.loaded.quota,
    hinput.preConsumed.trans h.loaded.preConsumed, h.settled, fun _ => hstats h.counted⟩
  · unfold qiniuRealtimeWalletIdempotencyKey
    rw [hinput.batch, hinput.request, hinput.logs]
    exact h.loaded.keyed
  · rw [hinput.token, h.loaded.token]

theorem apply_triple (hinput : InputFrom a input) :
    TripleFor cfg req (Ready req id a)
      (BillingProg.run (.applyQiniuRealtimeWalletFlow input)) fun r s => Loaded req r.1 r.2 s := by
  refine step_triple (Ready.stable id a) fun s s1 r _ hs _ hrun =>
    ⟨hs.appliable hinput, fun hinv => ?_⟩
  obtain ⟨-, hrow⟩ := applyQiniuRealtimeWalletFlow_frame hrun
  exact .of_row hinv hrow

/-! ## Task rows -/

theorem CopyAt.stable (id : Nat) (t : Task) : StableFor cfg req fun s => CopyAt req s id t := by
  rintro s s' ⟨hcopy, row, hrow, hu⟩ hr
  obtain ⟨row', hrow', hu'⟩ := hr.tasks id row hrow
  exact ⟨hcopy.mono hr, row', hrow', hu.trans hu'.symm⟩

theorem CopyAt.of_row (h : RealtimeInv req s) (ht : s.tasks[id]? = some t) : CopyAt req s id t :=
  ⟨h.tasks t (mem_of_getElem? ht), t, ht, rfl⟩

/-- The program does no harm when it is run with a copy of the task in row `id`. -/
abbrev RunsOnCopy (cfg : Config) (req : RealtimeKey → RealtimeRequest) (id : Nat) (t : Task)
    (p : BillingProg cfg Unit) : Prop :=
  TripleFor cfg req (fun s => CopyAt req s id t) p fun _ _ => True

theorem CopyAt.congr (h : CopyAt req s id t)
    (hst : t'.qiniuRealtimeSettlement = t.qiniuRealtimeSettlement) (hu : t'.userId = t.userId)
    (hq : t'.quota = t.quota) : CopyAt req s id t' := by
  refine ⟨?_, hu ▸ h.user⟩
  intro st aid hst' haid
  rw [hu, hq]
  exact h.copy st aid (hst ▸ hst') haid

/-- The copies that a query returns. -/
def Copies (req : RealtimeKey → RealtimeRequest) (tasks : List (Task × Nat)) (s : Store) : Prop :=
  ∀ r ∈ tasks, CopyAt req s r.2 r.1

theorem Copies.stable (tasks : List (Task × Nat)) : StableFor cfg req (Copies req tasks) :=
  fun s s' h hr r hmem => CopyAt.stable r.2 r.1 s s' (h r hmem) hr

theorem Copies.of_filter (h : RealtimeInv req s) {p : Task × Nat → Bool} :
    Copies req (s.tasks.zipIdx.filter p) s := by
  rintro ⟨t, i⟩ hmem
  have hget := mem_zipIdx_iff_getElem?.mp (mem_of_mem_filter hmem)
  exact .of_row h hget

theorem unfinishedTasks_triple : TripleFor cfg req (fun _ => True)
    (BillingProg.run .unfinishedTasks) fun tasks s => Copies req tasks s := by
  refine step_triple (const True) fun s s1 tasks hi _ _ hrun => ⟨trivial, fun _ => ?_⟩
  obtain ⟨rfl, rfl⟩ := ok_pair_inj hrun
  simp only [BillingTx.account, taskEvent, logged_none]
  exact Copies.of_filter hi

theorem markQiniuRealtimeTaskSettlementApplied_triple :
    TripleFor cfg req (Loaded req id a)
      (markQiniuRealtimeTaskSettlementApplied cfg id a.quota) fun _ _ => True := by
  refine triple_bind (Q := fun tasks s => ∀ r ∈ tasks, CopyAt req s r.2 (r.1.settledAt a.quota)) ?_
    fun tasks => ?_
  · refine step_triple (Loaded.stable id a) fun s s1 tasks hi hs _ hrun => ⟨trivial, fun _ => ?_⟩
    obtain ⟨rfl, rfl⟩ := ok_pair_inj hrun
    simp only [BillingTx.account, taskEvent, logged_none]
    rintro ⟨t, i⟩ hmem
    have hcopy := Copies.of_filter hi _ hmem
    have happ : (t.qiniuRealtimeSettlement.bind fun st => st.applicationId) = some id := by
      simpa using (mem_filter.mp hmem).2
    refine ⟨?_, hcopy.user⟩
    intro st' aid hst' haid
    obtain ⟨st, hst, hid⟩ := Option.bind_eq_some_iff.mp happ
    simp only [Task.settledAt, hst, Option.map_some, Option.some.injEq] at hst'
    subst hst'
    obtain rfl : id = aid := Option.mem_unique hid haid
    obtain ⟨row, hrow, ho, hu, hpre, -⟩ := hcopy.copy st id hst hid
    obtain ⟨row', hrow', hkey, -⟩ := hs.row
    obtain rfl : row' = row := Option.mem_unique hrow' hrow
    refine ⟨row', hrow, ho, hu, hpre, fun _ => ?_⟩
    rw [hkey, ← hs.quota]
    exact if_pos hs.positive
  · refine (triple_forEach fun r hr => ?_).post fun _ _ _ => trivial
    refine triple_run_stable ?_ fun s _ hs => hs r hr
    intro s s' h hrely r hr
    exact stable _ _ s s' (h r hr) hrely

/-! ## Handlers -/

theorem repairQiniuRealtimeWalletApplication_safe :
    SafeFor cfg req (repairQiniuRealtimeWalletApplication cfg id) := by
  refine safe_of_triple ?_
  refine triple_bind (load_triple (const True)) fun e => ?_
  refine triple_bind ((repairSettlement_triple e).pre fun _ h => h.2.2) fun e' => ?_
  refine triple_bind (Q := fun a s => Ready req id a s) ?_ fun a => ?_
  · intro s hs
    refine (repairUsage_triple e' hs.1).post ?_ s ⟨hs.2.2, hs.2.1⟩
    rintro a s ⟨hkey, hstats, hload, hsettled⟩
    exact ⟨hload, hstats, hkey ▸ hsettled⟩
  · refine triple_bind (orMarkFailed_triple (apply_triple ⟨rfl, rfl, rfl, rfl, rfl, rfl, rfl⟩))
      fun r => ?_
    exact orMarkFailed_triple markQiniuRealtimeTaskSettlementApplied_triple

variable (ctx : RequestContext)

theorem ensureQiniuRealtimeOnlineConsumeLog_safe :
    SafeFor cfg req (ensureQiniuRealtimeOnlineConsumeLog cfg ctx a params) := by
  unfold ensureQiniuRealtimeOnlineConsumeLog
  split
  · exact safe_done _
  split
  · exact safe_done _
  refine safe_bind safe_step fun covered => ?_
  split
  · exact safe_done _
  refine safe_bind safe_step fun existing => ?_
  split
  · exact safe_done _
  · exact safe_step

theorem orMarkFailed_safe (h : SafeFor cfg req p) :
    SafeFor cfg req (orMarkFailed cfg id p) :=
  (orMarkFailed_triple (triple_of_safe (const True) h)).safe fun _ => trivial

theorem logOnlineRequest_safe (current : QiniuRealtimeWalletApplication) :
    SafeFor cfg req (logOnlineRequest cfg ctx id current params) := by
  unfold logOnlineRequest
  split
  · exact safe_done _
  refine safe_bind (safe_attempt (ensureQiniuRealtimeOnlineConsumeLog_safe ctx))
    fun r => ?_
  cases r with
  | ok =>
    exact safe_bind (orMarkFailed_safe safe_step) fun _ => safe_done _
  | error => exact safe_done _

theorem applyReserved_triple (hparams : input.consumeLogParams.isSome = true) {statsApplied : Bool} :
    TripleFor cfg req
      (fun s => WalletSettled req k s ∧ KeyAt id k s ∧ (statsApplied = true → CountedAt id k s))
      (applyReserved cfg ctx input id statsApplied) fun _ _ => True := by
  refine triple_bind (Q := fun _ s => WalletSettled req k s ∧ CountedAt id k s) ?_ fun _ => ?_
  · split
    · rename_i hstats
      exact triple_pure fun s hs => ⟨hs.1, hs.2.2 hstats⟩
    · exact (triple_frame settled_stable (orMarkFailed_triple
        (restore_triple hparams))).pre fun s hs => ⟨hs.1, hs.2.1⟩
  have hstable : StableFor cfg req fun s => WalletSettled req k s ∧ CountedAt id k s :=
    settled_stable.and countedAt_stable
  refine triple_bind ((load_triple hstable).post fun _ _ h => h.1) fun current => ?_
  refine triple_bind (triple_of_safe hstable (logOnlineRequest_safe ctx current))
    fun logErr => ?_
  refine triple_bind (Q := fun a s => Ready req id a s) ?_ fun a => ?_
  · refine (load_triple hstable).post ?_
    rintro a s ⟨⟨hsettled, row, hrow, hkey, hstats⟩, ha, hload⟩
    rw [Option.mem_unique hrow ha] at hkey hstats
    exact ⟨hload, hstats, hkey ▸ hsettled⟩
  refine triple_bind (orMarkFailed_triple (apply_triple ⟨rfl, rfl, rfl, rfl, rfl, rfl, rfl⟩))
    fun _ => ?_
  cases logErr with
  | none => exact triple_skip
  | some e =>
    exact triple_bind (Safe.triple (safe_ignore safe_step)) fun _ =>
    triple_fail e

theorem reserve_triple (hsettled : input.settlementApplied = true) :
    TripleFor cfg req (fun _ => True)
      (BillingProg.run (.reserveQiniuRealtimeWalletApplication input))
      fun r s => input.consumeLogParams.isSome = true ∧ ∃ k, WalletSettled req k s ∧ KeyAt r.1 k s ∧
        (r.2.1.usageStatsApplied = true → CountedAt r.1 k s) := by
  refine step_triple (const True) fun s s1 r hi _ hC hrun => ⟨trivial, fun hinv => ?_⟩
  obtain ⟨-, hrow, hkey, hflag⟩ := reserveQiniuRealtimeWalletApplication_frame hrun
  simp only [oneRequest, hkey] at hC
  refine ⟨(truthful_iff hC).params, r.2.1.idempotencyKey, ?_, ⟨_, hrow, rfl⟩,
    fun hs => ⟨_, hrow, rfl, hs⟩⟩
  exact (hinv.row hrow).settled (hflag hsettled)

theorem applyQiniuRealtimeWalletFlowWithUsageFacts_safe (hsettled : input.settlementApplied = true) :
    SafeFor cfg req (applyQiniuRealtimeWalletFlowWithUsageFacts cfg ctx input) := by
  refine safe_of_triple ?_
  refine triple_bind (reserve_triple hsettled) fun r => ?_
  split
  · exact triple_skip
  · rintro s ⟨hparams, k, hs⟩
    exact applyReserved_triple ctx hparams s hs

theorem recordConsumeLogWithQiniuRealtimeWalletFlow_safe (session : BillingSession)
    (params : RecordConsumeLogParams) {settlementErr : Option Err} :
    SafeFor cfg req (recordConsumeLogWithQiniuRealtimeWalletFlow cfg ctx session
      params settlementApplied settlementErr) := by
  unfold recordConsumeLogWithQiniuRealtimeWalletFlow
  split
  · exact safe_ignore safe_step
  dsimp only
  split
  · exact safe_ignore (safe_bind safe_step fun _ =>
      safe_bind safe_step fun _ => safe_done _)
  · split
    · exact safe_ignore safe_step
    · exact safe_ignore (applyQiniuRealtimeWalletFlowWithUsageFacts_safe ctx rfl)

/-- A session that is about to be taken down as a task. -/
def TaskSession (req : RealtimeKey → RealtimeRequest) (b : BillingSession) (actualQuota : Int)
    (settlementApplied : Bool) : Prop :=
  b.info.qiniuMarket = true → ∀ k, requestKey b.info.requestId = some k →
    b.info.userId = (req k).userId ∧ b.preConsumedQuota = (req k).preConsumedQuota ∧
    (settlementApplied = true → actualQuota = (req k).quota)

/-- The session has charged what it was opened for. -/
def SessionOpened (req : RealtimeKey → RealtimeRequest) (info : RelayInfo) (s : Store) : Prop :=
  info.qiniuMarket = true → ∀ k, requestKey info.requestId = some k → Opened req k s

variable (info : RelayInfo)

theorem SessionOpened.stable : StableFor cfg req (SessionOpened req info) :=
  fun _ _ h hr hm k hk => hr.opened k (h hm k hk)

theorem newBillingSession_triple (faults : PreConsumeFaults) (info : RelayInfo) (quota : Int) :
    TripleFor cfg req (fun _ => True)
      (BillingProg.run (.newBillingSession faults info quota))
      fun r s => ∀ b, r = .ok b → SessionOf req b ∧ SessionOpened req b.info s := by
  refine step_triple (const True) fun s s1 r hi _ hC hrun => ⟨trivial, fun _ => ?_⟩
  rintro b rfl
  simp only [run, Except.ok.injEq, Prod.mk.injEq] at hrun
  obtain ⟨hmarket, hrequest⟩ :=
    newBillingSession_openedFor faults faults (fun _ => false) 0 info quota s b hrun.2
  have hquiet : Quiet s s1 := hrun.1 ▸ newBillingSession_quiet cfg faults faults (fun _ => false) 0
    info quota s
  rw [SessionOf, SessionOpened, hmarket, hrequest]
  simp only [oneRequest] at hC
  refine ⟨fun hm k hk => ?_, fun hm k hk => ?_⟩
  all_goals
    simp only [hm, hk, Bool.not_true, Bool.false_or, Bool.and_eq_true, beq_iff_eq,
      decide_eq_true_eq] at hC
    obtain ⟨⟨⟨⟨⟨-, hclean⟩, hu⟩, ht⟩, hq⟩, hnonneg⟩ := hC
    obtain ⟨hses, htaken⟩ := newBillingSession_market hm hnonneg (Prod.ext hrun.2 hrun.1)
  · obtain ⟨c, hfund⟩ := hses.funding
    exact ⟨hses.user.trans hu, hses.token.trans ht, hses.preConsumed.trans hq,
      ⟨c, hses.user ▸ hfund⟩, hses.fundingOpen⟩
  -- the charge in advance is the first event of the request
  obtain ⟨acc, hacc, rfl, huser, hphase⟩ : ∃ acc,
      (BillingTx.newBillingSession faults info quota).account s = some acc ∧ acc.key = k ∧
      acc.userId = info.userId ∧ acc.phase = .preConsume :=
    ⟨_, by simp only [BillingTx.account, BillingTx.requestAccount, hm, hk]; rfl, rfl, rfl, rfl⟩
  have hev : (logged s s1 (some acc) none).realtimeEvents =
      s.realtimeEvents ++ [acc.measure s s1] := by simp [hquiet.events]
  have hmeasure : (acc.measure s s1).quota = quota := by
    rw [← huser] at htaken
    exact htaken
  rw [hacc]
  refine (preCharged_append_self hev).trans ?_
  rw [if_pos (show (acc.measure s s1).phase = .preConsume from hphase), hmeasure,
    show preCharged (acc.measure s s1).key s = 0 from preCharged_clean hclean, zero_add]
  exact hq

theorem settleBilling_triple (hb : SessionOf req b) :
    TripleFor cfg req (fun _ => True) (settleBilling cfg b actualQuota)
      fun r _ => TaskSession req r.1 actualQuota r.2.isNone ∧ r.1.info = b.info := by
  refine question_triple (const True) fun faults => ?_
  refine triple_bind (triple_attempt (Q := fun r _ =>
    TaskSession req r.1 actualQuota r.2.isNone ∧ r.1.info = b.info) ?_) fun r => ?_
  · refine step_triple (const True) fun s s1 r hi _ hC hrun => ⟨hb, fun _ => ?_⟩
    obtain ⟨-, rfl⟩ := ok_pair_inj hrun
    obtain ⟨hinfo, hpre, -⟩ := Billing.settle_frame cfg faults actualQuota ⟨b, s⟩
    refine ⟨fun hm k hk => ?_, hinfo⟩
    dsimp only at hinfo
    rw [hinfo] at hm hk ⊢
    rw [hpre]
    obtain ⟨hu, -, hp, -⟩ := hb hm k hk
    simp only [oneRequest, hm, hk, Bool.not_true, Bool.false_or, Bool.and_eq_true, beq_iff_eq] at hC
    exact ⟨hu, hp, fun _ => hC.2⟩
  · cases r with
    | ok r => exact triple_pure fun s hs => hs r rfl
    | error =>
      refine triple_pure fun s _ => ⟨fun hm k hk => ?_, rfl⟩
      obtain ⟨hu, -, hpre, -⟩ := hb hm k hk
      exact ⟨hu, hpre, fun h => absurd h (by simp)⟩

theorem newTask_application {taskId : String} {st : QiniuRealtimeTaskSettlement}
    (hst : (newTask taskId b actualQuota settlementApplied s).qiniuRealtimeSettlement = some st)
    (hid : st.applicationId = some id) :
    b.info.qiniuMarket = true ∧ st.preConsumedQuota = b.preConsumedQuota ∧
      st.settlementApplied = settlementApplied ∧
      (settlementApplied = true →
        (newTask taskId b actualQuota settlementApplied s).quota = actualQuota) ∧
      ∃ a, s.realtimeApplications[id]? = some a ∧
        requestKey b.info.requestId = some a.idempotencyKey := by
  simp only [newTask, buildQiniuRealtimeTaskSettlement] at hst ⊢
  split at hst
  · rename_i hm
    obtain rfl := Option.some.inj hst
    obtain ⟨k, hk, hlookup⟩ := Option.bind_eq_some_iff.mp hid
    obtain ⟨⟨i, a⟩, hfound, rfl⟩ := Option.map_eq_some_iff.mp hlookup
    obtain ⟨hget, hkey⟩ := lookup_some hfound
    obtain rfl : a.idempotencyKey = k := beq_iff_eq.mp hkey
    refine ⟨hm, rfl, rfl, fun hs => ?_, a, hget, hk⟩
    simp [hm, hs]
  · cases hst

theorem TaskSession.copyOf
    (h : TaskSession req b actualQuota settlementApplied) (ho : SessionOpened req b.info s)
    (taskId : String) : CopyOf req s (newTask taskId b actualQuota settlementApplied s) := by
  intro st id hst hid
  obtain ⟨hm, hpre, hflag, hquota, a, ha, hk⟩ := newTask_application hst hid
  obtain ⟨hu, hp, hq⟩ := h hm _ hk
  refine ⟨a, ha, ho hm _ hk, hu, hpre.trans hp, fun hs => ?_⟩
  exact (hquota (hflag ▸ hs)).trans (hq (hflag ▸ hs))

theorem relay_safe (quota : Int) :
    SafeFor cfg req (relay cfg ctx info quota) := by
  refine safe_of_triple ?_
  refine question_triple (const True) fun faults => ?_
  refine triple_bind (newBillingSession_triple faults info quota) fun r => ?_
  cases r with
  | error => exact triple_fail _
  | ok session =>
    intro s hses
    refine triple_bind (P := fun _ => True) (safe_question _).triple (fun result => ?_) s trivial
    cases result with
    | none => exact triple_skip
    | some result =>
      refine triple_bind (settleBilling_triple (hses session rfl).1) fun r => ?_
      exact (recordConsumeLogWithQiniuRealtimeWalletFlow_safe ctx r.1 _).triple

theorem relayTaskSettled_triple {session : BillingSession} {result : UpstreamResult}
    (h : TaskSession req session result.quota settlementApplied) :
    TripleFor cfg req (SessionOpened req session.info)
      (relayTaskSettled cfg ctx session result settlementApplied) fun _ _ => True := by
  have hinsert : ∀ t, TripleFor cfg req (fun s => CopyOf req s t)
      (BillingProg.run (.insertTask t)).ignore fun _ _ => True := by
    intro t
    exact triple_bind (triple_attempt (triple_run_stable (fun s s' h hr => h.mono hr)
      fun s _ hs => hs)) fun _ => triple_skip
  refine triple_bind (triple_of_safe (SessionOpened.stable session.info)
    (recordConsumeLogWithQiniuRealtimeWalletFlow_safe ctx session _)) fun _ => ?_
  refine triple_bind (triple_attempt (Q := fun t s => CopyOf req s t) ?_) fun r => ?_
  · refine step_triple (SessionOpened.stable session.info)
      fun s s1 t hi ho _ hrun => ⟨trivial, fun _ => ?_⟩
    obtain ⟨rfl, rfl⟩ := ok_pair_inj hrun
    simp only [BillingTx.account, taskEvent, logged_none]
    exact h.copyOf ho _
  cases r with
  | ok t => exact (hinsert t).pre fun s hs => hs t rfl
  | error =>
    refine (hinsert _).pre fun s _ st id hst hid => ?_
    -- nothing is found in the empty store, so the copy names no application
    obtain ⟨-, -, -, -, a, ha, -⟩ := newTask_application hst hid
    cases ha

theorem relayTask_safe (quota : Int) :
    SafeFor cfg req (relayTask cfg ctx info quota) := by
  refine safe_of_triple ?_
  refine question_triple (const True) fun faults => ?_
  refine triple_bind (newBillingSession_triple faults info quota) fun r => ?_
  cases r with
  | error => exact triple_fail _
  | ok session =>
    intro s hses
    obtain ⟨hsession, hopened⟩ := hses session rfl
    refine triple_bind (triple_of_safe (SessionOpened.stable session.info) (safe_question _))
      (fun result => ?_) s hopened
    cases result with
    | none => exact triple_skip
    | some result =>
      refine triple_bind ((triple_frame (SessionOpened.stable session.info)
        (settleBilling_triple hsession)).pre fun _ h => ⟨h, trivial⟩) fun r => ?_
      rintro s ⟨ho, htask, hinfo⟩
      exact relayTaskSettled_triple ctx htask s (hinfo ▸ ho)

/-! ## Pollers -/

theorem updateWithStatus_triple (fromStatus : TaskStatus) :
    TripleFor cfg req (fun s => CopyAt req s id t)
      (BillingProg.run (.updateWithStatus id t fromStatus)) fun _ s => CopyAt req s id t :=
  triple_run_stable (stable id t) fun _ _ hs => hs

theorem refundTask_triple :
    RunsOnCopy cfg req id t (refundTask cfg id t) := by
  refine question_triple (stable id t) fun faults => ?_
  refine Triple.post (triple_run_stable (stable id t) ?_) fun _ _ _ => trivial
  exact fun _ _ hs => hs.copy

theorem timeOutTask_triple (isLegacy : Bool) :
    RunsOnCopy cfg req id t (timeOutTask cfg id t isLegacy) := by
  refine triple_bind ((updateWithStatus_triple _).pre fun s hs => hs.congr rfl rfl rfl)
    fun won => ?_
  exact triple_ite refundTask_triple triple_skip

theorem sweepTimedOutTask_triple :
    RunsOnCopy cfg req id t (sweepTimedOutTask cfg id t) := by
  refine question_triple (stable id t) fun timeout => ?_
  cases timeout with
  | running => exact triple_skip
  | timedOut => exact timeOutTask_triple false
  | legacy => exact timeOutTask_triple true

theorem forEach_copies {f : Task × Nat → BillingProg cfg Unit} (tasks : List (Task × Nat))
    (h : ∀ r : Task × Nat, RunsOnCopy cfg req r.2 r.1 (f r)) :
    TripleFor cfg req (Copies req tasks)
      (Prog.forEach tasks fun r => (f r).ignore) fun _ _ => True := by
  refine (triple_forEach fun r hr => ?_).post fun _ _ _ => trivial
  exact triple_ignore (Copies.stable tasks) ((h r).pre fun s hs => hs r hr)

theorem sweepTimedOutTasks_safe : SafeFor cfg req (sweepTimedOutTasks cfg) := by
  refine safe_of_triple ?_
  unfold sweepTimedOutTasks
  split
  · exact triple_skip
  · exact triple_bind unfinishedTasks_triple fun tasks =>
      forEach_copies tasks fun r => sweepTimedOutTask_triple

theorem billVideoTask_triple :
    RunsOnCopy cfg req id t (billVideoTask cfg id t) := by
  unfold billVideoTask
  split
  · exact Safe.triple (safe_bind (safe_question _) fun _ => safe_bind (safe_question _) fun _ =>
      safe_step)
  · exact triple_ite refundTask_triple triple_skip

theorem videoTaskUpdate_copyAt {reply : TaskReply}
    (h : videoTaskUpdate t reply = some t') (hs : CopyAt req s id t) : CopyAt req s id t' := by
  unfold videoTaskUpdate at h
  split at h
  all_goals cases h
  all_goals exact hs.congr rfl rfl rfl

theorem updateVideoSingleTask_triple :
    RunsOnCopy cfg req id t (updateVideoSingleTask cfg id t) := by
  refine question_triple (stable id t) fun reply => ?_
  cases reply with
  | none => exact triple_skip
  | some =>
    dsimp only
    split
    · exact triple_fail _
    rename_i t' ht'
    have hupdate : TripleFor cfg req (fun s => CopyAt req s id t)
        (BillingProg.run (.updateWithStatus id t' t.status)) fun _ s => CopyAt req s id t' :=
      (updateWithStatus_triple t.status).pre fun s hs => videoTaskUpdate_copyAt ht' hs
    split
    · split
      · exact triple_bind hupdate fun won =>
          triple_ite billVideoTask_triple triple_skip
      refine question_triple (stable id t) fun changed => ?_
      refine triple_bind ?_ fun _ =>
        billVideoTask_triple
      split
      · exact (triple_ignore (stable id t) hupdate).post
          fun _ s hs => videoTaskUpdate_copyAt ht' hs
      · exact triple_pure fun s hs => videoTaskUpdate_copyAt ht' hs
    · refine question_triple (stable id t) fun changed => ?_
      exact triple_ite (triple_bind hupdate fun _ => triple_skip) triple_skip

theorem updateSunoTask_triple (replies : List TaskReply) : ∀ t : Task,
    RunsOnCopy cfg req id t (updateSunoTask cfg id t replies) := by
  induction replies with
  | nil => exact fun t => triple_skip
  | cons reply _ ih =>
    intro t
    refine question_triple (stable id t) fun changed => ?_
    split
    · refine Triple.pre (P := fun s => CopyAt req s id (sunoTaskUpdate t reply)) ?_
        fun s hs => hs.congr rfl rfl rfl
      have hstable : StableFor cfg req
          fun s => CopyAt req s id (sunoTaskUpdate t reply) := stable id _
      refine triple_bind (Q := fun _ s => CopyAt req s id (sunoTaskUpdate t reply)) ?_ fun _ => ?_
      · refine triple_ite ?_ (triple_pure fun _ hs => hs)
        exact triple_ignore hstable refundTask_triple
      refine triple_bind ?_ fun _ => ih _
      exact triple_ignore hstable (triple_run_stable hstable fun _ _ hs => hs)
    · exact ih t

theorem pollTask_triple (r : Task × Nat) : RunsOnCopy cfg req r.2 r.1 (pollTask cfg r) := by
  refine question_triple (stable r.2 r.1) fun platform => ?_
  cases platform with
  | midjourney => exact triple_skip
  | suno =>
    exact question_triple (stable r.2 r.1) fun replies =>
      updateSunoTask_triple replies r.1
  | video => exact updateVideoSingleTask_triple
  | lost => exact Safe.triple safe_step

theorem pollTasks_safe : SafeFor cfg req (pollTasks cfg) := by
  refine safe_of_triple ?_
  exact triple_bind sweepTimedOutTasks_safe.triple fun _ =>
    triple_bind unfinishedTasks_triple fun tasks => forEach_copies tasks pollTask_triple

/-! ## Whole runs -/

def BillingEntry (cfg : Config) (p : BillingProg cfg Unit) : Prop :=
  ∃ request : BillingRequest, p = request.handle cfg

theorem BillingRequest.handle_safe (request : BillingRequest) :
    SafeFor cfg req (request.handle cfg) := by
  cases request with
  | relay ctx info quota => exact relay_safe ctx info quota
  | relayTask ctx info quota => exact relayTask_safe ctx info quota
  | record ctx session params =>
    exact recordConsumeLogWithQiniuRealtimeWalletFlow_safe ctx session params
  | reserve => exact safe_bind safe_step fun _ => safe_done _
  | recordFailure => exact safe_step
  | repair id => exact repairQiniuRealtimeWalletApplication_safe
  | scan =>
    exact safe_bind safe_step fun ids =>
      safe_forEach (fun id => safe_ignore repairQiniuRealtimeWalletApplication_safe) ids
  | pollTasks => exact pollTasks_safe

/-- Nothing has been billed at the market price yet. -/
structure Unbilled (s : Store) : Prop where
  applications : s.realtimeApplications = []
  events : s.realtimeEvents = []
  tasks : s.tasks = []
  flows : ∀ k, realtimeFlows k s = []

theorem Unbilled.inv (h : Unbilled s) : RealtimeInv req s where
  rows := by simp [h.applications]
  unique := by simp [h.applications]
  unseen := by simp [usages, h.events]
  once := by simp [walletSettlements, h.events]
  token := by simp [h.events]
  flows := by simp [h.flows]
  tasks := by simp [h.tasks]

theorem realtimeInv_reachable (h : Unbilled s) {w : World (billingSystem cfg)}
    (hw : Reachable (BillingEntry cfg) (fun s t => oneRequest cfg req s t = true) s w) :
    RealtimeInv req w.state := by
  refine (wp_reachable (K := realtimeContract cfg req) ?_ h.inv hw).1
  rintro p ⟨request, rfl⟩
  exact request.handle_safe

/-- What an application may have done, and what it has done once it is applied. -/
structure AppliedOnce (r : RealtimeRequest) (k : RealtimeKey) (s : Store) : Prop where
  settlement : (walletSettlements k s).length ≤ 1
  /-- The settlement is that of the request. -/
  delta : ∀ e ∈ walletSettlements k s, e.userId = r.userId ∧ e.quota = r.quota - r.preConsumedQuota
  /-- The token is settled in a step that charges the wallet, and so once. -/
  token : tokenSettlements k s <+ walletSettlements k s ∧ (tokenSettlements k s).length ≤ 1
  usage : (usages k s).length ≤ 1
  flow : (realtimeFlows k s).length ≤ 1
  /-- With status `applied`, the wallet was charged the difference, the statistics were raised once,
  and there is one flow. -/
  applied : ∀ a ∈ s.realtimeApplications, a.idempotencyKey = k → a.status = .applied →
    settledQuota k s = a.quota - a.preConsumedQuota ∧
    (∃ e, usages k s = [e] ∧ e.userId = a.userId ∧ e.usedQuota = a.quota ∧ e.requestCount = 1) ∧
    (realtimeFlows k s).length = 1

theorem tokenSettlements_sublist (h : RealtimeInv req s) :
    tokenSettlements k s <+ walletSettlements k s := by
  have hsub : tokenSettlements k s = (walletSettlements k s).filter fun e => e.tokenQuota != 0 := by
    unfold tokenSettlements walletSettlements
    rw [filter_filter]
    refine filter_congr fun e he => ?_
    rw [Bool.eq_iff_iff]
    simp only [Bool.and_eq_true, beq_iff_eq, bne_iff_ne]
    constructor
    · rintro ⟨⟨hk, hp⟩, htok⟩
      exact ⟨htok, ⟨hk, hp⟩, h.token e he hp htok⟩
    · rintro ⟨htok, hkp, -⟩
      exact ⟨hkp, htok⟩
  rw [hsub]
  exact filter_sublist

theorem RealtimeInv.appliedOnce (h : RealtimeInv req s) (k : RealtimeKey) :
    AppliedOnce (req k) k s := by
  have hsettle : (walletSettlements k s).length ≤ 1 := by
    rcases h.once k with hnone | ⟨e, hone, -⟩
    · simp [hnone]
    · simp [hone]
  have htoken := tokenSettlements_sublist (k := k) h
  refine ⟨hsettle, ?_, ⟨htoken, htoken.length_le.trans hsettle⟩, ?_, h.flows k, ?_⟩
  · intro e he
    rcases h.once k with hnone | ⟨e', hone, hu, hq⟩
    · rw [hnone] at he
      cases he
    · rw [hone, mem_singleton] at he
      exact he ▸ ⟨hu, hq⟩
  · -- a key without a row has not been counted, and a row says whether it has
    by_cases hrow : ∃ a ∈ s.realtimeApplications, a.idempotencyKey = k
    · obtain ⟨a, ha, rfl⟩ := hrow
      cases hstats : a.usageStatsApplied with
      | true =>
        obtain ⟨e, he, -⟩ := (h.rows a ha).counted hstats
        simp [he]
      | false => simp [(h.rows a ha).uncounted hstats]
    · simp [h.unseen k fun a ha hk => hrow ⟨a, ha, hk⟩]
  rintro a ha rfl hst
  have hrow := h.rows a ha
  obtain ⟨hset, hused, hflow⟩ := hrow.applied hst
  refine ⟨?_, ?_, ?_⟩
  · rw [hrow.quota, hrow.preConsumed]
    exact hrow.settled hset
  · rw [hrow.user, hrow.quota]
    exact hrow.counted (hrow.usage hused).1
  · have hpos := length_pos_iff.mpr (hrow.flow hflow)
    have hle := h.flows a.idempotencyKey
    omega

/-- **Realtime wallet applications are applied once**, along every interleaving in which the steps
for a key come from one request. -/
theorem realtime_application_applied_once (h : Unbilled s) {w : World (billingSystem cfg)}
    (hw : Reachable (BillingEntry cfg) (fun s t => oneRequest cfg req s t = true) s w)
    (k : RealtimeKey) : AppliedOnce (req k) k w.state :=
  (realtimeInv_reachable h hw).appliedOnce k

/-! ## Runs -/

/-- How the outside world behaves in a run. -/
structure Weather where
  settleRefused : Bool := false
  tokenRefused : Bool := false
  taskReply : Option TaskReply := none

def Weather.answer (a : Weather) (c : BillingCall) : c.Resp :=
  match c with
  | .preConsumeFaults => {}
  | .settleFaults => { funding := a.settleRefused }
  | .refundFaults => {}
  | .tokenRefused => a.tokenRefused
  | .upstream =>
    some { taskId := "task-1", quota := 150, params := { quota := 150, tokenId := 0 } }
  | .platform _ => .video
  | .timeout _ => .running
  | .fetchTask _ => a.taskReply
  | .fetchSunoTask _ => []
  | .changed _ => false
  | .completionQuota _ => none

def served (rs : List (BillingRequest × Nat × Weather)) :
    List (BillingProg Config.shipped Unit × Nat × ((c : BillingCall) → c.Resp)) :=
  rs.map fun r => (r.1.handle Config.shipped, r.2.1, r.2.2.answer)

theorem served_entry {rs : List (BillingRequest × Nat × Weather)} :
    ∀ r ∈ served rs, BillingEntry Config.shipped r.1 := by
  intro r hr
  obtain ⟨r', -, rfl⟩ := mem_map.mp hr
  exact ⟨r'.1, rfl⟩

def fundedUser : Store where
  users := fun u => if u = 1 then { quota := 1000 } else {}
  wallets := fun u => if u = 1 then { balanceAmount := 1 / 500 } else {}
  tokens := [{ userId := 1, enabled := true, qiniuManaged := true, remainQuota := 500 }]

theorem unbilled_fundedUser : Unbilled fundedUser := ⟨rfl, rfl, rfl, fun _ => rfl⟩

/-- The request of the runs below: 100 charged in advance, 150 in the end. -/
def marketRequest : RelayInfo :=
  { userId := 1, tokenId := 0, requestId := "r1", qiniuMarket := true }

def marketKey : RealtimeKey := .request "r1"

def marketCharge : RealtimeRequest :=
  { userId := 1, tokenId := 0, quota := 150, preConsumedQuota := 100 }

/-- What the request says about itself when its settlement was refused. -/
def unsettledInput : QiniuRealtimeWalletFlowInput :=
  { userId := 1, tokenId := some 0, requestId := "r1", quota := 150, preConsumedQuota := 100
    consumeLogParams := some { quota := 150, tokenId := 0 } }

/-- The wallet refuses the settlement of a request, and the repair makes up for it. -/
theorem realtime_application_repaired : ∃ w : World (billingSystem Config.shipped),
    w.state.realtimeApplications.map (fun a => decide (a.status = .applied)) = [true] ∧
      (walletSettlements marketKey w.state).length = 1 ∧
      AppliedOnce marketCharge marketKey w.state := by
  obtain ⟨w, hw, hst, hlen⟩ := served_reachable
    (C := fun s t => oneRequest Config.shipped (fun _ => marketCharge) s t = true) (s := fundedUser)
    (q := fun w => w.state.realtimeApplications.map (fun a => decide (a.status = .applied)) =
      [true] ∧ (walletSettlements marketKey w.state).length = 1)
    (served [(.relay {} marketRequest 100, 6, { settleRefused := true }), (.repair 0, 12, {})])
    (fun _ _ h => h) served_entry (by decide +kernel)
  exact ⟨w, hst, hlen, realtime_application_applied_once unbilled_fundedUser hw marketKey⟩

/-- An application can end as applied without its token having been charged, and a failure record
written again makes the repair charge the wallet twice. -/
theorem realtime_application_twice :
    (∃ w : World (billingSystem Config.shipped),
      Reachable (BillingEntry Config.shipped) (fun _ _ => True) fundedUser w ∧
      w.state.realtimeApplications.map (fun a => decide (a.status = .applied)) = [true] ∧
      (walletSettlements marketKey w.state).map RealtimeEvent.quota = [50] ∧
      tokenSettlements marketKey w.state = []) ∧
    (∃ w : World (billingSystem Config.shipped),
      Reachable (BillingEntry Config.shipped) (fun _ _ => True) fundedUser w ∧
      (walletSettlements marketKey w.state).map RealtimeEvent.quota = [50, 50]) := by
  constructor
  · exact served_reachable (g := fun _ _ => true) (served [(.relay {} marketRequest 100, 6,
      { settleRefused := true }), (.repair 0, 12, { tokenRefused := true })])
      (fun _ _ _ => trivial) served_entry (by decide +kernel)
  · exact served_reachable (g := fun _ _ => true) (served [
      (.recordFailure unsettledInput (.message "timeout"), 1, {}), (.repair 0, 3, {}),
      (.recordFailure unsettledInput (.message "timeout"), 1, {}), (.repair 0, 3, {})])
      (fun _ _ _ => trivial) served_entry (by decide +kernel)

end ApiGateway
