import ApiGateway.Proof.RealtimeOnce

/-!
# Refunds of realtime tasks

A failed task is refunded from what its row said when the task was submitted. The repair of the
application charges what the submission could not, and tells the row about it later.
-/

namespace ApiGateway

open Table Decimal Interleave QiniuRealtimeWalletApplication List Option

variable {cfg : Config} {req : RealtimeKey → RealtimeRequest} {s s' : Store} {k : RealtimeKey}

/-! ## What a request cost -/

def refunds (k : RealtimeKey) (s : Store) : List RealtimeEvent :=
  s.realtimeEvents.filter fun e => e.key == k && e.phase == .refund && e.quota != 0

/-- What the steps for a request took from a user, all in all. -/
def netCharge (u : Nat) (k : RealtimeKey) (s : Store) : Int :=
  ((s.realtimeEvents.filter fun e => e.key == k && e.userId == u).map RealtimeEvent.quota).sum

/-- A refund works on a copy that agrees with the application, of a request that was charged and has
not been refunded; and a request that was refunded is not settled by the repair. -/
def consistentRefunds (cfg : Config) (req : RealtimeKey → RealtimeRequest) (s : Store)
    (t : BillingTx) : Bool :=
  oneRequest cfg req s t &&
  match t with
  | .refundTaskQuota _ _ task =>
    match BillingTx.taskApplication task s with
    | none => true
    | some a =>
      (task.qiniuRealtimeSettlement.map fun st => st.settlementApplied) ==
        some a.settlementApplied &&
      (a.settlementApplied || decide (0 < a.preConsumedQuota)) &&
      (refunds a.idempotencyKey s).isEmpty
  | .retryQiniuRealtimeWalletSettlement id _ =>
    match s.realtimeApplications[id]? with
    | none => true
    | some a => (refunds a.idempotencyKey s).isEmpty
  | _ => true

theorem sum_by_phase (es : List RealtimeEvent) (hfree : ∀ e ∈ es, e.phase = .usage → e.quota = 0) :
    ((es.filter fun e => e.key == k).map RealtimeEvent.quota).sum =
      ((es.filter fun e => e.key == k && e.phase == .preConsume).map RealtimeEvent.quota).sum +
      ((es.filter fun e => e.key == k && e.phase == .settle && e.quota != 0).map
        RealtimeEvent.quota).sum +
      ((es.filter fun e => e.key == k && e.phase == .refund && e.quota != 0).map
        RealtimeEvent.quota).sum := by
  induction es with
  | nil => rfl
  | cons e _ ih =>
    have ih := ih fun e' he' => hfree e' (mem_cons_of_mem _ he')
    by_cases hk : e.key = k
    · cases hp : e.phase with
      | preConsume =>
        simp [hk, hp]
        omega
      | usage =>
        simp [hk, hp, hfree e mem_cons_self hp, ih]
      | settle | refund =>
        by_cases hq : e.quota = 0
        · simp [hk, hp, hq, ih]
        · simp [hk, hp, hq]
          omega
    · simp [hk, ih]

/-! ## The invariant -/

structure TaskInv (req : RealtimeKey → RealtimeRequest) (s : Store) : Prop where
  /-- All steps for a request concern its user. -/
  user : ∀ e ∈ s.realtimeEvents, e.userId = (req e.key).userId
  usage : ∀ e ∈ s.realtimeEvents, e.phase = .usage → e.quota = 0
  refunded : ∀ k, refunds k s ≠ [] → netCharge (req k).userId k s = 0 ∧
    ∃ a ∈ s.realtimeApplications, a.idempotencyKey = k

theorem TaskInv.netCharge_eq (h : TaskInv req s) (k : RealtimeKey) :
    netCharge (req k).userId k s = preCharged k s + settledQuota k s +
      ((refunds k s).map RealtimeEvent.quota).sum := by
  have hall : (s.realtimeEvents.filter fun e => e.key == k && e.userId == (req k).userId) =
      s.realtimeEvents.filter fun e => e.key == k := by
    refine filter_congr fun e he => ?_
    by_cases hk : e.key = k
    · simp [hk ▸ h.user e he]
    · simp [hk]
  unfold netCharge
  rw [hall]
  exact sum_by_phase s.realtimeEvents h.usage

section Append

variable {e : RealtimeEvent} (hev : s'.realtimeEvents = s.realtimeEvents ++ [e])

include hev

theorem refunds_append_of_ne (hne : e.key ≠ k ∨ e.phase ≠ .refund) :
    refunds k s' = refunds k s := by
  unfold refunds
  rw [hev]
  rcases hne with hne | hne
  · simp [hne]
  · simp [hne]

theorem netCharge_append_of_ne {u : Nat} (hne : e.key ≠ k ∨ e.quota = 0) :
    netCharge u k s' = netCharge u k s := by
  unfold netCharge
  rw [hev, filter_append, map_append]
  rcases hne with hne | hne
  · simp [hne]
  · by_cases hu : (e.key == k && e.userId == u) = true
    · simp [hu, hne]
    · simp [hu]

theorem netCharge_append_self (hu : e.userId = (req e.key).userId) :
    netCharge (req e.key).userId e.key s' = netCharge (req e.key).userId e.key s + e.quota := by
  unfold netCharge
  rw [hev, filter_append, map_append]
  simp [hu]

/-- A step adds an event that fits: it concerns the user of the request, usage costs nothing, and a
refund brings the cost to zero. -/
theorem TaskInv.append (h : TaskInv req s)
    (hrows : ∀ a ∈ s.realtimeApplications, ∃ a' ∈ s'.realtimeApplications,
      a'.idempotencyKey = a.idempotencyKey)
    (hu : e.userId = (req e.key).userId) (husage : e.phase = .usage → e.quota = 0)
    (hself : refunds e.key s' ≠ [] → netCharge (req e.key).userId e.key s' = 0 ∧
      ∃ a ∈ s.realtimeApplications, a.idempotencyKey = e.key) : TaskInv req s' := by
  have hrow : ∀ k, (∃ a ∈ s.realtimeApplications, a.idempotencyKey = k) →
      ∃ a ∈ s'.realtimeApplications, a.idempotencyKey = k := by
    rintro k ⟨a, ha, rfl⟩
    exact hrows a ha
  refine ⟨?_, ?_, ?_⟩
  · intro e' he'
    rw [hev] at he'
    rcases mem_append.mp he' with he' | he'
    · exact h.user e' he'
    · exact mem_singleton.mp he' ▸ hu
  · intro e' he' hp
    rw [hev] at he'
    rcases mem_append.mp he' with he' | he'
    · exact h.usage e' he' hp
    · obtain rfl := mem_singleton.mp he'
      exact husage hp
  intro k hk
  by_cases hke : e.key = k
  · subst hke
    obtain ⟨hnet, ha⟩ := hself hk
    exact ⟨hnet, hrow _ ha⟩
  rw [refunds_append_of_ne hev (.inl hke)] at hk
  rw [netCharge_append_of_ne hev (.inl hke)]
  obtain ⟨hnet, ha⟩ := h.refunded k hk
  exact ⟨hnet, hrow k ha⟩

end Append

theorem TaskInv.congr (h : TaskInv req s) (hev : s'.realtimeEvents = s.realtimeEvents)
    (hrows : ∀ a ∈ s.realtimeApplications, ∃ a' ∈ s'.realtimeApplications,
      a'.idempotencyKey = a.idempotencyKey) : TaskInv req s' := by
  refine ⟨hev ▸ h.user, hev ▸ h.usage, ?_⟩
  intro k hk
  have hsame : refunds k s' = refunds k s := by
    unfold refunds
    rw [hev]
  obtain ⟨hnet, a, ha, rfl⟩ := h.refunded k (hsame ▸ hk)
  refine ⟨?_, hrows a ha⟩
  unfold netCharge at ⊢
  rwa [hev]

/-! ## The refund -/

/-- A refund of a copy that agrees with its application brings the cost to zero. -/
theorem refund_netCharge {t : Task} {st : QiniuRealtimeTaskSettlement}
    {a : QiniuRealtimeWalletApplication} (hi : RealtimeInv req s) (h : TaskInv req s)
    (ha : a ∈ s.realtimeApplications) (hst : t.qiniuRealtimeSettlement = some st)
    (hopened : Opened req a.idempotencyKey s)
    (hpre : st.preConsumedQuota = (req a.idempotencyKey).preConsumedQuota)
    (hquota : st.settlementApplied = true → t.quota = (req a.idempotencyKey).quota)
    (hflag : st.settlementApplied = a.settlementApplied)
    (hcharged : a.settlementApplied = true ∨ 0 < a.preConsumedQuota)
    (hfirst : refunds a.idempotencyKey s = []) :
    netCharge (req a.idempotencyKey).userId a.idempotencyKey s = t.refundQuota := by
  have hrow := hi.rows a ha
  rw [h.netCharge_eq, hfirst, hopened]
  simp only [Task.refundQuota, hst, map_nil, sum_nil]
  cases hs : a.settlementApplied with
  | true =>
    -- charged in advance and settled: the final quota
    have hsettled : settledQuota a.idempotencyKey s = (req a.idempotencyKey).delta :=
      hrow.settled hs
    rw [hs] at hflag
    rw [hsettled, if_neg (by simp [hflag]), hquota hflag, RealtimeRequest.delta]
    omega
  | false =>
    -- only charged in advance
    have hnone : settledQuota a.idempotencyKey s = 0 := by
      rw [settledQuota, hrow.unsettled hs]
      rfl
    rw [hs] at hflag hcharged
    have hpos : 0 < st.preConsumedQuota := by
      rw [hpre, ← hrow.preConsumed]
      exact hcharged.resolve_left (by simp)
    rw [if_pos (by simp [hflag, hpos])]
    omega

/-! ## Steps -/

/-- What a measured step does to the cost of its request. -/
structure Fits (req : RealtimeKey → RealtimeRequest) (s : Store) (e : RealtimeEvent) : Prop where
  user : e.userId = (req e.key).userId
  usage : e.phase = .usage → e.quota = 0
  /-- Before a refund anything may be charged; after it, nothing. -/
  later : e.phase ≠ .refund → refunds e.key s ≠ [] → e.quota = 0
  /-- A refund gives back what the request cost. -/
  refund : e.phase = .refund → e.quota ≠ 0 →
    netCharge (req e.key).userId e.key s + e.quota = 0 ∧
      (∃ a ∈ s.realtimeApplications, a.idempotencyKey = e.key)
  first : e.phase = .refund → refunds e.key s = []

theorem TaskInv.step {e : RealtimeEvent} (h : TaskInv req s) (hprog : Progress req s s')
    (hev : s'.realtimeEvents = s.realtimeEvents ++ [e]) (he : Fits req s e) : TaskInv req s' := by
  have hrows : ∀ a ∈ s.realtimeApplications, ∃ a' ∈ s'.realtimeApplications,
      a'.idempotencyKey = a.idempotencyKey := by
    intro a ha
    obtain ⟨i, hi⟩ := mem_iff_getElem?.mp ha
    obtain ⟨a', ha', hk, -⟩ := hprog.rely.rows i a hi
    exact ⟨a', mem_of_getElem? ha', hk⟩
  refine h.append hev hrows he.user he.usage fun hrefunds => ?_
  rw [netCharge_append_self hev he.user]
  by_cases hp : e.phase = .refund
  · have hquota : e.quota ≠ 0 := by
      intro hzero
      refine hrefunds ?_
      unfold refunds
      rw [hev]
      have hfirst := he.first hp
      unfold refunds at hfirst
      simp [hfirst, hzero]
    exact he.refund hp hquota
  · rw [refunds_append_of_ne hev (.inr hp)] at hrefunds
    obtain ⟨hnet, hrow⟩ := h.refunded _ hrefunds
    rw [hnet, he.later hp hrefunds]
    exact ⟨rfl, hrow⟩

theorem restore_quota {id : Nat} {params : Option RecordConsumeLogParams}
    (h : restoreQiniuRealtimeUsageStats cfg id params s = .ok s') (u : Nat) :
    (s'.users u).quota = (s.users u).quota := by
  obtain ⟨a, -, ⟨-, rfl⟩ | ⟨-, -, rfl⟩ | ⟨-, -, rfl⟩⟩ := restoreQiniuRealtimeUsageStats_ok h
  · rfl
  · rfl
  unfold restoredUsage
  split
  · split
    · by_cases hu : u = a.userId
      · subst hu
        simp
      · simp [Function.update_of_ne hu]
    · rfl
  · rfl

/-- **A step keeps the cost of refunded tasks at zero.** -/
theorem BillingTx.taskInv {t : BillingTx} {r : t.Ret} (hi : RealtimeInv req s)
    (hC : consistentRefunds cfg req s t = true) (howes : t.Owes cfg req s)
    (hx : t.exec cfg s = .ok (s', r)) (h : TaskInv req s) : TaskInv req s' := by
  obtain ⟨hone, hcond⟩ := Bool.and_eq_true_iff.mp hC
  have hprog := progress t hi hone howes hx
  obtain ⟨s1, hrun, rfl⟩ := exec_ok hx
  have hlogs := run_sameLogs t hrun
  cases hacc : t.account s with
  | none =>
    refine h.congr (by simp [hlogs.events]) fun a ha => ?_
    obtain ⟨i, hget⟩ := mem_iff_getElem?.mp ha
    obtain ⟨a', ha', hk, -⟩ := hprog.rely.rows i a hget
    exact ⟨a', mem_of_getElem? ha', hk⟩
  | some acc =>
    rw [hacc] at hprog
    refine h.step hprog (e := acc.measure s s1) (by simp [hlogs.events]) ?_
    cases t with
    | newBillingSession =>
      obtain ⟨hm, hk, hphase, huser, -⟩ := requestAccount_some hacc
      simp only [oneRequest, hm, hk, Bool.not_true, Bool.false_or, Bool.and_eq_true,
        beq_iff_eq] at hone
      obtain ⟨⟨⟨⟨⟨-, hclean⟩, hu⟩, -⟩, -⟩, -⟩ := hone
      have hnone : refunds acc.key s = [] := by
        refine filter_eq_nil_iff.mpr fun e he => ?_
        have hne := all_eq_true.mp hclean e he
        simp only [bne_iff_ne] at hne
        simp [hne]
      exact ⟨huser.trans hu, fun hp => absurd (hphase.symm.trans hp) (by simp),
        fun _ hne => absurd hnone hne, fun hp => absurd (hphase.symm.trans hp) (by simp),
        fun hp => absurd (hphase.symm.trans hp) (by simp)⟩
    | settleBilling =>
      obtain ⟨hm, hk, hphase, huser, -⟩ := requestAccount_some hacc
      obtain ⟨hu, -⟩ := howes hm acc.key hk
      simp only [oneRequest, hm, hk, Bool.not_true, Bool.false_or, Bool.and_eq_true,
        unrecorded_iff] at hone
      refine ⟨huser.trans hu, fun hp => absurd (hphase.symm.trans hp) (by simp),
        fun _ hne => ?_, fun hp => absurd (hphase.symm.trans hp) (by simp),
        fun hp => absurd (hphase.symm.trans hp) (by simp)⟩
      -- a request that was refunded has an application
      obtain ⟨-, a, ha, hak⟩ := h.refunded _ hne
      exact absurd hak (hone.1.1 a ha)
    | retryQiniuRealtimeWalletSettlement =>
      obtain ⟨a, ha, rfl⟩ := map_eq_some_iff.mp hacc
      have hrow := hi.row ha
      simp only [ha, List.isEmpty_iff] at hcond
      exact ⟨hrow.user, fun hp => absurd hp (by simp [applicationAccount, Account.measure]),
        fun _ hne => absurd hcond hne,
        fun hp => absurd hp (by simp [applicationAccount, Account.measure]),
        fun hp => absurd hp (by simp [applicationAccount, Account.measure])⟩
    | restoreQiniuRealtimeUsageStats =>
      obtain ⟨a, ha, rfl⟩ := map_eq_some_iff.mp hacc
      have hrow := hi.row ha
      have hzero : ((applicationAccount .usage a).measure s s1).quota = 0 :=
        sub_eq_zero.mpr (restore_quota (effect_ok hrun) a.userId).symm
      exact ⟨hrow.user, fun _ => hzero, fun _ _ => hzero,
        fun hp => absurd hp (by simp [applicationAccount, Account.measure]),
        fun hp => absurd hp (by simp [applicationAccount, Account.measure])⟩
    | refundTaskQuota faults _ t =>
      obtain ⟨a, happ, rfl⟩ := map_eq_some_iff.mp hacc
      simp only [happ, Bool.and_eq_true, beq_iff_eq, Bool.or_eq_true, decide_eq_true_eq,
        List.isEmpty_iff] at hcond
      obtain ⟨⟨hflag, hcharged⟩, hfirst⟩ := hcond
      obtain ⟨aid, haid, ha⟩ := bind_eq_some_iff.mp happ
      obtain ⟨st, hst, hid⟩ := bind_eq_some_iff.mp haid
      obtain ⟨a', ha', hopened, hu, hpre, hquota⟩ := howes st aid hst hid
      obtain rfl : a = a' := mem_unique ha ha'
      have hmem := mem_of_getElem? ha
      rw [hst, map_some, some.injEq] at hflag
      obtain ⟨rfl, -⟩ := ok_pair_inj hrun
      have hnet := refund_netCharge hi h hmem hst hopened hpre hquota hflag hcharged hfirst
      refine ⟨hu, fun hp => absurd hp (by simp [Account.measure]),
        fun hp => absurd rfl hp, fun _ hq => ⟨?_, a, hmem, rfl⟩, fun _ => hfirst⟩
      rcases Task.refundTaskQuota_market cfg faults s (t := t) (by simp [hst]) with hzero | hback
      · exact absurd hzero hq
      · show netCharge _ _ s + taken t.userId s _ = 0
        rw [hback]
        exact hnet ▸ add_neg_cancel _
    | _ => exact absurd hacc (by simp [account])

/-! ## Whole runs -/

theorem taskInv_reachable (h : Unbilled s) {w : World (billingSystem cfg)}
    (hw : Reachable (BillingEntry cfg) (fun s t => consistentRefunds cfg req s t = true) s w) :
    TaskInv req w.state := by
  refine wp_invariant (K := realtimeContract cfg req)
    (fun s t hC => (Bool.and_eq_true_iff.mp hC).1) ?_ h.inv ?_ ?_ (fun _ _ hi => hi) hw
  · rintro p ⟨request, rfl⟩
    exact request.handle_safe
  · refine ⟨by simp [h.events], by simp [h.events], fun k hk => absurd ?_ hk⟩
    simp [refunds, h.events]
  · intro s1 t s2 r hi hC howes hx hinv
    exact BillingTx.taskInv hi hC howes hx hinv

/-- **A task that was refunded cost nothing**, if refunds agree with the applications of their
tasks. -/
theorem refunded_task_costs_nothing (h : Unbilled s) {w : World (billingSystem cfg)}
    (hw : Reachable (BillingEntry cfg) (fun s t => consistentRefunds cfg req s t = true) s w)
    {t : Task} {st : QiniuRealtimeTaskSettlement} {id : Nat} {a : QiniuRealtimeWalletApplication}
    (ht : t ∈ w.state.tasks) (hst : t.qiniuRealtimeSettlement = some st)
    (hid : st.applicationId = some id) (ha : w.state.realtimeApplications[id]? = some a)
    (hrefund : refunds a.idempotencyKey w.state ≠ []) :
    netCharge t.userId a.idempotencyKey w.state = 0 := by
  have hreach := hw.mono fun s t hC => (Bool.and_eq_true_iff.mp hC).1
  obtain ⟨a', ha', -, hu, -⟩ := (realtimeInv_reachable h hreach).tasks t ht st id hst hid
  obtain rfl : a = a' := mem_unique ha ha'
  rw [hu]
  exact ((taskInv_reachable h hw).refunded _ hrefund).1

def failedReply : Weather := { taskReply := some { status := some .failure } }

def endedRefunded (w : World (billingSystem Config.shipped)) : Bool :=
  match w.state.tasks, w.state.realtimeApplications with
  | [t], [a] =>
    decide (t.status = .failure ∧ t.userId = 1 ∧ a.idempotencyKey = marketKey ∧
      (t.qiniuRealtimeSettlement.bind fun st => st.applicationId) = some 0 ∧
      (refunds marketKey w.state).length = 1)
  | _, _ => false

/-- A task is settled when it is submitted, fails, and is refunded. -/
theorem refunded_task_costs_nothing_run : ∃ w : World (billingSystem Config.shipped),
    w.state.tasks.map (fun t => t.status) = [.failure] ∧ (refunds marketKey w.state).length = 1 ∧
      netCharge 1 marketKey w.state = 0 := by
  obtain ⟨w, hw, hq⟩ := served_reachable
    (C := fun s t => consistentRefunds Config.shipped (fun _ => marketCharge) s t = true)
    (s := fundedUser) (q := fun w => endedRefunded w = true)
    (served [(.relayTask {} marketRequest 100, 16, {}), (.pollTasks, 8, failedReply)])
    (fun _ _ h => h) served_entry (by decide +kernel)
  unfold endedRefunded at hq
  split at hq
  · rename_i t a htasks happs
    obtain ⟨hfail, hu, hkey, hid, hlen⟩ := of_decide_eq_true hq
    obtain ⟨st, hst, hid⟩ := bind_eq_some_iff.mp hid
    refine ⟨w, by simp [htasks, hfail], hlen, ?_⟩
    rw [← hu, ← hkey]
    refine refunded_task_costs_nothing unbilled_fundedUser hw (by simp [htasks]) hst hid
      (by simp [happs]) ?_
    intro hnil
    rw [hkey] at hnil
    simp [hnil] at hlen
  · cases hq

/-- The wallet refuses the settlement of a task, the task fails and is refunded what was charged in
advance, and then the repair charges the difference. -/
theorem refunded_task_charged_later : ∃ w : World (billingSystem Config.shipped),
    Reachable (BillingEntry Config.shipped) (fun _ _ => True) fundedUser w ∧
      w.state.tasks.map (fun t => t.status) = [.failure] ∧
      (refunds marketKey w.state).map RealtimeEvent.quota = [-100] ∧
      netCharge 1 marketKey w.state = 50 :=
  served_reachable (g := fun _ _ => true) (served [
    (.relayTask {} marketRequest 100, 8, { settleRefused := true }), (.pollTasks, 8, failedReply),
    (.repair 0, 13, {})]) (fun _ _ _ => trivial) served_entry (by decide +kernel)

end ApiGateway
