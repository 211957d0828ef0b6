import ApiGateway.Lib.Permits
import ApiGateway.Proof.RealtimeSteps

/-!
# Tasks end once

The sweep of timed-out tasks and the pollers of video tasks load copies of unfinished rows. A copy
is written back by a compare-and-set on the status it was loaded with, and only the winner bills.

Since a copy was loaded unfinished, a compare-and-set that ends a task finds the row unfinished
(`PollInv`), and there are no more billings of a task than ends (`billing_permits`).
-/

namespace ApiGateway

open Interleave Table List BillingTx TaskEvent BillingProg

variable {cfg : Config} {s s' : Store} {id : Nat}
variable {t task : Task} {es : List TaskEvent} {P : Store → Prop}
  {f : Task × Nat → BillingProg cfg Unit} {p : BillingProg cfg Unit}

/-! ## What happened to a task -/

def finalisations (id : Nat) (s : Store) : List TaskEvent :=
  s.taskEvents.filter fun e =>
    match e with
    | .finalised i _ => i == id
    | _ => false

def billings (id : Nat) (s : Store) : List TaskEvent :=
  s.taskEvents.filter fun e =>
    match e with
    | .settled i | .refunded i => i == id
    | .finalised .. => false

def TaskStatus.terminal (st : TaskStatus) : Prop := st = .success ∨ st = .failure

instance (st : TaskStatus) : Decidable st.terminal := inferInstanceAs (Decidable (_ ∨ _))

theorem Task.unfinished_status (h : t.unfinished = true) : ¬ t.status.terminal := by
  unfold Task.unfinished at h
  simp only [Bool.and_eq_true, bne_iff_ne] at h
  rintro (hs | hf)
  · exact h.2 hs
  · exact h.1.2 hf

theorem BillingTx.exec_taskEvents {t : BillingTx} {r : t.Ret} (h : t.exec cfg s = .ok (s', r)) :
    s'.taskEvents = s.taskEvents ++ (t.taskEvent r).toList := by
  obtain ⟨s1, hrun, rfl⟩ := exec_ok h
  rw [logged_taskEvents, (t.run_sameLogs hrun).taskEvents]

/-! ## The invariant -/

structure PollInv (s : Store) : Prop where
  /-- The row of a task that ended says how. -/
  stored : ∀ id st, TaskEvent.finalised id st ∈ s.taskEvents →
    ∃ row, s.tasks[id]? = some row ∧ row.status = st
  terminal : ∀ id st, TaskEvent.finalised id st ∈ s.taskEvents → st.terminal
  once : ∀ id, (finalisations id s).length ≤ 1
  /-- The billing matches the end. -/
  settled : ∀ id, TaskEvent.settled id ∈ s.taskEvents →
    TaskEvent.finalised id .success ∈ s.taskEvents
  refunded : ∀ id, TaskEvent.refunded id ∈ s.taskEvents →
    TaskEvent.finalised id .failure ∈ s.taskEvents

theorem PollInv.init (h : s.taskEvents = []) : PollInv s where
  stored := by simp [h]
  terminal := by simp [h]
  once := by simp [finalisations, h]
  settled := by simp [h]
  refunded := by simp [h]

/-- What a poller owes when it takes a step. -/
def BillingTx.PollOwes : BillingTx → Store → Prop
  | .unfinishedTasks, _ => True
  | .updateWithStatus _ _ fromStatus, _ => ¬ fromStatus.terminal
  | .settleTaskBillingOnComplete _ id _ _, s => .finalised id .success ∈ s.taskEvents
  | .refundTaskQuota _ id _, s => .finalised id .failure ∈ s.taskEvents
  | _, _ => False

theorem finalisations_append (h : s'.taskEvents = s.taskEvents ++ es) :
    finalisations id s' = finalisations id s ++ es.filter fun e =>
      match e with
      | .finalised i _ => i == id
      | _ => false := by
  unfold finalisations
  rw [h, filter_append]

theorem PollInv.bill (h : PollInv s) (htasks : s'.tasks = s.tasks) {e : TaskEvent}
    (hev : s'.taskEvents = s.taskEvents ++ [e])
    (he : e = .settled id ∧ finalised id .success ∈ s.taskEvents ∨
      e = .refunded id ∧ finalised id .failure ∈ s.taskEvents) : PollInv s' := by
  have hold : ∀ i st, finalised i st ∈ s'.taskEvents →
      finalised i st ∈ s.taskEvents := by
    intro i st hmem
    rw [hev, mem_append, mem_singleton] at hmem
    rcases hmem with hmem | rfl
    · exact hmem
    · rcases he with ⟨h', -⟩ | ⟨h', -⟩ <;> cases h'
  have hnew : ∀ e', e' ∈ s.taskEvents → e' ∈ s'.taskEvents := by
    intro e' he'
    rw [hev]
    exact mem_append_left _ he'
  refine ⟨fun i st hmem => ?_, fun i st hmem => h.terminal i st (hold i st hmem), fun i => ?_,
    fun i hmem => ?_, fun i hmem => ?_⟩
  · rw [htasks]
    exact h.stored i st (hold i st hmem)
  · rw [finalisations_append hev]
    rcases he with ⟨rfl, -⟩ | ⟨rfl, -⟩
    all_goals simpa using h.once i
  · rw [hev, mem_append, mem_singleton] at hmem
    rcases hmem with hmem | hmem
    · exact hnew _ (h.settled i hmem)
    rcases he with ⟨rfl, hfin⟩ | ⟨rfl, -⟩
    · cases hmem
      exact hnew _ hfin
    · cases hmem
  rw [hev, mem_append, mem_singleton] at hmem
  rcases hmem with hmem | hmem
  · exact hnew _ (h.refunded i hmem)
  rcases he with ⟨rfl, -⟩ | ⟨rfl, hfin⟩
  · cases hmem
  · cases hmem
    exact hnew _ hfin

theorem PollInv.save (h : PollInv s) {row : Task} (hrow : s.tasks[id]? = some row)
    (hopen : ¬ row.status.terminal) (htasks : s'.tasks = s.tasks.modify id fun _ => t)
    (hev : s'.taskEvents = s.taskEvents ++ es)
    (hes : es = [] ∨ t.status.terminal ∧ es = [.finalised id t.status]) : PollInv s' := by
  -- the task has not ended before
  have hnone : ∀ st, finalised id st ∉ s.taskEvents := by
    intro st hmem
    obtain ⟨row', hrow', hst⟩ := h.stored id st hmem
    obtain rfl : row = row' := Option.mem_unique hrow hrow'
    exact hopen (hst ▸ h.terminal id st hmem)
  have hnone' : finalisations id s = [] := by
    refine filter_eq_nil_iff.mpr fun e he => ?_
    cases e with
    | finalised i st =>
      intro hi
      obtain rfl : i = id := by simpa using hi
      exact hnone st he
    | settled | refunded => simp
  have hcases : ∀ e, e ∈ s'.taskEvents → e ∈ s.taskEvents ∨
      t.status.terminal ∧ e = finalised id t.status := by
    intro e he
    rw [hev, mem_append] at he
    rcases he with he | he
    · exact .inl he
    · rcases hes with rfl | ⟨ht, rfl⟩
      · cases he
      · exact .inr ⟨ht, by simpa using he⟩
  have hnew : ∀ e, e ∈ s.taskEvents → e ∈ s'.taskEvents := by
    intro e he
    rw [hev]
    exact mem_append_left _ he
  have hself : s'.tasks[id]? = some t := by
    rw [htasks]
    exact Table.getElem?_modify_self hrow
  refine ⟨fun i st hmem => ?_, fun i st hmem => ?_, fun i => ?_, fun i hmem => ?_, fun i hmem => ?_⟩
  · rcases hcases _ hmem with hmem' | ⟨-, heq⟩
    · obtain ⟨row', hrow', hst⟩ := h.stored i st hmem'
      have hi : id ≠ i := fun hi => hnone st (hi ▸ hmem')
      exact ⟨row', by rw [htasks, List.getElem?_modify_ne _ _ hi, hrow'], hst⟩
    · cases heq
      exact ⟨t, hself, rfl⟩
  · rcases hcases _ hmem with hmem' | ⟨ht, heq⟩
    · exact h.terminal i st hmem'
    · cases heq
      exact ht
  · rw [finalisations_append hev]
    by_cases hi : id = i
    · subst hi
      rw [hnone']
      rcases hes with rfl | ⟨-, rfl⟩ <;> simp
    have hother : (es.filter fun e =>
        match e with
        | .finalised j _ => j == i
        | _ => false) = [] := by
      rcases hes with rfl | ⟨-, rfl⟩ <;> simp [hi]
    rw [hother, append_nil]
    exact h.once i
  · rcases hcases _ hmem with hmem' | ⟨-, heq⟩
    · exact hnew _ (h.settled i hmem')
    · cases heq
  · rcases hcases _ hmem with hmem' | ⟨-, heq⟩
    · exact hnew _ (h.refunded i hmem')
    · cases heq

theorem PollInv.same (h : PollInv s) (htasks : s'.tasks = s.tasks)
    (hev : s'.taskEvents = s.taskEvents) : PollInv s' where
  stored := by
    rw [htasks, hev]
    exact h.stored
  terminal := by
    rw [hev]
    exact h.terminal
  once := by
    unfold finalisations
    rw [hev]
    exact h.once
  settled := by
    rw [hev]
    exact h.settled
  refunded := by
    rw [hev]
    exact h.refunded

/-- **A step keeps the invariant.** -/
theorem BillingTx.pollInv (t : BillingTx) {r : t.Ret} (h : PollInv s) (ho : t.PollOwes s)
    (hx : t.exec cfg s = .ok (s', r)) : PollInv s' := by
  have hev := exec_taskEvents hx
  obtain ⟨s1, hrun, hs'⟩ := exec_ok hx
  have htasks : s'.tasks = s1.tasks := by rw [hs', logged_tasks]
  cases t with
  | unfinishedTasks =>
    obtain ⟨rfl, -⟩ := ok_pair_inj hrun
    exact h.same htasks (by simpa [taskEvent] using hev)
  | updateWithStatus _ t =>
    simp only [run, Except.ok.injEq] at hrun
    rcases updateWithStatus_cases hrun with ⟨rfl, rfl⟩ | ⟨rfl, rfl, row, hrow, hst⟩
    · exact h.same htasks (by simpa [taskEvent] using hev)
    refine h.save hrow (hst ▸ ho) htasks hev ?_
    by_cases hterm : t.status.terminal
    · exact .inr ⟨hterm, congrArg Option.toList (if_pos ⟨rfl, hterm⟩)⟩
    · exact .inl (congrArg Option.toList (if_neg fun hc => hterm hc.2))
  | settleTaskBillingOnComplete faults _ t actualQuota =>
    obtain ⟨rfl, -⟩ := ok_pair_inj hrun
    have haside : Aside s (t.settleTaskBillingOnComplete cfg faults actualQuota s) :=
      Task.settleTaskBillingOnComplete_aside faults actualQuota t s
    exact h.bill (htasks.trans haside.tasks) hev (.inl ⟨rfl, ho⟩)
  | refundTaskQuota faults _ t =>
    obtain ⟨rfl, -⟩ := ok_pair_inj hrun
    have hquiet := Task.refundTaskQuota_quiet cfg faults t s
    exact h.bill (htasks.trans hquiet.tasks) hev (.inr ⟨rfl, ho⟩)
  | _ => exact ho.elim

/-- What the pollers promise each other: a task that has ended stays ended. -/
def pollContract (cfg : Config) : Contract (billingSystem cfg) fun _ _ => True where
  inv := PollInv
  rely s s' := ∀ e, e ∈ s.taskEvents → e ∈ s'.taskEvents
  mayRun t s := t.PollOwes s
  may _ _ := True
  rely_refl _ _ h := h
  rely_trans h h' e he := h' e (h e he)
  tx_inv _ t _ _ h _ ho hx := pollInv t h ho hx
  tx_rely s t s' r _ _ _ hx e he := by
    rw [exec_taskEvents (t := t) hx]
    exact mem_append_left _ he
  call_inv _ _ h _ := h
  call_rely _ _ _ _ _ he := he

/-! ## The programs keep the contract -/

theorem finalised_stable (st : TaskStatus) :
    Stable (pollContract cfg) fun s => finalised id st ∈ s.taskEvents :=
  fun _ _ h hr => hr _ h

theorem poll_question (hP : Stable (pollContract cfg) P) {c : BillingCall} :
    Triple (pollContract cfg) P (ask c) fun _ s => P s :=
  triple_of_safe hP (safe_ask fun _ _ => trivial)

theorem poll_step {t : BillingTx} {Q : t.Ret → Store → Prop} (hP : Stable (pollContract cfg) P)
    (h : ∀ s s' (r : t.Ret), P s → t.exec cfg s = .ok (s', r) → t.PollOwes s ∧ Q r s') :
    Triple (pollContract cfg) P (run t) Q :=
  triple_run hP fun s s' r _ hs _ hx => h s s' r hs hx

/-- A copy that was loaded unfinished may be written back; the winner knows that the task
ended the way the copy says. -/
theorem updateWithStatus_poll (h : ¬ task.status.terminal) :
    Triple (pollContract cfg) (fun _ => True)
      (run (.updateWithStatus id t task.status))
      fun won s => won = true → t.status.terminal → .finalised id t.status ∈ s.taskEvents := by
  refine poll_step (Stable.const True) fun s s' won _ hx => ⟨h, fun hwon hterm => ?_⟩
  have hev := exec_taskEvents hx
  have hsome : taskEvent (.updateWithStatus id t task.status) won =
      some (.finalised id t.status) := if_pos ⟨hwon, hterm⟩
  rw [hev, hsome]
  exact mem_append_right _ mem_cons_self

theorem refundTask_poll :
    Triple (pollContract cfg) (fun s => .finalised id .failure ∈ s.taskEvents)
      (refundTask cfg id t) fun _ _ => True := by
  refine triple_bind (poll_question (finalised_stable .failure)) fun faults => ?_
  exact poll_step (finalised_stable .failure) fun _ _ _ hs _ => ⟨hs, trivial⟩

theorem timeOutTask_poll (h : ¬ task.status.terminal) (isLegacy : Bool) :
    Safe (pollContract cfg) (timeOutTask cfg id task isLegacy) := by
  refine Triple.safe (Q := fun _ _ => True) ?_ fun _ => trivial
  refine triple_bind (updateWithStatus_poll h) fun won => ?_
  split
  · rename_i hc
    simp only [Bool.and_eq_true] at hc
    exact refundTask_poll.pre fun s hs => hs hc.1.1 (.inr rfl)
  · exact triple_skip

theorem sweepTimedOutTask_poll (h : ¬ task.status.terminal) :
    Safe (pollContract cfg) (sweepTimedOutTask cfg id task) := by
  refine safe_bind (safe_ask fun _ _ => trivial) fun timeout => ?_
  cases timeout with
  | running => exact safe_done _
  | timedOut => exact timeOutTask_poll h false
  | legacy => exact timeOutTask_poll h true

theorem billVideoTask_poll (h : t.status.terminal) :
    Triple (pollContract cfg) (fun s => .finalised id t.status ∈ s.taskEvents)
      (billVideoTask cfg id t) fun _ _ => True := by
  have hstable : Stable (pollContract cfg) fun s => .finalised id t.status ∈ s.taskEvents :=
    finalised_stable t.status
  unfold billVideoTask
  split
  · rename_i ht
    refine triple_bind (poll_question hstable) fun faults => ?_
    refine triple_bind (poll_question hstable) fun actualQuota => ?_
    refine poll_step hstable fun s _ _ hs _ => ⟨?_, trivial⟩
    rwa [ht] at hs
  · rename_i ht
    have hf : t.status = .failure := h.resolve_left ht
    exact triple_ite (hf ▸ refundTask_poll) triple_skip

theorem updateVideoSingleTask_poll (h : ¬ task.status.terminal) :
    Safe (pollContract cfg) (updateVideoSingleTask cfg id task) := by
  have hask : ∀ c : BillingCall, Safe (pollContract cfg) (ask c) :=
    fun c => safe_ask fun _ _ => trivial
  refine safe_bind (hask _) fun reply => ?_
  cases reply with
  | none => exact safe_done _
  | some =>
    dsimp only
    split
    · exact safe_fail _
    split
    · rename_i hterm
      split
      · -- the winner bills
        refine Triple.safe (Q := fun _ _ => True) ?_ fun _ => trivial
        refine triple_bind (updateWithStatus_poll h) fun won => ?_
        split
        · rename_i hwon
          exact (billVideoTask_poll hterm).pre fun s hs => hs hwon hterm
        · exact triple_skip
      · -- the copy would have been loaded with a terminal status
        rename_i hsame
        exact absurd (Decidable.not_not.mp hsame ▸ hterm) h
    · refine safe_bind (hask _) fun changed => ?_
      split
      · exact safe_bind (safe_run fun _ _ => h) fun _ => safe_done _
      · exact safe_done _

theorem unfinishedTasks_open (cfg : Config) {tasks : List (Task × Nat)}
    (h : BillingTx.unfinishedTasks.exec cfg s = .ok (s', tasks)) :
    ∀ r ∈ tasks, ¬ r.1.status.terminal := by
  obtain ⟨s1, hrun, -⟩ := exec_ok h
  obtain ⟨-, rfl⟩ := ok_pair_inj hrun
  intro r hr
  exact Task.unfinished_status (mem_filter.mp hr).2

theorem overUnfinished_poll
    (hf : ∀ r : Task × Nat, ¬ r.1.status.terminal → Safe (pollContract cfg) (f r)) :
    Safe (pollContract cfg) (do
      let tasks : List (Task × Nat) ← run .unfinishedTasks
      Prog.forEach tasks fun r => (f r).ignore) := by
  refine Triple.safe (Q := fun _ _ => True) ?_ fun _ => trivial
  refine triple_bind (poll_step (Stable.const True) fun _ _ _ _ hx =>
    ⟨trivial, unfinishedTasks_open cfg hx⟩) fun tasks => ?_
  intro s hs
  refine triple_forEach (fun r hr => ?_) s trivial
  exact (safe_ignore (hf r (hs r hr))).triple

/-- What can be started: sweeps and pollers of video tasks. -/
inductive PollEntry (cfg : Config) : BillingProg cfg Unit → Prop where
  | sweep : PollEntry cfg (sweepTimedOutTasks cfg)
  | video : PollEntry cfg (pollVideoTasks cfg)

theorem PollEntry.safe (h : PollEntry cfg p) : Safe (pollContract cfg) p := by
  cases h with
  | sweep =>
    unfold sweepTimedOutTasks
    split
    · exact safe_done _
    · exact overUnfinished_poll fun r hr => sweepTimedOutTask_poll hr
  | video => exact overUnfinished_poll fun r hr => updateVideoSingleTask_poll hr

/-! ## Only the winner bills -/

/-- Ending a task is what entitles to a billing of it. -/
def billingPermits (cfg : Config) (id : Nat) : Permits (billingSystem cfg) where
  spends
    | .settleTaskBillingOnComplete _ i _ _ | .refundTaskQuota _ i _ => if i = id then 1 else 0
    | _ => 0
  grants t r :=
    match taskEvent t r with
    | some (.finalised i _) => if i = id then 1 else 0
    | _ => 0

theorem billings_spent {t : BillingTx} {r : t.Ret} (h : t.exec cfg s = .ok (s', r)) :
    (billings id s').length = (billings id s).length + (billingPermits cfg id).spends t := by
  have hev := exec_taskEvents h
  unfold billings
  rw [hev, filter_append, length_append]
  cases t with
  | settleTaskBillingOnComplete _ i | refundTaskQuota _ i =>
    by_cases hi : i = id <;> simp [taskEvent, billingPermits, hi]
  | updateWithStatus =>
    simp only [taskEvent, billingPermits]
    split <;> simp
  | _ => rfl

theorem finalisations_granted {t : BillingTx} {r : t.Ret} (h : t.exec cfg s = .ok (s', r)) :
    (finalisations id s').length =
      (finalisations id s).length + (billingPermits cfg id).grants t r := by
  rw [finalisations_append (exec_taskEvents h), length_append]
  simp only [billingPermits]
  cases taskEvent t r with
  | none => rfl
  | some e =>
    cases e with
    | finalised i => by_cases hi : i = id <;> simp [hi]
    | settled | refunded => simp

/-- The winner of a compare-and-set that ends a task is granted what the billing of the
task needs. -/
theorem grants_won {i : Nat} {fromStatus : TaskStatus} {won : Bool} (hwon : won = true)
    (hterm : t.status.terminal) :
    (billingPermits cfg id).grants (.updateWithStatus i t fromStatus) won =
      if i = id then 1 else 0 := by
  have hsome : taskEvent (.updateWithStatus i t fromStatus) won =
      some (.finalised i t.status) := if_pos ⟨hwon, hterm⟩
  simp only [billingPermits]
  rw [hsome]

variable (i : Nat)

theorem refundTask_affords :
    Affords (billingPermits cfg id) (refundTask cfg i t) (if i = id then 1 else 0) :=
  affords_ask_bind fun _ => affords_run (Nat.le_refl _)

theorem billVideoTask_affords :
    Affords (billingPermits cfg id) (billVideoTask cfg i t) (if i = id then 1 else 0) := by
  unfold billVideoTask
  split
  · exact affords_ask_bind fun _ => affords_ask_bind fun _ => affords_run (Nat.le_refl _)
  · split
    · exact refundTask_affords i
    · exact affords_done _

theorem timeOutTask_affords (isLegacy : Bool) :
    Affords (billingPermits cfg id) (timeOutTask cfg i task isLegacy) 0 := by
  refine affords_run_bind rfl fun s s' won _ => ?_
  split
  · rename_i hc
    have hwon := (Bool.and_eq_true_iff.mp (Bool.and_eq_true_iff.mp hc).1).1
    rw [grants_won hwon (.inr rfl), Nat.zero_add]
    exact refundTask_affords i
  · exact affords_done _

theorem sweepTimedOutTask_affords :
    Affords (billingPermits cfg id) (sweepTimedOutTask cfg i task) 0 := by
  refine affords_ask_bind fun timeout => ?_
  cases timeout with
  | running => exact affords_done _
  | timedOut => exact timeOutTask_affords i false
  | legacy => exact timeOutTask_affords i true

theorem updateVideoSingleTask_affords (h : ¬ task.status.terminal) :
    Affords (billingPermits cfg id) (updateVideoSingleTask cfg i task) 0 := by
  refine affords_ask_bind fun reply => ?_
  cases reply with
  | none => exact affords_done _
  | some =>
    dsimp only
    split
    · exact affords_done _
    rename_i t _
    split
    · rename_i hterm
      split
      · refine affords_run_bind rfl fun s s' won _ => ?_
        split
        · rename_i hwon
          rw [grants_won hwon hterm, Nat.zero_add]
          exact billVideoTask_affords i
        · exact affords_done _
      · rename_i hsame
        exact absurd (Decidable.not_not.mp hsame ▸ hterm) h
    · refine affords_ask_bind fun changed => ?_
      split
      · exact affords_run_bind rfl fun _ _ _ _ => affords_done _
      · exact affords_done _

theorem overUnfinished_affords
    (hf : ∀ r : Task × Nat, ¬ r.1.status.terminal → Affords (billingPermits cfg id) (f r) 0) :
    Affords (billingPermits cfg id) (do
      let tasks : List (Task × Nat) ← run .unfinishedTasks
      Prog.forEach tasks fun r => (f r).ignore) 0 :=
  affords_run_bind rfl fun _ _ _ hx =>
    affords_forEach fun r hr => (hf r (unfinishedTasks_open cfg hx r hr)).ignore

theorem PollEntry.affords (h : PollEntry cfg p) : Affords (billingPermits cfg id) p 0 := by
  cases h with
  | sweep =>
    unfold sweepTimedOutTasks
    split
    · exact affords_done _
    · exact overUnfinished_affords fun r _ => sweepTimedOutTask_affords r.2
  | video => exact overUnfinished_affords fun r hr => updateVideoSingleTask_affords r.2 hr

/-! ## Whole runs -/

/-- A task ended at most once and was billed at most once, the way its row says. -/
structure FinalisedOnce (id : Nat) (s : Store) : Prop where
  transition : (finalisations id s).length ≤ 1
  stored : ∀ st, TaskEvent.finalised id st ∈ s.taskEvents →
    ∃ row, s.tasks[id]? = some row ∧ row.status = st
  billing : (billings id s).length ≤ 1
  settled : TaskEvent.settled id ∈ s.taskEvents →
    ∃ row, s.tasks[id]? = some row ∧ row.status = .success
  refunded : TaskEvent.refunded id ∈ s.taskEvents →
    ∃ row, s.tasks[id]? = some row ∧ row.status = .failure

/-- A task that has timed out, just as its upstream reports success. -/
def raceAnswer : (c : BillingCall) → c.Resp
  | .preConsumeFaults => {}
  | .settleFaults => {}
  | .refundFaults => {}
  | .tokenRefused => false
  | .upstream => none
  | .platform _ => .video
  | .timeout _ => .timedOut
  | .fetchTask _ => some { status := some .success }
  | .fetchSunoTask _ => []
  | .changed _ => false
  | .completionQuota _ => some 150

/-- One task of a wallet user, with 100 charged for it. -/
def runningTask : Store where
  users := fun u => if u = 1 then { quota := 1000 } else {}
  wallets := fun u => if u = 1 then { balanceAmount := 1 / 500 } else {}
  tasks := [{
    taskId := "task-1", userId := 1, status := .inProgress, progress := "30%", quota := 100
    billingSource := .wallet, subscriptionId := none, tokenId := none }]

/-- Sweep and poller both load the task; the poller comes first with its compare-and-set. -/
def raceMoves : List (Move (billingSystem Config.shipped)) :=
  [.spawn (sweepTimedOutTasks Config.shipped), .spawn (pollVideoTasks Config.shipped),
    .step 0 raceAnswer, .step 1 raceAnswer, .step 0 raceAnswer, .step 1 raceAnswer,
    .step 1 raceAnswer, .step 0 raceAnswer, .step 1 raceAnswer, .step 1 raceAnswer,
    .step 1 raceAnswer]

end ApiGateway
