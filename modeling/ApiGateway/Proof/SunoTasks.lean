import ApiGateway.Lib.Sequential
import ApiGateway.Proof.TaskPolling

/-!
# Refunds of Suno tasks

The poller of Suno tasks refunds a failed task first and saves its row afterwards, from the copy it
loaded. Nothing but the order of events keeps it from refunding the task again.
-/

namespace ApiGateway

open Interleave Table List BillingTx

variable {cfg : Config} {s s' : Store} {id : Nat}
variable {r : Unit} {faults : Task.RefundFaults} {P : Store → Prop} {task : Task}
  {replies : List TaskReply}

def taskRefunds (id : Nat) (s : Store) : List TaskEvent :=
  s.taskEvents.filter fun e => e == .refunded id

/-- A Suno task is not given to the video poller, and an answer has at most one item about it, which
gives no reason for a failure along with a success. -/
def SunoAnswer (id : Nat) : (c : BillingCall) → c.Resp → Prop
  | .platform i, platform => i = id → platform ≠ .video
  | .fetchSunoTask i, replies => i = id → replies.length ≤ 1 ∧
      ∀ reply ∈ replies, reply.status = some .success → reply.failReason = ""
  | _, _ => True

/-- And its row can be saved. -/
def sunoLimits (cfg : Config) (id : Nat) : Limits (billingSystem cfg) where
  refuses
    | .saveTask i _ => i ≠ id
    | _ => True
  answers := SunoAnswer id

/-! ## The invariant -/

/-- A task was refunded at most once, and if so it is over and did not succeed. -/
def SunoInv (id : Nat) (s : Store) : Prop :=
  taskRefunds id s = [] ∨
    (taskRefunds id s).length = 1 ∧
      ∃ row, s.tasks[id]? = some row ∧ row.unfinished = false ∧ row.status ≠ .success

/-- The task is as it was, whatever happened to others. -/
def TaskAt (id : Nat) (row : Option Task) (es : List TaskEvent) (s : Store) : Prop :=
  s.tasks[id]? = row ∧ taskRefunds id s = es

/-- A copy of the task is about to be worked on. -/
def Pending (id : Nat) (s : Store) : Prop :=
  taskRefunds id s = [] ∧ ∃ row, s.tasks[id]? = some row

theorem taskRefunds_append {es : List TaskEvent} (h : s'.taskEvents = s.taskEvents ++ es) :
    taskRefunds id s' = taskRefunds id s ++ es.filter fun e => e == .refunded id := by
  unfold taskRefunds
  rw [h, filter_append]

/-! ## What the steps do to rows and refunds -/

section Steps

variable {t : Task} {i : Nat}

theorem taskRefunds_exec {t : BillingTx} {r : t.Ret} (h : t.exec cfg s = .ok (s', r))
    (hnot : ∀ e, t.taskEvent r = some e → e ≠ .refunded id) :
    taskRefunds id s' = taskRefunds id s := by
  rw [taskRefunds_append (exec_taskEvents h)]
  cases he : t.taskEvent r with
  | none => simp
  | some e => simp [hnot e he]

theorem updateWithStatus_exec {fromStatus : TaskStatus} {won : Bool}
    (h : (updateWithStatus i t fromStatus).exec cfg s = .ok (s', won)) :
    taskRefunds id s' = taskRefunds id s ∧
      (won = false ∧ s'.tasks = s.tasks ∨
        won = true ∧ s'.tasks = s.tasks.modify i (fun _ => t) ∧ ∃ row, s.tasks[i]? = some row) := by
  constructor
  · refine taskRefunds_exec h fun e he => ?_
    simp only [taskEvent] at he
    split at he
    · cases he
      simp
    · cases he
  · obtain ⟨s1, hrun, rfl⟩ := BillingTx.exec_ok h
    simp only [run, Except.ok.injEq] at hrun
    rcases updateWithStatus_cases hrun with ⟨rfl, hwon⟩ | ⟨rfl, hwon, row, hrow, -⟩
    · exact .inl ⟨hwon, rfl⟩
    · exact .inr ⟨hwon, rfl, row, hrow⟩

theorem saveTask_exec (h : (saveTask i t).exec cfg s = .ok (s', r)) :
    taskRefunds id s' = taskRefunds id s ∧ s'.tasks = s.tasks.modify i fun _ => t := by
  refine ⟨taskRefunds_exec h nofun, ?_⟩
  obtain ⟨s1, hrun, rfl⟩ := BillingTx.exec_ok h
  obtain ⟨rfl, -⟩ := ok_pair_inj hrun
  rfl

theorem failTask_exec {failReason : Option String}
    (h : (failTask i failReason).exec cfg s = .ok (s', r)) :
    taskRefunds id s' = taskRefunds id s ∧ ∃ f, s'.tasks = s.tasks.modify i f := by
  refine ⟨taskRefunds_exec h nofun, ?_⟩
  obtain ⟨s1, hrun, rfl⟩ := BillingTx.exec_ok h
  obtain ⟨rfl, -⟩ := ok_pair_inj hrun
  exact ⟨_, rfl⟩

theorem settleTaskBillingOnComplete_exec {actualQuota : Option Int}
    (h : (settleTaskBillingOnComplete faults i t actualQuota).exec cfg s = .ok (s', r)) :
    taskRefunds id s' = taskRefunds id s ∧ s'.tasks = s.tasks := by
  refine ⟨taskRefunds_exec h fun e he => Option.some.inj he ▸ nofun, ?_⟩
  obtain ⟨s1, hrun, rfl⟩ := BillingTx.exec_ok h
  obtain ⟨rfl, -⟩ := ok_pair_inj hrun
  exact (Task.settleTaskBillingOnComplete_aside faults actualQuota t s).tasks

theorem refundTaskQuota_exec (h : (refundTaskQuota faults i t).exec cfg s = .ok (s', r)) :
    taskRefunds id s' = taskRefunds id s ++ (if i = id then [.refunded id] else []) ∧
      s'.tasks = s.tasks := by
  have hev := exec_taskEvents h
  obtain ⟨s1, hrun, rfl⟩ := BillingTx.exec_ok h
  obtain ⟨rfl, -⟩ := ok_pair_inj hrun
  refine ⟨?_, (Task.refundTaskQuota_quiet cfg faults t s).tasks⟩
  rw [taskRefunds_append hev]
  by_cases hi : i = id
  · simp [taskEvent, hi]
  · simp [taskEvent, hi]

theorem unfinishedTasks_exec {tasks : List (Task × Nat)}
    (h : BillingTx.unfinishedTasks.exec cfg s = .ok (s', tasks)) :
    taskRefunds id s' = taskRefunds id s ∧ s'.tasks = s.tasks ∧ tasks = unfinishedTasks s := by
  refine ⟨taskRefunds_exec h nofun, ?_⟩
  obtain ⟨s1, hrun, rfl⟩ := BillingTx.exec_ok h
  obtain ⟨rfl, rfl⟩ := ok_pair_inj hrun
  exact ⟨rfl, rfl⟩

end Steps

/-- The steps of the pollers that concern other tasks, or none. -/
def BillingTx.Elsewhere (id : Nat) : BillingTx → Prop
  | .unfinishedTasks => True
  | .updateWithStatus i _ _ | .saveTask i _ | .failTask i _ | .settleTaskBillingOnComplete _ i _ _
  | .refundTaskQuota _ i _ => i ≠ id
  | _ => False

theorem BillingTx.elsewhere (t : BillingTx) {r : t.Ret} (h : t.Elsewhere id)
    (hx : t.exec cfg s = .ok (s', r)) :
    taskRefunds id s' = taskRefunds id s ∧ s'.tasks[id]? = s.tasks[id]? := by
  cases t with
  | unfinishedTasks =>
    obtain ⟨hr, ht, -⟩ := unfinishedTasks_exec hx
    exact ⟨hr, by rw [ht]⟩
  | updateWithStatus =>
    obtain ⟨hr, ⟨-, ht⟩ | ⟨-, ht, -⟩⟩ := updateWithStatus_exec hx
    · exact ⟨hr, by rw [ht]⟩
    · exact ⟨hr, by rw [ht, List.getElem?_modify_ne _ _ h]⟩
  | saveTask =>
    obtain ⟨hr, ht⟩ := saveTask_exec hx
    exact ⟨hr, by rw [ht, List.getElem?_modify_ne _ _ h]⟩
  | failTask =>
    obtain ⟨hr, f, ht⟩ := failTask_exec hx
    exact ⟨hr, by rw [ht, List.getElem?_modify_ne _ _ h]⟩
  | settleTaskBillingOnComplete =>
    obtain ⟨hr, ht⟩ := settleTaskBillingOnComplete_exec hx
    exact ⟨hr, by rw [ht]⟩
  | refundTaskQuota _ i =>
    obtain ⟨hr, ht⟩ := refundTaskQuota_exec hx
    have hi : i ≠ id := h
    rw [if_neg hi, append_nil] at hr
    exact ⟨hr, by rw [ht]⟩
  | _ => exact h.elim

section Elsewhere

variable {row : Option Task} {es : List TaskEvent} {i : Nat}

theorem keeps_elsewhere {t : BillingTx} (h : t.Elsewhere id) :
    Keeps (sunoLimits cfg id) (TaskAt id row es) (BillingProg.run t) := by
  refine keeps_run fun s s' r hs hx => ?_
  obtain ⟨h1, h2⟩ := t.elsewhere h hx
  exact ⟨h2.trans hs.1, h1.trans hs.2⟩

theorem keeps_question {J : Store → Prop} {c : BillingCall} :
    Keeps (sunoLimits cfg id) J (BillingProg.ask c) :=
  keeps_ask fun _ h => h

theorem refundTask_elsewhere (t : Task) (h : i ≠ id) :
    Keeps (sunoLimits cfg id) (TaskAt id row es) (refundTask cfg i t) :=
  keeps_bind keeps_question fun _ => keeps_elsewhere h

theorem timeOutTask_elsewhere (t : Task) (isLegacy : Bool) (h : i ≠ id) :
    Keeps (sunoLimits cfg id) (TaskAt id row es) (timeOutTask cfg i t isLegacy) := by
  refine keeps_bind (keeps_elsewhere h) fun won => ?_
  split
  · exact refundTask_elsewhere _ h
  · exact keeps_done

theorem sweepTimedOutTask_elsewhere {t : Task} (h : i ≠ id) :
    Keeps (sunoLimits cfg id) (TaskAt id row es) (sweepTimedOutTask cfg i t) := by
  refine keeps_bind keeps_question fun timeout => ?_
  cases timeout with
  | running => exact keeps_done
  | timedOut => exact timeOutTask_elsewhere t false h
  | legacy => exact timeOutTask_elsewhere t true h

theorem updateVideoSingleTask_elsewhere {t : Task} (h : i ≠ id) :
    Keeps (sunoLimits cfg id) (TaskAt id row es) (updateVideoSingleTask cfg i t) := by
  have hbill : ∀ t : Task, Keeps (sunoLimits cfg id) (TaskAt id row es) (billVideoTask cfg i t) := by
    intro t
    unfold billVideoTask
    split
    · exact keeps_bind keeps_question fun _ => keeps_bind keeps_question fun _ =>
        keeps_elsewhere h
    · split
      · exact refundTask_elsewhere t h
      · exact keeps_done
  refine keeps_bind keeps_question fun reply => ?_
  cases reply with
  | none => exact keeps_done
  | some =>
    dsimp only
    split
    · exact keeps_done
    split
    · split
      · refine keeps_bind (keeps_elsewhere h) fun won => ?_
        split
        · exact hbill _
        · exact keeps_done
      refine keeps_bind keeps_question fun changed => keeps_bind ?_ fun _ => hbill _
      split
      · exact keeps_ignore (keeps_elsewhere h)
      · exact keeps_done
    · refine keeps_bind keeps_question fun changed => ?_
      split
      · exact keeps_bind (keeps_elsewhere h) fun _ => keeps_done
      · exact keeps_done

theorem updateSunoTask_elsewhere (h : i ≠ id) : ∀ t : Task,
    Keeps (sunoLimits cfg id) (TaskAt id row es) (updateSunoTask cfg i t replies) := by
  induction replies with
  | nil => exact fun t => keeps_done
  | cons _ _ ih =>
    intro t
    refine keeps_bind keeps_question fun changed => ?_
    split
    · refine keeps_bind ?_ fun _ => keeps_bind (keeps_ignore (keeps_elsewhere h)) fun _ => ih _
      split
      · exact keeps_ignore (refundTask_elsewhere _ h)
      · exact keeps_done
    · exact ih t

end Elsewhere

/-! ## Work on the task itself -/

theorem yields_step {t : BillingTx} {Q : Except Err t.Ret → Store → Prop}
    (hok : ∀ s s' (r : t.Ret), P s → t.exec cfg s = .ok (s', r) → Q (.ok r) s')
    (herr : ∀ s e, P s → (sunoLimits cfg id).refuses t ∨ t.exec cfg s = .error e →
      Q (.error e) s) : Yields (sunoLimits cfg id) P (BillingProg.run t) Q :=
  yields_run hok herr

theorem yields_step_bind {α : Type} {t : BillingTx} {f : t.Ret → BillingProg cfg α}
    {M : t.Ret → Store → Prop} {Q : Except Err α → Store → Prop}
    (hok : ∀ s s' (r : t.Ret), P s → t.exec cfg s = .ok (s', r) → M r s')
    (hf : ∀ r, Yields (sunoLimits cfg id) (M r) (f r) Q) (herr : ∀ s e, P s → Q (.error e) s) :
    Yields (sunoLimits cfg id) P ((BillingProg.run t).bind f) Q :=
  yields_run_bind hok hf herr

variable {row : Task}

theorem SunoInv.of_row (hrow : s.tasks[id]? = some row) (hdone : row.unfinished = false)
    (hst : row.status ≠ .success) (hlen : (taskRefunds id s).length ≤ 1) : SunoInv id s := by
  rcases Nat.eq_zero_or_pos (taskRefunds id s).length with h0 | hpos
  · exact .inl (length_eq_zero_iff.mp h0)
  · exact .inr ⟨by omega, row, hrow, hdone, hst⟩

theorem SunoInv.pending (h : SunoInv id s) (hrow : s.tasks[id]? = some row)
    (hopen : row.unfinished = true) : Pending id s := by
  rcases h with h | ⟨-, row', hrow', hdone, -⟩
  · exact ⟨h, row, hrow⟩
  · obtain rfl : row = row' := Option.mem_unique hrow hrow'
    exact nomatch (hopen.symm.trans hdone)

theorem refundTask_once {t : Task} :
    Yields (sunoLimits cfg id) (TaskAt id (some row) []) (refundTask cfg id t)
      fun _ s => s.tasks[id]? = some row ∧ (taskRefunds id s).length ≤ 1 := by
  refine yields_ask_bind (fun s hs => hs) fun faults _ => ?_
  refine yields_step (fun s s' r hs hx => ?_) fun s e hs _ => ⟨hs.1, by simp [hs.2]⟩
  obtain ⟨hr, ht⟩ : taskRefunds id s' = _ ∧ _ := refundTaskQuota_exec hx
  rw [hr, ht, hs.2]
  exact ⟨hs.1, by simp⟩

theorem timeOutTask_once (isLegacy : Bool) :
    Yields (sunoLimits cfg id) (Pending id) (timeOutTask cfg id task isLegacy)
      fun _ s => SunoInv id s := by
  refine yields_step_bind (M := fun won s => taskRefunds id s = [] ∧
      (won = true → s.tasks[id]? = some (task.timedOut cfg isLegacy)))
    (fun s s' won hs hx => ?_) (fun won => ?_) fun s e hs => .inl hs.1
  · obtain ⟨hr, ⟨hlost, -⟩ | ⟨-, ht, row, hrow⟩⟩ := updateWithStatus_exec hx
    · exact ⟨hr.trans hs.1, fun hwon => nomatch (hlost.symm.trans hwon)⟩
    · refine ⟨hr.trans hs.1, fun _ => ?_⟩
      rw [ht]
      exact Table.getElem?_modify_self hrow
  split
  · rename_i hc
    simp only [Bool.and_eq_true] at hc
    refine yields_conseq refundTask_once (fun s hs => ⟨hs.2 hc.1.1, hs.1⟩) fun _ s hs => ?_
    exact .of_row hs.1 (by simp [Task.timedOut, Task.unfinished]) (by simp [Task.timedOut]) hs.2
  · exact yields_done fun s hs => .inl hs.1

theorem sweepTimedOutTask_once :
    Yields (sunoLimits cfg id) (Pending id) (sweepTimedOutTask cfg id task)
      fun _ s => SunoInv id s := by
  refine yields_ask_bind (fun s hs => hs) fun timeout _ => ?_
  cases timeout with
  | running => exact yields_done fun s hs => .inl hs.1
  | timedOut => exact timeOutTask_once false
  | legacy => exact timeOutTask_once true

theorem sunoTaskUpdate_refunded {reply : TaskReply} (hopen : ¬ task.status.terminal)
    (hreply : reply.status = some .success → reply.failReason = "")
    (h : reply.failReason ≠ "" ∨ (sunoTaskUpdate task reply).status = .failure) :
    (sunoTaskUpdate task reply).unfinished = false ∧
      (sunoTaskUpdate task reply).status ≠ .success := by
  constructor
  · have hcond : reply.failReason ≠ "" ∨ reply.status.getD task.status = .failure ∨
        reply.status = some .success := by
      rcases h with h | h
      · exact .inl h
      · exact .inr (.inl h)
    simp only [sunoTaskUpdate, if_pos hcond]
    rfl
  intro hsucc
  rcases h with h | h
  · have hst : reply.status.getD task.status = .success := hsucc
    cases hr : reply.status with
    | none =>
      rw [hr] at hst
      exact hopen (.inl hst)
    | some =>
      rw [hr] at hst
      exact h (hreply (hr.trans (congrArg some hst)))
  · exact nomatch (hsucc.symm.trans h)

theorem saveTask_once {t : Task} {n : Nat} :
    Yields (sunoLimits cfg id)
      (fun s => (taskRefunds id s).length ≤ n ∧ ∃ row, s.tasks[id]? = some row)
      (BillingProg.run (.saveTask id t))
      fun _ s => (taskRefunds id s).length ≤ n ∧ s.tasks[id]? = some t := by
  refine yields_step (fun s s' r hs hx => ?_) fun s e hs herr => ?_
  · obtain ⟨hlen, row, hrow⟩ := hs
    obtain ⟨hr, ht⟩ : taskRefunds id s' = _ ∧ _ := saveTask_exec hx
    rw [hr, ht]
    exact ⟨hlen, Table.getElem?_modify_self hrow⟩
  -- the save is not refused, and has no error of its own
  rcases herr with herr | herr
  · exact absurd rfl herr
  · exact nomatch herr

theorem updateSunoTask_once (hopen : ¬ task.status.terminal) (hlen : replies.length ≤ 1)
    (hreply : ∀ reply ∈ replies, reply.status = some .success → reply.failReason = "") :
    Yields (sunoLimits cfg id) (Pending id) (updateSunoTask cfg id task replies)
      fun _ s => SunoInv id s := by
  have hdone : Yields (sunoLimits cfg id) (Pending id) (.done (.ok ())) fun _ s => SunoInv id s :=
    yields_done fun s hs => .inl hs.1
  match replies with
  | [] => exact hdone
  | [reply] =>
    have hreply := hreply reply mem_cons_self
    refine yields_ask_bind (fun s hs => hs) fun changed _ => ?_
    split
    · by_cases hfail : reply.failReason ≠ "" ∨ (sunoTaskUpdate task reply).status = .failure
      · -- refunded, and then saved as a task that is over
        obtain ⟨hover, hst⟩ := sunoTaskUpdate_refunded hopen hreply hfail
        simp only [if_pos hfail]
        refine yields_ignore_bind (M := fun s => (taskRefunds id s).length ≤ 1 ∧
          ∃ row, s.tasks[id]? = some row) (fun s r s' hs hr => ?_) ?_
        · obtain ⟨hnone, row, hrow⟩ := hs
          obtain ⟨hrow', hle⟩ := refundTask_once s r s' ⟨hrow, hnone⟩ hr
          exact ⟨hle, row, hrow'⟩
        · refine yields_ignore_bind saveTask_once ?_
          exact yields_done fun s hs => .of_row hs.2 hover hst hs.1
      · simp only [if_neg hfail, Prog.pure_eq, Prog.bind_eq, Prog.bind_ok]
        refine yields_ignore_bind (M := fun s => (taskRefunds id s).length ≤ 0 ∧
          s.tasks[id]? = some (sunoTaskUpdate task reply)) ?_ ?_
        · exact yields_conseq saveTask_once (fun s hs => ⟨by simp [hs.1], hs.2⟩) fun _ _ h => h
        · exact yields_done fun s hs => .inl (length_eq_zero_iff.mp (Nat.le_zero.mp hs.1))
    · exact hdone
  | _ :: _ :: _ => exact nomatch hlen

theorem pollTask_elsewhere {row : Option Task} {es : List TaskEvent} {r : Task × Nat}
    (h : r.2 ≠ id) : Keeps (sunoLimits cfg id) (TaskAt id row es) (pollTask cfg r) := by
  refine keeps_bind keeps_question fun platform => ?_
  cases platform with
  | midjourney => exact keeps_done
  | suno => exact keeps_bind keeps_question fun replies => updateSunoTask_elsewhere h _
  | video => exact updateVideoSingleTask_elsewhere h
  | lost => exact keeps_elsewhere h

theorem pollTask_once (hopen : ¬ task.status.terminal) :
    Yields (sunoLimits cfg id) (Pending id) (pollTask cfg (task, id)) fun _ s => SunoInv id s := by
  refine yields_ask_bind (fun s hs => hs) fun platform hplatform => ?_
  cases platform with
  | midjourney => exact yields_done fun s hs => .inl hs.1
  | suno =>
    refine yields_ask_bind (fun s hs => hs) fun replies hreplies => ?_
    obtain ⟨hlen, hreply⟩ := hreplies rfl
    exact updateSunoTask_once hopen hlen hreply
  | video => exact absurd rfl (hplatform rfl)
  | lost =>
    refine yields_step (fun s s' r hs hx => ?_) fun s e hs _ => .inl hs.1
    obtain ⟨hr, -⟩ : taskRefunds id s' = _ ∧ _ := failTask_exec hx
    exact .inl (hr.trans hs.1)

/-! ## Rounds -/

theorem SunoInv.congr (h : SunoInv id s) (hrow : s'.tasks[id]? = s.tasks[id]?)
    (hr : taskRefunds id s' = taskRefunds id s) : SunoInv id s' := by
  unfold SunoInv
  rwa [hrow, hr]

theorem Pending.congr (h : Pending id s) (hrow : s'.tasks[id]? = s.tasks[id]?)
    (hr : taskRefunds id s' = taskRefunds id s) : Pending id s' := by
  unfold Pending
  rwa [hrow, hr]

/-- A copy of the task is still to be worked on. -/
def Ahead (id : Nat) (tasks : List (Task × Nat)) (s : Store) : Prop :=
  ∀ r ∈ tasks, r.2 = id → ¬ r.1.status.terminal ∧ Pending id s

section Rounds

variable {f : Task × Nat → BillingProg cfg Unit}
  (hother : ∀ r : Task × Nat, r.2 ≠ id → ∀ row es,
    Keeps (sunoLimits cfg id) (TaskAt id row es) (f r))
  (hself : ∀ task : Task, ¬ task.status.terminal →
    Yields (sunoLimits cfg id) (Pending id) (f (task, id)) fun _ s => SunoInv id s)

include hother hself

/-- A read has one copy of the task at most, so it is worked on once. -/
theorem forEach_once : ∀ tasks : List (Task × Nat), (tasks.map Prod.snd).Nodup →
    Yields (sunoLimits cfg id) (fun s => SunoInv id s ∧ Ahead id tasks s)
      (Prog.forEach tasks fun r => (f r).ignore) fun _ s => SunoInv id s
  | [], _ => yields_done fun s hs => hs.1
  | r :: rest, hnodup => by
      obtain ⟨hnot, hrest⟩ := nodup_cons.mp hnodup
      have ih := forEach_once rest hrest
      by_cases hr : r.2 = id
      · -- after this one there is no other copy
        have hgone : ∀ s, Ahead id rest s := fun s r' hr' heq =>
          absurd (mem_map.mpr ⟨r', hr', heq.trans hr.symm⟩) hnot
        refine yields_ignore_bind (fun s x s' hs hx => ?_)
          (yields_conseq ih (fun s hs => ⟨hs, hgone s⟩) fun _ _ h => h)
        obtain ⟨task, i⟩ := r
        obtain rfl : i = id := hr
        obtain ⟨hopen, hpend⟩ := hs.2 _ mem_cons_self rfl
        exact hself task hopen s x s' hpend hx
      · refine yields_ignore_bind
          (fun s x s' hs hx => ?_) ih
        obtain ⟨hrow, href⟩ := hother r hr _ _ s x s' ⟨rfl, rfl⟩ hx
        refine ⟨hs.1.congr hrow href, fun r' hr' heq => ?_⟩
        obtain ⟨hopen, hpend⟩ := hs.2 r' (mem_cons_of_mem _ hr') heq
        exact ⟨hopen, hpend.congr hrow href⟩

theorem overUnfinished_once : Keeps (sunoLimits cfg id) (SunoInv id) (do
    let tasks : List (Task × Nat) ← BillingProg.run .unfinishedTasks
    Prog.forEach tasks fun r => (f r).ignore) := by
  refine yields_step_bind (M := fun tasks s => (tasks.map Prod.snd).Nodup ∧ SunoInv id s ∧
    Ahead id tasks s) (fun s s' tasks hs hx => ?_) (fun tasks s r s' hs hr => ?_) fun s e hs => hs
  · obtain ⟨hr, ht, rfl⟩ := unfinishedTasks_exec hx
    have hinv : SunoInv id s' := hs.congr (by rw [ht]) hr
    refine ⟨?_, hinv, fun r hmem heq => ?_⟩
    · have hsub : (unfinishedTasks s).Sublist s.tasks.zipIdx := filter_sublist
      refine (hsub.map Prod.snd).nodup ?_
      rw [zipIdx_map_snd]
      exact nodup_range'
    obtain ⟨task, i⟩ := r
    obtain rfl : i = id := heq
    obtain ⟨hget, hopen⟩ := mem_filter.mp hmem
    have hrow : s'.tasks[i]? = some task := by
      rw [ht]
      exact mem_zipIdx_iff_getElem?.mp hget
    exact ⟨Task.unfinished_status hopen, hinv.pending hrow hopen⟩
  · exact forEach_once hother hself tasks hs.1 s r s' hs.2 hr

end Rounds

/-! ## Whole runs -/

/-- What can be started: rounds of the polling loop, and sweeps. -/
inductive SunoEntry (cfg : Config) : BillingProg cfg Unit → Prop where
  | round : SunoEntry cfg (pollTasks cfg)
  | sweep : SunoEntry cfg (sweepTimedOutTasks cfg)

theorem sweepTimedOutTasks_keeps : Keeps (sunoLimits cfg id) (SunoInv id) (sweepTimedOutTasks cfg) := by
  unfold sweepTimedOutTasks
  split
  · exact keeps_done
  · exact overUnfinished_once (fun _ h _ _ => sweepTimedOutTask_elsewhere h)
      fun task _ => sweepTimedOutTask_once

theorem SunoEntry.keeps {p : BillingProg cfg Unit} (h : SunoEntry cfg p) :
    Keeps (sunoLimits cfg id) (SunoInv id) p := by
  cases h with
  | sweep => exact sweepTimedOutTasks_keeps
  | round =>
    exact keeps_bind sweepTimedOutTasks_keeps fun _ =>
      overUnfinished_once (fun _ h _ _ => pollTask_elsewhere h) fun _ hopen => pollTask_once hopen

/-- **A Suno task is refunded at most once**, and then not stored as a success, as long as rounds
and sweeps take turns, its row can be saved, and the upstream says at most one thing about it at a
time and gives no reason for a failure along with a success. -/
theorem suno_task_refunded_once (hs : taskRefunds id s = [])
    (h : Turns (sunoLimits cfg id) (SunoEntry cfg) s s') :
    (taskRefunds id s').length ≤ 1 ∧
      ∀ row, s'.tasks[id]? = some row → taskRefunds id s' ≠ [] → row.status ≠ .success := by
  have hinv : SunoInv id s' := turns_invariant (fun _ h => h.keeps) (.inl hs) h
  rcases hinv with hnone | ⟨hone, row', hrow', -, hst⟩
  · exact ⟨by simp [hnone], fun _ _ hne => absurd hnone hne⟩
  · refine ⟨Nat.le_of_eq hone, fun row hrow _ => ?_⟩
    obtain rfl : row' = row := Option.mem_unique hrow' hrow
    exact hst

/-- The upstream's word on the Suno tasks of a round. -/
def sunoAnswer (replies : List TaskReply) (timeout : TaskTimeout) : (c : BillingCall) → c.Resp
  | .preConsumeFaults => {}
  | .settleFaults => {}
  | .refundFaults => {}
  | .tokenRefused => false
  | .upstream => none
  | .platform _ => .suno
  | .timeout _ => timeout
  | .fetchTask _ => none
  | .fetchSunoTask _ => replies
  | .changed _ => false
  | .completionQuota _ => none

/-- Rows of tasks that cannot be saved. -/
def unsavedTasks (unsaved : Bool) : BillingTx → Option Err
  | .saveTask _ _ => if unsaved then some (.message "database is locked") else none
  | _ => none

def sunoRound (unsaved : Bool) (replies : List TaskReply) (s : Store) : Except Err Unit × Store :=
  Prog.play (S := billingSystem Config.shipped) (unsavedTasks unsaved)
    (sunoAnswer replies .running) (pollTasks Config.shipped) s

def sunoFailure : TaskReply := { status := some .failure, failReason := "moderation" }

theorem sunoRound_ran {L : Limits (billingSystem Config.shipped)} {unsaved : Bool}
    (hsave : unsaved = true → ∀ t, L.refuses t)
    (hf : ∀ c, L.answers c (sunoAnswer replies .running c)) (s : Store) :
    Ran L (pollTasks Config.shipped) s (sunoRound unsaved replies s).1
      (sunoRound unsaved replies s).2 := by
  refine Prog.play_ran (fun t e ht => ?_) hf s
  cases unsaved with
  | true => exact hsave rfl t
  | false => cases t <;> cases ht

theorem suno_task_refunded_once_run :
    ∃ s', Turns (sunoLimits Config.shipped 0) (SunoEntry Config.shipped) runningTask s' ∧
      ((taskRefunds 0 s').length ≤ 1 ∧
        ∀ row, s'.tasks[0]? = some row → taskRefunds 0 s' ≠ [] → row.status ≠ .success) ∧
      (taskRefunds 0 s').length = 1 ∧ (s'.users 1).quota = 1100 := by
  have hanswers : ∀ c, SunoAnswer 0 c (sunoAnswer [sunoFailure] .running c) := by
    intro c
    cases c with
    | platform i => exact fun _ => nofun
    | fetchSunoTask i => exact fun _ => ⟨Nat.le_refl 1, by simp [sunoAnswer, sunoFailure]⟩
    | _ => trivial
  have hrun : ∀ s, Ran (sunoLimits Config.shipped 0) (pollTasks Config.shipped) s
      (sunoRound false [sunoFailure] s).1 (sunoRound false [sunoFailure] s).2 :=
    sunoRound_ran (by simp) hanswers
  have hturns := Turns.turn (.turn .init .round (hrun runningTask)) SunoEntry.round (hrun _)
  exact ⟨_, hturns, suno_task_refunded_once (by decide) hturns, by decide +kernel, by decide +kernel⟩

/-- A sweep gets in between a poller's read and its refund. -/
def sunoRace : List (Move (billingSystem Config.shipped)) :=
  Move.serve (pollTasks Config.shipped) 0 5 (sunoAnswer [sunoFailure] .running) ++
  Move.serve (sweepTimedOutTasks Config.shipped) 1 5 (sunoAnswer [] .timedOut) ++
  List.replicate 4 (.step 0 (sunoAnswer [sunoFailure] .running))

/-- The row of a refunded task could not be saved, and the next round refunds it again; a sweep gets
in between a poller's read and its refund, and both refund; a success with a reason for a failure is
refunded and stored as a success. -/
theorem suno_task_refunded_twice :
    (∃ w, Reachable (SunoEntry Config.shipped) (fun _ _ => True) runningTask w ∧
      (taskRefunds 0 w.state).length = 2) ∧
    (∃ w, Reachable (SunoEntry Config.shipped) (fun _ _ => True) runningTask w ∧
      (taskRefunds 0 w.state).length = 2) ∧
    (∃ w, Reachable (SunoEntry Config.shipped) (fun _ _ => True) runningTask w ∧
      (taskRefunds 0 w.state).length = 1 ∧
        (w.state.tasks[0]?.map fun row => row.status) = some .success) := by
  have hrun : ∀ unsaved replies s, Ran (Limits.none _) (pollTasks Config.shipped) s
      (sunoRound unsaved replies s).1 (sunoRound unsaved replies s).2 :=
    fun unsaved replies => sunoRound_ran (fun _ _ => trivial) fun _ => trivial
  refine ⟨?_, ?_, ?_⟩
  · have hturns := Turns.turn (.turn .init .round (hrun true [sunoFailure] runningTask))
      SunoEntry.round (hrun false [sunoFailure] _)
    obtain ⟨ps, hw⟩ := hturns.reachable (C := fun _ _ => True) fun _ _ => trivial
    refine ⟨_, hw, ?_⟩
    show (taskRefunds 0 (sunoRound false _ (sunoRound true _ runningTask).2).2).length = 2
    decide +kernel
  · have hE : ∀ p, Move.spawn p ∈ sunoRace → SunoEntry Config.shipped p := by
      intro p hp
      simp only [sunoRace, mem_append] at hp
      rcases hp with (hp | hp) | hp
      · exact Move.spawn_mem_serve hp ▸ .round
      · exact Move.spawn_mem_serve hp ▸ .sweep
      · exact nomatch (eq_of_mem_replicate hp)
    exact exists_reachable (g := fun _ _ => true) sunoRace (fun _ _ _ => trivial) hE
      (by decide +kernel)
  · have hturns := Turns.turn .init SunoEntry.round
      (hrun false [{ status := some .success, failReason := "cover missing" }] runningTask)
    obtain ⟨ps, hw⟩ := hturns.reachable (C := fun _ _ => True) fun _ _ => trivial
    refine ⟨_, hw, ?_⟩
    show (taskRefunds 0 (sunoRound false _ runningTask).2).length = 1 ∧
      ((sunoRound false _ runningTask).2.tasks[0]?.map fun row => row.status) = some .success
    decide +kernel

end ApiGateway
