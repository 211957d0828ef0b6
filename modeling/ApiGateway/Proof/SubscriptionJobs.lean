import ApiGateway.Service.Subscription

/-!
# The expiry job

A round of the job marks the subscriptions of the users it finds in a batch. A round that marks
fewer rows than a batch has room for has found all there were, so the job may stop.
-/

namespace ApiGateway

open Table List UserSubscription

variable {s : Store} {now : Int} {users : List Nat} {u limit : Nat} {sub : UserSubscription}

/-- What the transactions for these users make of a row. -/
def UserSubscription.expiredFor (users : List Nat) (now : Int) (sub : UserSubscription) :
    UserSubscription :=
  if sub.userId ∈ users ∧ sub.overdue now then { sub with status := .expired } else sub

theorem overdue_expiredFor :
    (sub.expiredFor users now).overdue now = (decide (sub.userId ∉ users) && sub.overdue now) := by
  unfold expiredFor
  split
  · rename_i h
    rw [decide_eq_false (not_not.mpr h.1)]
    rfl
  · rename_i h
    by_cases hmem : sub.userId ∈ users <;> simp_all

theorem expiredFor_cons :
    (sub.expiredFor [u] now).expiredFor users now = sub.expiredFor (u :: users) now := by
  by_cases hover : sub.overdue now = true
  · by_cases hu : sub.userId = u <;> simp [expiredFor, hu, hover]
  · simp [expiredFor, hover]

theorem subscriptions_expireUser :
    (expireUserSubscriptions u now s).subscriptions = s.subscriptions.map (·.expiredFor [u] now) := by
  have hmark : (markOverdue u now s).subscriptions = s.subscriptions.map (·.expiredFor [u] now) := by
    refine ext_getElem? fun i => ?_
    simp [markOverdue, getElem?_updateWhere, expiredFor]
  unfold expireUserSubscriptions
  dsimp only
  split
  · exact hmark
  split
  · exact hmark
  split
  · exact hmark
  split
  · exact hmark
  · exact hmark

theorem subscriptions_expireUsers :
    (expireUsers now users s).2.subscriptions = s.subscriptions.map (·.expiredFor users now) := by
  induction users generalizing s with
  | nil => simp [expireUsers, expiredFor]
  | cons u users ih =>
    rw [expireUsers, ih, subscriptions_expireUser, map_map]
    exact map_congr_left fun sub _ => expiredFor_cons

section Count

-- what a row must be to be marked, and is no more then
variable {q : UserSubscription → Bool} (hover : ∀ sub, sub.overdue now → q sub)
  (hexpired : ∀ sub : UserSubscription, q { sub with status := .expired } = false)
include hover hexpired

theorem countP_expiredFor (subs : List UserSubscription) :
    (subs.countP fun sub => sub.userId == u && sub.overdue now) +
      (subs.map (·.expiredFor [u] now)).countP q = subs.countP q := by
  rw [countP_map, countP_eq_countP_filter_add subs q fun sub => sub.userId == u && sub.overdue now,
    countP_filter, countP_filter]
  congr 1
  · refine countP_congr fun sub _ => ?_
    simp only [Bool.and_eq_true]
    exact ⟨fun h => ⟨hover sub h.2, h⟩, And.right⟩
  · refine countP_congr fun sub _ => ?_
    by_cases h : sub.userId = u ∧ sub.overdue now = true
    · obtain ⟨rfl, hover⟩ := h
      simp [expiredFor, hover, hexpired]
    · have hnot : (sub.userId == u && sub.overdue now) = false := by simpa using h
      simp [expiredFor, h, hnot]

theorem count_expireUsers :
    (expireUsers now users s).1 + (expireUsers now users s).2.subscriptions.countP q =
      s.subscriptions.countP q := by
  induction users generalizing s with
  | nil => exact Nat.zero_add _
  | cons u users ih =>
    rw [expireUsers, Nat.add_assoc, ih, subscriptions_expireUser, countP_expiredFor hover hexpired]

end Count

/-- A batch marks all that is over, or as many rows as it may. -/
theorem expireDue_batch (hpos : ∀ sub ∈ s.subscriptions, 0 < sub.userId) :
    limit ≤ (expireDueSubscriptions limit now s).1 ∨
      ∀ sub ∈ (expireDueSubscriptions limit now s).2.subscriptions, sub.overdue now = false := by
  unfold expireDueSubscriptions
  set users := overdueUsers limit now s
  have hcount : (expireUsers now users s).1 +
      (expireUsers now users s).2.subscriptions.countP (·.overdue now) =
        s.subscriptions.countP (·.overdue now) := count_expireUsers (fun _ h => h) fun _ => rfl
  set due := (s.subscriptions.filter fun sub => sub.overdue now).insertionSort
    fun a b => a.endTime ≤ b.endTime
  have hperm : due.Perm (s.subscriptions.filter (·.overdue now)) := perm_insertionSort _ _
  -- the rows of the batch belong to the users
  have hmem : ∀ sub ∈ due.take limit, sub.userId ∈ users := by
    intro sub hsub
    have hrow := (mem_filter.mp (hperm.mem_iff.mp (mem_of_mem_take hsub))).1
    exact mem_dedup.mpr (mem_filter.mpr ⟨mem_map_of_mem hsub, decide_eq_true (hpos sub hrow)⟩)
  have hleft : (expireUsers now users s).2.subscriptions.countP (·.overdue now) ≤
      due.length - limit := calc
    _ = (s.subscriptions.filter (·.overdue now)).countP (fun sub => decide (sub.userId ∉ users)) := by
      rw [subscriptions_expireUsers, countP_map, countP_filter]
      simp only [Function.comp_def, overdue_expiredFor]
    _ = (due.take limit ++ due.drop limit).countP (fun sub => decide (sub.userId ∉ users)) := by
      rw [take_append_drop, hperm.countP_eq]
    _ ≤ due.length - limit := by
      rw [countP_append, countP_eq_zero.mpr fun sub hsub => by simpa using hmem sub hsub, zero_add,
        ← length_drop]
      exact countP_le_length
  have hlength : due.length = s.subscriptions.countP (·.overdue now) := by
    rw [hperm.length_eq, countP_eq_length_filter]
  by_cases hfull : limit ≤ (expireUsers now users s).1
  · exact .inl hfull
  · right
    have hnone : (expireUsers now users s).2.subscriptions.countP (·.overdue now) = 0 := by omega
    simpa using countP_eq_zero.mp hnone

/-- **The expiry job ends, with nothing over left.** Whenever its rounds take place, one of them is
the last, if users are numbered from one. What was over in that round is then marked, and a
subscription that was over in none of the rounds up to it is as before. -/
theorem expiry_job_ends (times : List Int) (s : Store)
    (hpos : ∀ sub ∈ s.subscriptions, 0 < sub.userId)
    (hlong : s.subscriptions.countP (fun sub => sub.status == .active) <
      times.length * subscriptionResetBatchSize) :
    ∃ rounds now rest s', times = rounds ++ now :: rest ∧
      (expireLoop rounds s = none ∧ expireLoop (rounds ++ [now]) s = some s' ∧
        expireLoop times s = some s') ∧
      (∀ sub ∈ s'.subscriptions, sub.overdue now = false) ∧
      ∀ (i : Nat) sub, s.subscriptions[i]? = some sub →
        (∀ t ∈ rounds ++ [now], sub.overdue t = false) → s'.subscriptions[i]? = some sub := by
  induction times generalizing s with
  | nil => simp at hlong
  | cons now times ih =>
    set r := expireDueSubscriptions subscriptionResetBatchSize now s with hr
    obtain ⟨users, hrows⟩ : ∃ users, r.2.subscriptions =
        s.subscriptions.map fun sub => sub.expiredFor users now := ⟨_, subscriptions_expireUsers⟩
    have hkept : ∀ (i : Nat) sub, s.subscriptions[i]? = some sub → sub.overdue now = false →
        r.2.subscriptions[i]? = some sub := by
      intro i sub hrow hnot
      simp [hrows, hrow, expiredFor, hnot]
    have hloop : ∀ l, expireLoop (now :: l) s =
        if r.1 < subscriptionResetBatchSize then some r.2 else expireLoop l r.2 := fun _ => rfl
    by_cases hshort : r.1 < subscriptionResetBatchSize
    · refine ⟨[], now, times, r.2, rfl, ⟨rfl, ?_, ?_⟩, ?_, fun i sub hrow hnot => ?_⟩
      · rw [nil_append, hloop, if_pos hshort]
      · rw [hloop, if_pos hshort]
      · exact (expireDue_batch hpos).resolve_left (not_le.mpr hshort)
      · exact hkept i sub hrow (hnot now mem_cons_self)
    · have hcount : r.1 + r.2.subscriptions.countP (fun sub => sub.status == .active) =
          s.subscriptions.countP fun sub => sub.status == .active :=
        count_expireUsers (fun sub h => by simp_all [overdue]) fun _ => rfl
      have hpos' : ∀ sub ∈ r.2.subscriptions, 0 < sub.userId := by
        rw [hrows, forall_mem_map]
        intro sub hsub
        unfold expiredFor
        split <;> exact hpos sub hsub
      rw [length_cons, Nat.succ_mul] at hlong
      obtain ⟨rounds, last, rest, s', rfl, ⟨hgoes, hends, hall⟩, hdone, hlater⟩ :=
        ih r.2 hpos' (by omega)
      refine ⟨now :: rounds, last, rest, s', rfl, ⟨?_, ?_, ?_⟩, hdone, fun i sub hrow hnot => ?_⟩
      · rw [hloop, if_neg hshort, hgoes]
      · rw [cons_append, hloop, if_neg hshort, hends]
      · rw [hloop, if_neg hshort, hall]
      · exact hlater i sub (hkept i sub hrow (hnot now mem_cons_self))
          fun t ht => hnot t (mem_cons_of_mem _ ht)

/-- One subscription that is over. -/
def oneOver : Store where
  subscriptions := [{ userId := 1, planId := 0, amountTotal := 0, startTime := 0, endTime := 50 }]

/-- With time for two rounds, the job ends with the first. -/
theorem expiry_job_ends_oneOver : ∃ rounds now rest s', [100, 160] = rounds ++ now :: rest ∧
    expireLoop (rounds ++ [now]) oneOver = some s' ∧
    ∀ sub ∈ s'.subscriptions, sub.overdue now = false := by
  obtain ⟨rounds, now, rest, s', htimes, ⟨-, hends, -⟩, hdone, -⟩ :=
    expiry_job_ends [100, 160] oneOver (by decide) (by decide)
  exact ⟨rounds, now, rest, s', htimes, hends, hdone⟩

end ApiGateway
