import ApiGateway.Middleware.MemoryRateLimit
import Mathlib.Data.List.Induction
import Mathlib.Data.List.Pairwise

/-!
# What the limiter in memory guarantees

The accepted times of a key are those that were dropped, followed by the queue. As long as the
queue has room, what was dropped is too old to count.
-/

namespace ApiGateway

open List Function InMemoryRateLimiter

variable {n : Nat} {d now : Int} {queue : Option (List Int)} {accepted : List Int}

/-- How many times are among the `d` seconds from `a` on. -/
def acceptedIn (a d : Int) (accepted : List Int) : Nat :=
  accepted.countP fun t => decide (a ≤ t ∧ t < a + d)

/-- What the limiter knows about a key at time `now`. -/
structure WindowInv (n : Nat) (d now : Int) (queue : Option (List Int)) (accepted : List Int) :
    Prop where
  sorted : accepted.Pairwise (· ≤ ·)
  past : ∀ t ∈ accepted, t ≤ now
  window : ∀ a, acceptedIn a d accepted ≤ n
  queue : ∃ dropped, accepted = dropped ++ queue.getD [] ∧ (queue.getD []).length ≤ n ∧
    ((queue.getD []).length < n → ∀ t ∈ dropped, t + d ≤ now)

theorem WindowInv.later (h : WindowInv n d now queue accepted) {now' : Int} (hle : now ≤ now') :
    WindowInv n d now' queue accepted := by
  obtain ⟨dropped, hsplit, hlen, hold⟩ := h.queue
  refine ⟨h.sorted, fun t ht => Int.le_trans (h.past t ht) hle, h.window, dropped, hsplit, hlen, ?_⟩
  exact fun hlt t ht => Int.le_trans (hold hlt t ht) hle

theorem WindowInv.accept (h : WindowInv n d now queue accepted) {dropped rest : List Int}
    (hsplit : accepted = dropped ++ rest) (hlen : rest.length < n)
    (hold : ∀ t ∈ dropped, t + d ≤ now) :
    WindowInv n d now (some (rest ++ [now])) (accepted ++ [now]) where
  sorted := pairwise_append.mpr ⟨h.sorted, by simp, by simpa using h.past⟩
  past := by simpa [or_imp, forall_and] using h.past
  window a := by
    by_cases hnow : now < a + d
    · rw [hsplit, append_assoc, acceptedIn, countP_append]
      have hnone : dropped.countP (fun t => decide (a ≤ t ∧ t < a + d)) = 0 := by
        refine countP_eq_zero.mpr fun t ht => ?_
        have := hold t ht
        simp only [decide_eq_true_eq]
        omega
      have hle := countP_le_length (p := fun t => decide (a ≤ t ∧ t < a + d)) (l := rest ++ [now])
      simp only [length_append, length_singleton] at hle
      omega
    · rw [acceptedIn, countP_append, countP_singleton, if_neg (by simp [hnow])]
      exact h.window a
  queue := ⟨dropped, by simp [hsplit], by simpa using Nat.succ_le_of_lt hlen, fun _ => hold⟩

/-- A request of the key: its time is accepted, or `n` times of the window are. -/
theorem WindowInv.request (h : WindowInv n d now queue accepted) (hn : 0 < n) :
    (∃ queue', nextQueue queue n d now = some queue' ∧
      WindowInv n d now (some queue') (accepted ++ [now])) ∨
    (nextQueue queue n d now = none ∧ n ≤ acceptedIn (now - d + 1) d accepted) := by
  obtain ⟨dropped, hsplit, hlen, hold⟩ := h.queue
  cases queue with
  | none => exact .inl ⟨[now], rfl, h.accept hsplit hn (hold hn)⟩
  | some queue =>
    simp only [Option.getD_some] at hsplit
    by_cases hroom : queue.length < n
    · exact .inl ⟨_, if_pos hroom, h.accept hsplit hroom (hold hroom)⟩
    cases queue with
    | nil => exact absurd hn hroom
    | cons oldest rest =>
      obtain ⟨-, hrest, hle⟩ := pairwise_append.mp (hsplit ▸ h.sorted)
      by_cases hage : now - oldest ≥ d
      · have hsplit' : accepted = (dropped ++ [oldest]) ++ rest := by simp [hsplit]
        refine .inl ⟨_, (if_neg hroom).trans (if_pos hage), h.accept hsplit' hlen fun t ht => ?_⟩
        rcases mem_append.mp ht with ht | ht
        · have := hle t ht oldest mem_cons_self
          omega
        · obtain rfl := mem_singleton.mp ht
          omega
      · refine .inr ⟨(if_neg hroom).trans (if_neg hage), ?_⟩
        have hall : ∀ t ∈ oldest :: rest, now - d + 1 ≤ t ∧ t < now - d + 1 + d := by
          intro t ht
          have hpast := h.past t (hsplit ▸ mem_append_right _ ht)
          rcases mem_cons.mp ht with rfl | ht
          · omega
          · have := (pairwise_cons.mp hrest).1 t ht
            omega
        have hcount : acceptedIn (now - d + 1) d (oldest :: rest) = (oldest :: rest).length :=
          countP_eq_length.mpr fun t ht => decide_eq_true (hall t ht)
        rw [hsplit, acceptedIn, countP_append]
        unfold acceptedIn at hcount
        omega

theorem WindowInv.clear (h : WindowInv n d now queue accepted) (hn : 0 < n) {expiration : Int}
    (hd : d ≤ expiration + 1) : WindowInv n d now (queue.filter fun queue =>
      queue.getLast?.any fun last => now - last ≤ expiration) accepted := by
  obtain ⟨dropped, hsplit, -, hold⟩ := h.queue
  cases queue with
  | none => exact h
  | some queue =>
    rw [Option.filter_some]
    split
    · exact h
    rename_i hexpired
    refine ⟨h.sorted, h.past, h.window, accepted, by simp, by simp, fun _ t ht => ?_⟩
    rcases eq_nil_or_concat queue with rfl | ⟨init, last, rfl⟩
    · exact hold hn t (by simpa [hsplit] using ht)
    · -- the last of the queue is the last of all
      have hle : t ≤ last := by
        have hsorted := h.sorted
        rw [hsplit, Option.getD_some, concat_eq_append, ← append_assoc] at hsorted ht
        rcases mem_append.mp ht with ht | ht
        · exact (pairwise_append.mp hsorted).2.2 t ht last mem_cons_self
        · exact Int.le_of_eq (mem_singleton.mp ht)
      simp at hexpired
      omega

/-- The key is always used with the same limit. -/
def LimiterEvent.Keeps (key : String) (n : Nat) (d : Int) : LimiterEvent → Prop
  | .request key' maxRequestNum duration => key' = key → maxRequestNum = n ∧ duration = d
  | .clear => True

/-- The events of a run come in order of time, and use the key with one limit. -/
structure Orderly (key : String) (n : Nat) (d : Int) (events : List (Int × LimiterEvent)) :
    Prop where
  sorted : events.Pairwise fun e e' => e.1 ≤ e'.1
  keeps : ∀ e ∈ events, e.2.Keeps key n d

variable {expirationDuration : Int} {key : String}

theorem limiterStep_windowInv {l : InMemoryRateLimiter} {event : LimiterEvent} (hn : 0 < n)
    (hd : expirationDuration ≤ 0 ∨ d ≤ expirationDuration / 1000000000 + 1)
    (hkeeps : event.Keeps key n d) (h : WindowInv n d now (l.store key) (l.accepted key)) :
    let l' := limiterStep expirationDuration l (now, event)
    WindowInv n d now (l'.store key) (l'.accepted key) := by
  cases event with
  | request key' m d' =>
    unfold limiterStep InMemoryRateLimiter.request
    by_cases hkey : key' = key
    · subst hkey
      obtain ⟨rfl, rfl⟩ := hkeeps rfl
      rcases h.request hn with ⟨queue, hqueue, hinv⟩ | ⟨hqueue, -⟩
      · simpa [hqueue] using hinv
      · simpa [hqueue] using h
    · dsimp only
      split
      · exact h
      · simpa [Ne.symm hkey] using h
  | clear =>
    simp only [limiterStep]
    split
    · exact h.clear hn (hd.resolve_left (by omega))
    · exact h

theorem windowInv_run (hn : 0 < n)
    (hd : expirationDuration ≤ 0 ∨ d ≤ expirationDuration / 1000000000 + 1)
    (events : List (Int × LimiterEvent)) (h : Orderly key n d events)
    (hpast : ∀ e ∈ events, e.1 ≤ now) :
    let l := events.foldl (limiterStep expirationDuration) {}
    WindowInv n d now (l.store key) (l.accepted key) := by
  induction events using List.reverseRecOn generalizing now with
  | nil => exact ⟨.nil, by simp, by simp [acceptedIn], [], rfl, by simp, by simp⟩
  | append_singleton events e ih =>
    obtain ⟨hevents, -, hbefore⟩ := pairwise_append.mp h.sorted
    have hinv := ih ⟨hevents, fun e' he' => h.keeps e' (mem_append_left _ he')⟩
      fun e' he' => hbefore e' he' e mem_cons_self
    rw [foldl_append]
    exact (limiterStep_windowInv hn hd (h.keeps e (by simp)) hinv).later (hpast e (by simp))

/-- **The limiter is an exact sliding window** if it has no cleanup, or one that waits for the
whole window. -/
theorem sliding_window_exact (expirationDuration : Int) (key : String) (n : Nat) (d : Int)
    (hn : 1 ≤ n) (hd : expirationDuration ≤ 0 ∨ d ≤ expirationDuration / 1000000000 + 1)
    (events : List (Int × LimiterEvent)) (now : Int)
    (h : Orderly key n d (events ++ [(now, .request key n d)])) :
    let l := events.foldl (limiterStep expirationDuration) {}
    (∀ a, acceptedIn a d (l.accepted key) ≤ n) ∧
      (nextQueue (l.store key) n d now = none →
        n ≤ acceptedIn (now - d + 1) d (l.accepted key)) := by
  obtain ⟨hevents, -, hbefore⟩ := pairwise_append.mp h.sorted
  have hinv := windowInv_run hn hd events ⟨hevents, fun e he => h.keeps e (mem_append_left _ he)⟩
    fun e he => hbefore e he _ mem_cons_self
  refine ⟨hinv.window, fun hnone => ?_⟩
  rcases hinv.request hn with ⟨queue, hsome, -⟩ | ⟨-, hcount⟩
  · exact nomatch (hnone.symm.trans hsome)
  · exact hcount

/-- One request in half an hour, a round of the cleanup, and another one. -/
def clearedBetween : List (Int × LimiterEvent) :=
  [(0, .request "key" 1 1800), (1201, .clear), (1201, .request "key" 1 1800)]

theorem clearedBetween_orderly : Orderly "key" 1 1800 clearedBetween :=
  ⟨by decide, by simp [clearedBetween, LimiterEvent.Keeps]⟩

/-- A cleanup that waits for half an hour leaves the second request rejected. -/
theorem sliding_window_exact_halfHour :
    let l := (clearedBetween.take 2).foldl (limiterStep 1800000000000) {}
    nextQueue (l.store "key") 1 1800 1201 = none ∧
      1 ≤ acceptedIn (1201 - 1800 + 1) 1800 (l.accepted "key") :=
  have hnone : nextQueue
      (((clearedBetween.take 2).foldl (limiterStep 1800000000000) {}).store "key") 1 1800 1201 =
        none := by decide
  ⟨hnone, (sliding_window_exact 1800000000000 "key" 1 1800 (by decide) (by decide)
    (clearedBetween.take 2) 1201 clearedBetween_orderly).2 hnone⟩

/-- One that waits for twenty minutes does not. -/
theorem cleared_window_exceeded : Orderly "key" 1 1800 clearedBetween ∧
    acceptedIn 0 1800 ((clearedBetween.foldl (limiterStep 1200000000000) {}).accepted "key") = 2 :=
  ⟨clearedBetween_orderly, by decide⟩

end ApiGateway
