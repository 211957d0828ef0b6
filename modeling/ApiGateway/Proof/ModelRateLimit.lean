import ApiGateway.Middleware.ModelRateLimit
import Mathlib.Data.List.Induction
import Mathlib.Data.Finset.Dedup
import Mathlib.Data.Finset.Order

/-!
# What the total limit guarantees

The level of the bucket is bounded from both sides by the requests that were let through: from below
by those of the last `duration` seconds, so nobody is rejected too early, and from above by those
since any earlier time. The second bound is not the limit that users are told: a full bucket is
spent at once while it fills up again.
-/

namespace ApiGateway

open List LimiterConfig

variable {n D now t : Int} {user : LimitedUser}

/-- How many of the requests came at `a` or later. -/
def passedSince (a : Int) (passed : List Int) : Int := passed.countP fun t => decide (a ≤ t)

/-- How many of the requests came between two times, both included. -/
def passedIn (a b : Int) (passed : List Int) : Int :=
  passed.countP fun t => decide (a ≤ t) && decide (t ≤ b)

theorem passedSince_cons (a t : Int) (passed : List Int) :
    passedSince a (t :: passed) = passedSince a passed + if a ≤ t then 1 else 0 := by
  simp [passedSince, countP_cons]

theorem passedIn_cons (a b t : Int) (passed : List Int) :
    passedIn a b (t :: passed) = passedIn a b passed + if a ≤ t ∧ t ≤ b then 1 else 0 := by
  simp [passedIn, countP_cons]

/-- The level of the bucket and the requests that were let through, at time `now` or later. -/
structure LimiterInv (n D now : Int) (user : LimitedUser) : Prop where
  /-- Nothing is recorded ahead of time. -/
  past : ∀ t ∈ user.passed, t ≤ now
  /-- What is missing was taken in the last `D` seconds. -/
  enough : ∀ t, now ≤ t →
    n * D - D * passedIn (t - D + 1) t user.passed ≤ (totalLimit D n).level t user.bucket
  /-- What was taken since `a` had been there, or has come in since. -/
  spent : ∀ a t, a ≤ t → now ≤ t →
    D * passedSince a user.passed + (totalLimit D n).level t user.bucket ≤ n * D + n * (t - a)
  /-- The same for the requests of a window. -/
  window : ∀ a b, a ≤ b → D * passedIn a b user.passed ≤ n * D + n * (b - a)

theorem LimiterInv.later (h : LimiterInv n D now user) (hle : now ≤ t) : LimiterInv n D t user where
  past x hx := (h.past x hx).trans hle
  enough t' ht' := h.enough t' (hle.trans ht')
  spent a t' ha ht' := h.spent a t' ha (hle.trans ht')
  window := h.window

theorem request_cases (n D t : Int) (user : LimitedUser) :
    let level := (totalLimit D n).level t user.bucket
    (D ≤ level ∧ user.request (totalLimit D n) t =
      { bucket := some { tokens := level - D, lastTime := t }, passed := t :: user.passed }) ∨
    (level < D ∧ user.request (totalLimit D n) t =
      { bucket := some { tokens := level, lastTime := t }, passed := user.passed }) := by
  by_cases hallowed : (totalLimit D n).level t user.bucket ≥ (totalLimit D n).requested
  · refine .inl ⟨hallowed, ?_⟩
    simp only [LimitedUser.request, allow, if_pos hallowed]
    rfl
  · refine .inr ⟨not_le.mp hallowed, ?_⟩
    simp only [LimitedUser.request, allow, if_neg hallowed]
    rfl

section Limit

variable (hn : 1 ≤ n) (hD : 1 ≤ D)
include hn

theorem level_later (bucket : Option TokenBucket) (hle : now ≤ t) :
    (totalLimit D n).level t bucket =
      min (n * D) ((totalLimit D n).level now bucket + (t - now) * n) := by
  have hmore : 0 ≤ (t - now) * n := mul_nonneg (by omega) (by omega)
  cases bucket with
  | none =>
    show n * D = min (n * D) (n * D + (t - now) * n)
    omega
  | some bucket =>
    show min (n * D) (bucket.tokens + (t - bucket.lastTime) * n) =
      min (n * D) (min (n * D) (bucket.tokens + (now - bucket.lastTime) * n) + (t - now) * n)
    have : (t - bucket.lastTime) * n = (now - bucket.lastTime) * n + (t - now) * n := by ring
    omega

include hD

theorem limiterInv_start : LimiterInv n D now {} := by
  have hzero : ∀ a b, a ≤ b → 0 ≤ n * (b - a) := fun a b h => mul_nonneg (by omega) (by omega)
  have hfull : 0 ≤ n * D := mul_nonneg (by omega) (by omega)
  refine ⟨by simp, fun t _ => ?_, fun a t ha _ => ?_, fun a b ha => ?_⟩
  · simp [passedIn, level, totalLimit]
  · simpa [passedSince, level, totalLimit] using hzero a t ha
  · simpa [passedIn] using add_nonneg hfull (hzero a b ha)

theorem limiterInv_request (h : LimiterInv n D now user) (hle : now ≤ t) :
    LimiterInv n D t (user.request (totalLimit D n) t) := by
  have hlevel : ∀ t' k, (totalLimit D n).level t' (some { tokens := k, lastTime := t }) =
      min (n * D) (k + (t' - t) * n) := fun _ _ => rfl
  rcases request_cases n D t user with ⟨hallowed, heq⟩ | ⟨-, heq⟩
  · rw [heq]
    refine ⟨?_, fun t' ht' => ?_, fun a t' ha ht' => ?_, fun a b hab => ?_⟩
    · simpa using fun x hx => (h.past x hx).trans hle
    · rw [hlevel, passedIn_cons, mul_add]
      split_ifs with hin
      · have henough := h.enough t' (hle.trans ht')
        rw [level_later hn user.bucket ht'] at henough
        omega
      · -- a whole window has passed since
        have hfilled : D * n ≤ (t' - t) * n := mul_le_mul_of_nonneg_right (by omega) (by omega)
        have hcount : 0 ≤ D * passedIn (t' - D + 1) t' user.passed :=
          mul_nonneg (by omega) (Int.natCast_nonneg _)
        rw [mul_comm D n] at hfilled
        omega
    · rw [hlevel, passedSince_cons, mul_add]
      have hsince : n * (t' - a) = n * (t - a) + (t' - t) * n := by ring
      split_ifs with hin
      · have hspent := h.spent a t hin hle
        omega
      · have hnone : passedSince a user.passed = 0 := by
          simpa [passedSince] using fun x hx => (h.past x hx).trans_lt (by omega)
        have hmore : 0 ≤ n * (t' - a) := mul_nonneg (by omega) (by omega)
        rw [hnone]
        omega
    · rw [passedIn_cons, mul_add]
      split_ifs with hin
      · have hspent := h.spent a t hin.1 hle
        have hcount : D * passedIn a b user.passed ≤ D * passedSince a user.passed :=
          mul_le_mul_of_nonneg_left (Int.ofNat_le.mpr
            (countP_mono_left fun _ _ h => ((Bool.and_eq_true ..).mp h).1)) (by omega)
        have hmore : n * (t - a) ≤ n * (b - a) := mul_le_mul_of_nonneg_left (by omega) (by omega)
        omega
      · simpa using h.window a b hab
  · -- a bucket that is only looked at is the same later on
    rw [heq]
    refine ⟨(h.later hle).past, fun t' ht' => ?_, fun a t' ha ht' => ?_, h.window⟩
    · rw [hlevel, ← level_later hn user.bucket ht']
      exact h.enough t' (hle.trans ht')
    · rw [hlevel, ← level_later hn user.bucket ht']
      exact h.spent a t' ha (hle.trans ht')

theorem limiterInv_requests {times : List Int} (hsorted : times.Pairwise (· ≤ ·))
    (hnow : ∀ t ∈ times, t ≤ now) : LimiterInv n D now (requestsAt (totalLimit D n) times) := by
  induction times using List.reverseRecOn generalizing now with
  | nil => exact limiterInv_start hn hD
  | append_singleton _ t ih =>
    obtain ⟨hbefore, -, hlast⟩ := pairwise_append.mp hsorted
    rw [requestsAt, foldl_concat]
    refine (limiterInv_request hn hD (ih hbefore fun x hx => ?_) le_rfl).later (hnow t (by simp))
    exact hlast x hx t (mem_singleton_self t)

omit hn in
theorem LimiterInv.allows (h : LimiterInv n D now user) (hle : now ≤ t)
    (hfew : passedIn (t - D + 1) t user.passed < n) :
    D ≤ (totalLimit D n).level t user.bucket := by
  have henough := h.enough t hle
  have : D * (passedIn (t - D + 1) t user.passed + 1) ≤ D * n :=
    mul_le_mul_of_nonneg_left hfew (by omega)
  linarith

theorem requestsAt_replicate {k : Nat} (hk : (k : Int) ≤ n) :
    LimiterInv n D 0 (requestsAt (totalLimit D n) (List.replicate k 0)) ∧
    (requestsAt (totalLimit D n) (List.replicate k 0)).passed = List.replicate k 0 := by
  induction k with
  | zero => exact ⟨limiterInv_start hn hD, rfl⟩
  | succ k ih =>
    obtain ⟨hinv, hpassed⟩ := ih (by omega)
    rw [replicate_succ', requestsAt, foldl_concat, ← requestsAt]
    refine ⟨limiterInv_request hn hD hinv le_rfl, ?_⟩
    rcases request_cases n D 0 (requestsAt (totalLimit D n) (List.replicate k 0)) with
      ⟨-, heq⟩ | ⟨hrejected, -⟩
    · rw [heq, hpassed]
      exact (replicate_succ' ..).symm ▸ rfl
    · refine absurd (hinv.allows hD le_rfl ?_) (not_le.mpr hrejected)
      have : passedIn (0 - D + 1) 0 (List.replicate k 0) ≤ (List.replicate k (0 : Int)).length :=
        Int.ofNat_le.mpr countP_le_length
      rw [length_replicate] at this
      rw [hpassed]
      omega

end Limit

/-- **The total limit is a limit per window only in the smallest cases**: in every window of `D`
seconds at most `n` requests are let through exactly if `n` or `D` is one. A request is rejected
only if `n` requests were let through in the last `D` seconds. -/
theorem total_limit_per_window_iff (n D : Int) (hn : 1 ≤ n) (hD : 1 ≤ D) :
    ((∀ times : List Int, times.Pairwise (· ≤ ·) → ∀ a,
      passedIn a (a + D - 1) (requestsAt (totalLimit D n) times).passed ≤ n) ↔ n = 1 ∨ D = 1) ∧
    ∀ (times : List Int) (t : Int), (times ++ [t]).Pairwise (· ≤ ·) →
      ((totalLimit D n).allow t (requestsAt (totalLimit D n) times).bucket).1 = false →
      n ≤ passedIn (t - D + 1) t (requestsAt (totalLimit D n) times).passed := by
  refine ⟨⟨fun h => ?_, fun h times hsorted a => ?_⟩, fun times t hsorted hrejected => ?_⟩
  · by_contra hlarge
    -- a full bucket at once, and what has come in by the end of the window
    obtain ⟨k, rfl⟩ := Int.eq_ofNat_of_zero_le (show 0 ≤ n by omega)
    obtain ⟨hinv, hpassed⟩ := requestsAt_replicate hn hD (le_refl (k : Int))
    have hsorted : (List.replicate k 0 ++ [D - 1]).Pairwise (· ≤ ·) := by
      refine pairwise_append.mpr ⟨pairwise_replicate.mpr (.inr (le_refl 0)),
        pairwise_singleton .., fun a ha b hb => ?_⟩
      rw [eq_of_mem_replicate ha, mem_singleton.mp hb]
      omega
    have hwindow := h _ hsorted 0
    rw [requestsAt, foldl_concat, ← requestsAt] at hwindow
    have hcount : ∀ a b : Int, a ≤ 0 → 0 ≤ b → passedIn a b (List.replicate k 0) = k := by
      intro a b ha hb
      simp [passedIn, countP_replicate, ha, hb]
    rcases request_cases k D (D - 1) (requestsAt (totalLimit D k) (List.replicate k 0)) with
      ⟨-, heq⟩ | ⟨hless, -⟩
    · rw [heq, hpassed, passedIn_cons, hcount _ _ le_rfl (by omega)] at hwindow
      omega
    · rw [level_later hn _ (show 0 ≤ D - 1 by omega)] at hless
      have henough := hinv.enough 0 le_rfl
      rw [hpassed, hcount _ _ (by omega) le_rfl, mul_comm D k] at henough
      have : 2 * D ≤ k * D := mul_le_mul_of_nonneg_right (by omega) (by omega)
      have : (D - 1) * 2 ≤ (D - 1 - 0) * k := by nlinarith
      omega
  · obtain ⟨now, hnow⟩ := times.toFinset.exists_le
    have hwindow := (limiterInv_requests hn hD hsorted fun t ht =>
      hnow t (mem_toFinset.mpr ht)).window a (a + D - 1) (by omega)
    set count := passedIn a (a + D - 1) (requestsAt (totalLimit D n) times).passed
    rcases h with rfl | rfl
    · by_contra hmore
      have : D * 2 ≤ D * count := mul_le_mul_of_nonneg_left (by omega) (by omega)
      omega
    · omega
  · obtain ⟨htimes, -, hlast⟩ := pairwise_append.mp hsorted
    by_contra hfew
    have hallowed := (limiterInv_requests hn hD htimes fun x hx =>
      hlast x hx t (mem_singleton_self t)).allows hD le_rfl (not_le.mp hfew)
    simp only [LimiterConfig.allow, if_pos (show _ ≥ (totalLimit D n).requested from hallowed)]
      at hrejected
    cases hrejected

/-- Two requests a minute: three get through. -/
theorem total_limit_exceeded :
    ([0, 0, 59] : List Int).Pairwise (· ≤ ·) ∧
      passedIn 0 (0 + 60 - 1) (requestsAt (totalLimit 60 2) [0, 0, 59]).passed = 3 := by
  decide

theorem total_limit_per_window_one :
    passedIn 0 (0 + 60 - 1) (requestsAt (totalLimit 60 1) [0, 30, 60]).passed ≤ 1 :=
  (total_limit_per_window_iff 1 60 (by decide) (by decide)).1.mpr (.inl rfl) _ (by decide) 0

/-- **What the total limit does guarantee.** Whenever the requests come, those let through between
two times are at most a full bucket and what drips in meanwhile; in a window of `D` seconds, they
are fewer than twice the limit. -/
theorem total_limit_burst (n D : Int) (hn : 1 ≤ n) (hD : 1 ≤ D) (times : List Int)
    (hsorted : times.Pairwise (· ≤ ·)) :
    let passed := (requestsAt (totalLimit D n) times).passed
    (∀ a b, a ≤ b → D * passedIn a b passed ≤ n * (D + (b - a))) ∧
      ∀ a, passedIn a (a + D - 1) passed < 2 * n := by
  intro passed
  obtain ⟨now, hnow⟩ := times.toFinset.exists_le
  have hwindow : ∀ a b, a ≤ b → D * passedIn a b passed ≤ n * (D + (b - a)) := by
    intro a b hab
    rw [mul_add]
    exact (limiterInv_requests hn hD hsorted fun t ht =>
      hnow t (mem_toFinset.mpr ht)).window a b hab
  refine ⟨hwindow, fun a => ?_⟩
  have hless : D * passedIn a (a + D - 1) passed < D * (2 * n) := calc
    D * passedIn a (a + D - 1) passed ≤ n * (D + (a + D - 1 - a)) := hwindow a _ (by omega)
    _ < D * (2 * n) := by linarith
  exact lt_of_mul_lt_mul_left hless (by omega)

theorem total_limit_burst_three : passedIn 0 59 (requestsAt (totalLimit 60 2) [0, 0, 59]).passed < 4 :=
  (total_limit_burst 2 60 (by decide) (by decide) [0, 0, 59] (by decide)).2 0

end ApiGateway
