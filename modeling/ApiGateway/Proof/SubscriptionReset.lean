import Mathlib.Data.Int.Interval
import ApiGateway.Lib.Chain
import ApiGateway.Service.Subscription

/-!
# Catching up with missed resets

A subscription may be looked at long after its last reset, so a reset passes all boundaries up to
now at once. It does not matter how often it was looked at in between (`ResetsTo.again`). But the
loop ends only if no boundary comes back: a period that is too long for a `time.Duration` may come
to nothing, and a midnight that a time zone skips may be read as the hour before it.
-/

namespace ApiGateway

open Chain Decimal Relation

variable {clock : Clock} {plan : SubscriptionPlan} {sub sub1 sub2 : UserSubscription}
variable {base next now now' endTime last : Int} {rounds : Nat}

namespace SubscriptionPlan

/-- Every boundary is later than the time it follows. -/
def Advances (clock : Clock) (plan : SubscriptionPlan) : Prop :=
  ∀ t next, plan.nextBoundary clock t = some next → t < next

theorem Advances.of_clock (hday : ∀ t, t < clock.nextDay t) (hweek : ∀ t, t < clock.nextWeek t)
    (hmonth : ∀ t, t < clock.nextMonth t) (hcustom : 0 < plan.quotaResetCustomSeconds →
      ∀ t, t < clock.addSeconds t plan.quotaResetCustomSeconds) : plan.Advances clock := by
  intro t next h
  unfold nextBoundary at h
  split at h
  · cases h
  · exact Option.some.inj h ▸ hday t
  · exact Option.some.inj h ▸ hweek t
  · exact Option.some.inj h ▸ hmonth t
  split at h
  · cases h
  · rename_i hseconds
    exact Option.some.inj h ▸ hcustom (not_le.mp hseconds) t

/-- There is a boundary up to `now`. -/
abbrev Passes (clock : Clock) (plan : SubscriptionPlan) (base endTime now : Int) : Prop :=
  0 < plan.calcNextResetTime clock base endTime ∧ plan.calcNextResetTime clock base endTime ≤ now

/-- A round of the loop. -/
def Moves (clock : Clock) (plan : SubscriptionPlan) (endTime now base next : Int) : Prop :=
  plan.Passes clock base endTime now ∧ next = plan.calcNextResetTime clock base endTime

theorem moves_unique : Relator.RightUnique (plan.Moves clock endTime now) :=
  fun _ _ _ h h' => h.2.trans h'.2.symm

theorem Advances.lt_of_moves (h : plan.Advances clock)
    (hmove : plan.Moves clock endTime now base next) : base < next := by
  obtain ⟨⟨hpos, -⟩, rfl⟩ := hmove
  unfold calcNextResetTime at hpos ⊢
  cases hnext : plan.nextBoundary clock base with
  | none => simp [hnext] at hpos
  | some next =>
    rw [hnext] at hpos
    dsimp only at hpos ⊢
    split at hpos
    · exact absurd hpos (lt_irrefl 0)
    · rename_i hend
      rw [if_neg hend]
      exact h base next hnext

theorem moves_mono (hle : now ≤ now') (h : ReflTransGen (plan.Moves clock endTime now) base last) :
    ReflTransGen (plan.Moves clock endTime now') base last :=
  ReflTransGen.mono (fun _ _ hmove => ⟨⟨hmove.1.1, hmove.1.2.trans hle⟩, hmove.2⟩) _ _ h

theorem passes_of_path (h : ReflTransGen (plan.Moves clock endTime now) base last)
    (hpass : plan.Passes clock last endTime now) : plan.Passes clock base endTime now :=
  h.cases_head.elim (fun heq => heq ▸ hpass) fun ⟨_, hmove, _⟩ => hmove.1

/-- A time that is reached is the first one, or up to now. -/
theorem reached_le (h : ReflTransGen (plan.Moves clock endTime now) base last) :
    last = base ∨ 0 < last ∧ last ≤ now :=
  h.cases_tail.imp_right fun ⟨_, _, hmove⟩ => hmove.2 ▸ hmove.1

theorem reached_finite :
    {last | ReflTransGen (plan.Moves clock endTime now) base last}.Finite :=
  ((Set.finite_Ioc 0 now).insert base).subset fun _ h => reached_le h

/-- The loop ends where the chain of the boundaries ends. -/
theorem exists_passBoundaries_iff :
    (∃ rounds, plan.passBoundaries clock endTime now rounds base = some last) ↔
      EndsAt (plan.Moves clock endTime now) base last := by
  constructor
  · rintro ⟨rounds, h⟩
    induction rounds generalizing base with
    | zero => cases h
    | succ _ ih =>
      rw [passBoundaries] at h
      split at h
      · rename_i hpass
        exact ⟨.head ⟨hpass, rfl⟩ (ih h).1, (ih h).2⟩
      · rename_i hnot
        obtain rfl := Option.some.inj h
        exact ⟨.refl, fun _ hmove => hnot hmove.1⟩
  · rintro ⟨hpath, hend⟩
    induction hpath using ReflTransGen.head_induction_on with
    | refl => exact ⟨1, if_neg fun hpass => hend _ ⟨hpass, rfl⟩⟩
    | head hmove _ ih =>
      obtain ⟨rounds, h⟩ := ih
      refine ⟨rounds + 1, (if_pos hmove.1).trans ?_⟩
      rw [← hmove.2, h]

theorem Advances.exists_passBoundaries (hadv : plan.Advances clock)
    (hrounds : (now - base).toNat < rounds) :
    ∃ last, plan.passBoundaries clock endTime now rounds base = some last := by
  induction rounds generalizing base with
  | zero => omega
  | succ _ ih =>
    rw [passBoundaries]
    split
    · rename_i hpass
      have hlt := hadv.lt_of_moves ⟨hpass, rfl⟩
      exact ih (by omega)
    · exact ⟨base, rfl⟩

end SubscriptionPlan

theorem Calendar.advances (cal : Calendar) : plan.Advances cal.toClock :=
  .of_clock cal.lt_nextDay cal.lt_nextWeek cal.lt_nextMonth fun h t => cal.lt_addSeconds t _ h

namespace UserSubscription

/-- The reset ends with the row `sub'`. -/
def ResetsTo (clock : Clock) (plan : SubscriptionPlan) (now : Int) (sub sub' : UserSubscription) :
    Prop :=
  ∃ rounds, maybeResetWithin clock rounds plan now sub = some sub'

/-- Nothing is to be done yet, or ever. -/
def Skipped (plan : SubscriptionPlan) (now : Int) (sub : UserSubscription) : Prop :=
  0 < sub.nextResetTime ∧ now < sub.nextResetTime ∨ plan.quotaResetPeriod = .never

/-- The row with the times of a boundary. -/
def begin (clock : Clock) (plan : SubscriptionPlan) (base used : Int) (sub : UserSubscription) :
    UserSubscription :=
  { sub with
    amountUsed := used
    lastResetTime := base
    nextResetTime := plan.calcNextResetTime clock base sub.endTime }

/-- What is written when the loop has ended at `base`. -/
def written (clock : Clock) (plan : SubscriptionPlan) (base now : Int) (sub : UserSubscription) :
    UserSubscription :=
  if plan.Passes clock sub.resetBase sub.endTime now then sub.begin clock plan base 0
  else if sub.nextResetTime = 0 ∧ 0 < plan.calcNextResetTime clock base sub.endTime then
    sub.begin clock plan base sub.amountUsed
  else sub

theorem maybeResetWithin_of_skipped (h : sub.Skipped plan now) :
    maybeResetWithin clock rounds plan now sub = some sub := by
  unfold maybeResetWithin
  split
  · rfl
  · rename_i hlate
    rw [if_pos (h.resolve_left hlate)]

theorem maybeResetWithin_of_due (h : ¬ sub.Skipped plan now) :
    maybeResetWithin clock rounds plan now sub =
      (plan.passBoundaries clock sub.endTime now rounds sub.resetBase).map fun base =>
        sub.written clock plan base now := by
  obtain ⟨hlate, hperiod⟩ := not_or.mp h
  rw [maybeResetWithin, if_neg hlate, if_neg hperiod]
  cases plan.passBoundaries clock sub.endTime now rounds sub.resetBase with
  | none => rfl
  | some base =>
    dsimp only [bind, Option.bind, pure, Option.map, written, begin]
    split_ifs <;> rfl

theorem resetsTo_iff : sub.ResetsTo clock plan now sub1 ↔
    sub.Skipped plan now ∧ sub = sub1 ∨ ¬ sub.Skipped plan now ∧ ∃ base,
      EndsAt (plan.Moves clock sub.endTime now) sub.resetBase base ∧
        sub.written clock plan base now = sub1 := by
  unfold ResetsTo
  simp only [← SubscriptionPlan.exists_passBoundaries_iff]
  by_cases h : sub.Skipped plan now
  · simp only [maybeResetWithin_of_skipped h, h, Option.some.injEq, true_and, not_true, false_and,
      or_false, exists_const]
  · simp only [maybeResetWithin_of_due h, h, Option.map_eq_some_iff, false_and, false_or,
      not_false_iff, true_and]
    rw [exists_comm]
    simp only [exists_and_right]

/-- On a calendar the rounds are enough. -/
theorem resetsTo_maybeReset (cal : Calendar) (plan : SubscriptionPlan) (now : Int)
    (sub : UserSubscription) :
    sub.ResetsTo cal.toClock plan now (maybeResetUserSubscriptionWithPlanTx cal plan now sub) := by
  have hends : ∃ sub', maybeResetWithin cal.toClock ((now - sub.resetBase).toNat + 1) plan now sub =
      some sub' := by
    by_cases hskip : sub.Skipped plan now
    · exact ⟨sub, maybeResetWithin_of_skipped hskip⟩
    · obtain ⟨base, hloop⟩ := cal.advances.exists_passBoundaries (Nat.lt_succ_self _)
      exact ⟨_, (maybeResetWithin_of_due hskip).trans (congrArg _ hloop)⟩
  obtain ⟨sub', hsub⟩ := hends
  rw [maybeResetUserSubscriptionWithPlanTx, hsub]
  exact ⟨_, hsub⟩

/-- **The loop ends unless a boundary comes back.** -/
theorem exists_resetsTo_iff : (∃ sub', sub.ResetsTo clock plan now sub') ↔
    sub.Skipped plan now ∨ ¬ EntersCycle (plan.Moves clock sub.endTime now) sub.resetBase := by
  simp only [resetsTo_iff]
  constructor
  · rintro ⟨sub', ⟨hskip, -⟩ | ⟨-, base, hend, -⟩⟩
    · exact .inl hskip
    · exact .inr (hend.not_entersCycle SubscriptionPlan.moves_unique)
  · intro h
    by_cases hskip : sub.Skipped plan now
    · exact ⟨sub, .inl ⟨hskip, rfl⟩⟩
    · obtain ⟨base, hend⟩ := exists_endsAt SubscriptionPlan.reached_finite (h.resolve_left hskip)
      exact ⟨_, .inr ⟨hskip, base, hend, rfl⟩⟩

/-- A period that has begun is the current one, whether or not its beginning is usable. -/
theorem begin_resetBase {used : Int}
    (h : ReflTransGen (plan.Moves clock endTime now) sub.resetBase base) :
    (sub.begin clock plan base used).resetBase = base := by
  show (if base ≤ 0 then sub.startTime else base) = base
  split
  · have hbase := (SubscriptionPlan.reached_le h).resolve_right (by omega)
    unfold resetBase at hbase
    split at hbase
    · exact hbase.symm
    · omega
  · rfl

theorem written_cases (clock : Clock) (plan : SubscriptionPlan) (base now : Int)
    (sub : UserSubscription) :
    sub.written clock plan base now = sub ∨
      ∃ used, sub.written clock plan base now = sub.begin clock plan base used := by
  unfold written
  split
  · exact .inr ⟨_, rfl⟩
  split
  · exact .inr ⟨_, rfl⟩
  · exact .inl rfl

/-- A row that was just written stays as it is until the next boundary. -/
theorem begin_resetsTo {used : Int} (hbase : (sub.begin clock plan base used).resetBase = base)
    (h : ¬ plan.Passes clock base sub.endTime now) :
    (sub.begin clock plan base used).ResetsTo clock plan now (sub.begin clock plan base used) := by
  rw [resetsTo_iff]
  by_cases hskip : (sub.begin clock plan base used).Skipped plan now
  · exact .inl ⟨hskip, rfl⟩
  refine .inr ⟨hskip, base, ?_, ?_⟩
  · rw [hbase]
    exact ⟨.refl, fun _ hmove => h hmove.1⟩
  · rw [written, hbase]
    refine (if_neg h).trans (if_neg ?_)
    exact fun hfirst => hfirst.2.ne' hfirst.1

/-- **It does not matter how often a row is looked at.** -/
theorem ResetsTo.again (hle : now ≤ now') (h : sub.ResetsTo clock plan now sub1)
    (h' : sub.ResetsTo clock plan now' sub2) : sub1.ResetsTo clock plan now' sub2 := by
  rcases resetsTo_iff.mp h with ⟨-, rfl⟩ | ⟨hdue, base, hend, rfl⟩
  · exact h'
  rcases resetsTo_iff.mp h' with ⟨hskip, -⟩ | ⟨-, base', hend', rfl⟩
  · exact absurd (hskip.imp_left fun hearly => ⟨hearly.1, hle.trans_lt hearly.2⟩) hdue
  rcases sub.written_cases clock plan base now with heq | ⟨used, heq⟩
  · rwa [heq]
  have hpath := SubscriptionPlan.moves_mono hle hend.1
  have hrest := hend'.of_path SubscriptionPlan.moves_unique hpath
  have hbase : (sub.begin clock plan base used).resetBase = base := begin_resetBase hend.1
  by_cases hmore : plan.Passes clock base sub.endTime now'
  · -- a boundary after `base` has passed, so the row is reset once more
    rw [heq]
    refine resetsTo_iff.mpr (.inr ⟨?_, base', hbase.symm ▸ hrest, ?_⟩)
    · rintro (hearly | hnever)
      · exact absurd hearly.2 (not_lt.mpr hmore.2)
      · exact hdue (.inr hnever)
    · rw [written, hbase, written, if_pos (SubscriptionPlan.passes_of_path hpath hmore)]
      exact if_pos hmore
  · obtain rfl : base' = base := eq_of_dead_end (fun _ hmove => hmore hmove.1) hrest.1
    have hiff : plan.Passes clock sub.resetBase sub.endTime now' ↔
        plan.Passes clock sub.resetBase sub.endTime now := by
      refine ⟨fun hpass => by_contra fun hnot => hmore ?_, fun h => ⟨h.1, h.2.trans hle⟩⟩
      rwa [eq_of_dead_end (fun _ hmove => hnot hmove.1) hend.1]
    have hsame : sub.written clock plan base' now' = sub.written clock plan base' now := by
      simp only [written, hiff]
    rw [hsame, heq]
    exact begin_resetsTo hbase hmore

/-- The times of the row go with the plan: a next reset that has passed is not one of a period the
plan no longer has, and no boundary on the way lies before 1970. -/
def Timely (clock : Clock) (plan : SubscriptionPlan) (now : Int) (sub : UserSubscription) : Prop :=
  if 0 < sub.nextResetTime ∧ now < sub.nextResetTime then sub.lastResetTime ≤ now
  else if plan.Passes clock sub.resetBase sub.endTime now then
    ∀ t, ReflTransGen (plan.Moves clock sub.endTime now) sub.resetBase t →
      0 ≤ plan.calcNextResetTime clock t sub.endTime
  else sub.nextResetTime = 0 ∧
    (plan.calcNextResetTime clock sub.resetBase sub.endTime ≤ 0 ∨ sub.resetBase ≤ now)

theorem ResetsTo.upToDate_iff (hnow : 0 ≤ now) (h : sub.ResetsTo clock plan now sub1) :
    (sub1.nextResetTime = 0 ∨ now < sub1.nextResetTime ∧ sub1.lastResetTime ≤ now) ↔
      sub.Timely clock plan now := by
  unfold Timely
  rcases resetsTo_iff.mp h with ⟨hskip, rfl⟩ | ⟨hdue, base, hend, rfl⟩
  · by_cases hearly : 0 < sub.nextResetTime ∧ now < sub.nextResetTime
    · rw [if_pos hearly]
      omega
    have hnone : plan.calcNextResetTime clock sub.resetBase sub.endTime = 0 := by
      simp only [SubscriptionPlan.calcNextResetTime, SubscriptionPlan.nextBoundary,
        hskip.resolve_left hearly]
    rw [if_neg hearly, if_neg (by omega)]
    omega
  rw [if_neg fun hearly => hdue (.inl hearly)]
  have hlate := (not_or.mp hdue).1
  have hfinal : ¬ plan.Passes clock base sub.endTime now := fun hpass => hend.2 _ ⟨hpass, rfl⟩
  unfold written
  by_cases hpass : plan.Passes clock sub.resetBase sub.endTime now
  · rw [if_pos hpass, if_pos hpass]
    have hbase := (SubscriptionPlan.reached_le hend.1).resolve_left fun heq => hfinal (heq ▸ hpass)
    dsimp only [begin]
    constructor
    · intro hpost t ht
      rcases (hend.of_path SubscriptionPlan.moves_unique ht).1.cases_head with rfl | ⟨_, hmove, -⟩
      · omega
      · exact hmove.1.1.le
    · intro hall
      have := hall base hend.1
      omega
  · obtain rfl : base = sub.resetBase := eq_of_dead_end (fun _ hmove => hpass hmove.1) hend.1
    rw [if_neg hpass, if_neg hpass]
    split
    · dsimp only [begin]
      omega
    · omega

end UserSubscription

/-- The clock of a server in UTC, but for the length of its months. -/
def serverClock : Clock := { thirtyDayMonths.toClock with addSeconds := addDuration }

/-- On a server a custom period of up to 9223372036 seconds moves forward. -/
theorem serverClock_advances (hfits : plan.quotaResetCustomSeconds ≤ 9223372036) :
    plan.Advances serverClock := by
  refine .of_clock thirtyDayMonths.lt_nextDay thirtyDayMonths.lt_nextWeek
    thirtyDayMonths.lt_nextMonth fun hpos t => ?_
  have hint : int64 (plan.quotaResetCustomSeconds * 10 ^ 9) =
      plan.quotaResetCustomSeconds * 10 ^ 9 :=
    (int64_eq_iff (by omega) (by omega)).mpr (by simp)
  show t < t + int64 _ / 10 ^ 9
  rw [hint]
  omega

end ApiGateway
