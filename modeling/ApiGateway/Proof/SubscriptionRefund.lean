import ApiGateway.Proof.Funding

/-!
# Returning a subscription charge with retries

`RefundSubscriptionPreConsume` lowers the used amount in a transaction of its own, inside the one
that marks the record. If the outer one is lost after the inner one has committed, the record is
still open, and the next attempt returns the charge once more. `commits` counts the attempts whose
inner transaction commits.
-/

namespace ApiGateway

open Table Decimal

variable {cfg : Config} {s s' : Store} {sub : SubscriptionFunding} {i id : Nat}
  {row : UserSubscription}

def amountUsed (id : Nat) (s : Store) : Int :=
  match s.subscriptions[id]? with
  | some row => row.amountUsed
  | none => 0

/-- How many attempts commit the change of the used amount, up to the one that succeeds. -/
def commits : List SubscriptionRefundFault → Nat
  | [] => 0
  | .none :: _ => 1
  | .refused :: rest => commits rest
  | .recordLost :: rest => commits rest + 1

/-- What is left after the charge was returned `n` times. -/
def drained (sub : SubscriptionFunding) (row : UserSubscription) (n : Nat) : Int :=
  max 0 (row.amountUsed - n * sub.preConsumed)

/-- The charge of a request, not yet returned: its record and the row it is counted in. -/
structure OpenCharge (sub : SubscriptionFunding) (i id : Nat) (row : UserSubscription)
    (s : Store) : Prop where
  blank : isBlank sub.requestId = false
  positive : 0 < sub.preConsumed
  record : ∃ record, lookup (fun r : SubscriptionPreConsumeRecord => r.requestId == sub.requestId)
      s.subscriptionPreConsumes = some (i, record) ∧ record.refunded = false ∧
    record.userSubscriptionId = id ∧ record.preConsumed = sub.preConsumed
  stored : s.subscriptions[id]? = some row
  used : 0 ≤ row.amountUsed

def Returned (requestId : String) (s : Store) : Prop :=
  ∃ i record, lookup (fun r : SubscriptionPreConsumeRecord => r.requestId == requestId)
    s.subscriptionPreConsumes = some (i, record) ∧ record.refunded = true

/-! ## One attempt -/

/-- The used amount is lowered, but not below zero. -/
def returnCharge (sub : SubscriptionFunding) (id : Nat) (row : UserSubscription) (s : Store) :
    Store :=
  s.useSubscription id (drained sub row 1) (drained sub row 1 - row.amountUsed)

theorem drained_one (sub : SubscriptionFunding) (row : UserSubscription) :
    drained sub row 1 = max 0 (row.amountUsed + -sub.preConsumed) := by
  rw [drained, Nat.cast_one, one_mul, sub_eq_add_neg]

theorem OpenCharge.attempt (h : OpenCharge sub i id row s)
    (hfit : 0 < row.amountTotal → drained sub row 1 ≤ row.amountTotal)
    (fault : SubscriptionRefundFault) :
    refundSubscriptionPreConsume sub.requestId fault s =
      match fault with
      | .refused => (false, s)
      | .recordLost => (false, returnCharge sub id row s)
      | .none => (true, markPreConsumeRefunded i (returnCharge sub id row s)) := by
  obtain ⟨record, hlookup, hopen, rfl, hpre⟩ := h.record
  have hguard : ¬ (row.amountTotal > 0 ∧
      max 0 (row.amountUsed + -sub.preConsumed) > row.amountTotal) := by
    rw [← drained_one]
    exact fun hc => absurd (hfit hc.1) (not_le.mpr hc.2)
  have hpost : postConsumeUserSubscriptionDelta (some record.userSubscriptionId)
      (-record.preConsumed) s = .ok (returnCharge sub record.userSubscriptionId row s) := by
    have hne : -sub.preConsumed ≠ 0 := neg_ne_zero.mpr h.positive.ne'
    simp only [postConsumeUserSubscriptionDelta, orFail, bind, Except.bind, hpre, if_neg hne,
      h.stored, failIf, if_neg hguard, returnCharge, drained_one]
    rfl
  have hpos : ¬ record.preConsumed ≤ 0 := by
    rw [hpre]
    exact not_le.mpr h.positive
  unfold refundSubscriptionPreConsume
  simp only [hlookup, h.blank, hopen, if_neg hpos, hpost]
  cases fault with
  | none | refused | recordLost => rfl

theorem OpenCharge.attempt_over (h : OpenCharge sub i id row s)
    (hover : 0 < row.amountTotal ∧ row.amountTotal < drained sub row 1)
    (fault : SubscriptionRefundFault) :
    refundSubscriptionPreConsume sub.requestId fault s = (false, s) := by
  obtain ⟨record, hlookup, hopen, rfl, hpre⟩ := h.record
  rw [drained_one] at hover
  have hguard : row.amountTotal > 0 ∧
      max 0 (row.amountUsed + -sub.preConsumed) > row.amountTotal := hover
  have hpost : ∃ e, postConsumeUserSubscriptionDelta (some record.userSubscriptionId)
      (-record.preConsumed) s = .error e := by
    have hne : -sub.preConsumed ≠ 0 := neg_ne_zero.mpr h.positive.ne'
    simp only [postConsumeUserSubscriptionDelta, orFail, bind, Except.bind, hpre, if_neg hne,
      h.stored, failIf, if_pos hguard]
    exact ⟨_, rfl⟩
  obtain ⟨e, hpost⟩ := hpost
  have hpos : ¬ record.preConsumed ≤ 0 := by
    rw [hpre]
    exact not_le.mpr h.positive
  unfold refundSubscriptionPreConsume
  simp only [hlookup, hopen, if_neg hpos, hpost, Bool.false_eq_true, if_false, ite_self]

/-! ## The retries -/

theorem drained_drained (h : 0 < sub.preConsumed) (n : Nat) :
    drained sub { row with amountUsed := drained sub row 1 } n = drained sub row (n + 1) := by
  have hn : 0 ≤ n * sub.preConsumed := mul_nonneg (Int.natCast_nonneg n) h.le
  have hsucc : ((n + 1 : Nat) : Int) * sub.preConsumed = n * sub.preConsumed + sub.preConsumed := by
    push_cast
    ring
  unfold drained
  dsimp only
  omega

/-- An attempt whose record was lost leaves the charge open, with less to count. -/
theorem OpenCharge.again (h : OpenCharge sub i id row s) :
    OpenCharge sub i id { row with amountUsed := drained sub row 1 } (returnCharge sub id row s) where
  blank := h.blank
  positive := h.positive
  record := h.record
  stored := getElem?_modify_self h.stored
  used := le_max_left _ _

theorem returned_mark (h : OpenCharge sub i id row s) :
    Returned sub.requestId (markPreConsumeRefunded i (returnCharge sub id row s)) := by
  obtain ⟨record, hlookup, -⟩ := h.record
  have hid : (record.requestId == sub.requestId) = true := (lookup_some hlookup).2
  exact ⟨i, _, lookup_modify hlookup hid, rfl⟩

/-- **What the attempts leave.** Every attempt that commits takes the charge away once. -/
theorem refundWithRetry_drains (faults : List SubscriptionRefundFault) :
    ∀ {s : Store} {row : UserSubscription}, OpenCharge sub i id row s →
      (0 < row.amountTotal → drained sub row 1 ≤ row.amountTotal) →
      amountUsed id (refundWithRetry sub.requestId faults s).2 = drained sub row (commits faults) ∧
      ((refundWithRetry sub.requestId faults s).1 = true →
        0 < commits faults ∧ Returned sub.requestId (refundWithRetry sub.requestId faults s).2) := by
  induction faults with
  | nil =>
    intro s row h _
    have hused : drained sub row 0 = row.amountUsed := by
      unfold drained
      simpa using h.used
    simp only [refundWithRetry, commits, hused, Bool.false_eq_true, false_implies, and_true]
    simp only [amountUsed, h.stored]
  | cons fault _ ih =>
    intro s row h hfit
    unfold refundWithRetry
    rw [h.attempt hfit fault]
    cases fault with
    | none =>
      refine ⟨?_, fun _ => ⟨by simp [commits], returned_mark h⟩⟩
      have hrow := getElem?_modify_self (f := fun r : UserSubscription =>
        { r with amountUsed := drained sub row 1 }) h.stored
      simp only [if_true, amountUsed, commits, markPreConsumeRefunded, returnCharge,
        Store.useSubscription_subscriptions, hrow]
    | refused => exact ih h hfit
    | recordLost =>
      have hfit' : 0 < row.amountTotal →
          drained sub { row with amountUsed := drained sub row 1 } 1 ≤ row.amountTotal := by
        intro hpos
        rw [drained_one]
        have hp := h.positive
        dsimp only
        omega
      obtain ⟨hleft, hok⟩ := ih h.again hfit'
      rw [drained_drained h.positive] at hleft
      exact ⟨hleft, fun hr => ⟨Nat.succ_pos _, (hok hr).2⟩⟩

/-! ## At most once -/

def Funding.RefundFaults.attempts (faults : Funding.RefundFaults) : List SubscriptionRefundFault :=
  [faults.first, faults.second, faults.third]

/-- The charge was returned at most once, and if the refund reports success then once, as far as
there was anything to return, with the record marked. -/
structure ReturnedOnce (sub : SubscriptionFunding) (id : Nat) (ok : Bool) (s s' : Store) :
    Prop where
  atMost : amountUsed id s - amountUsed id s' ≤ sub.preConsumed
  exactly : ok = true →
    amountUsed id s - amountUsed id s' = min sub.preConsumed (amountUsed id s) ∧
      Returned sub.requestId s'

/-- **When a subscription charge is returned at most once**: exactly when at most one attempt
commits the change of the used amount, or nothing but the charge itself is counted as used, or the
total forbids the change. -/
theorem subscription_refund_once_iff (h : OpenCharge sub i id row s)
    (faults : Funding.RefundFaults) :
    ReturnedOnce sub id (Funding.refund cfg faults (.subscription sub) s).2.1 s
        (Funding.refund cfg faults (.subscription sub) s).2.2 ↔
      commits faults.attempts ≤ 1 ∨ row.amountUsed ≤ sub.preConsumed ∨
        (0 < row.amountTotal ∧ row.amountTotal < row.amountUsed - sub.preConsumed) := by
  have hpos := h.positive
  have hbefore : amountUsed id s = row.amountUsed := by simp only [amountUsed, h.stored]
  have hrefund : (Funding.refund cfg faults (.subscription sub) s).2 =
      refundWithRetry sub.requestId faults.attempts s := by
    simp only [Funding.refund, if_neg (not_le.mpr hpos), Funding.RefundFaults.attempts]
  rw [hrefund]
  by_cases hover : 0 < row.amountTotal ∧ row.amountTotal < drained sub row 1
  · -- no attempt changes anything
    have hnone : refundWithRetry sub.requestId faults.attempts s = (false, s) := by
      induction faults.attempts with
      | nil => rfl
      | cons fault _ ih =>
        unfold refundWithRetry
        rw [h.attempt_over hover fault]
        exact ih
    rw [hnone]
    have hthird : row.amountTotal < row.amountUsed - sub.preConsumed := by
      have h₂ := hover.2
      rw [drained_one] at h₂
      omega
    refine ⟨fun _ => .inr (.inr ⟨hover.1, hthird⟩), fun _ => ⟨?_, fun hok => ?_⟩⟩
    · show amountUsed id s - amountUsed id s ≤ sub.preConsumed
      omega
    · cases hok
  have hfit : 0 < row.amountTotal → drained sub row 1 ≤ row.amountTotal :=
    fun h0 => not_lt.mp fun hlt => hover ⟨h0, hlt⟩
  have hno : ¬ (0 < row.amountTotal ∧ row.amountTotal < row.amountUsed - sub.preConsumed) := by
    rintro ⟨h0, hlt⟩
    have h₂ := hfit h0
    rw [drained_one] at h₂
    omega
  obtain ⟨hleft, hok⟩ := refundWithRetry_drains faults.attempts h hfit
  generalize commits faults.attempts = m at hleft hok
  have hm : drained sub row m = max 0 (row.amountUsed - m * sub.preConsumed) := rfl
  constructor
  · rintro ⟨hle, -⟩
    by_contra hcon
    simp only [not_or] at hcon
    -- two commits take at least twice the charge, and more than one charge is there
    have htwo : 2 * sub.preConsumed ≤ m * sub.preConsumed := by
      have hm2 : (2 : Int) ≤ m := by
        omega
      exact mul_le_mul_of_nonneg_right hm2 hpos.le
    omega
  intro hcond
  have hcase : m ≤ 1 ∨ row.amountUsed ≤ sub.preConsumed := by
    rcases hcond with h1 | h1 | h1
    · exact .inl h1
    · exact .inr h1
    · exact absurd h1 hno
  have hreduced : 0 < m → row.amountUsed - drained sub row m =
      min sub.preConsumed row.amountUsed := by
    intro hm0
    have hone : sub.preConsumed ≤ m * sub.preConsumed := by
      nlinarith
    rcases hcase with h1 | h1
    · obtain rfl : m = 1 := by omega
      omega
    · omega
  refine ⟨?_, fun h1 => ?_⟩
  · rw [hbefore, hleft]
    rcases Nat.eq_zero_or_pos m with rfl | hm0
    · rw [hm]
      omega
    · rw [hreduced hm0]
      exact min_le_left _ _
  · obtain ⟨hm0, hret⟩ := hok h1
    exact ⟨by rw [hbefore, hleft, hreduced hm0], hret⟩

/-! ## Two runs -/

def chargedRequest : SubscriptionFunding where
  requestId := "request-1"
  userId := 1
  amount := 100
  subscriptionId := some 0
  preConsumed := 100

def chargedRow : UserSubscription := { userId := 1, amountTotal := 1000, amountUsed := 250, endTime := 10 }

/-- It is counted in a subscription along with others. -/
def chargedSubscription : Store where
  subscriptions := [chargedRow]
  subscriptionPreConsumes :=
    [{ requestId := "request-1", userId := 1, userSubscriptionId := 0, preConsumed := 100 }]

theorem openCharge_chargedSubscription :
    OpenCharge chargedRequest 0 0 chargedRow chargedSubscription where
  blank := by decide +kernel
  positive := by decide
  record := ⟨_, rfl, rfl, rfl, rfl⟩
  stored := rfl
  used := by decide

/-- The first attempt is refused and the second one goes through. -/
theorem subscription_refund_once_retried :
    commits [.refused, .none, .none] ≤ 1 ∧
    ReturnedOnce chargedRequest 0
      (Funding.refund Config.shipped { first := .refused } (.subscription chargedRequest)
        chargedSubscription).2.1 chargedSubscription
      (Funding.refund Config.shipped { first := .refused } (.subscription chargedRequest)
        chargedSubscription).2.2 :=
  ⟨by decide, (subscription_refund_once_iff openCharge_chargedSubscription
    { first := .refused }).mpr (.inl (by decide))⟩

/-- The first attempt loses the record after it has lowered the used amount, and the second lowers
it again: 200 are returned for 100. -/
theorem subscription_refund_twice :
    OpenCharge chargedRequest 0 0 chargedRow chargedSubscription ∧
    (Funding.refund Config.shipped { first := .recordLost } (.subscription chargedRequest)
      chargedSubscription).2.1 = true ∧
    amountUsed 0 chargedSubscription = 250 ∧
    amountUsed 0 (Funding.refund Config.shipped { first := .recordLost }
      (.subscription chargedRequest) chargedSubscription).2.2 = 50 :=
  ⟨openCharge_chargedSubscription, by decide +kernel, by decide, by decide +kernel⟩

end ApiGateway
