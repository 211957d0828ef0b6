import ApiGateway.Proof.WithdrawEffects

/-!
# Every withdraw transaction is a sequence of effects

Each transaction re-reads the order and its status before it writes: a write that releases frozen
commission found the order open, and one that moves an order between statuses found it in a status
that is not final.
-/

namespace ApiGateway

open Table Decimal WithdrawOrder FlowKey Effect

variable {early : String → Prop} {cfg : Config} {s s' : Store}
variable {id reviewerId : Nat} {o o' : WithdrawOrder}
  {no reason remark reqDigest respDigest : String} {now : Int} {sel : OrderSelector}
variable {b paid : Bool} {key : FlowKey} {timeString : String} {cents : Int}
  {fee : PiggyPlatformFeeCalculation} {adminId : Nat}

/-! ## Reading an order -/

theorem lockWithdrawOrderTx_eq_ok :
    lockWithdrawOrderTx id s = .ok o ↔ s.withdrawOrders[id]? = some o := by
  exact orFail_eq_ok

theorem lockWithdrawOrderByNoTx_ok {r : Nat × WithdrawOrder}
    (h : lockWithdrawOrderByNoTx no s = .ok r) :
    s.withdrawOrders[r.1]? = some r.2 ∧ r.2.withdrawNo = trimSpace no ∧
      r.2.provider = .piggyLaborV3 := by
  unfold lockWithdrawOrderByNoTx at h
  simp only [bind_eq_ok, orFail_eq_ok, failIf_eq_ok, pure_eq_ok, not_not] at h
  obtain ⟨q, hq, -, hp, rfl⟩ := h
  obtain ⟨hget, hno⟩ := lookup_some hq
  exact ⟨hget, by simpa using hno, hp⟩

theorem piggyWithdrawOrderAmount_of_pos (h : 0 < o.amount) :
    piggyWithdrawOrderAmount o = o.amount := by
  exact if_pos h

/-! ## Column updates keep the order's identity -/

theorem Kept.markers (h : Kept o o') (order : WithdrawOrder) (now : Int) :
    Kept o (addPiggyApprovedSubmissionMarkers order now o') := by
  unfold addPiggyApprovedSubmissionMarkers
  split
  · exact h
  · exact h.trans ⟨rfl, rfl, rfl, rfl⟩

@[simp] theorem addPiggyApprovedSubmissionMarkers_status (order : WithdrawOrder) (now : Int)
    (o : WithdrawOrder) : (addPiggyApprovedSubmissionMarkers order now o).status = o.status := by
  unfold addPiggyApprovedSubmissionMarkers
  split <;> rfl

theorem Kept.digests (h : Kept o o') (reqDigest respDigest : String) :
    Kept o (piggyApplyDigestUpdates reqDigest respDigest o') := by
  unfold piggyApplyDigestUpdates
  split
  · exact h.trans ⟨rfl, rfl, rfl, rfl⟩
  · split
    · exact h.trans ⟨rfl, rfl, rfl, rfl⟩
    · exact h

@[simp] theorem piggyApplyDigestUpdates_status (reqDigest respDigest : String)
    (o : WithdrawOrder) : (piggyApplyDigestUpdates reqDigest respDigest o).status = o.status := by
  unfold piggyApplyDigestUpdates
  split
  · rfl
  · split <;> rfl

/-! ## Closing an order -/

theorem Closing.ofManual (hk : Kept o o')
    (hp : o.provider = .manual) (hopen : o.ManualStatus → o.isOpen = true)
    (hs : o'.status = .paid ∨ o'.status = .rejected) (hkey : ∀ no, key.settlesOrder no = false) :
    Closing paid key o o' := by
  have hp' := hk.provider.trans hp
  refine ⟨hk, fun h => hopen (h hp), ?_, fun _ => ⟨?_, hkey⟩, fun h => ?_⟩
  · rcases hs with h | h <;> simp [isOpen, hp', h]
  · rcases hs with h | h <;> simp [ManualStatus, h]
  · rw [hp] at h
    cases h

theorem Closing.ofPiggy (hk : Kept o o')
    (hp : o.provider = .piggyLaborV3) (hopen : isPiggyTerminalStatus o.status = false)
    (hclosed : isPiggyTerminalStatus o'.status = true)
    (hkey : key.settlesOrder o.withdrawNo = true) (hpaid : paid = true ↔ o'.status = .paid) :
    Closing paid key o o' := by
  have hp' := hk.provider.trans hp
  refine ⟨hk, fun _ => ?_, ?_, fun h => ?_, fun _ => ⟨hkey, hpaid⟩⟩
  · simp [isOpen, hp, hopen]
  · simp [isOpen, hp', hclosed]
  · rw [hp] at h
    cases h

/-! ## Manual orders -/

theorem submitWithdrawOrder_effect {req : SubmitWithdrawOrderRequest}
    (h : submitWithdrawOrder cfg req timeString now s = .ok (s', id)) :
    Effect early s s' := by
  unfold submitWithdrawOrder at h
  simp only [bind_eq_ok, failIf_eq_ok] at h
  obtain ⟨-, -, -, hpos, -, -, -, -, -, -, h⟩ := h
  exact freezeCommissionTx_effect h (not_le.mp hpos) rfl (fun _ => rfl) rfl

theorem approveWithdrawOrder_effect (h : approveWithdrawOrder id reviewerId remark now s = .ok s') :
    Effect early s s' := by
  unfold approveWithdrawOrder at h
  simp only [bind_eq_ok, lockWithdrawOrderTx_eq_ok, failIf_eq_ok, pure_eq_ok, not_not] at h
  obtain ⟨o, hget, -, hs, -, hp, rfl⟩ := h
  refine updateWithdrawOrder_effect hget ⟨⟨rfl, rfl, rfl, rfl⟩, ?_, ?_, ?_, ?_⟩
  · simp [isOpen, hp, hs]
  · simp [hp]
  · simp [ManualStatus]
  · simp [hp]

theorem markWithdrawOrderFailed_effect
    (h : markWithdrawOrderFailed id reviewerId reason now s = .ok s') : Effect early s s' := by
  unfold markWithdrawOrderFailed at h
  simp only [bind_eq_ok, lockWithdrawOrderTx_eq_ok, failIf_eq_ok, pure_eq_ok, not_not] at h
  obtain ⟨o, hget, -, hs, -, hp, rfl⟩ := h
  refine updateWithdrawOrder_effect hget ⟨⟨rfl, rfl, rfl, rfl⟩, ?_, ?_, ?_, ?_⟩
  · simp [isOpen, hp, hs]
  · simp [hp]
  · simp [ManualStatus]
  · simp [hp]

theorem rejectWithdrawOrder_effect (h : rejectWithdrawOrder id reviewerId reason now s = .ok s') :
    Effect early s s' := by
  unfold rejectWithdrawOrder at h
  simp only [bind_eq_ok, lockWithdrawOrderTx_eq_ok, failIf_eq_ok, not_not, not_or] at h
  obtain ⟨o, hget, -, ⟨hr, hpd⟩, -, hp, h⟩ := h
  refine returnFrozenCommissionTx_effect h hget (fun _ => rfl)
    (.ofManual ⟨rfl, rfl, rfl, rfl⟩ hp ?_ (.inr rfl) (fun _ => rfl)) rfl
  -- of the manual statuses only these two are not open
  intro hm
  cases hst : o.status <;> simp_all [ManualStatus, isOpen]

theorem markWithdrawOrderPaid_effect {voucher : String}
    (h : markWithdrawOrderPaid id reviewerId voucher remark now s = .ok s') :
    Effect early s s' := by
  unfold markWithdrawOrderPaid at h
  simp only [bind_eq_ok, lockWithdrawOrderTx_eq_ok, failIf_eq_ok, not_not, not_and] at h
  obtain ⟨o, hget, -, hs, -, hp, h⟩ := h
  refine payFrozenCommissionTx_effect h hget (fun _ => rfl)
    (.ofManual ⟨rfl, rfl, rfl, rfl⟩ hp ?_ (.inl rfl) (fun _ => rfl)) rfl
  intro _
  by_cases ha : o.status = .approved
  · simp [isOpen, hp, ha]
  · simp [isOpen, hp, hs ha]

/-! ## Provider orders: requests and admin actions -/

theorem calculatePiggyPlatformFee_ok {rate : ℚ}
    (h : calculatePiggyPlatformFee cents rate = .ok fee) :
    0 < cents ∧ fee.requestedAmountCents = cents ∧ 0 ≤ rate ∧ rate < 100 ∧
      fee.platformFeeAmountCents = round0 (cents * rate / 100) ∧
      fee.piggyPayAmountCents = cents - fee.platformFeeAmountCents ∧
      0 < fee.piggyPayAmountCents ∧
      fee.piggyTaxBeforeAmount = fixed2OfCents fee.piggyPayAmountCents := by
  unfold calculatePiggyPlatformFee validatePiggyWithdrawPlatformFeeRate at h
  simp only [bind_eq_ok, failIf_eq_ok, pure_eq_ok, not_or, not_le, not_lt] at h
  obtain ⟨-, hpos, -, ⟨-, hrate, -⟩, -, hpay, rfl⟩ := h
  exact ⟨hpos, rfl, hrate.1, hrate.2, rfl, rfl, hpay, rfl⟩

theorem centsToFloat_pos (h : 0 < cents) : 0 < centsToFloat cents := by
  unfold centsToFloat
  have : (0 : ℚ) < cents := Int.cast_pos.mpr h
  linarith

theorem approvePiggyWithdrawOrderTx_effect
    (h : approvePiggyWithdrawOrderTx id reviewerId remark now s = .ok (s', o')) :
    Effect early s s' := by
  unfold approvePiggyWithdrawOrderTx at h
  simp only [bind_eq_ok, lockWithdrawOrderTx_eq_ok, failIf_eq_ok, not_not] at h
  obtain ⟨o, hget, -, hp, -, hs, -, -, rfl, -⟩ := h
  exact .approve id o _ hget hp hs ⟨rfl, rfl, rfl, rfl⟩ rfl

theorem rejectPiggyWithdrawOrder_effect
    (h : rejectPiggyWithdrawOrder id reviewerId reason now s = .ok s') : Effect early s s' := by
  unfold rejectPiggyWithdrawOrder at h
  simp only [bind_eq_ok, lockWithdrawOrderTx_eq_ok, failIf_eq_ok, not_not] at h
  obtain ⟨o, hget, -, hp, -, hs, h⟩ := h
  exact returnFrozenCommissionTx_effect h hget piggyWithdrawOrderAmount_of_pos
    (.ofPiggy ⟨rfl, rfl, rfl, rfl⟩ hp (by simp [hs, isPiggyTerminalStatus]) rfl
      (by simp [settlesOrder]) (by simp)) rfl

theorem adminRecordPiggyManualResult_effect {result status : String}
    (h : adminRecordPiggyManualResult id adminId result status now s = .ok s') :
    Effect early s s' := by
  unfold adminRecordPiggyManualResult at h
  simp only [bind_eq_ok, lockWithdrawOrderTx_eq_ok, failIf_eq_ok, not_not, not_or] at h
  obtain ⟨o, hget, -, hp, -, ⟨hs, -⟩, h⟩ := h
  have hopen : isPiggyTerminalStatus o.status = false := by rw [hs]; rfl
  split at h
  · rw [pure_eq_ok] at h
    subst h
    exact updateWithdrawOrder_effect hget (.same ⟨rfl, rfl, rfl, rfl⟩ rfl)
  split at h
  · exact payFrozenCommissionTx_effect h hget piggyWithdrawOrderAmount_of_pos
      (.ofPiggy ⟨rfl, rfl, rfl, rfl⟩ hp hopen rfl (by simp [settlesOrder]) (by simp)) rfl
  split at h
  · exact returnFrozenCommissionTx_effect h hget piggyWithdrawOrderAmount_of_pos
      (.ofPiggy ⟨rfl, rfl, rfl, rfl⟩ hp hopen rfl (by simp [settlesOrder]) (by simp)) rfl
  · cases h

/-! ## Provider orders: payment results -/

/-- The content of a payment result, if the transaction takes one. -/
def WithdrawTx.paymentResult : WithdrawTx → Option PiggyPaymentCallbackContent
  | .markPiggyOrderAwaitConfirm _ content _ | .markPiggyOrderPaid _ content _
  | .failPiggyOrderAndRelease _ content _ _ => some content
  | _ => none

/-- The transaction takes a payment result for order `no`, and the order is still
waiting for its review. -/
def callbackOnPending (no : String) (s : Store) (t : WithdrawTx) : Bool :=
  t.paymentResult.any fun content => trimSpace content.outerTradeNo == no &&
    s.withdrawOrders.any fun o =>
      o.provider == .piggyLaborV3 && o.withdrawNo == no && o.status == .pending

/-- The order that a payment result is for. -/
theorem WithdrawTx.locked_of_paymentResult (t : WithdrawTx) {content : PiggyPaymentCallbackContent}
    {α : Type} {rest : Nat × WithdrawOrder → Except Err α} {a : α}
    (ht : t.paymentResult = some content)
    (h : lockWithdrawOrderByNoTx content.outerTradeNo s >>= rest = .ok a) :
    ∃ id o, s.withdrawOrders[id]? = some o ∧ o.provider = .piggyLaborV3 ∧
      (o.status = .pending → callbackOnPending o.withdrawNo s t = true) ∧ rest (id, o) = .ok a := by
  rw [bind_eq_ok] at h
  obtain ⟨⟨id, o⟩, hlock, h⟩ := h
  obtain ⟨hget, hno, hp⟩ := lockWithdrawOrderByNoTx_ok hlock
  dsimp only at hget hno hp
  refine ⟨id, o, hget, hp, fun hs => ?_, h⟩
  unfold callbackOnPending
  have hany : (s.withdrawOrders.any fun a => a.provider == .piggyLaborV3 &&
      a.withdrawNo == o.withdrawNo && a.status == .pending) = true :=
    List.any_eq_true.mpr ⟨o, List.mem_of_getElem? hget, by simp [hp, hs]⟩
  rw [ht, Option.any_some, hany, ← hno, beq_self_eq_true]
  rfl

section PaymentResults

variable {setting : PiggyWithdrawSetting} {content : PiggyPaymentCallbackContent} {now : Int}

theorem markPiggyOrderManualReviewFromCallbackTx_effect
    (hget : s.withdrawOrders[id]? = some o) (hp : o.provider = .piggyLaborV3)
    (hopen : isPiggyTerminalStatus o.status = false) (hw : o.status = .pending → early o.withdrawNo) :
    Effect early s
      (markPiggyOrderManualReviewFromCallbackTx id o reason setting content now s) := by
  refine updateWithdrawOrder_effect hget (.active (.markers ?_ o now) hp hopen
    (by simp [isPiggyTerminalStatus]) fun h => .inr (hw h))
  exact ⟨rfl, rfl, rfl, rfl⟩

theorem markPiggyOrderAwaitConfirm_effect
    (h : markPiggyOrderAwaitConfirm setting content now s = .ok (s', b)) :
    Effect (fun no => callbackOnPending no s (.markPiggyOrderAwaitConfirm setting content now) = true)
      s s' := by
  unfold markPiggyOrderAwaitConfirm at h
  obtain ⟨id, o, hget, hp, hearly, h⟩ :=
    WithdrawTx.locked_of_paymentResult (.markPiggyOrderAwaitConfirm setting content now) rfl h
  dsimp only at h
  split at h
  · exact (ok_pair_inj h).1 ▸ refl s
  have hopen : isPiggyTerminalStatus o.status = false := by simp_all
  split at h
  · exact (ok_pair_inj h).1 ▸ refl s
  split at h
  · exact (ok_pair_inj h).1 ▸ refl s
  split at h
  · split at h
    · exact (ok_pair_inj h).1 ▸ markPiggyOrderManualReviewFromCallbackTx_effect hget hp hopen hearly
    · cases h
  split at h
  · exact (ok_pair_inj h).1 ▸ markPiggyOrderManualReviewFromCallbackTx_effect hget hp hopen hearly
  refine (ok_pair_inj h).1 ▸ updateWithdrawOrder_effect hget (.active (.markers ?_ o now) hp hopen
    (by simp [isPiggyTerminalStatus]) fun hs => .inr (hearly hs))
  exact ⟨rfl, rfl, rfl, rfl⟩

theorem markPiggyOrderPaid_effect (h : markPiggyOrderPaid setting content now s = .ok s') :
    Effect (fun no => callbackOnPending no s (.markPiggyOrderPaid setting content now) = true)
      s s' := by
  unfold markPiggyOrderPaid at h
  obtain ⟨id, o, hget, hp, hearly, h⟩ :=
    WithdrawTx.locked_of_paymentResult (.markPiggyOrderPaid setting content now) rfl h
  dsimp only at h
  split at h
  · rw [pure_eq_ok] at h
    exact h ▸ refl s
  rename_i hopen
  rw [Bool.not_eq_true] at hopen
  split at h
  · rw [pure_eq_ok] at h
    exact h ▸ markPiggyOrderManualReviewFromCallbackTx_effect hget hp hopen hearly
  split at h
  · rw [pure_eq_ok] at h
    exact h ▸ markPiggyOrderManualReviewFromCallbackTx_effect hget hp hopen hearly
  refine payFrozenCommissionTx_effect h hget piggyWithdrawOrderAmount_of_pos
    (.ofPiggy (.markers ?_ o now) hp hopen (by simp [isPiggyTerminalStatus])
      (by simp [settlesOrder]) (by simp)) rfl
  exact ⟨rfl, rfl, rfl, rfl⟩

theorem failPiggyOrderAndRelease_effect {defaultReason : String}
    (h : failPiggyOrderAndRelease setting content defaultReason now s = .ok s') :
    Effect (fun no => callbackOnPending no s
      (.failPiggyOrderAndRelease setting content defaultReason now) = true) s s' := by
  unfold failPiggyOrderAndRelease at h
  obtain ⟨id, o, hget, hp, hearly, h⟩ :=
    WithdrawTx.locked_of_paymentResult
      (.failPiggyOrderAndRelease setting content defaultReason now) rfl h
  dsimp only at h
  split at h
  · rw [pure_eq_ok] at h
    exact h ▸ refl s
  rename_i hopen
  rw [Bool.not_eq_true] at hopen
  split at h
  · rw [pure_eq_ok] at h
    exact h ▸ markPiggyOrderManualReviewFromCallbackTx_effect hget hp hopen hearly
  refine returnFrozenCommissionTx_effect h hget piggyWithdrawOrderAmount_of_pos
    (.ofPiggy (.markers ?_ o now) hp hopen (by simp [isPiggyTerminalStatus])
      (by simp [settlesOrder]) (by simp)) rfl
  exact ⟨rfl, rfl, rfl, rfl⟩

theorem failPiggySubmittedOrderAndRelease_effect
    (h : failPiggySubmittedOrderAndRelease id reason reqDigest respDigest now s = .ok (s', b)) :
    Effect early s s' := by
  unfold failPiggySubmittedOrderAndRelease at h
  simp only [bind_eq_ok, lockWithdrawOrderTx_eq_ok, failIf_eq_ok, not_not] at h
  obtain ⟨o, hget, -, hp, h⟩ := h
  split at h
  · exact (ok_pair_inj h).1 ▸ refl s
  rename_i hs
  rw [not_not] at hs
  simp only [bind_eq_ok] at h
  obtain ⟨s1, h, rfl, -⟩ := h
  exact returnFrozenCommissionTx_effect h hget piggyWithdrawOrderAmount_of_pos
    (.ofPiggy ⟨rfl, rfl, rfl, rfl⟩ hp (by simp [hs, isPiggyTerminalStatus]) rfl
      (by simp [settlesOrder]) (by simp)) rfl

theorem cancelPiggyOrderAndRelease_effect
    (h : cancelPiggyOrderAndRelease no adminId reason reqDigest respDigest now s = .ok s') :
    Effect early s s' := by
  unfold cancelPiggyOrderAndRelease at h
  rw [bind_eq_ok] at h
  obtain ⟨⟨id, o⟩, hlock, h⟩ := h
  obtain ⟨hget, -, hp⟩ := lockWithdrawOrderByNoTx_ok hlock
  dsimp only at h
  split at h
  · rw [pure_eq_ok] at h
    exact h ▸ refl s
  rename_i hopen
  rw [Bool.not_eq_true] at hopen
  simp only [bind_eq_ok] at h
  obtain ⟨-, -, h⟩ := h
  exact returnFrozenCommissionTx_effect h hget piggyWithdrawOrderAmount_of_pos
    (.ofPiggy ⟨rfl, rfl, rfl, rfl⟩ hp hopen rfl (by simp [settlesOrder]) (by simp)) rfl

end PaymentResults

/-! ## Conditional updates -/

theorem OrderSelector.provider_of_picks {i : Nat} (h : sel.picks i o = true) :
    o.provider = .piggyLaborV3 := by
  unfold OrderSelector.picks at h
  simp only [Bool.and_eq_true, beq_iff_eq] at h
  exact h.1

theorem RowMove.underway (hk : Kept o o') (hp : o.provider = .piggyLaborV3)
    (ho : isPiggyUnderway o.status = true) (ho' : isPiggyTerminalStatus o'.status = false) :
    RowMove early o o' := by
  obtain ⟨hne, hopen⟩ : o.status ≠ .pending ∧ isPiggyTerminalStatus o.status = false := by
    simpa [isPiggyUnderway] using ho
  exact .active hk hp hopen ho' fun h => absurd h hne

theorem markPiggyOrderManualReviewIfActiveWithResult_effect {allowed : UnderwayStatuses} :
    Effect early s (markPiggyOrderManualReviewIfActiveWithResult sel reason reqDigest respDigest
      allowed.statuses now s).1 := by
  refine updateOrdersWhere_effect fun i o hpick => ?_
  simp only [Bool.and_eq_true, List.contains_iff_mem] at hpick
  obtain ⟨⟨hsel, hst⟩, -⟩ := hpick
  have hunder : isPiggyUnderway o.status = true := by
    split at hst
    · revert hst
      cases o.status <;> decide
    · exact allowed.underway _ hst
  refine .underway (.digests ?_ reqDigest respDigest) (OrderSelector.provider_of_picks hsel) hunder
    (by simp [isPiggyTerminalStatus])
  exact ⟨rfl, rfl, rfl, rfl⟩

/-- The confirmation update has no provider condition, but a manual order is
never in `confirming`. -/
theorem markPiggyOrderConfirmed_effect :
    Effect early s (markPiggyOrderConfirmed id reqDigest respDigest now s).1 := by
  refine updateOrdersWhere_effect fun i o hpick => ?_
  simp only [Bool.and_eq_true, beq_iff_eq] at hpick
  obtain ⟨-, hst⟩ := hpick
  have hprov : o.provider = .manual ∨ o.provider = .piggyLaborV3 := by cases o.provider <;> simp
  rcases hprov with hp | hp
  · refine ⟨⟨rfl, rfl, rfl, rfl⟩, ?_, ?_, ?_, ?_⟩
    · simp only [isOpen, hst]
      rfl
    · simp [hp]
    · simp [ManualStatus, hst]
    · simp [hst]
  · exact .underway ⟨rfl, rfl, rfl, rfl⟩ hp (by rw [hst]; rfl) rfl

theorem updateUnderway_effect {q : WithdrawOrder → Bool}
    {f : WithdrawOrder → WithdrawOrder} (hk : ∀ o, Kept o (f o))
    (hq : ∀ o, q o = true → isPiggyUnderway o.status = true ∧
      isPiggyTerminalStatus (f o).status = false) :
    Effect early s (updateOrdersWhere (fun i o => sel.picks i o && q o) f s).1 := by
  refine updateOrdersWhere_effect fun i o hpick => ?_
  rw [Bool.and_eq_true] at hpick
  exact .underway (hk o) (OrderSelector.provider_of_picks hpick.1) (hq o hpick.2).1 (hq o hpick.2).2

theorem markPiggyOrderSubmitRecoverableByIdIfActive_effect : Effect early s
      (markPiggyOrderSubmitRecoverableByIdIfActive id reason reqDigest respDigest now s).1 := by
  refine updateUnderway_effect (fun o => .digests ?_ reqDigest respDigest) fun o h => ⟨?_, ?_⟩
  · exact ⟨rfl, rfl, rfl, rfl⟩
  · rw [eq_of_beq h]
    rfl
  · simp [isPiggyTerminalStatus]

/-! ## All of them -/

theorem WithdrawTx.effect_eq_ok {r : Except Err Store} {u : Unit}
    (h : WithdrawTx.effect r = .ok (s', u)) : r = .ok s' := by
  unfold WithdrawTx.effect at h
  cases r with
  | error => exact nomatch h
  | ok =>
    simp only [Except.map, Except.ok.injEq, Prod.mk.injEq, and_true] at h
    rw [h]

theorem readOnly_effect {α β : Type} {r : Except Err α} {g : α → β} {x : β}
    (h : (r.map fun a => (s, g a)) = .ok (s', x)) : Effect early s s' := by
  cases r with
  | error => exact nomatch h
  | ok =>
    simp only [Except.map, Except.ok.injEq, Prod.mk.injEq] at h
    exact h.1 ▸ refl s

/-- **What a committed transaction can do**: it is a sequence of effects, and it moves an unreviewed
order out of `pending` other than by a review only as a payment result. -/
theorem WithdrawTx.exec_effect (t : WithdrawTx) {r : t.Ret} (h : t.exec cfg s = .ok (s', r)) :
    Effect (fun no => callbackOnPending no s t = true) s s' := by
  -- a statement of the form `UPDATE … WHERE` always commits
  have update : ∀ {x : Store × Bool} {b : Bool} {early : String → Prop},
      (Except.ok x : Except Err (Store × Bool)) = .ok (s', b) → Effect early s x.1 →
      Effect early s s' := by
    intro x b early hx he
    cases hx
    exact he
  cases t with
  | settleCommission =>
    cases h
    exact settleCommissionRuleTx_effect
  | reverseCommissions => exact reverseCommissionsTx_effect (effect_eq_ok h)
  | transferCommissionToBalance => exact transferCommissionToBalance_effect (effect_eq_ok h)
  | submitWithdrawOrder => exact submitWithdrawOrder_effect h
  | approveWithdrawOrder => exact approveWithdrawOrder_effect (effect_eq_ok h)
  | rejectWithdrawOrder => exact rejectWithdrawOrder_effect (effect_eq_ok h)
  | markWithdrawOrderPaid => exact markWithdrawOrderPaid_effect (effect_eq_ok h)
  | markWithdrawOrderFailed => exact markWithdrawOrderFailed_effect (effect_eq_ok h)
  | getWithdrawOrderProvider | getPiggyOrderById | getPiggyOrderByNo => exact readOnly_effect h
  | getPiggyWithdrawCooldownRemaining | scanPiggyOrders =>
    cases h
    exact refl s
  | submitPiggyWithdrawOrder =>
    unfold WithdrawTx.exec at h
    rw [bind_eq_ok] at h
    obtain ⟨fee, hfee, h⟩ := h
    obtain ⟨hpos, hcents, -⟩ := calculatePiggyPlatformFee_ok hfee
    exact freezeCommissionTx_effect h (centsToFloat_pos (hcents ▸ hpos)) rfl (fun _ => rfl) rfl
  | approvePiggyWithdrawOrder => exact approvePiggyWithdrawOrderTx_effect h
  | rejectPiggyWithdrawOrder => exact rejectPiggyWithdrawOrder_effect (effect_eq_ok h)
  | adminRecordPiggyManualResult => exact adminRecordPiggyManualResult_effect (effect_eq_ok h)
  | markPiggyOrderAwaitConfirm => exact markPiggyOrderAwaitConfirm_effect h
  | markPiggyOrderPaid => exact markPiggyOrderPaid_effect (effect_eq_ok h)
  | failPiggyOrderAndRelease => exact failPiggyOrderAndRelease_effect (effect_eq_ok h)
  | failPiggySubmittedOrderAndRelease => exact failPiggySubmittedOrderAndRelease_effect h
  | cancelPiggyOrderAndRelease => exact cancelPiggyOrderAndRelease_effect (effect_eq_ok h)
  | markPiggyOrderSubmitted | claimPiggyOrderForConfirm =>
    refine update h (updateUnderway_effect (fun _ => ⟨rfl, rfl, rfl, rfl⟩) fun o h => ⟨?_, rfl⟩)
    rw [eq_of_beq h]
    rfl
  | recordPiggyOrderDigests | claimPiggyApprovedSubmission =>
    exact update h (updateOrdersWhere_effect fun _ _ _ => .same ⟨rfl, rfl, rfl, rfl⟩ rfl)
  | markPiggyOrderSubmitRecoverable =>
    exact update h markPiggyOrderSubmitRecoverableByIdIfActive_effect
  | markPiggyOrderManualReviewIfActive =>
    exact update h markPiggyOrderManualReviewIfActiveWithResult_effect
  | markPiggyOrderConfirmed => exact update h markPiggyOrderConfirmed_effect
  | claimPiggyOrderForCancel =>
    refine update h (updateUnderway_effect (fun _ => ⟨rfl, rfl, rfl, rfl⟩) fun o h => ⟨?_, rfl⟩)
    revert h
    cases o.status <;> decide
  | createPiggyCallbackLog | finishPiggyCallbackLog =>
    cases h
    exact .side (fun _ => .refl _) rfl rfl (fun _ => rfl) ⟨[], by simp, by simp⟩
  | hasProcessedPiggyCallback =>
    cases h
    exact refl s

end ApiGateway
