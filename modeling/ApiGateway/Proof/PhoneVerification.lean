import ApiGateway.Service.PhoneVerification

/-!
# What protects a phone code

The bounds on sends and guesses rest on reads that are acted on later. They hold as long as what was
read is still so by then (`phoneFresh`), which the lock of the sends is meant to ensure for them,
and nothing ensures for the guesses.
-/

namespace ApiGateway

open Threads Decimal List Option

variable {valid : Nat} {d d' : PhoneShared} {ids : List Nat} {st : PhoneVerificationStatus}
  {id : Nat} {x : PhoneInput} {c : SendCall} {text : String}
  {f : Nat → PhoneVerificationCode → PhoneVerificationCode}
variable {t : Nat} {r : PhoneVerificationCode}

namespace PhoneShared

def times (d : PhoneShared) : List Nat := d.codes.map PhoneVerificationCode.createdAt

theorem codes_update (i : Nat) : (d.update f).codes[i]? = d.codes[i]?.map (f i) := by
  simp [update]

/-- Updates that keep the times of a code and make no code pending. -/
structure Wears (f : Nat → PhoneVerificationCode → PhoneVerificationCode) : Prop where
  createdAt : ∀ i r, (f i r).createdAt = r.createdAt
  expiresAt : ∀ i r, (f i r).expiresAt = r.expiresAt
  pending : ∀ i r, (f i r).status = .pending → r.status = .pending

theorem wears_setStatus (hst : st ≠ .pending) :
    Wears fun i r => if i ∈ ids then { r with status := st } else r := by
  refine ⟨fun i r => by split <;> rfl, fun i r => by split <;> rfl, fun i r h => ?_⟩
  split at h
  · exact absurd h hst
  · exact h

theorem Wears.times (hf : Wears f) : (d.update f).times = d.times := by
  refine ext_getElem? fun i => ?_
  simp only [PhoneShared.times, getElem?_map, codes_update, Option.map_map]
  congr 1
  exact funext (hf.createdAt i)

theorem le_latest {row : PhoneVerificationCode} (h : d.latest (fun _ => true) = some (row, id))
    (ht : t ∈ d.times) : t ≤ row.createdAt := by
  obtain ⟨r, hr, rfl⟩ := mem_map.mp ht
  obtain ⟨i, hi⟩ := getElem?_of_mem hr
  have hmem : (r, i) ∈ (d.codes.zipIdx.filter fun _ => true).reverse := by
    simpa using mem_zipIdx_iff_getElem?.mpr hi
  exact le_of_mem_argmax (f := fun r => r.1.createdAt) hmem h

theorem times_of_latest_none (h : d.latest (fun _ => true) = none) : d.times = [] := by
  simpa [latest, times] using h

end PhoneShared

open PhoneShared

/-- **What holds of the codes** and of what was done with them. -/
structure PhoneInv (valid : Nat) (d : PhoneShared) : Prop where
  past : ∀ t ∈ d.times, t ≤ d.now
  spaced : d.times.Pairwise fun a b => a + phoneVerificationSendIntervalSeconds ≤ b
  window : ∀ t, d.times.countP (fun c => t ≤ c ∧ c ≤ t + valid) ≤ phoneVerificationMaxSends
  guesses : ∀ id, d.compared.count id ≤ phoneVerificationMaxAttempts
  issued : ∀ id ∈ d.compared, id < d.codes.length
  /-- Only the newest code is pending, and its wrong guesses were counted. -/
  pending : ∀ id r, d.codes[id]? = some r → r.status = .pending → id + 1 = d.codes.length ∧
    d.compared.count id ≤ r.attemptCount ∧ r.attemptCount < phoneVerificationMaxAttempts
  once : (d.accepted.map PhoneAcceptance.id).Nodup
  spent : ∀ a ∈ d.accepted, ∃ r, d.codes[a.id]? = some r ∧ r.status ≠ .pending
  inTime : ∀ a ∈ d.accepted, a.row.status = .pending ∧ a.at_ < a.row.expiresAt ∧
    a.id + 1 = a.issued

/-! ## The writes -/

theorem PhoneInv.update (h : PhoneInv valid d) (hf : Wears f) {cs : List Nat}
    (hguesses : ∀ id, cs.count id ≤ phoneVerificationMaxAttempts)
    (hissued : ∀ id ∈ cs, id < d.codes.length)
    (hpending : ∀ id r, d.codes[id]? = some r → (f id r).status = .pending →
      cs.count id ≤ (f id r).attemptCount ∧ (f id r).attemptCount < phoneVerificationMaxAttempts) :
    PhoneInv valid { d.update f with compared := cs } where
  past := hf.times.symm ▸ h.past
  spaced := hf.times.symm ▸ h.spaced
  window := hf.times.symm ▸ h.window
  guesses := hguesses
  issued := by simpa [PhoneShared.update] using hissued
  pending := by
    intro id r hr hst
    rw [codes_update] at hr
    obtain ⟨r0, hr0, rfl⟩ := map_eq_some_iff.mp hr
    refine ⟨?_, hpending id r0 hr0 hst⟩
    simpa [PhoneShared.update] using (h.pending id r0 hr0 (hf.pending id r0 hst)).1
  once := h.once
  spent := by
    intro a ha
    obtain ⟨r, hr, hspent⟩ := h.spent a ha
    exact ⟨f a.id r, by rw [codes_update, hr]; rfl, fun hst => hspent (hf.pending _ r hst)⟩
  inTime := h.inTime

theorem PhoneInv.setStatus (h : PhoneInv valid d) (hst : st ≠ .pending) :
    PhoneInv valid (d.setStatus ids st) := by
  refine h.update (wears_setStatus hst) h.guesses h.issued fun id r hr hp => ?_
  split at hp
  · exact absurd hp hst
  · rename_i hmem
    rw [if_neg hmem]
    exact (h.pending id r hr hp).2

theorem PhoneInv.accept (h : PhoneInv valid d)
    (hr : d.codes[id]? = some r) (hst : r.status = .pending) (htime : d.now < r.expiresAt) :
    PhoneInv valid { d.setStatus [id] .used with
      accepted := d.accepted ++ [⟨id, d.now, r, d.codes.length⟩] } := by
  have hset : PhoneInv valid (d.setStatus [id] .used) := h.setStatus (by simp)
  have hrow : (d.setStatus [id] .used).codes[id]? = some { r with status := .used } := by
    rw [PhoneShared.setStatus, codes_update, hr]
    simp
  refine { hset with once := ?_, spent := ?_, inTime := ?_ }
  · rw [map_append, nodup_append]
    refine ⟨h.once, by simp, ?_⟩
    -- an earlier acceptance would have left the code used
    intro _ ha _ hb heq
    obtain ⟨a, hmem, rfl⟩ := mem_map.mp ha
    obtain ⟨r', hr', hspent⟩ := h.spent a hmem
    have hid : a.id = id := heq.trans (by simpa using hb)
    rw [hid, hr] at hr'
    exact hspent (some.inj hr' ▸ hst)
  · intro a ha
    rcases mem_append.mp ha with ha | ha
    · exact hset.spent a ha
    · obtain rfl := mem_singleton.mp ha
      exact ⟨_, hrow, by simp⟩
  · intro a ha
    rcases mem_append.mp ha with ha | ha
    · exact h.inTime a ha
    · obtain rfl := mem_singleton.mp ha
      exact ⟨hst, htime, (h.pending id r hr hst).1⟩

theorem PhoneInv.guess (h : PhoneInv valid d)
    (hr : d.codes[id]? = some r) (hst : r.status = .pending) :
    PhoneInv valid ({ d with compared := d.compared ++ [id] }.incrementAttempt id
      (phoneVerificationMaxAttempts ≤ r.attemptCount + 1)) := by
  obtain ⟨-, hle, hlt⟩ := h.pending id r hr hst
  refine h.update ⟨fun i r => by split <;> rfl, fun i r => by split <;> rfl, ?_⟩ ?_ ?_ ?_
  · intro i r h
    split at h
    · exact And.right ‹_›
    · exact h
  · intro i
    by_cases hi : id = i
    · subst hi
      simp only [count_append, count_singleton_self]
      omega
    · simpa [hi] using h.guesses i
  · intro i hi
    rcases mem_append.mp hi with hi | hi
    · exact h.issued i hi
    · rw [mem_singleton.mp hi]
      exact (List.getElem?_eq_some_iff.mp hr).1
  intro i r0 hr0 hst0
  by_cases hi : i = id ∧ r0.status = .pending
  · obtain ⟨rfl, hp⟩ := hi
    obtain rfl := mem_unique hr0 hr
    rw [if_pos ⟨rfl, hp⟩] at hst0 ⊢
    split at hst0
    · cases hst0
    rename_i hmax
    simp only [count_append, count_singleton_self]
    simp only [decide_eq_true_eq] at hmax
    omega
  · rw [if_neg hi] at hst0 ⊢
    have hne : id ≠ i := fun heq => hi ⟨heq.symm, hst0⟩
    simpa [hne] using (h.pending i r0 hr0 hst0).2

theorem maySend_spaced (h : d.maySend valid = true) (ht : t ∈ d.times) :
    t + phoneVerificationSendIntervalSeconds ≤ d.now := by
  have hall := (Bool.and_eq_true_iff.mp h).1
  cases hlatest : d.latest fun _ => true with
  | none => simp [times_of_latest_none hlatest] at ht
  | some =>
    have hle := le_latest hlatest ht
    simp only [hlatest, all_some, decide_eq_true_eq] at hall
    omega

theorem PhoneInv.issue (h : PhoneInv valid d) (hmay : d.maySend valid = true) {code : String}
    (hids : ∀ id r, d.codes[id]? = some r → r.status = .pending → id ∈ ids) :
    PhoneInv valid { d.setStatus ids .expired with
      codes := (d.setStatus ids .expired).codes ++
        [{ code := code, expiresAt := d.now + valid, createdAt := d.now }] } := by
  have hset : PhoneInv valid (d.setStatus ids .expired) := h.setStatus (by simp)
  have hold : (d.setStatus ids .expired).times = d.times := (wears_setStatus (by simp)).times
  have htimes : ({ d.setStatus ids .expired with
      codes := (d.setStatus ids .expired).codes ++
        [{ code := code, expiresAt := d.now + valid, createdAt := d.now }] } : PhoneShared).times =
      d.times ++ [d.now] := by
    rw [← hold]
    simp [times]
  refine ⟨?_, ?_, ?_, h.guesses, ?_, ?_, h.once, ?_, h.inTime⟩
  · rw [htimes]
    intro t ht
    rcases mem_append.mp ht with ht | ht
    · exact h.past t ht
    · exact (mem_singleton.mp ht).le
  · rw [htimes, pairwise_append]
    refine ⟨h.spaced, pairwise_singleton .., ?_⟩
    intro a ha b hb
    rw [mem_singleton.mp hb]
    exact maySend_spaced hmay ha
  · rw [htimes]
    intro t
    rw [countP_append, countP_singleton]
    split
    · -- the window ends at the new code or after it, so the check has counted what it holds
      rename_i hin
      have hle : d.times.countP (fun c => t ≤ c ∧ c ≤ t + valid) ≤
          d.times.countP (fun c => d.now ≤ c + valid) :=
        countP_mono_left fun c _ hc => by simp at hc hin ⊢; omega
      have hmay : d.times.countP (fun t => d.now ≤ t + valid) < phoneVerificationMaxSends := by
        rw [times, countP_map]
        exact of_decide_eq_true (Bool.and_eq_true_iff.mp hmay).2
      omega
    · exact h.window t
  · intro id hid
    have := hset.issued id hid
    simp only [length_append]
    omega
  · intro id r hr hpending
    rcases Table.getElem?_append_singleton_some hr with hr | ⟨hid, rfl⟩
    · -- every code that was pending is one of `ids`
      rw [PhoneShared.setStatus, codes_update] at hr
      obtain ⟨r0, hr0, rfl⟩ := map_eq_some_iff.mp hr
      split at hpending
      · cases hpending
      · exact absurd (hids id r0 hr0 hpending) (by assumption)
    · refine ⟨by simp [hid], ?_, by simp [phoneVerificationMaxAttempts]⟩
      rw [count_eq_zero_of_not_mem]
      intro hmem
      have := hset.issued id hmem
      omega
  · intro a ha
    obtain ⟨r, hr, hspent⟩ := hset.spent a ha
    exact ⟨r, List.getElem?_append_left (List.getElem?_eq_some_iff.mp hr).1 ▸ hr, hspent⟩

/-! ## The steps -/

theorem sendStep_inv {pc pc' : SendPc} (h : PhoneInv valid d)
    (hfresh : ∀ now ids, pc = .expiring now ids → d.maySend valid = true ∧ now = d.now ∧
      ∀ i ∈ d.pendingIds, i ∈ ids)
    (hx : sendStep valid x c d pc = some (pc', d')) : PhoneInv valid d' := by
  cases pc with
  | called =>
    simp only [sendStep] at hx
    split at hx <;> obtain ⟨-, rfl⟩ := Prod.mk.inj (some.inj hx)
    · exact h
    · exact { h with }
  | expiring now ids =>
    obtain ⟨hmay, rfl, hids⟩ := hfresh now ids rfl
    simp only [sendStep] at hx
    split at hx <;> obtain ⟨-, rfl⟩ := Prod.mk.inj (some.inj hx)
    · exact h
    · refine h.issue hmay fun i r hr hst => hids i ?_
      exact mem_map.mpr ⟨(r, i), mem_filter.mpr ⟨mem_zipIdx_iff_getElem?.mpr hr, by simp [hst]⟩, rfl⟩
  | sending =>
    simp only [sendStep] at hx
    split at hx <;> obtain ⟨-, rfl⟩ := Prod.mk.inj (some.inj hx)
    · exact h.setStatus (by simp)
    · exact h
  | unlocking =>
    obtain ⟨-, rfl⟩ := Prod.mk.inj (some.inj hx)
    unfold unlock
    split
    · exact { h with }
    · exact h
  | returned => exact absurd hx (by simp [sendStep])
  | _ =>
    -- the checks only read
    simp only [sendStep] at hx
    repeat' split at hx
    all_goals
      obtain ⟨-, rfl⟩ := Prod.mk.inj (some.inj hx)
      exact h

theorem verifyStep_inv {pc pc' : VerifyPc} (h : PhoneInv valid d)
    (hfresh : ∀ id row now, pc = .read id row now → d.codes[id]? = some row ∧
      row.status = .pending ∧ x.fails = false ∧ (row.expiresAt ≤ now ∨ d.now < row.expiresAt))
    (hx : verifyStep x text d pc = some (pc', d')) : PhoneInv valid d' := by
  cases pc with
  | called =>
    simp only [verifyStep] at hx
    repeat' split at hx
    all_goals
      obtain ⟨-, rfl⟩ := Prod.mk.inj (some.inj hx)
      exact h
  | read id row now =>
    obtain ⟨hr, hst, hfails, htime⟩ := hfresh id row now rfl
    simp only [verifyStep, hfails, hr] at hx
    split at hx
    · obtain ⟨-, rfl⟩ := Prod.mk.inj (some.inj hx)
      exact h.setStatus (by simp)
    rename_i hvalid
    split at hx
    · obtain ⟨-, rfl⟩ := Prod.mk.inj (some.inj hx)
      exact h.setStatus (by simp)
    split at hx <;> obtain ⟨-, rfl⟩ := Prod.mk.inj (some.inj hx)
    · exact h.guess hr hst
    · exact h.accept hr hst (htime.resolve_left hvalid)
  | returned => exact absurd hx (by simp [verifyStep])

abbrev PhoneReachable (valid : Nat) (g : World PhoneShared PhoneThread → Nat → PhoneInput → Bool)
    (w : World PhoneShared PhoneThread) :=
  Reachable (phoneStep valid) PhoneThread.Starts (fun w i x => g w i x = true) {} w

theorem phoneInv_reachable {w : World PhoneShared PhoneThread}
    (h : PhoneReachable valid (phoneFresh valid) w) : PhoneInv valid w.shared := by
  refine h.invariant ?_ ?_
  · constructor <;> simp [times]
  intro w i x t t' d' hw hi hG hx
  rw [phoneFresh, hi] at hG
  cases t with
  | clock =>
    obtain ⟨-, rfl⟩ := Prod.mk.inj (some.inj hx)
    exact { hw with past := fun t ht => (hw.past t ht).trans (Nat.le_add_right ..) }
  | send =>
    obtain ⟨⟨pc', d1⟩, hstep, hout⟩ := map_eq_some_iff.mp hx
    obtain ⟨-, rfl⟩ := Prod.mk.inj hout
    refine sendStep_inv hw ?_ hstep
    rintro now ids rfl
    simpa [and_assoc] using hG
  | verify =>
    obtain ⟨⟨pc', d1⟩, hstep, hout⟩ := map_eq_some_iff.mp hx
    obtain ⟨-, rfl⟩ := Prod.mk.inj hout
    refine verifyStep_inv hw ?_ hstep
    rintro id row now rfl
    simpa [and_assoc] using hG

/-- **Phone codes resist guessing** when no call acts on an outdated read: a code is accepted once,
while it is pending, in time and the newest; it is compared with five wrong guesses at most; and
codes are issued at the interval, five at most in any span of their validity. -/
theorem phone_codes_resist_guessing {w : World PhoneShared PhoneThread}
    (h : PhoneReachable valid (phoneFresh valid) w) :
    (w.shared.accepted.map PhoneAcceptance.id).Nodup ∧
    (∀ a ∈ w.shared.accepted, a.row.status = .pending ∧ a.at_ < a.row.expiresAt ∧
      a.id + 1 = a.issued) ∧
    (∀ id, w.shared.compared.count id ≤ phoneVerificationMaxAttempts) ∧
    (∀ t, w.shared.times.countP (fun c => t ≤ c ∧ c ≤ t + valid) ≤ phoneVerificationMaxSends) ∧
    w.shared.times.Pairwise fun a b => a + phoneVerificationSendIntervalSeconds ≤ b := by
  have hinv : PhoneInv valid w.shared := phoneInv_reachable h
  exact ⟨hinv.once, hinv.inTime, hinv.guesses, hinv.window, hinv.spaced⟩

/-! ## Runs -/

theorem exists_phoneReachable {g : World PhoneShared PhoneThread → Nat → PhoneInput → Bool}
    (es : List (Event PhoneThread PhoneInput)) {q : World PhoneShared PhoneThread → Prop}
    [DecidablePred q] (hS : ∀ t, Event.start t ∈ es → t.Starts)
    (h : ((⟨{}, []⟩ : World PhoneShared PhoneThread).play (phoneStep 600) g es).any q = true) :
    ∃ w, PhoneReachable 600 g w ∧ q w :=
  exists_reachable es (fun _ _ _ h => h) hS h

/-- A clock, and a send from its first step to its last. -/
def codeSent : List (Event PhoneThread PhoneInput) :=
  [.start .clock, .start (.send ⟨"123456", .redis, 1⟩ .called)] ++ List.replicate 8 (.move 1 {})

/-- A wrong guess, a right one, and another send after a minute. -/
theorem phone_codes_resist_guessing_two_sends :
    ∃ w, PhoneReachable 600 (phoneFresh 600) w ∧
      (w.shared.accepted.length = 1 ∧ w.shared.compared = [0] ∧ w.shared.times = [0, 60]) ∧
      (w.shared.accepted.map PhoneAcceptance.id).Nodup := by
  obtain ⟨w, hw, hq⟩ := exists_phoneReachable (g := phoneFresh 600)
    (q := fun w => w.shared.accepted.length = 1 ∧ w.shared.compared = [0] ∧
      w.shared.times = [0, 60])
    (codeSent ++ [.start (.verify "000000" .called),
      .start (.verify "123456" .called), .move 2 {}, .move 2 {}, .move 3 {}, .move 3 {},
      .move 0 { seconds := 60 }, .start (.send ⟨"654321", .redis, 2⟩ .called)] ++
      List.replicate 8 (.move 4 {}))
    (by simp [codeSent, PhoneThread.Starts]) (by decide +kernel)
  exact ⟨w, hw, hq, (phone_codes_resist_guessing hw).1⟩

/-- **Calls that overlap get around the bounds.** Six wrong guesses are compared with one code that
all of them read first; a code is accepted at the second of its expiry; and two codes are issued in
the same second when Redis answered one send only. -/
theorem phone_bounds_evaded :
    (∃ w, PhoneReachable 600 (fun _ _ _ => true) w ∧ (w.shared.compared.count 0 == 6) = true) ∧
    (∃ w, PhoneReachable 600 (fun _ _ _ => true) w ∧
      (w.shared.accepted.any fun a => a.row.expiresAt ≤ a.at_) = true) ∧
    ∃ w, PhoneReachable 600 (fun _ _ _ => true) w ∧ (w.shared.times == [0, 0]) = true := by
  refine ⟨exists_phoneReachable (codeSent ++ List.replicate 6 (.start (.verify "000000" .called)) ++
      [2, 3, 4, 5, 6, 7, 2, 3, 4, 5, 6, 7].map (.move · {})) ?_ (by decide +kernel),
    exists_phoneReachable (codeSent ++ [.start (.verify "123456" .called), .move 2 {},
      .move 0 { seconds := 600 }, .move 2 {}]) ?_ (by decide +kernel),
    exists_phoneReachable ([.start (.send ⟨"123456", .redis, 1⟩ .called),
      .start (.send ⟨"654321", .process 0, 2⟩ .called)] ++
      (List.replicate 6 [.move 0 {}, .move 1 {}]).flatten) ?_ (by decide +kernel)⟩
  · simp [codeSent, PhoneThread.Starts]
  · simp [codeSent, PhoneThread.Starts]
  · simp [PhoneThread.Starts]

end ApiGateway
