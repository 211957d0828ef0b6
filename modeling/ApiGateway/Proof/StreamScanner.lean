import ApiGateway.Relay.StreamScanner

/-!
# What the pump delivers, and where it hangs

A handler that stops leaves one token. It wakes the main goroutine or the scanner, unless the
ping goroutine, which needs none to end, is faster.
-/

namespace ApiGateway

open Decimal Runs List

variable {p p' : Pump} {a : PumpAct} {lines : List String} {acts : List PumpAct}

theorem signal_ok (h : p.signal = .ok p') : p' = { p with stopChan := p.stopChan + 1 } := by
  unfold Pump.signal at h
  split at h
  · exact (Except.ok.inj h).symm
  · cases h

theorem ite_ok {c : Prop} [Decidable c] {x : Except Unit Pump} :
    (if c then x else .error ()) = .ok p' ↔ c ∧ x = .ok p' := by
  split <;> simp_all

/-! ## Tokens -/

/-- The handler has ended, the main goroutine waits, the scanner is blocked by a full channel, and
there is no token: only a timeout or a client that goes away can help. -/
def Pump.Stuck (p : Pump) : Prop :=
  p.handling = false ∧ p.main = .waiting ∧ p.scanning = true ∧ p.sending.isSome ∧
    p.dataChan.length = 10 ∧ p.stopChan = 0

/-- A handler that has ended has left a token for one of the two that need it. -/
def Pump.Signalled (p : Pump) : Prop :=
  p.handling = false → p.main = .waiting → p.scanning = true → 0 < p.stopChan

theorem signalled_scanEnd (hx : p.scanEnd = .ok p') : p'.Signalled := by
  rw [signal_ok hx]
  exact fun _ _ hscanning => nomatch hscanning

theorem signalled_signal (hx : p.signal = .ok p') : p'.Signalled := by
  rw [signal_ok hx]
  exact fun _ _ _ => Nat.succ_pos _

theorem signalled_act (hping : a = .pingStop → p.main ≠ .waiting) (h : p.Signalled)
    (hx : p.act a = .ok p') : p'.Signalled := by
  cases a with
  | scan =>
    obtain ⟨-, hx⟩ := ite_ok.mp hx
    split at hx
    · exact signalled_scanEnd hx
    split at hx
    · cases hx
      exact h
    · cases hx
      exact h
    · exact signalled_scanEnd hx
  | send =>
    unfold Pump.act at hx
    dsimp only at hx
    split at hx
    · obtain ⟨-, hx⟩ := ite_ok.mp hx
      cases hx
      exact h
    · cases hx
  | scanStop | scanCancel | scanGone => exact signalled_scanEnd (ite_ok.mp hx).2
  | handle =>
    unfold Pump.act at hx
    dsimp only at hx
    split at hx
    · obtain ⟨-, hx⟩ := ite_ok.mp hx
      split at hx
      · exact signalled_signal hx
      · cases hx
        exact h
    · cases hx
  | handleEnd | mainStop | mainGone => exact signalled_signal (ite_ok.mp hx).2
  | pingStop =>
    obtain ⟨-, hx⟩ := ite_ok.mp hx
    cases hx
    exact fun _ hwaiting => absurd hwaiting (hping rfl)
  | pingEnd =>
    obtain ⟨-, hx⟩ := ite_ok.mp hx
    cases hx
    exact h
  | mainReturn | mainGiveUp =>
    obtain ⟨-, hx⟩ := ite_ok.mp hx
    cases hx
    exact fun _ hwaiting => nomatch hwaiting

/-- **The pump is not stuck after a stop** as long as the ping goroutine takes no token that
the main one waits for. -/
theorem pump_not_stuck (lines : List String) (acts : List PumpAct)
    (hping : Along Pump.act (fun a p => a = .pingStop → p.main ≠ .waiting) acts { lines }) :
    ¬ (pumpRun lines acts).Stuck := by
  have hsignalled : (pumpRun lines acts).Signalled :=
    run_induction (fun a p p' h hping hx => signalled_act hping h hx) (fun h => nomatch h) hping
  rintro ⟨hhandling, hmain, hscanning, -, -, hnone⟩
  exact absurd (hsignalled hhandling hmain hscanning) (by omega)

/-- A handler that stops the stream at its first call, and lets the main goroutine know. -/
theorem pump_not_stuck_stopped : ¬ (pumpRun ["data:1"] [.scan, .send, .handle true, .mainStop]).Stuck :=
  pump_not_stuck _ _ (by decide)

/-- The same, but it is the ping goroutine that gets to know. -/
theorem pump_stuck : (pumpRun (replicate 12 "data:1") ([.scan, .send, .handle true, .pingStop] ++
    (replicate 11 [.scan, .send]).flatten)).Stuck := by
  unfold Pump.Stuck
  decide +kernel

/-! ## Delivery -/

/-- The payloads of the lines before the end marker. -/
def payloads : List String → List String
  | [] => []
  | line :: lines =>
    match scanLine line with
    | .skipped => payloads lines
    | .data payload => payload :: payloads lines
    | .done => []

/-- What the handler was called with, and what is on its way to it. -/
def Pump.taken (p : Pump) : List String := p.handled ++ p.dataChan ++ p.sending.toList

/-- The step ends the scanner before the end of the stream, or the handler before the scanner. -/
def PumpAct.interrupts : PumpAct → Bool
  | .scanStop | .scanCancel | .scanGone | .handle true => true
  | _ => false

/-- The channels and the goroutines, when the stream was interrupted or `calm`. -/
structure PumpInv (calm : Prop) (lines : List String) (p : Pump) : Prop where
  /-- There is room for the tokens that are still to come. -/
  room : p.stopChan + p.scanning.toNat + p.handling.toNat + (decide (p.main = .waiting)).toNat ≤ 3
  taken : p.taken <+: payloads lines
  /-- A scanner at work has the rest before it. -/
  rest : p.scanning = true → p.taken ++ payloads p.lines = payloads lines
  all : calm → p.scanning = false → p.sending = none ∧ p.taken = payloads lines
  last : calm → p.handling = false → p.scanning = false ∧ p.dataChan = []

variable {calm : Prop}

/-- The scanner ends, and all was sent or somebody interrupted it. -/
theorem PumpInv.scanEnd (h : PumpInv calm lines p) (hscan : p.scanning = true)
    (hall : calm → p.sending = none ∧ p.taken = payloads lines) (hx : p.scanEnd = .ok p') :
    PumpInv calm lines p' := by
  rw [signal_ok hx]
  refine ⟨?_, h.taken, nofun, fun hcalm _ => hall hcalm,
    fun hcalm hhandling => ⟨rfl, (h.last hcalm hhandling).2⟩⟩
  have := h.room
  simp [hscan] at this ⊢
  omega

theorem pumpInv_act (hcalm : calm → a.interrupts = false) (h : PumpInv calm lines p)
    (hx : p.act a = .ok p') : PumpInv calm lines p' := by
  have hroom := h.room
  cases a with
  | scan =>
    obtain ⟨⟨hscan, hsending⟩, hx⟩ := ite_ok.mp hx
    have hrest := h.rest hscan
    -- nothing is left of a stream that has come to its end
    have hend : payloads p.lines = [] → calm → p.sending = none ∧ p.taken = payloads lines :=
      fun hnil _ => ⟨hsending, by rw [← hrest, hnil, append_nil]⟩
    split at hx
    · rename_i hlines
      exact h.scanEnd hscan (hend (by rw [hlines]; rfl)) hx
    rename_i line lines' hlines
    rw [hlines, payloads] at hrest
    split at hx
    · rename_i hline
      cases hx
      exact ⟨h.room, h.taken, fun _ => by simpa [Pump.taken, hline] using hrest, h.all, h.last⟩
    · rename_i payload hline
      cases hx
      have htaken : p.handled ++ p.dataChan ++ [payload] ++ payloads lines' = payloads lines := by
        simpa [Pump.taken, hline, hsending] using hrest
      refine ⟨h.room, ⟨_, htaken⟩, fun _ => htaken, ?_, h.last⟩
      exact fun _ hnot => Bool.noConfusion (hscan.symm.trans hnot)
    · rename_i hline
      exact h.scanEnd hscan (hend (by rw [hlines, payloads, hline])) hx
  | send =>
    unfold Pump.act at hx
    dsimp only at hx
    split at hx
    · rename_i payload hsending
      obtain ⟨⟨hscan, -⟩, hx⟩ := ite_ok.mp hx
      cases hx
      have hsame : Pump.taken { p with sending := none, dataChan := p.dataChan ++ [payload] } =
          p.taken := by
        simp [Pump.taken, hsending]
      refine ⟨h.room, hsame ▸ h.taken, fun _ => ?_, ?_, ?_⟩
      · exact hsame ▸ h.rest hscan
      · exact fun _ hnot => Bool.noConfusion (hscan.symm.trans hnot)
      · exact fun hcalm hhandling => Bool.noConfusion (hscan.symm.trans (h.last hcalm hhandling).1)
    · cases hx
  | scanStop =>
    obtain ⟨⟨hscan, htoken⟩, hx⟩ := ite_ok.mp hx
    have htaken : PumpInv calm lines { p with stopChan := p.stopChan - 1 } :=
      ⟨by dsimp only; omega, h.taken, h.rest, h.all, h.last⟩
    exact htaken.scanEnd hscan (fun hc => Bool.noConfusion (hcalm hc)) hx
  | scanCancel | scanGone =>
    obtain ⟨hscan, hx⟩ := ite_ok.mp hx
    refine h.scanEnd (by first | exact hscan | exact hscan.1) (fun hc => Bool.noConfusion (hcalm hc)) hx
  | handle stops =>
    unfold Pump.act at hx
    dsimp only at hx
    split at hx
    · rename_i payload rest hchan
      obtain ⟨hhandling, hx⟩ := ite_ok.mp hx
      have hsame : Pump.taken { p with dataChan := rest, handled := p.handled ++ [payload] } =
          p.taken := by
        simp [Pump.taken, hchan]
      have hstep : PumpInv calm lines
          { p with dataChan := rest, handled := p.handled ++ [payload] } := by
        refine ⟨h.room, hsame ▸ h.taken, fun hscan => ?_, fun hc hscan => ?_, ?_⟩
        · exact hsame ▸ h.rest hscan
        · exact ⟨(h.all hc hscan).1, hsame.trans (h.all hc hscan).2⟩
        · exact fun _ hnot => Bool.noConfusion (hhandling.symm.trans hnot)
      cases stops with
      | false =>
        cases hx
        exact hstep
      | true =>
        rw [signal_ok hx]
        refine ⟨?_, hstep.taken, hstep.rest, hstep.all, fun hc => Bool.noConfusion (hcalm hc)⟩
        simp [hhandling] at hroom ⊢
        omega
    · cases hx
  | handleEnd =>
    obtain ⟨⟨hhandling, hnil, hscan⟩, hx⟩ := ite_ok.mp hx
    rw [signal_ok hx]
    refine ⟨?_, h.taken, h.rest, h.all, fun _ _ => ⟨by simpa using hscan, hnil⟩⟩
    simp [hhandling] at hroom ⊢
    omega
  | pingStop | pingEnd =>
    obtain ⟨-, hx⟩ := ite_ok.mp hx
    cases hx
    exact ⟨by dsimp only; omega, h.taken, h.rest, h.all, h.last⟩
  | mainStop | mainGone =>
    obtain ⟨hwaiting, hx⟩ := ite_ok.mp hx
    rw [signal_ok hx]
    refine ⟨?_, h.taken, h.rest, h.all, h.last⟩
    simp [hwaiting] at hroom ⊢
    omega
  | mainReturn | mainGiveUp =>
    obtain ⟨-, hx⟩ := ite_ok.mp hx
    cases hx
    refine ⟨?_, h.taken, h.rest, h.all, h.last⟩
    simp at hroom ⊢
    omega

/-- **The pump delivers in order.** However the goroutines take turns, the handler is called with
payloads of the stream, each once and in their order, and nobody has to wait for room for a token.
If nothing interrupts the stream, a handler that has ended was called with all of them. -/
theorem pump_delivers (lines : List String) (acts : List PumpAct) :
    let p := pumpRun lines acts
    p.handled <+: payloads lines ∧
      (p.scanning ∨ p.handling ∨ p.main = .waiting → p.stopChan < 3) ∧
      ((∀ a ∈ acts, a.interrupts = false) → p.handling = false → p.handled = payloads lines) := by
  intro p
  have h : PumpInv (∀ a ∈ acts, a.interrupts = false) lines p :=
    run_induction (fun a p p' h hcalm hx => pumpInv_act hcalm h hx)
      ⟨le_refl 3, nil_prefix, fun _ => rfl, nofun, nofun⟩
      (along_of_forall fun a ha _ hcalm => hcalm a ha)
  refine ⟨((prefix_append _ _).trans (prefix_append _ _)).trans h.taken, fun hone => ?_, ?_⟩
  · have hroom := h.room
    rcases hone with hone | hone | hone <;> simp [hone] at hroom <;> omega
  · intro hcalm hhandling
    obtain ⟨hscan, hnil⟩ := h.last hcalm hhandling
    obtain ⟨hsending, hall⟩ := h.all hcalm hscan
    simpa [Pump.taken, hnil, hsending] using hall

theorem pump_delivers_two : (pumpRun ["data:1", "data:2", "data:[DONE]"]
    [.scan, .send, .scan, .handle false, .send, .scan, .handle false, .handleEnd]).handled =
      payloads ["data:1", "data:2", "data:[DONE]"] :=
  (pump_delivers _ _).2.2 (by decide) (by decide +kernel)

end ApiGateway
