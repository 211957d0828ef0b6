
/-!
# Sequences of transactions

Where a service is called one transaction at a time, a run is a list of operations. One that is
refused leaves the state as it was. `Along` speaks of every operation of a run and the state it was
called in, and `run_induction` is the induction over runs.
-/

namespace Runs

variable {σ ω ε : Type} (exec : ω → σ → Except ε σ)
variable {op : ω} {s : σ} {G : ω → σ → Prop} {ops : List ω}

/-- The state after one operation, committed or rolled back. -/
def next (op : ω) (s : σ) : σ :=
  match exec op s with
  | .ok s' => s'
  | .error _ => s

/-- The state after a sequence of operations. -/
def run : List ω → σ → σ
  | [], s => s
  | op :: ops, s => run ops (next exec op s)

/-- Every operation of the run meets `G` in the state it is called in. -/
def Along (G : ω → σ → Prop) : List ω → σ → Prop
  | [], _ => True
  | op :: ops, s => G op s ∧ Along G ops (next exec op s)

instance decidableAlong (G : ω → σ → Prop) [∀ op s, Decidable (G op s)] :
    ∀ (ops : List ω) (s : σ), Decidable (Along exec G ops s)
  | [], _ => isTrue trivial
  | op :: ops, s =>
    have := decidableAlong G ops (next exec op s)
    inferInstanceAs (Decidable (G op s ∧ Along exec G ops (next exec op s)))

variable {exec}

theorem next_of_ok {s' : σ} (h : exec op s = .ok s') : next exec op s = s' := by
  unfold next
  rw [h]

theorem next_of_error {e : ε} (h : exec op s = .error e) : next exec op s = s := by
  unfold next
  rw [h]

theorem along_append {ops' : List ω} :
    Along exec G (ops ++ ops') s ↔ Along exec G ops s ∧ Along exec G ops' (run exec ops s) := by
  induction ops generalizing s with
  | nil => simp [Along, run]
  | cons _ _ ih =>
    simp only [List.cons_append, Along, run]
    rw [ih, and_assoc]

/-- **Induction over runs.** What holds at the start and survives every committed
operation holds at the end. -/
theorem run_induction {I : σ → Prop} (hstep : ∀ op s s', I s → G op s → exec op s = .ok s' → I s')
    (hI : I s) (hG : Along exec G ops s) : I (run exec ops s) := by
  induction ops generalizing s with
  | nil => exact hI
  | cons op _ ih =>
    refine ih ?_ hG.2
    cases hx : exec op s with
    | ok s' =>
      rw [next_of_ok hx]
      exact hstep op s s' hI hG.1 hx
    | error =>
      rw [next_of_error hx]
      exact hI

/-- A condition that every operation meets is met along every run. -/
theorem along_of_forall : ∀ {ops : List ω} {s : σ}, (∀ op ∈ ops, ∀ s, G op s) → Along exec G ops s
  | [], _, _ => trivial
  | op :: _, s, h => ⟨h op (.head _) s, along_of_forall fun op' hop => h op' (.tail op hop)⟩

end Runs
