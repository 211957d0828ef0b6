import Mathlib.Logic.Relation

/-!
# Handlers that interleave at transaction boundaries

A request handler alternates database transactions with questions to the outside world: remote
calls, the clock, the configuration. A transaction is atomic, so other handlers can only get in
between at the boundaries. `Prog` keeps exactly that structure, and `Step` runs any number of
programs side by side over one shared state. A transaction may fail for a reason the model does
not compute, and a thread may never be scheduled again, which is how a crash looks.

`wp` is the weakest precondition of a program whose neighbours may move the state along a relation
`R` between any two of its steps; `wp_reachable` says that it means what it should.
-/

namespace Interleave

open List

/-- A shared state and the operations on it. `exec` runs one transaction to its commit, or refuses
it. `onCall` is what asking the outside world records in the state: nothing in the real system, and
the ghost trace in a model that keeps one. -/
structure System (σ E : Type) where
  /-- Transactions. -/
  Tx : Type
  /-- What a committed transaction returns. -/
  Ret : Tx → Type
  /-- Questions to the outside world. -/
  Call : Type
  /-- What the outside world may answer. -/
  Resp : Call → Type
  exec : (t : Tx) → σ → Except E (σ × Ret t)
  onCall : Call → σ → σ

variable {σ E : Type}

/-- A handler: transactions and calls, each followed by a continuation. -/
inductive Prog (S : System σ E) (α : Type) : Type where
  | done (r : Except E α) : Prog S α
  | tx (t : S.Tx) (k : Except E (S.Ret t) → Prog S α) : Prog S α
  | call (c : S.Call) (k : S.Resp c → Prog S α) : Prog S α

variable {S : System σ E} {α β : Type}

namespace Prog

/-- Sequencing; an error of the first program ends the whole. -/
def bind : Prog S α → (α → Prog S β) → Prog S β
  | .done (.ok a), f => f a
  | .done (.error e), _ => .done (.error e)
  | .tx t k, f => .tx t fun r => (k r).bind f
  | .call c k, f => .call c fun r => (k r).bind f

instance : Monad (Prog S) where
  pure a := .done (.ok a)
  bind := Prog.bind

/-- Stop with an error. -/
def fail (e : E) : Prog S α := .done (.error e)

/-- Run one transaction; its error ends the program. -/
def run (t : S.Tx) : Prog S (S.Ret t) := .tx t fun r => .done r

/-- Ask the outside world. -/
def ask (c : S.Call) : Prog S (S.Resp c) := .call c fun r => .done (.ok r)

/-- Run a program and hand its error to the caller instead of stopping. -/
def attempt : Prog S α → Prog S (Except E α)
  | .done r => .done (.ok r)
  | .tx t k => .tx t fun r => (k r).attempt
  | .call c k => .call c fun r => (k r).attempt

/-- Run a program for its effect only: whatever it returns, go on. -/
def ignore (p : Prog S α) : Prog S Unit := p.attempt.bind fun _ => .done (.ok ())

/-- Run a body for every element of a list. -/
def forEach : List β → (β → Prog S Unit) → Prog S Unit
  | [], _ => .done (.ok ())
  | b :: bs, f => (f b).bind fun _ => forEach bs f

theorem bind_eq (p : Prog S α) (f : α → Prog S β) : (p >>= f) = p.bind f := rfl

theorem pure_eq (a : α) : (pure a : Prog S α) = .done (.ok a) := rfl

theorem bind_ok (a : α) (f : α → Prog S β) : (Prog.done (.ok a) : Prog S α).bind f = f a := rfl

theorem bind_error (e : E) (f : α → Prog S β) :
    (Prog.done (.error e) : Prog S α).bind f = .done (.error e) := rfl

theorem bind_tx (t : S.Tx) (k : Except E (S.Ret t) → Prog S α) (f : α → Prog S β) :
    (Prog.tx t k).bind f = .tx t fun r => (k r).bind f := rfl

theorem bind_call (c : S.Call) (k : S.Resp c → Prog S α) (f : α → Prog S β) :
    (Prog.call c k).bind f = .call c fun r => (k r).bind f := rfl

end Prog

/-! ## Interleavings -/

/-- The shared state and the programs still running over it. -/
structure World (S : System σ E) where
  state : σ
  threads : List (Prog S Unit)

/-- A handler starts, or one thread takes its next step. `Entry` lists the handlers the outside
world can start. `C` restricts the transactions that may commit. -/
inductive Step (Entry : Prog S Unit → Prop) (C : σ → S.Tx → Prop) :
    World S → World S → Prop where
  | spawn {w : World S} (p : Prog S Unit) (hp : Entry p) :
      Step Entry C w { w with threads := w.threads ++ [p] }
  | commit {w : World S} (i : Nat) (t : S.Tx) (k : Except E (S.Ret t) → Prog S Unit)
      (s' : σ) (r : S.Ret t) (hi : w.threads[i]? = some (.tx t k)) (hC : C w.state t)
      (hx : S.exec t w.state = .ok (s', r)) :
      Step Entry C w ⟨s', w.threads.set i (k (.ok r))⟩
  | abort {w : World S} (i : Nat) (t : S.Tx) (k : Except E (S.Ret t) → Prog S Unit)
      (e : E) (hi : w.threads[i]? = some (.tx t k)) :
      Step Entry C w { w with threads := w.threads.set i (k (.error e)) }
  | answer {w : World S} (i : Nat) (c : S.Call) (k : S.Resp c → Prog S Unit)
      (r : S.Resp c) (hi : w.threads[i]? = some (.call c k)) :
      Step Entry C w ⟨S.onCall c w.state, w.threads.set i (k r)⟩

/-- Worlds reached from `s` with no handler running, along any interleaving. -/
inductive Reachable (Entry : Prog S Unit → Prop) (C : σ → S.Tx → Prop) (s : σ) :
    World S → Prop where
  | init : Reachable Entry C s ⟨s, []⟩
  | tail {w w' : World S} : Reachable Entry C s w → Step Entry C w w' →
      Reachable Entry C s w'

variable {Entry : Prog S Unit → Prop} {C : σ → S.Tx → Prop} {s : σ} {w w' : World S} {I : σ → Prop}

/-- **State invariants.** What every commit and every call preserves holds in every reachable world.
-/
theorem invariant_reachable (hinit : I s)
    (htx : ∀ s1 t s2 r, I s1 → C s1 t → S.exec t s1 = .ok (s2, r) → I s2)
    (hcall : ∀ s1 c, I s1 → I (S.onCall c s1)) (h : Reachable Entry C s w) : I w.state := by
  induction h with
  | init => exact hinit
  | tail _ hs ih =>
    cases hs with
    | spawn => exact ih
    | commit i t k s' r _ hC hx => exact htx _ t s' r ih hC hx
    | abort => exact ih
    | answer i c => exact hcall _ c ih

/-- The steps taken from a world that is itself in the middle of a run. -/
def Later (Entry : Prog S Unit → Prop) (C : σ → S.Tx → Prop) : World S → World S → Prop :=
  Relation.ReflTransGen (Step Entry C)

theorem Reachable.later (h : Reachable Entry C s w)
    (hl : Later Entry C w w') : Reachable Entry C s w' := by
  induction hl with
  | refl => exact h
  | tail _ hs ih => exact .tail ih hs

/-- **Two-state invariants.** A preorder that contains every commit and every call made in an
`I`-state relates a reachable world to every later one. -/
theorem later_related {R : σ → σ → Prop} (hI : ∀ w, Reachable Entry C s w → I w.state)
    (hrefl : ∀ s, R s s) (htrans : ∀ {a b c}, R a b → R b c → R a c)
    (htx : ∀ s1 t s2 r, I s1 → S.exec t s1 = .ok (s2, r) → R s1 s2)
    (hcall : ∀ s1 c, I s1 → R s1 (S.onCall c s1)) (h : Reachable Entry C s w)
    (hl : Later Entry C w w') : R w.state w'.state := by
  induction hl with
  | refl => exact hrefl _
  | tail hl' hs ih =>
    have hi := hI _ (h.later hl')
    refine htrans ih ?_
    cases hs with
    | spawn => exact hrefl _
    | commit i t k s' r _ _ hx => exact htx _ t s' r hi hx
    | abort => exact hrefl _
    | answer i c => exact hcall _ c hi

/-! ## Schedules

A schedule names the moves of one interleaving, so that a run can be computed. `g`
is the test a transaction has to pass to commit. -/

/-- Start a handler, let thread `i` take its next step, or let its next transaction fail. A step
comes with an answer to every question; only the one the thread asks is used. -/
inductive Move (S : System σ E) where
  | spawn (p : Prog S Unit)
  | step (i : Nat) (f : (c : S.Call) → S.Resp c)
  | abort (i : Nat) (e : E)

/-- The world after one move, if the move is possible. -/
def World.move (g : σ → S.Tx → Bool) (w : World S) : Move S → Option (World S)
  | .spawn p => some { w with threads := w.threads ++ [p] }
  | .step i f =>
    match w.threads[i]? with
    | some (.tx t k) =>
      if g w.state t then
        match S.exec t w.state with
        | .ok (s', r) => some ⟨s', w.threads.set i (k (.ok r))⟩
        | .error _ => none
      else none
    | some (.call c k) => some ⟨S.onCall c w.state, w.threads.set i (k (f c))⟩
    | _ => none
  | .abort i e =>
    match w.threads[i]? with
    | some (.tx _ k) => some { w with threads := w.threads.set i (k (.error e)) }
    | _ => none

/-- Start `p` as thread `i` and let it take `n` steps. -/
def Move.serve (p : Prog S Unit) (i n : Nat) (f : (c : S.Call) → S.Resp c) : List (Move S) :=
  .spawn p :: List.replicate n (.step i f)

def World.moves (g : σ → S.Tx → Bool) (w : World S) : List (Move S) → Option (World S)
  | [] => some w
  | m :: ms => (w.move g m).bind fun w' => w'.moves g ms

variable {g : σ → S.Tx → Bool}

theorem World.move_step {m : Move S} (hC : ∀ s t, g s t = true → C s t)
    (hE : ∀ p, m = .spawn p → Entry p) (h : w.move g m = some w') : Step Entry C w w' := by
  cases m with
  | spawn p =>
    cases h
    exact .spawn p (hE p rfl)
  | step i f =>
    simp only [World.move] at h
    split at h
    · rename_i t k hi
      split at h
      · rename_i hg
        split at h
        · rename_i s' r hx
          cases h
          exact .commit i t k s' r hi (hC _ _ hg) hx
        · cases h
      · cases h
    · rename_i c k hi
      cases h
      exact .answer i c k (f c) hi
    · cases h
  | abort i e =>
    simp only [World.move] at h
    split at h
    · rename_i t k hi
      cases h
      exact .abort i t k e hi
    · cases h

/-- A schedule whose spawns are entries leads to a reachable world. -/
theorem World.moves_reachable (hC : ∀ s t, g s t = true → C s t) :
    ∀ {ms : List (Move S)} {w w' : World S}, Reachable Entry C s w →
      (∀ p, Move.spawn p ∈ ms → Entry p) → w.moves g ms = some w' → Reachable Entry C s w'
  | [], w, w', hw, _, h => by
      cases h
      exact hw
  | m :: ms, w, w', hw, hE, h => by
      obtain ⟨w1, h1, h2⟩ := Option.bind_eq_some_iff.mp h
      have hs := World.move_step hC (fun p hp => hE p (hp ▸ mem_cons_self)) h1
      exact World.moves_reachable hC (.tail hw hs) (fun p hp => hE p (mem_cons_of_mem _ hp)) h2

theorem Move.spawn_mem_serve {p q : Prog S Unit} {i n : Nat} {f : (c : S.Call) → S.Resp c}
    (h : Move.spawn q ∈ Move.serve p i n f) : q = p := by
  rcases mem_cons.mp h with h' | h'
  · exact Move.spawn.inj h'
  · exact nomatch (eq_of_mem_replicate h')

variable {q : World S → Prop}

/-- A computed run: what holds of its last world holds of a reachable world. -/
theorem exists_reachable (ms : List (Move S)) [DecidablePred q] (hC : ∀ s t, g s t = true → C s t)
    (hE : ∀ p, Move.spawn p ∈ ms → Entry p) (h : ((⟨s, []⟩ : World S).moves g ms).any q = true) :
    ∃ w, Reachable Entry C s w ∧ q w := by
  cases hm : (⟨s, []⟩ : World S).moves g ms with
  | none =>
    rw [hm] at h
    cases h
  | some w =>
    rw [hm] at h
    exact ⟨w, World.moves_reachable hC .init hE hm, of_decide_eq_true h⟩

/-- Handlers served one after the other, each with the number of its steps and the
answers it gets. -/
def Move.serveAll : Nat → List (Prog S Unit × Nat × ((c : S.Call) → S.Resp c)) → List (Move S)
  | _, [] => []
  | i, (p, n, f) :: rest => Move.serve p i n f ++ Move.serveAll (i + 1) rest

theorem Move.spawn_mem_serveAll {q : Prog S Unit} :
    ∀ {rs : List (Prog S Unit × Nat × ((c : S.Call) → S.Resp c))} {i : Nat},
      Move.spawn q ∈ Move.serveAll i rs → ∃ r ∈ rs, r.1 = q
  | (p, n, f) :: rest, i, h => by
      rcases mem_append.mp h with h' | h'
      · exact ⟨_, mem_cons_self, (Move.spawn_mem_serve h').symm⟩
      · obtain ⟨r, hr, hq⟩ := Move.spawn_mem_serveAll h'
        exact ⟨r, mem_cons_of_mem _ hr, hq⟩

/-- A computed run of handlers served one after the other. -/
theorem served_reachable (rs : List (Prog S Unit × Nat × ((c : S.Call) → S.Resp c)))
    [DecidablePred q] (hC : ∀ s t, g s t = true → C s t) (hE : ∀ r ∈ rs, Entry r.1)
    (h : ((⟨s, []⟩ : World S).moves g (Move.serveAll 0 rs)).any q = true) :
    ∃ w, Reachable Entry C s w ∧ q w := by
  refine exists_reachable _ hC (fun p hp => ?_) h
  obtain ⟨r, hr, rfl⟩ := Move.spawn_mem_serveAll hp
  exact hE r hr

/-! ## A program logic -/

/-- What one thread may rely on and must provide: `inv` in every state, `rely` for the moves of its
neighbours between two of its steps, `mayRun t s` for committing `t` in state `s`, and `may c s` for
asking `c`. -/
structure Contract (S : System σ E) (C : σ → S.Tx → Prop) where
  inv : σ → Prop
  rely : σ → σ → Prop
  mayRun : S.Tx → σ → Prop
  may : S.Call → σ → Prop
  rely_refl : ∀ s, rely s s
  rely_trans : ∀ {a b c}, rely a b → rely b c → rely a c
  tx_inv : ∀ s t s' r, inv s → C s t → mayRun t s → S.exec t s = .ok (s', r) → inv s'
  tx_rely : ∀ s t s' r, inv s → C s t → mayRun t s → S.exec t s = .ok (s', r) → rely s s'
  call_inv : ∀ s c, inv s → may c s → inv (S.onCall c s)
  call_rely : ∀ s c, inv s → may c s → rely s (S.onCall c s)

variable (K : Contract S C)

/-- Weakest precondition under interference. -/
def wp (K : Contract S C) : Prog S α → (Except E α → σ → Prop) → σ → Prop
  | .done r, Q, s => Q r s
  | .tx t k, Q, s => ∀ s₁, K.rely s s₁ → K.inv s₁ →
      (∀ s₂ r, C s₁ t → S.exec t s₁ = .ok (s₂, r) →
        K.mayRun t s₁ ∧ wp K (k (.ok r)) Q s₂) ∧
      (∀ e, wp K (k (.error e)) Q s₁)
  | .call c k, Q, s => ∀ s₁, K.rely s s₁ → K.inv s₁ →
      K.may c s₁ ∧ ∀ r, wp K (k r) Q (S.onCall c s₁)

variable {K}

section Imp

variable {Q : Except E α → σ → Prop} {Q' : Except E β → σ → Prop} {s : σ}

/-- Two programs that start with the same transaction are compared after it. -/
theorem wp_tx_imp {t : S.Tx} {k : Except E (S.Ret t) → Prog S α} {k' : Except E (S.Ret t) → Prog S β}
    (ih : ∀ r s, wp K (k r) Q s → wp K (k' r) Q' s) (h : wp K (.tx t k) Q s) :
    wp K (.tx t k') Q' s := by
  intro s1 hr hi
  obtain ⟨hok, herr⟩ := h s1 hr hi
  refine ⟨fun s2 r hC hx => ?_, fun e => ih _ _ (herr e)⟩
  obtain ⟨hm, hk⟩ := hok s2 r hC hx
  exact ⟨hm, ih _ _ hk⟩

theorem wp_call_imp {c : S.Call} {k : S.Resp c → Prog S α} {k' : S.Resp c → Prog S β}
    (ih : ∀ r s, wp K (k r) Q s → wp K (k' r) Q' s) (h : wp K (.call c k) Q s) :
    wp K (.call c k') Q' s := by
  intro s1 hr hi
  obtain ⟨hm, hk⟩ := h s1 hr hi
  exact ⟨hm, fun r => ih r _ (hk r)⟩

end Imp

theorem wp_mono {Q Q' : Except E α → σ → Prop} (hQ : ∀ r s, Q r s → Q' r s)
    (p : Prog S α) : ∀ s, wp K p Q s → wp K p Q' s := by
  induction p with
  | done r => intro s h; exact hQ r s h
  | tx t k ih => exact fun s h => wp_tx_imp ih h
  | call c k ih => exact fun s h => wp_call_imp ih h

variable {f : α → Prog S β}

/-- Sequencing: run the first program to a state from which the rest is fine. -/
theorem wp_bind {Q : Except E β → σ → Prop} (p : Prog S α) :
    ∀ s, wp K p (fun r s' => match r with
        | .ok a => wp K (f a) Q s'
        | .error e => Q (.error e) s') s → wp K (p.bind f) Q s := by
  induction p with
  | done r =>
    intro s h
    cases r with
    | ok | error => exact h
  | tx t k ih => exact fun s h => wp_tx_imp ih h
  | call c k ih => exact fun s h => wp_call_imp ih h

theorem wp_attempt {Q : Except E (Except E α) → σ → Prop} (p : Prog S α) :
    ∀ s, wp K p (fun r s' => Q (.ok r) s') s → wp K p.attempt Q s := by
  induction p with
  | done => intro s h; exact h
  | tx t k ih => exact fun s h => wp_tx_imp ih h
  | call c k ih => exact fun s h => wp_call_imp ih h

/-- The weakest precondition survives whatever the neighbours do, as long as the
thread has a step left to take. -/
theorem wp_rely (p : Prog S Unit) {s s' : σ} (hr : K.rely s s')
    (h : wp K p (fun _ _ => True) s) : wp K p (fun _ _ => True) s' := by
  cases p with
  | done => trivial
  | tx | call => intro s1 hr1; exact h s1 (K.rely_trans hr hr1)

/-! ### Programs that are fine wherever they start -/

section Triples

variable {p : Prog S α} {P : σ → Prop} {Q : α → σ → Prop}

/-- The program keeps its contract from every state and for every answer. -/
def Safe (K : Contract S C) (p : Prog S α) : Prop := ∀ s, wp K p (fun _ _ => True) s

theorem safe_done (r : Except E α) : Safe K (.done r : Prog S α) := fun _ => trivial

theorem safe_fail (e : E) : Safe K (Prog.fail e : Prog S α) := fun _ => trivial

variable {t : S.Tx}

theorem safe_run (hm : ∀ s, K.inv s → K.mayRun t s) : Safe K (Prog.run t) :=
  fun _ s1 _ hi => ⟨fun _ _ _ _ => ⟨hm s1 hi, trivial⟩, fun _ => trivial⟩

theorem safe_ask {c : S.Call} (hm : ∀ s, K.inv s → K.may c s) : Safe K (Prog.ask c) :=
  fun _ s1 _ hi => ⟨hm s1 hi, fun _ => trivial⟩

theorem safe_bind (hp : Safe K p) (hf : ∀ a, Safe K (f a)) : Safe K (p.bind f) := by
  intro s
  refine wp_bind p s (wp_mono ?_ p s (hp s))
  intro r s' _
  cases r with
  | ok a => exact hf a s'
  | error => trivial

theorem safe_attempt (hp : Safe K p) : Safe K p.attempt :=
  fun s => wp_attempt p s (wp_mono (fun _ _ _ => trivial) p s (hp s))

theorem safe_ignore (hp : Safe K p) : Safe K p.ignore :=
  safe_bind (safe_attempt hp) fun _ => safe_done _

theorem safe_forEach {f : β → Prog S Unit} (hf : ∀ b, Safe K (f b)) :
    ∀ bs : List β, Safe K (Prog.forEach bs f)
  | [] => safe_done _
  | b :: bs => safe_bind (hf b) fun _ => safe_forEach hf bs

/-! ### Triples -/

/-- The neighbours cannot make `P` false. -/
def Stable (K : Contract S C) (P : σ → Prop) : Prop := ∀ s s', P s → K.rely s s' → P s'

/-- Started where `P` holds, the program keeps its contract, and a value it returns satisfies `Q` in
the state it was returned in. -/
def Triple (K : Contract S C) (P : σ → Prop) (p : Prog S α) (Q : α → σ → Prop) : Prop :=
  ∀ s, P s → wp K p (fun r s' => ∀ a, r = .ok a → Q a s') s

theorem Stable.and {P Q : σ → Prop} (hP : Stable K P) (hQ : Stable K Q) :
    Stable K fun s => P s ∧ Q s :=
  fun s s' h hr => ⟨hP s s' h.1 hr, hQ s s' h.2 hr⟩

theorem Stable.const (p : Prop) : Stable K fun _ => p := fun _ _ h _ => h

theorem Triple.safe (h : Triple K P p Q) (hP : ∀ s, P s) : Safe K p :=
  fun s => wp_mono (fun _ _ _ => trivial) p s (h s (hP s))

theorem Safe.triple (h : Safe K p) : Triple K P p fun _ _ => True :=
  fun s _ => wp_mono (fun _ _ _ _ _ => trivial) p s (h s)

theorem Triple.post {Q' : α → σ → Prop} (h : Triple K P p Q) (hQ : ∀ a s, Q a s → Q' a s) :
    Triple K P p Q' :=
  fun s hs => wp_mono (fun _ s' hr a ha => hQ a s' (hr a ha)) p s (h s hs)

theorem Triple.pre {P' : σ → Prop} (h : Triple K P p Q) (hP : ∀ s, P' s → P s) : Triple K P' p Q :=
  fun s hs => h s (hP s hs)

theorem triple_pure {a : α} (h : ∀ s, P s → Q a s) : Triple K P (pure a) Q := by
  intro s hs b hb
  obtain rfl := Except.ok.inj hb
  exact h s hs

theorem triple_skip {a : α} : Triple K P (pure a) fun _ _ => True :=
  triple_pure fun _ _ => trivial

/-- A check that touches nothing: whoever goes on knows that it succeeded. -/
theorem triple_done {r : Except E α} : Triple K P (.done r : Prog S α) fun a s => P s ∧ r = .ok a :=
  fun _ hs _ ha => ⟨hs, ha⟩

theorem triple_fail (e : E) : Triple K P (Prog.fail e) Q :=
  fun _ _ _ h => nomatch h

theorem triple_run {Q : S.Ret t → σ → Prop} (hP : Stable K P)
    (h : ∀ s s' r, K.inv s → P s → C s t → S.exec t s = .ok (s', r) → K.mayRun t s ∧ Q r s') :
    Triple K P (Prog.run t) Q := by
  intro s hs s1 hr hi
  refine ⟨fun s2 r hC hx => ?_, fun e a ha => nomatch ha⟩
  obtain ⟨hm, hQ⟩ := h s1 s2 r hi (hP s s1 hs hr) hC hx
  refine ⟨hm, fun a ha => ?_⟩
  obtain rfl := Except.ok.inj ha
  exact hQ

/-- A transaction of the thread itself cannot make a stable assertion false, either. -/
theorem triple_run_stable (hP : Stable K P) (h : ∀ s, K.inv s → P s → K.mayRun t s) :
    Triple K P (Prog.run t) fun _ s => P s := by
  refine triple_run hP fun s s' r hi hs hC hx => ?_
  have hm := h s hi hs
  exact ⟨hm, hP s s' hs (K.tx_rely s t s' r hi hC hm hx)⟩

theorem triple_bind {R : β → σ → Prop} (hp : Triple K P p Q) (hf : ∀ a, Triple K (Q a) (f a) R) :
    Triple K P (p.bind f) R := by
  intro s hs
  refine wp_bind p s (wp_mono ?_ p s (hp s hs))
  intro r s' hr
  cases r with
  | ok a => exact hf a s' (hr a rfl)
  | error => exact fun _ h => nomatch h

theorem triple_ite {c : Prop} [Decidable c] {p q : Prog S α}
    (hp : Triple K P p Q) (hq : Triple K P q Q) : Triple K P (if c then p else q) Q := by
  split
  · exact hp
  · exact hq

/-- An error tells nothing about the state, only that there was one. -/
theorem triple_attempt (hp : Triple K P p Q) :
    Triple K P p.attempt fun r s => ∀ a, r = .ok a → Q a s := by
  intro s hs
  refine wp_attempt p s (wp_mono ?_ p s (hp s hs))
  intro r s' hr r' hr'
  obtain rfl := Except.ok.inj hr'
  exact hr

/-- **Frame.** What the neighbours cannot make false, a program that keeps its contract
cannot either. -/
theorem wp_frame (hP : Stable K P) {Q : Except E α → σ → Prop} :
    ∀ s, P s → wp K p Q s → wp K p (fun r s' => P s' ∧ Q r s') s := by
  induction p with
  | done => intro s hs h; exact ⟨hs, h⟩
  | tx t k ih =>
    intro s hs h s1 hr hi
    obtain ⟨hok, herr⟩ := h s1 hr hi
    have hs1 := hP s s1 hs hr
    refine ⟨fun s2 r hC hx => ?_, fun e => ih _ _ hs1 (herr e)⟩
    obtain ⟨hm, hk⟩ := hok s2 r hC hx
    exact ⟨hm, ih _ _ (hP _ _ hs1 (K.tx_rely _ t s2 r hi hC hm hx)) hk⟩
  | call c k ih =>
    intro s hs h s1 hr hi
    obtain ⟨hm, hk⟩ := h s1 hr hi
    exact ⟨hm, fun r => ih r _ (hP _ _ (hP s s1 hs hr) (K.call_rely _ c hi hm)) (hk r)⟩

theorem triple_frame {P F : σ → Prop} (hF : Stable K F)
    (hp : Triple K P p Q) : Triple K (fun s => F s ∧ P s) p fun a s => F s ∧ Q a s :=
  fun s hs => wp_mono (fun _ _ h a ha => ⟨h.1, h.2 a ha⟩) p s (wp_frame hF s hs.1 (hp s hs.2))

theorem triple_of_safe (hP : Stable K P) (hp : Safe K p) : Triple K P p fun _ s => P s :=
  fun s hs => wp_mono (fun _ _ h _ _ => h.1) p s (wp_frame hP s hs (hp s))

/-- A program whose result is of no interest. -/
theorem triple_ignore (hP : Stable K P) (h : Triple K P p Q) : Triple K P p.ignore fun _ s => P s :=
  (triple_frame hP (triple_bind (triple_attempt h) fun _ => triple_skip)).pre
    (fun _ hs => ⟨hs, hs⟩) |>.post fun _ _ hs => hs.1

theorem safe_of_triple (h : Triple K (fun _ => True) p fun _ _ => True) : Safe K p :=
  h.safe fun _ => trivial

theorem triple_forEach {f : β → Prog S Unit} {bs : List β}
    (h : ∀ b ∈ bs, Triple K P (f b) fun _ s => P s) :
    Triple K P (Prog.forEach bs f) fun _ s => P s := by
  induction bs with
  | nil => exact triple_pure fun _ hs => hs
  | cons b _ ih =>
    exact triple_bind (h b mem_cons_self) fun _ =>
      ih fun b' hb' => h b' (mem_cons_of_mem _ hb')

end Triples

/-! ### Adequacy -/

/-- **Adequacy.** If every handler keeps its contract, then along every interleaving the invariant
holds, and every transaction and every call came in a state that allowed it. -/
theorem wp_reachable (hentry : ∀ p, Entry p → Safe K p)
    (hinit : K.inv s) (h : Reachable Entry C s w) :
    K.inv w.state ∧ ∀ p ∈ w.threads, wp K p (fun _ _ => True) w.state := by
  induction h with
  | init => exact ⟨hinit, by simp⟩
  | @tail w _ _ hs ih =>
    obtain ⟨hi, hth⟩ := ih
    -- the thread that moved is handled by its own step, the others by the rely
    have others : ∀ {s' : σ} {i : Nat} {q : Prog S Unit}, K.rely w.state s' →
        wp K q (fun _ _ => True) s' →
        ∀ p ∈ w.threads.set i q, wp K p (fun _ _ => True) s' := by
      intro s' i q hr hq p hp
      rcases mem_or_eq_of_mem_set hp with hp' | rfl
      · exact wp_rely p hr (hth p hp')
      · exact hq
    cases hs with
    | spawn p hp =>
      refine ⟨hi, fun q hq => ?_⟩
      rcases mem_append.mp hq with hq' | hq'
      · exact hth q hq'
      · rw [mem_singleton] at hq'
        subst hq'
        exact hentry _ hp _
    | commit i t k s' r hget hC hx =>
      have hmem := mem_of_getElem? hget
      obtain ⟨hok, -⟩ := hth _ hmem _ (K.rely_refl _) hi
      obtain ⟨hm, hk⟩ := hok s' r hC hx
      have hr := K.tx_rely _ t s' r hi hC hm hx
      exact ⟨K.tx_inv _ t s' r hi hC hm hx, others hr hk⟩
    | abort i t k e hget =>
      have hmem := mem_of_getElem? hget
      obtain ⟨-, herr⟩ := hth _ hmem _ (K.rely_refl _) hi
      exact ⟨hi, others (K.rely_refl _) (herr e)⟩
    | answer i c k r hget =>
      have hmem := mem_of_getElem? hget
      obtain ⟨hm, hk⟩ := hth _ hmem _ (K.rely_refl _) hi
      exact ⟨K.call_inv _ c hi hm, others (K.call_rely _ c hi hm) (hk r)⟩

/-- **Two-state invariants of a contract.** What the threads rely on is all that happens in between.
-/
theorem wp_later (hentry : ∀ p, Entry p → Safe K p) (hinit : K.inv s)
    (h : Reachable Entry C s w) (hl : Later Entry C w w') : K.rely w.state w'.state := by
  induction hl with
  | refl => exact K.rely_refl _
  | tail hl' hs ih =>
    obtain ⟨hi, hth⟩ := wp_reachable hentry hinit (h.later hl')
    refine K.rely_trans ih ?_
    cases hs with
    | spawn => exact K.rely_refl _
    | commit i t k s' r hget hC hx =>
      obtain ⟨hok, -⟩ := hth _ (mem_of_getElem? hget) _ (K.rely_refl _) hi
      exact K.tx_rely _ t s' r hi hC (hok s' r hC hx).1 hx
    | abort => exact K.rely_refl _
    | answer i c k r hget =>
      obtain ⟨hm, -⟩ := hth _ (mem_of_getElem? hget) _ (K.rely_refl _) hi
      exact K.call_rely _ c hi hm

variable {C' : σ → S.Tx → Prop}

/-- A run of a system with fewer commits is a run of the system. -/
theorem Reachable.mono (hC : ∀ s t, C' s t → C s t) (h : Reachable Entry C' s w) :
    Reachable Entry C s w := by
  induction h with
  | init => exact .init
  | tail _ hs ih =>
    refine .tail ih ?_
    cases hs with
    | spawn p hp => exact .spawn p hp
    | commit i t k s' r hi hC' hx => exact .commit i t k s' r hi (hC _ _ hC') hx
    | abort i t k e hi => exact .abort i t k e hi
    | answer i c k r hi => exact .answer i c k r hi

/-- **Invariants on top of a contract**, preserved by every commit that the contract allows. -/
theorem wp_invariant (hC : ∀ s t, C' s t → C s t) (hentry : ∀ p, Entry p → Safe K p)
    (hinit : K.inv s) (hI : I s)
    (htx : ∀ s1 t s2 r, K.inv s1 → C' s1 t → K.mayRun t s1 → S.exec t s1 = .ok (s2, r) →
      I s1 → I s2)
    (hcall : ∀ s1 c, I s1 → I (S.onCall c s1)) (h : Reachable Entry C' s w) : I w.state := by
  induction h with
  | init => exact hI
  | @tail w _ hr hs ih =>
    obtain ⟨hi, hth⟩ := wp_reachable hentry hinit (hr.mono hC)
    cases hs with
    | spawn => exact ih
    | commit i t k s' r hget hC' hx =>
      obtain ⟨hok, -⟩ := hth _ (mem_of_getElem? hget) _ (K.rely_refl _) hi
      exact htx _ t s' r hi hC' (hok s' r (hC _ _ hC') hx).1 hx ih
    | abort => exact ih
    | answer i c => exact hcall _ c ih

-- From here on sequencing is handled by its rules. Unfolding it would make the
-- unifier run the first program.
attribute [irreducible] Prog.bind

end Interleave
