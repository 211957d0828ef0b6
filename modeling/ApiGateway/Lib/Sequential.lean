import ApiGateway.Lib.Interleave

/-!
# Handlers that run one at a time

The programs of `Interleave`, each run to its end before the next one starts. Transactions are
refused and the outside world answers within given limits (`Limits`). `Yields` is the Hoare triple
of such runs, and `Turns` the states that handlers reach which take turns.
-/

namespace Interleave

variable {σ E : Type} {S : System σ E} {α β : Type}
variable {P P' : σ → Prop} {Q : Except E β → σ → Prop} {t : S.Tx} {c : S.Call} {p : Prog S α}
  {f : α → Prog S β} {s s' : σ} {r : Except E Unit} {C : σ → S.Tx → Prop}

/-- Which transactions may be refused although they could commit, and what the outside
world may answer. -/
structure Limits (S : System σ E) where
  refuses : S.Tx → Prop
  answers : (c : S.Call) → S.Resp c → Prop

/-- Anything can be refused, and any answer is possible. -/
def Limits.none (S : System σ E) : Limits S := ⟨fun _ => True, fun _ _ => True⟩

/-- A program ran on its own from one state to another and returned `r`. -/
inductive Ran (L : Limits S) : Prog S α → σ → Except E α → σ → Prop where
  | done (r : Except E α) (s : σ) : Ran L (.done r) s r s
  | commit {t : S.Tx} {k : Except E (S.Ret t) → Prog S α} {s s₁ s' : σ} {x : S.Ret t}
      {r : Except E α} (hx : S.exec t s = .ok (s₁, x)) (h : Ran L (k (.ok x)) s₁ r s') :
      Ran L (.tx t k) s r s'
  | refuse {t : S.Tx} {k : Except E (S.Ret t) → Prog S α} {s s' : σ} {e : E} {r : Except E α}
      (ht : L.refuses t ∨ S.exec t s = .error e) (h : Ran L (k (.error e)) s r s') :
      Ran L (.tx t k) s r s'
  | answer {c : S.Call} {k : S.Resp c → Prog S α} {s s' : σ} {x : S.Resp c} {r : Except E α}
      (hc : L.answers c x) (h : Ran L (k x) (S.onCall c s) r s') : Ran L (.call c k) s r s'

variable {L : Limits S}

/-! ## Computing a run -/

/-- Run a program on its own, with an answer to every question and a test that says which
transactions are refused. -/
def Prog.play (refused : S.Tx → Option E) (f : (c : S.Call) → S.Resp c) :
    Prog S α → σ → Except E α × σ
  | .done r, s => (r, s)
  | .tx t k, s =>
    match refused t with
    | some e => (k (.error e)).play refused f s
    | none =>
      match S.exec t s with
      | .ok (s₁, x) => (k (.ok x)).play refused f s₁
      | .error e => (k (.error e)).play refused f s
  | .call c k, s => (k (f c)).play refused f (S.onCall c s)

theorem Prog.play_ran {refused : S.Tx → Option E} {f : (c : S.Call) → S.Resp c}
    (hrefused : ∀ t e, refused t = some e → L.refuses t) (hf : ∀ c, L.answers c (f c)) :
    ∀ s, Ran L p s (p.play refused f s).1 (p.play refused f s).2 := by
  induction p with
  | done r => exact fun s => .done r s
  | tx t k ih =>
    intro s
    cases ht : refused t with
    | some e =>
      simp only [Prog.play, ht]
      exact .refuse (.inl (hrefused t e ht)) (ih _ s)
    | none =>
      cases hx : S.exec t s with
      | ok =>
        simp only [Prog.play, ht, hx]
        exact .commit hx (ih _ _)
      | error =>
        simp only [Prog.play, ht, hx]
        exact .refuse (.inr hx) (ih _ s)
  | call c k ih => exact fun s => .answer (hf c) (ih _ _)

/-! ## Triples -/

/-- Run from a state in `P`, the program ends in a state that `Q` allows for what it
returned. -/
def Yields (L : Limits S) (P : σ → Prop) (p : Prog S α) (Q : Except E α → σ → Prop) : Prop :=
  ∀ s r s', P s → Ran L p s r s' → Q r s'

theorem yields_done {r : Except E α} {Q : Except E α → σ → Prop} (h : ∀ s, P s → Q r s) :
    Yields L P (.done r) Q := by
  intro s r' s' hs hr
  cases hr
  exact h s hs

theorem yields_run {Q : Except E (S.Ret t) → σ → Prop}
    (hok : ∀ s s' x, P s → S.exec t s = .ok (s', x) → Q (.ok x) s')
    (herr : ∀ s e, P s → L.refuses t ∨ S.exec t s = .error e → Q (.error e) s) :
    Yields L P (Prog.run t) Q := by
  intro s r s' hs hr
  cases hr with
  | commit hx h =>
    cases h
    exact hok s s' _ hs hx
  | refuse ht h =>
    cases h
    exact herr s _ hs ht

theorem yields_ask {Q : Except E (S.Resp c) → σ → Prop}
    (h : ∀ s x, P s → L.answers c x → Q (.ok x) (S.onCall c s)) : Yields L P (Prog.ask c) Q := by
  intro s r s' hs hr
  cases hr with
  | answer hc h' =>
    cases h'
    exact h s _ hs hc

theorem yields_conseq {Q Q' : Except E α → σ → Prop}
    (h : Yields L P p Q) (hP : ∀ s, P' s → P s) (hQ : ∀ r s, Q r s → Q' r s) : Yields L P' p Q' :=
  fun s r s' hs hr => hQ r s' (h s r s' (hP s hs) hr)

/-- A run of two programs in sequence is a run of the first and one of the second, or
ends with an error of the first. -/
theorem Ran.bind_inv {r : Except E β} (p : Prog S α) :
    ∀ s, Ran L (p.bind f) s r s' →
      (∃ a s1, Ran L p s (.ok a) s1 ∧ Ran L (f a) s1 r s') ∨
      ∃ e, Ran L p s (.error e) s' ∧ r = .error e := by
  induction p with
  | done x =>
    intro s h
    cases x with
    | ok a =>
      rw [Prog.bind_ok] at h
      exact .inl ⟨a, s, .done _ _, h⟩
    | error e =>
      rw [Prog.bind_error] at h
      cases h
      exact .inr ⟨e, .done _ _, rfl⟩
  | tx t k ih =>
    intro s h
    rw [Prog.bind_tx] at h
    cases h with
    | commit hx h =>
      rcases ih _ _ h with ⟨a, s2, h1, h2⟩ | ⟨e, h1, he⟩
      · exact .inl ⟨a, s2, .commit hx h1, h2⟩
      · exact .inr ⟨e, .commit hx h1, he⟩
    | refuse ht h =>
      rcases ih _ _ h with ⟨a, s2, h1, h2⟩ | ⟨e, h1, he⟩
      · exact .inl ⟨a, s2, .refuse ht h1, h2⟩
      · exact .inr ⟨e, .refuse ht h1, he⟩
  | call c k ih =>
    intro s h
    rw [Prog.bind_call] at h
    cases h with
    | answer hc h =>
      rcases ih _ _ h with ⟨a, s2, h1, h2⟩ | ⟨e, h1, he⟩
      · exact .inl ⟨a, s2, .answer hc h1, h2⟩
      · exact .inr ⟨e, .answer hc h1, he⟩

theorem yields_bind {M : α → σ → Prop} (hp : Yields L P p fun r s => ∀ a, r = .ok a → M a s)
    (hf : ∀ a, Yields L (M a) (f a) Q)
    (herr : Yields L P p fun r s => ∀ e, r = .error e → Q (.error e) s) :
    Yields L P (p.bind f) Q := by
  intro s r s' hs hr
  rcases Ran.bind_inv p s hr with ⟨a, s1, h1, h2⟩ | ⟨e, h1, rfl⟩
  · exact hf a s1 r s' (hp s _ s1 hs h1 a rfl) h2
  · exact herr s _ s' hs h1 e rfl

theorem yields_ask_bind {f : S.Resp c → Prog S β} (hP : ∀ s, P s → P' (S.onCall c s))
    (hf : ∀ x, L.answers c x → Yields L P' (f x) Q) : Yields L P ((Prog.ask c).bind f) Q :=
  yields_bind (M := fun x s => P' s ∧ L.answers c x)
    (yields_ask fun s _ hs hx _ ha => Except.ok.inj ha ▸ ⟨hP s hs, hx⟩)
    (fun x s r s' hs hr => hf x hs.2 s r s' hs.1 hr)
    (yields_ask fun _ _ _ _ _ he => nomatch he)

theorem yields_run_bind {f : S.Ret t → Prog S β} {M : S.Ret t → σ → Prop}
    (hok : ∀ s s' x, P s → S.exec t s = .ok (s', x) → M x s')
    (hf : ∀ x, Yields L (M x) (f x) Q) (herr : ∀ s e, P s → Q (.error e) s) :
    Yields L P ((Prog.run t).bind f) Q :=
  yields_bind (yields_run (fun s s' x hs hx _ ha => Except.ok.inj ha ▸ hok s s' x hs hx)
      fun _ _ _ _ _ ha => nomatch ha) hf
    (yields_run (fun _ _ _ _ _ _ he => nomatch he)
      fun s e hs _ _ he => Except.error.inj he ▸ herr s e hs)

theorem Ran.attempt_inv {r : Except E (Except E α)} (p : Prog S α) :
    ∀ s, Ran L p.attempt s r s' → ∃ r', r = .ok r' ∧ Ran L p s r' s' := by
  induction p with
  | done x =>
    intro s h
    cases h
    exact ⟨x, rfl, .done _ _⟩
  | tx t k ih =>
    intro s h
    cases h with
    | commit hx h =>
      obtain ⟨r', hr, h'⟩ := ih _ _ h
      exact ⟨r', hr, .commit hx h'⟩
    | refuse ht h =>
      obtain ⟨r', hr, h'⟩ := ih _ _ h
      exact ⟨r', hr, .refuse ht h'⟩
  | call c k ih =>
    intro s h
    cases h with
    | answer hc h =>
      obtain ⟨r', hr, h'⟩ := ih _ _ h
      exact ⟨r', hr, .answer hc h'⟩

theorem Ran.ignore_inv (h : Ran L p.ignore s r s') : r = .ok () ∧ ∃ r', Ran L p s r' s' := by
  rcases Ran.bind_inv _ s h with ⟨a, s1, h1, h2⟩ | ⟨e, h1, -⟩
  · obtain ⟨r', -, h'⟩ := Ran.attempt_inv p s h1
    cases h2
    exact ⟨rfl, r', h'⟩
  · obtain ⟨r', he, -⟩ := Ran.attempt_inv p s h1
    cases he

/-- Whatever the program returned, the state is what counts. -/
theorem yields_ignore {Q : σ → Prop} (h : Yields L P p fun _ s => Q s) :
    Yields L P p.ignore fun _ s => Q s := by
  intro s r s' hs hr
  obtain ⟨-, r', h'⟩ := hr.ignore_inv
  exact h s r' s' hs h'

/-- What follows runs whatever became of the first program. -/
theorem yields_ignore_bind {M : σ → Prop} {f : Unit → Prog S β}
    (hp : Yields L P p fun _ s => M s) (hf : Yields L M (f ()) Q) :
    Yields L P (p.ignore.bind f) Q := by
  refine yields_bind (fun s r s' hs hr _ _ => yields_ignore hp s r s' hs hr)
    (fun _ => hf) fun s r s' hs hr e he => ?_
  exact nomatch (hr.ignore_inv.1.symm.trans he)

/-! ### Invariants -/

/-- The program leaves `J` true. -/
def Keeps (L : Limits S) (J : σ → Prop) (p : Prog S α) : Prop := Yields L J p fun _ s => J s

variable {J : σ → Prop}

theorem keeps_done {r : Except E α} : Keeps L J (.done r : Prog S α) := yields_done fun _ h => h

theorem keeps_run (h : ∀ s s' x, J s → S.exec t s = .ok (s', x) → J s') : Keeps L J (Prog.run t) :=
  yields_run h fun _ _ hs _ => hs

theorem keeps_ask (h : ∀ s, J s → J (S.onCall c s)) : Keeps L J (Prog.ask c) :=
  yields_ask fun s _ hs _ => h s hs

theorem keeps_bind (hp : Keeps L J p) (hf : ∀ a, Keeps L J (f a)) : Keeps L J (p.bind f) :=
  yields_bind (fun s r s' hs hr _ _ => hp s r s' hs hr) hf
    fun s r s' hs hr _ _ => hp s r s' hs hr

theorem keeps_ignore (hp : Keeps L J p) : Keeps L J p.ignore := yields_ignore hp

/-! ## Taking turns -/

/-- The states reached by handlers that take turns. -/
inductive Turns (L : Limits S) (Entry : Prog S Unit → Prop) (s : σ) : σ → Prop where
  | init : Turns L Entry s s
  | turn {s₁ s₂ : σ} {p : Prog S Unit} {r : Except E Unit} (h : Turns L Entry s s₁)
      (hp : Entry p) (hr : Ran L p s₁ r s₂) : Turns L Entry s s₂

variable {Entry : Prog S Unit → Prop}

/-- What every handler keeps holds in every state they reach. -/
theorem turns_invariant (hentry : ∀ p, Entry p → Keeps L J p) (hs : J s) (h : Turns L Entry s s') :
    J s' := by
  induction h with
  | init => exact hs
  | turn _ hp hr ih => exact hentry _ hp _ _ _ ih hr

/-- A thread of a world can be run to its end while the others wait. -/
theorem Ran.thread (hC : ∀ s t, C s t) {s0 : σ} {p : Prog S Unit} (h : Ran L p s r s') :
    ∀ {ps : List (Prog S Unit)} {i : Nat}, ps[i]? = some p → Reachable Entry C s0 ⟨s, ps⟩ →
      ∃ ps', Reachable Entry C s0 ⟨s', ps'⟩ := by
  have hset : ∀ {ps : List (Prog S Unit)} {i : Nat} {q : Prog S Unit} q',
      ps[i]? = some q → (ps.set i q')[i]? = some q' := by
    intro ps i q q' hi
    have hlt : i < ps.length := (List.getElem?_eq_some_iff.mp hi).1
    exact List.getElem?_set_self hlt
  induction h with
  | done => exact fun _ hw => ⟨_, hw⟩
  | @commit t k s s1 _ x r hx _ ih =>
    intro ps i hi hw
    exact ih (hset _ hi) (.tail hw (.commit i t k s1 x hi (hC _ _) hx))
  | @refuse t k s _ e r _ _ ih =>
    intro ps i hi hw
    exact ih (hset _ hi) (.tail hw (.abort i t k e hi))
  | @answer c k s _ x r _ _ ih =>
    intro ps i hi hw
    exact ih (hset _ hi) (.tail hw (.answer i c k x hi))

/-- **Taking turns is one of the interleavings.** -/
theorem Turns.reachable (hC : ∀ s t, C s t) (h : Turns L Entry s s') :
    ∃ ps, Reachable Entry C s ⟨s', ps⟩ := by
  induction h with
  | init => exact ⟨[], .init⟩
  | @turn _ _ p r _ hp hr ih =>
    obtain ⟨ps, hw⟩ := ih
    have hi : (ps ++ [p])[ps.length]? = some p := by simp
    exact hr.thread hC hi (.tail hw (.spawn p hp))

end Interleave
