import ApiGateway.Lib.Table

/-!
# Threads with a state of their own

Any number of threads over one shared state. What a thread has read and not written yet is its
local state; so is an open database transaction, since its writes are nobody's business before it
commits. A thread takes one step at a time, in any order, with an input of the environment. `G`
says which steps are allowed; a thread that waits for a lock is not allowed to move.

`Outline` is the proof method of Owicki and Gries, except that two threads are also compared with
each other, so that it can be said that no two of them are at the same place at once.
-/

namespace Threads

open List Option

variable {σ L ι : Type}

structure World (σ L : Type) where
  shared : σ
  threads : List L

/-- A thread starts, or thread `i` takes a step with input `x`. -/
inductive Step (step : ι → L → σ → Option (L × σ)) (Start : L → Prop)
    (G : World σ L → Nat → ι → Prop) : World σ L → World σ L → Prop where
  | start {w : World σ L} (l : L) (hl : Start l) :
      Step step Start G w { w with threads := w.threads ++ [l] }
  | move {w : World σ L} (i : Nat) (x : ι) (l l' : L) (s' : σ) (hi : w.threads[i]? = some l)
      (hG : G w i x) (hstep : step x l w.shared = some (l', s')) :
      Step step Start G w ⟨s', w.threads.set i l'⟩

/-- The worlds that are reached from `s`, with no thread at first. -/
inductive Reachable (step : ι → L → σ → Option (L × σ)) (Start : L → Prop)
    (G : World σ L → Nat → ι → Prop) (s : σ) : World σ L → Prop where
  | init : Reachable step Start G s ⟨s, []⟩
  | tail {w w' : World σ L} : Reachable step Start G s w → Step step Start G w w' →
      Reachable step Start G s w'

variable {step : ι → L → σ → Option (L × σ)} {Start : L → Prop} {G : World σ L → Nat → ι → Prop}
  {s : σ} {w : World σ L}

/-! ## Invariants -/

/-- What is kept: about the shared state, about a thread where it stands, and about any two
threads. -/
structure Outline (σ L : Type) where
  inv : σ → Prop
  here : L → σ → Prop
  beside : L → L → Prop

structure Outline.Holds (o : Outline σ L) (w : World σ L) : Prop where
  inv : o.inv w.shared
  here : ∀ (i : Nat) l, w.threads[i]? = some l → o.here l w.shared
  beside : ∀ (i j : Nat) l l', i ≠ j → w.threads[i]? = some l → w.threads[j]? = some l' →
    o.beside l l'

/-- What a step of thread `i` has to leave behind. -/
structure Outline.Keeps (o : Outline σ L) (w : World σ L) (i : Nat) (l' : L) (s' : σ) : Prop where
  inv : o.inv s'
  here : o.here l' s'
  others : ∀ (j : Nat) l₂, j ≠ i → w.threads[j]? = some l₂ →
    o.here l₂ s' ∧ o.beside l' l₂ ∧ o.beside l₂ l'

variable {o : Outline σ L} {l : L}

theorem Outline.Holds.start (h : o.Holds w) (hhere : o.here l w.shared)
    (hbeside : ∀ l2, l2 ∈ w.threads → o.beside l l2 ∧ o.beside l2 l) :
    o.Holds { w with threads := w.threads ++ [l] } := by
  refine ⟨h.inv, ?_, ?_⟩
  · intro i l1 hi
    rcases Table.getElem?_append_singleton_some hi with hold | ⟨-, rfl⟩
    · exact h.here i l1 hold
    · exact hhere
  intro i j l1 l2 hij hi hj
  rcases Table.getElem?_append_singleton_some hi with hold | ⟨hi', rfl⟩
  · rcases Table.getElem?_append_singleton_some hj with hold' | ⟨-, rfl⟩
    · exact h.beside i j l1 l2 hij hold hold'
    · exact (hbeside l1 (mem_of_getElem? hold)).2
  · rcases Table.getElem?_append_singleton_some hj with hold' | ⟨hj', -⟩
    · exact (hbeside l2 (mem_of_getElem? hold')).1
    · exact absurd (hi'.trans hj'.symm) hij

theorem Outline.Holds.move (h : o.Holds w) {i : Nat} {l' : L} {s' : σ} (hkeeps : o.Keeps w i l' s') :
    o.Holds ⟨s', w.threads.set i l'⟩ := by
  have hcases : ∀ j l1, (w.threads.set i l')[j]? = some l1 →
      (j ≠ i ∧ w.threads[j]? = some l1) ∨ (j = i ∧ l1 = l') := by
    intro j l1 hj
    by_cases hji : j = i
    · subst hji
      rw [getElem?_set_self'] at hj
      obtain ⟨-, -, rfl⟩ := map_eq_some_iff.mp hj
      exact .inr ⟨rfl, rfl⟩
    · rw [getElem?_set_ne (Ne.symm hji)] at hj
      exact .inl ⟨hji, hj⟩
  refine ⟨hkeeps.inv, ?_, ?_⟩
  · intro j l1 hj
    rcases hcases j l1 hj with ⟨hne, hold⟩ | ⟨-, rfl⟩
    · exact (hkeeps.others j l1 hne hold).1
    · exact hkeeps.here
  intro j k l1 l2 hjk hj hk
  rcases hcases j l1 hj with ⟨hne, hold⟩ | ⟨rfl, rfl⟩
  · rcases hcases k l2 hk with ⟨-, hold'⟩ | ⟨-, rfl⟩
    · exact h.beside j k l1 l2 hjk hold hold'
    · exact (hkeeps.others j l1 hne hold).2.2
  · rcases hcases k l2 hk with ⟨hne', hold'⟩ | ⟨rfl, -⟩
    · exact (hkeeps.others k l2 hne' hold').2.1
    · exact absurd rfl hjk

/-- **Outlines are invariants.** What every start and every allowed step keeps holds in every
world that is reached. -/
theorem Outline.reachable (hinit : o.inv s)
    (hstart : ∀ (w : World σ L) l, o.Holds w → Start l → o.here l w.shared ∧
      ∀ l2, l2 ∈ w.threads → o.beside l l2 ∧ o.beside l2 l)
    (hmove : ∀ (w : World σ L) i x l l' s', o.Holds w → w.threads[i]? = some l → G w i x →
      step x l w.shared = some (l', s') → o.Keeps w i l' s')
    (h : Reachable step Start G s w) : o.Holds w := by
  induction h with
  | init => exact ⟨hinit, fun _ _ hi => absurd hi (by simp), fun _ _ _ _ _ hi => absurd hi (by simp)⟩
  | tail _ hs ih =>
    cases hs with
    | start l hl =>
      obtain ⟨hhere, hbeside⟩ := hstart _ l ih hl
      exact ih.start hhere hbeside
    | move i x l l' s' hi hG hx => exact ih.move (hmove _ i x l l' s' ih hi hG hx)

/-- An invariant of the shared state alone. -/
theorem Reachable.invariant {inv : σ → Prop} (hinit : inv s)
    (hmove : ∀ (w : World σ L) i x l l' s', inv w.shared → w.threads[i]? = some l → G w i x →
      step x l w.shared = some (l', s') → inv s')
    (h : Reachable step Start G s w) : inv w.shared := by
  induction h with
  | init => exact hinit
  | tail _ hs ih =>
    cases hs with
    | start => exact ih
    | move i x l l' s' hi hG hx => exact hmove _ i x l l' s' ih hi hG hx

/-- **Conservation.** What the shared state and the threads have between them stays the same. -/
theorem Reachable.conserved {M : Type} [AddCommGroup M] (held : L → M) (stock : σ → M)
    (hstart : ∀ l, Start l → held l = 0)
    (hmove : ∀ x l s l' s', step x l s = some (l', s') → stock s' + held l' = stock s + held l)
    (h : Reachable step Start G s w) : stock w.shared + (w.threads.map held).sum = stock s := by
  induction h with
  | init => simp
  | @tail w _ _ hs ih =>
    cases hs with
    | start l hl => simpa [hstart l hl] using ih
    | move i x l l' s' hi _ hx =>
      rw [set_eq_modify, Table.sum_map_modify hi, ← ih, add_comm _ (held l'), ← add_assoc,
        hmove x l _ l' s' hx]
      abel

/-! ## Waiting -/

section Waiting

variable {κ : Type} {asks holds : L → Option κ} {i : Nat}

/-- Thread `i` does not ask for what another thread holds. -/
def waits [DecidableEq κ] (asks holds : L → Option κ) (w : World σ L) (i : Nat) : Bool :=
  match w.threads[i]?.bind asks with
  | none => true
  | some k => w.threads.zipIdx.all fun r => r.2 == i || holds r.1 != some k

theorem waits_free [DecidableEq κ] {k : κ} {l l2 : L} {j : Nat} (h : waits asks holds w i = true)
    (hi : w.threads[i]? = some l) (hk : asks l = some k) (hj : w.threads[j]? = some l2)
    (hij : j ≠ i) : holds l2 ≠ some k := by
  unfold waits at h
  rw [hi, bind_some, hk] at h
  have hmem : (l2, j) ∈ w.threads.zipIdx := mem_zipIdx_iff_getElem?.mpr hj
  have hall := all_eq_true.mp h (l2, j) hmem
  rcases Bool.or_eq_true_iff.mp hall with hji | hne
  · exact absurd (by simpa using hji) hij
  · simpa using hne

/-- Two threads do not hold the same. -/
def Apart (holds : L → Option κ) (l l₂ : L) : Prop :=
  ∀ k, holds l = some k → holds l₂ ≠ some k

theorem Apart.symm {l l2 : L} (h : Apart holds l l2) : Apart holds l2 l :=
  fun k h2 h1 => h k h1 h2

/-- A thread that held nothing new, or asked for it, is still apart from the others. -/
theorem Apart.move [DecidableEq κ] {l l' l2 : L} {j : Nat} (h : Apart holds l l2)
    (hwaits : waits asks holds w i = true) (hi : w.threads[i]? = some l)
    (hj : w.threads[j]? = some l2) (hij : j ≠ i)
    (hnew : ∀ k, holds l' = some k → holds l = some k ∨ asks l = some k) :
    Apart holds l' l2 := by
  intro k hk
  rcases hnew k hk with hold | hask
  · exact h k hold
  · exact waits_free hwaits hi hask hj hij

end Waiting

/-! ## Rows that are read before they are written -/

section Rows

variable {κ ρ : Type}

/-- A thread reads a row, goes on only if it is `fresh`, and then may write that row and no other.
What a write does has to be known only where the row that was read is still in place. -/
structure RowReads (step : ι → L → σ → Option (L × σ)) (Start : L → Prop) (κ ρ : Type) where
  look : σ → κ → Option ρ
  fresh : ρ → Prop
  /-- The row a thread has read, while it works with it. -/
  opened : L → Option (κ × ρ)
  /-- The row a thread reads next. -/
  reads : L → Option κ
  start_closed : ∀ l, Start l → opened l = none
  opens : ∀ {x l s l' s' k r}, step x l s = some (l', s') → opened l' = some (k, r) →
    opened l = some (k, r) ∨ (reads l = some k ∧ look s k = some r ∧ fresh r)
  writes : ∀ {x l s l' s'}, step x l s = some (l', s') →
    (∀ k r, opened l = some (k, r) → look s k = some r) →
    ∀ k, look s' k = look s k ∨ (opened l' = none ∧ ∃ r, opened l = some (k, r))

namespace RowReads

variable (R : RowReads step Start κ ρ)

def openKey (l : L) : Option κ := (R.opened l).map Prod.fst

variable {R} in
theorem openKey_of_opened {k : κ} {r : ρ} (h : R.opened l = some (k, r)) :
    R.openKey l = some k := by
  rw [openKey, h, map_some]

/-- What was read is still there, and nobody else has read it. -/
def outline : Outline σ L where
  inv _ := True
  here l s := ∀ k r, R.opened l = some (k, r) → R.look s k = some r ∧ R.fresh r
  beside := Apart R.openKey

/-- **Reads are stable**, if nobody reads a row that another thread has open. -/
theorem stable [DecidableEq κ]
    (hG : ∀ w i x, G w i x → waits R.reads R.openKey w i = true)
    (h : Reachable step Start G s w) : R.outline.Holds w := by
  refine Outline.reachable trivial ?_ ?_ h
  · intro w l _ hl
    have hclosed := R.start_closed l hl
    have hapart : ∀ l2, Apart R.openKey l l2 := by
      intro l2 k hk
      rw [openKey, hclosed] at hk
      cases hk
    refine ⟨?_, fun l2 _ => ⟨hapart l2, (hapart l2).symm⟩⟩
    intro k r hk
    rw [hclosed] at hk
    cases hk
  intro w i x l l' s' hw hi hGi hx
  have hplace : ∀ k r, R.opened l = some (k, r) → R.look w.shared k = some r :=
    fun k r hk => (hw.here i l hi k r hk).1
  have hnew : ∀ k, R.openKey l' = some k → R.openKey l = some k ∨ R.reads l = some k := by
    intro k hk
    obtain ⟨⟨k', r⟩, hopen, rfl⟩ := map_eq_some_iff.mp hk
    rcases R.opens hx hopen with hold | ⟨hread, -⟩
    · exact .inl (openKey_of_opened hold)
    · exact .inr hread
  refine ⟨trivial, ?_, ?_⟩
  · intro k r hk
    have hsame : R.look s' k = R.look w.shared k := by
      rcases R.writes hx hplace k with hsame | ⟨hnone, -⟩
      · exact hsame
      · exact nomatch (hk.symm.trans hnone)
    rw [hsame]
    rcases R.opens hx hk with hold | ⟨-, hrow⟩
    · exact hw.here i l hi k r hold
    · exact hrow
  intro j l2 hj hget
  have hbeside := hw.beside i j l l2 (Ne.symm hj) hi hget
  have hapart := hbeside.move (hG w i x hGi) hi hget hj hnew
  refine ⟨?_, hapart, hapart.symm⟩
  intro k r hk
  -- a row that the moving thread writes is one that `l2` has not read
  have hsame : R.look s' k = R.look w.shared k := by
    rcases R.writes hx hplace k with hsame | ⟨-, r', hr'⟩
    · exact hsame
    · exact absurd (openKey_of_opened hk) (hbeside k (openKey_of_opened hr'))
  rw [hsame]
  exact hw.here j l2 hget k r hk

end RowReads

/-- A log of the rows that a thread has used up. -/
structure OnceLog (step : ι → L → σ → Option (L × σ)) (Start : L → Prop) (κ ρ : Type)
    extends RowReads step Start κ ρ where
  log : σ → List κ
  spent : ρ → Prop
  not_fresh : ∀ r, spent r → ¬ fresh r
  logs : ∀ {x l s l' s'}, step x l s = some (l', s') →
    (∀ k r, opened l = some (k, r) → look s k = some r) → log s' = log s ∨
      ∃ k r r', opened l = some (k, r) ∧ log s' = log s ++ [k] ∧ look s' k = some r' ∧ spent r'

/-- **A row is used up once.** -/
theorem OnceLog.once [DecidableEq κ] (O : OnceLog step Start κ ρ)
    (hG : ∀ w i x, G w i x → waits O.reads O.openKey w i = true) (hs : O.log s = [])
    (h : Reachable step Start G s w) :
    (O.log w.shared).Nodup ∧ ∀ k ∈ O.log w.shared, ∃ r, O.look w.shared k = some r ∧ O.spent r := by
  induction h with
  | init => simp [hs]
  | @tail w _ hreach hmove ih =>
    cases hmove with
    | start => exact ih
    | move i x l _ s' hi _ hx =>
      have hstable := (O.stable hG hreach).here i l hi
      have hplace : ∀ k r, O.opened l = some (k, r) → O.look w.shared k = some r :=
        fun k r hk => (hstable k r hk).1
      -- a spent row is not open, so it stays as it is
      have hkept : ∀ k ∈ O.log w.shared, ∃ r, O.look s' k = some r ∧ O.spent r := by
        intro k hk
        obtain ⟨r, hr, hspent⟩ := ih.2 k hk
        rcases O.writes hx hplace k with hsame | ⟨-, r', hopen⟩
        · exact ⟨r, hsame.trans hr, hspent⟩
        · obtain ⟨hr', hfresh⟩ := hstable k r' hopen
          obtain rfl := mem_unique hr hr'
          exact absurd hfresh (O.not_fresh r hspent)
      rcases O.logs hx hplace with hlog | ⟨k, r, r', hopen, hlog, hr', hspent⟩
      · rw [hlog]
        exact ⟨ih.1, hkept⟩
      rw [hlog]
      refine ⟨?_, ?_⟩
      · rw [← concat_eq_append, nodup_concat]
        refine ⟨?_, ih.1⟩
        intro hmem
        obtain ⟨r1, hr1, hspent1⟩ := ih.2 k hmem
        obtain ⟨hr, hfresh⟩ := hstable k r hopen
        obtain rfl := mem_unique hr hr1
        exact absurd hfresh (O.not_fresh r hspent1)
      · intro k' hk'
        rcases mem_append.mp hk' with hk' | hk'
        · exact hkept k' hk'
        · obtain rfl := mem_singleton.mp hk'
          exact ⟨r', hr', hspent⟩

end Rows

/-! ## Schedules -/

/-- One entry of a schedule. -/
inductive Event (L ι : Type) where
  | start (l : L)
  | move (i : Nat) (x : ι)

def World.next (step : ι → L → σ → Option (L × σ)) (g : World σ L → Nat → ι → Bool)
    (w : World σ L) : Event L ι → Option (World σ L)
  | .start l => some { w with threads := w.threads ++ [l] }
  | .move i x =>
    match w.threads[i]? with
    | none => none
    | some l =>
      if g w i x then (step x l w.shared).map fun out => ⟨out.2, w.threads.set i out.1⟩
      else none

/-- The world at the end of a schedule, if every entry of it is possible. -/
def World.play (step : ι → L → σ → Option (L × σ)) (g : World σ L → Nat → ι → Bool) :
    World σ L → List (Event L ι) → Option (World σ L)
  | w, [] => some w
  | w, e :: es => (w.next step g e).bind fun w' => w'.play step g es

variable {g : World σ L → Nat → ι → Bool}

theorem World.next_step {w w' : World σ L} {e : Event L ι} (hG : ∀ w i x, g w i x = true → G w i x)
    (hS : ∀ l, e = .start l → Start l) (h : w.next step g e = some w') :
    Step step Start G w w' := by
  cases e with
  | start l =>
    obtain rfl := some.inj h
    exact .start l (hS l rfl)
  | move i x =>
    simp only [World.next] at h
    split at h
    · cases h
    rename_i l hi
    split at h
    · rename_i hg
      obtain ⟨⟨l', s'⟩, hx, rfl⟩ := map_eq_some_iff.mp h
      exact .move i x l l' s' hi (hG w i x hg) hx
    · cases h

theorem World.play_reachable (hG : ∀ w i x, g w i x = true → G w i x) :
    ∀ {es : List (Event L ι)} {w w' : World σ L}, Reachable step Start G s w →
      (∀ l, Event.start l ∈ es → Start l) → w.play step g es = some w' →
      Reachable step Start G s w'
  | [], w, w', hw, _, h => by
      obtain rfl := some.inj h
      exact hw
  | e :: es, w, w', hw, hS, h => by
      obtain ⟨w1, h1, h2⟩ := bind_eq_some_iff.mp h
      have hs : Step step Start G w w1 :=
        World.next_step hG (fun l hl => hS l (hl ▸ mem_cons_self)) h1
      exact World.play_reachable hG (.tail hw hs) (fun l hl => hS l (mem_cons_of_mem _ hl)) h2

/-- A computed schedule: what holds of its last world holds of a world that is reached. -/
theorem exists_reachable (es : List (Event L ι)) {q : World σ L → Prop} [DecidablePred q]
    (hG : ∀ w i x, g w i x = true → G w i x) (hS : ∀ l, Event.start l ∈ es → Start l)
    (h : ((⟨s, []⟩ : World σ L).play step g es).any q = true) :
    ∃ w, Reachable step Start G s w ∧ q w := by
  cases hp : (⟨s, []⟩ : World σ L).play step g es with
  | none =>
    rw [hp] at h
    cases h
  | some w =>
    rw [hp] at h
    exact ⟨w, World.play_reachable hG .init hS hp, of_decide_eq_true h⟩

end Threads
