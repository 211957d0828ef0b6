import ApiGateway.Lib.Interleave

/-!
# Permits

Whoever wins a compare-and-set may do the work that goes with it, once. Such a permit belongs to
the program that earned it, so no assertion about the shared state alone can say who has one; it is
counted instead. `Affords π p n` says that a program which holds `n` permits never uses one it does
not have, and `spent_le_granted` adds up the programs of a world.
-/

namespace Interleave

variable {σ E : Type} {S : System σ E} {α β : Type}
variable {p : Prog S α} {n : Nat} {f : α → Prog S β} {t : S.Tx} {ps : List (Prog S Unit)}

/-- How many permits a transaction uses up, and how many it hands out. -/
structure Permits (S : System σ E) where
  spends : S.Tx → Nat
  grants : (t : S.Tx) → S.Ret t → Nat

variable {π : Permits S}

/-- A program that holds `n` permits never uses one it does not have, and leaves `Q` with
the permits it did not use. -/
def affords (π : Permits S) : Prog S α → (Except E α → Nat → Prop) → Nat → Prop
  | .done r, Q, n => Q r n
  | .tx t k, Q, n => π.spends t ≤ n ∧
      (∀ s s' r, S.exec t s = .ok (s', r) →
        affords π (k (.ok r)) Q (n - π.spends t + π.grants t r)) ∧
      ∀ e, affords π (k (.error e)) Q n
  | .call _ k, Q, n => ∀ r, affords π (k r) Q n

/-- A program that holds `n` permits never uses one it does not have. -/
def Affords (π : Permits S) (p : Prog S α) (n : Nat) : Prop := affords π p (fun _ _ => True) n

theorem affords_mono {Q Q' : Except E α → Nat → Prop} :
    ∀ {n m}, n ≤ m → (∀ r i j, i ≤ j → Q r i → Q' r j) → affords π p Q n → affords π p Q' m := by
  induction p with
  | done r =>
    intro n m hnm hQ h
    exact hQ r n m hnm h
  | tx t k ih =>
    intro n m hnm hQ h
    obtain ⟨hle, hok, herr⟩ := h
    refine ⟨Nat.le_trans hle hnm, fun s s' r hx => ?_, fun e => ih _ hnm hQ (herr e)⟩
    have hleft : n - π.spends t + π.grants t r ≤ m - π.spends t + π.grants t r := by omega
    exact ih _ hleft hQ (hok s s' r hx)
  | call c k ih =>
    intro n m hnm hQ h
    exact fun r => ih r hnm hQ (h r)

theorem Affords.mono {m : Nat} (h : Affords π p n) (hnm : n ≤ m) : Affords π p m :=
  affords_mono hnm (fun _ _ _ _ _ => trivial) h

theorem affords_bind {Q : Except E β → Nat → Prop} :
    ∀ n, affords π p (fun r m => match r with
        | .ok a => affords π (f a) Q m
        | .error e => Q (.error e) m) n → affords π (p.bind f) Q n := by
  induction p with
  | done r =>
    intro n h
    cases r with
    | ok =>
      rw [Prog.bind_ok]
      exact h
    | error =>
      rw [Prog.bind_error]
      exact h
  | tx t k ih =>
    intro n h
    obtain ⟨hle, hok, herr⟩ := h
    rw [Prog.bind_tx]
    exact ⟨hle, fun s s' r hx => ih _ _ (hok s s' r hx), fun e => ih _ _ (herr e)⟩
  | call c k ih =>
    intro n h
    rw [Prog.bind_call]
    exact fun r => ih r _ (h r)

theorem affords_attempt {Q : Except E (Except E α) → Nat → Prop} :
    ∀ n, affords π p (fun r m => Q (.ok r) m) n → affords π p.attempt Q n := by
  induction p with
  | done => exact fun n h => h
  | tx t k ih =>
    intro n h
    obtain ⟨hle, hok, herr⟩ := h
    exact ⟨hle, fun s s' r hx => ih _ _ (hok s s' r hx), fun e => ih _ _ (herr e)⟩
  | call c k ih => exact fun n h r => ih r _ (h r)

/-! ## Rules for programs -/

theorem affords_done {r : Except E α} (n : Nat) : Affords π (.done r : Prog S α) n := trivial

theorem affords_run (h : π.spends t ≤ n) : Affords π (Prog.run t) n :=
  ⟨h, fun _ _ _ _ => trivial, fun _ => trivial⟩

/-- The rest of a program holds at least what the whole was given, as long as the first
part uses nothing up. -/
theorem Affords.bind (hp : Affords π p 0) (hf : ∀ a, Affords π (f a) n) :
    Affords π (p.bind f) n := by
  refine affords_bind n ?_
  -- what `p` can do with nothing it can do with `n`, and then `n` are left
  have hleft : ∀ (q : Prog S α) i, affords π q (fun _ _ => True) i →
      affords π q (fun _ m => n ≤ m) (i + n) := by
    intro q
    induction q with
    | done => exact fun i _ => Nat.le_add_left n i
    | tx t k ih =>
      intro i h
      obtain ⟨hle, hok, herr⟩ := h
      refine ⟨by omega, fun s s' r hx => ?_, fun e => ih _ i (herr e)⟩
      have hr := ih _ _ (hok s s' r hx)
      rwa [show i + n - π.spends t + π.grants t r = i - π.spends t + π.grants t r + n by omega]
    | call c k ih => exact fun i h r => ih r i (h r)
  have h := hleft p 0 hp
  rw [Nat.zero_add] at h
  refine affords_mono (Nat.le_refl _) ?_ h
  intro r i j hij hi
  cases r with
  | ok a => exact (hf a).mono (Nat.le_trans hi hij)
  | error => trivial

/-- What a transaction hands out, the rest of the program may use. -/
theorem affords_run_bind {f : S.Ret t → Prog S β} (h : π.spends t = 0)
    (hf : ∀ s s' r, S.exec t s = .ok (s', r) → Affords π (f r) (n + π.grants t r)) :
    Affords π ((Prog.run t).bind f) n := by
  refine affords_bind n ⟨h ▸ Nat.zero_le n, fun s s' r hx => ?_, fun _ => trivial⟩
  rw [h]
  exact hf s s' r hx

theorem affords_ask_bind {c : S.Call} {f : S.Resp c → Prog S β} (hf : ∀ r, Affords π (f r) n) :
    Affords π ((Prog.ask c).bind f) n :=
  affords_bind n fun r => hf r

theorem Affords.ignore (hp : Affords π p n) : Affords π p.ignore n := by
  refine affords_bind n (affords_attempt n ?_)
  exact affords_mono (Nat.le_refl _) (fun _ _ _ _ _ => trivial) hp

theorem affords_forEach {f : β → Prog S Unit} {bs : List β}
    (h : ∀ b ∈ bs, Affords π (f b) 0) : Affords π (Prog.forEach bs f) 0 := by
  induction bs with
  | nil => exact affords_done 0
  | cons b _ ih =>
    exact (h b List.mem_cons_self).bind fun _ =>
      ih fun b' hb' => h b' (List.mem_cons_of_mem _ hb')

/-! ## Worlds -/

/-- The programs can be given their share of `n` permits. -/
inductive Funded (π : Permits S) : List (Prog S Unit) → Nat → Prop where
  | nil : Funded π [] 0
  | cons {p : Prog S Unit} {ps : List (Prog S Unit)} {n m : Nat} (hp : Affords π p n)
      (hps : Funded π ps m) : Funded π (p :: ps) (n + m)

theorem Funded.append (h : Funded π ps n) {p : Prog S Unit} (hp : Affords π p 0) :
    Funded π (ps ++ [p]) n := by
  induction h with
  | nil => exact .cons hp .nil
  | cons hq _ ih => exact .cons hq ih

/-- Take one program out, with its share, and put another in its place. -/
theorem Funded.replace (h : Funded π ps n) :
    ∀ {i : Nat} {p : Prog S Unit}, ps[i]? = some p → ∃ a b, n = a + b ∧ Affords π p a ∧
      ∀ q c, Affords π q c → Funded π (ps.set i q) (c + b) := by
  induction h with
  | nil =>
    intro i p hi
    cases hi
  | @cons p' _ a m hp hps ih =>
    intro i p hi
    cases i with
    | zero =>
      obtain rfl : p' = p := by simpa using hi
      exact ⟨a, m, rfl, hp, fun q c hq => .cons hq hps⟩
    | succ =>
      obtain ⟨b, m', hm, hb, hset⟩ := ih (by simpa using hi)
      refine ⟨b, a + m', by omega, hb, fun q c hq => ?_⟩
      have h' := Funded.cons hp (hset q c hq)
      rwa [show a + (c + m') = c + (a + m') by omega] at h'

variable {Entry : Prog S Unit → Prop} {C : σ → S.Tx → Prop}

/-- **No more permits are used than were handed out**, along every interleaving of
handlers that start without any. -/
theorem spent_le_granted {spent granted : σ → Nat} (hentry : ∀ p, Entry p → Affords π p 0)
    (hspent : ∀ s t s' r, S.exec t s = .ok (s', r) → spent s' = spent s + π.spends t)
    (hgranted : ∀ s t s' r, S.exec t s = .ok (s', r) → granted s' = granted s + π.grants t r)
    (hcall : ∀ s c, spent (S.onCall c s) = spent s ∧ granted (S.onCall c s) = granted s)
    {s : σ} {w : World S} (hs : spent s ≤ granted s) (h : Reachable Entry C s w) :
    spent w.state ≤ granted w.state := by
  -- the permits that are neither used nor lost are shared out among the threads
  suffices hfund : ∃ n, Funded π w.threads n ∧ spent w.state + n ≤ granted w.state by
    omega
  induction h with
  | init => exact ⟨0, .nil, hs⟩
  | @tail w _ _ hstep ih =>
    obtain ⟨n, hfund, hn⟩ := ih
    cases hstep with
    | spawn p hp => exact ⟨n, hfund.append (hentry p hp), hn⟩
    | commit i t k s' r hi _ hx =>
      obtain ⟨a, b, rfl, ha, hset⟩ := hfund.replace hi
      obtain ⟨hle, hok, -⟩ := ha
      refine ⟨_, hset _ _ (hok _ s' r hx), ?_⟩
      have h1 := hspent _ t s' r hx
      have h2 := hgranted _ t s' r hx
      dsimp only
      omega
    | abort i t k e hi =>
      obtain ⟨a, b, rfl, ha, hset⟩ := hfund.replace hi
      exact ⟨_, hset _ _ (ha.2.2 e), hn⟩
    | answer i c k r hi =>
      obtain ⟨a, b, rfl, ha, hset⟩ := hfund.replace hi
      obtain ⟨h1, h2⟩ := hcall w.state c
      refine ⟨_, hset _ _ (ha r), ?_⟩
      dsimp only
      omega

end Interleave
