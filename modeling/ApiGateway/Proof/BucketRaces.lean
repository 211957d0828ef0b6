import ApiGateway.Proof.BucketLedger
import ApiGateway.Service.BucketSystem

/-!
# Recalculations that race with applications

An application locks its bucket. A recalculation does not, and it saves the whole row as it has
read it, so an application that has committed in the meantime is forgotten. The same goes for a
failure that is written down over an application which has succeeded since it was read. These are
the only two ways for the books to go wrong.
-/

namespace ApiGateway

open Table Interleave List BucketTx Locks Option BucketProg

variable {cfg : Config} {s s' s'' : BucketState} {b : Nat}
variable {bucket row : QiniuBillingBucket} {store : Store} {bucketId ticket : Nat}
  {existing : Option (Nat × QiniuBillingBucketApplication)} {source : QiniuBillingOperationSource}
variable {r : Recalculation} {id tokenId : Nat} {t : BucketTx} {token : Token}

/-- What the statement is about to overwrite is still what was read: the applied delta and the
version, and no success by a failure. -/
def BucketTx.UpToDate (s : BucketState) : BucketTx → Prop
  | .saveBucket r => ∀ e ∈ r.read, ∃ row ∈ s.store.billingBuckets[e.1]?,
      row.appliedDeltaQuota = e.2.appliedDeltaQuota ∧ row.applyVersion = e.2.applyVersion
  | .writeFailedApplication _ _ existing _ => ∀ e ∈ existing,
      ∃ a ∈ s.store.bucketApplications[e.1]?, a.status = .success → e.2.status = .success
  | _ => True

instance BucketTx.decidableUpToDate (s : BucketState) (t : BucketTx) : Decidable (t.UpToDate s) := by
  cases t <;> dsimp only [BucketTx.UpToDate] <;> infer_instance

/-! ## What a program relies on -/

structure RaceInv (s : BucketState) : Prop where
  books : ∀ b, BucketInv b s.store
  /-- Only rows that exist are locked. -/
  locked : ∀ b t, s.locks.holder b = some t → ∃ row, s.store.billingBuckets[b]? = some row

/-- The failed applications of bucket `b` have not succeeded since. -/
def FailedKept (b : Nat) (s s' : Store) : Prop :=
  ∀ (id : Nat) a, s.bucketApplications[id]? = some a → a.bucketId = b → a.status = .failed →
    ∃ a', s'.bucketApplications[id]? = some a' ∧ a'.bucketId = b ∧ a'.status = .failed

theorem FailedKept.refl (b : Nat) (s : Store) : FailedKept b s s :=
  fun _ a ha hb hf => ⟨a, ha, hb, hf⟩

theorem FailedKept.trans {s s' s'' : Store} (h : FailedKept b s s') (h' : FailedKept b s' s'') :
    FailedKept b s s'' := by
  intro id a ha hb hf
  obtain ⟨a', ha', hb', hf'⟩ := h id a ha hb hf
  exact h' id a' ha' hb' hf'

/-- What the other programs may do. -/
structure RaceRely (s s' : BucketState) : Prop where
  /-- A locked bucket stays as it is, and none of its applications succeeds. -/
  guards : s.locks.Guards s'.locks fun b =>
    s'.store.billingBuckets[b]? = s.store.billingBuckets[b]? ∧ FailedKept b s.store s'.store
  /-- A bucket stays with its token. -/
  tokens : ∀ (id : Nat) row, s.store.billingBuckets[id]? = some row →
    ∃ row', s'.store.billingBuckets[id]? = some row' ∧ row'.tokenId = row.tokenId
  users : ∀ t, s'.store.tokenUser t = s.store.tokenUser t
  /-- No successful application is forgotten. -/
  successes : ∀ (id : Nat) a, s.store.bucketApplications[id]? = some a → a.status = .success →
    s'.store.bucketApplications[id]? = some a

theorem RaceRely.refl (s : BucketState) : RaceRely s s where
  guards := .refl fun b => ⟨rfl, .refl b _⟩
  tokens _ row h := ⟨row, h, rfl⟩
  users _ := rfl
  successes _ _ h _ := h

theorem RaceRely.trans (h : RaceRely s s') (h' : RaceRely s' s'') : RaceRely s s'' where
  guards := h.guards.trans h'.guards fun _ hb hb' => ⟨hb'.1.trans hb.1, hb.2.trans hb'.2⟩
  tokens id row hrow := by
    obtain ⟨row', hrow', htok⟩ := h.tokens id row hrow
    obtain ⟨row'', hrow'', htok'⟩ := h'.tokens id row' hrow'
    exact ⟨row'', hrow'', htok'.trans htok⟩
  users t := (h'.users t).trans (h.users t)
  successes id a ha hs := h'.successes id a (h.successes id a ha hs) hs

/-- A statement that writes buckets only, and none that is locked. -/
theorem RaceRely.of_buckets (happs : store.bucketApplications = s.store.bucketApplications)
    (htokens : store.tokens = s.store.tokens)
    (hkept : ∀ b t, s.locks.holder b = some t →
      store.billingBuckets[b]? = s.store.billingBuckets[b]?)
    (hrows : ∀ (id : Nat) row, s.store.billingBuckets[id]? = some row →
      ∃ row', store.billingBuckets[id]? = some row' ∧ row'.tokenId = row.tokenId) :
    RaceRely s { s with store := store } := by
  have hsame : ∀ id : Nat, store.bucketApplications[id]? = s.store.bucketApplications[id]? :=
    fun id => by rw [happs]
  refine ⟨guards_of_sub (Nat.le_refl _) fun b' t hb' => ⟨hb', hkept b' t hb', ?_⟩, hrows,
    fun t => ?_, fun id a hget _ => (hsame id).trans hget⟩
  · exact fun id a hget hbid hfail => ⟨a, (hsame id).trans hget, hbid, hfail⟩
  · rw [Store.tokenUser, Store.tokenUser, htokens]

theorem RaceInv.next (h : RaceInv s) (hr : RaceRely s s') (hbooks : ∀ b, BucketInv b s'.store)
    (hlocks : ∀ b t, s'.locks.holder b = some t → s.locks.holder b = some t) : RaceInv s' := by
  refine ⟨hbooks, fun b t hb => ?_⟩
  obtain ⟨row, hrow⟩ := h.locked b t (hlocks b t hb)
  obtain ⟨row', hrow', -⟩ := hr.tokens b row hrow
  exact ⟨row', hrow'⟩

/-- What a statement needs so that the books stay right, and no more than its program knows. -/
def BucketTx.Owes : BucketTx → BucketState → Prop
  | .writeApplication _ bucketId bucket existing _, s =>
    s.store.billingBuckets[bucketId]? = some bucket ∧
    ∀ id a, existing = some (id, a) → ∃ a', s.store.bucketApplications[id]? = some a' ∧
      a'.bucketId = bucketId ∧ a'.status = .failed
  | .saveBucket r, s =>
    s.store.tokenUser r.tokenId = some r.token.userId ∧
    ∀ id bucket, r.read = some (id, bucket) → bucket.tokenId = some r.tokenId ∧
      ∃ row, s.store.billingBuckets[id]? = some row ∧ row.tokenId = some r.tokenId
  | _, _ => True

/-! ## One statement -/

/-- A statement keeps the invariant and is within what the others rely on. -/
structure RaceStep (s s' : BucketState) : Prop where
  inv : RaceInv s'
  rely : RaceRely s s'

theorem RaceStep.refl (h : RaceInv s) : RaceStep s s := ⟨h, .refl s⟩

theorem unlocked_eq_ok {u : Unit} (h : unlocked s b = .ok u) :
    s.locks.holder b = none := by
  unfold unlocked at h
  simpa using h

theorem read_eq_ok {α : Type} {found : Option α} {e : BucketErr} {a : α}
    (h : ((orFail found e).map fun a => (s, a)) = .ok (s', a)) : found = some a ∧ s' = s := by
  cases found with
  | none => exact nomatch h
  | some =>
    obtain ⟨rfl, rfl⟩ := ok_pair_inj h
    exact ⟨rfl, rfl⟩

theorem saveBucket_eq_ok (h : (saveBucket r).exec cfg s = .ok (s', id)) :
    (∀ id bucket, r.read = some (id, bucket) → s.locks.holder id = none) ∧
    s' = { s with
      store := (saveRecalculatedBucket r.read (r.bucket cfg) r.records s.store).2 } := by
  simp only [exec] at h
  split at h
  · rename_i hread
    simp only [bind_eq_ok] at h
    obtain ⟨-, -, rfl, -⟩ := h
    exact ⟨fun id bucket hr => absurd (hread.symm.trans hr) (by simp), rfl⟩
  rename_i hread
  simp only [bind_eq_ok] at h
  obtain ⟨u, hu, rfl, -⟩ := h
  refine ⟨fun id' bucket' hr => ?_, rfl⟩
  obtain ⟨rfl, -⟩ := some_pair_inj (hread.symm.trans hr)
  exact unlocked_eq_ok hu

theorem RaceStep.lock (h : RaceInv s) (hrow : s.store.billingBuckets[b]? = some row) :
    RaceStep s { s with locks := s.locks.acquire b } := by
  refine ⟨⟨h.books, fun b' t hb' => ?_⟩, ?_, (RaceRely.refl s).tokens, fun _ => rfl,
    fun _ _ ha _ => ha⟩
  · by_cases hbb : b' = b
    · subst hbb
      exact ⟨row, hrow⟩
    · simp only [acquire, Function.update_of_ne hbb] at hb'
      exact h.locked b' t hb'
  · exact guards_acquire b fun b' => ⟨rfl, .refl b' _⟩

theorem RaceStep.release (h : RaceInv s) (ticket : Nat) :
    RaceStep s { s with locks := s.locks.release ticket } := by
  have hr : RaceRely s { s with locks := s.locks.release ticket } := by
    refine ⟨?_, (RaceRely.refl s).tokens, fun _ => rfl, fun _ _ ha _ => ha⟩
    exact guards_release ticket fun b' _ _ _ => ⟨rfl, .refl b' _⟩
  exact ⟨h.next hr h.books fun _ _ hb => (holder_release_some hb).1, hr⟩

theorem RaceStep.updateBucket (h : RaceInv s)
    {f : QiniuBillingBucket → QiniuBillingBucket} (hfree : s.locks.holder id = none)
    (hbuckets : store.billingBuckets = s.store.billingBuckets.modify id f)
    (happs : store.bucketApplications = s.store.bucketApplications)
    (htokens : store.tokens = s.store.tokens)
    (hf : ∀ row, s.store.billingBuckets[id]? = some row → (f row).tokenId = row.tokenId)
    (hbooks : ∀ b, BucketInv b store) : RaceStep s { s with store := store } := by
  have hr : RaceRely s { s with store := store } := by
    refine .of_buckets happs htokens (fun b' t hb' => ?_) fun id' row hrow => ?_
    · -- a locked row is another one
      rw [hbuckets]
      refine getElem?_modify_ne _ _ fun he => ?_
      rw [he, hb'] at hfree
      cases hfree
    · rw [hbuckets]
      exact exists_getElem?_modify hrow rfl fun hid => hf row (hid ▸ hrow)
  exact ⟨h.next hr hbooks fun _ _ hl => hl, hr⟩

theorem RaceStep.addBucket (h : RaceInv s)
    (hbuckets : store.billingBuckets = s.store.billingBuckets ++ [row])
    (happs : store.bucketApplications = s.store.bucketApplications)
    (htokens : store.tokens = s.store.tokens) (hbooks : ∀ b, BucketInv b store) :
    RaceStep s { s with store := store } := by
  have hold : ∀ (id : Nat) row', s.store.billingBuckets[id]? = some row' →
      store.billingBuckets[id]? = some row' := by
    intro id row' hrow'
    rw [hbuckets]
    exact getElem?_append_some hrow'
  have hr : RaceRely s { s with store := store } := by
    refine .of_buckets happs htokens (fun b' t hb' => ?_)
      fun id' row' hrow' => ⟨row', hold id' row' hrow', rfl⟩
    obtain ⟨row', hrow'⟩ := h.locked b' t hb'
    exact (hold b' row' hrow').trans hrow'.symm
  exact ⟨h.next hr hbooks fun _ _ hl => hl, hr⟩

theorem RaceStep.save (h : RaceInv s) (hnow : (saveBucket r).UpToDate s)
    (howes : (saveBucket r).Owes s)
    (hfree : ∀ id bucket, r.read = some (id, bucket) → s.locks.holder id = none) :
    RaceStep s { s with
      store := (saveRecalculatedBucket r.read (r.bucket cfg) r.records s.store).2 } := by
  obtain ⟨huser, hread⟩ := howes
  have hbooks : ∀ b, BucketInv b
      (saveRecalculatedBucket r.read (r.bucket cfg) r.records s.store).2 := by
    intro b
    refine (h.books b).saveRecalculated huser fun id bucket hr => ?_
    obtain ⟨hbt, row, hrow, hrt⟩ := hread id bucket hr
    obtain ⟨row', hrow', happ, hver⟩ := hnow (id, bucket) hr
    obtain rfl := mem_unique hrow hrow'
    exact ⟨hbt, row, hrow, hrt, happ, hver⟩
  cases hr : r.read with
  | none =>
    rw [hr] at hbooks
    exact RaceStep.addBucket h rfl rfl rfl hbooks
  | some e =>
    obtain ⟨id, bucket⟩ := e
    obtain ⟨hbt, row, hrow, hrt⟩ := hread id bucket hr
    have htok : (r.bucket cfg).tokenId = bucket.tokenId := by
      rw [Recalculation.bucket, hr]
      rfl
    rw [hr] at hbooks
    refine RaceStep.updateBucket h (hfree id bucket hr) rfl rfl rfl (fun row' hrow' => ?_) hbooks
    obtain rfl := mem_unique hrow hrow'
    exact htok.trans (hbt.trans hrt.symm)

theorem writeApplication_applications
    {s s' : Store} (h : bucket.writeApplication cfg bucketId existing source s = .ok s') :
    ∃ app : QiniuBillingBucketApplication,
      s'.bucketApplications = (s.storeApplication existing app).bucketApplications := by
  unfold QiniuBillingBucket.writeApplication at h
  simp only [bind_eq_ok, pure_eq_ok] at h
  obtain ⟨⟨delta, s1⟩, h1, rfl⟩ := h
  refine ⟨bucket.successfulApplication cfg bucketId delta source, ?_⟩
  have happs := (chargeDelta_charged h1).applications
  cases existing with
  | none => exact congrArg (· ++ _) happs
  | some e => exact congrArg (List.modify · e.1 _) happs

theorem RaceStep.application (h : RaceInv s) (hheld : s.locks.holder bucketId = some ticket)
    (howes : (writeApplication ticket bucketId bucket existing source).Owes s)
    (hwrite : bucket.writeApplication cfg bucketId existing source s.store = .ok store) :
    RaceStep s { store := store, locks := s.locks.release ticket } := by
  obtain ⟨hrow, hexisting⟩ := howes
  have happlied : BucketApplied bucketId bucket s.store store :=
    writeApplication_applied hexisting hwrite
  obtain ⟨app, happs⟩ := writeApplication_applications hwrite
  -- only a failed application of this bucket is written over
  have hkept : ∀ (id : Nat) a, s.store.bucketApplications[id]? = some a →
      (a.bucketId = bucketId → a.status ≠ .failed) →
      store.bucketApplications[id]? = some a := by
    intro id a ha hother
    rw [happs]
    cases existing with
    | none => exact getElem?_append_some ha
    | some e =>
      refine (List.getElem?_modify_ne _ _ fun hid => ?_).trans ha
      obtain ⟨a', ha', hbid, hfail⟩ := hexisting e.1 e.2 rfl
      obtain rfl := mem_unique ha (hid ▸ ha')
      exact hother hbid hfail
  have hr : RaceRely s { store := store, locks := s.locks.release ticket } := by
    refine ⟨guards_release ticket fun b' t hb' hne => ⟨?_, ?_⟩, fun id row hid => ?_,
      happlied.users, fun id a ha hs => hkept id a ha fun _ hfail => ?_⟩
    · -- the row that was written is no longer locked
      rw [happlied.buckets]
      refine getElem?_modify_ne _ _ fun he => hne ?_
      rw [← he, hheld] at hb'
      exact (some.inj hb').symm
    · refine fun id a ha hbid hfail => ⟨a, hkept id a ha fun hbid' => absurd ?_ hne, hbid, hfail⟩
      rw [← hbid, hbid', hheld] at hb'
      exact (some.inj hb').symm
    · rw [happlied.buckets]
      exact exists_getElem?_modify hid rfl fun _ => rfl
    · rw [hs] at hfail
      cases hfail
  exact ⟨h.next hr (fun b => (h.books b).applied hrow happlied)
    fun _ _ hb => (holder_release_some hb).1, hr⟩

theorem RaceStep.failed (h : RaceInv s) {cause : Err}
    (hnow : (BucketTx.writeFailedApplication bucketId bucket existing cause).UpToDate s) :
    RaceStep s { s with
      store := writeFailedApplication cfg bucketId bucket existing cause s.store } := by
  cases existing with
  | none =>
    have hbooks : ∀ b,
        BucketInv b (writeFailedApplication cfg bucketId bucket none cause s.store) :=
      fun b => (h.books b).writeFailed fun _ _ he => nomatch he
    have hold : ∀ (id : Nat) a, s.store.bucketApplications[id]? = some a →
        (writeFailedApplication cfg bucketId bucket none cause s.store).bucketApplications[id]? =
          some a := by
      intro id a ha
      exact getElem?_append_some ha
    have hr : RaceRely s { s with
        store := writeFailedApplication cfg bucketId bucket none cause s.store } := by
      refine ⟨Guards.refl fun b' => ⟨rfl, ?_⟩, fun id row hid => ⟨row, hid, rfl⟩,
        fun _ => rfl, fun id a ha _ => hold id a ha⟩
      exact fun id a ha hbid hfail => ⟨a, hold id a ha, hbid, hfail⟩
    exact ⟨h.next hr hbooks fun _ _ hl => hl, hr⟩
  | some e =>
    obtain ⟨id, e⟩ := e
    by_cases hstatus : e.status = .success
    · simp only [writeFailedApplication, if_pos hstatus]
      exact .refl h
    obtain ⟨a, ha, hsucc⟩ := hnow (id, e) rfl
    have hfailed : a.status ≠ .success := fun hs => hstatus (hsucc hs)
    have hbooks : ∀ b, BucketInv b
        (writeFailedApplication cfg bucketId bucket (some (id, e)) cause s.store) := by
      refine fun b => (h.books b).writeFailed fun id' e' he' _ => ?_
      obtain ⟨rfl, rfl⟩ := some_pair_inj he'
      exact ⟨a, ha, hfailed⟩
    simp only [writeFailedApplication, if_neg hstatus] at hbooks ⊢
    have hr : RaceRely s { s with
        store := s.store.updateBucketApplication id (·.failAgain cfg bucket cause) } := by
      refine ⟨Guards.refl fun b' => ⟨rfl, ?_⟩, fun id row hid => ⟨row, hid, rfl⟩,
        fun _ => rfl, fun id' a' ha' hs => ?_⟩
      · exact fun id' a' ha' hbid hfail =>
          exists_getElem?_modify ha' ⟨hbid, hfail⟩ fun _ => ⟨hbid, rfl⟩
      · refine (getElem?_modify_ne _ _ fun hid => hfailed ?_).trans ha'
        subst hid
        obtain rfl := mem_unique ha ha'
        exact hs
    exact ⟨h.next hr hbooks fun _ _ hl => hl, hr⟩

/-- **One statement.** -/
theorem BucketTx.raceStep {r : t.Ret} (h : RaceInv s) (hnow : t.UpToDate s) (howes : t.Owes s)
    (hx : t.exec cfg s = .ok (s', r)) : RaceStep s s' := by
  cases t with
  | lockQiniuBillingBucket =>
    simp only [exec, bind_eq_ok, orFail_eq_ok] at hx
    obtain ⟨bucket, hrow, -, -, rfl, -⟩ := hx
    exact .lock h hrow
  | writeApplication =>
    simp only [exec, bind_eq_ok, failIf_eq_ok, not_not] at hx
    obtain ⟨-, hheld, -, -, store, hwrite, rfl, -⟩ := hx
    exact .application h hheld howes (orFailure_eq_ok.mp hwrite)
  | release ticket =>
    obtain ⟨rfl, -⟩ := ok_pair_inj hx
    exact .release h ticket
  | saveBucket =>
    obtain ⟨hfree, rfl⟩ := saveBucket_eq_ok hx
    exact .save h hnow howes hfree
  | updateStatus =>
    simp only [exec, bind_eq_ok] at hx
    obtain ⟨u, hu, rfl, -⟩ := hx
    exact .updateBucket h (unlocked_eq_ok hu) rfl rfl rfl (fun _ _ => rfl)
      fun b => (h.books b).status
  | writeFailedApplication =>
    simp only [exec, bind_eq_ok] at hx
    obtain ⟨-, -, rfl, -⟩ := hx
    exact .failed h hnow
  | upsertRecord =>
    obtain ⟨rfl, -⟩ := ok_pair_inj hx
    unfold upsertQiniuCostDetailRecord
    split
    all_goals
      refine ⟨h.next ?_ (fun b' => (h.books b').same (SameBooks.of_tables rfl rfl rfl rfl rfl))
        fun _ _ hl => hl, ?_⟩
      all_goals exact .of_buckets rfl rfl (fun _ _ _ => rfl) fun id row hrow => ⟨row, hrow, rfl⟩
  | readToken | readBucket | readApplicationById =>
    obtain ⟨-, rfl⟩ := read_eq_ok hx
    exact .refl h
  | readApplication | walletFlowExists | readRecords | readBucketOf =>
    obtain ⟨rfl, -⟩ := ok_pair_inj hx
    exact .refl h

/-- What recalculations and applications rely on, as long as nothing out of date is written. -/
def raceContract (cfg : Config) : Contract (bucketSystem cfg) fun s t => t.UpToDate s where
  inv := RaceInv
  rely := RaceRely
  mayRun t s := BucketTx.Owes t s
  may _ _ := True
  rely_refl := RaceRely.refl
  rely_trans h h' := h.trans h'
  tx_inv _ t _ _ hi hnow howes hx := (BucketTx.raceStep hi hnow howes hx).inv
  tx_rely _ t _ _ hi hnow howes hx := (BucketTx.raceStep hi hnow howes hx).rely
  call_inv _ _ hi _ := hi
  call_rely s _ _ _ := RaceRely.refl s

/-! ## Programs -/

theorem race_safe_step (h : ∀ s, t.Owes s := by exact fun _ => trivial) :
    Safe (raceContract cfg) (run t) :=
  safe_run fun s _ => h s

theorem race_safe_ask {c : BucketCall} : Safe (raceContract cfg) (ask c) :=
  safe_ask fun _ _ => trivial

/-- What an application knows of the bucket it has locked. -/
def LockedRow (ticket bucketId : Nat) (bucket : QiniuBillingBucket) (s : BucketState) : Prop :=
  ticket < s.locks.next ∧
  (s.locks.holder bucketId = some ticket → s.store.billingBuckets[bucketId]? = some bucket)

theorem lockedRow_stable : Stable (raceContract cfg) (LockedRow ticket bucketId bucket) := by
  rintro s s' ⟨hold, hrow⟩ (hr : RaceRely s s')
  refine ⟨Nat.lt_of_lt_of_le hold hr.guards.next_le, fun hheld => ?_⟩
  obtain ⟨hheld', hsame, -⟩ := hr.guards.held bucketId ticket hheld hold
  exact hsame.trans (hrow hheld')

def LockedApplication (ticket bucketId : Nat)
    (existing : Option (Nat × QiniuBillingBucketApplication)) (s : BucketState) : Prop :=
  ticket < s.locks.next ∧
  (s.locks.holder bucketId = some ticket → ∀ id a, existing = some (id, a) → a.status = .failed →
    ∃ a', s.store.bucketApplications[id]? = some a' ∧ a'.bucketId = bucketId ∧
      a'.status = .failed)

theorem lockedApplication_stable :
    Stable (raceContract cfg) (LockedApplication ticket bucketId existing) := by
  rintro s s' ⟨hold, hfound⟩ (hr : RaceRely s s')
  refine ⟨Nat.lt_of_lt_of_le hold hr.guards.next_le, fun hheld id a he hfail => ?_⟩
  obtain ⟨hheld', -, hkept⟩ := hr.guards.held bucketId ticket hheld hold
  obtain ⟨a', ha', hb', hf'⟩ := hfound hheld' id a he hfail
  exact hkept id a' ha' hb' hf'

theorem lock_triple :
    Triple (raceContract cfg) (fun _ => True) (run (.lockQiniuBillingBucket bucketId))
      fun r s => LockedRow r.1 bucketId r.2 s := by
  refine triple_run (Stable.const True) fun s s' r hi _ _ hx => ⟨trivial, ?_⟩
  change (lockQiniuBillingBucket bucketId).exec cfg s = .ok (s', r) at hx
  simp only [exec, bind_eq_ok, orFail_eq_ok] at hx
  obtain ⟨bucket, hrow, -, -, rfl, rfl⟩ := hx
  exact ⟨Nat.lt_succ_self _, fun _ => hrow⟩

theorem readApplication_triple {applyVersion : Nat} :
    Triple (raceContract cfg) (LockedRow ticket bucketId bucket)
      (run (.readApplication bucketId applyVersion))
      fun existing s => LockedRow ticket bucketId bucket s ∧
        LockedApplication ticket bucketId existing s := by
  refine triple_run lockedRow_stable fun s s' existing hi hs _ hx => ⟨trivial, ?_⟩
  obtain ⟨rfl, rfl⟩ := ok_pair_inj hx
  refine ⟨hs, hs.1, fun _ id a he hfail => ?_⟩
  obtain ⟨hget, hp⟩ := lookup_some he
  simp only [Bool.and_eq_true, beq_iff_eq] at hp
  exact ⟨a, hget, hp.1, hfail⟩

theorem writeApplication_triple (hfailed : ∀ id a, existing = some (id, a) → a.status = .failed) :
    Triple (raceContract cfg) (fun s => LockedRow ticket bucketId bucket s ∧
        LockedApplication ticket bucketId existing s)
      (run (.writeApplication ticket bucketId bucket existing source))
      fun _ _ => True := by
  refine triple_run (lockedRow_stable.and lockedApplication_stable)
    fun s s' r hi hs _ hx => ⟨?_, trivial⟩
  change (writeApplication ticket bucketId bucket existing source).exec cfg s =
    .ok (s', r) at hx
  simp only [exec, bind_eq_ok, failIf_eq_ok, not_not] at hx
  obtain ⟨-, hheld, -⟩ := hx
  -- the lock is still there, so nothing has changed since it was taken
  exact ⟨hs.1.2 hheld, fun id a he => hs.2.2 hheld id a he (hfailed id a he)⟩

theorem applyLocked_triple (options : ApplyOptions) :
    Triple (raceContract cfg) (LockedRow ticket bucketId bucket)
      (applyLocked cfg ticket bucketId bucket options) fun _ _ => True := by
  have hskip : ∀ {P : BucketState → Prop}, Triple (raceContract cfg) P
      ((run (.release ticket)).bind fun _ => pure ApplyOutcome.skipped)
      fun _ _ => True :=
    Safe.triple (safe_bind race_safe_step fun _ => safe_done _)
  refine triple_bind (triple_of_safe lockedRow_stable race_safe_ask) fun setting => ?_
  refine triple_bind (triple_of_safe lockedRow_stable (safe_done _)) fun admitted => ?_
  refine triple_ite hskip (triple_bind readApplication_triple fun existing => ?_)
  refine triple_bind triple_done fun goOn => ?_
  split
  · exact hskip
  rename_i hgo
  have hknown : Stable (raceContract cfg) fun s =>
      (LockedRow ticket bucketId bucket s ∧ LockedApplication ticket bucketId existing s) ∧
        options.check existing = .ok goOn :=
    (lockedRow_stable.and lockedApplication_stable).and (Stable.const _)
  refine triple_bind (triple_of_safe hknown ?_) fun flowExists => ?_
  · split
    · exact safe_done _
    · exact race_safe_step
  refine triple_bind (triple_of_safe hknown (safe_done _)) fun _ => ?_
  refine triple_bind (Q := fun _ _ => True) ?_ fun _ => Safe.triple (safe_done _)
  intro s hs
  -- what was found and not skipped has failed before
  have hfailed : ∀ id a, existing = some (id, a) → a.status = .failed :=
    fun id a he => check_failed hs.2 (by simpa using hgo) he
  exact writeApplication_triple hfailed s hs.1

theorem applyQiniuBillingBucket_safe (options : ApplyOptions) :
    Safe (raceContract cfg) (BucketProg.applyQiniuBillingBucket cfg bucketId options) := by
  have htx : Safe (raceContract cfg)
      (BucketProg.applyQiniuBillingBucketTx cfg bucketId options) := by
    refine safe_of_triple (triple_bind lock_triple fun locked => ?_)
    refine triple_bind (triple_attempt (applyLocked_triple options))
      fun r => ?_
    cases r with
    | ok => exact Safe.triple (safe_done _)
    | error e =>
      exact triple_bind (Safe.triple (safe_ignore race_safe_step)) fun _ => triple_fail e
  have hrecord : ∀ cause, Safe (raceContract cfg)
      (BucketProg.recordQiniuBillingBucketFailedApplication cfg bucketId cause) := by
    intro cause
    exact safe_bind race_safe_step fun bucket =>
      safe_bind race_safe_step fun existing => race_safe_step
  refine safe_bind (safe_attempt htx) fun r => ?_
  cases r with
  | ok => exact safe_done _
  | error e =>
    refine safe_bind ?_ fun _ => safe_fail e
    cases e with
    | failure e =>
      exact safe_bind (safe_ignore race_safe_step) fun _ =>
        safe_ignore (hrecord e)
    | validation _ status =>
      cases status with
      | none => exact safe_done _
      | some => exact safe_ignore race_safe_step

/-- What a recalculation knows of the token and of the row it has read. -/
def ReadRow (tokenId : Nat) (token : Token) (read : Option (Nat × QiniuBillingBucket))
    (s : BucketState) : Prop :=
  s.store.tokenUser tokenId = some token.userId ∧
  ∀ id bucket, read = some (id, bucket) → bucket.tokenId = some tokenId ∧
    ∃ row, s.store.billingBuckets[id]? = some row ∧ row.tokenId = some tokenId

theorem readRow_stable {read : Option (Nat × QiniuBillingBucket)} :
    Stable (raceContract cfg) (ReadRow tokenId token read) := by
  rintro s s' ⟨huser, hread⟩ (hr : RaceRely s s')
  refine ⟨(hr.users tokenId).trans huser, fun id bucket he => ?_⟩
  obtain ⟨htok, row, hrow, hrt⟩ := hread id bucket he
  obtain ⟨row', hrow', hrt'⟩ := hr.tokens id row hrow
  exact ⟨htok, row', hrow', hrt'.trans hrt⟩

theorem readToken_triple :
    Triple (raceContract cfg) (fun _ => True) (run (.readToken tokenId))
      fun token s => ReadRow tokenId token none s := by
  refine triple_run (Stable.const True) fun s s' token hi _ _ hx => ⟨trivial, ?_⟩
  obtain ⟨htoken, rfl⟩ := read_eq_ok hx
  refine ⟨?_, fun _ _ he => nomatch he⟩
  rw [Store.tokenUser, htoken]
  rfl

theorem readBucketOf_triple (billingDate : String) :
    Triple (raceContract cfg) (ReadRow tokenId token none)
      (run (.readBucketOf tokenId billingDate))
      fun read s => ReadRow tokenId token read s := by
  refine triple_run readRow_stable fun s s' read hi hs _ hx => ⟨trivial, ?_⟩
  obtain ⟨rfl, rfl⟩ := ok_pair_inj hx
  refine ⟨hs.1, fun id bucket he => ?_⟩
  obtain ⟨hrow, htok, -⟩ := bucketOf_some he
  exact ⟨htok, bucket, hrow, htok⟩

theorem recalculateQiniuBillingBucket_safe (billingDate : String) :
    Safe (raceContract cfg) (BucketProg.recalculateQiniuBillingBucket cfg tokenId billingDate) := by
  have htx : ∀ localRealtime, Safe (raceContract cfg)
      (BucketProg.recalculateQiniuBillingBucketTx cfg tokenId billingDate localRealtime) := by
    intro localRealtime
    refine safe_of_triple (triple_bind readToken_triple fun token => ?_)
    refine triple_bind (triple_of_safe readRow_stable race_safe_step) fun records => ?_
    refine triple_bind (triple_of_safe readRow_stable (safe_done _)) fun _ => ?_
    refine triple_bind (readBucketOf_triple billingDate) fun read => ?_
    refine triple_bind (triple_of_safe readRow_stable race_safe_ask) fun setting => ?_
    refine triple_bind (Q := fun _ _ => True) ?_ fun _ => Safe.triple (safe_done _)
    exact triple_run readRow_stable fun s s' r hi hs _ hx => ⟨hs, trivial⟩
  refine safe_bind (safe_done _) fun _ => safe_bind race_safe_ask fun usage => ?_
  refine safe_bind (htx _) fun saved => safe_bind race_safe_ask fun setting => ?_
  split
  · exact safe_bind (applyQiniuBillingBucket_safe _) fun _ =>
      safe_bind race_safe_step fun _ => safe_done _
  · exact safe_done _

theorem BucketEntry.safe {p : BucketProg cfg Unit} (hp : BucketEntry cfg p) :
    Safe (raceContract cfg) p := by
  obtain ⟨r, rfl⟩ := hp
  cases r with
  | recalculate tokenId billingDate => exact recalculateQiniuBillingBucket_safe billingDate
  | apply bucketId =>
    exact safe_bind (applyQiniuBillingBucket_safe {}) fun _ => safe_done _
  | retry =>
    exact safe_bind race_safe_step fun application =>
      safe_bind (applyQiniuBillingBucket_safe _) fun _ => safe_done _
  | correct | kill => exact race_safe_step

/-! ## Interleavings -/

theorem raceInv_init (h : NoBuckets store) : RaceInv ⟨store, .empty⟩ :=
  ⟨h.inv, fun _ _ hb => nomatch hb⟩

/-- The books of a bucket balance, and the official bill is split into what was charged in realtime,
what the applications charged to the owner, and what is pending. -/
structure Accounted (b : Nat) (row : QiniuBillingBucket) (s : Store) : Prop
    extends BucketBooks b row s where
  ownerOnly : ∀ u, u ≠ row.userId → bucketCredit b u s = 0
  parts : row.localRealtimeQuota + -bucketCredit b row.userId s + row.pendingDeltaQuota =
    row.officialQuota

theorem RaceInv.accounted (h : RaceInv s) (hrow : s.store.billingBuckets[b]? = some row) :
    Accounted b row s.store := by
  have hbr := (h.books b).row row hrow
  refine ⟨(h.books b).books hrow, hbr.others, ?_⟩
  have hpending := hbr.pending
  have hcharged := hbr.charged
  omega

/-- **No application is forgotten.** As long as no recalculation saves a row that was applied since
it was read, and no failure is written over a success, in every interleaving every bucket is
accounted for, and the successful applications only grow in number, like the version. -/
theorem no_application_forgotten (cfg : Config) (store : Store) (hstore : NoBuckets store)
    (w : World (bucketSystem cfg))
    (hw : Reachable (BucketEntry cfg) (fun s t => t.UpToDate s) ⟨store, .empty⟩ w) :
    (∀ b row, w.state.store.billingBuckets[b]? = some row → Accounted b row w.state.store) ∧
    ∀ w', Later (BucketEntry cfg) (fun s t => t.UpToDate s) w w' →
      ∀ b, (successfulApplications b w.state.store).Sublist
          (successfulApplications b w'.state.store) ∧
        ∀ row, w.state.store.billingBuckets[b]? = some row →
          ∃ row', w'.state.store.billingBuckets[b]? = some row' ∧
            row.applyVersion ≤ row'.applyVersion := by
  have hinv : ∀ {w}, Reachable (BucketEntry cfg) (fun s t => t.UpToDate s) ⟨store, .empty⟩ w →
      RaceInv w.state :=
    fun hw => (wp_reachable (fun _ hp => hp.safe)
      (raceInv_init hstore) hw).1
  refine ⟨fun b row hrow => (hinv hw).accounted hrow, fun w' hl b => ?_⟩
  have hr : RaceRely w.state w'.state :=
    wp_later (fun _ hp => hp.safe) (raceInv_init hstore) hw hl
  have hsub : (successfulApplications b w.state.store).Sublist
      (successfulApplications b w'.state.store) := by
    refine filter_sublist_of_kept fun id a ha hs => hr.successes id a ha ?_
    simp only [QiniuBillingBucketApplication.succeededFor, Bool.and_eq_true, beq_iff_eq] at hs
    exact hs.2
  refine ⟨hsub, fun row hrow => ?_⟩
  obtain ⟨row', hrow', -⟩ := hr.tokens b row hrow
  refine ⟨row', hrow', ?_⟩
  rw [(((hinv hw).books b).row row hrow).version,
    (((hinv (hw.later hl)).books b).row row' hrow').version]
  exact hsub.length_le

/-! ### Two schedules -/

def billRecord (feeAmount : ℚ) : QiniuCostDetailRecord :=
  { (billLine feeAmount).record "2026-02-01" with
    ownerStatus := .resolved
    userId := 1
    tokenId := some 0 }

def unbilledRecord : Store := { billedKey with costDetailRecords := [billRecord (1 / 1000)] }

theorem noBuckets_unbilledRecord : NoBuckets unbilledRecord :=
  ⟨rfl, rfl, by simp [unbilledRecord, billedKey], by simp [unbilledRecord, billedKey]⟩

/-- Start a program, or let one of them take its next steps with automatic application switched
on or off. -/
inductive BucketMove where
  | start (r : BucketRequest)
  | steps (i n : Nat) (auto : Bool)

def bucketAnswers (auto : Bool) : (c : BucketCall) → c.Resp
  | .setting => { costDetailAutoApplyEnabled := auto, cutoverBillingDate := some "2026-01-01" }
  | .usage => some { applications := [], logs := [] }

def BucketMove.moves : BucketMove → List (Move (bucketSystem .shipped))
  | start r => [.spawn (r.handle .shipped)]
  | steps i n auto => List.replicate n (.step i (bucketAnswers auto))

theorem BucketMove.spawn_entry {ms : List BucketMove} {p : BucketProg .shipped Unit}
    (h : Move.spawn p ∈ ms.flatMap BucketMove.moves) : BucketEntry .shipped p := by
  obtain ⟨m, -, hm⟩ := mem_flatMap.mp h
  cases m with
  | start r =>
    rw [BucketMove.moves, mem_singleton] at hm
    exact ⟨r, Move.spawn.inj hm⟩
  | steps => exact nomatch (eq_of_mem_replicate hm)

def BucketTx.isUpToDate (s : BucketState) (t : BucketTx) : Bool := decide (t.UpToDate s)

theorem BucketTx.upToDate_of_isUpToDate (h : isUpToDate s t = true) : t.UpToDate s :=
  of_decide_eq_true h

/-- The row of bucket 0 in figures: applied delta, version, pending delta. -/
def bucketFigures (w : World (bucketSystem .shipped)) : Option (Int × Nat × Int) :=
  w.state.store.billingBuckets[0]?.map fun row =>
    (row.appliedDeltaQuota, row.applyVersion, row.pendingDeltaQuota)

/-- A bill is charged and then corrected. An application gets in before the one of the
recalculation. -/
def correctedConcurrently : List BucketMove :=
  [.start (.recalculate 0 "2026-02-01"), .steps 0 13 true,
    .start (.correct (billRecord (3 / 1000))), .steps 1 1 true,
    .start (.recalculate 0 "2026-02-01"), .steps 2 7 true,
    .start (.apply 0), .steps 3 5 true, .steps 2 4 true]

theorem no_application_forgotten_corrected : ∃ w : World (bucketSystem .shipped),
    bucketFigures w = some (1500, 2, 0) ∧
    ∀ row, w.state.store.billingBuckets[0]? = some row → Accounted 0 row w.state.store := by
  obtain ⟨w, hw, hq⟩ := exists_reachable (g := BucketTx.isUpToDate)
    (C := fun s (t : BucketTx) => t.UpToDate s) (s := ⟨unbilledRecord, .empty⟩)
    (q := fun w => bucketFigures w = some (1500, 2, 0))
    (correctedConcurrently.flatMap BucketMove.moves)
    (fun _ _ h => BucketTx.upToDate_of_isUpToDate h)
    (fun _ hp => BucketMove.spawn_entry hp) (by decide +kernel)
  exact ⟨w, hq,
    (no_application_forgotten .shipped unbilledRecord noBuckets_unbilledRecord w hw).1 0⟩

/-- A recalculation reads the bucket, an application charges it, and the recalculation saves
what it has read. -/
def recalculatedConcurrently : List BucketMove :=
  [.start (.recalculate 0 "2026-02-01"), .steps 0 7 false,
    .start (.recalculate 0 "2026-02-01"), .steps 1 4 true,
    .start (.apply 0), .steps 2 5 true, .steps 1 2 true]

/-- **An application that is forgotten.** The user was charged 500, but the bucket knows of no
application and has the whole bill pending again. -/
theorem stale_recalculation_forgets : ∃ w : World (bucketSystem .shipped),
    NoBuckets unbilledRecord ∧
    Reachable (BucketEntry .shipped) (fun _ _ => True) ⟨unbilledRecord, .empty⟩ w ∧
    bucketFigures w = some (0, 0, 500) ∧
    (successfulApplications 0 w.state.store).map (·.deltaQuota) = [500] ∧
    bucketCredit 0 1 w.state.store = -500 := by
  obtain ⟨w, hw, hq⟩ := exists_reachable (C := fun _ _ => True) (g := fun _ _ => true)
    (s := ⟨unbilledRecord, .empty⟩) (q := fun w => bucketFigures w = some (0, 0, 500) ∧
      (successfulApplications 0 w.state.store).map (·.deltaQuota) = [500] ∧
      bucketCredit 0 1 w.state.store = -500) (recalculatedConcurrently.flatMap BucketMove.moves)
    (fun _ _ _ => trivial) (fun _ hp => BucketMove.spawn_entry hp) (by decide +kernel)
  exact ⟨w, noBuckets_unbilledRecord, hw, hq⟩

end ApiGateway
