import ApiGateway.Lib.Runs
import ApiGateway.Proof.BillCalls

/-!
# The books of a billing bucket

A bucket remembers in one number what its applications have charged so far. Every later
recalculation subtracts it, so it has to agree with the applications on record, with their count,
and with what really left the wallet of the owner.

Most calls do not touch the books of a bucket at all (`SameBooks`); the writes that do are the
three below, and calls that run one at a time always meet their conditions.
-/

namespace ApiGateway

open Table Runs List QiniuBillingBucketApplication Option Store QiniuBillingBucket

variable {cfg : Config} {b : Nat} {s s' s'' : Store}
variable {bucket row : QiniuBillingBucket} {bucketId tokenId : Nat}
  {existing : Option (Nat × QiniuBillingBucketApplication)} {setting : QiniuCostDetailSetting}
variable {flow : WalletFlow} {id v : Nat} {delta : WalletDelta} {billingDate : String}
  {token : Token} {localRealtime : Int × QiniuBillingLocalRealtimeStatus} {cause : Err}

/-! ## What the books are -/

def FlowKey.bucketId? : FlowKey → Option Nat
  | .qiniuBillingBucket bucketId _ => some bucketId
  | _ => none

def Posting.ofBucket (b : Nat) (p : Posting) : Bool :=
  p.key.bind FlowKey.bucketId? == some b

def bucketCredit (b u : Nat) (s : Store) : Int :=
  ((s.journal.filter fun p => p.ofBucket b && p.userId == u).map (·.quota)).sum

def QiniuBillingBucketApplication.succeededFor (b : Nat) (a : QiniuBillingBucketApplication) :
    Bool :=
  a.bucketId == b && a.status == .success

def successfulApplications (b : Nat) (s : Store) : List QiniuBillingBucketApplication :=
  s.bucketApplications.filter (·.succeededFor b)

def versionFlows (b v : Nat) (s : Store) : List WalletFlow :=
  s.walletFlows.filter fun f => f.idempotencyKey == some (.qiniuBillingBucket b v)

/-- The books of bucket `b` agree with its row. -/
structure BucketBooks (b : Nat) (row : QiniuBillingBucket) (s : Store) : Prop where
  applied : row.appliedDeltaQuota = ((successfulApplications b s).map (·.deltaQuota)).sum
  charged : row.appliedDeltaQuota = -bucketCredit b row.userId s
  version : row.applyVersion = (successfulApplications b s).length
  flows : ∀ v, (versionFlows b v s).length ≤ 1

/-! ## The invariant -/

def Store.tokenUser (s : Store) (tokenId : Nat) : Option Nat := s.tokens[tokenId]?.map (·.userId)

/-- What holds of the row of bucket `b`, besides its books. -/
structure BucketRow (b : Nat) (row : QiniuBillingBucket) (s : Store) : Prop where
  applied : row.appliedDeltaQuota = ((successfulApplications b s).map (·.deltaQuota)).sum
  version : row.applyVersion = (successfulApplications b s).length
  charged : row.appliedDeltaQuota = -bucketCredit b row.userId s
  /-- Only the owner has been charged. -/
  others : ∀ u, u ≠ row.userId → bucketCredit b u s = 0
  /-- What is pending is what the official bill and the charges so far leave open. -/
  pending : row.pendingDeltaQuota =
    row.officialQuota - row.localRealtimeQuota - row.appliedDeltaQuota
  /-- The owner is the user of the token. -/
  owner : row.tokenId.bind s.tokenUser = some row.userId

structure BucketInv (b : Nat) (s : Store) : Prop where
  row : ∀ row, s.billingBuckets[b]? = some row → BucketRow b row s
  /-- A bucket that does not exist yet has no books. -/
  fresh : s.billingBuckets[b]? = none →
    successfulApplications b s = [] ∧ ∀ u, bucketCredit b u s = 0
  flows : ∀ v, (versionFlows b v s).length ≤ 1

theorem BucketInv.books (h : BucketInv b s) (hrow : s.billingBuckets[b]? = some row) :
    BucketBooks b row s :=
  have hb := h.row row hrow
  ⟨hb.applied, hb.charged, hb.version, h.flows⟩

/-- No bucket has been applied yet, and there is none. -/
structure NoBuckets (s : Store) : Prop where
  buckets : s.billingBuckets = []
  applications : s.bucketApplications = []
  postings : ∀ p ∈ s.journal, p.key.bind FlowKey.bucketId? = none
  flows : ∀ f ∈ s.walletFlows, f.idempotencyKey.bind FlowKey.bucketId? = none

theorem NoBuckets.inv (h : NoBuckets s) (b : Nat) : BucketInv b s := by
  refine ⟨?_, ?_, ?_⟩
  · intro row hrow
    rw [h.buckets] at hrow
    cases hrow
  · intro _
    refine ⟨by simp [successfulApplications, h.applications], fun u => ?_⟩
    have hnone : (s.journal.filter fun p => p.ofBucket b && p.userId == u) = [] := by
      rw [filter_eq_nil_iff]
      intro p hp
      simp [Posting.ofBucket, h.postings p hp]
    simp [bucketCredit, hnone]
  intro v
  have hnone : versionFlows b v s = [] := by
    rw [versionFlows, filter_eq_nil_iff]
    intro f hf heq
    have := h.flows f hf
    rw [eq_of_beq heq] at this
    exact absurd this (by simp [FlowKey.bucketId?])
  simp [hnone]

/-! ## Calls that leave the books alone -/

structure SameBooks (b : Nat) (s s' : Store) : Prop where
  bucket : s'.billingBuckets[b]? = s.billingBuckets[b]?
  successes : successfulApplications b s' = successfulApplications b s
  credit : ∀ u, bucketCredit b u s' = bucketCredit b u s
  flows : ∀ v, versionFlows b v s' = versionFlows b v s
  users : ∀ t, s'.tokenUser t = s.tokenUser t

theorem SameBooks.of_tables (hb : s'.billingBuckets = s.billingBuckets)
    (ha : s'.bucketApplications = s.bucketApplications) (hj : s'.journal = s.journal)
    (hf : s'.walletFlows = s.walletFlows) (ht : s'.tokens = s.tokens) : SameBooks b s s' := by
  refine ⟨by rw [hb], ?_, fun u => ?_, fun v => ?_, fun t => ?_⟩
  · rw [successfulApplications, successfulApplications, ha]
  · rw [bucketCredit, bucketCredit, hj]
  · rw [versionFlows, versionFlows, hf]
  · rw [tokenUser, tokenUser, ht]

theorem BucketRow.congr {row' : QiniuBillingBucket} (h : BucketRow b row s)
    (ha : ((successfulApplications b s').map (·.deltaQuota)).sum =
      ((successfulApplications b s).map (·.deltaQuota)).sum)
    (hl : (successfulApplications b s').length = (successfulApplications b s).length)
    (hc : ∀ u, bucketCredit b u s' = bucketCredit b u s)
    (ht : ∀ t, s'.tokenUser t = s.tokenUser t)
    (hrow : row'.appliedDeltaQuota = row.appliedDeltaQuota ∧
      row'.applyVersion = row.applyVersion ∧ row'.userId = row.userId ∧
      row'.tokenId = row.tokenId) (hp : row'.pendingDeltaQuota =
      row'.officialQuota - row'.localRealtimeQuota - row'.appliedDeltaQuota) :
    BucketRow b row' s' := by
  obtain ⟨happ, hver, huser, htok⟩ := hrow
  refine ⟨?_, ?_, ?_, ?_, hp, ?_⟩
  · rw [happ, ha, h.applied]
  · rw [hver, hl, h.version]
  · rw [happ, huser, hc, h.charged]
  · intro u hu
    rw [hc]
    exact h.others u (huser ▸ hu)
  · have htok' : s'.tokenUser = s.tokenUser := funext ht
    rw [htok, htok', huser, h.owner]

theorem BucketInv.same (h : BucketInv b s) (hs : SameBooks b s s') : BucketInv b s' := by
  refine ⟨?_, ?_, ?_⟩
  · intro row hrow
    have hb := h.row row (hs.bucket ▸ hrow)
    exact hb.congr (by rw [hs.successes]) (by rw [hs.successes]) hs.credit hs.users
      ⟨rfl, rfl, rfl, rfl⟩ hb.pending
  · intro hnone
    obtain ⟨hsucc, hcred⟩ := h.fresh (hs.bucket ▸ hnone)
    exact ⟨hs.successes.trans hsucc, fun u => (hs.credit u).trans (hcred u)⟩
  · intro v
    rw [hs.flows]
    exact h.flows v

/-! ## The money side of an application -/

theorem bucketCredit_saveAccount (b u v : Nat) (a : WalletAccount) (key : Option FlowKey) :
    bucketCredit b u (s.saveAccount v a key) = bucketCredit b u s := by
  -- the posting of an account does not move the quota
  simp only [bucketCredit, saveAccount_journal, filter_append, filter_cons]
  split <;> simp

theorem bucketCredit_addQuota (b u v : Nat) (q : Int) (key : Option FlowKey) :
    bucketCredit b u (s.addQuota v q key) =
      bucketCredit b u s + if key.bind FlowKey.bucketId? = some b ∧ v = u then q else 0 := by
  simp only [bucketCredit, addQuota_journal, filter_append, filter_cons, Posting.ofBucket, Bool.and_eq_true,
    beq_iff_eq]
  split <;> simp

theorem versionFlows_createWalletFlowTx_ne
    (h : flow.idempotencyKey ≠ some (.qiniuBillingBucket b v)) :
    versionFlows b v (createWalletFlowTx flow s) = versionFlows b v s := by
  simp only [versionFlows, createWalletFlowTx_walletFlows]
  split
  · rfl
  · simp [h]

theorem versionFlows_createWalletFlowTx_le (h : (versionFlows b v s).length ≤ 1) :
    (versionFlows b v (createWalletFlowTx flow s)).length ≤ 1 := by
  by_cases hkey : flow.idempotencyKey = some (.qiniuBillingBucket b v)
  · simp only [versionFlows, createWalletFlowTx_walletFlows]
    split
    · exact h
    rename_i hnew
    have hnone : (s.walletFlows.filter fun f =>
        f.idempotencyKey == some (.qiniuBillingBucket b v)) = [] := by
      rw [filter_eq_nil_iff]
      intro f hf heq
      exact hnew (hkey ▸ walletFlowExistsTx_iff.mpr ⟨f, hf, eq_of_beq heq⟩)
    rw [filter_append, hnone]
    simp [hkey]
  · rw [versionFlows_createWalletFlowTx_ne hkey]
    exact h

/-- What the delta of `bucket` changes outside of the tables of buckets and applications. -/
structure DeltaBooked (bucketId : Nat) (bucket : QiniuBillingBucket) (s s' : Store) : Prop where
  records : s'.costDetailRecords = s.costDetailRecords
  users : ∀ t, s'.tokenUser t = s.tokenUser t
  credit : ∀ b u, bucketCredit b u s' = bucketCredit b u s -
    if b = bucketId ∧ u = bucket.userId then bucket.pendingDeltaQuota else 0
  otherFlows : ∀ b v, b ≠ bucketId → versionFlows b v s' = versionFlows b v s
  flows : ∀ b v, (versionFlows b v s).length ≤ 1 → (versionFlows b v s').length ≤ 1

/-- What charging the delta of `bucket` changes, as far as the books of any bucket go. -/
structure BucketCharged (bucketId : Nat) (bucket : QiniuBillingBucket) (s s' : Store) : Prop
    extends DeltaBooked bucketId bucket s s' where
  buckets : s'.billingBuckets = s.billingBuckets
  applications : s'.bucketApplications = s.bucketApplications

theorem ensureLegacyWalletBalanceTx_books {u : Nat}
    (h : ensureLegacyWalletBalanceTx cfg u s = .ok s') :
    s'.billingBuckets = s.billingBuckets ∧ s'.bucketApplications = s.bucketApplications ∧
      s'.costDetailRecords = s.costDetailRecords ∧ s'.tokens = s.tokens ∧
      (∀ b v, bucketCredit b v s' = bucketCredit b v s) ∧
      ∀ b v, versionFlows b v s' = versionFlows b v s := by
  obtain ⟨-, rfl | hinit⟩ := ensureLegacyWalletBalanceTx_ok h
  · exact ⟨rfl, rfl, rfl, rfl, fun _ _ => rfl, fun _ _ => rfl⟩
  obtain ⟨flow, hkey, rfl⟩ := hinit.store
  refine ⟨rfl, rfl, rfl, rfl, fun b v => bucketCredit_saveAccount b v _ _ _, fun b v => ?_⟩
  rw [versionFlows_createWalletFlowTx_ne (by rw [hkey]; simp)]
  rfl

theorem applyQiniuBucketWalletDeltaTx_charged {version : Nat} {bizNo : String}
    (h : applyQiniuBucketWalletDeltaTx cfg bucket bucket.pendingDeltaQuota bizNo
      (.qiniuBillingBucket bucketId version) s = .ok (delta, s')) :
    BucketCharged bucketId bucket s s' := by
  unfold applyQiniuBucketWalletDeltaTx at h
  simp only [bind_eq_ok, pure_eq_ok] at h
  obtain ⟨-, -, s1, hs1, h⟩ := h
  obtain ⟨hb, ha, hr, ht, hc, hf⟩ := ensureLegacyWalletBalanceTx_books hs1
  obtain rfl := (Prod.mk.inj h).2.symm
  refine ⟨⟨hr, fun t => ?_, fun b u => ?_, fun b v hne => ?_, fun b v hle => ?_⟩, hb, ha⟩
  · exact congrArg (fun ts : List Token => ts[t]?.map (·.userId)) ht
  · have hflow : ∀ flow s,
        bucketCredit b u (createWalletFlowTx flow s) = bucketCredit b u s := fun _ _ => rfl
    rw [hflow, bucketCredit_saveAccount, bucketCredit_addQuota, hc]
    simp only [bind_some, FlowKey.bucketId?, some.injEq, eq_comm,
      eq_comm]
    split <;> simp [sub_eq_add_neg]
  · rw [versionFlows_createWalletFlowTx_ne (by simpa using fun h _ => hne h.symm)]
    exact hf b v
  · refine versionFlows_createWalletFlowTx_le ?_
    exact (congrArg List.length (hf b v)).trans_le hle

theorem chargeDelta_charged (h : bucket.chargeDelta cfg bucketId s = .ok (delta, s')) :
    BucketCharged bucketId bucket s s' := by
  simp only [chargeDelta] at h
  split at h
  · rename_i hzero
    simp only [bind_eq_ok, pure_eq_ok] at h
    obtain ⟨-, -, h⟩ := h
    obtain rfl := (Prod.mk.inj h).2
    refine ⟨⟨rfl, fun _ => rfl, fun b u => ?_, fun _ _ _ => rfl, fun _ _ h => h⟩, rfl, rfl⟩
    simp [hzero]
  simp only [bind_eq_ok, pure_eq_ok] at h
  obtain ⟨⟨d, s1⟩, h1, s2, h2, h⟩ := h
  have hcharged := applyQiniuBucketWalletDeltaTx_charged h1
  unfold applyTokenUsedQuotaDeltaTx at h2
  simp only [bind_eq_ok, orFail_eq_ok, pure_eq_ok] at h2
  obtain ⟨id, -, token, htoken, rfl⟩ := h2
  obtain rfl := (Prod.mk.inj h).2.symm
  refine ⟨⟨hcharged.records, fun t => ?_, hcharged.credit, hcharged.otherFlows, hcharged.flows⟩,
    hcharged.buckets, hcharged.applications⟩
  rw [← hcharged.users t]
  -- the token keeps its user
  have hmap := map_modify_of_eq (f := fun _ : Token =>
    { token with usedQuota := max 0 (token.usedQuota + bucket.pendingDeltaQuota) })
    (g := fun token : Token => token.userId) htoken rfl
  have huser := congrArg (fun users : List Nat => users[t]?) hmap
  simp only [getElem?_map] at huser
  exact huser

/-! ## The three writes to the books -/

/-- The sum over the successful applications after one more of them was stored. `g` is the
amount that is added up. -/
theorem sum_storeApplication (app : QiniuBillingBucketApplication)
    {g : QiniuBillingBucketApplication → Int} (hsuccess : app.status = .success)
    (hg : ∀ a : QiniuBillingBucketApplication, g (a.succeed app) = g app)
    (hexisting : ∀ id a, existing = some (id, a) → ∃ a', s.bucketApplications[id]? = some a' ∧
      a'.bucketId = app.bucketId ∧ a'.status = .failed) :
    ((successfulApplications app.bucketId (s.storeApplication existing app)).map g).sum =
      ((successfulApplications app.bucketId s).map g).sum + g app := by
  unfold successfulApplications
  cases existing with
  | none =>
    simp [storeApplication, addBucketApplication, succeededFor, hsuccess]
  | some e =>
    obtain ⟨id, a⟩ := e
    obtain ⟨a', ha', hid, hfailed⟩ := hexisting id a rfl
    simp only [storeApplication, updateBucketApplication]
    rw [sum_map_filter, sum_map_filter, sum_map_modify ha', hg]
    simp [succeededFor, hfailed, hid, hsuccess, succeed]

theorem successes_storeApplication_ne (app : QiniuBillingBucketApplication) (hne : b ≠ app.bucketId)
    (hexisting : ∀ id a, existing = some (id, a) → ∃ a', s.bucketApplications[id]? = some a' ∧
      a'.bucketId = app.bucketId ∧ a'.status = .failed) :
    successfulApplications b (s.storeApplication existing app) = successfulApplications b s := by
  unfold successfulApplications
  have happ : ¬ app.bucketId = b := fun h => hne h.symm
  cases existing with
  | none =>
    simp [storeApplication, addBucketApplication, succeededFor, happ]
  | some e =>
    obtain ⟨id, a⟩ := e
    obtain ⟨a', ha', hid, -⟩ := hexisting id a rfl
    refine filter_modify_of_not ha' ?_ ?_
    · simp [succeededFor, hid, happ]
    · simp [succeededFor, succeed, hid, happ]

/-- What an application of `bucket` changes, as far as the books of any bucket go. -/
structure BucketApplied (bucketId : Nat) (bucket : QiniuBillingBucket) (s s' : Store) : Prop
    extends DeltaBooked bucketId bucket s s' where
  buckets : s'.billingBuckets = s.billingBuckets.modify bucketId bucket.afterApplication
  deltas : ((successfulApplications bucketId s').map (·.deltaQuota)).sum =
    ((successfulApplications bucketId s).map (·.deltaQuota)).sum + bucket.pendingDeltaQuota
  count : (successfulApplications bucketId s').length =
    (successfulApplications bucketId s).length + 1
  others : ∀ b, b ≠ bucketId → successfulApplications b s' = successfulApplications b s

theorem writeApplication_applied {source : QiniuBillingOperationSource}
    (hexisting : ∀ id a, existing = some (id, a) → ∃ a', s.bucketApplications[id]? = some a' ∧
      a'.bucketId = bucketId ∧ a'.status = .failed)
    (h : bucket.writeApplication cfg bucketId existing source s = .ok s') :
    BucketApplied bucketId bucket s s' := by
  unfold writeApplication at h
  simp only [bind_eq_ok, pure_eq_ok] at h
  obtain ⟨⟨delta, s1⟩, h1, rfl⟩ := h
  have hch := chargeDelta_charged h1
  have hexisting1 : ∀ id a, existing = some (id, a) → ∃ a', s1.bucketApplications[id]? = some a' ∧
      a'.bucketId = bucketId ∧ a'.status = .failed := by
    intro id a he
    rw [hch.applications]
    exact hexisting id a he
  have hsucc : ∀ b, successfulApplications b s1 = successfulApplications b s := by
    intro b
    rw [successfulApplications, successfulApplications, hch.applications]
  set app := bucket.successfulApplication cfg bucketId delta source with happ
  have hsum : ∀ g : QiniuBillingBucketApplication → Int,
      (∀ a : QiniuBillingBucketApplication, g (a.succeed app) = g app) →
      ((successfulApplications bucketId (s1.storeApplication existing app)).map g).sum =
        ((successfulApplications bucketId s).map g).sum + g app := by
    intro g hg
    rw [← hsucc bucketId]
    exact sum_storeApplication app rfl hg hexisting1
  refine ⟨?_, ?_, hsum (·.deltaQuota) fun _ => rfl, ?_, fun b hne => ?_⟩
  · obtain ⟨⟨hrecords, husers, hcredit, hother, hflows⟩, -, -⟩ := hch
    cases existing <;> exact ⟨hrecords, husers, hcredit, hother, hflows⟩
  · rw [← hch.buckets]
    cases existing <;> rfl
  · -- the count is the sum of ones
    have := hsum (fun _ => 1) fun _ => rfl
    simp only [map_const', sum_replicate, nsmul_eq_mul, mul_one] at this
    exact_mod_cast this
  · exact (successes_storeApplication_ne app hne hexisting1).trans (hsucc b)

section

variable (h : BucketInv b s)

include h

/-- **An application.** It keeps the books of every bucket, provided that the bucket is still
as it was locked. -/
theorem BucketInv.applied (hrow : s.billingBuckets[bucketId]? = some bucket)
    (ha : BucketApplied bucketId bucket s s') :
    BucketInv b s' := by
  by_cases hb : b = bucketId
  · subst hb
    have hbr := h.row bucket hrow
    have hrow' : s'.billingBuckets[b]? = some (bucket.afterApplication bucket) := by
      rw [ha.buckets, getElem?_modify_self hrow]
    refine ⟨?_, fun hnone => ?_, fun v => ha.flows b v (h.flows v)⟩
    · intro row hr
      obtain rfl := mem_unique hrow' hr
      refine ⟨?_, ?_, ?_, fun u hu => ?_, ?_, ?_⟩
      · rw [ha.deltas, ← hbr.applied]
        rfl
      · rw [ha.count, ← hbr.version]
        rfl
      · show bucket.appliedDeltaQuota + bucket.pendingDeltaQuota = -bucketCredit b bucket.userId s'
        rw [ha.credit, if_pos ⟨rfl, rfl⟩, hbr.charged]
        ring
      · rw [ha.credit, if_neg (fun hc => hu hc.2), hbr.others u hu]
        rfl
      · show 0 = bucket.officialQuota - bucket.localRealtimeQuota -
          (bucket.appliedDeltaQuota + bucket.pendingDeltaQuota)
        rw [hbr.pending]
        ring
      · rw [funext ha.users]
        exact hbr.owner
    · exact nomatch (hrow'.symm.trans hnone)
  · refine h.same ⟨?_, ha.others b hb, fun u => ?_, fun v => ha.otherFlows b v hb, ha.users⟩
    · rw [ha.buckets]
      exact getElem?_modify_ne _ _ fun he => hb he.symm
    · rw [ha.credit, if_neg fun hc => hb hc.1, sub_zero]

/-- The row of a bucket is rewritten in columns the books do not depend on, or recalculated. -/
theorem BucketInv.updateBucket {f : QiniuBillingBucket → QiniuBillingBucket}
    (hf : id = b → ∀ row, s.billingBuckets[b]? = some row →
      (f row).appliedDeltaQuota = row.appliedDeltaQuota ∧
      (f row).applyVersion = row.applyVersion ∧ (f row).userId = row.userId ∧
      (f row).tokenId = row.tokenId ∧
      (f row).pendingDeltaQuota =
        (f row).officialQuota - (f row).localRealtimeQuota - (f row).appliedDeltaQuota) :
    BucketInv b (s.updateBucket id f) := by
  by_cases hid : id = b
  · subst hid
    refine ⟨?_, fun hnone => h.fresh ?_, h.flows⟩
    · intro row' hrow'
      simp only [updateBucket, getElem?_modify, Option.map_eq_map,
        map_eq_some_iff] at hrow'
      obtain ⟨row, hrow, rfl⟩ := hrow'
      obtain ⟨happ, hver, huser, htok, hpend⟩ := hf rfl row hrow
      exact (h.row row hrow).congr rfl rfl (fun _ => rfl) (fun _ => rfl)
        ⟨happ, hver, huser, htok⟩ hpend
    · simpa [updateBucket] using hnone
  · refine h.same ⟨getElem?_modify_ne _ _ hid, rfl, fun _ => rfl, fun _ => rfl, fun _ => rfl⟩

theorem BucketInv.addBucket (happ : row.appliedDeltaQuota = 0) (hver : row.applyVersion = 0)
    (hpend : row.pendingDeltaQuota =
      row.officialQuota - row.localRealtimeQuota - row.appliedDeltaQuota)
    (howner : row.tokenId.bind s.tokenUser = some row.userId) : BucketInv b (s.addBucket row) := by
  by_cases hb : b = s.billingBuckets.length
  · have hnone : s.billingBuckets[b]? = none := by
      rw [hb]
      simp
    obtain ⟨hsucc, hcred⟩ := h.fresh hnone
    have hnew : (s.addBucket row).billingBuckets[b]? = some row := by
      rw [hb]
      simp [Store.addBucket]
    have hsucc' : successfulApplications b (s.addBucket row) = [] := hsucc
    have hcred' : ∀ u, bucketCredit b u (s.addBucket row) = 0 := hcred
    refine ⟨?_, fun hn => absurd (hnew.symm.trans hn) (by simp), h.flows⟩
    intro row' hrow'
    obtain rfl := mem_unique hnew hrow'
    refine ⟨?_, ?_, ?_, fun u _ => hcred' u, hpend, howner⟩
    · rw [happ, hsucc']
      rfl
    · rw [hver, hsucc']
      rfl
    · rw [happ, hcred']
      rfl
  · refine h.same ⟨?_, rfl, fun _ => rfl, fun _ => rfl, fun _ => rfl⟩
    show (s.billingBuckets ++ [row])[b]? = _
    rcases Nat.lt_or_ge b s.billingBuckets.length with hlt | hge
    · rw [getElem?_append_left hlt]
    · rw [getElem?_eq_none hge, getElem?_eq_none]
      rw [length_append, length_singleton]
      omega

/-- **A recalculation** saves the row it has read with a new bill, so the applied delta and the
version have to be still what was read. -/
theorem BucketInv.saveRecalculated {records : List (QiniuCostDetailRecord × Nat)}
    {read : Option (Nat × QiniuBillingBucket)} (htoken : s.tokenUser tokenId = some token.userId)
    (hread : ∀ id bucket, read = some (id, bucket) → bucket.tokenId = some tokenId ∧
      ∃ row, s.billingBuckets[id]? = some row ∧ row.tokenId = some tokenId ∧
        row.appliedDeltaQuota = bucket.appliedDeltaQuota ∧
        row.applyVersion = bucket.applyVersion) :
    BucketInv b (saveRecalculatedBucket read (recalculatedBucket cfg setting tokenId billingDate
      token records localRealtime read) records s).2 := by
  have hitems : ∀ items s, BucketInv b s →
      BucketInv b (upsertQiniuBillingBucketItemsTx items s) :=
    fun _ s hs => hs.same (SameBooks.of_tables rfl rfl rfl rfl rfl)
  cases read with
  | none => exact hitems _ _ (h.addBucket rfl rfl rfl htoken)
  | some e =>
    obtain ⟨id, bucket⟩ := e
    obtain ⟨hbt, row, hrow, hrt, happ, hver⟩ := hread id bucket rfl
    refine hitems _ _ (h.updateBucket fun hid row' hrow' => ?_)
    subst hid
    obtain rfl := mem_unique hrow hrow'
    -- the owner of the token is the owner of the bucket
    have howner := (h.row row hrow).owner
    rw [hrt, bind_some, htoken] at howner
    exact ⟨happ.symm, hver.symm, some.inj howner, hbt.trans hrt.symm, rfl⟩

/-- **A failed application.** Writing it down must not overwrite a successful one. -/
theorem BucketInv.writeFailed
    (hexisting : ∀ id a, existing = some (id, a) → a.status ≠ .success →
      ∃ a', s.bucketApplications[id]? = some a' ∧ a'.status ≠ .success) :
    BucketInv b (writeFailedApplication cfg bucketId bucket existing cause s) := by
  unfold writeFailedApplication
  cases existing with
  | none =>
    refine h.same ⟨rfl, ?_, fun _ => rfl, fun _ => rfl, fun _ => rfl⟩
    simp [successfulApplications, addBucketApplication,
      succeededFor, failedApplication]
  | some e =>
    obtain ⟨id, a⟩ := e
    dsimp only
    split
    · exact h
    rename_i hstatus
    obtain ⟨a', ha', hfailed⟩ := hexisting id a rfl hstatus
    refine h.same ⟨rfl, ?_, fun _ => rfl, fun _ => rfl, fun _ => rfl⟩
    refine filter_modify_of_not ha' ?_ ?_
    · simp [succeededFor, hfailed]
    · simp [succeededFor, failAgain]

theorem BucketInv.status {status : QiniuBillingBucketStatus × String} :
    BucketInv b (updateQiniuBillingBucketStatusTx bucketId status s) :=
  h.updateBucket fun _ row hrow => ⟨rfl, rfl, rfl, rfl, (h.row row hrow).pending⟩

/-! ## Calls that run one at a time -/

end

theorem Applies.applied (h : Applies cfg bucketId bucket s s') :
    BucketApplied bucketId bucket s s' := by
  obtain ⟨existing, source, hexisting, hwrite⟩ := h.writes
  exact writeApplication_applied hexisting hwrite

theorem applyQiniuBillingBucket_applied {faults : BillingFaults} {options : ApplyOptions}
    (h : applyQiniuBillingBucket cfg setting faults bucketId options s = (.ok .applied, s')) :
    ∃ bucket, Applies cfg bucketId bucket s s' := by
  rcases applyQiniuBillingBucket_cases with ⟨outcome, t, htx, heq⟩ | ⟨e, heq⟩
  · rw [heq, Prod.mk.injEq, Except.ok.injEq] at h
    obtain ⟨rfl, rfl⟩ := h
    rcases applyQiniuBillingBucketTx_ok htx with ⟨habsurd, -⟩ | ⟨-, ha⟩
    · cases habsurd
    · exact ha
  · rw [heq] at h
    exact absurd (Prod.mk.inj h).1 (by simp)

theorem BucketInv.recalculateTx (h : BucketInv b s)
    (htx : recalculateQiniuBillingBucketTx cfg setting tokenId billingDate localRealtime s =
      .ok (id, s')) : BucketInv b s' := by
  obtain ⟨token, htoken, hsave⟩ := recalculateQiniuBillingBucketTx_ok htx
  rw [← show _ = s' from congrArg Prod.snd hsave]
  refine h.saveRecalculated (by rw [tokenUser, htoken]; rfl) fun id bucket hread => ?_
  obtain ⟨hget, htok, -⟩ := bucketOf_some hread
  exact ⟨htok, bucket, hget, htok, rfl, rfl⟩

theorem bucketInv_rules : BillRules cfg (BucketInv b) where
  records _ _ h := h.same (SameBooks.of_tables rfl rfl rfl rfl rfl)
  recalculate _ _ _ _ _ _ _ htx h := h.recalculateTx htx
  apply _ _ _ _ ha h := h.applied ha.row ha.applied
  status _ _ _ h := h.status
  failed _ _ _ h := by
    unfold recordQiniuBillingBucketFailedApplication
    split
    · exact h
    · exact h.writeFailed fun id a he hne => ⟨a, (lookup_some he).1, hne⟩

/-! ### Handing a bucket over -/

/-- The call gives bucket `b` to another user although something has been applied for it. -/
def BillOp.HandsOver (b : Nat) : BillOp → Store → Prop
  | .assignBucket _ bucketId tokenId, s => bucketId = b ∧
      ∃ row ∈ s.billingBuckets[b]?, row.appliedDeltaQuota ≠ 0 ∧
        s.tokenUser tokenId ≠ some row.userId ∧
        ∃ out ∈ (assignBucketTx bucketId tokenId s).toOption, out.1.2 = true
  | _, _ => False

instance BillOp.decidableHandsOver (b : Nat) (op : BillOp) (s : Store) :
    Decidable (op.HandsOver b s) := by
  cases op <;> dsimp only [BillOp.HandsOver] <;> infer_instance

theorem BucketInv.handedTo (h : BucketInv b s) (htoken : s.tokens[tokenId]? = some token)
    (hmay : bucketId = b → ∀ row, s.billingBuckets[b]? = some row →
      row.appliedDeltaQuota = 0 ∨ token.userId = row.userId) :
    BucketInv b (s.updateBucket bucketId (·.handedTo tokenId token)) := by
  by_cases hid : bucketId = b
  · subst hid
    refine ⟨?_, fun hnone => h.fresh ?_, h.flows⟩
    · intro row' hrow'
      simp only [Store.updateBucket, getElem?_modify, Option.map_eq_map,
        map_eq_some_iff] at hrow'
      obtain ⟨row, hrow, rfl⟩ := hrow'
      have hbr := h.row row hrow
      -- whoever gets the bucket has been charged what it says
      have hcredit : row.appliedDeltaQuota = -bucketCredit bucketId token.userId s ∧
          ∀ u, u ≠ token.userId → bucketCredit bucketId u s = 0 := by
        rcases hmay rfl row hrow with hzero | huser
        · have hall : ∀ u, bucketCredit bucketId u s = 0 := by
            intro u
            by_cases hu : u = row.userId
            · have := hbr.charged
              rw [hu]
              omega
            · exact hbr.others u hu
          refine ⟨?_, fun u _ => hall u⟩
          rw [hzero, hall]
          rfl
        · rw [huser]
          exact ⟨hbr.charged, hbr.others⟩
      refine ⟨hbr.applied, hbr.version, hcredit.1, hcredit.2, hbr.pending, ?_⟩
      show s.tokenUser tokenId = some token.userId
      rw [tokenUser, htoken]
      rfl
    · simpa [Store.updateBucket] using hnone
  · exact h.same ⟨getElem?_modify_ne _ _ hid, rfl, fun _ => rfl, fun _ => rfl, fun _ => rfl⟩

theorem BucketInv.assignBucketTx {env : BillingEnv}
    {out : (String × Bool) × Store} (h : BucketInv b s)
    (hop : ¬ (BillOp.assignBucket env bucketId tokenId).HandsOver b s)
    (htx : assignBucketTx bucketId tokenId s = .ok out) : BucketInv b out.2 := by
  obtain ⟨token, -, ids, htoken, -, ⟨-, hreused, hout⟩ | hout⟩ := assignBucketTx_ok htx
  · rw [hout]
    have hassigned : BucketInv b (s.assignOpenRecords ids tokenId token) :=
      h.same (SameBooks.of_tables rfl rfl rfl rfl rfl)
    refine hassigned.handedTo htoken fun hid row hrow => ?_
    by_contra hmay
    rw [not_or] at hmay
    refine hop ⟨hid, row, hrow, hmay.1, ?_, out, ?_, hreused⟩
    · rw [tokenUser, htoken]
      simpa using hmay.2
    · rw [htx]
      rfl
  · rw [hout]
    exact h.same (SameBooks.of_tables rfl rfl rfl rfl rfl)

/-! ## Runs -/

theorem bucketInv_step (op : BillOp) (s s' : Store) (h : BucketInv b s) (hop : ¬ op.HandsOver b s)
    (hexec : op.exec cfg s = .ok s') : BucketInv b s' := by
  refine bucketInv_rules.step hexec h ?_
  rintro env bucketId tokenId out rfl htx
  exact h.assignBucketTx hop htx

theorem bucketInv_run {ops : List BillOp} (hs : NoBuckets s)
    (hops : Along (BillOp.exec cfg) (fun op s => ¬ op.HandsOver b s) ops s) :
    BucketInv b (run (BillOp.exec cfg) ops s) :=
  run_induction (fun op s s' => bucketInv_step op s s') (hs.inv b) hops

/-- **The books of a bucket balance.** As long as the bucket was not handed to another user, and
whichever calls failed, its applied delta is the sum of its successful applications and minus what
they changed in the quota of its owner, its version counts them, and no version has two flows. When
nothing is pending any more, the official bill is what was charged in realtime and by the
applications. -/
theorem bucket_books_balance (cfg : Config) (b : Nat) (ops : List BillOp) (s : Store)
    (hs : NoBuckets s)
    (hops : Along (BillOp.exec cfg) (fun op s => ¬ op.HandsOver b s) ops s) :
    let t := run (BillOp.exec cfg) ops s
    (∀ row, t.billingBuckets[b]? = some row → BucketBooks b row t) ∧
    (∀ setting faults options t' row,
      applyQiniuBillingBucket cfg setting faults b options t = (.ok .applied, t') →
      t'.billingBuckets[b]? = some row →
      row.officialQuota = row.localRealtimeQuota + row.appliedDeltaQuota) ∧
    (∀ env tokenId billingDate row,
      (recalculateQiniuBillingBucket cfg env tokenId billingDate t).2.billingBuckets[b]? =
        some row →
      row.pendingDeltaQuota = 0 →
      row.officialQuota = row.localRealtimeQuota + row.appliedDeltaQuota) := by
  intro t
  have hinv : BucketInv b t := bucketInv_run hs hops
  have hclosed : ∀ {t' : Store} {row : QiniuBillingBucket}, BucketInv b t' →
      t'.billingBuckets[b]? = some row → row.pendingDeltaQuota = 0 →
      row.officialQuota = row.localRealtimeQuota + row.appliedDeltaQuota := by
    intro t' row ht' hrow hzero
    have := (ht'.row row hrow).pending
    omega
  refine ⟨fun row hrow => hinv.books hrow, ?_, ?_⟩
  · intro setting faults options t' row happly hrow
    obtain ⟨bucket, ha⟩ := applyQiniuBillingBucket_applied happly
    refine hclosed (hinv.applied ha.row ha.applied) hrow ?_
    -- a successful application leaves nothing pending
    rw [ha.applied.buckets, getElem?_modify_self ha.row] at hrow
    rw [← some.inj hrow]
    rfl
  · intro env tokenId billingDate row hrow hzero
    exact hclosed (bucketInv_rules.recalculateBucket hinv) hrow hzero

/-- One managed key of user 1. -/
def billedKey : Store where
  tokens := [{ userId := 1, key := "abc0123uvwxyz", enabled := true, qiniuManaged := true }]

def billingEnv : BillingEnv where
  setting := { costDetailAutoApplyEnabled := true, cutoverBillingDate := some "2026-01-01" }
  usage := some { applications := [], logs := [] }

def billLine (feeAmount : ℚ) : QiniuOfficialCostDetailItem where
  apiKey := "sk-abc***uvwxyz"
  modelName := "model"
  billingItem := "input"
  feeAmount := feeAmount

/-- A bill that is corrected upwards, in vain at first, and then downwards. -/
def correctedBill : List BillOp :=
  [.sync { billingEnv with } "2026-02-01" (billLine (1 / 1000)),
    .sync { billingEnv with faults := { application := true } } "2026-02-01"
      (billLine (3 / 1000)),
    .retry billingEnv 1,
    .sync { billingEnv with } "2026-02-01" (billLine (2 / 1000))]

theorem bucket_books_balance_corrected :
    Along (BillOp.exec .shipped) (fun op s => ¬ op.HandsOver 0 s) correctedBill billedKey ∧
    ∃ row, (run (BillOp.exec .shipped) correctedBill billedKey).billingBuckets[0]? = some row ∧
      row.appliedDeltaQuota = 1000 ∧ row.applyVersion = 3 ∧
      BucketBooks 0 row (run (BillOp.exec .shipped) correctedBill billedKey) := by
  have hops : Along (BillOp.exec .shipped) (fun op s => ¬ op.HandsOver 0 s) correctedBill
      billedKey := by decide +kernel
  have hrow : ((run (BillOp.exec .shipped) correctedBill billedKey).billingBuckets[0]?.map
      fun row => (row.appliedDeltaQuota, row.applyVersion)) = some (1000, 3) := by decide +kernel
  obtain ⟨row, hget, heq⟩ := map_eq_some_iff.mp hrow
  obtain ⟨happ, hver⟩ := Prod.mk.inj heq
  exact ⟨hops, row, hget, happ, hver,
    (bucket_books_balance .shipped 0 correctedBill billedKey
      ⟨rfl, rfl, by simp [billedKey], by simp [billedKey]⟩ hops).1 row hget⟩

end ApiGateway
