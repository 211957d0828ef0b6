import ApiGateway.Proof.Funding
import ApiGateway.Service.CostDetail

/-!
# What each billing call can do

One inversion lemma for each transaction of the billing buckets: what it found and what the new
store is. A call is a sequence of transactions, of which any may be refused, so whatever the
transactions keep, the calls keep, too: `BillRules` lists what there is to show.
-/

namespace ApiGateway

open Table

variable {cfg : Config} {s s' : Store}
variable {options : ApplyOptions} {bucketId id tokenId : Nat} {setting : QiniuCostDetailSetting}
  {billingDate : String} {faults : BillingFaults} {env : BillingEnv}

/-! ## Transactions -/

theorem orFailure_eq_ok {α : Type} {x : Except Err α} {a : α} :
    orFailure x = .ok a ↔ x = .ok a := by
  cases x <;> simp [orFailure]

theorem check_failed {go : Bool}
    {existing : Option (Nat × QiniuBillingBucketApplication)} {a : QiniuBillingBucketApplication}
    (h : options.check existing = .ok go) (hgo : go = true) (he : existing = some (id, a)) :
    a.status = .failed := by
  subst he
  have hall : ((some (id, a)).all fun e => e.2.status == .failed) = go := by
    unfold ApplyOptions.check at h
    split at h
    · exact pure_eq_ok.mp h
    · simp only [bind_eq_ok, pure_eq_ok] at h
      obtain ⟨-, -, -, -, h⟩ := h
      exact h
  rw [hgo] at hall
  simpa using hall

/-- Everything an application writes is from the bucket as it stands, and over an application
that has failed. -/
structure Applies (cfg : Config) (bucketId : Nat) (bucket : QiniuBillingBucket) (s s' : Store) :
    Prop where
  row : s.billingBuckets[bucketId]? = some bucket
  writes : ∃ existing source, (∀ id a, existing = some (id, a) →
      ∃ a', s.bucketApplications[id]? = some a' ∧ a'.bucketId = bucketId ∧ a'.status = .failed) ∧
    bucket.writeApplication cfg bucketId existing source s = .ok s'

theorem applyQiniuBillingBucketTx_ok {outcome : ApplyOutcome}
    (h : applyQiniuBillingBucketTx cfg setting bucketId options s = .ok (outcome, s')) :
    (outcome = .skipped ∧ s' = s) ∨
    (outcome = .applied ∧ ∃ bucket, Applies cfg bucketId bucket s s') := by
  unfold applyQiniuBillingBucketTx at h
  simp only [bind_eq_ok, orFail_eq_ok] at h
  obtain ⟨bucket, hbucket, admitted, -, h⟩ := h
  split at h
  · obtain ⟨rfl, rfl⟩ := Prod.mk.inj (pure_eq_ok.mp h)
    exact .inl ⟨rfl, rfl⟩
  simp only [bind_eq_ok] at h
  obtain ⟨checked, hchecked, h⟩ := h
  split at h
  · obtain ⟨rfl, rfl⟩ := Prod.mk.inj (pure_eq_ok.mp h)
    exact .inl ⟨rfl, rfl⟩
  rename_i hgo
  simp only [bind_eq_ok, pure_eq_ok] at h
  obtain ⟨-, -, s1, hs1, h⟩ := h
  obtain ⟨rfl, rfl⟩ := Prod.mk.inj h
  refine .inr ⟨rfl, bucket, hbucket, _, _, ?_, orFailure_eq_ok.mp hs1⟩
  -- what was found and not skipped has failed before
  intro id a he
  obtain ⟨hget, hp⟩ := lookup_some he
  have hfailed := check_failed hchecked (by simpa using hgo) he
  simp only [Bool.and_eq_true, beq_iff_eq] at hp
  exact ⟨a, hget, hp.1, hfailed⟩

theorem bucketOf_some {bucket : QiniuBillingBucket}
    (h : s.bucketOf tokenId billingDate = some (id, bucket)) :
    s.billingBuckets[id]? = some bucket ∧ bucket.tokenId = some tokenId ∧
      bucket.billingDate = billingDate := by
  obtain ⟨hget, hp⟩ := lookup_some h
  simp only [Bool.and_eq_true, beq_iff_eq] at hp
  exact ⟨hget, hp.1, hp.2⟩

theorem recalculateQiniuBillingBucketTx_ok {localRealtime : Int × QiniuBillingLocalRealtimeStatus}
    (h : recalculateQiniuBillingBucketTx cfg setting tokenId billingDate localRealtime s =
      .ok (id, s')) :
    ∃ token, s.tokens[tokenId]? = some token ∧
      saveRecalculatedBucket (s.bucketOf tokenId billingDate)
        (recalculatedBucket cfg setting tokenId billingDate token
          (s.attributedRecords tokenId billingDate) localRealtime
          (s.bucketOf tokenId billingDate))
        (s.attributedRecords tokenId billingDate) s = (id, s') := by
  unfold recalculateQiniuBillingBucketTx at h
  simp only [bind_eq_ok, orFail_eq_ok, pure_eq_ok] at h
  obtain ⟨token, htoken, -, -, h⟩ := h
  exact ⟨token, htoken, h⟩

theorem recalculateQiniuBillingBucketTx_ok_iff
    {localRealtime : Int × QiniuBillingLocalRealtimeStatus} :
    (∃ r, recalculateQiniuBillingBucketTx cfg setting tokenId billingDate localRealtime s = .ok r) ↔
      (∃ token ∈ s.tokens[tokenId]?, token.qiniuManaged = true) ∧
        s.attributedRecords tokenId billingDate ≠ [] := by
  unfold recalculateQiniuBillingBucketTx recalculableToken
  simp only [bind_eq_ok, orFail_eq_ok, failIf_eq_ok, pure_eq_ok, List.isEmpty_iff, not_not,
    Option.mem_def]
  constructor
  · rintro ⟨r, token, htoken, -, ⟨-, hmanaged, hrecords⟩, -⟩
    exact ⟨⟨token, htoken, hmanaged⟩, hrecords⟩
  · rintro ⟨⟨token, htoken, hmanaged⟩, hrecords⟩
    exact ⟨_, token, htoken, (), ⟨(), hmanaged, hrecords⟩, rfl⟩

/-- What an assignment of a bucket found and changed: the bucket goes to the token if the
token has none for that day. -/
theorem assignBucketTx_ok {out : (String × Bool) × Store}
    (h : assignBucketTx bucketId tokenId s = .ok out) :
    ∃ token source ids, s.tokens[tokenId]? = some token ∧
      (s.billingBuckets[bucketId]? = some source ∧
        qiniuBillingBucketRawRecordIdsTx bucketId source s = .ok ids) ∧
      ((s.bucketOf tokenId source.billingDate = none ∧ out.1.2 = true ∧
        out.2 = (s.assignOpenRecords ids tokenId token).updateBucket bucketId
          (·.handedTo tokenId token)) ∨
      out.2 = s.assignOpenRecords ids tokenId token) := by
  unfold assignBucketTx manualToken at h
  simp only [bind_eq_ok, orFail_eq_ok, pure_eq_ok] at h
  obtain ⟨_, ⟨token, htoken, -, -, rfl⟩, source, hsource, ids, hids, -, -, -, -, h⟩ := h
  refine ⟨token, source, ids, htoken, ⟨hsource, hids⟩, ?_⟩
  split at h
  · rename_i hnone
    rw [pure_eq_ok] at h
    subst h
    exact .inl ⟨hnone, rfl, rfl⟩
  · rw [pure_eq_ok] at h
    subst h
    exact .inr rfl

theorem applyQiniuBillingBucket_cases :
    (∃ outcome s', applyQiniuBillingBucketTx cfg setting bucketId options s = .ok (outcome, s') ∧
      applyQiniuBillingBucket cfg setting faults bucketId options s = (.ok outcome, s')) ∨
    ∃ e, applyQiniuBillingBucket cfg setting faults bucketId options s =
      (.error e, afterApplyError cfg faults bucketId s e) := by
  unfold applyQiniuBillingBucket
  split
  · rename_i outcome s' h
    split at h
    · cases h
    · exact .inl ⟨outcome, s', h, rfl⟩
  · exact .inr ⟨_, rfl⟩

/-- What a change of status and a failed application keep, an application that was not made
keeps. -/
theorem afterApplyError_rule {J : Store → Prop} {e : BucketErr}
    (hstatus : ∀ bucketId status s, J s → J (updateQiniuBillingBucketStatusTx bucketId status s))
    (hfailed : ∀ bucketId cause s, J s →
      J (recordQiniuBillingBucketFailedApplication cfg bucketId cause s)) (h : J s) :
    J (afterApplyError cfg faults bucketId s e) := by
  cases e with
  | failure e =>
    have hmarked : J (if faults.status then s
        else markQiniuBillingBucketFailed bucketId e s) := by
      split
      · exact h
      · exact hstatus _ _ _ h
    simp only [afterApplyError]
    split
    · exact hmarked
    · exact hfailed _ _ _ hmarked
  | validation _ status =>
    cases status with
    | none => exact h
    | some =>
      simp only [afterApplyError]
      split
      · exact h
      · exact hstatus _ _ _ h

/-! ## Calls -/

/-- What every transaction on the buckets keeps, except for handing one over. -/
structure BucketRules (cfg : Config) (J : Store → Prop) : Prop where
  recalculate : ∀ setting tokenId billingDate localRealtime s id s',
    recalculateQiniuBillingBucketTx cfg setting tokenId billingDate localRealtime s =
      .ok (id, s') → J s → J s'
  apply : ∀ bucketId bucket s s', Applies cfg bucketId bucket s s' → J s → J s'
  status : ∀ bucketId status s, J s → J (updateQiniuBillingBucketStatusTx bucketId status s)
  failed : ∀ bucketId cause s, J s →
    J (recordQiniuBillingBucketFailedApplication cfg bucketId cause s)

/-- What these transactions and every change of the records keep. -/
structure BillRules (cfg : Config) (J : Store → Prop) : Prop extends BucketRules cfg J where
  records : ∀ s records, J s → J { s with costDetailRecords := records }

/-- The store once the owner of a record is decided, before the bucket is recalculated. -/
def Store.ownerDecided (env : OwnershipEnv) (id : Nat) (s : Store) : Store :=
  match s.costDetailRecords[id]? with
  | none => s
  | some record =>
    match record.ownerStatus, record.tokenId with
    | .manualResolved, some _ => s
    | _, _ =>
      match storageCall env.faults.resolution (ownershipOf env record s) with
      | .error _ => s
      | .ok owner => s.updateRecord id (·.ownedBy owner s)

theorem ownerDecided_records (env : OwnershipEnv) (id : Nat) (s : Store) :
    ∃ f, s.ownerDecided env id = s.updateRecord id f := by
  have hid : s = s.updateRecord id fun r => r :=
    congrArg (fun records => { s with costDetailRecords := records }) (List.modify_id ..).symm
  unfold Store.ownerDecided
  split
  · exact ⟨_, hid⟩
  split
  · exact ⟨_, hid⟩
  split
  · exact ⟨_, hid⟩
  · exact ⟨_, rfl⟩

namespace BucketRules

variable {J : Store → Prop} (hJ : BucketRules cfg J)

include hJ

theorem applyBucket (h : J s) :
    J (applyQiniuBillingBucket cfg setting faults bucketId options s).2 := by
  rcases applyQiniuBillingBucket_cases with ⟨outcome, s', htx, heq⟩ | ⟨e, heq⟩
  · rw [heq]
    rcases applyQiniuBillingBucketTx_ok htx with ⟨-, rfl⟩ | ⟨-, bucket, ha⟩
    · exact h
    · exact hJ.apply _ _ _ _ ha h
  · rw [heq]
    exact afterApplyError_rule hJ.status hJ.failed h

theorem applyRecalculated (h : J s) : J (applyRecalculated cfg env bucketId s).2 := by
  unfold ApiGateway.applyRecalculated
  split
  · have happly : J (applyQiniuBillingBucket cfg env.setting env.faults bucketId {} s).2 :=
      hJ.applyBucket h
    generalize applyQiniuBillingBucket cfg env.setting env.faults bucketId {} s = r at happly
    obtain ⟨_ | _, s'⟩ := r <;> exact happly
  · exact h

theorem recalculateBucket (h : J s) :
    J (recalculateQiniuBillingBucket cfg env tokenId billingDate s).2 := by
  unfold recalculateQiniuBillingBucket
  split
  · exact h
  split
  · exact h
  · rename_i htx
    exact hJ.applyRecalculated (hJ.recalculate _ _ _ _ _ _ _ (storageCall_eq_ok.mp htx).2 h)

theorem resolve {env : OwnershipEnv} (h : J (s.ownerDecided env id)) :
    J (resolveQiniuCostDetailRecordOwnership cfg env id s).2 := by
  unfold Store.ownerDecided at h
  unfold resolveQiniuCostDetailRecordOwnership
  cases hrecord : s.costDetailRecords[id]? with
  | none =>
    rw [hrecord] at h
    exact h
  | some record =>
    rw [hrecord] at h
    dsimp only at h ⊢
    split
    · rename_i hstatus htoken
      rw [hstatus, htoken] at h
      exact hJ.recalculateBucket h
    rename_i hother
    split at h
    · rename_i hstatus htoken
      exact (hother _ hstatus htoken).elim
    cases howner : storageCall env.faults.resolution (ownershipOf env record s) with
    | error =>
      rw [howner] at h
      exact h
    | ok owner =>
      rw [howner] at h
      dsimp only [updateQiniuCostDetailOwnership]
      split
      · exact h
      · exact hJ.recalculateBucket h

theorem assignRecord {recordId : Nat} (h : J s)
    (hassign : ∀ token, s.tokens[tokenId]? = some token →
      J (s.updateRecord recordId (·.assigned tokenId token))) :
    J (manuallyResolveQiniuCostDetailRawRecordOwnership cfg env recordId tokenId s).2 := by
  unfold manuallyResolveQiniuCostDetailRawRecordOwnership
  split
  · exact h
  rename_i hcall
  have htx := (storageCall_eq_ok.mp hcall).2
  unfold assignRecordTx manualToken at htx
  simp only [bind_eq_ok, orFail_eq_ok, pure_eq_ok] at htx
  obtain ⟨_, ⟨token, htoken, -, -, rfl⟩, record, -, htx⟩ := htx
  obtain rfl := (Prod.mk.inj htx).2
  exact hJ.recalculateBucket (hassign token htoken)

theorem assignBucket (h : J s)
    (hassign : ∀ out, assignBucketTx bucketId tokenId s = .ok out → J out.2) :
    J (manuallyResolveQiniuBillingBucketOwnership cfg env bucketId tokenId s).2 := by
  unfold manuallyResolveQiniuBillingBucketOwnership
  split
  · exact h
  rename_i billingDate reused s' hcall
  have hrec : J (recalculateQiniuBillingBucket cfg env tokenId billingDate s').2 :=
    hJ.recalculateBucket (hassign _ (storageCall_eq_ok.mp hcall).2)
  generalize recalculateQiniuBillingBucket cfg env tokenId billingDate s' = r at hrec
  obtain ⟨_ | target, s''⟩ := r
  · exact hrec
  dsimp only
  split
  · exact hJ.status _ _ _ hrec
  · exact hrec

/-- **One call.** Whatever the transactions keep, a call keeps, if the records it changes do. -/
theorem call {op : BillOp} (hexec : op.exec cfg s = .ok s') (h : J s)
    (hupsert : ∀ env windowDate item, op = .sync env windowDate item →
      J ((upsertQiniuCostDetailRecord (item.record windowDate) s).2.ownerDecided env
        (upsertQiniuCostDetailRecord (item.record windowDate) s).1))
    (hresolve : ∀ env id, op = .resolve env id → J (s.ownerDecided env id))
    (hrecord : ∀ env id tokenId token, op = .assignRecord env id tokenId →
      s.tokens[tokenId]? = some token → J (s.updateRecord id (·.assigned tokenId token)))
    (hassign : ∀ env bucketId tokenId out, op = .assignBucket env bucketId tokenId →
      assignBucketTx bucketId tokenId s = .ok out → J out.2) : J s' := by
  cases op <;> simp only [BillOp.exec, Except.ok.injEq] at hexec <;> subst hexec
  case sync env windowDate item =>
    unfold persistQiniuCostDetailItem
    split
    · exact h
    · exact hJ.resolve (hupsert _ _ _ rfl)
  case resolve env recordId => exact hJ.resolve (hresolve _ _ rfl)
  case assignRecord env recordId tokenId =>
    exact hJ.assignRecord h fun token => hrecord env recordId tokenId token rfl
  case assignBucket env bucketId tokenId =>
    exact hJ.assignBucket h fun out => hassign env bucketId tokenId out rfl
  case recalculate env tokenId billingDate => exact hJ.recalculateBucket h
  case apply env bucketId => exact hJ.applyBucket h
  case retry env applicationId =>
    unfold adminRetryQiniuBillingBucketApplication
    split
    · exact h
    · exact hJ.applyBucket h
  case skip env bucketId reason =>
    unfold adminSkipQiniuBillingBucket
    repeat' split
    all_goals first | exact h | exact hJ.status _ _ _ h

end BucketRules

theorem upsertQiniuCostDetailRecord_records (record : QiniuCostDetailRecord) (s : Store) :
    ∃ records, (upsertQiniuCostDetailRecord record s).2 =
      { s with costDetailRecords := records } := by
  unfold upsertQiniuCostDetailRecord
  split
  · exact ⟨_, rfl⟩
  · exact ⟨_, rfl⟩

theorem BillRules.step {J : Store → Prop} (hJ : BillRules cfg J) {op : BillOp}
    (hexec : op.exec cfg s = .ok s') (h : J s)
    (hassign : ∀ env bucketId tokenId out, op = .assignBucket env bucketId tokenId →
      assignBucketTx bucketId tokenId s = .ok out → J out.2) : J s' := by
  have hdecided : ∀ env id s, J s → J (s.ownerDecided env id) := by
    intro env id s h
    obtain ⟨f, heq⟩ := ownerDecided_records env id s
    exact heq ▸ hJ.records _ _ h
  refine hJ.call hexec h (fun env windowDate item _ => hdecided _ _ _ ?_)
    (fun env id _ => hdecided env id s h) (fun _ _ _ _ _ _ => hJ.records _ _ h) hassign
  obtain ⟨records, heq⟩ := upsertQiniuCostDetailRecord_records (item.record windowDate) s
  exact heq ▸ hJ.records _ _ h

end ApiGateway
