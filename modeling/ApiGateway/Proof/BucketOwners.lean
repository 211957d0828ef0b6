import ApiGateway.Proof.BucketLedger

/-!
# Who pays for the official bill

Once everything has been recalculated and applied, a user should have paid for exactly the records
attributed to the user's tokens. But a recalculation without records is refused, so a bucket whose
last record went elsewhere keeps what it has charged. `userCharged_add_userLocal` says what this
costs: its user pays, on top of the records, the official quota of every bucket without records.
-/

namespace ApiGateway

open Table Runs List

variable {cfg : Config} {u : Nat} {s s' : Store}
variable {tokenId : Nat} {billingDate : String}

/-! ## What a user has paid and owes -/

def userCharged (u : Nat) (s : Store) : Int :=
  -((s.journal.filter fun p =>
    (p.key.bind FlowKey.bucketId?).isSome && p.userId == u).map (·.quota)).sum

def userBuckets (u : Nat) (s : Store) : List QiniuBillingBucket :=
  s.billingBuckets.filter (·.userId == u)

def userApplied (u : Nat) (s : Store) : Int := ((userBuckets u s).map (·.appliedDeltaQuota)).sum

def userLocal (u : Nat) (s : Store) : Int := ((userBuckets u s).map (·.localRealtimeQuota)).sum

/-- The token and day that a record is attributed to. -/
def QiniuCostDetailRecord.billedDay (r : QiniuCostDetailRecord) : Option (Nat × String) :=
  if r.isResolved then r.tokenId.map fun t => (t, r.billingDate) else none

def Store.billedDays (s : Store) : List (Nat × String) :=
  (s.costDetailRecords.filterMap (·.billedDay)).dedup

/-- The official quota of the records that are attributed to the tokens of user `u`, by token and
day, as it is charged. -/
def userOfficial (cfg : Config) (u : Nat) (s : Store) : Int :=
  ((s.billedDays.filter fun d => s.tokenUser d.1 == some u).map fun d =>
    officialQuotaOf cfg (s.attributedRecords d.1 d.2)).sum

def QiniuBillingBucket.Backed (row : QiniuBillingBucket) (s : Store) : Prop :=
  ∃ tokenId ∈ row.tokenId, (tokenId, row.billingDate) ∈ s.billedDays

instance QiniuBillingBucket.decidableBacked (row : QiniuBillingBucket) (s : Store) :
    Decidable (row.Backed s) :=
  inferInstanceAs (Decidable (∃ tokenId ∈ row.tokenId, (tokenId, row.billingDate) ∈ s.billedDays))

/-- The official quota that the buckets of user `u` without records still stand for. -/
def strandedQuota (u : Nat) (s : Store) : Int :=
  (((userBuckets u s).filter fun row => !decide (row.Backed s)).map (·.officialQuota)).sum

@[mk_iff]
structure BillsSettled (cfg : Config) (s : Store) : Prop where
  /-- No bucket waits for a recalculation: whatever records there are, the bucket has been
  recalculated from them. -/
  recalculated : ∀ d ∈ s.billedDays, ((s.bucketOf d.1 d.2).map fun b => b.2.officialQuota) =
    some (officialQuotaOf cfg (s.attributedRecords d.1 d.2))
  applied : ∀ row ∈ s.billingBuckets, row.pendingDeltaQuota = 0
  succeeded : ∀ a ∈ s.bucketApplications, a.status = .success

/-! ## One bucket for a token and day -/

def QiniuBillingBucket.day (row : QiniuBillingBucket) : Option Nat × String :=
  (row.tokenId, row.billingDate)

def Store.bucketDays (s : Store) : List (Option Nat × String) := s.billingBuckets.map (·.day)

theorem bucketOf_none (h : s.bucketOf tokenId billingDate = none) :
    (some tokenId, billingDate) ∉ s.bucketDays := by
  intro hmem
  obtain ⟨row, hrow, hday⟩ := mem_map.mp hmem
  have hp := lookup_none h row hrow
  rw [QiniuBillingBucket.day, Prod.mk.injEq] at hday
  simp [hday.1, hday.2] at hp

theorem recalculateQiniuBillingBucketTx_saves {setting : QiniuCostDetailSetting} {id : Nat}
    {localRealtime : Int × QiniuBillingLocalRealtimeStatus}
    (h : recalculateQiniuBillingBucketTx cfg setting tokenId billingDate localRealtime s =
      .ok (id, s')) :
    ∃ row : QiniuBillingBucket, row.day = (some tokenId, billingDate) ∧
      (saveRecalculatedBucket (s.bucketOf tokenId billingDate) row
        (s.attributedRecords tokenId billingDate) s).2 = s' := by
  obtain ⟨token, -, hsave⟩ := recalculateQiniuBillingBucketTx_ok h
  refine ⟨_, ?_, congrArg Prod.snd hsave⟩
  cases hread : s.bucketOf tokenId billingDate with
  | none => rfl
  | some =>
    obtain ⟨-, htok, hdate⟩ := bucketOf_some hread
    exact Prod.ext htok hdate

theorem bucketDays_rules : BillRules cfg fun s => s.bucketDays.Nodup where
  records _ _ h := h
  recalculate setting tokenId billingDate localRealtime s id s' htx h := by
    obtain ⟨row, hday, rfl⟩ := recalculateQiniuBillingBucketTx_saves htx
    cases hread : s.bucketOf tokenId billingDate with
    | none =>
      -- a new bucket
      show ((s.billingBuckets ++ [row]).map (·.day)).Nodup
      rw [map_append, map_singleton, hday]
      exact concat_eq_append ▸ h.concat (bucketOf_none hread)
    | some found =>
      obtain ⟨id, bucket⟩ := found
      obtain ⟨hget, htok, hdate⟩ := bucketOf_some hread
      show ((s.billingBuckets.modify id fun _ => row).map (·.day)).Nodup
      rw [map_modify_of_eq hget (by rw [hday]; exact (Prod.ext htok hdate).symm)]
      exact h
  apply bucketId bucket s s' ha h := by
    show (s'.billingBuckets.map (·.day)).Nodup
    rw [ha.applied.buckets, map_modify_of_eq ha.row rfl]
    exact h
  status bucketId status s h := by
    show ((s.billingBuckets.modify bucketId _).map (·.day)).Nodup
    cases hget : s.billingBuckets[bucketId]? with
    | none => rwa [modify_eq_self (getElem?_eq_none_iff.mp hget)]
    | some => rwa [map_modify_of_eq hget rfl]
  failed bucketId cause s h := by
    unfold recordQiniuBillingBucketFailedApplication writeFailedApplication
    split
    · exact h
    · split
      · exact h
      · split <;> exact h

/-- A bucket is handed over only to a token that has none for the day. -/
theorem assignBucketTx_days {bucketId : Nat} {out : (String × Bool) × Store}
    (h : s.bucketDays.Nodup) (htx : assignBucketTx bucketId tokenId s = .ok out) :
    out.2.bucketDays.Nodup := by
  obtain ⟨token, source, ids, -, ⟨hsource, -⟩, ⟨hnone, -, hout⟩ | hout⟩ := assignBucketTx_ok htx
  · rw [hout]
    show ((s.billingBuckets.modify bucketId _).map (·.day)).Nodup
    rw [map_modify_eq_set hsource]
    exact List.Nodup.set h (bucketOf_none hnone)
  · rw [hout]
    exact h

/-! ## What was charged is what was applied -/

theorem userCharged_eq_userApplied (hinv : ∀ b, BucketInv b s) :
    userCharged u s = userApplied u s := by
  -- the postings of all buckets there are or have ever been written for
  let key : Posting → Option Nat := fun p => p.key.bind FlowKey.bucketId?
  let mine := s.journal.filter fun p => p.userId == u
  let ids := Finset.range s.billingBuckets.length ∪ (mine.filterMap key).toFinset
  have hsum : ((mine.filter fun p => (key p).isSome).map (·.quota)).sum =
      ∑ b ∈ ids, bucketCredit b u s := by
    rw [sum_map_filter_isSome ids]
    · refine Finset.sum_congr rfl fun b _ => ?_
      rw [filter_filter]
      rfl
    · intro p hp b hb
      exact Finset.mem_union_right _ (mem_toFinset.mpr (mem_filterMap.mpr ⟨p, hp, hb⟩))
  -- those of a bucket that does not exist add up to nothing
  have hrange : ∑ b ∈ ids, bucketCredit b u s =
      ∑ b ∈ Finset.range s.billingBuckets.length, bucketCredit b u s := by
    refine (Finset.sum_subset Finset.subset_union_left fun b _ hb => ?_).symm
    refine ((hinv b).fresh ?_).2 u
    simpa using hb
  have hcharged : userCharged u s = -∑ b ∈ ids, bucketCredit b u s := by
    rw [← hsum, filter_filter]
    rfl
  rw [hcharged, hrange, userApplied, userBuckets, sum_map_filter, sum_map_eq_sum_range,
    ← Finset.sum_neg_distrib]
  refine Finset.sum_congr rfl fun b hb => ?_
  obtain ⟨row, hrow⟩ : ∃ row, s.billingBuckets[b]? = some row :=
    ⟨_, getElem?_eq_getElem (Finset.mem_range.mp hb)⟩
  have hbr := (hinv b).row row hrow
  rw [hrow]
  by_cases hu : row.userId = u
  · subst hu
    simp [hbr.charged]
  · simp [hu, hbr.others u (Ne.symm hu)]

/-! ## What was applied is the official bill -/

theorem backed_official (hinv : ∀ b, BucketInv b s) (hdays : s.bucketDays.Nodup)
    (hs : BillsSettled cfg s) :
    (((userBuckets u s).filter fun row => decide (row.Backed s)).map (·.officialQuota)).sum =
      userOfficial cfg u s := by
  let official : Option Nat × String → Int := fun d =>
    officialQuotaOf cfg (s.attributedRecords (d.1.getD 0) d.2)
  -- the bucket that stands for a day
  have hbucket : ∀ t d, (t, d) ∈ s.billedDays → ∃ row ∈ s.billingBuckets,
      row.day = (some t, d) ∧ row.officialQuota = official (some t, d) := by
    intro t d hd
    obtain ⟨⟨id, row⟩, hof, hrow⟩ := Option.map_eq_some_iff.mp (hs.recalculated (t, d) hd)
    obtain ⟨hget, htok, hdate⟩ := bucketOf_some hof
    exact ⟨row, mem_of_getElem? hget, Prod.ext htok hdate, hrow⟩
  have howner : ∀ row ∈ s.billingBuckets, row.tokenId.bind s.tokenUser = some row.userId := by
    intro row hrow
    obtain ⟨b, hb⟩ := mem_iff_getElem?.mp hrow
    exact ((hinv b).row row hb).owner
  have hmap : (((userBuckets u s).filter fun row => decide (row.Backed s)).map (·.officialQuota)) =
      (((userBuckets u s).filter fun row => decide (row.Backed s)).map (·.day)).map official := by
    rw [map_map]
    refine map_congr_left fun row hrow => ?_
    simp only [userBuckets, mem_filter, decide_eq_true_eq] at hrow
    obtain ⟨⟨hmem, -⟩, t, ht, hd⟩ := hrow
    obtain ⟨row', hmem', hday', hofficial⟩ := hbucket t row.billingDate hd
    have hday : row.day = (some t, row.billingDate) := Prod.ext ht rfl
    have heq : row = row' := inj_on_of_nodup_map hdays hmem hmem' (hday.trans hday'.symm)
    rw [Function.comp_apply, hday, ← hofficial, heq]
  have hmap' : (s.billedDays.filter fun d => s.tokenUser d.1 == some u).map
      (fun d => officialQuotaOf cfg (s.attributedRecords d.1 d.2)) =
      ((s.billedDays.filter fun d => s.tokenUser d.1 == some u).map
        fun d => (some d.1, d.2)).map official := by
    rw [map_map]
    rfl
  rw [userOfficial, hmap, hmap']
  refine (List.Perm.map official ?_).sum_eq
  rw [perm_ext_iff_of_nodup]
  · intro day
    simp only [mem_map, mem_filter, userBuckets, beq_iff_eq, decide_eq_true_eq]
    constructor
    · rintro ⟨row, ⟨⟨hmem, rfl⟩, t, ht, hd⟩, rfl⟩
      have huser := howner row hmem
      rw [ht] at huser
      exact ⟨(t, row.billingDate), ⟨hd, huser⟩, Prod.ext ht.symm rfl⟩
    rintro ⟨⟨t, d⟩, ⟨hd, huser⟩, rfl⟩
    obtain ⟨row, hmem, hday, -⟩ := hbucket t d hd
    obtain ⟨ht, rfl⟩ := Prod.mk.inj hday
    have hrow := howner row hmem
    rw [ht, Option.bind_some, huser, Option.some.injEq] at hrow
    exact ⟨row, ⟨⟨hmem, hrow.symm⟩, t, ht, hd⟩, hday⟩
  · exact hdays.sublist ((filter_sublist.trans filter_sublist).map _)
  · refine List.Nodup.map ?_ ((nodup_dedup _).filter _)
    rintro ⟨t, d⟩ ⟨t', d'⟩ heq
    simpa using heq

/-- **What a user pays**, when nothing is left to do: the records attributed to the user's tokens,
and the buckets without records. -/
theorem userCharged_add_userLocal (hinv : ∀ b, BucketInv b s) (hdays : s.bucketDays.Nodup)
    (hs : BillsSettled cfg s) :
    userCharged u s + userLocal u s = userOfficial cfg u s + strandedQuota u s := by
  have hclosed : userApplied u s + userLocal u s =
      ((userBuckets u s).map (·.officialQuota)).sum := by
    rw [userApplied, userLocal, ← sum_map_add]
    refine congrArg List.sum (map_congr_left fun row hrow => ?_)
    have hmem : row ∈ s.billingBuckets := mem_of_mem_filter hrow
    obtain ⟨b, hb⟩ := mem_iff_getElem?.mp hmem
    have hpending := ((hinv b).row row hb).pending
    have hzero := hs.applied row hmem
    omega
  rw [userCharged_eq_userApplied hinv, hclosed, ← backed_official hinv hdays hs]
  exact (sum_map_filter_add _ _).symm

/-! ## Buckets and their records -/

/-- No bucket with an official quota has lost its records. -/
def Store.Backs (s : Store) : Prop :=
  ∀ row ∈ s.billingBuckets, row.officialQuota = 0 ∨ row.Backed s

theorem mem_billedDays {d : Nat × String} :
    d ∈ s.billedDays ↔ ∃ r ∈ s.costDetailRecords, r.billedDay = some d := by
  simp [Store.billedDays]

theorem billedDay_eq_some {r : QiniuCostDetailRecord} {d : Nat × String} :
    r.billedDay = some d ↔ r.isResolved = true ∧ r.tokenId = some d.1 ∧ r.billingDate = d.2 := by
  unfold QiniuCostDetailRecord.billedDay
  split
  · rename_i hresolved
    cases r.tokenId <;> simp [hresolved, Prod.ext_iff]
  · rename_i hopen
    simp [hopen]

theorem Store.Backs.of_rows (h : s.Backs) (hrecords : s'.costDetailRecords = s.costDetailRecords)
    (hrows : ∀ row' ∈ s'.billingBuckets, ∃ row ∈ s.billingBuckets,
      row'.day = row.day ∧ row'.officialQuota = row.officialQuota) : s'.Backs := by
  intro row' hrow'
  obtain ⟨row, hrow, hday, hquota⟩ := hrows row' hrow'
  obtain ⟨htoken, hdate⟩ := Prod.mk.inj hday
  rw [hquota, QiniuBillingBucket.Backed, htoken, hdate, Store.billedDays, hrecords]
  exact h row hrow

theorem saveRecalculatedBucket_rows {read : Option (Nat × QiniuBillingBucket)}
    {bucket row' : QiniuBillingBucket} {records : List (QiniuCostDetailRecord × Nat)}
    (hread : ∀ id row, read = some (id, row) → s.billingBuckets[id]? = some row) :
    (saveRecalculatedBucket read bucket records s).2.costDetailRecords = s.costDetailRecords ∧
    (row' ∈ (saveRecalculatedBucket read bucket records s).2.billingBuckets →
      row' = bucket ∨ row' ∈ s.billingBuckets) := by
  cases read with
  | none =>
    refine ⟨rfl, fun hrow' => ?_⟩
    rcases mem_append.mp hrow' with hrow | hrow
    · exact .inr hrow
    · exact .inl (mem_singleton.mp hrow)
  | some found => exact ⟨rfl, mem_modify (hread _ _ rfl)⟩

theorem backs_rules : BucketRules cfg Store.Backs where
  recalculate setting tokenId billingDate localRealtime s id s' htx h := by
    obtain ⟨r, hr⟩ := exists_mem_of_ne_nil _ (recalculateQiniuBillingBucketTx_ok_iff.mp ⟨_, htx⟩).2
    obtain ⟨hmem, hattributed⟩ := mem_filter.mp hr
    simp only [QiniuCostDetailRecord.attributedTo, Bool.and_eq_true, beq_iff_eq] at hattributed
    have hbilled : (tokenId, billingDate) ∈ s.billedDays := mem_billedDays.mpr
      ⟨r.1, fst_mem_of_mem_zipIdx hmem, billedDay_eq_some.mpr ⟨hattributed.2, hattributed.1⟩⟩
    obtain ⟨row, hday, rfl⟩ := recalculateQiniuBillingBucketTx_saves htx
    intro row' hrow'
    obtain ⟨hrecords, hcases⟩ := saveRecalculatedBucket_rows fun id row h => (bucketOf_some h).1
    rw [QiniuBillingBucket.Backed, Store.billedDays, hrecords]
    rcases hcases hrow' with rfl | hrow
    · obtain ⟨htoken, hdate⟩ := Prod.mk.inj hday
      exact .inr ⟨tokenId, htoken, hdate ▸ hbilled⟩
    · exact h row' hrow
  apply bucketId bucket s s' ha h := by
    refine h.of_rows ha.applied.records fun row' hrow' => ?_
    rw [ha.applied.buckets] at hrow'
    rcases mem_modify ha.row hrow' with rfl | hrow
    · exact ⟨bucket, mem_of_getElem? ha.row, rfl, rfl⟩
    · exact ⟨row', hrow, rfl, rfl⟩
  status bucketId status s h := by
    cases hget : s.billingBuckets[bucketId]? with
    | none => rwa [updateQiniuBillingBucketStatusTx, Store.updateBucket,
        modify_eq_self (getElem?_eq_none_iff.mp hget)]
    | some row =>
      refine h.of_rows rfl fun row' hrow' => ?_
      rcases mem_modify hget hrow' with rfl | hrow
      · exact ⟨row, mem_of_getElem? hget, rfl, rfl⟩
      · exact ⟨row', hrow, rfl, rfl⟩
  failed bucketId cause s h := by
    unfold recordQiniuBillingBucketFailedApplication writeFailedApplication
    split
    · exact h
    · split
      · exact h
      · split <;> exact h

/-- The bucket of the record can do without it: another record is of the same token and day, or the
bucket has no official quota. -/
def Store.Spares (s : Store) (id : Nat) : Prop :=
  ∀ r ∈ s.costDetailRecords[id]?, ∀ d ∈ r.billedDay,
    d ∈ (s.costDetailRecords.eraseIdx id).filterMap (·.billedDay) ∨
    ∀ row ∈ s.billingBuckets, row.day = (some d.1, d.2) → row.officialQuota = 0

/-- The record is of this token and day: by hand, or by its masked key. -/
def QiniuCostDetailRecord.StaysWith (env : OwnershipEnv) (s : Store) (d : Nat × String)
    (r : QiniuCostDetailRecord) : Prop :=
  r.billingDate = d.2 ∧
  if r.ownerStatus = .manualResolved ∧ r.tokenId.isSome = true then r.tokenId = some d.1
  else env.faults.resolution = false ∧
    ownershipOf env r s = .ok { status := .resolved, tokenId := some d.1 }

/-- A bucket with an official quota does not lose its last record by the call. -/
def BillOp.KeepsRecords : BillOp → Store → Prop
  | .sync env windowDate item, s =>
    ∀ found ∈ lookup (fun r => r.recordHash == (item.record windowDate).recordHash)
      s.costDetailRecords, s.Spares found.1 ∨
        ∀ d ∈ found.2.billedDay, ((item.record windowDate).refreshed found.2).StaysWith env s d
  | .resolve env id, s => s.Spares id ∨
      ∀ r ∈ s.costDetailRecords[id]?, ∀ d ∈ r.billedDay, r.StaysWith env s d
  | .assignRecord _ id tokenId, s => s.Spares id ∨
      ∀ r ∈ s.costDetailRecords[id]?, ∀ d ∈ r.billedDay, d.1 = tokenId
  | .assignBucket _ bucketId tokenId, s =>
    -- a bucket that is handed over needs a record to go with it
    ∀ row ∈ s.billingBuckets[bucketId]?, s.bucketOf tokenId row.billingDate = none →
      row.officialQuota = 0 ∨ ∃ ids ∈ (qiniuBillingBucketRawRecordIdsTx bucketId row s).toOption,
        ∃ id ∈ ids, ∃ r ∈ s.costDetailRecords[id]?,
          r.isOpen = true ∧ r.billingDate = row.billingDate
  | _, _ => True

variable {id : Nat}

/-- Another row in the place of a record. -/
theorem Store.Backs.write {f : QiniuCostDetailRecord → QiniuCostDetailRecord} (h : s.Backs)
    (hrecord : s.Spares id ∨ ∀ r ∈ s.costDetailRecords[id]?, ∀ d ∈ r.billedDay,
      (f r).billedDay = some d) : (s.updateRecord id f).Backs := by
  intro row hrow
  rcases h row hrow with hzero | ⟨tokenId, htoken, hd⟩
  · exact .inl hzero
  obtain ⟨r, hr, hday⟩ := mem_billedDays.mp hd
  obtain ⟨j, hj⟩ := mem_iff_getElem?.mp hr
  -- a record that is still there backs the row
  have hback : ∀ (i : Nat) r, (s.costDetailRecords.modify id f)[i]? = some r →
      r.billedDay = some (tokenId, row.billingDate) →
      row.officialQuota = 0 ∨ row.Backed (s.updateRecord id f) := fun i r hi hday =>
    .inr ⟨tokenId, htoken, mem_billedDays.mpr ⟨r, mem_of_getElem? hi, hday⟩⟩
  by_cases hid : id = j
  · subst hid
    rcases hrecord with hspares | hstays
    · rcases hspares r hj _ hday with hother | hzero
      · obtain ⟨r', hr', hday'⟩ := mem_filterMap.mp hother
        obtain ⟨i, hne, hi⟩ := mem_eraseIdx_iff_getElem?.mp hr'
        exact hback i r' ((getElem?_modify_ne _ _ (Ne.symm hne)).trans hi) hday'
      · exact .inl (hzero row hrow (Prod.ext htoken rfl))
    · exact hback id _ (getElem?_modify_self hj) (hstays r hj _ hday)
  · exact hback j r ((getElem?_modify_ne _ _ hid).trans hj) hday

theorem QiniuCostDetailRecord.StaysWith.ownerDecided {env : OwnershipEnv}
    {r : QiniuCostDetailRecord} {d : Nat × String}
    {f : QiniuCostDetailRecord → QiniuCostDetailRecord}
    (h : r.StaysWith env s d) (hget : s.costDetailRecords[id]? = some r)
    (hf : s.ownerDecided env id = s.updateRecord id f) : (f r).billedDay = some d := by
  have hwritten : (s.ownerDecided env id).costDetailRecords[id]? = some (f r) := by
    rw [hf]
    exact getElem?_modify_self hget
  obtain ⟨hdate, howner⟩ := h
  unfold Store.ownerDecided at hwritten
  rw [hget] at hwritten
  dsimp only at hwritten
  split at howner
  · rename_i hmanual
    rw [hmanual.1, howner] at hwritten
    rw [← Option.mem_unique hget hwritten, billedDay_eq_some]
    refine ⟨?_, howner, hdate⟩
    rw [isResolved, hmanual.1]
    rfl
  · rename_i hmanual
    split at hwritten
    · rename_i hstatus htoken
      exact absurd ⟨hstatus, by rw [htoken]; rfl⟩ hmanual
    · rw [storageCall_eq_ok.mpr howner] at hwritten
      rw [← Option.mem_unique (getElem?_modify_self hget) hwritten, billedDay_eq_some]
      exact ⟨rfl, rfl, hdate⟩

theorem updateRecord_updateRecord (s : Store) (id : Nat)
    (f g : QiniuCostDetailRecord → QiniuCostDetailRecord) :
    (s.updateRecord id f).updateRecord id g = s.updateRecord id (g ∘ f) :=
  congrArg (fun records => { s with costDetailRecords := records }) (modify_modify_eq ..)

theorem Store.Backs.upsert {env : OwnershipEnv} {record : QiniuCostDetailRecord} (h : s.Backs)
    (hnew : record.billedDay = none)
    (hfound : ∀ found ∈ lookup (fun r => r.recordHash == record.recordHash) s.costDetailRecords,
      s.Spares found.1 ∨ ∀ d ∈ found.2.billedDay, (record.refreshed found.2).StaysWith env s d) :
    ((upsertQiniuCostDetailRecord record s).2.ownerDecided env
      (upsertQiniuCostDetailRecord record s).1).Backs := by
  unfold upsertQiniuCostDetailRecord
  cases hlookup : lookup (fun r => r.recordHash == record.recordHash) s.costDetailRecords with
  | none =>
    obtain ⟨f, hf⟩ := ownerDecided_records env s.costDetailRecords.length
      { s with costDetailRecords := s.costDetailRecords ++ [record] }
    rw [hf]
    refine Store.Backs.write (fun row hrow => (h row hrow).imp_right ?_) (.inr ?_)
    · rintro ⟨tokenId, htoken, hd⟩
      obtain ⟨r, hr, hday⟩ := mem_billedDays.mp hd
      exact ⟨tokenId, htoken, mem_billedDays.mpr ⟨r, mem_append_left _ hr, hday⟩⟩
    · intro r hr d hd
      obtain rfl := Option.mem_unique (getElem?_concat_length ..) hr
      rw [hnew] at hd
      cases hd
  | some found =>
    obtain ⟨id, existing⟩ := found
    have hget := (lookup_some hlookup).1
    obtain ⟨f, hf⟩ := ownerDecided_records env id (s.updateRecord id record.refreshed)
    show ((s.updateRecord id record.refreshed).ownerDecided env id).Backs
    rw [hf, updateRecord_updateRecord]
    refine h.write ((hfound _ hlookup).imp_right fun hstays r hr d hd => ?_)
    obtain rfl := Option.mem_unique hget hr
    have hstay : (record.refreshed existing).StaysWith env (s.updateRecord id record.refreshed) d :=
      hstays d hd
    exact hstay.ownerDecided (getElem?_modify_self hget) hf

theorem Store.Backs.assignBucketTx {env : BillingEnv} {bucketId : Nat}
    {out : (String × Bool) × Store} (h : s.Backs)
    (hop : (BillOp.assignBucket env bucketId tokenId).KeepsRecords s)
    (htx : assignBucketTx bucketId tokenId s = .ok out) : out.2.Backs := by
  obtain ⟨token, source, ids, -, ⟨hsource, hids⟩, hout⟩ := assignBucketTx_ok htx
  have hgets : ∀ (j : Nat) r, s.costDetailRecords[j]? = some r →
      (s.assignOpenRecords ids tokenId token).costDetailRecords[j]? =
        some (if openAmong ids j r then r.assigned tokenId token else r) := by
    intro j r hj
    exact getElem?_updateWhere.trans (by rw [hj]; rfl)
  -- a record that is open is of no token
  have hassigned : (s.assignOpenRecords ids tokenId token).Backs := by
    intro row hrow
    refine (h row hrow).imp_right ?_
    rintro ⟨t, htoken, hd⟩
    obtain ⟨r, hr, hday⟩ := mem_billedDays.mp hd
    obtain ⟨j, hj⟩ := mem_iff_getElem?.mp hr
    have hkept := hgets j r hj
    rw [if_neg] at hkept
    · exact ⟨t, htoken, mem_billedDays.mpr ⟨r, mem_of_getElem? hkept, hday⟩⟩
    · have hresolved := (billedDay_eq_some.mp hday).1
      unfold QiniuCostDetailRecord.isResolved at hresolved
      unfold openAmong QiniuCostDetailRecord.isOpen
      grind
  rcases hout with ⟨hnone, -, hout⟩ | hout
  swap
  · rw [hout]
    exact hassigned
  rw [hout]
  intro row' hrow'
  rcases mem_modify hsource hrow' with rfl | hrow
  · rcases hop source hsource hnone with hzero | ⟨ids', hids', id, hid, r, hr, hopen, hdate⟩
    · exact .inl hzero
    · rw [hids] at hids'
      obtain rfl := Option.some.inj hids'
      have hgets := hgets id r hr
      rw [if_pos (by simp [openAmong, hid, hopen])] at hgets
      exact .inr ⟨tokenId, rfl, mem_billedDays.mpr
        ⟨_, mem_of_getElem? hgets, billedDay_eq_some.mpr ⟨rfl, rfl, hdate⟩⟩⟩
  · exact hassigned row' hrow

theorem backs_step {op : BillOp} (h : s.Backs) (hop : op.KeepsRecords s)
    (hexec : op.exec cfg s = .ok s') : s'.Backs := by
  refine backs_rules.call hexec h ?_ ?_ ?_ ?_
  · rintro env windowDate item rfl
    exact h.upsert rfl hop
  · rintro env id rfl
    obtain ⟨f, hf⟩ := ownerDecided_records env id s
    rw [hf]
    exact h.write (hop.imp_right fun hstays r hr d hd => (hstays r hr d hd).ownerDecided hr hf)
  · rintro env id tokenId token rfl htoken
    refine h.write (hop.imp_right fun hsame r hr d hd => ?_)
    exact billedDay_eq_some.mpr ⟨rfl, congrArg some (hsame r hr d hd).symm,
      (billedDay_eq_some.mp hd).2.2⟩
  · rintro env bucketId tokenId out rfl htx
    exact h.assignBucketTx hop htx

/-! ## Runs -/

/-- The call neither gives a bucket that has charged something to another user, nor takes the last
record away from a bucket with an official quota. -/
def BillOp.KeepsOwners (op : BillOp) (s : Store) : Prop :=
  (∀ b < s.billingBuckets.length, ¬ op.HandsOver b s) ∧ op.KeepsRecords s

instance BillOp.decidableKeepsRecords :
    ∀ (op : BillOp) (s : Store), Decidable (op.KeepsRecords s)
  | .sync .., _ | .resolve .., _ | .assignRecord .., _ | .assignBucket .., _
  | .recalculate .., _ | .apply .., _ | .retry .., _ | .skip .., _ => by
    dsimp only [BillOp.KeepsRecords, Store.Spares, QiniuCostDetailRecord.StaysWith]
    infer_instance

instance BillOp.decidableKeepsOwners (op : BillOp) (s : Store) : Decidable (op.KeepsOwners s) :=
  inferInstanceAs (Decidable ((∀ b < s.billingBuckets.length, _) ∧ _))

structure OwnersInv (s : Store) : Prop where
  books : ∀ b, BucketInv b s
  days : s.bucketDays.Nodup
  backed : s.Backs

theorem ownersInv_init (hs : NoBuckets s) : OwnersInv s := by
  refine ⟨hs.inv, ?_, ?_⟩
  · simp [Store.bucketDays, hs.buckets]
  · simp [Store.Backs, hs.buckets]

theorem BillOp.not_handsOver_of_lt {op : BillOp}
    (h : ∀ b < s.billingBuckets.length, ¬ op.HandsOver b s) (b : Nat) : ¬ op.HandsOver b s := by
  intro hover
  cases op with
  | assignBucket =>
    have hover' := hover
    obtain ⟨-, row, hrow, -⟩ := hover'
    exact h b (List.getElem?_eq_some_iff.mp hrow).1 hover
  | _ => exact hover

theorem ownersInv_step (op : BillOp) (h : OwnersInv s) (hop : op.KeepsOwners s)
    (hexec : op.exec cfg s = .ok s') : OwnersInv s' := by
  refine ⟨fun b => ?_, ?_, ?_⟩
  · exact bucketInv_step op s s' (h.books b) (BillOp.not_handsOver_of_lt hop.1 b) hexec
  · refine bucketDays_rules.step hexec h.days ?_
    rintro - bucketId tokenId out rfl htx
    exact assignBucketTx_days h.days htx
  · exact backs_step h.backed hop.2 hexec

/-- **A fee is charged to its owner only.** As long as no call has taken the last record of a bucket
away or handed a charged bucket to another user, a user has paid, once nothing is left to do, for
exactly the records attributed to the user's tokens. -/
theorem fees_charged_to_owner (cfg : Config) (ops : List BillOp) (s : Store) (hs : NoBuckets s)
    (hops : Along (BillOp.exec cfg) BillOp.KeepsOwners ops s)
    (hsettled : BillsSettled cfg (run (BillOp.exec cfg) ops s)) (u : Nat) :
    let t := run (BillOp.exec cfg) ops s
    userCharged u t = userApplied u t ∧
    userApplied u t + userLocal u t = userOfficial cfg u t := by
  intro t
  have hinv : OwnersInv t :=
    run_induction (fun op s s' => ownersInv_step op) (ownersInv_init hs) hops
  have hcharged := userCharged_eq_userApplied (u := u) hinv.books
  have hnone : strandedQuota u t = 0 := by
    refine sum_eq_zero fun q hq => ?_
    obtain ⟨row, hrow, rfl⟩ := mem_map.mp hq
    simp only [userBuckets, mem_filter, Bool.not_eq_true', decide_eq_false_iff_not] at hrow
    exact (hinv.backed row hrow.1.1).resolve_right hrow.2
  have hpaid := userCharged_add_userLocal (u := u) hinv.books hinv.days hsettled
  rw [hnone, hcharged, add_zero] at hpaid
  exact ⟨hcharged, hpaid⟩

def twoKeys : Store where
  tokens := [{ userId := 1, key := "abc1234uvwxyz", enabled := true, qiniuManaged := true },
    { userId := 2, key := "def1234uvwxyz", enabled := true, qiniuManaged := true }]

theorem noBuckets_twoKeys : NoBuckets twoKeys :=
  ⟨rfl, rfl, by simp [twoKeys], by simp [twoKeys]⟩

/-- User 1 is charged for two models. One of the records turns out to be of user 2. -/
def recordReassigned : List BillOp :=
  [.sync { billingEnv with } "2026-02-01" (billLine (1 / 1000)),
    .sync { billingEnv with } "2026-02-01" { billLine (2 / 1000) with modelName := "other" },
    .assignRecord billingEnv 1 1,
    .recalculate billingEnv 0 "2026-02-01"]

theorem billsSettled_recordReassigned :
    BillsSettled .shipped (run (BillOp.exec .shipped) recordReassigned twoKeys) :=
  (billsSettled_iff ..).mpr (by decide +kernel)

theorem fees_charged_to_owner_reassigned :
    let t := run (BillOp.exec .shipped) recordReassigned twoKeys
    BillsSettled .shipped t ∧ userOfficial .shipped 1 t = 500 ∧
    userCharged 1 t = userApplied 1 t ∧
    userApplied 1 t + userLocal 1 t = userOfficial .shipped 1 t :=
  ⟨billsSettled_recordReassigned, by decide +kernel,
    fees_charged_to_owner .shipped recordReassigned twoKeys noBuckets_twoKeys (by decide +kernel)
      billsSettled_recordReassigned 1⟩

/-- The only record of user 1 is given to user 2. -/
def lastRecordReassigned : List BillOp :=
  [.sync { billingEnv with } "2026-02-01" (billLine (1 / 1000)),
    .assignRecord billingEnv 0 1]

/-- **Both pay.** The bucket of user 1 has no records any more, so it cannot be recalculated.
Nothing is left to do, and user 1 still pays for a record that user 2 pays for as well. -/
theorem last_record_reassigned_charged_twice :
    let t := run (BillOp.exec .shipped) lastRecordReassigned twoKeys
    NoBuckets twoKeys ∧ BillsSettled .shipped t ∧
    (userApplied 1 t = 500 ∧ userLocal 1 t = 0 ∧ userOfficial .shipped 1 t = 0) ∧
    (userApplied 2 t = 500 ∧ userLocal 2 t = 0 ∧ userOfficial .shipped 2 t = 500) ∧
    (recalculateQiniuBillingBucket .shipped billingEnv 0 "2026-02-01" t).1 =
      .error (.failure (.message "bucket 重算缺少已归属 cost-detail 明细")) :=
  ⟨noBuckets_twoKeys, (billsSettled_iff ..).mpr (by decide +kernel), by decide +kernel⟩

end ApiGateway
