import ApiGateway.Proof.BucketLedger

/-!
# What the realtime summary leaves out

A bucket compares the official bill with the local summary, or with nothing if that cannot be read.
It looks at one day at a time, so that a log written after midnight does not find its application.
-/

namespace ApiGateway

open Table Decimal List

variable {cfg : Config} {s s' : Store} {env : BillingEnv} {tokenId id : Nat}
  {billingDate : String} {localRealtime : Int × QiniuBillingLocalRealtimeStatus}

/-! ## Usage that cannot be read -/

/-- What has been applied of a bucket, nothing if there is no such bucket. -/
def Store.appliedDelta (s : Store) (id : Nat) : Int :=
  (s.billingBuckets[id]?.map (·.appliedDeltaQuota)).getD 0

/-- No wallet, no quota and no applied delta has changed. -/
structure ChargesNothing (s s' : Store) : Prop where
  wallets : s'.wallets = s.wallets
  quota : ∀ u, (s'.users u).quota = (s.users u).quota
  applied : ∀ id, s'.appliedDelta id = s.appliedDelta id

theorem ChargesNothing.trans {s'' : Store} (h : ChargesNothing s s') (h' : ChargesNothing s' s'') :
    ChargesNothing s s'' :=
  ⟨h'.wallets.trans h.wallets, fun u => (h'.quota u).trans (h.quota u),
    fun id => (h'.applied id).trans (h.applied id)⟩

theorem chargesNothing_updateBucket {f : QiniuBillingBucket → QiniuBillingBucket}
    (hf : ∀ bucket, s.billingBuckets[id]? = some bucket →
      (f bucket).appliedDeltaQuota = bucket.appliedDeltaQuota) :
    ChargesNothing s (s.updateBucket id f) := by
  refine ⟨rfl, fun _ => rfl, fun i => ?_⟩
  unfold Store.appliedDelta Store.updateBucket
  by_cases hi : id = i
  · subst hi
    cases hrow : s.billingBuckets[id]? with
    | none => simp [hrow]
    | some bucket => simp [getElem?_modify_self hrow, hf bucket hrow]
  · rw [getElem?_modify_ne _ _ hi]

theorem chargesNothing_afterApplyError {faults : BillingFaults} (e : BucketErr) :
    ChargesNothing s (afterApplyError cfg faults id s e) := by
  refine afterApplyError_rule (fun _ _ _ h => ?_) (fun _ _ t h => ?_)
    ⟨rfl, fun _ => rfl, fun _ => rfl⟩
  · exact h.trans (chargesNothing_updateBucket fun _ _ => rfl)
  · refine h.trans ?_
    unfold recordQiniuBillingBucketFailedApplication writeFailedApplication
    split
    · exact ⟨rfl, fun _ => rfl, fun _ => rfl⟩
    split
    · exact ⟨rfl, fun _ => rfl, fun _ => rfl⟩
    split <;> exact ⟨rfl, fun _ => rfl, fun _ => rfl⟩

/-- What the official bill of a token and day leaves open if nothing was charged in realtime. -/
def Store.unappliedBill (cfg : Config) (s : Store) (tokenId : Nat) (billingDate : String) : Int :=
  officialQuotaOf cfg (s.attributedRecords tokenId billingDate) -
    ((s.bucketOf tokenId billingDate).map (·.2.appliedDeltaQuota)).getD 0

/-- The next application of a token and day: its bucket and its version. -/
def Store.nextApplication (s : Store) (tokenId : Nat) (billingDate : String) : Nat × Nat :=
  match s.bucketOf tokenId billingDate with
  | none => (s.billingBuckets.length, 1)
  | some (id, bucket) => (id, bucket.applyVersion + 1)

/-- Nothing but a failure stands under this version of a bucket. -/
def Store.Vacant (s : Store) (version : Nat × Nat) : Prop :=
  ((s.bucketApplication version.1 version.2).all fun e => e.2.status == .failed) = true ∧
    walletFlowExistsTx s (some (.qiniuBillingBucket version.1 version.2)) = false

/-- The row a recalculation has written: what is pending, and all that an application looks at. -/
structure Recalculated (cfg : Config) (setting : QiniuCostDetailSetting) (billingDate : String)
    (tokenId : Nat) (token : Token) (s s' : Store) (id : Nat) (row : QiniuBillingBucket) :
    Prop where
  saved : s'.billingBuckets[id]? = some row
  next : s.nextApplication tokenId billingDate = (id, row.applyVersion + 1)
  ofToken : row.tokenId = some tokenId
  ofUser : row.userId = token.userId
  ofDate : row.billingDate = billingDate
  owner : row.ownerStatus = .resolved ∨ row.ownerStatus = .manualResolved
  status : row.status =
    (qiniuBillingBucketStatusForPendingDelta setting billingDate row.pendingDeltaQuota).1
  pending : row.pendingDeltaQuota =
    s.unappliedBill cfg tokenId billingDate - row.localRealtimeQuota
  tables : s'.tokens = s.tokens ∧ s'.bucketApplications = s.bucketApplications ∧
    s'.walletFlows = s.walletFlows

/-- A recalculation charges nothing by itself. -/
theorem recalculateQiniuBillingBucketTx_row {setting : QiniuCostDetailSetting}
    (h : recalculateQiniuBillingBucketTx cfg setting tokenId billingDate localRealtime s =
      .ok (id, s')) :
    ChargesNothing s s' ∧ ∃ token ∈ s.tokens[tokenId]?, ∃ row,
      Recalculated cfg setting billingDate tokenId token s s' id row ∧
        row.localRealtimeQuota = localRealtime.1 := by
  obtain ⟨token, htoken, hsave⟩ := recalculateQiniuBillingBucketTx_ok h
  have howner : ∀ (records : List (QiniuCostDetailRecord × Nat)) bucket,
      (QiniuBillingBucket.recalculated cfg setting token records localRealtime bucket).ownerStatus =
        .resolved ∨ (bucket.recalculated cfg setting token records localRealtime).ownerStatus =
        .manualResolved := by
    intro records bucket
    unfold QiniuBillingBucket.recalculated
    dsimp only
    split
    · exact .inr rfl
    · exact .inl rfl
  cases hread : s.bucketOf tokenId billingDate with
  | none =>
    rw [hread] at hsave
    obtain ⟨rfl, rfl⟩ := Prod.mk.inj hsave
    refine ⟨⟨rfl, fun _ => rfl, fun i => ?_⟩, token, htoken, _, ⟨getElem?_concat_length ..,
      by rw [Store.nextApplication, hread]; rfl, rfl, rfl, rfl, howner _ _, rfl, ?_, rfl, rfl, rfl⟩,
      rfl⟩
    · show (Option.map _ (s.billingBuckets ++ [_])[i]?).getD 0 = _
      unfold Store.appliedDelta
      rcases Nat.lt_trichotomy i s.billingBuckets.length with hlt | rfl | hgt
      · rw [getElem?_append_left hlt]
      · simp [recalculatedBucket, QiniuBillingBucket.recalculated]
      · rw [getElem?_eq_none (by simpa using Nat.succ_le_of_lt hgt), getElem?_eq_none hgt.le]
    · rw [Store.unappliedBill, hread]
      exact sub_right_comm _ _ _
  | some =>
    obtain ⟨hget, htok, hdate⟩ := bucketOf_some hread
    rw [hread] at hsave
    obtain ⟨rfl, rfl⟩ := Prod.mk.inj hsave
    refine ⟨?_, token, htoken, _, ⟨getElem?_modify_self hget,
      by rw [Store.nextApplication, hread]; rfl, htok, rfl, hdate, howner _ _, by rw [← hdate]; rfl,
      ?_, rfl, rfl, rfl⟩, rfl⟩
    · refine ChargesNothing.trans (chargesNothing_updateBucket fun row hrow => ?_)
        ⟨rfl, fun _ => rfl, fun _ => rfl⟩
      obtain rfl := Option.mem_unique hget hrow
      rfl
    · rw [Store.unappliedBill, hread]
      exact sub_right_comm _ _ _

theorem ensureLegacyWalletBalanceTx_ok_iff {u : Nat} :
    (∃ s', ensureLegacyWalletBalanceTx cfg u s = .ok s') ↔ u ≠ 0 := by
  constructor
  · rintro ⟨s', h⟩
    exact (ensureLegacyWalletBalanceTx_ok h).1
  · intro hu
    unfold ensureLegacyWalletBalanceTx
    simp only [bind_eq_ok, getOrCreateWalletAccountTx_eq_ok, skip_eq_ok, pure_eq_ok]
    by_cases hlow : (s.wallets u).balanceAmount > walletAmountEpsilon
    · exact ⟨s, _, ⟨hu, rfl⟩, .inl ⟨rfl, hlow⟩⟩
    by_cases hinit : walletFlowExistsTx s (some (.legacyBalanceInit u)) = true
    · exact ⟨s, _, ⟨hu, rfl⟩, .inr ⟨hlow, .inl ⟨rfl, hinit⟩⟩⟩
    by_cases hquota : (s.users u).quota ≤ 0
    · exact ⟨s, _, ⟨hu, rfl⟩, .inr ⟨hlow, .inr ⟨hinit, .inl ⟨rfl, hquota⟩⟩⟩⟩
    · exact ⟨_, _, ⟨hu, rfl⟩, .inr ⟨hlow, .inr ⟨hinit, .inr ⟨hquota, rfl⟩⟩⟩⟩

theorem status_pending_iff {setting : QiniuCostDetailSetting} {q : Int} :
    (qiniuBillingBucketStatusForPendingDelta setting billingDate q).1 = .pending ↔
      setting.costDetailAutoApplyEnabled = true ∧
      (parseBillingDate (trimSpace billingDate) ≠ none ∧
        ∃ cutover ∈ setting.cutoverBillingDate, ¬ trimSpace billingDate < cutover) ∧ q ≠ 0 := by
  unfold qiniuBillingBucketStatusForPendingDelta
  cases setting.costDetailAutoApplyEnabled <;> cases setting.cutoverBillingDate <;> grind

theorem chargeDelta_ok_iff {bucket : QiniuBillingBucket} {token : Token}
    (hpending : bucket.pendingDeltaQuota ≠ 0) (hof : bucket.tokenId = some tokenId)
    (htoken : s.tokens[tokenId]? = some token) :
    (∃ r, bucket.chargeDelta cfg id s = .ok r) ↔ bucket.userId ≠ 0 ∧
      walletFlowExistsTx s (some (.qiniuBillingBucket id (bucket.applyVersion + 1))) = false := by
  unfold QiniuBillingBucket.chargeDelta applyQiniuBucketWalletDeltaTx applyTokenUsedQuotaDeltaTx
  simp only [if_neg hpending, bind_eq_ok, pure_eq_ok, orFail_eq_ok, failIf_eq_ok,
    Bool.not_eq_true]
  constructor
  · rintro ⟨-, -, ⟨-, hunpaid, s1, hs1, -⟩, -⟩
    exact ⟨ensureLegacyWalletBalanceTx_ok_iff.mp ⟨s1, hs1⟩, hunpaid⟩
  · rintro ⟨huser, hunpaid⟩
    obtain ⟨s1, hs1⟩ := ensureLegacyWalletBalanceTx_ok_iff.mpr huser
    obtain ⟨-, -, -, htokens, -⟩ := ensureLegacyWalletBalanceTx_books hs1
    exact ⟨_, _, ⟨(), hunpaid, s1, hs1, rfl⟩, _, ⟨tokenId, hof, token,
      (congrArg (·[tokenId]?) htokens).trans htoken, rfl⟩, rfl⟩

/-- Whether an application of a pending row charges anyone. -/
theorem applyQiniuBillingBucketTx_applied_iff {setting : QiniuCostDetailSetting} {token : Token}
    {row : QiniuBillingBucket} {s₀ : Store}
    (hrow : Recalculated cfg setting billingDate tokenId token s₀ s id row)
    (htoken : s₀.tokens[tokenId]? = some token) (hpending : row.status = .pending) :
    (∃ s', applyQiniuBillingBucketTx cfg setting id {} s = .ok (.applied, s')) ↔
      token.userId ≠ 0 ∧ s₀.Vacant (id, row.applyVersion + 1) := by
  obtain ⟨htokens, happlications, hflows⟩ := hrow.tables
  have hguard := hrow.status.symm.trans hpending
  have hopen := (status_pending_iff.mp hguard).2.2
  have hlet : row.admit setting = .ok true := by
    unfold QiniuBillingBucket.admit
    rw [if_neg fun h => hopen h.1, if_neg fun h => hrow.owner.elim h.1 h.2, hrow.ofDate]
    exact if_neg fun h => h.1 hguard
  have hcharge : (∃ r, row.chargeDelta cfg id s = .ok r) ↔ _ :=
    chargeDelta_ok_iff hopen hrow.ofToken (htokens ▸ htoken)
  have hunpaid : walletFlowExistsTx s = walletFlowExistsTx s₀ := by
    funext key
    cases key with
    | none => rfl
    | some => simp only [walletFlowExistsTx, hflows]
  rw [hrow.ofUser, hunpaid] at hcharge
  have hsame : s₀.bucketApplication id (row.applyVersion + 1) =
      s.bucketApplication id (row.applyVersion + 1) := by
    rw [Store.bucketApplication, Store.bucketApplication, happlications]
  unfold Store.Vacant
  rw [hsame]
  constructor
  · rintro ⟨s', h⟩
    unfold applyQiniuBillingBucketTx at h
    simp only [bind_eq_ok, orFail_eq_ok] at h
    obtain ⟨row', hsaved, go, hgo, h⟩ := h
    obtain rfl := Option.mem_unique hrow.saved hsaved
    obtain rfl := Except.ok.inj (hlet.symm.trans hgo)
    rw [if_neg (not_not.mpr rfl)] at h
    simp only [bind_eq_ok] at h
    obtain ⟨go, hcheck, h⟩ := h
    split at h
    · cases (Prod.mk.inj (pure_eq_ok.mp h)).1
    rename_i hfailed
    simp only [bind_eq_ok, pure_eq_ok] at h
    obtain ⟨-, -, s1, hs1, -⟩ := h
    have hwrites := orFailure_eq_ok.mp hs1
    unfold QiniuBillingBucket.writeApplication at hwrites
    simp only [bind_eq_ok] at hwrites
    obtain ⟨r, hr, -⟩ := hwrites
    obtain ⟨huser, hunpaid⟩ := hcharge.mp ⟨r, hr⟩
    exact ⟨huser, (pure_eq_ok.mp hcheck).trans (not_not.mp hfailed), hunpaid⟩
  · rintro ⟨huser, hfailed, hnone⟩
    obtain ⟨r, hr⟩ := hcharge.mpr ⟨huser, hnone⟩
    have hcheck : ({} : ApplyOptions).check (s.bucketApplication id (row.applyVersion + 1)) =
        .ok true := congrArg Except.ok hfailed
    have hrefuse : refuseDuplicateFlow row (walletFlowExistsTx s
        (some (.qiniuBillingBucket id (row.applyVersion + 1)))) = .ok () := by
      rw [refuseDuplicateFlow, failIf_eq_ok, hunpaid, hnone]
      simp
    simp [applyQiniuBillingBucketTx, QiniuBillingBucket.writeApplication, orFail, hrow.saved,
      hlet, hcheck, hrefuse, hr, orFailure, bind, Except.bind, pure, Except.pure]

/-- An application charges something, or it is not made. -/
theorem applyQiniuBillingBucket_charges_iff {setting : QiniuCostDetailSetting}
    {faults : BillingFaults} {row : QiniuBillingBucket} {s₀ : Store}
    (hrow : s.billingBuckets[id]? = some row) (hopen : row.pendingDeltaQuota ≠ 0)
    (hnothing : ChargesNothing s₀ s) :
    ChargesNothing s₀ (applyQiniuBillingBucket cfg setting faults id {} s).2 ↔
      ¬ (faults.application = false ∧
        ∃ s', applyQiniuBillingBucketTx cfg setting id {} s = .ok (.applied, s')) := by
  unfold applyQiniuBillingBucket
  cases hrefused : faults.application with
  | true =>
    rw [if_pos rfl]
    exact iff_of_true (hnothing.trans (chargesNothing_afterApplyError (.failure _))) fun h =>
      Bool.noConfusion h.1
  | false =>
    rw [if_neg Bool.false_ne_true]
    cases happly : applyQiniuBillingBucketTx cfg setting id {} s with
    | error e =>
      refine iff_of_true (hnothing.trans (chargesNothing_afterApplyError e)) ?_
      rintro ⟨-, s', h⟩
      cases h
    | ok r =>
      rcases applyQiniuBillingBucketTx_ok happly with ⟨hskipped, hsame⟩ | ⟨happlied, bucket, ha⟩
      · refine iff_of_true (hsame ▸ hnothing) ?_
        rintro ⟨-, s', h⟩
        cases hskipped.symm.trans (Prod.mk.inj (Except.ok.inj h)).1
      · refine iff_of_false (fun h => ?_) (not_not.mpr ⟨rfl, r.2, by rw [← happlied]⟩)
        -- what was applied shows in the row
        obtain rfl := Option.mem_unique hrow ha.row
        have hsame : r.2.appliedDelta id = s.appliedDelta id :=
          (h.applied id).trans (hnothing.applied id).symm
        unfold Store.appliedDelta at hsame
        rw [ha.applied.buckets, getElem?_modify_self hrow, hrow] at hsame
        have : row.appliedDeltaQuota + row.pendingDeltaQuota = row.appliedDeltaQuota := hsame
        omega

/-- The bill of a token and day is charged without regard to what was charged in realtime. -/
structure ChargesUnread (cfg : Config) (env : BillingEnv) (tokenId : Nat) (billingDate : String)
    (s : Store) : Prop where
  date : isBlank billingDate = false
  storage : env.faults.recalculation = false ∧ env.faults.application = false
  /-- There is a bill for a managed key of some user, -/
  token : ∃ token ∈ s.tokens[tokenId]?, token.qiniuManaged = true ∧ token.userId ≠ 0
  records : s.attributedRecords tokenId billingDate ≠ []
  /-- it is due, -/
  enabled : env.setting.costDetailAutoApplyEnabled = true
  due : parseBillingDate (trimSpace billingDate) ≠ none ∧
    ∃ cutover ∈ env.setting.cutoverBillingDate, ¬ trimSpace billingDate < cutover
  unapplied : s.unappliedBill cfg tokenId billingDate ≠ 0
  /-- and it was not applied before. -/
  vacant : s.Vacant (s.nextApplication tokenId billingDate)

theorem localRealtime_of_error (h : (env.localRealtime tokenId billingDate).2 = .error) :
    env.localRealtime tokenId billingDate = (0, .error) := by
  unfold BillingEnv.localRealtime localRealtimeOf at h ⊢
  split at h
  · rename_i hsome
    -- a summary is missing or found
    obtain ⟨usage, -, hok⟩ := Option.map_eq_some_iff.mp hsome
    unfold summarizeQiniuLocalRealtimeQuota at hok
    simp only [bind_eq_ok] at hok
    obtain ⟨day, -, hok⟩ := hok
    split at hok <;> rw [← pure_eq_ok.mp hok] at h <;> cases h
  · rfl

/-- **Usage that cannot be read counts as none.** A recalculation then leaves wallets, quotas and
applied deltas alone exactly if it does not get as far as an application: the guard stops it (it is
switched off, the day is not due, or nothing is open), or one of its transactions is refused. -/
theorem unread_usage_charges_nothing_iff (cfg : Config) (env : BillingEnv) (tokenId : Nat)
    (billingDate : String) (s : Store)
    (hread : (env.localRealtime tokenId billingDate).2 = .error) :
    ChargesNothing s (recalculateQiniuBillingBucket cfg env tokenId billingDate s).2 ↔
      ¬ ChargesUnread cfg env tokenId billingDate s := by
  unfold recalculateQiniuBillingBucket
  rw [localRealtime_of_error hread]
  split
  · rename_i hblank
    refine iff_of_true ⟨rfl, fun _ => rfl, fun _ => rfl⟩ fun h => ?_
    exact Bool.noConfusion (hblank.symm.trans h.date)
  rename_i hdate
  cases htx : storageCall env.faults.recalculation (recalculateQiniuBillingBucketTx cfg env.setting
      tokenId billingDate (0, .error) s) with
  | error =>
    refine iff_of_true ⟨rfl, fun _ => rfl, fun _ => rfl⟩ fun h => ?_
    obtain ⟨token, htoken, hmanaged, -⟩ := h.token
    obtain ⟨r, hr⟩ :=
      recalculateQiniuBillingBucketTx_ok_iff.mpr ⟨⟨token, htoken, hmanaged⟩, h.records⟩
    cases htx.symm.trans (storageCall_eq_ok.mpr ⟨h.storage.1, hr⟩)
  | ok r =>
    obtain ⟨id, s₁⟩ := r
    obtain ⟨hfault, htx⟩ := storageCall_eq_ok.mp htx
    obtain ⟨hmanaged, hrecords⟩ := recalculateQiniuBillingBucketTx_ok_iff.mp ⟨_, htx⟩
    obtain ⟨hnothing, token, htoken, row, hrow, hlocal⟩ := recalculateQiniuBillingBucketTx_row htx
    have hpending := hrow.pending
    rw [hlocal, sub_zero] at hpending
    dsimp only
    unfold applyRecalculated
    by_cases hguard : row.status = .pending
    · obtain ⟨henabled, hdue, hopen⟩ := status_pending_iff.mp (hrow.status.symm.trans hguard)
      have hiff : ChargesUnread cfg env tokenId billingDate s ↔ env.faults.application = false ∧
          ∃ s₂, applyQiniuBillingBucketTx cfg env.setting id {} s₁ = .ok (.applied, s₂) := by
        rw [applyQiniuBillingBucketTx_applied_iff hrow htoken hguard]
        constructor
        · intro h
          obtain ⟨token', htoken', -, huser⟩ := h.token
          obtain rfl := Option.mem_unique htoken htoken'
          exact ⟨h.storage.2, huser, hrow.next ▸ h.vacant⟩
        · rintro ⟨hfault', huser, hvacant⟩
          obtain ⟨token', htoken', hmanaged⟩ := hmanaged
          obtain rfl := Option.mem_unique htoken htoken'
          exact ⟨by simpa using hdate, ⟨hfault, hfault'⟩, ⟨token, htoken, hmanaged, huser⟩,
            hrecords, henabled, hdue, hpending ▸ hopen, hrow.next.symm ▸ hvacant⟩
      rw [if_pos ⟨henabled, by rw [hrow.saved, Option.map_some, hguard]⟩, hiff,
        ← applyQiniuBillingBucket_charges_iff hrow.saved hopen hnothing]
      rcases applyQiniuBillingBucket cfg env.setting env.faults id {} s₁ with ⟨_ | _, _⟩ <;> rfl
    · refine iff_of_true ?_ fun h => hguard ?_
      · rw [if_neg]
        · exact hnothing
        · rw [hrow.saved]
          exact fun h => hguard (Option.some.inj h.2)
      · rw [hrow.status, status_pending_iff, hpending]
        exact ⟨h.enabled, h.due, h.unapplied⟩

def nightUsage : LocalUsage where
  applications :=
    [{ tokenId := 0, status := .applied, settlementApplied := true, createdTime := 1769961590
       quota := 500, requestId := "r", consumeLogIds := [] }]
  logs :=
    [{ id := 0, tokenId := 0, type := .consume, createdAt := 1769961605, quota := 500
       requestId := "r", qiniuMarketRealtime := true }]

/-- The key has been charged for the request in realtime, and the bill has come. -/
def reconciledKey : Store :=
  Runs.run (BillOp.exec .shipped) [.sync { billingEnv with usage := some nightUsage } "2026-02-01"
    (billLine (1 / 1000))] billedKey

theorem unread_usage_charged :
    let s' := (recalculateQiniuBillingBucket .shipped { billingEnv with usage := none } 0
      "2026-02-01" reconciledKey).2
    (({ billingEnv with usage := none } : BillingEnv).localRealtime 0 "2026-02-01").2 = .error ∧
      (reconciledKey.users 1).quota = 0 ∧ (s'.users 1).quota = -500 ∧
      ¬ ChargesNothing reconciledKey s' :=
  ⟨by decide +kernel, by decide +kernel, by decide +kernel,
    fun h => absurd (h.applied 0) (by decide +kernel)⟩

/-- With the automatic application switched off nothing is charged. -/
theorem unread_usage_charges_nothing_switched_off :
    let env : BillingEnv := { usage := none, setting :=
      { costDetailAutoApplyEnabled := false, cutoverBillingDate := some "2026-01-01" } }
    ChargesNothing reconciledKey
      (recalculateQiniuBillingBucket .shipped env 0 "2026-02-01" reconciledKey).2 :=
  (unread_usage_charges_nothing_iff _ _ _ _ _ rfl).mpr fun h => absurd h.enabled (by decide)

/-! ## Days and their logs -/

/-- The day in China, counted from the first of January 1970. -/
def billingDayOf (t : Int) : Int := (t + 8 * 3600) / 86400

/-- The log is about the request of the application. -/
def LocalApplication.owns (a : LocalApplication) (l : LocalLog) : Bool :=
  a.consumeLogIds.contains l.id ||
    (!isBlank l.requestId && trimSpace a.requestId == trimSpace l.requestId)

variable {usage : LocalUsage}

namespace LocalUsage

variable (usage : LocalUsage) (tokenId : Nat)

/-- The applications of a token that have charged something. -/
def settled : List LocalApplication :=
  usage.applications.filter fun a =>
    a.tokenId == tokenId && a.status == .applied && a.settlementApplied

/-- The logs of a token about usage at the market price. -/
def billed : List LocalLog :=
  usage.logs.filter fun l => l.tokenId == tokenId && l.type == .consume && l.qiniuMarketRealtime

/-- What the token has consumed: its applications, and the logs that belong to none of them. -/
def consumed : Int :=
  ((usage.settled tokenId).map (·.quota)).sum +
    (((usage.billed tokenId).filter fun l => !(usage.settled tokenId).any (·.owns l)).map
      (·.quota)).sum

/-- The logs without an application of their own day. -/
def unowned : List LocalLog :=
  (usage.billed tokenId).filter fun l => !(usage.settled tokenId).any fun a =>
    billingDayOf a.createdTime == billingDayOf l.createdAt && a.owns l

/-- The logs whose applications are all of another day. -/
def stray : List LocalLog :=
  (usage.unowned tokenId).filter fun l => (usage.settled tokenId).any (·.owns l)

end LocalUsage

theorem inDay_iff {k t : Int} :
    (decide (k * 86400 - 8 * 3600 ≤ t) && decide (t < k * 86400 - 8 * 3600 + 86400)) =
      (billingDayOf t == k) := by
  rw [Bool.eq_iff_iff, Bool.and_eq_true, decide_eq_true_eq, decide_eq_true_eq, beq_iff_eq,
    billingDayOf]
  omega

theorem localRealtimeOf_day {k : Int}
    (h : parseBillingDate (trimSpace billingDate) = some (k * 86400 - 8 * 3600)) :
    (localRealtimeOf (some usage) tokenId billingDate).1 =
      (((usage.settled tokenId).filter fun a => billingDayOf a.createdTime == k).map
        (·.quota)).sum +
      (((usage.unowned tokenId).filter fun l => billingDayOf l.createdAt == k).map
        (·.quota)).sum := by
  have hsettled : (usage.applications.filter fun a => a.tokenId == tokenId &&
      a.status == .applied && a.settlementApplied && decide (k * 86400 - 8 * 3600 ≤ a.createdTime) &&
      decide (a.createdTime < k * 86400 - 8 * 3600 + 86400)) =
      (usage.settled tokenId).filter fun a => billingDayOf a.createdTime == k := by
    rw [LocalUsage.settled, filter_filter]
    refine filter_congr fun a _ => ?_
    rw [Bool.and_assoc, inDay_iff, Bool.and_comm]
  have hbilled : (usage.logs.filter fun l => l.tokenId == tokenId && l.type == .consume &&
      l.qiniuMarketRealtime && decide (k * 86400 - 8 * 3600 ≤ l.createdAt) &&
      decide (l.createdAt < k * 86400 - 8 * 3600 + 86400)) =
      (usage.billed tokenId).filter fun l => billingDayOf l.createdAt == k := by
    rw [LocalUsage.billed, filter_filter]
    refine filter_congr fun l _ => ?_
    rw [Bool.and_assoc, inDay_iff, Bool.and_comm]
  unfold localRealtimeOf summarizeQiniuLocalRealtimeQuota
  simp only [Option.map_some, h, orFail, bind, Except.bind, hsettled, hbilled]
  set applications := (usage.settled tokenId).filter fun a => billingDayOf a.createdTime == k
    with happlications
  -- a log of the day looks for its application among those of the day
  have hunowned : (((usage.billed tokenId).filter fun l => billingDayOf l.createdAt == k).filter
      fun l => !(applications.any fun a => a.consumeLogIds.contains l.id) && (isBlank l.requestId ||
          !(applications.any fun a => trimSpace a.requestId == trimSpace l.requestId))) =
      (usage.unowned tokenId).filter fun l => billingDayOf l.createdAt == k := by
    rw [LocalUsage.unowned, filter_filter, filter_filter]
    refine filter_congr fun l _ => ?_
    by_cases hk : billingDayOf l.createdAt = k
    · subst hk
      rw [Bool.eq_iff_iff, happlications]
      simp only [LocalApplication.owns]
      cases isBlank l.requestId
      · simp [forall_and]
      · simp
    · rw [beq_false_of_ne hk]
      simp
  rw [hunowned]
  split_ifs with hnone
  · simp only [Bool.and_eq_true, List.isEmpty_iff] at hnone
    rw [hnone.1, hnone.2]
    rfl
  · rfl

/-- **A log counts once unless it is of another day than its application.** The summaries of all
days add up to what the token has consumed exactly if the logs whose applications are all of other
days come to nothing. -/
theorem local_usage_counted_once_iff (usage : LocalUsage) (tokenId : Nat) (days : Finset Int)
    (dateOf : Int → String)
    (hdate : ∀ k ∈ days,
      parseBillingDate (trimSpace (dateOf k)) = some (k * 86400 - 8 * 3600))
    (happs : ∀ a ∈ usage.applications, billingDayOf a.createdTime ∈ days)
    (hlogs : ∀ l ∈ usage.logs, billingDayOf l.createdAt ∈ days) :
    ∑ k ∈ days, (localRealtimeOf (some usage) tokenId (dateOf k)).1 = usage.consumed tokenId ↔
      ((usage.stray tokenId).map (·.quota)).sum = 0 := by
  have hsettled : ∀ a ∈ usage.settled tokenId, billingDayOf a.createdTime ∈ days :=
    fun a ha => happs a (mem_of_mem_filter ha)
  have hunowned : ∀ l ∈ usage.unowned tokenId, billingDayOf l.createdAt ∈ days :=
    fun l hl => hlogs l (mem_of_mem_filter (mem_of_mem_filter hl))
  rw [Finset.sum_congr rfl fun k hk => localRealtimeOf_day (hdate k hk), Finset.sum_add_distrib,
    ← sum_map_by_key days hsettled, ← sum_map_by_key days hunowned]
  -- an unowned log has no application at all, or one of another day
  rw [← sum_map_filter_add (fun l => (usage.settled tokenId).any (·.owns l))
    (usage.unowned tokenId), ← LocalUsage.stray]
  have hnone : ((usage.unowned tokenId).filter fun l => !(usage.settled tokenId).any (·.owns l)) =
      (usage.billed tokenId).filter fun l => !(usage.settled tokenId).any (·.owns l) := by
    rw [LocalUsage.unowned, filter_filter]
    refine filter_congr fun l _ => ?_
    rw [Bool.eq_iff_iff]
    simp only [Bool.and_eq_true, Bool.not_eq_true', any_eq_false]
    exact ⟨fun h => h.1, fun h => ⟨h, fun a ha => by simp [h a ha]⟩⟩
  rw [hnone, LocalUsage.consumed]
  omega

theorem late_log_counted_twice :
    ∑ k ∈ {20485, 20486}, (localRealtimeOf (some nightUsage) 0
      (if k = 20485 then "2026-02-01" else "2026-02-02")).1 = 1000 ∧
    nightUsage.consumed 0 = 500 := by
  decide +kernel

theorem local_usage_counted_once_before_midnight :
    let usage := { nightUsage with logs := nightUsage.logs.map fun l =>
      { l with createdAt := 1769961595 } }
    ∑ _k ∈ {20485}, (localRealtimeOf (some usage) 0 "2026-02-01").1 = usage.consumed 0 :=
  (local_usage_counted_once_iff _ 0 {20485} (fun _ => "2026-02-01") (by decide +kernel)
    (by decide +kernel) (by decide +kernel)).mpr (by decide +kernel)

end ApiGateway
