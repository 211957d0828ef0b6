import Mathlib.Data.List.Sigma
import ApiGateway.Lib.Runs
import ApiGateway.Proof.Funding
import ApiGateway.Proof.SubscriptionReset

/-!
# What a subscription has used

`amount_used` starts over with every reset period, and neither a settlement nor a refund says which
period it belongs to. The ledger below says it for them: an entry for every charge and every
settlement, under its request and its reset period. `UsageInv` ties the counter to the entries of
the current period.

A reset period is named by its beginning, `resetBase`. Bringing a row into its current period leaves
counter and period alone, or clears the counter and begins a later period (`Refreshed`).
-/

namespace ApiGateway

open Table Decimal Runs List Option Relation

variable {clock : Clock} {cal : Calendar} {plan : SubscriptionPlan} {s s' s1 : Store}
variable {amount base now : Int} {sub : UserSubscription} {id u : Nat} {requestId : String}
variable {delta endTime used : Int} {row' sub' : UserSubscription} {j : Nat}

/-! ## Reset periods -/

/-- A row that was brought into its current reset period. -/
def Refreshed (sub sub' : UserSubscription) : Prop :=
  (sub'.amountUsed = sub.amountUsed ∧ sub'.resetBase = sub.resetBase) ∨
  (sub'.amountUsed = 0 ∧ sub.resetBase < sub'.resetBase)

theorem Refreshed.refl (sub : UserSubscription) : Refreshed sub sub := .inl ⟨rfl, rfl⟩

theorem Refreshed.trans {a b c : UserSubscription} (h : Refreshed a b) (h' : Refreshed b c) :
    Refreshed a c := by
  rcases h with ⟨hused, hbase⟩ | ⟨hzero, hlt⟩ <;> rcases h' with ⟨hused', hbase'⟩ | ⟨hzero', hlt'⟩
  · exact .inl ⟨hused'.trans hused, hbase'.trans hbase⟩
  · exact .inr ⟨hzero', hbase ▸ hlt'⟩
  · exact .inr ⟨hused'.trans hzero, hbase' ▸ hlt⟩
  · exact .inr ⟨hzero', lt_trans hlt hlt'⟩

theorem refreshed_maybeReset :
    Refreshed sub (maybeResetUserSubscriptionWithPlanTx cal plan now sub) := by
  rcases UserSubscription.resetsTo_iff.mp (sub.resetsTo_maybeReset cal plan now) with
    ⟨-, heq⟩ | ⟨-, base, hend, heq⟩ <;> rw [← heq]
  · exact .refl sub
  unfold UserSubscription.written
  split
  · rename_i hpass
    refine .inr ⟨rfl, lt_of_lt_of_eq ?_ (UserSubscription.begin_resetBase hend.1).symm⟩
    rcases reflTransGen_iff_eq_or_transGen.mp hend.1 with hsame | hpath
    · exact absurd ⟨hsame ▸ hpass, rfl⟩ (hend.2 _)
    · have hlater : TransGen (plan.Moves cal.toClock sub.endTime now) ≤ (· < ·) :=
        transGen_minimal fun _ _ => cal.advances.lt_of_moves
      exact hlater _ _ hpath
  · rename_i hnot
    split
    · -- only the columns of the schedule are filled in
      refine .inl ⟨rfl, (UserSubscription.begin_resetBase hend.1).trans ?_⟩
      exact Chain.eq_of_dead_end (fun _ hmove => hnot hmove.1) hend.1
    · exact .refl sub

/-- Some rows were brought into their current period, and no request was charged. -/
structure RowsRefreshed (s s' : Store) : Prop where
  rows : ∀ (id : Nat) sub', s'.subscriptions[id]? = some sub' →
    ∃ sub, s.subscriptions[id]? = some sub ∧ Refreshed sub sub'
  records : s'.subscriptionPreConsumes = s.subscriptionPreConsumes

theorem RowsRefreshed.refl (s : Store) : RowsRefreshed s s where
  rows _ sub h := ⟨sub, h, .refl sub⟩
  records := rfl

theorem RowsRefreshed.trans (h : RowsRefreshed s s1) (h' : RowsRefreshed s1 s') :
    RowsRefreshed s s' where
  rows := by
    intro id sub' hrow'
    obtain ⟨sub1, hrow1, hrefreshed'⟩ := h'.rows id sub' hrow'
    obtain ⟨sub, hrow, hrefreshed⟩ := h.rows id sub1 hrow1
    exact ⟨sub, hrow, hrefreshed.trans hrefreshed'⟩
  records := h'.records.trans h.records

theorem rowsRefreshed_modify (hrow : s.subscriptions[id]? = some sub) (h : Refreshed sub sub') :
    RowsRefreshed s { s with subscriptions := s.subscriptions.modify id fun _ => sub' } where
  rows := by
    intro j row' hrow'
    rcases getElem?_modify_some hrow hrow' with ⟨rfl, rfl⟩ | ⟨-, hrow'⟩
    · exact ⟨sub, hrow, h⟩
    · exact ⟨row', hrow', .refl row'⟩
  records := rfl

theorem resetDueSubscription_refreshed :
    RowsRefreshed s (resetDueSubscription cal id now s) := by
  unfold resetDueSubscription
  split
  · exact .refl s
  rename_i sub hrow
  split
  · exact .refl s
  · split
    · exact rowsRefreshed_modify hrow refreshed_maybeReset
    · exact .refl s

/-! ## The ledger -/

/-- What one call charged to a subscription or took back from it. -/
structure UsageEntry where
  requestId : String
  subscriptionId : Nat
  /-- The beginning of the reset period of the charge. -/
  period : Int
  amount : Int
  deriving DecidableEq

/-- The database, with the usage of the requests that were not refunded. -/
structure UsageLedger where
  store : Store
  entries : List UsageEntry := []

/-- The calls that change what a subscription has used. The database does not learn which
request a settlement is for. -/
inductive UsageOp where
  | preConsume (requestId : String) (u : Nat) (amount now : Int)
  | settle (requestId : String) (id : Nat) (delta : Int)
  | refund (requestId : String)
  | reset (id : Nat) (now : Int)

def Store.preConsumeRecord (s : Store) (requestId : String) :
    Option (Nat × SubscriptionPreConsumeRecord) :=
  lookup (fun r : SubscriptionPreConsumeRecord => r.requestId == requestId)
    s.subscriptionPreConsumes

/-- An entry in the period that subscription `id` is in. -/
def usageEntry (requestId : String) (id : Nat) (amount : Int) (s : Store) : UsageEntry where
  requestId := requestId
  subscriptionId := id
  period := (s.subscriptions[id]?.map UserSubscription.resetBase).getD 0
  amount := amount

variable (cal) in
def UsageOp.exec : UsageOp → UsageLedger → Except Err UsageLedger
  | .preConsume requestId u amount now, l => do
    let (id, _, s) ← preConsumeUserSubscriptionAt cal requestId u amount now l.store
    -- a request that has a record is not charged again
    if (l.store.preConsumeRecord requestId).isSome then return { l with store := s }
    else return { store := s, entries := l.entries ++ [usageEntry requestId id amount s] }
  | .settle requestId id delta, l => do
    let s ← postConsumeUserSubscriptionDelta (some id) delta l.store
    if delta = 0 then return { l with store := s }
    else return { store := s, entries := l.entries ++ [usageEntry requestId id delta s] }
  | .refund requestId, l =>
    let (done, s) := refundSubscriptionPreConsume requestId .none l.store
    .ok { store := s,
          entries := if done then l.entries.filter fun e => e.requestId != requestId
            else l.entries }
  | .reset id now, l => .ok { l with store := resetDueSubscription cal id now l.store }

/-- What the given entries charged to subscription `id` in the period `sub` is in. -/
def usageIn (id : Nat) (sub : UserSubscription) (entries : List UsageEntry) : ℚ :=
  total (fun e => (e.amount : ℚ))
    (entries.filter fun e => e.subscriptionId == id && e.period == sub.resetBase)

namespace UsageLedger

variable (l : UsageLedger)

/-- What is recorded for subscription `id` in the period it is in. -/
def recorded (id : Nat) (sub : UserSubscription) : ℚ := usageIn id sub l.entries

def usageOfRequest (requestId : String) : ℚ :=
  total (fun e => (e.amount : ℚ)) (l.entries.filter fun e => e.requestId == requestId)

/-- The request was charged to subscription `id` since its last reset, and not refunded. -/
def ChargedNow (requestId : String) (id : Nat) (sub : UserSubscription) : Prop :=
  ∃ e ∈ l.entries, e.requestId = requestId ∧ e.subscriptionId = id ∧ e.period = sub.resetBase

end UsageLedger

/-- A call keeps the counter in step with the ledger: settlements and refunds are for a request of
the current period, a refund returns all that the request was charged, and none is cut off at zero.
-/
def UsageOp.Orderly : UsageOp → UsageLedger → Prop
  | .preConsume _ _ _ _, _ => True
  | .settle requestId id delta, l =>
    delta = 0 ∨ ∃ sub ∈ l.store.subscriptions[id]?,
      l.ChargedNow requestId id sub ∧ 0 ≤ sub.amountUsed + delta
  | .refund requestId, l => ∀ r ∈ l.store.preConsumeRecord requestId,
      r.2.refunded = true ∨ ∃ sub ∈ l.store.subscriptions[r.2.userSubscriptionId]?,
        l.ChargedNow requestId r.2.userSubscriptionId sub ∧
        l.usageOfRequest requestId = r.2.preConsumed ∧ r.2.preConsumed ≤ sub.amountUsed
  | .reset _ _, _ => True

instance (l : UsageLedger) (requestId : String) (id : Nat) (sub : UserSubscription) :
    Decidable (l.ChargedNow requestId id sub) :=
  inferInstanceAs (Decidable (∃ e ∈ l.entries, _))

instance UsageOp.decidableOrderly (op : UsageOp) (l : UsageLedger) : Decidable (op.Orderly l) := by
  cases op <;> dsimp only [UsageOp.Orderly] <;> infer_instance

/-- **The counter is the ledger of the current period.** -/
structure UsageInv (l : UsageLedger) : Prop where
  /-- The counter of a subscription is what is recorded for its current period. -/
  used : ∀ (id : Nat) sub, l.store.subscriptions[id]? = some sub → (sub.amountUsed : ℚ) = l.recorded id sub
  /-- No entry is of a period that is still to come. -/
  past : ∀ e ∈ l.entries, ∀ sub, l.store.subscriptions[e.subscriptionId]? = some sub →
    e.period ≤ sub.resetBase
  /-- The entries of a request are all of one period. -/
  period : ∀ e ∈ l.entries, ∀ e' ∈ l.entries, e.requestId = e'.requestId → e.period = e'.period
  /-- An entry belongs to a request that has an open record for that subscription. -/
  record : ∀ e ∈ l.entries, ∃ i record, l.store.preConsumeRecord e.requestId = some (i, record) ∧
    record.refunded = false ∧ record.userSubscriptionId = e.subscriptionId
  positive : ∀ record ∈ l.store.subscriptionPreConsumes, 0 < record.preConsumed

/-! ## What the calls do -/

/-- The candidates are rows of the table, each at most once. -/
structure Candidates (candidates : List (UserSubscription × Nat)) (s : Store) : Prop where
  rows : ∀ c ∈ candidates, s.subscriptions[c.2]? = some c.1
  distinct : (candidates.map Prod.snd).Nodup

theorem candidates_activeSubscriptions :
    Candidates (activeSubscriptions u now s) s where
  rows := by
    intro c hc
    obtain ⟨hmem, -⟩ := mem_filter.mp ((mem_insertionSort _).mp hc)
    exact mem_zipIdx_iff_getElem?.mp hmem
  distinct := by
    have hperm := (perm_insertionSort (fun a b : UserSubscription × Nat =>
      a.1.endTime ≤ b.1.endTime) (s.subscriptions.zipIdx.filter fun r =>
        r.1.userId == u && r.1.status == .active && decide (now < r.1.endTime))).map Prod.snd
    refine hperm.nodup_iff.mpr (List.Nodup.sublist ?_ (nodup_zipIdx_map_snd s.subscriptions))
    exact filter_sublist.map Prod.snd

/-- `requestId` was charged to subscription `id`, after some rows came into their period. -/
structure FirstCharge (requestId : String) (u : Nat) (amount : Int) (id : Nat) (s s' : Store) :
    Prop where
  rows : ∃ s₁ sub, RowsRefreshed s s₁ ∧ s₁.subscriptions[id]? = some sub ∧
    s'.subscriptions =
      s₁.subscriptions.modify id fun row => { row with amountUsed := sub.amountUsed + amount }
  records : s'.subscriptionPreConsumes = s.subscriptionPreConsumes ++
    [{ requestId := requestId, userId := u, userSubscriptionId := id, preConsumed := amount }]

theorem chargeFirstSubscription_firstCharge
    {plans : List SubscriptionPlan} {candidates : List (UserSubscription × Nat)}
    (hrows : Candidates candidates s)
    (h : chargeFirstSubscription requestId u amount (resetByPlan cal plans now) candidates s =
      .ok (id, s')) : FirstCharge requestId u amount id s s' := by
  induction candidates generalizing s with
  | nil => exact nomatch h
  | cons c rest ih =>
    obtain ⟨sub, i⟩ := c
    have hrow : s.subscriptions[i]? = some sub := hrows.rows (sub, i) mem_cons_self
    obtain ⟨hfresh, hdistinct⟩ := nodup_cons.mp hrows.distinct
    rw [chargeFirstSubscription, bind_eq_ok] at h
    obtain ⟨sub', hreset, h⟩ := h
    have hrefreshed : Refreshed sub sub' := by
      simp only [resetByPlan, bind_eq_ok, pure_eq_ok] at hreset
      obtain ⟨-, -, rfl⟩ := hreset
      exact refreshed_maybeReset
    have hstep := rowsRefreshed_modify hrow hrefreshed
    split at h
    · -- not enough left: the row stays refreshed and the next candidate is tried
      have hrest : Candidates rest
          { s with subscriptions := s.subscriptions.modify i fun _ => sub' } := by
        refine ⟨fun c hc => ?_, hdistinct⟩
        have hne : i ≠ c.2 := by
          intro heq
          have hmem : c.2 ∈ rest.map Prod.snd := mem_map_of_mem hc
          exact hfresh (heq ▸ hmem)
        rw [getElem?_modify_ne _ _ hne]
        exact hrows.rows c (mem_cons_of_mem _ hc)
      obtain ⟨⟨s1, row, hs1, hrow1, hsubs⟩, hrecords⟩ := ih hrest h
      exact ⟨⟨s1, row, hstep.trans hs1, hrow1, hsubs⟩, hrecords⟩
    · obtain ⟨rfl, rfl⟩ := ok_pair_inj h
      exact ⟨⟨_, sub', hstep, getElem?_modify_self hrow, rfl⟩, rfl⟩

theorem preConsumeUserSubscriptionAt_ok {preConsumed : Int}
    (h : preConsumeUserSubscriptionAt cal requestId u amount now s = .ok (id, preConsumed, s')) :
    ((s.preConsumeRecord requestId).isSome ∧ s' = s) ∨
    (s.preConsumeRecord requestId = none ∧ 0 < amount ∧
      FirstCharge requestId u amount id s s') := by
  unfold preConsumeUserSubscriptionAt preConsumeWithReset at h
  simp only [bind_eq_ok, failIf_eq_ok] at h
  obtain ⟨-, -, -, -, -, hpos, h⟩ := h
  split at h
  · rename_i hlookup
    simp only [bind_eq_ok] at h
    obtain ⟨-, -, -, -, rfl⟩ := h
    refine .inl ⟨?_, rfl⟩
    rw [Store.preConsumeRecord, hlookup]
    rfl
  · rename_i hlookup
    simp only [bind_eq_ok, Prod.exists] at h
    obtain ⟨-, -, id', s1, hcharge, rfl, -, rfl⟩ := h
    refine .inr ⟨hlookup, not_le.mp hpos, ?_⟩
    exact chargeFirstSubscription_firstCharge candidates_activeSubscriptions hcharge

/-! ## Every call keeps the invariant -/

variable {l : UsageLedger}

theorem UsageInv.refresh (h : UsageInv l) (hrows : RowsRefreshed l.store s') :
    UsageInv { l with store := s' } where
  used := by
    intro id sub' hrow'
    obtain ⟨sub, hrow, ⟨hused, hbase⟩ | ⟨hzero, hlt⟩⟩ := hrows.rows id sub' hrow'
    · rw [hused, h.used id sub hrow, UsageLedger.recorded, UsageLedger.recorded, usageIn, usageIn,
        hbase]
    -- every entry is of a period before the one that begins
    have hnone : (l.entries.filter fun e =>
        e.subscriptionId == id && e.period == sub'.resetBase) = [] := by
      refine filter_eq_nil_iff.mpr fun e he => ?_
      simp only [Bool.and_eq_true, beq_iff_eq, not_and]
      rintro rfl hperiod
      have := h.past e he sub hrow
      omega
    rw [hzero, UsageLedger.recorded, usageIn, hnone]
    simp
  past := by
    intro e he sub' hrow'
    obtain ⟨sub, hrow, ⟨-, hbase⟩ | ⟨-, hlt⟩⟩ := hrows.rows _ sub' hrow'
    · rw [hbase]
      exact h.past e he sub hrow
    · have := h.past e he sub hrow
      omega
  period := h.period
  record := by
    intro e he
    have hrecord := h.record e he
    unfold Store.preConsumeRecord at ⊢
    rw [hrows.records]
    exact hrecord
  positive := by
    rw [hrows.records]
    exact h.positive

theorem resetBase_of_modify
    (hs' : s'.subscriptions = s.subscriptions.modify id fun row => { row with amountUsed := used })
    (hrow' : s'.subscriptions[j]? = some row') :
    ∃ row, s.subscriptions[j]? = some row ∧ row'.resetBase = row.resetBase := by
  rw [hs', getElem?_modify, Option.map_eq_map, Option.map_eq_some_iff] at hrow'
  obtain ⟨row, hrow, rfl⟩ := hrow'
  refine ⟨row, hrow, ?_⟩
  split <;> rfl

theorem usageEntry_of_modify (hrow : s.subscriptions[id]? = some sub)
    (hs' : s'.subscriptions = s.subscriptions.modify id fun row => { row with amountUsed := used }) :
    usageEntry requestId id amount s' =
      { requestId := requestId, subscriptionId := id, period := sub.resetBase, amount := amount } := by
  simp only [usageEntry, hs', getElem?_modify_self hrow]
  rfl

/-- What moving the counter of one subscription together with an entry of its current
period keeps. -/
theorem UsageInv.post (h : UsageInv l) (hrow : l.store.subscriptions[id]? = some sub)
    (hsame : ∀ e ∈ l.entries, e.requestId = requestId → e.period = sub.resetBase)
    (hs' : s'.subscriptions = l.store.subscriptions.modify id fun row =>
      { row with amountUsed := sub.amountUsed + amount })
    (hrecord : ∀ e ∈ l.entries ++ [usageEntry requestId id amount s'], ∃ i record,
      s'.preConsumeRecord e.requestId = some (i, record) ∧ record.refunded = false ∧
        record.userSubscriptionId = e.subscriptionId)
    (hpositive : ∀ record ∈ s'.subscriptionPreConsumes, 0 < record.preConsumed) :
    UsageInv { store := s', entries := l.entries ++ [usageEntry requestId id amount s'] } where
  used := by
    intro j sub' hrow'
    rw [hs'] at hrow'
    rw [UsageLedger.recorded, usageIn, usageEntry_of_modify hrow hs',
      filter_append, total_append]
    rcases getElem?_modify_some hrow hrow' with ⟨rfl, rfl⟩ | ⟨hij, hrow'⟩
    · have hused := h.used id sub hrow
      rw [UsageLedger.recorded, usageIn] at hused
      rw [show ({ sub with amountUsed := sub.amountUsed + amount } : UserSubscription).resetBase =
        sub.resetBase from rfl, ← hused]
      simp
    · rw [h.used j sub' hrow', UsageLedger.recorded, usageIn]
      simp [hij]
  past := by
    intro e he sub' hrow'
    rw [usageEntry_of_modify hrow hs'] at he
    obtain ⟨row, hrow0, hbase⟩ := resetBase_of_modify hs' hrow'
    rw [hbase]
    rcases mem_append.mp he with he | he
    · exact h.past e he row hrow0
    obtain rfl := mem_singleton.mp he
    obtain rfl : sub = row := by
      rw [hrow] at hrow0
      exact some.inj hrow0
    exact le_refl _
  period := by
    rw [usageEntry_of_modify hrow hs']
    intro e he e' he' heq
    rcases mem_append.mp he with he | he <;> rcases mem_append.mp he' with he' | he'
    · exact h.period e he e' he' heq
    · obtain rfl := mem_singleton.mp he'
      exact hsame e he heq
    · obtain rfl := mem_singleton.mp he
      exact (hsame e' he' heq.symm).symm
    · rw [mem_singleton.mp he, mem_singleton.mp he']
  record := hrecord
  positive := hpositive

theorem UsageInv.preConsume
    (h : UsageInv l) (hnew : l.store.preConsumeRecord requestId = none) (hpos : 0 < amount)
    (hcharge : FirstCharge requestId u amount id l.store s') :
    UsageInv { store := s', entries := l.entries ++ [usageEntry requestId id amount s'] } := by
  obtain ⟨⟨s1, sub, hs1, hrow, hrows⟩, hrecords⟩ := hcharge
  -- a request without a record has no entries
  have hother : ∀ e ∈ l.entries, e.requestId ≠ requestId := by
    intro e he heq
    obtain ⟨i, record, hlookup, -⟩ := h.record e he
    rw [heq, hnew] at hlookup
    cases hlookup
  have hfresh : UsageInv { l with store := s1 } := h.refresh hs1
  refine hfresh.post hrow (fun e he heq => absurd heq (hother e he)) hrows ?_ ?_
  · intro e he
    rcases mem_append.mp he with he | he
    · obtain ⟨i, record, hlookup, hopen, hsub⟩ := h.record e he
      refine ⟨i, record, ?_, hopen, hsub⟩
      rw [Store.preConsumeRecord, hrecords]
      exact lookup_append_of_some hlookup
    obtain rfl := mem_singleton.mp he
    refine ⟨l.store.subscriptionPreConsumes.length,
      { requestId := requestId, userId := u, userSubscriptionId := id, preConsumed := amount },
      ?_, rfl, rfl⟩
    rw [Store.preConsumeRecord, hrecords]
    exact lookup_append_of_none hnew (by simp [usageEntry])
  · rw [hrecords]
    intro record hrecord
    rcases mem_append.mp hrecord with hrecord | hrecord
    · exact h.positive record hrecord
    · obtain rfl := mem_singleton.mp hrecord
      exact hpos

theorem UsageInv.settle
    (h : UsageInv l) (hdelta : delta ≠ 0) (hop : (UsageOp.settle requestId id delta).Orderly l)
    (hpost : postConsumeUserSubscriptionDelta (some id) delta l.store = .ok s') :
    UsageInv { store := s', entries := l.entries ++ [usageEntry requestId id delta s'] } := by
  obtain ⟨sub, hrow, ⟨e, he, hreq, hid, hperiod⟩, hused⟩ := hop.resolve_left hdelta
  obtain ⟨i, record, hlookup, hopen, hsub⟩ := h.record e he
  rcases postConsumeUserSubscriptionDelta_ok hrow hused hpost with ⟨hzero, -⟩ | ⟨-, rfl⟩
  · exact absurd hzero hdelta
  refine h.post hrow ?_ rfl ?_ h.positive
  · intro e' he' hreq'
    rw [h.period e' he' e he (hreq'.trans hreq.symm), hperiod]
  intro e' he'
  rcases mem_append.mp he' with he' | he'
  · exact h.record e' he'
  · obtain rfl := mem_singleton.mp he'
    exact ⟨i, record, hreq ▸ hlookup, hopen, hsub.trans hid⟩

theorem refundSubscriptionPreConsume_undisturbed (requestId : String) (s : Store) :
    refundSubscriptionPreConsume requestId .none s = (false, s) ∨
    ∃ i record, s.preConsumeRecord requestId = some (i, record) ∧
      ((record.refunded = true ∧ refundSubscriptionPreConsume requestId .none s = (true, s)) ∨
       (record.refunded = false ∧ record.preConsumed ≤ 0 ∧
          refundSubscriptionPreConsume requestId .none s = (true, markPreConsumeRefunded i s)) ∨
       (record.refunded = false ∧ ∃ s1, postConsumeUserSubscriptionDelta
            (some record.userSubscriptionId) (-record.preConsumed) s = .ok s1 ∧
          refundSubscriptionPreConsume requestId .none s =
            (true, markPreConsumeRefunded i s1))) := by
  unfold refundSubscriptionPreConsume
  split
  · exact .inl rfl
  rename_i i record hlookup
  split
  · exact .inl rfl
  split
  · rename_i hrefunded
    exact .inr ⟨i, record, hlookup, .inl ⟨hrefunded, rfl⟩⟩
  rename_i hopen
  have hopen : record.refunded = false := by simpa using hopen
  split
  · rename_i hpre
    exact .inr ⟨i, record, hlookup, .inr (.inl ⟨hopen, hpre, rfl⟩)⟩
  split
  · exact .inl rfl
  · rename_i s1 hpost
    exact .inr ⟨i, record, hlookup, .inr (.inr ⟨hopen, s1, hpost, rfl⟩)⟩

theorem usageIn_filter_add (requestId : String) (id : Nat) (sub : UserSubscription)
    (entries : List UsageEntry) :
    usageIn id sub (entries.filter fun e => e.requestId == requestId) +
      usageIn id sub (entries.filter fun e => e.requestId != requestId) =
    usageIn id sub entries := by
  unfold usageIn
  rw [filter_comm, filter_comm (fun e : UsageEntry =>
    e.subscriptionId == id && e.period == sub.resetBase) (fun e => e.requestId != requestId)]
  exact total_filter_add

theorem UsageInv.refund {i : Nat} {record : SubscriptionPreConsumeRecord}
    (h : UsageInv l) (hlookup : l.store.preConsumeRecord requestId = some (i, record))
    (hopen : record.refunded = false) (hop : (UsageOp.refund requestId).Orderly l)
    (hpost : postConsumeUserSubscriptionDelta (some record.userSubscriptionId)
      (-record.preConsumed) l.store = .ok s1) :
    UsageInv { store := markPreConsumeRefunded i s1,
               entries := l.entries.filter fun e => e.requestId != requestId } := by
  obtain ⟨hrecord, hrequest⟩ := lookup_some hlookup
  have hpos := h.positive record (mem_of_getElem? hrecord)
  obtain ⟨sub, hrow, ⟨e0, he0, hreq, -, hperiod⟩, hall, hle⟩ :=
    (hop _ hlookup).resolve_left (by simp [hopen])
  have hle : record.preConsumed ≤ sub.amountUsed := hle
  obtain rfl : s1 = l.store.useSubscription record.userSubscriptionId
      (sub.amountUsed + -record.preConsumed) (-record.preConsumed) := by
    rcases postConsumeUserSubscriptionDelta_ok hrow (by omega) hpost with ⟨hzero, -⟩ | ⟨-, rfl⟩
    · omega
    · rfl
  -- every entry of the request is in this subscription and in its current period
  have hown : ∀ e ∈ l.entries, e.requestId = requestId →
      e.subscriptionId = record.userSubscriptionId ∧ e.period = sub.resetBase := by
    intro e he heq
    obtain ⟨i', record', hlookup', -, hsub⟩ := h.record e he
    rw [heq, hlookup, some.injEq] at hlookup'
    obtain ⟨-, rfl⟩ := hlookup'
    exact ⟨hsub.symm, (h.period e he e0 he0 (heq.trans hreq.symm)).trans hperiod⟩
  refine ⟨?_, ?_, ?_, ?_, ?_⟩
  · intro j sub' hrow'
    rw [UsageLedger.recorded]
    have hsplit := usageIn_filter_add requestId j sub' l.entries
    by_cases hij : record.userSubscriptionId = j
    · subst hij
      obtain rfl : { sub with amountUsed := sub.amountUsed + -record.preConsumed } = sub' := by
        have hrow1 := (getElem?_modify_self hrow).symm.trans hrow'
        exact some.inj hrow1
      have hused := h.used _ sub hrow
      have hrequest : usageIn record.userSubscriptionId sub
          (l.entries.filter fun e => e.requestId == requestId) = l.usageOfRequest requestId := by
        rw [usageIn, UsageLedger.usageOfRequest, filter_eq_self.mpr]
        intro e he
        obtain ⟨he, heq⟩ := mem_filter.mp he
        obtain ⟨hid, hbase⟩ := hown e he (by simpa using heq)
        simp [hid, hbase]
      have hsplit' := usageIn_filter_add requestId record.userSubscriptionId sub l.entries
      show ((sub.amountUsed + -record.preConsumed : Int) : ℚ) = usageIn record.userSubscriptionId
        sub (l.entries.filter fun e => e.requestId != requestId)
      rw [UsageLedger.recorded] at hused
      push_cast
      linarith
    · have hrow0 : l.store.subscriptions[j]? = some sub' := by
        rw [← hrow']
        exact (getElem?_modify_ne _ _ hij).symm
      have hnone : usageIn j sub' (l.entries.filter fun e => e.requestId == requestId) = 0 := by
        rw [usageIn, filter_eq_nil_iff.mpr, total_nil]
        intro e he
        obtain ⟨he, heq⟩ := mem_filter.mp he
        obtain ⟨hid, -⟩ := hown e he (by simpa using heq)
        simp only [hid, Bool.and_eq_true, beq_iff_eq, not_and]
        exact fun hj => absurd hj hij
      rw [h.used j sub' hrow0, UsageLedger.recorded, ← hsplit, hnone, zero_add]
  · intro e he sub' hrow'
    obtain ⟨row, hrow0, hbase⟩ := resetBase_of_modify rfl hrow'
    rw [hbase]
    exact h.past e (mem_of_mem_filter he) row hrow0
  · intro e he e' he'
    exact h.period e (mem_of_mem_filter he) e' (mem_of_mem_filter he')
  · intro e he
    obtain ⟨he, hne⟩ := mem_filter.mp he
    obtain ⟨i', record', hlookup', hopen', hsub⟩ := h.record e he
    refine ⟨i', record', ?_, hopen', hsub⟩
    -- the record that was marked is of another request
    have hother : (record.requestId == e.requestId) = false := by
      rw [beq_iff_eq.mp hrequest, beq_eq_false_iff_ne]
      exact (bne_iff_ne.mp hne).symm
    exact (lookup_modify_of_not hrecord hother hother).trans hlookup'
  · intro record' hmem
    rcases mem_modify hrecord hmem with rfl | hmem
    · exact hpos
    · exact h.positive record' hmem

theorem refund_exec {l' : UsageLedger} (h : UsageInv l) (hop : (UsageOp.refund requestId).Orderly l)
    (hexec : (UsageOp.refund requestId).exec cal l = .ok l') : UsageInv l' := by
  simp only [UsageOp.exec, Except.ok.injEq] at hexec
  subst hexec
  rcases refundSubscriptionPreConsume_undisturbed requestId l.store with
    heq | ⟨i, record, hlookup, ⟨hrefunded, heq⟩ | ⟨-, hpre, -⟩ | ⟨hopen, s1, hpost, heq⟩⟩
  · rw [heq]
    exact h
  · -- a request that was refunded before has no entries
    have hkept : (l.entries.filter fun e => e.requestId != requestId) = l.entries := by
      refine filter_eq_self.mpr fun e he => ?_
      rw [bne_iff_ne]
      intro hreq
      obtain ⟨i', record', hlookup', hopen, -⟩ := h.record e he
      rw [hreq, hlookup, some.injEq] at hlookup'
      obtain ⟨-, rfl⟩ := hlookup'
      rw [hrefunded] at hopen
      cases hopen
    rw [heq]
    simp only [hkept]
    exact h
  · have hpos := h.positive record (mem_of_getElem? (lookup_some hlookup).1)
    omega
  · rw [heq]
    exact h.refund hlookup hopen hop hpost

/-- **Every orderly call keeps the counter in step with the ledger.** -/
theorem usageInv_step (op : UsageOp) (l' : UsageLedger) (h : UsageInv l) (hop : op.Orderly l)
    (hexec : op.exec cal l = .ok l') : UsageInv l' := by
  cases op with
  | preConsume =>
    simp only [UsageOp.exec, bind_eq_ok, Prod.exists] at hexec
    obtain ⟨id, preConsumed, s', hcall, hexec⟩ := hexec
    rcases preConsumeUserSubscriptionAt_ok hcall with ⟨hsome, rfl⟩ | ⟨hnone, hpos, hcharge⟩
    · rw [if_pos hsome, pure_eq_ok] at hexec
      exact hexec ▸ h
    · rw [if_neg (by simp [hnone]), pure_eq_ok] at hexec
      exact hexec ▸ h.preConsume hnone hpos hcharge
  | settle =>
    simp only [UsageOp.exec, bind_eq_ok] at hexec
    obtain ⟨s', hpost, hexec⟩ := hexec
    split at hexec
    · rename_i hzero
      subst hzero
      obtain rfl : l.store = s' := by
        simpa [postConsumeUserSubscriptionDelta, orFail]
          using hpost
      rw [pure_eq_ok] at hexec
      exact hexec ▸ h
    · rename_i hdelta
      rw [pure_eq_ok] at hexec
      exact hexec ▸ h.settle hdelta hop hpost
  | refund => exact refund_exec h hop hexec
  | reset id now =>
    simp only [UsageOp.exec, Except.ok.injEq] at hexec
    exact hexec ▸ h.refresh resetDueSubscription_refreshed

/-! ## Whole runs -/

structure Unused (s : Store) : Prop where
  used : ∀ sub ∈ s.subscriptions, sub.amountUsed = 0
  records : s.subscriptionPreConsumes = []

theorem Unused.inv (h : Unused s) : UsageInv { store := s } where
  used _ sub hrow := by
    rw [h.used sub (mem_of_getElem? hrow)]
    rfl
  past _ he := nomatch he
  period _ he := nomatch he
  record _ he := nomatch he
  positive := by
    rw [h.records]
    simp

theorem usageInv_run (h : Unused s) {ops : List UsageOp}
    (hops : Along (UsageOp.exec cal) UsageOp.Orderly ops { store := s }) :
    UsageInv (run (UsageOp.exec cal) ops { store := s }) :=
  run_induction (fun op l l' => usageInv_step op l') h.inv hops

theorem postConsumeUserSubscriptionDelta_resetBase {id : Option Nat}
    (h : postConsumeUserSubscriptionDelta id delta s = .ok s')
    (hrow' : s'.subscriptions[j]? = some row') :
    ∃ row, s.subscriptions[j]? = some row ∧ row'.resetBase = row.resetBase := by
  unfold postConsumeUserSubscriptionDelta at h
  simp only [bind_eq_ok, orFail_eq_ok] at h
  obtain ⟨i, rfl, h⟩ := h
  split at h
  · obtain rfl := pure_eq_ok.mp h
    exact ⟨row', hrow', rfl⟩
  · simp only [bind_eq_ok, pure_eq_ok] at h
    obtain ⟨sub, -, -, -, rfl⟩ := h
    exact resetBase_of_modify rfl hrow'

theorem refund_resetBase (hrow : s.subscriptions[id]? = some sub)
    (hrow' : (refundSubscriptionPreConsume requestId .none s).2.subscriptions[id]? = some sub') :
    sub'.resetBase = sub.resetBase := by
  have hsame : s.subscriptions[id]? = some sub' → sub'.resetBase = sub.resetBase := by
    intro hsub
    rw [hrow, some.injEq] at hsub
    rw [hsub]
  rcases refundSubscriptionPreConsume_undisturbed requestId s with
    heq | ⟨i, record, -, ⟨-, heq⟩ | ⟨-, -, heq⟩ | ⟨-, s1, hpost, heq⟩⟩
  all_goals rw [heq] at hrow'
  · exact hsame hrow'
  · exact hsame hrow'
  · exact hsame hrow'
  obtain ⟨row, hrow0, hbase⟩ := postConsumeUserSubscriptionDelta_resetBase hpost hrow'
  rw [hrow, some.injEq] at hrow0
  rw [hbase, hrow0]

/-- **The used amount of a subscription is what the requests of its current period used**, if
settlements and refunds are for requests of the current period, refunds return all of a request, and
nothing is cut off at zero. A refund takes from the counter what is recorded for its own request. -/
theorem subscription_usage_counted (h : Unused s) {ops : List UsageOp}
    (hops : Along (UsageOp.exec cal) UsageOp.Orderly ops { store := s }) :
    (∀ (id : Nat) sub,
      (run (UsageOp.exec cal) ops { store := s }).store.subscriptions[id]? = some sub →
      (sub.amountUsed : ℚ) = (run (UsageOp.exec cal) ops { store := s }).recorded id sub) ∧
    ∀ requestId l', (UsageOp.refund requestId).Orderly (run (UsageOp.exec cal) ops { store := s }) →
      (UsageOp.refund requestId).exec cal (run (UsageOp.exec cal) ops { store := s }) = .ok l' →
      ∀ (id : Nat) sub sub',
        (run (UsageOp.exec cal) ops { store := s }).store.subscriptions[id]? = some sub →
        l'.store.subscriptions[id]? = some sub' →
        sub'.amountUsed = sub.amountUsed ∨
        (sub.amountUsed : ℚ) - sub'.amountUsed = usageIn id sub
          ((run (UsageOp.exec cal) ops { store := s }).entries.filter fun e =>
            e.requestId == requestId) := by
  have hinv := usageInv_run h hops
  generalize run (UsageOp.exec cal) ops { store := s } = l at hinv
  refine ⟨hinv.used, ?_⟩
  intro requestId l' hop hexec id sub sub' hrow hrow'
  have hused := hinv.used id sub hrow
  have hused' := (refund_exec hinv hop hexec).used id sub' hrow'
  simp only [UsageOp.exec, Except.ok.injEq] at hexec
  subst hexec
  have hbase := refund_resetBase hrow hrow'
  have hsplit := usageIn_filter_add requestId id sub l.entries
  simp only [UsageLedger.recorded, usageIn, hbase] at hused hused'
  split at hused'
  · right
    simp only [usageIn] at hsplit ⊢
    rw [hused, hused', ← hsplit]
    ring
  · left
    exact_mod_cast hused'.trans hused.symm

/-- A subscription of user 1 that starts over every 100 seconds. -/
def resetEveryHundred : Store where
  subscriptionPlans := [{ quotaResetPeriod := .custom, quotaResetCustomSeconds := 100 }]
  subscriptions := [{ userId := 1, amountTotal := 1000, startTime := 1, endTime := 5000 }]

theorem unused_resetEveryHundred : Unused resetEveryHundred where
  used := by decide
  records := rfl

/-- Two requests in two periods, the first one settled and the second one refunded. -/
def orderlyUsage : List UsageOp :=
  [.preConsume "a" 1 100 10, .settle "a" 0 20, .reset 0 150, .preConsume "b" 1 50 160,
    .settle "b" 0 (-10), .settle "b" 0 10]

theorem subscription_usage_counted_two_periods :
    Unused resetEveryHundred ∧
    Along (UsageOp.exec thirtyDayMonths) UsageOp.Orderly orderlyUsage { store := resetEveryHundred } ∧
    ∀ (id : Nat) sub, (run (UsageOp.exec thirtyDayMonths) orderlyUsage
        { store := resetEveryHundred }).store.subscriptions[id]? = some sub →
      (sub.amountUsed : ℚ) = (run (UsageOp.exec thirtyDayMonths) orderlyUsage
        { store := resetEveryHundred }).recorded id sub :=
  have hops : Along (UsageOp.exec thirtyDayMonths) UsageOp.Orderly orderlyUsage
    { store := resetEveryHundred } := by decide +kernel
  ⟨unused_resetEveryHundred, hops, (subscription_usage_counted unused_resetEveryHundred hops).1⟩

/-- A request is charged, the period ends, another request is charged, and the first one
is refunded. -/
def refundAfterReset : List UsageOp :=
  [.preConsume "a" 1 100 10, .reset 0 150, .preConsume "b" 1 50 160, .refund "a"]

/-- The refund of a request of the last period takes away what the other request used in this one.
-/
theorem refund_after_reset_undercounts :
    Unused resetEveryHundred ∧
    (run (UsageOp.exec thirtyDayMonths) refundAfterReset
        { store := resetEveryHundred }).store.subscriptions[0]?.map (fun sub =>
      (sub.amountUsed, (run (UsageOp.exec thirtyDayMonths) refundAfterReset
        { store := resetEveryHundred }).recorded 0 sub)) = some (0, 50) :=
  ⟨unused_resetEveryHundred, by decide +kernel⟩

end ApiGateway
