import ApiGateway.Lib.Runs
import ApiGateway.Proof.Funding

/-!
# A billing session charges the actual quota

A session keeps four counters next to the database (what was charged in advance, what the token
bore of it, what was reserved on top, what the source thinks it consumed) and three flags. They are
related to what was really charged, after every call and whatever was refused on the way.

While a session is open, `Held`: source and token were charged what the counters say. A settlement
that gets past its source fixes the charge at the actual quota for good; a refund, once its
background part succeeds, brings it back to zero.
-/

namespace ApiGateway

open Table Decimal Runs Billing Funding Except

variable {cfg : Config}
variable {s : Store} {task : RefundTask}
variable {b : Billing} {f' : Funding} {faults : RefundTaskFaults}

/-! ## Sessions over time -/

/-- A session, and what was charged on its behalf. -/
structure SessionRun where
  billing : Billing
  charged : Int
  tokenCharged : Int
  task : Option RefundTask := none
  /-- The settlement that took effect, with its quota and its result. -/
  committed : Option (Int × Option Err) := none
  succeeded : Bool := false
  walletSettleFailed : Bool := false
  /-- The background part of the refund ran and all of it succeeded. -/
  refundDone : Bool := false

variable {r : SessionRun}

/-- The session moved on to `b`; what that took is added to the charges. -/
def SessionRun.move (r : SessionRun) (b : Billing) : SessionRun :=
  { r with
    billing := b
    charged := r.charged +
      (b.session.funding.used b.store - b.session.funding.used r.billing.store)
    tokenCharged := r.tokenCharged + (tokenUsed b.session.info.tokenId b.store -
      tokenUsed b.session.info.tokenId r.billing.store) }

/-- A call on the session, the background part of its refund, or anything else that
happens to the database in between. -/
inductive SessionOp where
  | reserve (faults : ReserveFaults) (target : Int)
  | settle (faults : SettleFaults) (actual : Int)
  | refund
  | runRefund (faults : RefundTaskFaults)
  | other (f : Store → Store)

/-- No call is rolled back as a whole, so none fails here. -/
def SessionOp.exec (cfg : Config) (op : SessionOp) (r : SessionRun) : Except Err SessionRun :=
  match op with
  | .reserve faults target => .ok (r.move (r.billing.reserve cfg faults target).1)
  | .settle faults actual =>
    let out := r.billing.settle cfg faults actual
    .ok { r.move out.1 with
      committed :=
        if !r.billing.session.settled && out.1.session.settled then some (actual, out.2)
        else r.committed
      succeeded := r.succeeded || out.2.isNone
      walletSettleFailed := r.walletSettleFailed ||
        (!out.1.session.settled && out.1.session.funding.isWallet) }
  | .refund =>
    let out := r.billing.refund
    .ok { r with billing := out.1, task := out.2.or r.task }
  | .runRefund faults =>
    match r.task with
    | none => .ok r
    | some task =>
      let out := r.billing.runRefund cfg faults task
      .ok { r.move out.1 with task := none, refundDone := out.2 }
  | .other f => .ok { r with billing := { r.billing with store := f r.billing.store } }

/-- A source for a session that has not charged anything yet. -/
def Funding.Initial (f : Funding) (quota : Int) (s : Store) : Prop :=
  match f with
  | .wallet _ c => c = 0 ∧ 0 ≤ quota
  | .qiniuWallet _ c => c = 0 ∧ 0 ≤ quota
  | .subscription sub => sub.amount = quota ∧ (∀ row ∈ s.subscriptions, 0 ≤ row.amountUsed) ∧
      lookup (fun r : SubscriptionPreConsumeRecord => r.requestId == sub.requestId)
        s.subscriptionPreConsumes = none

def SessionRun.opened (b : BillingSession) (s s' : Store) : SessionRun where
  billing := { session := b, store := s' }
  charged := b.funding.used s' - b.funding.used s
  tokenCharged := tokenUsed b.info.tokenId s' - tokenUsed b.info.tokenId s

/-! ## The open session -/

/-- What the source counts agrees with what was charged in advance. -/
def SessionRun.Counts (r : SessionRun) : Prop :=
  match r.billing.session.funding with
  | .wallet _ c => r.walletSettleFailed = false → c = r.billing.session.preConsumedQuota
  | .qiniuWallet _ c => c = r.billing.session.preConsumedQuota
  | .subscription sub =>
    sub.preConsumed + r.billing.session.extraReserved = r.billing.session.preConsumedQuota ∧
    0 ≤ r.billing.session.extraReserved ∧ sub.Recorded r.billing.store

/-- **What an open session charged is what its counters say.** -/
structure Held (r : SessionRun) : Prop where
  unsettled : r.billing.session.settled = false
  fundingUnsettled : r.billing.session.fundingSettled = false
  ledger : r.billing.session.info.officialLedger = false
  nonneg : 0 ≤ r.billing.session.preConsumedQuota
  charged : r.charged = r.billing.session.preConsumedQuota
  tokenConsumed : r.billing.session.tokenConsumed = r.billing.session.preConsumedQuota
  tokenCharged : r.tokenCharged =
    r.billing.session.info.tokenShare r.billing.session.preConsumedQuota
  token : r.billing.store.tokens[r.billing.session.info.tokenId]?.isSome
  covered : r.billing.session.funding.Covered r.billing.session.preConsumedQuota r.billing.store
  subscriptionId : r.billing.session.info.subscriptionId =
    r.billing.session.funding.subscriptionId
  counts : r.Counts

inductive SessionInv (r : SessionRun) : Prop where
  /-- Neither settled nor refunded. -/
  | opened (held : Held r) (notRefunded : r.billing.session.refunded = false)
      (noTask : r.task = none) (uncommitted : r.committed = none)
      (unsucceeded : r.succeeded = false) (undone : r.refundDone = false)
  /-- The source was settled at `actual`. -/
  | settled (actual : Int) (err : Option Err) (settled : r.billing.session.settled = true)
      (noTask : r.task = none) (committed : r.committed = some (actual, err))
      (charged : r.charged = actual)
      (tokenCharged : r.tokenCharged = r.billing.session.info.tokenShare
        (if err.isNone then actual else r.billing.session.preConsumedQuota))
      (undone : r.refundDone = false)
  /-- The refund waits in the background. -/
  | refunding (task : RefundTask) (held : Held r) (refunded : r.billing.session.refunded = true)
      (hasTask : r.task = some task)
      (isTask : task =
        { tokenConsumed := r.billing.session.tokenConsumed
          extraReserved := r.billing.session.extraReserved
          subscriptionId := r.billing.session.info.subscriptionId })
      (counted : r.walletSettleFailed = false ∨ r.billing.session.funding.isWallet = false)
      (uncommitted : r.committed = none) (unsucceeded : r.succeeded = false)
      (undone : r.refundDone = false)
  /-- The background part of the refund has run. -/
  | refunded (unsettled : r.billing.session.settled = false)
      (refunded : r.billing.session.refunded = true) (noTask : r.task = none)
      (uncommitted : r.committed = none) (unsucceeded : r.succeeded = false)
      (returned : r.refundDone = true → r.charged = 0 ∧ r.tokenCharged = 0)

theorem SessionRun.move_self (r : SessionRun) : r.move r.billing = r := by
  simp [move]

theorem RelayInfo.tokenShare_add (info : RelayInfo) (p q : Int) :
    info.tokenShare (p + q) = info.tokenShare p + info.tokenShare q := by
  unfold tokenShare
  split <;> rfl

theorem Held.of_move (h : Held r)
    (hmove : FundingMove r.billing.session.funding 0 r.billing.store s) :
    Held (r.move { session := r.billing.session, store := s }) :=
  { h with
    charged := by
      have hused := hmove.used
      have hcharged := h.charged
      simp only [SessionRun.move]
      omega
    tokenCharged := by
      have htoken := h.tokenCharged
      simp only [SessionRun.move, tokenUsed, hmove.tokens]
      omega
    token := by
      simp only [SessionRun.move, hmove.tokens]
      exact h.token
    covered := by
      have hcov := hmove.covered _ h.covered
      rw [add_zero] at hcov
      exact hcov
    counts := by
      have hcounts := h.counts
      unfold SessionRun.Counts SubscriptionFunding.Recorded at hcounts ⊢
      simp only [SessionRun.move, hmove.records]
      exact hcounts }

theorem Held.qiniu_nonneg (h : Held r) (u : Nat) (k : Int)
    (hf : r.billing.session.funding = .qiniuWallet u k) : 0 ≤ k := by
  have hcounts := h.counts
  unfold SessionRun.Counts at hcounts
  rw [hf] at hcounts
  have hnonneg := h.nonneg
  omega

/-! ## Reserving -/

theorem Billing.reserve_refunded (faults : ReserveFaults) (target : Int) (b : Billing) :
    (b.reserve cfg faults target).1.session.refunded = b.session.refunded := by
  unfold reserve
  dsimp only
  split
  · rfl
  · split
    · rfl
    · split <;> rfl

/-- A reservation either changes nothing or is charged to source and token alike. -/
theorem Held.reserve {faults : ReserveFaults} {target : Int} (h : Held r)
    (hrollback : faults.rollback = false) :
    Held (r.move (r.billing.reserve cfg faults target).1) := by
  unfold Billing.reserve
  dsimp only
  split
  · rw [SessionRun.move_self]; exact h
  rename_i hgo
  simp only [not_or] at hgo
  have hdelta : 0 < target - r.billing.session.preConsumedQuota := by omega
  split
  · rw [SessionRun.move_self]; exact h
  rename_i s1 hres
  split
  · -- the token refuses and the source gets its reservation back
    obtain ⟨s2, hback, hmove⟩ :=
      rollbackFundingReserve_ok hdelta h.covered h.nonneg h.qiniu_nonneg hres
    rw [hrollback, hback]
    exact h.of_move hmove
  rename_i s2 htok
  obtain ⟨rfl, hmove⟩ := reserveFunding_ok hdelta h.covered h.nonneg hres
  have htoken1 : s1.tokens[r.billing.session.info.tokenId]?.isSome := by
    rw [hmove.tokens]; exact h.token
  have htmove := reserveToken_move hdelta h.ledger htoken1 htok
  have hsame := addConsumed_same (target - r.billing.session.preConsumedQuota)
    r.billing.session.funding
  exact { h with
    nonneg := by
      show 0 ≤ r.billing.session.preConsumedQuota + (target - r.billing.session.preConsumedQuota)
      have := h.nonneg
      omega
    charged := by
      have hcharged := h.charged
      have hused := hmove.used
      have hfund := htmove.funding r.billing.session.funding
      simp only [SessionRun.move, BillingSession.syncRelayInfo, hsame.used]
      omega
    tokenConsumed := by
      have htc := h.tokenConsumed
      simp only [SessionRun.move, BillingSession.syncRelayInfo]
      omega
    tokenCharged := by
      have htc := h.tokenCharged
      have hused := htmove.used
      have hsame1 : tokenUsed r.billing.session.info.tokenId s1 =
          tokenUsed r.billing.session.info.tokenId r.billing.store := by
        simp only [tokenUsed, hmove.tokens]
      show r.tokenCharged + (tokenUsed r.billing.session.info.tokenId s2 -
        tokenUsed r.billing.session.info.tokenId r.billing.store) =
        r.billing.session.info.tokenShare (r.billing.session.preConsumedQuota +
          (target - r.billing.session.preConsumedQuota))
      rw [RelayInfo.tokenShare_add]
      omega
    token := htmove.exists_
    covered := by
      have hcov := htmove.covered _ _ (hmove.covered _ h.covered)
      rw [← hsame.covered] at hcov
      exact hcov
    subscriptionId := by
      cases r.billing.session.funding <;> rfl
    counts := by
      have hcounts := h.counts
      have hrec : s2.subscriptionPreConsumes = r.billing.store.subscriptionPreConsumes :=
        htmove.records.trans hmove.records
      simp only [SessionRun.Counts, SessionRun.move, BillingSession.syncRelayInfo] at hcounts ⊢
      cases hf : r.billing.session.funding with
      | wallet =>
        rw [hf] at hcounts
        intro hfailed
        have := hcounts hfailed
        omega
      | qiniuWallet =>
        rw [hf] at hcounts
        simp only [addConsumed]
        omega
      | subscription =>
        rw [hf] at hcounts
        obtain ⟨hsum, hextra, hrecorded⟩ := hcounts
        refine ⟨by omega, by omega, ?_⟩
        unfold SubscriptionFunding.Recorded at ⊢
        rw [hrec]
        exact hrecorded }

/-! ## Settling -/

theorem Billing.settle_frame (cfg : Config) (faults : SettleFaults) (actual : Int) (b : Billing) :
    (b.settle cfg faults actual).1.session.info = b.session.info ∧
    (b.settle cfg faults actual).1.session.preConsumedQuota = b.session.preConsumedQuota ∧
    (b.settle cfg faults actual).1.session.refunded = b.session.refunded := by
  unfold settle
  dsimp only
  split
  · exact ⟨rfl, rfl, rfl⟩
  split
  · exact ⟨rfl, rfl, rfl⟩
  · split
    · exact ⟨rfl, rfl, rfl⟩
    · split <;> exact ⟨rfl, rfl, rfl⟩

/-- A settled session answers every further settlement with success and leaves
everything as it is. -/
theorem Billing.settle_of_settled (h : b.session.settled = true)
    (faults : SettleFaults) (actual : Int) : b.settle cfg faults actual = (b, none) := by
  unfold settle
  rw [if_pos h]

/-- What becomes of an open session that is settled. -/
structure Settlement (r : SessionRun) (actual : Int) (out : Billing × Option Err) : Prop where
  settled : out.1.session.settled = true
  charged : (r.move out.1).charged = actual
  tokenCharged : (r.move out.1).tokenCharged = r.billing.session.info.tokenShare
    (if out.2.isNone then actual else r.billing.session.preConsumedQuota)

/-- **A settlement leaves the charge as it was, or it charges the actual quota**, and then the token
follows, unless its own adjustment is refused. -/
theorem Held.settle (cfg : Config) (faults : SettleFaults) {actual : Int}
    (h : Held r) (hactual : 0 ≤ actual) :
    (∃ f' e, r.billing.settle cfg faults actual =
        ({ r.billing with session := { r.billing.session with funding := f' } }, some e) ∧
      r.billing.session.funding.Same f' ∧
      (r.billing.session.funding.isWallet = false → f' = r.billing.session.funding)) ∨
    Settlement r actual (r.billing.settle cfg faults actual) := by
  have hcharged := h.charged
  have htcharged := h.tokenCharged
  unfold Billing.settle
  dsimp only
  rw [if_neg (by simp [h.unsettled])]
  split
  · right
    exact {
      settled := rfl
      charged := by simp only [SessionRun.move]; omega
      tokenCharged := by
        have heq : actual = r.billing.session.preConsumedQuota := by omega
        simp only [SessionRun.move, heq, ite_self]
        omega }
  rw [if_neg (by simp [h.fundingUnsettled])]
  have hsame := settle_same cfg faults.funding
    (actual - r.billing.session.preConsumedQuota) r.billing.session.funding r.billing.store
  split
  · rename_i f' e hset
    rw [hset] at hsame
    exact .inl ⟨f', e, rfl, hsame, settle_error hset⟩
  rename_i s1 hset
  right
  rw [hset] at hsame
  have hmove := settle_move h.covered (by omega) hset
  have hused := hmove.used
  have htoken1 : s1.tokens[r.billing.session.info.tokenId]?.isSome := by
    rw [hmove.tokens]; exact h.token
  have hsame1 : tokenUsed r.billing.session.info.tokenId s1 =
      tokenUsed r.billing.session.info.tokenId r.billing.store := by
    simp only [tokenUsed, hmove.tokens]
  split
  · exact {
      settled := rfl
      charged := by simp only [SessionRun.move, hsame.used]; omega
      tokenCharged := by
        simp only [SessionRun.move, Option.isNone_some, Bool.false_eq_true, if_false]
        omega }
  rename_i htok
  have htmove := settleToken_move htoken1 htok
  have hfund := htmove.funding r.billing.session.funding
  exact {
    settled := rfl
    charged := by simp only [SessionRun.move, hsame.used]; omega
    tokenCharged := by
      have hused' := htmove.used
      have hshare := r.billing.session.info.tokenShare_add r.billing.session.preConsumedQuota
        (actual - r.billing.session.preConsumedQuota)
      rw [show r.billing.session.preConsumedQuota +
        (actual - r.billing.session.preConsumedQuota) = actual by omega] at hshare
      simp only [SessionRun.move, Option.isNone_none, if_true]
      omega }

/-! ## Refunding -/

/-- The part of the reservations that a refund of the source does not return. -/
def Funding.apart : Funding → Int → Int
  | .subscription _, reserved => reserved
  | _, _ => 0

/-- What was charged in advance is what the source returns and what is returned apart
from it. -/
theorem Held.returns (h : Held r)
    (hcount : r.walletSettleFailed = false ∨ r.billing.session.funding.isWallet = false) :
    r.billing.session.funding.Recorded r.billing.store ∧
    0 ≤ r.billing.session.funding.returns ∧
    r.billing.session.funding.returns ≤ r.billing.session.preConsumedQuota ∧
    0 ≤ r.billing.session.funding.apart r.billing.session.extraReserved ∧
    r.billing.session.preConsumedQuota - r.billing.session.funding.returns =
      r.billing.session.funding.apart r.billing.session.extraReserved := by
  have hnonneg := h.nonneg
  have hcounts := h.counts
  unfold SessionRun.Counts at hcounts
  cases hf : r.billing.session.funding with
  | wallet =>
    rw [hf] at hcounts hcount
    have hc := hcounts (hcount.resolve_right (by simp [isWallet]))
    simp only [Funding.returns, apart]
    exact ⟨trivial, by omega, by omega, le_rfl, by omega⟩
  | qiniuWallet =>
    rw [hf] at hcounts
    simp only [Funding.returns, apart]
    exact ⟨trivial, by omega, by omega, le_rfl, by omega⟩
  | subscription =>
    rw [hf] at hcounts
    obtain ⟨hsum, hextra, hrec⟩ := hcounts
    have hpos := hrec.2.1
    simp only [Funding.returns, apart]
    exact ⟨hrec, by omega, by omega, hextra, by omega⟩

theorem RefundTask.refundExtra_move {refused : Bool} {f : Funding}
    {s' : Store} (hsame : f.Same f') (hid : task.subscriptionId = f.subscriptionId)
    (hextra : 0 ≤ f.apart task.extraReserved) (hcov : f.Covered (f.apart task.extraReserved) s)
    (h : task.refundExtra refused f' s = .ok s') :
    FundingMove f (-f.apart task.extraReserved) s s' := by
  unfold refundExtra at h
  cases f with
  | wallet | qiniuWallet =>
    have hsub : f'.isSubscription = false := by
      cases f' <;> simp_all [Same, isSubscription]
    rw [if_neg (by simp [hsub])] at h
    rw [← ok.inj h]
    exact .refl _ _
  | subscription sub =>
    obtain rfl : f' = .subscription sub := by
      cases f' <;> simp_all [Same]
    simp only [apart, Funding.subscriptionId] at hextra hcov hid ⊢
    split at h
    · obtain ⟨-, hcall⟩ := storageCall_eq_ok.mp h
      rw [hid] at hcall
      exact postConsumeUserSubscriptionDelta_move hcov (by omega) hcall
    rename_i hskip
    -- the subscription is known, so there was nothing to return
    obtain ⟨id, -, hid', -⟩ := hcov
    have hnot : ¬ 0 < task.extraReserved := fun hpos =>
      hskip ⟨hpos, rfl, by rw [hid, hid']; rfl⟩
    have hzero : task.extraReserved = 0 := by omega
    rw [← ok.inj h, hzero]
    exact .refl _ _

/-- A background refund that succeeds has made each of its three steps. -/
theorem Billing.runRefund_ok (h : (b.runRefund cfg faults task).2 = true) :
    ∃ f' s1 s2 s3, b.session.funding.refund cfg faults.funding b.store = (f', true, s1) ∧
      task.refundExtra faults.extra f' s1 = .ok s2 ∧
      task.refundToken faults.token b.session.info s2 = .ok s3 ∧
      (b.runRefund cfg faults task).1 =
        { session := { b.session with funding := f' }, store := s3 } := by
  unfold runRefund at h ⊢
  rcases hfund : b.session.funding.refund cfg faults.funding b.store with ⟨f', ok1, s1⟩
  rw [hfund] at h
  dsimp only at h ⊢
  cases hextra : task.refundExtra faults.extra f' s1 with
  | error => rw [hextra] at h; simp at h
  | ok s2 =>
    rw [hextra] at h
    cases htok : task.refundToken faults.token b.session.info s2 with
    | error => rw [htok] at h; simp at h
    | ok s3 =>
      rw [htok] at h
      simp only [Bool.and_true] at h
      subst h
      exact ⟨f', s1, s2, s3, rfl, hextra, htok, rfl⟩

/-- **A refund whose steps all succeed brings both charges back to zero.** -/
theorem Held.runRefund (h : Held r)
    (hcount : r.walletSettleFailed = false ∨ r.billing.session.funding.isWallet = false)
    (hatomic : faults.funding.Atomic) (htask : task =
      { tokenConsumed := r.billing.session.tokenConsumed
        extraReserved := r.billing.session.extraReserved
        subscriptionId := r.billing.session.info.subscriptionId })
    (hok : (r.billing.runRefund cfg faults task).2 = true) :
    (r.move (r.billing.runRefund cfg faults task).1).charged = 0 ∧
    (r.move (r.billing.runRefund cfg faults task).1).tokenCharged = 0 := by
  obtain ⟨hrec, hret, hle, hapart, hrest⟩ := h.returns hcount
  have hcharged := h.charged
  have htcharged := h.tokenCharged
  have hnonneg : 0 ≤ r.billing.session.tokenConsumed := by rw [h.tokenConsumed]; exact h.nonneg
  obtain ⟨f', s1, s2, s3, hfund, hextra, htok, heq⟩ := runRefund_ok hok
  rw [heq]
  subst htask
  have hmove1 := refund_move hatomic hrec h.covered hret hle hfund
  have hcov1 := hmove1.covered _ h.covered
  rw [hrest] at hcov1
  have hmove2 := RefundTask.refundExtra_move hmove1.same h.subscriptionId hapart hcov1 hextra
  have htoken2 : s2.tokens[r.billing.session.info.tokenId]?.isSome := by
    rw [hmove2.tokens, hmove1.tokens]; exact h.token
  have hmove3 := RefundTask.refundToken_move htoken2 hnonneg htok
  constructor
  · have hused1 := hmove1.used
    have hused2 := hmove2.used
    have hused3 := hmove3.funding r.billing.session.funding
    simp only [SessionRun.move, hmove1.same.used]
    dsimp only at hused2
    omega
  have hused := hmove3.used
  have hsame : tokenUsed r.billing.session.info.tokenId s2 =
      tokenUsed r.billing.session.info.tokenId r.billing.store := by
    simp only [tokenUsed, hmove2.tokens, hmove1.tokens]
  have hshare := r.billing.session.info.tokenShare_add r.billing.session.preConsumedQuota
    (-r.billing.session.preConsumedQuota)
  rw [add_neg_cancel, show r.billing.session.info.tokenShare 0 = 0 from ite_self _] at hshare
  simp only [h.tokenConsumed] at hused
  simp only [SessionRun.move]
  omega

/-! ## Runs -/

/-- What other requests do leaves the token and the record of this one in place, and the
subscription counts what it charged. -/
structure SessionRun.Undisturbed (r : SessionRun) (s : Store) : Prop where
  token : s.tokens[r.billing.session.info.tokenId]?.isSome
  covered : r.billing.session.funding.Covered r.billing.session.preConsumedQuota s
  record : ∀ sub, r.billing.session.funding = .subscription sub →
    lookup (fun p : SubscriptionPreConsumeRecord => p.requestId == sub.requestId)
      s.subscriptionPreConsumes =
    lookup (fun p : SubscriptionPreConsumeRecord => p.requestId == sub.requestId)
      r.billing.store.subscriptionPreConsumes

/-- Calls as the session is meant to be used: a reservation that the token refuses can be given
back, nothing is settled after a refund or refunded after the wallet refused a settlement, and no
attempt of a refund commits half of its work. -/
def SessionOp.Regular (op : SessionOp) (r : SessionRun) : Prop :=
  match op with
  | .reserve faults _ => faults.rollback = false
  | .settle _ actual => 0 ≤ actual ∧ r.billing.session.refunded = false
  | .refund => r.walletSettleFailed = false ∨ r.billing.session.needsRefund = false
  | .runRefund faults => faults.funding.Atomic
  | .other f => r.Undisturbed (f r.billing.store)

theorem Held.other (h : Held r) (hs : r.Undisturbed s) :
    Held { r with billing := { r.billing with store := s } } := by
  refine { h with token := hs.token, covered := hs.covered, counts := ?_ }
  have hcounts := h.counts
  unfold SessionRun.Counts at hcounts ⊢
  cases hf : r.billing.session.funding with
  | wallet | qiniuWallet => rw [hf] at hcounts; exact hcounts
  | subscription sub =>
    rw [hf] at hcounts
    obtain ⟨hsum, hextra, hrec⟩ := hcounts
    refine ⟨hsum, hextra, ?_⟩
    unfold SubscriptionFunding.Recorded at ⊢
    rw [hs.record sub hf]
    exact hrec

/-- A settlement that the source refuses leaves the session open, but the counter of the wallet
cannot be relied on any more. -/
theorem Held.refused {r' : SessionRun} (h : Held r) (hbilling : r'.billing =
      { r.billing with session := { r.billing.session with funding := f' } })
    (hcharged : r'.charged = r.charged) (htoken : r'.tokenCharged = r.tokenCharged)
    (hfailed : f'.isWallet = true → r'.walletSettleFailed = true)
    (hsame : r.billing.session.funding.Same f')
    (hf' : r.billing.session.funding.isWallet = false → f' = r.billing.session.funding) :
    Held r' := by
  obtain ⟨billing, charged, tokenCharged⟩ := r'
  subst hbilling hcharged htoken
  refine { h with
    covered := (hsame.covered ..).symm ▸ h.covered
    subscriptionId := h.subscriptionId.trans hsame.subscriptionId.symm
    counts := ?_ }
  have hcounts := h.counts
  unfold SessionRun.Counts at hcounts
  cases hf : r.billing.session.funding with
  | wallet =>
    rw [hf] at hsame
    cases f' with
    | wallet => exact fun hok => nomatch ((hfailed rfl).symm.trans hok)
    | qiniuWallet | subscription => exact hsame.elim
  | qiniuWallet | subscription =>
    obtain rfl := hf' (by rw [hf]; rfl)
    rw [hf] at hcounts
    simp only [hf]
    exact hcounts

theorem Held.refunding {task : Option RefundTask} (h : Held r) :
    Held { r with
      billing := { r.billing with session := { r.billing.session with refunded := true } }
      task := task } := { h with }

theorem SessionInv.isOpen (h : SessionInv r) (hs : r.billing.session.settled = false)
    (hr : r.billing.session.refunded = false) :
    Held r ∧ r.task = none ∧ r.committed = none ∧ r.succeeded = false ∧ r.refundDone = false := by
  cases h with
  | opened held _ noTask uncommitted unsucceeded undone =>
    exact ⟨held, noTask, uncommitted, unsucceeded, undone⟩
  | settled _ _ settled => exact absurd hs (by simp [settled])
  | refunding _ _ refunded | refunded _ refunded => exact absurd hr (by simp [refunded])

/-- **Every regular call keeps the books of a session.** -/
theorem sessionInv_step (op : SessionOp) (r r' : SessionRun) (h : SessionInv r)
    (hop : op.Regular r) (hx : op.exec cfg r = .ok r') : SessionInv r' := by
  cases op with
  | reserve faults target =>
    obtain rfl := ok.inj hx
    by_cases hdone : r.billing.session.settled = true ∨ r.billing.session.refunded = true
    · have hnoop : (r.billing.reserve cfg faults target).1 = r.billing := by
        unfold reserve
        rw [if_pos (by tauto)]
      rw [hnoop, SessionRun.move_self]
      exact h
    simp only [not_or, Bool.not_eq_true] at hdone
    obtain ⟨held, noTask, uncommitted, unsucceeded, undone⟩ := h.isOpen hdone.1 hdone.2
    refine .opened (held.reserve hop) ?_ noTask uncommitted unsucceeded undone
    exact (reserve_refunded faults target r.billing).trans hdone.2
  | settle faults actual =>
    obtain rfl := ok.inj hx
    obtain ⟨hactual, hnot⟩ := hop
    cases h with
    | opened held notRefunded noTask uncommitted unsucceeded undone =>
      obtain ⟨hinfo, hpre, -⟩ := settle_frame cfg faults actual r.billing
      rcases held.settle cfg faults hactual with ⟨f', e, heq, hsame, hf'⟩ | hset
      · rw [heq]
        refine .opened (held.refused rfl ?_ ?_ ?_ hsame hf') notRefunded noTask ?_ ?_ undone
        · simp [SessionRun.move]
        · simp [SessionRun.move]
        · intro hwallet
          simp [held.unsettled, hwallet]
        · simp [uncommitted]
        · simp [unsucceeded]
      refine .settled actual (r.billing.settle cfg faults actual).2 hset.settled noTask ?_
        hset.charged ?_ undone
      · simp only [held.unsettled, hset.settled, Bool.not_false, Bool.and_self, if_true]
      show (r.move (r.billing.settle cfg faults actual).1).tokenCharged =
        (r.billing.settle cfg faults actual).1.session.info.tokenShare
          (if (r.billing.settle cfg faults actual).2.isNone then actual
           else (r.billing.settle cfg faults actual).1.session.preConsumedQuota)
      rw [hset.tokenCharged, hinfo, hpre]
    | settled actual' err settled noTask committed charged tokenCharged undone =>
      rw [settle_of_settled settled, SessionRun.move_self]
      refine .settled actual' err settled noTask ?_ charged tokenCharged undone
      simp only [settled]
      exact committed
    | refunding _ _ refunded | refunded _ refunded => exact absurd hnot (by simp [refunded])
  | refund =>
    obtain rfl := ok.inj hx
    unfold Billing.refund
    dsimp only
    split
    · exact h
    rename_i hgo
    simp only [not_or, not_not] at hgo
    obtain ⟨hunsettled, hfresh, hneeds⟩ := hgo
    obtain ⟨held, -, uncommitted, unsucceeded, undone⟩ :=
      h.isOpen (by simpa using hunsettled) (by simpa using hfresh)
    have hcounted := hop.resolve_right (by simp [hneeds])
    exact .refunding _ held.refunding rfl rfl rfl (.inl hcounted) uncommitted unsucceeded undone
  | runRefund =>
    unfold SessionOp.exec at hx
    cases htask : r.task with
    | none =>
      rw [htask] at hx
      obtain rfl := ok.inj hx
      exact h
    | some =>
      rw [htask] at hx
      obtain rfl := ok.inj hx
      cases h with
      | refunding _ held refunded hasTask isTask counted uncommitted unsucceeded =>
        obtain rfl := Option.mem_unique htask hasTask
        refine .refunded ?_ ?_ rfl uncommitted unsucceeded (held.runRefund counted hop isTask)
        · exact held.unsettled
        · exact refunded
      | opened _ _ noTask | settled _ _ _ noTask | refunded _ _ noTask =>
        cases htask.symm.trans noTask
  | other =>
    obtain rfl := ok.inj hx
    cases h with
    | opened held notRefunded noTask uncommitted unsucceeded undone =>
      exact .opened (held.other hop) notRefunded noTask uncommitted unsucceeded undone
    | settled actual err settled noTask committed charged tokenCharged undone =>
      exact .settled actual err settled noTask committed charged tokenCharged undone
    | refunding task held refunded hasTask isTask counted uncommitted unsucceeded undone =>
      exact .refunding task (held.other hop) refunded hasTask isTask counted uncommitted
        unsucceeded undone
    | refunded unsettled refunded noTask uncommitted unsucceeded returned =>
      exact .refunded unsettled refunded noTask uncommitted unsucceeded returned

end ApiGateway
