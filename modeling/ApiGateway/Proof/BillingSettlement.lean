import ApiGateway.Proof.BillingSession

/-!
# From opening a session to its last call

A session is opened on one source, possibly after another was tried and refused. An attempt that
fails gives the token back what it was charged. What a session charged on opening is what its
counters say, and from there `sessionInv_step` carries the books through every call.
-/

namespace ApiGateway

open Table Decimal Runs BillingSession

variable {cfg : Config}
variable {due : Nat → Bool} {now quota : Int} {f : Funding} {s s' : Store} {b : BillingSession}
  {faults : PreConsumeFaults} {info : RelayInfo}
variable {e : APIError} {subscription wallet : PreConsumeFaults}

/-! ## Opening -/

theorem Funding.preConsume_move {refused : Bool} {amount : Int}
    {f' : Funding} (hinit : f.Initial quota s)
    (hamount : amount = quota ∨ amount = 0 ∧ f.isWallet = true)
    (h : f.preConsume cfg refused due now amount s = .ok (f', s')) :
    0 ≤ amount ∧ f'.used s' = f'.used s + amount ∧ s'.tokens = s.tokens ∧
      f'.Covered amount s' ∧ f'.returns = amount ∧ f'.Recorded s' := by
  cases f with
  | wallet u | qiniuWallet u =>
    obtain ⟨rfl, hquota⟩ := hinit
    have hnonneg : 0 ≤ amount := by omega
    simp only [preConsume] at h
    split at h
    · obtain ⟨rfl, rfl⟩ := ok_pair_inj h
      obtain rfl : amount = 0 := by omega
      exact ⟨le_rfl, (add_zero _).symm, rfl, trivial, rfl, trivial⟩
    rename_i hpos
    simp only [bind_eq_ok, storageCall_eq_ok, pure_eq_ok, Prod.mk.injEq] at h
    obtain ⟨s1, ⟨-, hcall⟩, rfl, rfl⟩ := h
    have hcharge : WalletCharge u amount s s1 := by
      first
      | exact consumeWalletQuota_charge (not_le.mp hpos) hcall
      | exact debitBalanceByQuotaSilentlyTx_charge (not_le.mp hpos) hcall
    have hmove := hcharge.wallet (c := amount)
    exact ⟨hnonneg, hmove.used, hmove.tokens, trivial, by simp [returns], trivial⟩
  | subscription sub =>
    obtain ⟨rfl, hrows, hnew⟩ := hinit
    obtain rfl := hamount.resolve_right (by simp [isWallet])
    simp only [preConsume, bind_eq_ok, storageCall_eq_ok, Prod.exists] at h
    obtain ⟨id, pre, s1, ⟨-, hcall⟩, rfl, rfl⟩ := h
    obtain ⟨hblank, hpos, rfl, hcharged⟩ := preConsumeUserSubscription_ok hrows hnew hcall
    obtain ⟨row, hrow, hle⟩ := hcharged.row
    have hlookup := lookup_append_of_none (a :=
      { requestId := sub.requestId, userId := sub.userId, userSubscriptionId := id,
        preConsumed := sub.amount }) hnew (beq_self_eq_true _)
    rw [← hcharged.records] at hlookup
    exact ⟨hpos.le, hcharged.usage, hcharged.tokens, ⟨id, row, rfl, hrow, hle⟩, rfl, hblank, hpos,
      _, _, hlookup, rfl, rfl, rfl⟩

theorem BillingSession.preConsume_ok {b0 : BillingSession}
    (h : preConsume cfg faults due now quota b0 s = (.ok b, s')) :
    ∃ effective f' s1,
      (effective = quota ∨ effective = 0 ∧ b0.funding.isWallet = true) ∧
      (if effective > 0 then preConsumeTokenQuota b0.info faults.token effective s else .ok s) =
        .ok s1 ∧
      b0.funding.preConsume cfg faults.funding due now effective s1 = .ok (f', s') ∧
      b = { b0 with
        trusted := b0.shouldTrust cfg
        funding := f'
        tokenConsumed := if effective > 0 then effective else b0.tokenConsumed
        preConsumedQuota := effective }.syncRelayInfo := by
  unfold preConsume at h
  dsimp only at h
  have hquota : (if b0.shouldTrust cfg then 0 else quota) = quota ∨
      (if b0.shouldTrust cfg then 0 else quota) = 0 ∧ b0.funding.isWallet = true := by
    split
    · rename_i htrust
      refine .inr ⟨rfl, ?_⟩
      -- a session is trusted only on the wallet
      unfold shouldTrust at htrust
      cases hf : b0.funding with
      | wallet => rfl
      | qiniuWallet | subscription => rw [hf] at htrust; cases htrust
    · exact .inl rfl
  generalize (if b0.shouldTrust cfg = true then 0 else quota) = effective at h hquota
  split at h
  · cases h
  rename_i s1 htok
  split at h
  · -- the source refused, so there is no session
    repeat' split at h
    all_goals cases h
  rename_i f' s2 hfund
  obtain ⟨rfl, rfl⟩ := h
  exact ⟨effective, f', s1, hquota, htok, hfund, rfl⟩

/-- One that could not be opened may have charged the token, and given it back. -/
theorem BillingSession.preConsume_error
    (h : b.preConsume cfg faults due now quota s = (.error e, s')) :
    ∃ s1, (s1 = s ∨ ∃ q, preConsumeTokenQuota b.info faults.token q s = .ok s1) ∧
      (s' = s1 ∨ b.info.isPlayground = false ∧ ∃ q, s' = s1.chargeToken b.info.tokenId q) := by
  unfold preConsume at h
  dsimp only at h
  generalize (if b.shouldTrust cfg = true then 0 else quota) = effective at h
  generalize (if effective > 0 then effective else b.tokenConsumed) = tokenConsumed at h
  split at h
  · exact ⟨s, .inl rfl, .inl (Prod.mk.inj h).2.symm⟩
  rename_i s1 htok
  refine ⟨s1, ?_, ?_⟩
  · split at htok
    · exact .inr ⟨_, htok⟩
    · exact .inl (Except.ok.inj htok).symm
  split at h
  · split at h
    · rename_i hpay
      split at h
      · exact .inl (Prod.mk.inj h).2.symm
      · rename_i hback
        rw [increaseTokenQuota_ok (storageCall_eq_ok.mp hback).2] at h
        exact .inr ⟨by simpa using hpay.2, _, (Prod.mk.inj h).2.symm⟩
    · exact .inl (Prod.mk.inj h).2.symm
  · cases h

/-- **A session that could be opened holds what it charged.** -/
theorem held_opened
    (hledger : info.officialLedger = false) (htoken : s.tokens[info.tokenId]?.isSome)
    (hinit : f.Initial quota s)
    (h : preConsume cfg faults due now quota { info := info, funding := f } s =
      (.ok b, s')) :
    Held (.opened b s s') ∧ b.refunded = false := by
  obtain ⟨effective, f', s1, hquota, htok, hfund, rfl⟩ := preConsume_ok h
  have htmove : 0 ≤ effective → TokenMove info effective s s1 := by
    intro hnonneg
    split at htok
    · exact preConsumeTokenQuota_move hledger htoken htok
    · rw [← Except.ok.inj htok]
      exact .none (.inr (by omega)) htoken
  have hinit1 : f.Initial quota s1 := by
    by_cases hnonneg : 0 ≤ effective
    · have hmove := htmove hnonneg
      unfold Funding.Initial at ⊢
      rw [hmove.subscriptions, hmove.records]
      exact hinit
    · rw [if_neg (by omega)] at htok
      rw [← Except.ok.inj htok]
      exact hinit
  obtain ⟨hnonneg, hused, htokens, hcov, hreturns, hrec⟩ :=
    Funding.preConsume_move hinit1 hquota hfund
  have hmove := htmove hnonneg
  refine ⟨?_, rfl⟩
  exact {
    unsettled := rfl
    fundingUnsettled := rfl
    ledger := hledger
    nonneg := hnonneg
    charged := by
      have hsame := hmove.funding f'
      show f'.used s' - f'.used s = effective
      omega
    tokenConsumed := by
      show (if effective > 0 then effective else 0) = effective
      split <;> omega
    tokenCharged := by
      have hshare := hmove.used
      have hsame : tokenUsed info.tokenId s' = tokenUsed info.tokenId s1 := by
        simp only [tokenUsed, htokens]
      show tokenUsed info.tokenId s' - tokenUsed info.tokenId s = info.tokenShare effective
      omega
    token := by
      show s'.tokens[info.tokenId]?.isSome
      rw [htokens]
      exact hmove.exists_
    covered := hcov
    subscriptionId := by
      cases f' <;> rfl
    counts := by
      cases f' with
      | wallet => exact fun _ => hreturns
      | qiniuWallet => exact hreturns
      | subscription => exact ⟨(add_zero _).trans hreturns, le_rfl, hrec⟩ }

/-- The request of `info` can be charged in `s`: its token exists and no advance charge
of it is on record. -/
structure Chargeable (info : RelayInfo) (s : Store) : Prop where
  ledger : info.officialLedger = false
  token : s.tokens[info.tokenId]?.isSome
  rows : ∀ row ∈ s.subscriptions, 0 ≤ row.amountUsed
  fresh : lookup (fun r : SubscriptionPreConsumeRecord => r.requestId == info.requestId)
    s.subscriptionPreConsumes = none

/-- The source is one that the request may be charged to. -/
def Funding.For (f : Funding) (info : RelayInfo) : Prop :=
  match f with
  | .wallet u _ => u = info.userId ∧ info.qiniuMarket = false
  | .qiniuWallet u _ => u = info.userId ∧ info.qiniuMarket = true
  | .subscription sub => sub.userId = info.userId ∧ info.qiniuMarket = false

/-- Holds of opening a session if it holds of a refused look at the user's quota, of every charge in
advance, and of one attempt after another. -/
theorem newBillingSession_induction {P : Store → Except APIError BillingSession × Store → Prop}
    (refused : ∀ s e, P s (.error e, s)) (opened : ∀ s faults due now quota' info' f,
      (info' = info ∨ ∃ q, info' = { info with userQuota := q }) → f.For info →
      (0 ≤ quota → Chargeable info s → f.Initial quota' s) →
      P s (preConsume cfg faults due now quota' { info := info', funding := f } s))
    (again : ∀ s s1 e out, P s (.error e, s1) → P s1 out → P s out) (s : Store) :
    P s (newBillingSession cfg wallet subscription due now info quota s) := by
  have hbuild : ∀ f : Funding, f.For info → (∀ s, 0 ≤ quota → f.Initial quota s) → ∀ s,
      P s (buildWalletSession cfg wallet info quota f s) := by
    intro f hfor hinit s
    unfold buildWalletSession
    split
    · exact refused s _
    dsimp only
    split
    · exact refused s _
    split
    · exact refused s _
    · exact opened s _ _ _ _ _ f (.inr ⟨_, rfl⟩) hfor fun hquota _ => hinit s hquota
  have horElse : ∀ s first second, P s first →
      (∀ s, P s (second s)) → P s (orElseInsufficient first second) := by
    rintro s ⟨e | b, s1⟩ second hfirst hsecond
    · simp only [orElseInsufficient]
      split
      · exact again s s1 e _ hfirst (hsecond s1)
      · exact hfirst
    · exact hfirst
  unfold newBillingSession
  split
  · rename_i hmarket
    exact hbuild (.qiniuWallet info.userId 0) ⟨rfl, hmarket⟩ (fun _ hquota => ⟨rfl, hquota⟩) s
  rename_i hmarket
  have hmarket : info.qiniuMarket = false := by simpa using hmarket
  have hwallet := hbuild (.wallet info.userId 0) ⟨rfl, hmarket⟩ fun _ hquota => ⟨rfl, hquota⟩
  have hsub : ∀ s, P s (trySubscription cfg subscription due now info quota s) := fun s =>
    opened s _ _ _ _ _ _ (.inl rfl) ⟨rfl, hmarket⟩ fun _ h => ⟨rfl, h.rows, h.fresh⟩
  split
  · exact hsub s
  · exact hwallet s
  · exact horElse s _ _ (hwallet s) hsub
  split
  · exact refused s _
  · split
    · exact hwallet s
    · exact horElse s _ _ (hsub s) hwallet

/-- The session was opened on a fresh source of the request. -/
def Opens (cfg : Config) (info : RelayInfo) (b : BillingSession) (s s' : Store) : Prop :=
  ∃ faults due now quota f, info.officialLedger = false ∧ s.tokens[info.tokenId]?.isSome ∧
    Funding.For f info ∧ Funding.Initial f quota s ∧
    BillingSession.preConsume cfg faults due now quota { info := info, funding := f } s =
      (.ok b, s')

/-! ## The books at the end -/

/-- What holds of the charges of a session at any time. -/
structure SettlesToActual (cfg : Config) (r : SessionRun) : Prop where
  /-- Once some call of `Settle` has returned success, a settlement has taken effect. -/
  success : r.succeeded = true → r.committed.isSome
  /-- From the settlement on that took effect, the source is charged its quota, whatever
  is called after it. -/
  funding : ∀ actual err, r.committed = some (actual, err) → r.charged = actual
  /-- So is the token, if that settlement returned success. -/
  token : ∀ actual, r.committed = some (actual, none) →
    r.tokenCharged = r.billing.session.info.tokenShare actual
  /-- Otherwise only the token was refused, and it bears what was charged in advance. -/
  tokenRefused : ∀ actual err, r.committed = some (actual, some err) →
    r.tokenCharged = r.billing.session.info.tokenShare r.billing.session.preConsumedQuota
  /-- After it, `Settle` returns success and does nothing. -/
  again : r.committed.isSome → ∀ faults actual, r.billing.settle cfg faults actual = (r.billing, none)
  /-- A refund whose background part succeeded leaves nothing charged. -/
  refunded : r.refundDone = true → r.committed = none ∧ r.charged = 0 ∧ r.tokenCharged = 0
  /-- A refund of an open session that does nothing had nothing to return. -/
  nothing : r.committed = none → r.billing.session.refunded = false →
    r.billing.session.needsRefund = false → r.charged = 0 ∧ r.tokenCharged = 0

theorem SessionInv.settlesToActual {r : SessionRun} (h : SessionInv r) : SettlesToActual cfg r := by
  cases h with
  | opened held notRefunded _ uncommitted unsucceeded undone =>
    refine ⟨by simp [unsucceeded], by simp [uncommitted], by simp [uncommitted],
      by simp [uncommitted], by simp [uncommitted], by simp [undone], fun _ _ hneeds => ?_⟩
    have hzero : r.billing.session.preConsumedQuota = 0 := by
      have hnonneg := held.nonneg
      have hconsumed := held.tokenConsumed
      have hle : ¬ 0 < r.billing.session.tokenConsumed := by
        intro hpos
        simp [needsRefund, held.unsettled, notRefunded, held.fundingUnsettled,
          hpos] at hneeds
      omega
    refine ⟨held.charged.trans hzero, held.tokenCharged.trans ?_⟩
    rw [hzero]
    exact ite_self _
  | settled _ _ settled _ committed charged tokenCharged undone =>
    refine ⟨by simp [committed], ?_, ?_, ?_, fun _ => Billing.settle_of_settled settled,
      by simp [undone], by simp [committed]⟩
    · intro a e heq
      rw [committed, Option.some.injEq, Prod.mk.injEq] at heq
      rw [charged, heq.1]
    · intro a heq
      rw [committed, Option.some.injEq] at heq
      obtain ⟨rfl, rfl⟩ := heq
      exact tokenCharged
    intro a e heq
    rw [committed, Option.some.injEq] at heq
    obtain ⟨rfl, rfl⟩ := heq
    exact tokenCharged
  | refunding _ _ refunded _ _ _ uncommitted unsucceeded undone =>
    exact ⟨by simp [unsucceeded], by simp [uncommitted], by simp [uncommitted],
      by simp [uncommitted], by simp [uncommitted], by simp [undone], by simp [refunded]⟩
  | refunded _ refunded _ uncommitted unsucceeded returned =>
    exact ⟨by simp [unsucceeded], by simp [uncommitted], by simp [uncommitted],
      by simp [uncommitted], by simp [uncommitted], fun hdone => ⟨uncommitted, returned hdone⟩,
      by simp [refunded]⟩

/-- **A session settles to the actual quota or returns everything**, whatever storage calls are
refused and however often it is settled. -/
theorem session_settles_to_actual {info : RelayInfo} {b : BillingSession} {s s' : Store}
    (hopen : Opens cfg info b s s') {ops : List SessionOp}
    (hops : Along (SessionOp.exec cfg) SessionOp.Regular ops (.opened b s s')) :
    SettlesToActual cfg (run (SessionOp.exec cfg) ops (.opened b s s')) := by
  obtain ⟨faults, due, now, quota, f, hledger, htoken, -, hinit, hx⟩ := hopen
  obtain ⟨hheld, hfresh⟩ := held_opened hledger htoken hinit hx
  have hinv : SessionInv (.opened b s s') := .opened hheld hfresh rfl rfl rfl rfl
  exact (run_induction sessionInv_step hinv hops).settlesToActual

/-! A request of user 1, charged 100 in advance to a wallet with plenty on it. -/

def smallRequest : RelayInfo := { userId := 1, tokenId := 0, requestId := "r1" }

def smallStore : Store :=
  { users := Function.update (fun _ => {}) 1 { quota := 1000 }
    wallets := Function.update (fun _ => {}) 1 { balanceAmount := 1 }
    tokens := [{ userId := 1, enabled := true, qiniuManaged := false, remainQuota := 1000 }] }

def smallRun (ops : List SessionOp) : Option SessionRun :=
  match BillingSession.preConsume .shipped {} (fun _ => false) 0 100
      { info := smallRequest, funding := .wallet 1 0 } smallStore with
  | (.ok b, s') => some (run (SessionOp.exec .shipped) ops (.opened b smallStore s'))
  | _ => none

/-- Twenty more are reserved; the first settlement is refused, the second is not. -/
def retriedSettlement : List SessionOp :=
  [.reserve {} 120, .settle { funding := true } 150, .settle {} 150]

theorem session_settles_to_actual_retried :
    (smallRun retriedSettlement).map (fun r => (r.charged, r.tokenCharged)) = some (150, 150) := by
  have hend : (smallRun retriedSettlement).map
      (fun r => (r.committed, r.billing.session.info.isPlayground)) =
        some (some (150, none), false) := by decide +kernel
  unfold smallRun at hend ⊢
  split at hend
  · rename_i b s' hx
    have hinit : Funding.Initial (.wallet 1 0) 100 smallStore := ⟨rfl, by decide⟩
    have hfresh := (held_opened rfl rfl hinit hx).2
    have hops : Along (SessionOp.exec .shipped) SessionOp.Regular retriedSettlement
        (.opened b smallStore s') := by
      simp [retriedSettlement, Along, next, SessionOp.exec, SessionOp.Regular, SessionRun.move,
        SessionRun.opened, Billing.reserve_refunded, Billing.settle_frame, hfresh]
    have hfor : Funding.For (.wallet 1 0) smallRequest := ⟨rfl, rfl⟩
    have hbooks := session_settles_to_actual ⟨{}, _, 0, 100, _, rfl, rfl, hfor, hinit, hx⟩ hops
    rw [Option.map_some, Option.some.injEq, Prod.mk.injEq] at hend
    obtain ⟨hcommitted, hplay⟩ := hend
    rw [Option.map_some, hbooks.funding _ _ hcommitted, hbooks.token _ hcommitted,
      RelayInfo.tokenShare, hplay]
    rfl
  · cases hend

/-- The token refuses the adjustment; the retry returns success, with 50 units still missing. -/
theorem settle_retry_skips_token :
    (smallRun [.settle { token := true } 150, .settle {} 150]).map
      (fun r => (r.succeeded, r.charged, r.tokenCharged)) = some (true, 150, 100) := by
  decide +kernel

end ApiGateway
