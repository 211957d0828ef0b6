import ApiGateway.Service.BillingHandlers
import ApiGateway.Proof.TaskRefund

/-!
# What the steps of the billing system leave alone

The wallet, the subscriptions and the tokens are written by many functions, none of which touches
the tables of the realtime bookkeeping: `Quiet`. The second half says what the measured steps are
measured at: a session charges what it holds, a settlement the difference or nothing, a refund
what it gives back.
-/

namespace ApiGateway

open Table Decimal Interleave Except BillingSession Billing

variable {cfg : Config} {s s' s'' : Store}
variable {id u : Nat} {amount delta now q quota : Int} {due : Nat → Bool} {info : RelayInfo}
  {refused : Bool} {faults : PreConsumeFaults} {input : QiniuRealtimeWalletFlowInput}
variable {bizNo remark requestId : String} {f f' : Funding} {t : Task}
  {a : QiniuRealtimeWalletApplication} {b : BillingSession} {r : Except APIError BillingSession}

/-! ## Frames -/

def realtimeFlows (k : RealtimeKey) (s : Store) : List WalletFlow :=
  s.walletFlows.filter fun f => f.idempotencyKey == some (.qiniuRealtime k)

/-- The tables of the realtime bookkeeping and of the tasks stay as they are. -/
structure Aside (s s' : Store) : Prop where
  applications : s'.realtimeApplications = s.realtimeApplications
  events : s'.realtimeEvents = s.realtimeEvents
  tasks : s'.tasks = s.tasks
  taskEvents : s'.taskEvents = s.taskEvents
  flows : ∀ k, realtimeFlows k s' = realtimeFlows k s

/-- And so do the statistics of the users. -/
structure Quiet (s s' : Store) : Prop extends Aside s s' where
  usage : ∀ u, (s'.users u).usedQuota = (s.users u).usedQuota ∧
    (s'.users u).requestCount = (s.users u).requestCount

theorem Aside.refl (s : Store) : Aside s s := ⟨rfl, rfl, rfl, rfl, fun _ => rfl⟩

theorem Quiet.refl (s : Store) : Quiet s s := ⟨Aside.refl s, fun _ => ⟨rfl, rfl⟩⟩

theorem Aside.trans (h : Aside s s') (h' : Aside s' s'') : Aside s s'' where
  applications := h'.applications.trans h.applications
  events := h'.events.trans h.events
  tasks := h'.tasks.trans h.tasks
  taskEvents := h'.taskEvents.trans h.taskEvents
  flows := fun k => (h'.flows k).trans (h.flows k)

theorem Quiet.trans (h : Quiet s s') (h' : Quiet s' s'') : Quiet s s'' where
  toAside := h.toAside.trans h'.toAside
  usage := fun u => ⟨(h'.usage u).1.trans (h.usage u).1, (h'.usage u).2.trans (h.usage u).2⟩

variable {key : Option FlowKey}

theorem quiet_addQuota :
    Quiet s (s.addQuota u q key) where
  toAside := ⟨rfl, rfl, rfl, rfl, fun _ => rfl⟩
  usage := by
    intro v
    by_cases h : v = u
    · subst h
      simp
    · simp [Function.update_of_ne h]

theorem quiet_chargeToken : Quiet s (s.chargeToken id q) :=
  ⟨⟨rfl, rfl, rfl, rfl, fun _ => rfl⟩, fun _ => ⟨rfl, rfl⟩⟩

theorem quiet_writesFlow (hkey : ∀ k, key ≠ some (.qiniuRealtime k)) (h : WritesFlow key s s') :
    Quiet s s' := by
  obtain ⟨flow, rfl, rfl⟩ := h
  refine ⟨⟨rfl, rfl, rfl, rfl, fun k => ?_⟩, fun _ => ⟨rfl, rfl⟩⟩
  simp only [realtimeFlows, createWalletFlowTx_walletFlows]
  split
  · rfl
  · simp [hkey k]

/-! ## Wallet functions -/

theorem WalletWrites.quiet (h : WalletWrites u none s s') : Quiet s s' := by
  induction h with
  | refl => exact Quiet.refl _
  | account _ _ _ ih => exact ih.trans ⟨⟨rfl, rfl, rfl, rfl, fun _ => rfl⟩, fun _ => ⟨rfl, rfl⟩⟩
  | quota _ q ih => exact ih.trans quiet_addQuota
  | flow _ hk hw ih =>
    refine ih.trans (quiet_writesFlow ?_ hw)
    rcases hk with rfl | rfl | rfl <;> simp

/-! ## Subscriptions and tokens -/

theorem postConsumeUserSubscriptionDelta_quiet {id : Option Nat}
    (h : postConsumeUserSubscriptionDelta id delta s = .ok s') : Quiet s s' := by
  unfold postConsumeUserSubscriptionDelta at h
  simp only [bind_eq_ok, orFail_eq_ok] at h
  obtain ⟨i, rfl, h⟩ := h
  split at h
  · rw [pure_eq_ok] at h
    exact h ▸ Quiet.refl s
  · simp only [bind_eq_ok, pure_eq_ok] at h
    obtain ⟨-, -, -, -, rfl⟩ := h
    exact ⟨⟨rfl, rfl, rfl, rfl, fun _ => rfl⟩, fun _ => ⟨rfl, rfl⟩⟩

theorem chargeFirstSubscription_quiet
    {reset : SubscriptionReset} {candidates : List (UserSubscription × Nat)}
    (h : chargeFirstSubscription requestId u amount reset candidates s = .ok (id, s')) :
    Quiet s s' := by
  induction candidates generalizing s with
  | nil => exact nomatch h
  | cons c _ ih =>
    rw [chargeFirstSubscription, bind_eq_ok] at h
    obtain ⟨sub, -, h⟩ := h
    split at h
    · have hrest := ih h
      exact ⟨⟨hrest.applications, hrest.events, hrest.tasks, hrest.taskEvents, hrest.flows⟩,
        hrest.usage⟩
    · obtain ⟨-, rfl⟩ := ok_pair_inj h
      exact ⟨⟨rfl, rfl, rfl, rfl, fun _ => rfl⟩, fun _ => ⟨rfl, rfl⟩⟩

theorem preConsumeUserSubscription_quiet {preConsumed : Int}
    (h : preConsumeUserSubscription requestId u amount due now s = .ok (id, preConsumed, s')) :
    Quiet s s' := by
  unfold preConsumeUserSubscription preConsumeWithReset at h
  simp only [bind_eq_ok] at h
  obtain ⟨-, -, -, -, -, -, h⟩ := h
  split at h
  · simp only [bind_eq_ok] at h
    obtain ⟨-, -, -, -, rfl⟩ := h
    exact Quiet.refl _
  · simp only [bind_eq_ok, Prod.exists] at h
    obtain ⟨-, -, id', s1, hcharge, -, -, rfl⟩ := h
    exact chargeFirstSubscription_quiet hcharge

theorem preConsumeTokenQuota_quiet (h : preConsumeTokenQuota info refused q s = .ok s') :
    Quiet s s' := by
  rcases preConsumeTokenQuota_ok h with ⟨-, rfl⟩ | ⟨-, rfl⟩
  · exact Quiet.refl _
  · exact quiet_chargeToken

/-! ## Sessions -/

theorem Funding.preConsume_quiet (h : f.preConsume cfg refused due now amount s = .ok (f', s')) :
    Quiet s s' := by
  cases f with
  | wallet | qiniuWallet =>
    simp only [preConsume] at h
    split at h
    · exact (ok_pair_inj h).2 ▸ Quiet.refl s
    · simp only [bind_eq_ok, storageCall_eq_ok] at h
      obtain ⟨s1, ⟨-, hs1⟩, -, rfl⟩ := h
      first
      | exact (debitBalanceByQuotaTx_writes hs1).quiet
      | exact (debitBalanceByQuotaSilentlyTx_writes hs1).quiet
  | subscription =>
    simp only [preConsume, bind_eq_ok, storageCall_eq_ok, Prod.exists] at h
    obtain ⟨id, pre, s1, ⟨-, hs1⟩, -, rfl⟩ := h
    exact preConsumeUserSubscription_quiet hs1

theorem BillingSession.preConsume_quiet (b : BillingSession) (s : Store) :
    Quiet s (b.preConsume cfg faults due now quota s).2 := by
  rcases hx : b.preConsume cfg faults due now quota s with ⟨e | b', s'⟩
  · obtain ⟨s1, htok, hback⟩ := preConsume_error hx
    have h1 : Quiet s s1 := by
      rcases htok with rfl | ⟨q, htok⟩
      · exact Quiet.refl _
      · exact preConsumeTokenQuota_quiet htok
    rcases hback with rfl | ⟨-, q, rfl⟩
    · exact h1
    · exact h1.trans quiet_chargeToken
  · obtain ⟨effective, f', s1, -, htok, hfund, -⟩ := preConsume_ok hx
    refine Quiet.trans ?_ (Funding.preConsume_quiet hfund)
    split at htok
    · exact preConsumeTokenQuota_quiet htok
    · exact ok.inj htok ▸ Quiet.refl s

theorem newBillingSession_quiet (cfg : Config) (wallet subscription : PreConsumeFaults)
    (due : Nat → Bool) (now : Int) (info : RelayInfo) (quota : Int) (s : Store) :
    Quiet s (newBillingSession cfg wallet subscription due now info quota s).2 :=
  newBillingSession_induction (P := fun s out => Quiet s out.2) (fun s _ => Quiet.refl s)
    (fun s _ _ _ _ _ _ _ _ _ => preConsume_quiet _ s)
    (fun _ _ _ _ hfirst hsecond => hfirst.trans hsecond) s

theorem Funding.settle_quiet (h : f.settle cfg refused delta s = (f', .ok s')) : Quiet s s' := by
  rcases settle_ok h with ⟨-, rfl⟩ | ⟨-, h⟩
  · exact Quiet.refl _
  cases f with
  | wallet =>
    simp only [settleCall] at h
    split at h
    · exact (debitBalanceByQuotaTx_writes h).quiet
    · exact (creditBalanceByQuotaTx_writes h).quiet
  | qiniuWallet =>
    simp only [settleCall] at h
    split at h
    · exact (debitBalanceByQuotaSilentlyAllowDebtTx_writes h).quiet
    · exact (creditBalanceByQuotaSilentlyTx_writes h).quiet
  | subscription => exact postConsumeUserSubscriptionDelta_quiet h

theorem Billing.settle_quiet (cfg : Config) (faults : SettleFaults) (actual : Int) (b : Billing) :
    Quiet b.store (b.settle cfg faults actual).1.store := by
  unfold settle
  dsimp only
  split
  · exact Quiet.refl _
  split
  · exact Quiet.refl _
  split
  · exact Quiet.refl _
  rename_i s1 hfund
  have h1 : Quiet b.store s1 := by
    split at hfund
    · simp only [Prod.mk.injEq, ok.injEq] at hfund
      exact hfund.2 ▸ Quiet.refl _
    · exact Funding.settle_quiet hfund
  split
  · exact h1
  · rename_i htok
    rcases settleToken_ok htok with ⟨-, rfl⟩ | ⟨-, rfl⟩
    · exact h1
    · exact h1.trans quiet_chargeToken

/-! ## Tasks -/

theorem Task.adjustFunding_quiet (h : t.adjustFunding cfg delta s = .ok s') : Quiet s s' := by
  unfold adjustFunding at h
  split at h
  · exact ok.inj h ▸ Quiet.refl s
  split at h
  · split at h
    · exact (debitBalanceByQuotaSilentlyAllowDebtTx_writes h).quiet
    · exact (creditBalanceByQuotaSilentlyTx_writes h).quiet
  split at h
  · exact postConsumeUserSubscriptionDelta_quiet h
  dsimp only at h
  split at h
  · exact (debitBalanceByQuotaTx_writes h).quiet
  · exact (creditBalanceByQuotaTx_writes h).quiet

theorem Task.adjustTokenQuota_quiet (t : Task) (refused : Bool) (delta : Int) (s : Store) :
    Quiet s (t.adjustTokenQuota refused delta s) := by
  rcases t.adjustTokenQuota_cases refused delta s with heq | ⟨id, q, heq⟩
  · rw [heq]
    exact Quiet.refl s
  · rw [heq]
    exact quiet_chargeToken

theorem Task.refundTaskQuota_quiet (cfg : Config) (faults : RefundFaults) (t : Task) (s : Store) :
    Quiet s (t.refundTaskQuota cfg faults s).2 := by
  unfold refundTaskQuota
  split
  · exact Quiet.refl s
  split
  · exact Quiet.refl s
  · rename_i h
    exact (adjustFunding_quiet (storageCall_eq_ok.mp h).2).trans (adjustTokenQuota_quiet t _ _ _)

theorem aside_addUsage (u channelId : Nat) (quota : Int) : Aside s (s.addUsage u channelId quota) :=
  ⟨rfl, rfl, rfl, rfl, fun _ => rfl⟩

theorem Task.settleTaskBillingOnComplete_aside (faults : RefundFaults) (actual : Option Int)
    (t : Task) (s : Store) : Aside s (t.settleTaskBillingOnComplete cfg faults actual s) := by
  unfold settleTaskBillingOnComplete
  cases actual with
  | none => exact Aside.refl s
  | some q =>
    dsimp only [recalculateTaskQuota]
    split
    · exact Aside.refl s
    split
    · exact Aside.refl s
    rename_i s1 h
    have hq := (adjustFunding_quiet (storageCall_eq_ok.mp h).2).trans
      (adjustTokenQuota_quiet t faults.token (q - t.quota) s1)
    split
    · exact hq.toAside.trans (aside_addUsage _ _ _)
    · exact hq.toAside

/-! ## The logs -/

/-- The logs of what steps were seen to do are no business of the steps. -/
structure SameLogs (s s' : Store) : Prop where
  events : s'.realtimeEvents = s.realtimeEvents
  taskEvents : s'.taskEvents = s.taskEvents

theorem Aside.sameLogs (h : Aside s s') : SameLogs s s' := ⟨h.events, h.taskEvents⟩

variable {k : RealtimeKey}

theorem writeWalletFlow_frame {a a' : QiniuRealtimeWalletApplication}
    (h : writeWalletFlow input k a s = .ok (s', a')) :
    s'.realtimeApplications = s.realtimeApplications ∧ SameLogs s s' := by
  unfold writeWalletFlow at h
  simp only [bind_eq_ok] at h
  obtain ⟨-, -, -, -, rfl, -⟩ := h
  exact ⟨rfl, rfl, rfl⟩

theorem validate_ok {tokenId : Nat}
    (h : validateQiniuRealtimeWalletFlowInput input = .ok (tokenId, k)) :
    input.tokenId = some tokenId ∧ 0 < input.quota ∧
      qiniuRealtimeWalletIdempotencyKey input = some k := by
  unfold validateQiniuRealtimeWalletFlowInput at h
  simp only [bind_eq_ok, failIf_eq_ok, orFail_eq_ok, not_le] at h
  obtain ⟨-, -, t, ht, -, hq, k', hk', rfl, rfl⟩ := h
  exact ⟨ht, hq, hk'⟩

theorem lockApplicationByKeyTx_some (h : lockApplicationByKeyTx k s = some (id, a)) :
    s.realtimeApplications[id]? = some a ∧ a.idempotencyKey = k := by
  obtain ⟨hget, hk⟩ := lookup_some h
  exact ⟨hget, beq_iff_eq.mp hk⟩

theorem applyQiniuRealtimeWalletFlow_frame {r : Nat × QiniuRealtimeWalletApplication}
    (h : applyQiniuRealtimeWalletFlow cfg input s = .ok (s', r)) :
    SameLogs s s' ∧ s'.realtimeApplications[r.1]? = some r.2 := by
  unfold applyQiniuRealtimeWalletFlow at h
  simp only [bind_eq_ok, Prod.exists] at h
  obtain ⟨tokenId, k, -, h⟩ := h
  split at h
  · rename_i hlock
    obtain ⟨he, -⟩ := lockApplicationByKeyTx_some hlock
    split at h
    · obtain ⟨rfl, rfl⟩ := ok_pair_inj h
      exact ⟨⟨rfl, rfl⟩, he⟩
    · simp only [bind_eq_ok, Prod.exists] at h
      obtain ⟨s1, a, hwrite, rfl, rfl⟩ := h
      obtain ⟨happs, hlogs⟩ := writeWalletFlow_frame hwrite
      exact ⟨⟨hlogs.events, hlogs.taskEvents⟩, getElem?_modify_self (happs ▸ he)⟩
  · simp only [bind_eq_ok, Prod.exists] at h
    obtain ⟨s1, a, hwrite, rfl, rfl⟩ := h
    obtain ⟨-, hlogs⟩ := writeWalletFlow_frame hwrite
    exact ⟨⟨hlogs.events, hlogs.taskEvents⟩, by simp⟩

theorem reserveQiniuRealtimeWalletApplication_frame
    {r : Nat × QiniuRealtimeWalletApplication × Bool}
    (h : reserveQiniuRealtimeWalletApplication cfg input s = .ok (s', r)) :
    SameLogs s s' ∧ s'.realtimeApplications[r.1]? = some r.2.1 ∧
      qiniuRealtimeWalletIdempotencyKey input = some r.2.1.idempotencyKey ∧
      (input.settlementApplied = true → r.2.1.settlementApplied = true) := by
  unfold reserveQiniuRealtimeWalletApplication at h
  simp only [bind_eq_ok, Prod.exists] at h
  obtain ⟨tokenId, k, hval, h⟩ := h
  obtain ⟨-, -, hkey⟩ := validate_ok hval
  split at h
  · rename_i hlock
    obtain ⟨he, hek⟩ := lockApplicationByKeyTx_some hlock
    split at h
    · rename_i hdone
      obtain ⟨rfl, rfl⟩ := ok_pair_inj h
      simp only [QiniuRealtimeWalletApplication.isComplete, Bool.and_eq_true] at hdone
      exact ⟨⟨rfl, rfl⟩, he, hek ▸ hkey, fun _ => hdone.1.1.2⟩
    · obtain ⟨rfl, rfl⟩ := ok_pair_inj h
      exact ⟨⟨rfl, rfl⟩, getElem?_modify_self he, hkey, fun hs => hs⟩
  · obtain ⟨rfl, rfl⟩ := ok_pair_inj h
    exact ⟨⟨rfl, rfl⟩, by simp, hkey, fun hs => hs⟩

/-- The statistics, raised by the usage of a request that was not counted yet. -/
def restoredUsage (a : QiniuRealtimeWalletApplication) (params : Option RecordConsumeLogParams)
    (s : Store) : Store :=
  match params with
  | some p => if 0 < a.quota then s.addUsage a.userId p.channelId a.quota else s
  | none => s

variable {params : Option RecordConsumeLogParams}

theorem restoreQiniuRealtimeUsageStats_ok
    (h : restoreQiniuRealtimeUsageStats cfg id params s = .ok s') :
    ∃ a, s.realtimeApplications[id]? = some a ∧
      ((a.usageApplied = true ∨ a.usageStatsApplied = true) ∧ s' = s ∨
       a.usageStatsApplied = true ∧ a.usageLogApplied = true ∧
        s' = s.setApplication id { a with usageApplied := true, lastError := "" } ∨
       a.usageStatsApplied = false ∧ ∃ log, s' = (restoredUsage a params s).setApplication id
        { a with
          usageStatsApplied := true, usageLogApplied := log, usageApplied := log, lastError := "" }) := by
  unfold restoreQiniuRealtimeUsageStats loadQiniuRealtimeWalletApplication at h
  simp only [bind_eq_ok, orFail_eq_ok] at h
  obtain ⟨a, ha, h⟩ := h
  refine ⟨a, ha, ?_⟩
  split at h
  · rename_i hused
    exact .inl ⟨.inl hused, (pure_eq_ok.mp h).symm⟩
  split at h
  · rename_i hstats
    split at h
    · rename_i hlog
      exact .inr (.inl ⟨hstats, hlog, (pure_eq_ok.mp h).symm⟩)
    · exact .inl ⟨.inr hstats, (pure_eq_ok.mp h).symm⟩
  · rename_i hstats
    exact .inr (.inr ⟨by simpa using hstats, _, (pure_eq_ok.mp h).symm⟩)

theorem restoreQiniuRealtimeUsageStats_sameLogs
    (h : restoreQiniuRealtimeUsageStats cfg id params s = .ok s') : SameLogs s s' := by
  have hrestored : ∀ a, SameLogs s (restoredUsage a params s) := by
    intro a
    unfold restoredUsage
    repeat' split
    all_goals exact ⟨rfl, rfl⟩
  obtain ⟨a, -, ⟨-, rfl⟩ | ⟨-, -, rfl⟩ | ⟨-, -, rfl⟩⟩ := restoreQiniuRealtimeUsageStats_ok h
  · exact ⟨rfl, rfl⟩
  · exact ⟨rfl, rfl⟩
  · exact ⟨(hrestored a).events, (hrestored a).taskEvents⟩

theorem markQiniuRealtimeUsageLogApplied_ok {logId : Option Nat}
    (h : markQiniuRealtimeUsageLogApplied id logId s = .ok s') :
    ∃ a, s.realtimeApplications[id]? = some a ∧ (s' = s ∨ a.usageStatsApplied = true ∧
      ∃ ids, (a.consumeLogIds ≠ [] → ids = a.consumeLogIds) ∧ s' = s.setApplication id { a with
        usageLogApplied := true, usageApplied := true, lastError := "", consumeLogIds := ids }) := by
  unfold markQiniuRealtimeUsageLogApplied loadQiniuRealtimeWalletApplication at h
  simp only [bind_eq_ok, orFail_eq_ok] at h
  obtain ⟨a, ha, h⟩ := h
  refine ⟨a, ha, ?_⟩
  split at h
  · exact .inl (pure_eq_ok.mp h).symm
  simp only [bind_eq_ok, failIf_eq_ok, not_not] at h
  obtain ⟨-, hstats, h⟩ := h
  refine .inr ⟨hstats, ?_⟩
  split at h
  · rename_i hlog
    refine ⟨a.consumeLogIds, fun _ => rfl, ?_⟩
    rw [← pure_eq_ok.mp h, ← hlog]
  · exact ⟨_, fun hne => if_neg (by simpa using hne), (pure_eq_ok.mp h).symm⟩

theorem applySilentDelta_ok (h : applySilentDelta cfg u delta s = .ok s') :
    delta = 0 ∧ s' = s ∨ delta ≠ 0 ∧ Quiet s s' ∧ WalletCharge u delta s s' := by
  unfold applySilentDelta at h
  split at h
  · rename_i hpos
    exact .inr ⟨by omega, (debitBalanceByQuotaSilentlyAllowDebtTx_writes h).quiet,
      debitBalanceByQuotaSilentlyAllowDebtTx_charge hpos h⟩
  split at h
  · have hcharge := creditBalanceByQuotaSilentlyTx_charge (by omega) h
    rw [neg_neg] at hcharge
    exact .inr ⟨by omega, (creditBalanceByQuotaSilentlyTx_writes h).quiet, hcharge⟩
  · exact .inl ⟨by omega, (ok.inj h).symm⟩

def QiniuRealtimeWalletApplication.settledAt (a : QiniuRealtimeWalletApplication) (balance : ℚ) :
    QiniuRealtimeWalletApplication :=
  { a with
    settlementApplied := true
    balanceAfter := balance
    lastError := ""
    retryCount := a.retryCount + 1 }

variable {tokenRefused : Bool}

theorem retryQiniuRealtimeWalletSettlement_ok
    (h : retryQiniuRealtimeWalletSettlement cfg id tokenRefused s = .ok s') :
    ∃ a, s.realtimeApplications[id]? = some a ∧
      (s' = s ∧ a.settlementApplied = true ∨
       a.settlementApplied = false ∧ ∃ s1 balance, Quiet s s1 ∧
        let settled := s1.setApplication id (a.settledAt balance)
        (a.quota - a.preConsumedQuota = 0 ∧ s1 = s ∧ s' = settled ∨
         a.quota - a.preConsumedQuota ≠ 0 ∧
          WalletCharge a.userId (a.quota - a.preConsumedQuota) s s1 ∧
          (s' = settled ∨ s' = settled.chargeToken a.tokenId (a.quota - a.preConsumedQuota)))) := by
  unfold retryQiniuRealtimeWalletSettlement loadQiniuRealtimeWalletApplication at h
  simp only [bind_eq_ok, orFail_eq_ok] at h
  obtain ⟨a, ha, h⟩ := h
  refine ⟨a, ha, ?_⟩
  split at h
  · rename_i hflag
    rw [pure_eq_ok] at h
    exact .inl ⟨h.symm, hflag⟩
  rename_i hflag
  simp only [bind_eq_ok, pure_eq_ok] at h
  obtain ⟨s1, hs1, account, -, h⟩ := h
  refine .inr ⟨by simpa using hflag, s1, account.balanceAmount, ?_⟩
  rcases applySilentDelta_ok hs1 with ⟨hdelta, rfl⟩ | ⟨hdelta, hquiet, hcharge⟩
  · rw [if_pos (.inl hdelta)] at h
    exact ⟨Quiet.refl _, .inl ⟨hdelta, rfl, h.symm⟩⟩
  refine ⟨hquiet, .inr ⟨hdelta, hcharge, ?_⟩⟩
  split at h
  · exact .inl h.symm
  · exact .inr h.symm

theorem retryQiniuRealtimeWalletSettlement_sameLogs
    (h : retryQiniuRealtimeWalletSettlement cfg id tokenRefused s = .ok s') : SameLogs s s' := by
  obtain ⟨a, -, ⟨rfl, -⟩ | ⟨-, s1, balance, hquiet, hcases⟩⟩ :=
    retryQiniuRealtimeWalletSettlement_ok h
  · exact ⟨rfl, rfl⟩
  rcases hcases with ⟨-, rfl, rfl⟩ | ⟨-, -, rfl | rfl⟩
  · exact ⟨rfl, rfl⟩
  · exact ⟨hquiet.events, hquiet.taskEvents⟩
  · exact ⟨hquiet.events, hquiet.taskEvents⟩

theorem effect_ok {x : Except Err Store} {r : Unit} (h : BillingTx.effect x = .ok (s', r)) :
    x = .ok s' := by
  cases x with
  | error => cases h
  | ok => rw [(ok_pair_inj h).1]

theorem load_ok (h : (BillingTx.loadQiniuRealtimeWalletApplication id).run cfg s = .ok (s', a)) :
    s.realtimeApplications[id]? = some a ∧ s' = s := by
  simp only [BillingTx.run, loadQiniuRealtimeWalletApplication] at h
  cases hget : s.realtimeApplications[id]? with
  | none =>
    rw [hget] at h
    cases h
  | some =>
    rw [hget] at h
    obtain ⟨rfl, rfl⟩ := ok_pair_inj h
    exact ⟨rfl, rfl⟩

theorem BillingTx.run_sameLogs (t : BillingTx) {r : t.Ret} (h : t.run cfg s = .ok (s', r)) :
    SameLogs s s' := by
  cases t with
  | newBillingSession faults info quota =>
    exact (ok_pair_inj h).1 ▸ (newBillingSession_quiet cfg faults faults _ _ info quota s).sameLogs
  | settleBilling faults session actualQuota =>
    exact (ok_pair_inj h).1 ▸ (settle_quiet cfg faults actualQuota ⟨session, s⟩).sameLogs
  | applyQiniuRealtimeUsageStatsDirect =>
    rw [← (ok_pair_inj h).1, ApiGateway.applyQiniuRealtimeUsageStatsDirect]
    split <;> exact ⟨rfl, rfl⟩
  | reserveQiniuRealtimeWalletApplication =>
    exact (reserveQiniuRealtimeWalletApplication_frame h).1
  | applyQiniuRealtimeWalletFlow => exact (applyQiniuRealtimeWalletFlow_frame h).1
  | recordQiniuRealtimeWalletFailure =>
    rw [← (ok_pair_inj h).1, ApiGateway.recordQiniuRealtimeWalletFailure]
    repeat' split
    all_goals exact ⟨rfl, rfl⟩
  | loadQiniuRealtimeWalletApplication => exact (load_ok h).2 ▸ ⟨rfl, rfl⟩
  | restoreQiniuRealtimeUsageStats =>
    exact restoreQiniuRealtimeUsageStats_sameLogs (effect_ok h)
  | markQiniuRealtimeUsageLogApplied =>
    obtain ⟨a, -, rfl | ⟨-, -, -, rfl⟩⟩ := markQiniuRealtimeUsageLogApplied_ok (effect_ok h)
    all_goals exact ⟨rfl, rfl⟩
  | retryQiniuRealtimeWalletSettlement =>
    exact retryQiniuRealtimeWalletSettlement_sameLogs (effect_ok h)
  | recordConsumeLog ctx u params =>
    have hs' : (ApiGateway.recordConsumeLog cfg ctx u params s).1 = s' :=
      congrArg Prod.fst (ok.inj h)
    rw [← hs', ApiGateway.recordConsumeLog]
    split <;> exact ⟨rfl, rfl⟩
  | updateWithStatus id t fromStatus =>
    have hs' : (t.updateWithStatus id fromStatus s).1 = s' := congrArg Prod.fst (ok.inj h)
    rw [← hs', Task.updateWithStatus]
    repeat' split
    all_goals exact ⟨rfl, rfl⟩
  | settleTaskBillingOnComplete faults _ t actualQuota =>
    exact (ok_pair_inj h).1 ▸
      (Task.settleTaskBillingOnComplete_aside faults actualQuota t s).sameLogs
  | refundTaskQuota faults _ t =>
    exact (ok_pair_inj h).1 ▸ (Task.refundTaskQuota_quiet cfg faults t s).sameLogs
  | _ => exact (ok_pair_inj h).1 ▸ ⟨rfl, rfl⟩

/-! ## Measured amounts -/

def taken (u : Nat) (s s' : Store) : Int := (s.users u).quota - (s'.users u).quota

theorem WalletCharge.taken (h : WalletCharge u q s s') : taken u s s' = q := by
  have hquota := h.quota
  unfold ApiGateway.taken
  omega

theorem preConsumeTokenQuota_users (h : preConsumeTokenQuota info refused q s = .ok s') :
    s'.users = s.users := by
  rcases preConsumeTokenQuota_ok h with ⟨-, rfl⟩ | ⟨-, rfl⟩ <;> rfl

/-- A session at the market price, as it is opened. -/
structure MarketSession (info : RelayInfo) (quota : Int) (b : BillingSession) : Prop where
  market : b.info.qiniuMarket = info.qiniuMarket
  user : b.info.userId = info.userId
  token : b.info.tokenId = info.tokenId
  request : b.info.requestId = info.requestId
  preConsumed : b.preConsumedQuota = quota
  funding : ∃ c, b.funding = .qiniuWallet info.userId c
  fundingOpen : b.fundingSettled = false

/-- What opening a session at the market price came to. -/
def Opening (info : RelayInfo) (quota : Int) (s s' : Store) : Except APIError BillingSession → Prop
  | .error _ => taken info.userId s s' = 0
  | .ok b => MarketSession info quota b ∧ taken info.userId s s' = quota

/-- **A session at the market price charges its user the quota it was asked for, or
nothing.** -/
theorem preConsume_market (hfund : b.funding = .qiniuWallet info.userId 0)
    (hinfo : ∃ q, b.info = { info with userQuota := q }) (hopen : b.fundingSettled = false)
    (hquota : 0 ≤ quota) (h : b.preConsume cfg faults due now quota s = (r, s')) :
    Opening info quota s s' r := by
  cases r with
  | error =>
    -- only the token may have moved
    obtain ⟨s1, htok, hback⟩ := preConsume_error h
    have hs1 : s1.users = s.users := by
      rcases htok with rfl | ⟨q, htok⟩
      · rfl
      · exact preConsumeTokenQuota_users htok
    have hu : s'.users = s.users := by
      rcases hback with rfl | ⟨-, q, rfl⟩
      · exact hs1
      · exact hs1
    simp [Opening, taken, hu]
  | ok =>
    obtain ⟨effective, f', s1, heff, htok, hpre, rfl⟩ := preConsume_ok h
    obtain rfl := heff.resolve_right (by simp [hfund, Funding.isWallet])
    have hs1 : s1.users = s.users := by
      split at htok
      · exact preConsumeTokenQuota_users htok
      · rw [ok.inj htok]
    obtain ⟨q, hinfo⟩ := hinfo
    have hses : ∀ c, f' = .qiniuWallet info.userId c → MarketSession info effective
        { b with
          trusted := b.shouldTrust cfg
          funding := f'
          tokenConsumed := if effective > 0 then effective else b.tokenConsumed
          preConsumedQuota := effective }.syncRelayInfo := by
      rintro c rfl
      refine ⟨?_, ?_, ?_, ?_, rfl, ⟨c, rfl⟩, hopen⟩
      all_goals simp [syncRelayInfo, hinfo]
    rw [hfund] at hpre
    simp only [Funding.preConsume] at hpre
    split at hpre
    · obtain ⟨rfl, rfl⟩ := ok_pair_inj hpre
      refine ⟨hses 0 rfl, ?_⟩
      rw [taken, hs1]
      omega
    rename_i hpos
    simp only [bind_eq_ok, storageCall_eq_ok] at hpre
    obtain ⟨s3, ⟨-, hdebit⟩, rfl, rfl⟩ := hpre
    refine ⟨hses _ rfl, ?_⟩
    have htaken := (debitBalanceByQuotaSilentlyTx_charge (not_le.mp hpos) hdebit).taken
    rw [taken] at htaken
    rwa [hs1] at htaken

theorem newBillingSession_market (hmarket : info.qiniuMarket = true) (hquota : 0 ≤ quota)
    (h : newBillingSession cfg faults faults (fun _ => false) 0 info quota s = (r, s')) :
    Opening info quota s s' r := by
  have hrefused : ∀ e, (r, s') = (Except.error e, s) → Opening info quota s s' r := by
    intro e he
    obtain ⟨rfl, rfl⟩ := Prod.mk.inj he
    exact sub_self _
  unfold newBillingSession at h
  unfold buildWalletSession at h
  split at h
  · exact hrefused _ h.symm
  dsimp only at h
  split at h
  · exact hrefused _ h.symm
  split at h
  · exact hrefused _ h.symm
  · exact preConsume_market
      rfl ⟨_, rfl⟩ rfl hquota h

/-- The session that was opened, if any, is that of the request. -/
def OpenedFor (info : RelayInfo) (r : Except APIError BillingSession × Store) : Prop :=
  ∀ b, r.1 = .ok b → b.info.qiniuMarket = info.qiniuMarket ∧ b.info.requestId = info.requestId

theorem preConsume_openedFor :
    OpenedFor b.info (b.preConsume cfg faults due now quota s) := by
  rcases hx : b.preConsume cfg faults due now quota s with ⟨r, s'⟩
  rintro b' rfl
  obtain ⟨_, _, _, -, -, -, rfl⟩ := preConsume_ok hx
  exact ⟨rfl, rfl⟩

theorem newBillingSession_openedFor (wallet subscription : PreConsumeFaults) (due : Nat → Bool)
    (now : Int) (info : RelayInfo) (quota : Int) (s : Store) :
    OpenedFor info (newBillingSession cfg wallet subscription due now info quota s) := by
  refine newBillingSession_induction (P := fun _ out => OpenedFor info out)
    (fun _ _ _ h => nomatch h) ?_ (fun _ _ _ _ _ h => h) s
  intro s faults due now quota' info' f hinfo _ _
  rcases hinfo with rfl | ⟨q, rfl⟩
  · exact preConsume_openedFor
  · exact preConsume_openedFor

/-- **The settlement of a session at the market price charges the difference, or nothing.** The
token may follow. -/
theorem Billing.settle_market (cfg : Config) (faults : SettleFaults) (actual : Int) (s : Store)
    {c : Int} (hfund : b.funding = .qiniuWallet u c) (hopen : b.fundingSettled = false) :
    (settle cfg faults actual ⟨b, s⟩).1.store = s ∨
    (actual - b.preConsumedQuota ≠ 0 ∧ ∃ s1, WalletCharge u (actual - b.preConsumedQuota) s s1 ∧
      ((settle cfg faults actual ⟨b, s⟩).1.store = s1 ∨
       (settle cfg faults actual ⟨b, s⟩).1.store =
        s1.chargeToken b.info.tokenId (actual - b.preConsumedQuota))) := by
  unfold settle
  dsimp only
  split
  · exact .inl rfl
  split
  · exact .inl rfl
  rename_i hdelta
  split
  · exact .inl rfl
  rename_i s1 hsettle
  rw [hopen, hfund, if_neg Bool.false_ne_true] at hsettle
  obtain ⟨-, hcall⟩ := (Funding.settle_ok hsettle).resolve_left fun h => hdelta h.1
  refine .inr ⟨hdelta, s1, silentDelta_charge cfg hdelta hcall, ?_⟩
  split
  · exact .inl rfl
  rename_i htok
  rcases settleToken_ok htok with ⟨-, rfl⟩ | ⟨-, rfl⟩
  · exact .inl rfl
  · exact .inr rfl

/-- **The refund of a realtime task gives back what its row says, or nothing.** -/
theorem Task.refundTaskQuota_market (cfg : Config) (faults : RefundFaults) (s : Store)
    (hst : t.qiniuRealtimeSettlement.isSome = true) :
    taken t.userId s (t.refundTaskQuota cfg faults s).2 = 0 ∨
    taken t.userId s (t.refundTaskQuota cfg faults s).2 = -t.refundQuota := by
  unfold refundTaskQuota
  split
  · exact .inl (sub_self _)
  rename_i hskip
  split
  · exact .inl (sub_self _)
  rename_i hadjust
  right
  obtain ⟨-, hadjust⟩ := storageCall_eq_ok.mp hadjust
  rw [not_or] at hskip
  unfold adjustFunding at hadjust
  rw [if_neg hskip.1, if_pos hst] at hadjust
  have hcharge := silentDelta_charge cfg (by omega) hadjust
  rcases t.adjustTokenQuota_cases faults.token (-t.refundQuota) _ with heq | ⟨id, q, heq⟩
  · rw [heq]
    exact hcharge.taken
  · rw [heq]
    exact hcharge.taken

end ApiGateway
