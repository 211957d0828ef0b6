import ApiGateway.Service.BillingSession
import ApiGateway.Proof.Wallet

/-!
# What the funding sources charge

Every call on a funding source either leaves the database alone or moves exactly the amount it
names: `users.quota` for the two wallet sources, the used amount for a subscription
(`FundingMove`). A subscription never goes below zero, so returning an amount is exact only while
it is still counted as used: `Covered`.
-/

namespace ApiGateway

open Table Decimal List Option Funding

variable {cfg : Config} {s s' : Store}
variable {f f' : Funding} {id u : Nat} {c delta q : Int} {s1 : Store} {row : UserSubscription}
  {sub : SubscriptionFunding} {refused : Bool} {info : RelayInfo}
variable {key : Option FlowKey} {bizNo remark requestId : String} {amount : Int}
  {due : Nat → Bool}

/-! ## Measures -/

/-- What requests have charged to a subscription, net of what was returned. -/
def usageOf (id : Nat) (s : Store) : Int :=
  ((s.subscriptionUsage.filter fun p => p.subscriptionId == id).map SubscriptionUsage.amount).sum

def Funding.subscriptionId : Funding → Option Nat
  | .subscription sub => sub.subscriptionId
  | _ => none

/-- What was taken from a source, up to a constant. -/
def Funding.used (f : Funding) (s : Store) : Int :=
  match f with
  | .wallet u _ | .qiniuWallet u _ => -(s.users u).quota
  | .subscription sub =>
    match sub.subscriptionId with
    | none => 0
    | some id => usageOf id s

/-- What was taken from a token, up to a constant. -/
def tokenUsed (id : Nat) (s : Store) : Int :=
  match s.tokens[id]? with
  | none => 0
  | some t => -t.remainQuota

/-- A subscription still counts at least `c` as used. -/
def Funding.Covered (f : Funding) (c : Int) (s : Store) : Prop :=
  match f with
  | .subscription sub =>
    ∃ id row, sub.subscriptionId = some id ∧ s.subscriptions[id]? = some row ∧ c ≤ row.amountUsed
  | _ => True

/-- Both values stand for the same source. -/
def Funding.Same (f f' : Funding) : Prop :=
  match f, f' with
  | .wallet u _, .wallet v _ => v = u
  | .qiniuWallet u _, .qiniuWallet v _ => v = u
  | .subscription sub, .subscription sub' => sub' = sub
  | _, _ => False

theorem Funding.Same.used (h : f.Same f') : f'.used = f.used := by
  cases f <;> cases f' <;> simp only [Same] at h <;> subst h <;> rfl

theorem Funding.Same.covered (h : f.Same f') : f'.Covered = f.Covered := by
  cases f <;> cases f' <;> simp only [Same] at h <;> subst h <;> rfl

theorem Funding.Same.subscriptionId (h : f.Same f') : f'.subscriptionId = f.subscriptionId := by
  cases f <;> cases f' <;> simp only [Same] at h <;> subst h <;> rfl

theorem Funding.Same.refl (f : Funding) : f.Same f := by
  cases f <;> rfl

/-! ## Moves -/

/-- `q` was taken from the source, and nothing else that billing looks at changed. -/
structure FundingMove (f : Funding) (q : Int) (s s' : Store) : Prop where
  used : f.used s' = f.used s + q
  tokens : s'.tokens = s.tokens
  records : s'.subscriptionPreConsumes = s.subscriptionPreConsumes
  covered : ∀ c, f.Covered c s → f.Covered (c + q) s'

theorem FundingMove.refl (f : Funding) (s : Store) : FundingMove f 0 s s where
  used := (add_zero _).symm
  tokens := rfl
  records := rfl
  covered := fun c h => by rw [add_zero]; exact h

/-- `q` was taken from the quota of user `u`. -/
structure WalletCharge (u : Nat) (q : Int) (s s' : Store) : Prop where
  user : u ≠ 0
  quota : (s'.users u).quota = (s.users u).quota - q
  tokens : s'.tokens = s.tokens
  records : s'.subscriptionPreConsumes = s.subscriptionPreConsumes

theorem WalletCharge.wallet (h : WalletCharge u q s s') : FundingMove (.wallet u c) q s s' where
  used := by
    have hquota := h.quota
    show -(s'.users u).quota = -(s.users u).quota + q
    omega
  tokens := h.tokens
  records := h.records
  covered := fun _ _ => trivial

theorem WalletCharge.qiniuWallet (h : WalletCharge u q s s') :
    FundingMove (.qiniuWallet u c) q s s' :=
  { h.wallet (c := c) with covered := fun _ _ => trivial }

theorem WalletCharge.post {a : WalletAccount} (h1 : WalletCharge u 0 s s1)
    (h : s' = (s1.saveAccount u a key).addQuota u (-q) key) : WalletCharge u q s s' := by
  subst h
  have hquota := h1.quota
  refine ⟨h1.user, ?_, h1.tokens, h1.records⟩
  simp only [Store.addQuota_users, Store.saveAccount_users, Function.update_self]
  omega

theorem WalletCharge.flow (h : WalletCharge u q s s1) (hw : WritesFlow key s1 s') :
    WalletCharge u q s s' := by
  obtain ⟨-, -, rfl⟩ := hw
  exact ⟨h.user, h.quota, h.tokens, h.records⟩

theorem ensureLegacyWalletBalanceTx_charge (h : ensureLegacyWalletBalanceTx cfg u s = .ok s') :
    WalletCharge u 0 s s' := by
  obtain ⟨hu, rfl | hinit⟩ := ensureLegacyWalletBalanceTx_ok h
  · exact ⟨hu, (sub_zero _).symm, rfl, rfl⟩
  · obtain ⟨-, -, rfl⟩ := hinit.store
    exact ⟨hu, (sub_zero _).symm, rfl, rfl⟩

theorem getQiniuWalletAccountAndUserTx_charge
    (h : getQiniuWalletAccountAndUserTx cfg u s = .ok s') : WalletCharge u 0 s s' := by
  obtain ⟨hu, rfl | ⟨-, -, rfl⟩⟩ := getQiniuWalletAccountAndUserTx_ok h
  · exact ⟨hu, (sub_zero _).symm, rfl, rfl⟩
  · exact ⟨hu, (sub_zero _).symm, rfl, rfl⟩

theorem consumeWalletQuota_charge (hq : 0 < q)
    (h : consumeWalletQuota cfg u q bizNo remark s = .ok s') : WalletCharge u q s s' := by
  rcases debitBalanceByQuotaTx_ok h with ⟨-, hle | hflow⟩ | ⟨-, -, s1, hs1, -, hw⟩
  · exact absurd hq (not_lt.mpr hle)
  · exact nomatch hflow
  · exact ((ensureLegacyWalletBalanceTx_charge hs1).post rfl).flow hw

theorem refundWalletQuota_charge (hq : 0 < q)
    (h : refundWalletQuota cfg u q bizNo remark s = .ok s') : WalletCharge u (-q) s s' := by
  rcases creditBalanceByQuotaTx_ok h with ⟨-, hle | hflow⟩ | ⟨-, -, s1, hs1, hw⟩
  · exact absurd hq (not_lt.mpr hle)
  · exact nomatch hflow
  · exact ((ensureLegacyWalletBalanceTx_charge hs1).post (by rw [neg_neg])).flow hw

theorem debitBalanceByQuotaSilentlyTx_charge (hq : 0 < q)
    (h : debitBalanceByQuotaSilentlyTx cfg u q s = .ok s') : WalletCharge u q s s' := by
  rcases debitBalanceByQuotaSilentlyTx_ok h with ⟨-, hle⟩ | ⟨-, s1, hs1, -, -, hpost⟩
  · exact absurd hq (not_lt.mpr hle)
  · exact (getQiniuWalletAccountAndUserTx_charge hs1).post hpost

theorem debitBalanceByQuotaSilentlyAllowDebtTx_charge (hq : 0 < q)
    (h : debitBalanceByQuotaSilentlyAllowDebtTx cfg u q s = .ok s') : WalletCharge u q s s' := by
  rcases debitBalanceByQuotaSilentlyAllowDebtTx_ok h with ⟨-, hle⟩ | ⟨-, s1, hs1, hpost⟩
  · exact absurd hq (not_lt.mpr hle)
  · exact (getQiniuWalletAccountAndUserTx_charge hs1).post hpost

theorem creditBalanceByQuotaSilentlyTx_charge (hq : 0 < q)
    (h : creditBalanceByQuotaSilentlyTx cfg u q s = .ok s') : WalletCharge u (-q) s s' := by
  rcases creditBalanceByQuotaSilentlyTx_ok h with ⟨-, hle⟩ | ⟨-, s1, hs1, hpost⟩
  · exact absurd hq (not_lt.mpr hle)
  · rw [← neg_neg q] at hpost
    exact (getQiniuWalletAccountAndUserTx_charge hs1).post hpost

/-! ## Calls that always go through -/

theorem ensureLegacyWalletBalanceTx_total (cfg : Config) (hu : u ≠ 0) (s : Store) :
    ∃ s', ensureLegacyWalletBalanceTx cfg u s = .ok s' := by
  unfold ensureLegacyWalletBalanceTx
  have hget := getOrCreateWalletAccountTx_eq_ok.mpr ⟨hu, rfl (a := s.wallets u)⟩
  simp only [hget, bind, Except.bind]
  split
  · exact ⟨_, rfl⟩
  · split
    · exact ⟨_, rfl⟩
    · split <;> exact ⟨_, rfl⟩

theorem refundWalletQuota_total (cfg : Config) (hu : u ≠ 0) (q : Int)
    (bizNo remark : String) (s : Store) :
    ∃ s', refundWalletQuota cfg u q bizNo remark s = .ok s' := by
  obtain ⟨s1, hs1⟩ := ensureLegacyWalletBalanceTx_total cfg hu s
  unfold refundWalletQuota creditBalanceByQuotaTx
  rw [hs1]
  split
  · exact ⟨_, rfl⟩
  · exact ⟨_, rfl⟩

theorem getQiniuWalletAccountAndUserTx_total (cfg : Config) (hu : u ≠ 0) (s : Store) :
    ∃ s', getQiniuWalletAccountAndUserTx cfg u s = .ok s' := by
  unfold getQiniuWalletAccountAndUserTx
  have hget := getOrCreateWalletAccountTx_eq_ok.mpr ⟨hu, rfl (a := s.wallets u)⟩
  simp only [hget, bind, Except.bind]
  split <;> exact ⟨_, rfl⟩

theorem creditBalanceByQuotaSilentlyTx_total (cfg : Config) (hu : u ≠ 0) (q : Int) (s : Store) :
    ∃ s', creditBalanceByQuotaSilentlyTx cfg u q s = .ok s' := by
  obtain ⟨s1, hs1⟩ := getQiniuWalletAccountAndUserTx_total cfg hu s
  unfold creditBalanceByQuotaSilentlyTx
  rw [hs1]
  split
  · exact ⟨_, rfl⟩
  · exact ⟨_, rfl⟩

theorem debitBalanceByQuotaSilentlyAllowDebtTx_total (cfg : Config) (hu : u ≠ 0) (q : Int)
    (s : Store) : ∃ s', debitBalanceByQuotaSilentlyAllowDebtTx cfg u q s = .ok s' := by
  obtain ⟨s1, hs1⟩ := getQiniuWalletAccountAndUserTx_total cfg hu s
  unfold debitBalanceByQuotaSilentlyAllowDebtTx
  rw [hs1]
  split
  · exact ⟨_, rfl⟩
  · exact ⟨_, rfl⟩

/-! ## Subscriptions -/

theorem usageOf_useSubscription (id : Nat) (used q : Int) (s : Store) :
    usageOf id (s.useSubscription id used q) = usageOf id s + q := by
  simp [usageOf]

theorem postConsumeUserSubscriptionDelta_eq
    (hrow : s.subscriptions[id]? = some row) (hdelta : delta ≠ 0)
    (hused : 0 ≤ row.amountUsed + delta)
    (htotal : row.amountTotal > 0 → row.amountUsed + delta ≤ row.amountTotal) :
    postConsumeUserSubscriptionDelta (some id) delta s =
      .ok (s.useSubscription id (row.amountUsed + delta) delta) := by
  have hguard : ¬ (row.amountTotal > 0 ∧ row.amountUsed + delta > row.amountTotal) :=
    fun ⟨hpos, hlt⟩ => absurd (htotal hpos) (not_le.mpr hlt)
  have hmoved : row.amountUsed + delta - row.amountUsed = delta := by omega
  simp only [postConsumeUserSubscriptionDelta, orFail, bind, Except.bind, if_neg hdelta, hrow,
    max_eq_right hused, failIf, if_neg hguard, hmoved]
  rfl

theorem postConsumeUserSubscriptionDelta_cases (hrow : s.subscriptions[id]? = some row)
    (h : postConsumeUserSubscriptionDelta (some id) delta s = .ok s') :
    (delta = 0 ∧ s' = s) ∨
    (¬ (row.amountTotal > 0 ∧ max 0 (row.amountUsed + delta) > row.amountTotal) ∧
      s' = s.useSubscription id (max 0 (row.amountUsed + delta))
        (max 0 (row.amountUsed + delta) - row.amountUsed)) := by
  unfold postConsumeUserSubscriptionDelta at h
  split at h
  · rename_i hzero
    exact .inl ⟨hzero, (pure_eq_ok.mp h).symm⟩
  · simp only [bind_eq_ok, orFail_eq_ok, failIf_eq_ok, pure_eq_ok, hrow, some.injEq,
      exists_eq_left', exists_const] at h
    exact .inr ⟨h.1, h.2.symm⟩

theorem postConsumeUserSubscriptionDelta_ok
    (hrow : s.subscriptions[id]? = some row) (hused : 0 ≤ row.amountUsed + delta)
    (h : postConsumeUserSubscriptionDelta (some id) delta s = .ok s') :
    (delta = 0 ∧ s' = s) ∨
    ((row.amountTotal > 0 → row.amountUsed + delta ≤ row.amountTotal) ∧
      s' = s.useSubscription id (row.amountUsed + delta) delta) := by
  rcases postConsumeUserSubscriptionDelta_cases hrow h with hzero | ⟨htotal, rfl⟩
  · exact .inl hzero
  · rw [max_eq_right hused] at htotal ⊢
    refine .inr ⟨fun hpos => not_lt.mp fun hlt => htotal ⟨hpos, hlt⟩, ?_⟩
    rw [show row.amountUsed + delta - row.amountUsed = delta by omega]

theorem useSubscription_move (hid : sub.subscriptionId = some id)
    (hrow : s.subscriptions[id]? = some row) :
    FundingMove (.subscription sub) q s (s.useSubscription id (row.amountUsed + q) q) where
  used := by
    simp only [used, hid]
    exact usageOf_useSubscription id _ q s
  tokens := rfl
  records := rfl
  covered := by
    rintro c ⟨id', row', hid', hrow', hle⟩
    obtain rfl : id = id' := by rw [hid] at hid'; exact some.inj hid'
    obtain rfl : row = row' := by rw [hrow] at hrow'; exact some.inj hrow'
    refine ⟨id, _, hid, getElem?_modify_self hrow, ?_⟩
    show c + q ≤ row.amountUsed + q
    omega

theorem postConsumeUserSubscriptionDelta_move
    (hcov : Covered (.subscription sub) c s) (hc : 0 ≤ c + delta)
    (h : postConsumeUserSubscriptionDelta sub.subscriptionId delta s = .ok s') :
    FundingMove (.subscription sub) delta s s' := by
  obtain ⟨id, row, hid, hrow, hle⟩ := hcov
  rw [hid] at h
  rcases postConsumeUserSubscriptionDelta_ok hrow (by omega) h with ⟨rfl, rfl⟩ | ⟨-, rfl⟩
  · exact .refl _ _
  · exact useSubscription_move hid hrow

/-- A request was charged to subscription `id` in advance. -/
structure SubscriptionCharged (requestId : String) (u : Nat) (amount : Int) (id : Nat)
    (s s' : Store) : Prop where
  usage : usageOf id s' = usageOf id s + amount
  tokens : s'.tokens = s.tokens
  records : s'.subscriptionPreConsumes = s.subscriptionPreConsumes ++
    [{ requestId := requestId, userId := u, userSubscriptionId := id, preConsumed := amount }]
  row : ∃ row, s'.subscriptions[id]? = some row ∧ amount ≤ row.amountUsed

/-- The candidate that is charged is one of those offered. The candidates passed over
on the way may have started over. -/
theorem chargeFirstSubscription_ok {candidates : List (UserSubscription × Nat)}
    (hrows : ∀ c ∈ candidates, 0 ≤ c.1.amountUsed ∧ s.subscriptions[c.2]?.isSome)
    (h : chargeFirstSubscription requestId u amount (resetDue due) candidates s = .ok (id, s')) :
    SubscriptionCharged requestId u amount id s s' := by
  induction candidates generalizing s with
  | nil => exact nomatch h
  | cons c _ ih =>
    obtain ⟨sub, i⟩ := c
    obtain ⟨hused, hrow⟩ := hrows (sub, i) (by simp)
    obtain ⟨row, hrow⟩ := isSome_iff_exists.mp hrow
    rw [chargeFirstSubscription, bind_eq_ok] at h
    obtain ⟨sub', hreset, h⟩ := h
    have hstart : 0 ≤ sub'.amountUsed := by
      obtain rfl := Except.ok.inj hreset
      split
      · exact le_refl _
      · exact hused
    split at h
    · have hrest := ih (fun c hc => ?_) h
      · exact ⟨hrest.usage, hrest.tokens, hrest.records, hrest.row⟩
      obtain ⟨hnonneg, hsome⟩ := hrows c (mem_cons_of_mem _ hc)
      refine ⟨hnonneg, ?_⟩
      rw [getElem?_modify, Option.map_eq_map, Option.isSome_map]
      exact hsome
    obtain ⟨rfl, rfl⟩ := ok_pair_inj h
    refine ⟨usageOf_useSubscription i (sub'.amountUsed + amount) amount s, rfl, rfl, ?_⟩
    refine ⟨_, getElem?_modify_self (getElem?_modify_self hrow), ?_⟩
    show amount ≤ sub'.amountUsed + amount
    omega

theorem preConsumeUserSubscription_ok {now : Int}
    {preConsumed : Int} (hrows : ∀ row ∈ s.subscriptions, 0 ≤ row.amountUsed)
    (hnew : lookup (fun r : SubscriptionPreConsumeRecord => r.requestId == requestId)
      s.subscriptionPreConsumes = none)
    (h : preConsumeUserSubscription requestId u amount due now s = .ok (id, preConsumed, s')) :
    isBlank requestId = false ∧ 0 < amount ∧ preConsumed = amount ∧
      SubscriptionCharged requestId u amount id s s' := by
  unfold preConsumeUserSubscription preConsumeWithReset at h
  rw [hnew] at h
  simp only [bind_eq_ok, failIf_eq_ok, exists_const, Prod.exists] at h
  obtain ⟨-, hblank, hpos, -, id', s1, hcharge, rfl, rfl, rfl⟩ := h
  refine ⟨by simpa using hblank, not_le.mp hpos, rfl, chargeFirstSubscription_ok ?_ hcharge⟩
  intro c hc
  obtain ⟨hmem, -⟩ := mem_filter.mp ((mem_insertionSort _).mp hc)
  have hrow := mem_zipIdx_iff_getElem?.mp hmem
  exact ⟨hrows _ (mem_of_getElem? hrow), by rw [hrow]; rfl⟩

/-! ## The calls of a session -/

theorem storageCall_eq_ok {α : Type} {call : Except Err α} {a : α} :
    storageCall refused call = .ok a ↔ refused = false ∧ call = .ok a := by
  cases refused <;> simp [storageCall]

theorem Funding.settle_same (cfg : Config) (refused : Bool) (delta : Int) (f : Funding) (s : Store) :
    f.Same (f.settle cfg refused delta s).1 := by
  cases f with
  | wallet => simp only [settle]; split <;> rfl
  | qiniuWallet =>
    simp only [settle]
    split
    · rfl
    · split
      · split <;> rfl
      · split <;> rfl
  | subscription => simp only [settle]; split <;> rfl

def Funding.isWallet : Funding → Bool
  | .wallet _ _ => true
  | _ => false

theorem Funding.settle_error {e : Err}
    (h : f.settle cfg refused delta s = (f', .error e)) (hf : f.isWallet = false) : f' = f := by
  cases f with
  | wallet => exact nomatch hf
  | qiniuWallet =>
    simp only [settle] at h
    split at h
    · cases h
    split at h <;> split at h
    · exact (Prod.mk.inj h).1.symm
    · cases h
    · exact (Prod.mk.inj h).1.symm
    · cases h
  | subscription =>
    simp only [settle] at h
    split at h
    · cases h
    · exact (Prod.mk.inj h).1.symm

/-- The call by which a source settles a difference. -/
def Funding.settleCall (cfg : Config) (delta : Int) (s : Store) : Funding → Except Err Store
  | .wallet u _ =>
    if delta > 0 then consumeWalletQuota cfg u delta "wallet-settle" "钱包后结算补扣" s
    else refundWalletQuota cfg u (-delta) "wallet-settle" "钱包后结算退还" s
  | .qiniuWallet u _ =>
    if delta > 0 then debitBalanceByQuotaSilentlyAllowDebtTx cfg u delta s
    else creditBalanceByQuotaSilentlyTx cfg u (-delta) s
  | .subscription sub => postConsumeUserSubscriptionDelta sub.subscriptionId delta s

theorem Funding.settle_call (hdelta : delta ≠ 0) :
    (f.settle cfg refused delta s).2 = storageCall refused (f.settleCall cfg delta s) := by
  cases f with
  | wallet => simp only [settle, settleCall, if_neg hdelta]
  | qiniuWallet =>
    simp only [settle, settleCall, if_neg hdelta]
    by_cases hpos : delta > 0
    · simp only [if_pos hpos]
      split <;> simp only [*]
    · simp only [if_neg hpos]
      split <;> simp only [*]
  | subscription => simp only [settle, settleCall, if_neg hdelta]

theorem Funding.settle_ok (h : f.settle cfg refused delta s = (f', .ok s')) :
    (delta = 0 ∧ s' = s) ∨ (delta ≠ 0 ∧ f.settleCall cfg delta s = .ok s') := by
  by_cases hdelta : delta = 0
  · subst hdelta
    have hzero : f.settle cfg refused 0 s = (f, .ok s) := by
      cases f <;> simp only [settle, if_true]
    rw [hzero, Prod.mk.injEq, Except.ok.injEq] at h
    exact .inl ⟨rfl, h.2.symm⟩
  · have hcall := congrArg Prod.snd h
    rw [settle_call hdelta] at hcall
    exact .inr ⟨hdelta, (storageCall_eq_ok.mp hcall).2⟩

theorem silentDelta_charge (cfg : Config) (hdelta : delta ≠ 0)
    (h : (if delta > 0 then debitBalanceByQuotaSilentlyAllowDebtTx cfg u delta s
      else creditBalanceByQuotaSilentlyTx cfg u (-delta) s) = .ok s') :
    WalletCharge u delta s s' := by
  split at h
  · rename_i hpos
    exact debitBalanceByQuotaSilentlyAllowDebtTx_charge hpos h
  · have hcharge := creditBalanceByQuotaSilentlyTx_charge (by omega) h
    rwa [neg_neg] at hcharge

/-- **An accepted settlement moves its difference.** -/
theorem Funding.settle_move (hcov : f.Covered c s) (hc : 0 ≤ c + delta)
    (h : f.settle cfg refused delta s = (f', .ok s')) : FundingMove f delta s s' := by
  rcases settle_ok h with ⟨rfl, rfl⟩ | ⟨hdelta, h⟩
  · exact .refl _ _
  cases f with
  | wallet =>
    simp only [settleCall] at h
    split at h
    · rename_i hpos
      exact (consumeWalletQuota_charge hpos h).wallet
    · have hcharge := refundWalletQuota_charge (by omega) h
      rw [neg_neg] at hcharge
      exact hcharge.wallet
  | qiniuWallet => exact (silentDelta_charge cfg hdelta h).qiniuWallet
  | subscription => exact postConsumeUserSubscriptionDelta_move hcov hc h

/-- A source that has consumed `delta` more. -/
def Funding.addConsumed (delta : Int) : Funding → Funding
  | .wallet u c => .wallet u (c + delta)
  | .qiniuWallet u c => .qiniuWallet u (c + delta)
  | .subscription sub => .subscription sub

theorem Funding.addConsumed_same (delta : Int) (f : Funding) : f.Same (f.addConsumed delta) := by
  cases f <;> rfl

/-- The call by which a source reserves more. -/
def Funding.reserveCall (cfg : Config) (delta : Int) (s : Store) : Funding → Except Err Store
  | .wallet u _ => consumeWalletQuota cfg u delta "wallet-reserve" "钱包补充预留" s
  | .qiniuWallet u _ => debitBalanceByQuotaSilentlyTx cfg u delta s
  | .subscription sub => postConsumeUserSubscriptionDelta sub.subscriptionId delta s

theorem reserveFunding_call (h : reserveFunding cfg refused delta f s = .ok (f', s')) :
    f' = f.addConsumed delta ∧ f.reserveCall cfg delta s = .ok s' := by
  cases f with
  | wallet | qiniuWallet | subscription =>
    simp only [reserveFunding, bind_eq_ok, storageCall_eq_ok] at h
    obtain ⟨s1, ⟨-, hcall⟩, rfl, rfl⟩ := h
    exact ⟨rfl, hcall⟩

theorem reserveFunding_ok (hdelta : 0 < delta) (hcov : f.Covered c s) (hc : 0 ≤ c)
    (h : reserveFunding cfg refused delta f s = .ok (f', s')) :
    f' = f.addConsumed delta ∧ FundingMove f delta s s' := by
  obtain ⟨rfl, hcall⟩ := reserveFunding_call h
  refine ⟨rfl, ?_⟩
  cases f with
  | wallet => exact (consumeWalletQuota_charge hdelta hcall).wallet
  | qiniuWallet => exact (debitBalanceByQuotaSilentlyTx_charge hdelta hcall).qiniuWallet
  | subscription => exact postConsumeUserSubscriptionDelta_move hcov (by omega) hcall

theorem FundingMove.trans {q' : Int} {s2 s3 : Store}
    (h : FundingMove f q s1 s2) (h' : FundingMove f q' s2 s3) : FundingMove f (q + q') s1 s3 where
  used := by rw [h'.used, h.used]; omega
  tokens := h'.tokens.trans h.tokens
  records := h'.records.trans h.records
  covered := fun c hc => by
    have hc' := h'.covered _ (h.covered c hc)
    rw [← add_assoc]
    exact hc'

theorem rollbackFundingReserve_ok (hdelta : 0 < delta) (hcov : f.Covered c s) (hc : 0 ≤ c)
    (hqiniu : ∀ u k, f = .qiniuWallet u k → 0 ≤ k)
    (h : reserveFunding cfg refused delta f s = .ok (f', s')) :
    ∃ s'', rollbackFundingReserve cfg false delta f' s' = (f, s'') ∧ FundingMove f 0 s s'' := by
  obtain ⟨rfl, hmove⟩ := reserveFunding_ok hdelta hcov hc h
  have hcall := (reserveFunding_call h).2
  suffices hback : ∃ s'', rollbackFundingReserve cfg false delta (f.addConsumed delta) s' =
      (f, s'') ∧ FundingMove f (-delta) s' s'' by
    obtain ⟨s'', heq, hback⟩ := hback
    have hnet := hmove.trans hback
    rw [add_neg_cancel] at hnet
    exact ⟨s'', heq, hnet⟩
  cases f with
  | wallet u k =>
    have hu := (consumeWalletQuota_charge hdelta hcall).user
    obtain ⟨s'', hs''⟩ := refundWalletQuota_total cfg hu delta "wallet-reserve-rollback" "钱包预留回滚" s'
    refine ⟨s'', ?_, (refundWalletQuota_charge hdelta hs'').wallet⟩
    simp only [addConsumed, rollbackFundingReserve, hs'']
    rw [show k + delta - delta = k by omega]
    rfl
  | qiniuWallet u k =>
    have hu := (debitBalanceByQuotaSilentlyTx_charge hdelta hcall).user
    obtain ⟨s'', hs''⟩ := creditBalanceByQuotaSilentlyTx_total cfg hu delta s'
    refine ⟨s'', ?_, (creditBalanceByQuotaSilentlyTx_charge hdelta hs'').qiniuWallet⟩
    have hk := hqiniu u k rfl
    simp only [addConsumed, rollbackFundingReserve, hs'']
    rw [show max 0 (k + delta - delta) = k by omega]
    rfl
  | subscription =>
    obtain ⟨id, row, hid, hrow, hle⟩ := hcov
    rw [reserveCall, hid] at hcall
    rcases postConsumeUserSubscriptionDelta_ok hrow (by omega) hcall with ⟨hzero, -⟩ | ⟨htotal, rfl⟩
    · exact absurd hzero (by omega)
    -- what was used before the reservation is within the total, since more was
    have hrow' : (s.useSubscription id (row.amountUsed + delta) delta).subscriptions[id]? =
        some { row with amountUsed := row.amountUsed + delta } := getElem?_modify_self hrow
    have hback : postConsumeUserSubscriptionDelta (some id) (-delta)
        (s.useSubscription id (row.amountUsed + delta) delta) =
        .ok ((s.useSubscription id (row.amountUsed + delta) delta).useSubscription id
          (row.amountUsed + delta + -delta) (-delta)) := by
      refine postConsumeUserSubscriptionDelta_eq hrow' (neg_ne_zero.mpr hdelta.ne') ?_ fun hpos => ?_
      · show 0 ≤ row.amountUsed + delta + -delta
        omega
      · have hle := htotal hpos
        show row.amountUsed + delta + -delta ≤ row.amountTotal
        omega
    refine ⟨_, ?_, useSubscription_move hid hrow'⟩
    simp only [addConsumed, rollbackFundingReserve, hid, hback]
    rfl

/-! ## Refunds -/

/-- What a source returns when it is refunded. -/
def Funding.returns : Funding → Int
  | .wallet _ c => c
  | .qiniuWallet _ c => c
  | .subscription sub => sub.preConsumed

/-- The record of the advance charge is there and not yet returned. -/
def SubscriptionFunding.Recorded (sub : SubscriptionFunding) (s : Store) : Prop :=
  isBlank sub.requestId = false ∧ 0 < sub.preConsumed ∧
    ∃ i record, lookup (fun r : SubscriptionPreConsumeRecord => r.requestId == sub.requestId)
        s.subscriptionPreConsumes = some (i, record) ∧
      record.refunded = false ∧ sub.subscriptionId = some record.userSubscriptionId ∧
      record.preConsumed = sub.preConsumed

theorem refundSubscriptionPreConsume_cases
    {fault : SubscriptionRefundFault} (hfault : fault ≠ .recordLost) (hrec : sub.Recorded s) :
    refundSubscriptionPreConsume sub.requestId fault s = (false, s) ∨
    ∃ i s1, postConsumeUserSubscriptionDelta sub.subscriptionId (-sub.preConsumed) s = .ok s1 ∧
      refundSubscriptionPreConsume sub.requestId fault s = (true, markPreConsumeRefunded i s1) := by
  obtain ⟨-, hpos, i, record, hlookup, hopen, hid, hpre⟩ := hrec
  unfold refundSubscriptionPreConsume
  simp only [hlookup, hopen, hpre, hid, if_neg (not_le.mpr hpos),
    Bool.false_eq_true, if_false]
  split
  · exact .inl rfl
  split
  · exact .inl rfl
  · rename_i s1 hcall
    exact .inr ⟨i, s1, hcall, rfl⟩

/-- The attempts that fail leave everything to the one that succeeds. -/
theorem refundWithRetry_cases (hrec : sub.Recorded s)
    {faults : List SubscriptionRefundFault} (hfaults : ∀ fault ∈ faults, fault ≠ .recordLost)
    (h : refundWithRetry sub.requestId faults s = (true, s')) :
    ∃ i s1, postConsumeUserSubscriptionDelta sub.subscriptionId (-sub.preConsumed) s = .ok s1 ∧
      s' = markPreConsumeRefunded i s1 := by
  induction faults with
  | nil => exact nomatch h
  | cons fault _ ih =>
    unfold refundWithRetry at h
    rcases refundSubscriptionPreConsume_cases (hfaults fault (by simp)) hrec with
      heq | ⟨i, s1, hcall, heq⟩
    · rw [heq] at h
      exact ih (fun f hf => hfaults f (mem_cons_of_mem _ hf)) h
    · rw [heq] at h
      simp only [if_true, Prod.mk.injEq, true_and] at h
      exact ⟨i, s1, hcall, h.symm⟩

/-- The attempts of a refund, none of which commits half of its work. -/
def Funding.RefundFaults.Atomic (faults : Funding.RefundFaults) : Prop :=
  faults.first ≠ .recordLost ∧ faults.second ≠ .recordLost ∧ faults.third ≠ .recordLost

instance (faults : Funding.RefundFaults) : Decidable faults.Atomic :=
  inferInstanceAs (Decidable (_ ∧ _ ∧ _))

/-- A source with its advance charge in order. -/
def Funding.Recorded (f : Funding) (s : Store) : Prop :=
  match f with
  | .subscription sub => sub.Recorded s
  | _ => True

/-- What a refund does to the measures of a source. -/
structure RefundMove (f f' : Funding) (s s' : Store) : Prop where
  same : f.Same f'
  used : f.used s' = f.used s - f.returns
  tokens : s'.tokens = s.tokens
  covered : ∀ c, f.Covered c s → f.Covered (c - f.returns) s'

/-- **A refund that succeeds returns what the source has consumed**, once. -/
theorem Funding.refund_move {faults : RefundFaults}
    (hatomic : faults.Atomic) (hrec : f.Recorded s) (hcov : f.Covered c s)
    (hreturns : 0 ≤ f.returns) (hc : f.returns ≤ c) (h : f.refund cfg faults s = (f', true, s')) :
    RefundMove f f' s s' := by
  have of_move : ∀ {s1 : Store}, f.Same f' → FundingMove f (-f.returns) s s1 →
      s' = s1 → RefundMove f f' s s' := by
    rintro s1 hsame hmove rfl
    exact ⟨hsame, hmove.used, hmove.tokens, hmove.covered⟩
  by_cases hzero : f.returns ≤ 0
  · -- nothing was consumed
    have hnone : f.returns = 0 := le_antisymm hzero hreturns
    have heq : f.refund cfg faults s = (f, true, s) := by
      cases f <;> simp only [returns] at hzero <;> simp only [refund, if_pos hzero]
    rw [heq] at h
    obtain ⟨rfl, rfl⟩ := h
    refine of_move (.refl _) ?_ rfl
    rw [hnone]
    exact .refl _ _
  have hpos : 0 < f.returns := not_le.mp hzero
  cases f with
  | wallet | qiniuWallet =>
    simp only [refund, returns] at h hzero
    rw [if_neg hzero] at h
    split at h
    · cases h
    rename_i hcall
    obtain ⟨rfl, rfl⟩ := h
    have hcall := (storageCall_eq_ok.mp hcall).2
    first
    | exact of_move rfl (refundWalletQuota_charge hpos hcall).wallet rfl
    | exact of_move rfl (creditBalanceByQuotaSilentlyTx_charge hpos hcall).qiniuWallet rfl
  | subscription =>
    simp only [refund, returns] at h hzero hc
    rw [if_neg hzero] at h
    obtain ⟨rfl, hretry⟩ := Prod.mk.inj h
    have hfaults : ∀ fault ∈ [faults.first, faults.second, faults.third], fault ≠ .recordLost := by
      simpa [RefundFaults.Atomic] using hatomic
    obtain ⟨i, s1, hcall, rfl⟩ := refundWithRetry_cases hrec hfaults hretry
    have hmove := postConsumeUserSubscriptionDelta_move hcov (by omega) hcall
    exact ⟨rfl, hmove.used, hmove.tokens, hmove.covered⟩

/-! ## Tokens -/

theorem decreaseTokenQuota_ok (h : decreaseTokenQuota id q s = .ok s') :
    s' = s.chargeToken id q := by
  simp only [decreaseTokenQuota, bind_eq_ok, failIf_eq_ok, pure_eq_ok, exists_const] at h
  exact h.2.symm

theorem increaseTokenQuota_ok (h : increaseTokenQuota id q s = .ok s') :
    s' = s.chargeToken id (-q) := by
  simp only [increaseTokenQuota, bind_eq_ok, failIf_eq_ok, pure_eq_ok, exists_const] at h
  exact h.2.symm

/-- The share of a charge that a token bears: playground requests have no token. -/
def RelayInfo.tokenShare (info : RelayInfo) (q : Int) : Int := if info.isPlayground then 0 else q

structure TokenMove (info : RelayInfo) (q : Int) (s s' : Store) : Prop where
  used : tokenUsed info.tokenId s' = tokenUsed info.tokenId s + info.tokenShare q
  exists_ : s'.tokens[info.tokenId]?.isSome
  funding : ∀ f : Funding, f.used s' = f.used s
  covered : ∀ (f : Funding) c, f.Covered c s → f.Covered c s'
  subscriptions : s'.subscriptions = s.subscriptions
  records : s'.subscriptionPreConsumes = s.subscriptionPreConsumes

theorem chargeToken_move (hplay : info.isPlayground = false) (h : s.tokens[info.tokenId]?.isSome) :
    TokenMove info q s (s.chargeToken info.tokenId q) where
  used := by
    obtain ⟨t, ht⟩ := isSome_iff_exists.mp h
    simp only [tokenUsed, Store.chargeToken_tokens, getElem?_modify_self ht, ht, RelayInfo.tokenShare,
      hplay]
    simp
    omega
  exists_ := by
    obtain ⟨t, ht⟩ := isSome_iff_exists.mp h
    rw [Store.chargeToken_tokens, getElem?_modify_self ht]
    rfl
  funding := fun f => by cases f <;> rfl
  covered := fun f c hc => by cases f <;> exact hc
  subscriptions := rfl
  records := rfl

theorem TokenMove.none (hq : info.isPlayground = true ∨ q = 0)
    (h : s.tokens[info.tokenId]?.isSome) : TokenMove info q s s where
  used := by
    rcases hq with hplay | rfl
    · rw [RelayInfo.tokenShare, hplay]; exact (add_zero _).symm
    · rw [RelayInfo.tokenShare, ite_self, add_zero]
  exists_ := h
  funding := fun _ => rfl
  covered := fun _ _ hc => hc
  subscriptions := rfl
  records := rfl

theorem preConsumeTokenQuota_ok (h : preConsumeTokenQuota info refused q s = .ok s') :
    ((info.officialLedger = true ∨ info.isPlayground = true) ∧ s' = s) ∨
      (info.isPlayground = false ∧ s' = s.chargeToken info.tokenId q) := by
  unfold preConsumeTokenQuota at h
  split at h
  · rename_i hledger
    exact .inl ⟨.inl hledger, (pure_eq_ok.mp h).symm⟩
  simp only [bind_eq_ok, failIf_eq_ok, exists_const] at h
  obtain ⟨-, h⟩ := h
  split at h
  · rename_i hplay
    exact .inl ⟨.inr hplay, (pure_eq_ok.mp h).symm⟩
  rename_i hplay
  simp only [bind_eq_ok, failIf_eq_ok, exists_const] at h
  obtain ⟨-, -, -, h⟩ := h
  exact .inr ⟨by simpa using hplay, decreaseTokenQuota_ok h⟩

theorem preConsumeTokenQuota_move
    (hledger : info.officialLedger = false) (htoken : s.tokens[info.tokenId]?.isSome)
    (h : preConsumeTokenQuota info refused q s = .ok s') : TokenMove info q s s' := by
  rcases preConsumeTokenQuota_ok h with ⟨hskip, rfl⟩ | ⟨hplay, rfl⟩
  · exact .none (.inl (hskip.resolve_left (by simp [hledger]))) htoken
  · exact chargeToken_move hplay htoken

theorem reserveToken_move (hdelta : 0 < delta)
    (hledger : info.officialLedger = false) (htoken : s.tokens[info.tokenId]?.isSome)
    (h : reserveToken info refused delta s = .ok s') : TokenMove info delta s s' := by
  unfold reserveToken at h
  split at h
  · rename_i hskip
    rw [← Except.ok.inj h]
    exact .none (.inl (hskip.resolve_left (not_le.mpr hdelta))) htoken
  · exact preConsumeTokenQuota_move hledger htoken h

theorem settleToken_ok (h : settleToken info refused delta s = .ok s') :
    (info.isPlayground = true ∧ s' = s) ∨
      (info.isPlayground = false ∧ s' = s.chargeToken info.tokenId delta) := by
  unfold settleToken at h
  split at h
  · rename_i hplay
    exact .inl ⟨hplay, (Except.ok.inj h).symm⟩
  rename_i hplay
  obtain ⟨-, h⟩ := storageCall_eq_ok.mp h
  refine .inr ⟨by simpa using hplay, ?_⟩
  split at h
  · exact decreaseTokenQuota_ok h
  · rw [increaseTokenQuota_ok h, neg_neg]

theorem settleToken_move (htoken : s.tokens[info.tokenId]?.isSome)
    (h : settleToken info refused delta s = .ok s') : TokenMove info delta s s' := by
  rcases settleToken_ok h with ⟨hplay, rfl⟩ | ⟨hplay, rfl⟩
  · exact .none (.inl hplay) htoken
  · exact chargeToken_move hplay htoken

theorem RefundTask.refundToken_move {task : RefundTask}
    (htoken : s.tokens[info.tokenId]?.isSome) (hnonneg : 0 ≤ task.tokenConsumed)
    (h : task.refundToken refused info s = .ok s') : TokenMove info (-task.tokenConsumed) s s' := by
  unfold refundToken at h
  split at h
  · rename_i hpay
    rw [increaseTokenQuota_ok (storageCall_eq_ok.mp h).2]
    exact chargeToken_move (by simpa using hpay.2) htoken
  rename_i hpay
  rw [← Except.ok.inj h]
  refine .none ?_ htoken
  by_cases hplay : info.isPlayground = true
  · exact .inl hplay
  · have hle : ¬ 0 < task.tokenConsumed := fun hpos => hpay ⟨hpos, hplay⟩
    exact .inr (by omega)

end ApiGateway
