import ApiGateway.Service.PiggyHandlers
import ApiGateway.Proof.Commissions

/-!
# What a withdraw transaction can do

The some thirty withdraw transactions move money and orders in only a handful of ways. `Effect`
lists them, and `WithdrawTx.exec_effect` says that every committed transaction is a sequence of
them; conservation, settlement and authorisation are then proved by cases on `Effect`.

`early no` marks the one move that authorisation has to exclude: a payment callback which arrived
before order `no` was reviewed takes it out of `pending`.
-/

namespace ApiGateway

open Table Decimal

variable {o : WithdrawOrder} {key : FlowKey} {id u : Nat} {f : WithdrawOrder → WithdrawOrder}
  {no remark : String} {now : Int} {sourceType : CommissionSourceType}
variable {o' : WithdrawOrder} {reason : String}

/-! ## Open orders and settling keys -/

/-- The order still holds frozen commission. `failed` is a retry state for a manual order and final
for a provider order. -/
def WithdrawOrder.isOpen (o : WithdrawOrder) : Bool :=
  match o.provider with
  | .manual => o.status == .pending || o.status == .approved || o.status == .failed
  | .piggyLaborV3 => !isPiggyTerminalStatus o.status

/-- A manual order only ever has these statuses. -/
def WithdrawOrder.ManualStatus (o : WithdrawOrder) : Prop :=
  o.status ∈ [WithdrawStatus.pending, .approved, .failed, .paid, .rejected]

/-- The key under which the commission of provider order `no` leaves `frozen`. -/
def FlowKey.settlesOrder (no : String) : FlowKey → Bool
  | .piggyWithdrawReject n | .piggyWithdrawSuccess n | .piggyWithdrawFailed n
  | .piggyWithdrawCancel n => n == no
  | _ => false

def FlowKey.isTransfer : FlowKey → Bool
  | .commissionTransfer _ _ => true
  | _ => false

/-! ## Totals -/

/-- Commission of user `u` taken back by reversals. -/
def reversedCommissions (u : Nat) (s : Store) : ℚ :=
  total (fun r => if r.beneficiaryUserId = u ∧ r.status = .reversed then r.amount else 0)
    s.commissionRecords

/-- Commission a posting moved into the balance. -/
def Posting.transferred (u : Nat) (p : Posting) : ℚ :=
  if p.userId = u ∧ (p.key.map FlowKey.isTransfer).getD false then -p.commission else 0

def transferredCommissions (u : Nat) (s : Store) : ℚ := total (Posting.transferred u) s.journal

/-! ## Moves of one order row -/

/-- The columns that identify an order and its money. -/
structure Kept (o o' : WithdrawOrder) : Prop where
  userId : o'.userId = o.userId
  withdrawNo : o'.withdrawNo = o.withdrawNo
  amount : o'.amount = o.amount
  provider : o'.provider = o.provider

theorem Kept.refl (o : WithdrawOrder) : Kept o o := ⟨rfl, rfl, rfl, rfl⟩

theorem Kept.trans {a b c : WithdrawOrder} (h : Kept a b) (h' : Kept b c) : Kept a c :=
  ⟨h'.userId.trans h.userId, h'.withdrawNo.trans h.withdrawNo, h'.amount.trans h.amount,
    h'.provider.trans h.provider⟩

/-- A move that neither opens nor closes the order. -/
structure RowMove (early : String → Prop) (o o' : WithdrawOrder) : Prop extends Kept o o' where
  isOpen : o'.isOpen = o.isOpen
  closed : o.provider = .piggyLaborV3 → o.isOpen = false → o'.status = o.status
  manual : o.provider = .manual → o.ManualStatus → o'.ManualStatus
  waiting : o.provider = .piggyLaborV3 → o.status = .pending →
    o'.status = .pending ∨ early o.withdrawNo

theorem RowMove.refl (early : String → Prop) (o : WithdrawOrder) : RowMove early o o :=
  ⟨Kept.refl o, rfl, fun _ _ => rfl, fun _ h => h, fun _ h => Or.inl h⟩

theorem RowMove.active {early : String → Prop} (hk : Kept o o')
    (hp : o.provider = .piggyLaborV3) (ho : isPiggyTerminalStatus o.status = false)
    (ho' : isPiggyTerminalStatus o'.status = false)
    (hw : o.status = .pending → o'.status = .pending ∨ early o.withdrawNo) :
    RowMove early o o' := by
  have hp' := hk.provider.trans hp
  refine ⟨hk, ?_, ?_, ?_, fun _ h => hw h⟩
  · simp [WithdrawOrder.isOpen, hp, hp', ho, ho']
  · intro _ hc
    simp [WithdrawOrder.isOpen, hp, ho] at hc
  · intro hm
    rw [hp] at hm
    cases hm

theorem RowMove.same {early : String → Prop} (hk : Kept o o') (hs : o'.status = o.status) :
    RowMove early o o' := by
  refine ⟨hk, ?_, fun _ _ => hs, ?_, fun _ h => Or.inl (hs.trans h)⟩
  · simp [WithdrawOrder.isOpen, hk.provider, hs]
  · intro _ h
    simpa [WithdrawOrder.ManualStatus, hs] using h

/-! ## Effects -/

/-- Wallet rows that differ in nothing but the balance. -/
structure SameCommission (a b : WalletAccount) : Prop where
  commission : b.commissionAmount = a.commissionAmount
  frozen : b.frozenCommissionAmount = a.frozenCommissionAmount
  totalCommission : b.totalCommissionAmount = a.totalCommissionAmount
  totalWithdraw : b.totalWithdrawAmount = a.totalWithdrawAmount

theorem SameCommission.refl (a : WalletAccount) : SameCommission a a := ⟨rfl, rfl, rfl, rfl⟩

/-- A posting that is about no commission and settles no order. -/
structure Posting.Plain (p : Posting) : Prop where
  commission : p.commission = 0
  key : ∀ k, p.key = some k → ∀ no, k.settlesOrder no = false

/-- The wallet row after an order of amount `a` was settled. -/
def settledAccount (paid : Bool) (a : ℚ) (w : WalletAccount) : WalletAccount :=
  if paid then { w with
    frozenCommissionAmount := max 0 (w.frozenCommissionAmount - a)
    totalWithdrawAmount := w.totalWithdrawAmount + a }
  else { w with
    frozenCommissionAmount := max 0 (w.frozenCommissionAmount - a)
    commissionAmount := w.commissionAmount + a }

/-- How an order is closed: paid out, or its amount given back. -/
structure Closing (paid : Bool) (key : FlowKey) (o o' : WithdrawOrder) : Prop extends Kept o o' where
  wasOpen : (o.provider = .manual → o.ManualStatus) → o.isOpen = true
  nowClosed : o'.isOpen = false
  manual : o.provider = .manual → o'.ManualStatus ∧ ∀ no, key.settlesOrder no = false
  piggy : o.provider = .piggyLaborV3 →
    key.settlesOrder o.withdrawNo = true ∧ (paid = true ↔ o'.status = .paid)

inductive Effect (early : String → Prop) : Store → Store → Prop where
  /-- Nothing that concerns commission or orders. -/
  | side {s s' : Store} (wallets : ∀ u, SameCommission (s.wallets u) (s'.wallets u))
      (orders : s'.withdrawOrders = s.withdrawOrders) (trace : s'.trace = s.trace)
      (reversed : ∀ u, reversedCommissions u s' = reversedCommissions u s)
      (journal : ∃ ps, s'.journal = s.journal ++ ps ∧ ∀ p ∈ ps, p.Plain) : Effect early s s'
  /-- Order rows move without opening or closing. -/
  | orders {s : Store} (ys : List WithdrawOrder) (g : Nat → WithdrawOrder → WithdrawOrder)
      (hys : ∀ i, ys[i]? = s.withdrawOrders[i]?.map (g i))
      (hg : ∀ i o, s.withdrawOrders[i]? = some o → RowMove early o (g i o)) :
      Effect early s { s with withdrawOrders := ys }
  /-- An admin approves a provider order. -/
  | approve {s : Store} (id : Nat) (o : WithdrawOrder) (f : WithdrawOrder → WithdrawOrder)
      (hget : s.withdrawOrders[id]? = some o) (hp : o.provider = .piggyLaborV3)
      (hs : o.status = .pending) (hk : Kept o (f o)) (hs' : (f o).status = .approved) :
      Effect early s { s.updateWithdrawOrder id f with trace := s.trace ++ [.approved o.withdrawNo] }
  /-- A new order freezes its amount. -/
  | freeze {s : Store} (order : WithdrawOrder) (key : FlowKey) (hpos : 0 < order.amount)
      (hs : order.status = .pending)
      (hnew : ∀ o ∈ s.withdrawOrders, o.withdrawNo ≠ order.withdrawNo)
      (hkey : ∀ no, key.settlesOrder no = false) (htr : key.isTransfer = false) :
      Effect early s { s.saveAccount order.userId { s.wallets order.userId with
          commissionAmount := (s.wallets order.userId).commissionAmount - order.amount
          frozenCommissionAmount := (s.wallets order.userId).frozenCommissionAmount + order.amount }
          (some key) with
        withdrawOrders := s.withdrawOrders ++ [order] }
  /-- An open order is closed and its frozen amount moves. -/
  | settle {s : Store} (paid : Bool) (id : Nat) (o : WithdrawOrder) (a : ℚ) (key : FlowKey)
      (f : WithdrawOrder → WithdrawOrder) (hget : s.withdrawOrders[id]? = some o)
      (ha : 0 < o.amount → a = o.amount) (hc : Closing paid key o (f o))
      (htr : key.isTransfer = false) :
      Effect early s ((s.saveAccount o.userId (settledAccount paid a (s.wallets o.userId))
        (some key)).updateWithdrawOrder id f)
  /-- A commission is credited. -/
  | income {s : Store} (u : Nat) (a : ℚ) (key : FlowKey) (hkey : ∀ no, key.settlesOrder no = false)
      (htr : key.isTransfer = false) :
      Effect early s (s.saveAccount u { s.wallets u with
        commissionAmount := (s.wallets u).commissionAmount + a
        totalCommissionAmount := (s.wallets u).totalCommissionAmount + a } (some key))
  /-- A settled commission record is taken back. -/
  | reverse {s : Store} (id : Nat) (r : CommissionRecord) (key : FlowKey)
      (f : CommissionRecord → CommissionRecord) (hget : s.commissionRecords[id]? = some r)
      (hr : r.status ≠ .reversed) (hf : (f r).status = .reversed) (hfa : (f r).amount = r.amount)
      (hfb : (f r).beneficiaryUserId = r.beneficiaryUserId)
      (hkey : ∀ no, key.settlesOrder no = false) (htr : key.isTransfer = false) :
      Effect early s { s.saveAccount r.beneficiaryUserId { s.wallets r.beneficiaryUserId with
          commissionAmount := (s.wallets r.beneficiaryUserId).commissionAmount - r.amount }
          (some key) with
        commissionRecords := s.commissionRecords.modify id f }
  /-- Commission moves into the balance. -/
  | transfer {s : Store} (u : Nat) (a : ℚ) (timeString : String) :
      Effect early s (s.saveAccount u { s.wallets u with
        commissionAmount := (s.wallets u).commissionAmount - a
        balanceAmount := (s.wallets u).balanceAmount + a } (some (.commissionTransfer u timeString)))
  | trans {s s' s'' : Store} (h : Effect early s s') (h' : Effect early s' s'') : Effect early s s''

variable {early : String → Prop} {cfg : Config} {s s' : Store}

theorem Effect.refl (s : Store) : Effect early s s :=
  .side (fun _ => SameCommission.refl _) rfl rfl (fun _ => rfl) ⟨[], by simp, by simp⟩

/-! ## Effects of the building blocks -/

theorem createWalletFlowTx_effect (flow : WalletFlow) :
    Effect early s (createWalletFlowTx flow s) :=
  .side (fun _ => SameCommission.refl _) rfl rfl (fun _ => rfl) ⟨[], by simp, by simp⟩

theorem WritesFlow.effect {key : Option FlowKey} {s1 : Store} (h : Effect early s s1)
    (hw : WritesFlow key s1 s') : Effect early s s' := by
  obtain ⟨flow, -, rfl⟩ := hw
  exact .trans h (createWalletFlowTx_effect flow)

theorem addQuota_effect {q : Int} {key : Option FlowKey}
    (hkey : ∀ k, key = some k → ∀ no, k.settlesOrder no = false) :
    Effect early s (s.addQuota u q key) := by
  refine .side (fun _ => SameCommission.refl _) rfl rfl (fun _ => rfl) ⟨_, rfl, ?_⟩
  intro p hp
  rw [List.mem_singleton] at hp
  subst hp
  exact ⟨rfl, hkey⟩

theorem saveBalance_effect {b : ℚ} {key : Option FlowKey}
    (hkey : ∀ k, key = some k → ∀ no, k.settlesOrder no = false) :
    Effect early s (s.saveAccount u { s.wallets u with balanceAmount := b } key) := by
  refine .side ?_ rfl rfl (fun _ => rfl) ⟨_, rfl, ?_⟩
  · intro v
    by_cases hv : v = u
    · subst hv
      simp only [Store.saveAccount_wallets, Function.update_self]
      exact ⟨rfl, rfl, rfl, rfl⟩
    · simp only [Store.saveAccount_wallets, Function.update_of_ne hv]
      exact SameCommission.refl _
  · intro p hp
    rw [List.mem_singleton] at hp
    subst hp
    exact ⟨sub_self _, hkey⟩

theorem ensureLegacyWalletBalanceTx_effect (h : ensureLegacyWalletBalanceTx cfg u s = .ok s') :
    Effect early s s' := by
  obtain ⟨-, rfl | hinit⟩ := ensureLegacyWalletBalanceTx_ok h
  · exact Effect.refl _
  · refine hinit.store.effect (saveBalance_effect ?_)
    rintro k ⟨⟩ no
    rfl

theorem RowMove.modify
    (hget : s.withdrawOrders[id]? = some o) (hf : RowMove early o (f o)) (i : Nat)
    (a : WithdrawOrder) (ha : s.withdrawOrders[i]? = some a) :
    RowMove early a (if id = i then f a else a) := by
  split
  · rename_i hi
    subst hi
    rw [hget, Option.some.injEq] at ha
    subst ha
    exact hf
  · exact RowMove.refl early a

theorem updateWithdrawOrder_effect (hget : s.withdrawOrders[id]? = some o)
    (hf : RowMove early o (f o)) : Effect early s (s.updateWithdrawOrder id f) :=
  .orders _ _ (List.getElem?_modify f id _) (RowMove.modify hget hf)

theorem updateOrdersWhere_effect {p : Nat → WithdrawOrder → Bool}
    (hf : ∀ i o, p i o = true → RowMove early o (f o)) :
    Effect early s (updateOrdersWhere p f s).1 := by
  refine .orders _ (fun i a => if p i a then f a else a) (fun i => getElem?_updateWhere) ?_
  intro i a _
  split
  · rename_i hp
    exact hf i a hp
  · exact RowMove.refl early a

theorem freezeCommissionTx_effect {order : WithdrawOrder}
    (h : freezeCommissionTx order order.amount key remark s = .ok (s', id))
    (hpos : 0 < order.amount) (hs : order.status = .pending)
    (hkey : ∀ no, key.settlesOrder no = false) (htr : key.isTransfer = false) :
    Effect early s s' := by
  unfold freezeCommissionTx at h
  simp only [bind_eq_ok, getOrCreateWalletAccountTx_eq_ok, failIf_eq_ok] at h
  obtain ⟨a, ⟨-, rfl⟩, -, -, -, hnew, rfl, -⟩ := h
  refine .trans (.freeze order key hpos hs ?_ hkey htr) (createWalletFlowTx_effect _)
  intro o ho hno
  exact hnew (List.any_eq_true.mpr ⟨o, ho, by simp [hno]⟩)

theorem returnFrozenCommissionTx_effect {a : ℚ}
    (h : returnFrozenCommissionTx id o a key f remark s = .ok s')
    (hget : s.withdrawOrders[id]? = some o) (ha : 0 < o.amount → a = o.amount)
    (hc : Closing false key o (f o)) (htr : key.isTransfer = false) : Effect early s s' := by
  unfold returnFrozenCommissionTx at h
  simp only [bind_eq_ok, getOrCreateWalletAccountTx_eq_ok, pure_eq_ok] at h
  obtain ⟨w, ⟨-, rfl⟩, rfl⟩ := h
  exact .trans (.settle false id o a key f hget ha hc htr) (createWalletFlowTx_effect _)

theorem payFrozenCommissionTx_effect {a : ℚ}
    (h : payFrozenCommissionTx id o a key f remark s = .ok s')
    (hget : s.withdrawOrders[id]? = some o) (ha : 0 < o.amount → a = o.amount)
    (hc : Closing true key o (f o)) (htr : key.isTransfer = false) : Effect early s s' := by
  unfold payFrozenCommissionTx at h
  simp only [bind_eq_ok, getOrCreateWalletAccountTx_eq_ok, pure_eq_ok] at h
  obtain ⟨w, ⟨-, rfl⟩, -, -, rfl⟩ := h
  exact .trans (.settle true id o a key f hget ha hc htr) (createWalletFlowTx_effect _)

/-! ## Commission transactions -/

theorem appendRecord_effect (r : CommissionRecord) (hr : r.status ≠ .reversed) :
    Effect early s { s with commissionRecords := s.commissionRecords ++ [r] } := by
  refine .side (fun _ => SameCommission.refl _) rfl rfl ?_ ⟨[], by simp, by simp⟩
  intro u
  simp [reversedCommissions, hr]

theorem settleCommissionRuleTx_effect {fault : CommissionFault} {params : CreateCommissionParams} :
    Effect early s (settleCommissionRuleTx fault params now s) := by
  rcases settleCommissionRuleTx_cases fault params now s with h | ⟨-, ⟨e, h⟩ | ⟨-, h⟩⟩
  · rw [h]
    exact Effect.refl s
  · rw [h]
    exact appendRecord_effect _ (by simp [CreateCommissionParams.record])
  · refine .trans (appendRecord_effect (params.record .settled "" now)
      (by simp [CreateCommissionParams.record])) ?_
    rcases creditCommissionTx_ok h with ⟨hsame, -⟩ | ⟨-, -, -, hw⟩
    · rw [hsame]
      exact Effect.refl _
    · exact hw.effect (.income _ _ _ (fun _ => rfl) rfl)

theorem reverseCommissionsTx_effect (h : reverseCommissionsTx sourceType no reason now s = .ok s') :
    Effect early s s' :=
  reverseCommissionsTx_rule Effect.refl .trans (fun {_ _ r id} hget _ _ hst htaken =>
    htaken.effect (.reverse id r _ _ hget (by simp [hst]) rfl rfl rfl (fun _ => rfl) rfl)) h

theorem transferCommissionToBalance_effect {amount : ℚ} {timeString : String}
    (h : transferCommissionToBalance cfg u amount timeString s = .ok s') : Effect early s s' := by
  obtain ⟨-, -, s1, s2, gs, hs1, hw, rfl⟩ := transferCommissionToBalance_ok h
  have hmoved : Effect early s s2 := by
    refine hw.effect (.trans (ensureLegacyWalletBalanceTx_effect hs1) (.trans
      (.transfer u amount timeString) (addQuota_effect ?_)))
    rintro k ⟨⟩ no
    rfl
  exact .trans hmoved (.side (fun _ => SameCommission.refl _) rfl rfl (fun _ => rfl)
    ⟨[], by simp, by simp⟩)

end ApiGateway
