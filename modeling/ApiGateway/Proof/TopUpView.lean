import ApiGateway.Lib.Runs
import ApiGateway.Service.TopUp
import ApiGateway.Proof.Wallet

/-!
# What belongs to one top-up order

A top-up order leaves its marks in its own row, wallet flows under its keys, commission records and
wallet postings. `OrderView` is all of that for one trade number. Whatever else the server does
leaves the view alone (`OnOrder`). The view has a money side and a commission side, and a
transaction on one side frames the other: `MoneyFrame` and `CommissionFrame`.
-/

namespace ApiGateway

open Table Decimal Runs List Posting

variable {cfg : Config} {no : String} {s s' : Store}
variable {s1 s2 s3 : Store} {key : Option FlowKey} {u : Nat} {q : Int}
variable {p : Posting} {k : FlowKey} {bizNo remark : String} {flowType : WalletFlowType}

/-! ## The view of an order -/

def FlowKey.ofTopUp (no : String) : FlowKey → Bool
  | .recharge n | .topupReverse n => n == no
  | .commission .topUp n _ _ | .commissionReverse .topUp n _ _ => n == no
  | _ => false

def Posting.ofTopUp (no : String) (p : Posting) : Bool :=
  match p.key with
  | some k => k.ofTopUp no
  | none => false

def CommissionRecord.ofTopUp (no : String) (r : CommissionRecord) : Bool :=
  r.sourceType == .topUp && r.sourceOrderNo == no

def topUpRow (no : String) (s : Store) : Option (Nat × TopUp) :=
  lookup (fun t : TopUp => t.tradeNo == no) s.topUps

def topUpFlows (no : String) (s : Store) (k : FlowKey) : Bool :=
  k.ofTopUp no && walletFlowExistsTx s (some k)

def topUpRecords (no : String) (s : Store) : List CommissionRecord :=
  s.commissionRecords.filter (CommissionRecord.ofTopUp no)

def topUpPostings (no : String) (s : Store) : List Posting :=
  s.journal.filter (Posting.ofTopUp no)

/-- The other transaction left everything about the order alone. -/
structure SameView (no : String) (s s' : Store) : Prop where
  row : topUpRow no s' = topUpRow no s
  flows : topUpFlows no s' = topUpFlows no s
  records : topUpRecords no s' = topUpRecords no s
  postings : topUpPostings no s' = topUpPostings no s

/-! ## Contributions -/

def topUpQuota (no : String) (s : Store) : ℚ := total (fun p => (p.quota : ℚ)) (topUpPostings no s)

def topUpBalance (no : String) (s : Store) : ℚ := total Posting.balance (topUpPostings no s)

def topUpCommission (no : String) (s : Store) : ℚ := total Posting.commission (topUpPostings no s)

/-- A commission `amount` written under `key`, as a credit of the order: its level,
its beneficiary and its amount. -/
def creditUnder (no : String) (key : Option FlowKey) (amount : ℚ) : Option (Nat × Nat × ℚ) :=
  match key with
  | some (.commission .topUp n level beneficiary) =>
    if n = no then some (level, beneficiary, amount) else none
  | _ => none

def Posting.credit (no : String) (p : Posting) : Option (Nat × Nat × ℚ) :=
  creditUnder no p.key p.commission

/-- The commission credits of the order, oldest first. -/
def topUpCredits (no : String) (s : Store) : List (Nat × Nat × ℚ) :=
  s.journal.filterMap (Posting.credit no)

theorem Posting.credit_eq_none (h : p.ofTopUp no = false) : p.credit no = none := by
  unfold ofTopUp FlowKey.ofTopUp at h
  unfold credit creditUnder
  split
  · rename_i hkey
    rw [hkey] at h
    simp only [beq_eq_false_iff_ne] at h
    rw [if_neg h]
  · rfl

theorem topUpCredits_eq (no : String) (s : Store) :
    topUpCredits no s = (topUpPostings no s).filterMap (credit no) := by
  unfold topUpCredits topUpPostings
  rw [filterMap_filter]
  congr 1
  funext p
  cases hp : p.ofTopUp no with
  | true => rw [if_pos rfl]
  | false => rw [credit_eq_none hp]; rfl

/-! ## Frames -/

/-- The money side of the order is as it was. -/
structure MoneyFrame (no : String) (s s' : Store) : Prop where
  row : topUpRow no s' = topUpRow no s
  recharge : topUpFlows no s' (.recharge no) = topUpFlows no s (.recharge no)
  reversal : topUpFlows no s' (.topupReverse no) = topUpFlows no s (.topupReverse no)
  quota : topUpQuota no s' = topUpQuota no s
  balance : topUpBalance no s' = topUpBalance no s

/-- The commission side of the order is as it was. -/
structure CommissionFrame (no : String) (s s' : Store) : Prop where
  records : topUpRecords no s' = topUpRecords no s
  paid : ∀ l b, topUpFlows no s' (.commission .topUp no l b) =
    topUpFlows no s (.commission .topUp no l b)
  takenBack : ∀ l b, topUpFlows no s' (.commissionReverse .topUp no l b) =
    topUpFlows no s (.commissionReverse .topUp no l b)
  commission : topUpCommission no s' = topUpCommission no s
  credits : topUpCredits no s' = topUpCredits no s

theorem MoneyFrame.refl (no : String) (s : Store) : MoneyFrame no s s := ⟨rfl, rfl, rfl, rfl, rfl⟩

theorem MoneyFrame.trans (h : MoneyFrame no s1 s2) (h' : MoneyFrame no s2 s3) :
    MoneyFrame no s1 s3 :=
  ⟨h'.row.trans h.row, h'.recharge.trans h.recharge, h'.reversal.trans h.reversal,
    h'.quota.trans h.quota, h'.balance.trans h.balance⟩

theorem CommissionFrame.trans (h : CommissionFrame no s1 s2) (h' : CommissionFrame no s2 s3) :
    CommissionFrame no s1 s3 :=
  ⟨h'.records.trans h.records, fun l b => (h'.paid l b).trans (h.paid l b),
    fun l b => (h'.takenBack l b).trans (h.takenBack l b), h'.commission.trans h.commission,
    h'.credits.trans h.credits⟩

theorem SameView.moneyFrame (h : SameView no s s') : MoneyFrame no s s' where
  row := h.row
  recharge := congrFun h.flows _
  reversal := congrFun h.flows _
  quota := by unfold topUpQuota; rw [h.postings]
  balance := by unfold topUpBalance; rw [h.postings]

theorem SameView.commissionFrame (h : SameView no s s') : CommissionFrame no s s' where
  records := h.records
  paid := fun _ _ => congrFun h.flows _
  takenBack := fun _ _ => congrFun h.flows _
  commission := by unfold topUpCommission; rw [h.postings]
  credits := by rw [topUpCredits_eq, topUpCredits_eq, h.postings]

/-! ## Writes under other keys -/

theorem SameView.refl (no : String) (s : Store) : SameView no s s := ⟨rfl, rfl, rfl, rfl⟩

theorem SameView.trans (h : SameView no s1 s2) (h' : SameView no s2 s3) : SameView no s1 s3 :=
  ⟨h'.row.trans h.row, h'.flows.trans h.flows, h'.records.trans h.records,
    h'.postings.trans h.postings⟩

/-- The key of a write that is none of the order's business. -/
def Foreign (no : String) (key : Option FlowKey) : Prop := ∀ k, key = some k → k.ofTopUp no = false

theorem foreign_none : Foreign no none := by
  intro k hk
  cases hk

theorem foreign_some (h : k.ofTopUp no = false) : Foreign no (some k) := by
  rintro _ ⟨⟩
  exact h

theorem Foreign.posting (h : Foreign no key) (hp : p.key = key) : p.ofTopUp no = false := by
  unfold ofTopUp
  rw [hp]
  cases key with
  | none => rfl
  | some k => exact h k rfl

theorem topUpPostings_append {ps : List Posting} (h : s'.journal = s.journal ++ ps)
    (hps : ∀ p ∈ ps, p.ofTopUp no = false) : topUpPostings no s' = topUpPostings no s := by
  unfold topUpPostings
  rw [h, filter_append]
  have hnil : ps.filter (ofTopUp no) = [] := by
    rw [filter_eq_nil_iff]
    intro p hp
    simp [hps p hp]
  rw [hnil, append_nil]

theorem saveAccount_sameView (hkey : Foreign no key) (u : Nat) (a : WalletAccount) (s : Store) :
    SameView no s (s.saveAccount u a key) := by
  refine ⟨rfl, rfl, rfl, topUpPostings_append rfl ?_⟩
  intro p hp
  rw [mem_singleton] at hp
  subst hp
  exact hkey.posting rfl

theorem WritesFlow.topUpFlows {key : FlowKey} (h : WritesFlow (some key) s s') :
    topUpFlows no s' k = (topUpFlows no s k || (k.ofTopUp no && decide (key = k))) := by
  obtain ⟨flow, hkey, rfl⟩ := h
  unfold ApiGateway.topUpFlows
  rw [walletFlowExistsTx_createWalletFlowTx, hkey, Bool.and_or_distrib_left]
  simp

theorem WritesFlow.sameView (hkey : Foreign no key) (h : WritesFlow key s s') :
    SameView no s s' := by
  obtain ⟨flow, hflow, rfl⟩ := h
  refine ⟨rfl, ?_, rfl, rfl⟩
  funext k
  unfold ApiGateway.topUpFlows
  rw [walletFlowExistsTx_createWalletFlowTx, hflow, Bool.and_or_distrib_left]
  have hnot : (k.ofTopUp no && decide (key = some k)) = false := by
    cases hk : k.ofTopUp no with
    | false => rfl
    | true =>
      refine decide_eq_false ?_
      intro h
      rw [hkey k h] at hk
      exact Bool.noConfusion hk
  rw [hnot, Bool.or_false]

theorem WalletWrites.sameView (hkey : Foreign no key) (h : WalletWrites u key s s') :
    SameView no s s' := by
  have hforeign : ∀ k, k = key ∨ k = none ∨ k = some (.legacyBalanceInit u) → Foreign no k := by
    rintro k (rfl | rfl | rfl)
    · exact hkey
    · exact foreign_none
    · exact foreign_some rfl
  induction h with
  | refl => exact SameView.refl no _
  | account _ hk a ih => exact ih.trans (saveAccount_sameView (hforeign _ hk) _ a _)
  | quota _ q ih =>
    refine ih.trans ⟨rfl, rfl, rfl, topUpPostings_append rfl ?_⟩
    intro p hp
    obtain rfl := mem_singleton.mp hp
    exact hkey.posting rfl
  | flow _ hk hw ih => exact ih.trans (hw.sameView (hforeign _ hk))

/-- The keyed balance operations under keys that are not the order's. -/
def WalletOp.foreign (no : String) : WalletOp → Prop
  | .creditBalanceByQuota _ _ _ _ _ key | .debitBalanceByQuota _ _ _ _ _ key => Foreign no key
  | _ => True

theorem WalletOp.exec_sameView (op : WalletOp) (hop : op.foreign no) (h : op.exec cfg s = .ok s') :
    SameView no s s' := by
  cases op with
  | ensureLegacyWalletBalance =>
    exact (ensureLegacyWalletBalanceTx_writes h).sameView foreign_none
  | creditBalanceByQuota =>
    exact (creditBalanceByQuotaTx_writes h).sameView hop
  | debitBalanceByQuota =>
    exact (debitBalanceByQuotaTx_writes h).sameView hop
  | debitBalanceByQuotaSilently =>
    exact (debitBalanceByQuotaSilentlyTx_writes h).sameView foreign_none
  | debitBalanceByQuotaSilentlyAllowDebt =>
    exact (debitBalanceByQuotaSilentlyAllowDebtTx_writes h).sameView foreign_none
  | creditBalanceByQuotaSilently =>
    exact (creditBalanceByQuotaSilentlyTx_writes h).sameView foreign_none
  | transferCommissionToBalance u _ timeString =>
    have hkey : Foreign no (some (.commissionTransfer u timeString)) := foreign_some rfl
    obtain ⟨-, -, s1, s2, gs, hs1, hw, rfl⟩ := transferCommissionToBalance_ok h
    have hmoved : SameView no s s2 := WalletWrites.sameView hkey
      (((ensureLegacyWalletBalanceTx_writes hs1).post _ _).flow (.inl rfl) hw)
    exact hmoved.trans ⟨rfl, rfl, rfl, rfl⟩

/-! ## Writes under the order's money keys -/

/-- A transaction on the money side: it writes balance `b` and quota `q` under `key`. -/
structure MoneyMove (no : String) (key : FlowKey) (b : ℚ) (q : Int) (s s' : Store) : Prop where
  row : topUpRow no s' = topUpRow no s
  flows : ∀ k, topUpFlows no s' k = (topUpFlows no s k || (k.ofTopUp no && decide (key = k)))
  quota : topUpQuota no s' = topUpQuota no s + q
  balance : topUpBalance no s' = topUpBalance no s + b

theorem FlowKey.ofTopUp_of_money {key : FlowKey} (h : key = .recharge no ∨ key = .topupReverse no) :
    key.ofTopUp no = true := by
  rcases h with rfl | rfl <;> simp [FlowKey.ofTopUp]

theorem postBalance_view {key : FlowKey} {b : ℚ}
    (hkey : key = .recharge no ∨ key = .topupReverse no)
    (h : WritesFlow (some key) ((s.saveAccount u { s.wallets u with balanceAmount := b }
      (some key)).addQuota u q (some key)) s') :
    MoneyMove no key (b - (s.wallets u).balanceAmount) q s s' ∧ CommissionFrame no s s' := by
  have hown := FlowKey.ofTopUp_of_money hkey
  have hflows : ∀ k, topUpFlows no s' k =
      (topUpFlows no s k || (k.ofTopUp no && decide (key = k))) := fun k => h.topUpFlows
  -- a commission key is neither of the two
  have hother : ∀ k, k ≠ .recharge no → k ≠ .topupReverse no →
      topUpFlows no s' k = topUpFlows no s k := by
    intro k h1 h2
    have hne : key ≠ k := by
      rintro rfl
      exact hkey.elim h1 h2
    rw [hflows k, decide_eq_false hne, Bool.and_false, Bool.or_false]
  obtain ⟨flow, -, rfl⟩ := h
  have hpost : topUpPostings no (createWalletFlowTx flow ((s.saveAccount u
      { s.wallets u with balanceAmount := b } (some key)).addQuota u q (some key))) =
      topUpPostings no s ++
        [{ userId := u, key := some key, balance := b - (s.wallets u).balanceAmount },
         { userId := u, key := some key, quota := q }] := by
    unfold topUpPostings
    simp [ofTopUp, hown]
  refine ⟨⟨rfl, hflows, ?_, ?_⟩, ⟨rfl, ?_, ?_, ?_, ?_⟩⟩
  · unfold topUpQuota
    rw [hpost]
    simp
  · unfold topUpBalance
    rw [hpost]
    simp
  · exact fun l b => hother _ (by simp) (by simp)
  · exact fun l b => hother _ (by simp) (by simp)
  · unfold topUpCommission
    rw [hpost]
    simp
  have hnone : ∀ p : Posting, p.key = some key → p.credit no = none := by
    intro p hp
    unfold credit
    rw [hp]
    rcases hkey with rfl | rfl <;> rfl
  rw [topUpCredits_eq, topUpCredits_eq, hpost]
  simp [hnone]

theorem MoneyMove.after {key : FlowKey} {b : ℚ} (hv : SameView no s s1)
    (h : MoneyMove no key b q s1 s') : MoneyMove no key b q s s' where
  row := h.row.trans hv.row
  flows := fun k => by rw [h.flows, hv.flows]
  quota := by rw [h.quota, hv.moneyFrame.quota]
  balance := by rw [h.balance, hv.moneyFrame.balance]

theorem walletFlowExistsTx_of_money {key : FlowKey}
    (hkey : key = .recharge no ∨ key = .topupReverse no) :
    walletFlowExistsTx s (some key) = topUpFlows no s key := by
  unfold topUpFlows
  rw [FlowKey.ofTopUp_of_money hkey, Bool.true_and]

theorem creditBalanceByQuotaTx_view (hq : 0 < q) (hfresh : topUpFlows no s (.recharge no) = false)
    (h : creditBalanceByQuotaTx cfg u q bizNo flowType remark (some (.recharge no)) s = .ok s') :
    MoneyMove no (.recharge no) (quotaToWalletAmount cfg q) q s s' ∧ CommissionFrame no s s' := by
  rcases creditBalanceByQuotaTx_ok h with ⟨-, hle | hflow⟩ | ⟨-, -, s1, hs1, hw⟩
  · exact absurd hq (not_lt.mpr hle)
  · rw [walletFlowExistsTx_of_money (.inl rfl), hfresh] at hflow
    cases hflow
  have hv : SameView no s s1 := (ensureLegacyWalletBalanceTx_writes hs1).sameView foreign_none
  obtain ⟨hmove, hcomm⟩ := postBalance_view (.inl rfl) hw
  rw [add_sub_cancel_left] at hmove
  exact ⟨hmove.after hv, hv.commissionFrame.trans hcomm⟩

theorem debitBalanceByQuotaTx_view
    (hq : 0 < q) (hfresh : topUpFlows no s (.topupReverse no) = false)
    (h : debitBalanceByQuotaTx cfg u q bizNo flowType remark (some (.topupReverse no)) s = .ok s') :
    ∃ s1, ensureLegacyWalletBalanceTx cfg u s = .ok s1 ∧
      quotaToWalletAmount cfg q ≤ (s1.wallets u).balanceAmount + walletAmountEpsilon ∧
      MoneyMove no (.topupReverse no)
        (max 0 ((s1.wallets u).balanceAmount - quotaToWalletAmount cfg q) -
          (s1.wallets u).balanceAmount) (-q) s s' ∧
      CommissionFrame no s s' := by
  rcases debitBalanceByQuotaTx_ok h with ⟨-, hle | hflow⟩ | ⟨-, -, s1, hs1, hcover, hw⟩
  · exact absurd hq (not_lt.mpr hle)
  · rw [walletFlowExistsTx_of_money (.inr rfl), hfresh] at hflow
    cases hflow
  · have hv : SameView no s s1 := (ensureLegacyWalletBalanceTx_writes hs1).sameView foreign_none
    obtain ⟨hmove, hcomm⟩ := postBalance_view (.inr rfl) hw
    exact ⟨s1, hs1, hcover, hmove.after hv, hv.commissionFrame.trans hcomm⟩

end ApiGateway
