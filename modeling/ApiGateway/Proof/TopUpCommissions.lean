import ApiGateway.Proof.TopUpView
import ApiGateway.Proof.WithdrawEffects

/-!
# The commissions of one top-up order

The commissions of an order are kept in commission records, in wallet flows under commission keys,
and in the wallet postings. `CommissionInv` ties the three together: the records of an order are
told apart by level and beneficiary, the flows only ever belong to recorded commissions, and so the
postings are exactly the records. It survives any settlement of the order, whatever its rules, and
any reversal; a reversal leaves no settled record behind.
-/

namespace ApiGateway

open Table Decimal List CommissionRecord CreateCommissionParams MoneyFrame

variable {cfg : Config} {no : String} {s s' : Store}
variable {r : CommissionRecord} {params : CreateCommissionParams} {now : Int}
  {reason sourceOrderNo : String} {sourceType : CommissionSourceType}
variable {e : String} {rs : List CommissionRecord} {faults : CommissionFaults} {topUp : TopUp}

/-! ## The invariant -/

/-- What a commission record is identified by, inside one order. -/
def CommissionRecord.slot (r : CommissionRecord) : Nat × Nat := (r.level, r.beneficiaryUserId)

/-- The part of a record that is still paid out. -/
def CommissionRecord.due (r : CommissionRecord) : ℚ := if r.status = .settled then r.amount else 0

/-- The credit a record stands for, if it was ever settled. -/
def CommissionRecord.paid (r : CommissionRecord) : Option (Nat × Nat × ℚ) :=
  if r.status = .settled ∨ r.status = .reversed then some (r.level, r.beneficiaryUserId, r.amount)
  else none

structure CommissionInv (no : String) (s : Store) : Prop where
  /-- One record for a level and a beneficiary. -/
  unique : ((topUpRecords no s).map slot).Nodup
  /-- A commission flow has a record. -/
  recorded : ∀ l b, topUpFlows no s (.commission .topUp no l b) = true →
    ∃ r ∈ topUpRecords no s, r.slot = (l, b)
  /-- A reversal flow has a record that is reversed. -/
  takenBack : ∀ l b, topUpFlows no s (.commissionReverse .topUp no l b) = true →
    ∃ r ∈ topUpRecords no s, r.slot = (l, b) ∧ r.status = .reversed
  /-- The commissions of the order add up to the settled records. -/
  net : topUpCommission no s = total due (topUpRecords no s)
  /-- The credits of the order are the records that were settled. -/
  credits : topUpCredits no s = (topUpRecords no s).filterMap paid

/-- No commission of the order is settled. -/
def NoneSettled (no : String) (s : Store) : Prop := ∀ r ∈ topUpRecords no s, r.status ≠ .settled

theorem CommissionInv.frame (h : CommissionInv no s) (hf : CommissionFrame no s s') :
    CommissionInv no s' where
  unique := by rw [hf.records]; exact h.unique
  recorded := fun l b hl => by
    rw [hf.paid] at hl
    rw [hf.records]
    exact h.recorded l b hl
  takenBack := fun l b hl => by
    rw [hf.takenBack] at hl
    rw [hf.records]
    exact h.takenBack l b hl
  net := by rw [hf.commission, hf.records]; exact h.net
  credits := by rw [hf.credits, hf.records]; exact h.credits

theorem CommissionInv.notTakenBack (h : CommissionInv no s)
    (hr : r ∈ topUpRecords no s) (hst : r.status = .settled) :
    topUpFlows no s (.commissionReverse .topUp no r.level r.beneficiaryUserId) = false := by
  rw [Bool.eq_false_iff]
  intro hflow
  obtain ⟨r', hr', hslot, hrev⟩ := h.takenBack _ _ hflow
  have heq : r' = r := inj_on_of_nodup_map h.unique hr' hr hslot
  rw [heq, hst] at hrev
  cases hrev

/-! ## Settlement -/

theorem slot_fresh (hsrc : params.sourceType = .topUp)
    (hno : params.sourceOrderNo = no) (h : s.commissionRecords.any params.matchesRecord = false) :
    ∀ r ∈ topUpRecords no s, r.slot ≠ (params.level, params.beneficiaryUserId) := by
  intro r hr hslot
  obtain ⟨hmem, hown⟩ := mem_filter.mp hr
  simp only [ofTopUp] at hown
  simp only [slot, Prod.mk.injEq] at hslot
  have hmatch : params.matchesRecord r = true := by
    simp [matchesRecord, hown, hslot, hsrc, hno]
  rw [any_eq_false] at h
  exact h r hmem hmatch

theorem topUpRecords_append (hown : r.ofTopUp no = true)
    (h : s'.commissionRecords = s.commissionRecords ++ [r]) :
    topUpRecords no s' = topUpRecords no s ++ [r] := by
  unfold topUpRecords
  rw [h]
  simp [hown]

theorem CreateCommissionParams.record_ofTopUp
    (hsrc : params.sourceType = .topUp) (hno : params.sourceOrderNo = no) {st : CommissionStatus}
    {t : Int} : (params.record st e t).ofTopUp no = true := by
  simp [ofTopUp, record, hsrc, hno]

theorem slots_append (h : CommissionInv no s)
    (hfresh : ∀ r' ∈ topUpRecords no s, r'.slot ≠ r.slot) :
    ((topUpRecords no s ++ [r]).map slot).Nodup := by
  rw [map_append, nodup_append]
  refine ⟨h.unique, by simp, ?_⟩
  intro x hx y hy
  obtain ⟨r', hr', rfl⟩ := mem_map.mp hx
  simp only [map_cons, map_nil, mem_singleton] at hy
  subst hy
  exact hfresh r' hr'

theorem failedRecord_inv (hsrc : params.sourceType = .topUp)
    (hno : params.sourceOrderNo = no) (h : CommissionInv no s)
    (hany : s.commissionRecords.any params.matchesRecord = false)
    (hs' : s' = { s with commissionRecords := s.commissionRecords ++ [params.record .failed e 0] }) :
    CommissionInv no s' ∧ MoneyFrame no s s' := by
  have hrec : topUpRecords no s' = topUpRecords no s ++ [params.record .failed e 0] :=
    topUpRecords_append (record_ofTopUp hsrc hno) (by rw [hs'])
  subst hs'
  refine ⟨⟨?_, ?_, ?_, ?_, ?_⟩, ⟨rfl, rfl, rfl, rfl, rfl⟩⟩
  · rw [hrec]
    exact slots_append h (slot_fresh hsrc hno hany)
  · intro l b hl
    obtain ⟨r, hr, hslot⟩ := h.recorded l b hl
    exact ⟨r, by rw [hrec]; exact mem_append_left _ hr, hslot⟩
  · intro l b hl
    obtain ⟨r, hr, hslot⟩ := h.takenBack l b hl
    exact ⟨r, by rw [hrec]; exact mem_append_left _ hr, hslot⟩
  · have hdue : (params.record .failed e 0).due = 0 := by
      simp [due, record]
    rw [hrec, total_append, total_cons, total_nil, hdue, add_zero, add_zero]
    exact h.net
  have hpaid : (params.record .failed e 0).paid = none := by
    simp [paid, record]
  rw [hrec, filterMap_append, filterMap_cons_none hpaid, filterMap_nil, append_nil]
  exact h.credits

/-- A commission posting of the order: amount `a` under commission key `key`. -/
structure CommissionPost (no : String) (key : FlowKey) (a : ℚ) (s s' : Store) : Prop where
  money : MoneyFrame no s s'
  flows : ∀ k, topUpFlows no s' k = (topUpFlows no s k || (k.ofTopUp no && decide (key = k)))
  commission : topUpCommission no s' = topUpCommission no s + a
  credits : topUpCredits no s' = topUpCredits no s ++
    (creditUnder no (some key) a).toList

theorem postCommission_view {key : FlowKey} {u : Nat} {a : ℚ} {w : WalletAccount}
    (hown : key.ofTopUp no = true) (h1 : key ≠ .recharge no) (h2 : key ≠ .topupReverse no)
    (h : WritesFlow (some key) { s.saveAccount u w (some key) with commissionRecords := rs } s')
    (hb : w.balanceAmount = (s.wallets u).balanceAmount)
    (ha : w.commissionAmount = (s.wallets u).commissionAmount + a) :
    CommissionPost no key a s s' := by
  have hflows : ∀ k, topUpFlows no s' k =
      (topUpFlows no s k || (k.ofTopUp no && decide (key = k))) := fun k => h.topUpFlows
  obtain ⟨p, hp, hkey, hbal, hcom, hquota⟩ : ∃ p : Posting,
      topUpPostings no s' = topUpPostings no s ++ [p] ∧ p.key = some key ∧ p.balance = 0 ∧
      p.commission = a ∧ p.quota = 0 := by
    obtain ⟨-, -, rfl⟩ := h
    refine ⟨{
      userId := u
      key := some key
      balance := w.balanceAmount - (s.wallets u).balanceAmount
      commission := w.commissionAmount - (s.wallets u).commissionAmount
      frozen := w.frozenCommissionAmount - (s.wallets u).frozenCommissionAmount
      totalCommission := w.totalCommissionAmount - (s.wallets u).totalCommissionAmount
      totalWithdraw := w.totalWithdrawAmount - (s.wallets u).totalWithdrawAmount },
      ?_, rfl, sub_eq_zero.mpr hb, sub_eq_of_eq_add' ha, rfl⟩
    unfold topUpPostings
    simp [Posting.ofTopUp, hown]
  refine ⟨⟨?_, ?_, ?_, ?_, ?_⟩, hflows, ?_, ?_⟩
  · obtain ⟨-, -, rfl⟩ := h
    rfl
  · rw [hflows, decide_eq_false h1, Bool.and_false, Bool.or_false]
  · rw [hflows, decide_eq_false h2, Bool.and_false, Bool.or_false]
  · unfold topUpQuota
    rw [hp]
    simp [hquota]
  · unfold topUpBalance
    rw [hp]
    simp [hbal]
  · unfold topUpCommission
    rw [hp]
    simp [hcom]
  rw [topUpCredits_eq, topUpCredits_eq, hp]
  have hcredit : p.credit no = creditUnder no (some key) a := by
    unfold Posting.credit
    rw [hkey, hcom]
  rw [← hcredit]
  cases hc : p.credit no <;> simp [hc]

/-- **A paid commission is one record, one flow and one posting.** -/
theorem CommissionInv.credit (h : CommissionInv no s)
    (hfresh : ∀ r' ∈ topUpRecords no s, r'.slot ≠ r.slot) (hst : r.status = .settled)
    (hrec : topUpRecords no s' = topUpRecords no s ++ [r])
    (hp : CommissionPost no (.commission .topUp no r.level r.beneficiaryUserId) r.amount s s') :
    CommissionInv no s' where
  unique := by rw [hrec]; exact slots_append h hfresh
  recorded := fun l b hl => by
    rw [hrec]
    rw [hp.flows, Bool.or_eq_true] at hl
    rcases hl with hl | hl
    · obtain ⟨r', hr', hslot⟩ := h.recorded l b hl
      exact ⟨r', mem_append_left _ hr', hslot⟩
    · simp only [Bool.and_eq_true, decide_eq_true_eq, FlowKey.commission.injEq, true_and] at hl
      exact ⟨r, mem_append_right _ mem_cons_self, Prod.ext hl.2.1 hl.2.2⟩
  takenBack := fun l b hl => by
    rw [hp.flows, decide_eq_false (by simp), Bool.and_false, Bool.or_false] at hl
    obtain ⟨r', hr', hslot⟩ := h.takenBack l b hl
    rw [hrec]
    exact ⟨r', mem_append_left _ hr', hslot⟩
  net := by
    rw [hrec, hp.commission, h.net, total_append, total_cons, total_nil]
    simp [due, hst]
  credits := by
    rw [hrec, hp.credits, h.credits]
    simp [creditUnder, paid, hst]

/-- The record is the one these parameters ask for. -/
def CreateCommissionParams.Recorded (params : CreateCommissionParams) (r : CommissionRecord) :
    Prop :=
  r.level = params.level ∧ r.beneficiaryUserId = params.beneficiaryUserId ∧
    r.amount = params.amount

theorem settleCommissionRuleTx_inv {fault : CommissionFault}
    (hsrc : params.sourceType = .topUp) (hno : params.sourceOrderNo = no)
    (h : CommissionInv no s) (hs' : settleCommissionRuleTx fault params now s = s') :
    CommissionInv no s' ∧ MoneyFrame no s s' ∧
      ∀ r ∈ topUpRecords no s', r ∈ topUpRecords no s ∨ params.Recorded r := by
  have hnew : ∀ st e t, topUpRecords no s' = topUpRecords no s ++ [params.record st e t] →
      ∀ r ∈ topUpRecords no s', r ∈ topUpRecords no s ∨ params.Recorded r := by
    intro st e t hrec r hr
    rw [hrec, mem_append, mem_singleton] at hr
    rcases hr with hr | rfl
    · exact .inl hr
    · exact .inr ⟨rfl, rfl, rfl⟩
  have hcases := settleCommissionRuleTx_cases fault params now s
  rw [hs'] at hcases
  rcases hcases with rfl | ⟨hany, ⟨e, he⟩ | ⟨hpos, hx⟩⟩
  · exact ⟨h, refl no _, fun r hr => .inl hr⟩
  · obtain ⟨hinv, hmoney⟩ := failedRecord_inv hsrc hno h hany he
    refine ⟨hinv, hmoney, hnew .failed e 0 (topUpRecords_append ?_ (by rw [he]))⟩
    exact record_ofTopUp hsrc hno
  have hfresh := slot_fresh hsrc hno hany
  rw [hsrc, hno] at hx
  rcases creditCommissionTx_ok hx with ⟨-, hle | hflow⟩ | ⟨-, -, -, hw⟩
  · exact absurd hpos (not_lt.mpr hle)
  · -- a flow under the key would have a record in the slot
    have hown : topUpFlows no s
        (.commission .topUp no params.level params.beneficiaryUserId) = true := by
      unfold topUpFlows
      rw [Bool.and_eq_true]
      exact ⟨by simp [FlowKey.ofTopUp], hflow⟩
    obtain ⟨r, hr, hslot⟩ := h.recorded _ _ hown
    exact absurd hslot (hfresh r hr)
  have hrec : topUpRecords no s' = topUpRecords no s ++ [params.record .settled "" now] := by
    refine topUpRecords_append (record_ofTopUp hsrc hno) ?_
    obtain ⟨-, -, rfl⟩ := hw
    rfl
  have hpost : CommissionPost no
      (.commission .topUp no params.level params.beneficiaryUserId) params.amount s s' :=
    postCommission_view
      (by simp [FlowKey.ofTopUp]) (by simp) (by simp) hw rfl rfl
  have hinv : CommissionInv no s' :=
    CommissionInv.credit (r := params.record .settled "" now) h hfresh rfl hrec hpost
  exact ⟨hinv, hpost.money, hnew .settled "" now hrec⟩

theorem settleRulesTx_inv {faults : Nat → CommissionFault} :
    ∀ (ps : List CreateCommissionParams) {s s' : Store},
      (∀ p ∈ ps, p.sourceType = .topUp ∧ p.sourceOrderNo = no) → CommissionInv no s →
      settleRulesTx faults now ps s = s' →
      CommissionInv no s' ∧ MoneyFrame no s s' ∧
        ∀ r ∈ topUpRecords no s', r ∈ topUpRecords no s ∨ ∃ p ∈ ps, p.Recorded r := by
  intro ps
  induction ps with
  | nil =>
    intro s s' _ h hs'
    subst hs'
    exact ⟨h, refl no s, fun r hr => .inl hr⟩
  | cons p _ ih =>
    intro s s' hps h hs'
    have hrest := fun q hq => hps q (mem_cons_of_mem p hq)
    rw [settleRulesTx] at hs'
    by_cases hle : p.amount ≤ 0
    · rw [if_pos hle] at hs'
      obtain ⟨hinv, hmoney, hrec⟩ := ih hrest h hs'
      refine ⟨hinv, hmoney, fun r hr => ?_⟩
      rcases hrec r hr with hr | ⟨q, hq, hr⟩
      · exact .inl hr
      · exact .inr ⟨q, mem_cons_of_mem p hq, hr⟩
    rw [if_neg hle] at hs'
    obtain ⟨hsrc, hno⟩ := hps p mem_cons_self
    obtain ⟨hinv1, hmoney1, hrec1⟩ := settleCommissionRuleTx_inv hsrc hno h rfl
    obtain ⟨hinv, hmoney, hrec⟩ := ih hrest hinv1 hs'
    refine ⟨hinv, hmoney1.trans hmoney, fun r hr => ?_⟩
    rcases hrec r hr with hr | ⟨q, hq, hr⟩
    · rcases hrec1 r hr with hr | hr
      · exact .inl hr
      · exact .inr ⟨p, mem_cons_self, hr⟩
    · exact .inr ⟨q, mem_cons_of_mem p hq, hr⟩

/-- **Settling an order again keeps its commissions in step.** -/
theorem settleTopUpCommissionsTx_inv (hno : topUp.tradeNo = no) (h : CommissionInv no s)
    (hs' : settleTopUpCommissionsTx cfg faults topUp now s = s') :
    CommissionInv no s' ∧ MoneyFrame no s s' ∧
      ∀ r ∈ topUpRecords no s', r ∈ topUpRecords no s ∨
        ∃ rule ∈ buildTopUpCommissionRulesTx cfg s topUp,
          (topUpCommissionParams s topUp rule).Recorded r := by
  unfold settleTopUpCommissionsTx at hs'
  split at hs'
  · subst hs'
    exact ⟨h, refl no s, fun r hr => .inl hr⟩
  have hps : ∀ p ∈ (buildTopUpCommissionRulesTx cfg s topUp).map (topUpCommissionParams s topUp),
      p.sourceType = .topUp ∧ p.sourceOrderNo = no := by
    intro p hp
    obtain ⟨-, -, rfl⟩ := mem_map.mp hp
    exact ⟨rfl, hno⟩
  obtain ⟨hinv, hmoney, hrec⟩ := settleRulesTx_inv _ hps h hs'
  refine ⟨hinv, hmoney, fun r hr => ?_⟩
  rcases hrec r hr with hr | ⟨p, hp, hr⟩
  · exact .inl hr
  · obtain ⟨rule, hrule, rfl⟩ := mem_map.mp hp
    exact .inr ⟨rule, hrule, hr⟩

/-! ## Reversal -/

/-- **A commission taken back is one record, one flow and one posting.** -/
theorem CommissionInv.takeBack {f : CommissionRecord → CommissionRecord}
    {j : Nat} (h : CommissionInv no s) (hget : (topUpRecords no s)[j]? = some r)
    (hst : r.status = .settled) (hslot : (f r).slot = r.slot) (hamount : (f r).amount = r.amount)
    (hf : (f r).status = .reversed) (hrec : topUpRecords no s' = (topUpRecords no s).modify j f)
    (hp : CommissionPost no (.commissionReverse .topUp no r.level r.beneficiaryUserId) (-r.amount)
      s s') : CommissionInv no s' := by
  -- a record that was there is still there, or is the one that was rewritten
  have hkept : ∀ r' ∈ topUpRecords no s, r' = r ∨ r' ∈ topUpRecords no s' := by
    intro r' hr'
    obtain ⟨i, hi⟩ := mem_iff_getElem?.mp hr'
    by_cases hij : j = i
    · subst hij
      rw [hget, Option.some.injEq] at hi
      exact .inl hi.symm
    right
    rw [hrec]
    refine mem_iff_getElem?.mpr ⟨i, ?_⟩
    rw [getElem?_modify_ne _ _ hij]
    exact hi
  have hnew : f r ∈ topUpRecords no s' := by
    rw [hrec]
    exact mem_of_getElem? (getElem?_modify_self hget)
  refine ⟨?_, ?_, ?_, ?_, ?_⟩
  · rw [hrec, map_modify_of_eq hget hslot]
    exact h.unique
  · intro l b hl
    rw [hp.flows, decide_eq_false (by simp), Bool.and_false, Bool.or_false] at hl
    obtain ⟨r', hr', hs⟩ := h.recorded l b hl
    rcases hkept r' hr' with rfl | hr'
    · exact ⟨f r', hnew, hslot.trans hs⟩
    · exact ⟨r', hr', hs⟩
  · intro l b hl
    rw [hp.flows, Bool.or_eq_true] at hl
    rcases hl with hl | hl
    · obtain ⟨r', hr', hs, hrev⟩ := h.takenBack l b hl
      rcases hkept r' hr' with rfl | hr'
      · exact ⟨f r', hnew, hslot.trans hs, hf⟩
      · exact ⟨r', hr', hs, hrev⟩
    · simp only [Bool.and_eq_true, decide_eq_true_eq, FlowKey.commissionReverse.injEq,
        true_and] at hl
      exact ⟨f r, hnew, hslot.trans (Prod.ext hl.2.1 hl.2.2), hf⟩
  · rw [hrec, hp.commission, h.net, total_modify hget]
    simp only [due, hst, hf, if_true, reduceCtorEq, if_false]
    ring
  have hpaid : (f r).paid = r.paid := by
    obtain ⟨hl, hb⟩ := Prod.ext_iff.mp hslot
    simp only [slot] at hl hb
    simp [paid, hst, hf, hl, hb, hamount]
  have hcol : ∀ rs : List CommissionRecord, rs.filterMap paid = (rs.map paid).filterMap id := by
    intro rs
    rw [filterMap_map]
    rfl
  have hsame : (topUpRecords no s').filterMap paid = (topUpRecords no s).filterMap paid := by
    rw [hcol, hrec, map_modify_of_eq hget hpaid, hcol]
  rw [hsame, hp.credits, h.credits]
  simp [creditUnder]

/-- Taking back the settled records of the order, one after the other: none is left at the end. -/
theorem reverseRecordsTx_inv :
    ∀ (rs : List (CommissionRecord × Nat)) {s s' : Store},
      (rs.map Prod.snd).Nodup →
      (∀ q ∈ rs, s.commissionRecords[q.2]? = some q.1 ∧ q.1.ofTopUp no = true ∧
        q.1.status = .settled) →
      (∀ i r, s.commissionRecords[i]? = some r → r.ofTopUp no = true → r.status = .settled →
        (r, i) ∈ rs) →
      CommissionInv no s → reverseRecordsTx .topUp no reason now rs s = .ok s' →
      CommissionInv no s' ∧ MoneyFrame no s s' ∧ NoneSettled no s' ∧
        topUpCredits no s' = topUpCredits no s := by
  intro rs
  induction rs with
  | nil =>
    intro s s' _ _ hall h hx
    simp only [reverseRecordsTx, Except.ok.injEq] at hx
    subst hx
    refine ⟨h, refl no s, ?_, rfl⟩
    intro r hr hst
    obtain ⟨hmem, hown⟩ := mem_filter.mp hr
    obtain ⟨i, hi⟩ := mem_iff_getElem?.mp hmem
    cases hall i r hi hown hst
  | cons q rs ih =>
    intro s s' hnd hrs hall h hx
    obtain ⟨r, id⟩ := q
    rw [map_cons, nodup_cons] at hnd
    obtain ⟨hget, hown, hst⟩ := hrs (r, id) mem_cons_self
    have hmem : r ∈ topUpRecords no s := mem_filter.mpr ⟨mem_of_getElem? hget, hown⟩
    -- the reversal flow is not there yet, so the record is not skipped
    have hflow := h.notTakenBack hmem hst
    unfold topUpFlows at hflow
    simp only [FlowKey.ofTopUp, beq_self_eq_true, Bool.true_and] at hflow
    simp only [reverseRecordsTx, hflow, Bool.false_eq_true, if_false, bind_eq_ok,
      getOrCreateWalletAccountTx_eq_ok] at hx
    obtain ⟨a, ⟨-, rfl⟩, hx⟩ := hx
    generalize hs1 : createWalletFlowTx _ _ = s1 at hx
    have hrec1 : s1.commissionRecords = s.commissionRecords.modify id fun r => { r with
        status := .reversed, reversedAt := now, reverseReason := trimSpace reason } := by
      rw [← hs1]
      rfl
    have hpost : CommissionPost no
        (.commissionReverse .topUp no r.level r.beneficiaryUserId) (-r.amount) s s1 :=
      postCommission_view (by simp [FlowKey.ofTopUp]) (by simp)
        (by simp) ⟨_, rfl, hs1.symm⟩ rfl (sub_eq_add_neg _ _)
    obtain ⟨j, hj, hmod⟩ := filter_modify (f := fun r : CommissionRecord => { r with
        status := .reversed, reversedAt := now, reverseReason := trimSpace reason })
      hget hown hown
    have hview : topUpRecords no s1 = (topUpRecords no s).modify j fun r => { r with
        status := .reversed, reversedAt := now, reverseReason := trimSpace reason } := by
      unfold topUpRecords
      rw [hrec1]
      exact hmod
    have hinv1 : CommissionInv no s1 := h.takeBack hj hst rfl rfl rfl hview hpost
    have hother : ∀ i, i ≠ id → s1.commissionRecords[i]? = s.commissionRecords[i]? := by
      intro i hi
      rw [hrec1]
      exact getElem?_modify_ne _ _ (Ne.symm hi)
    have hrs1 : ∀ p ∈ rs, s1.commissionRecords[p.2]? = some p.1 ∧ p.1.ofTopUp no = true ∧
        p.1.status = .settled := by
      intro p hp
      have hne : p.2 ≠ id := by
        rintro rfl
        have hin : p.2 ∈ rs.map Prod.snd := mem_map_of_mem hp
        exact hnd.1 hin
      rw [hother _ hne]
      exact hrs p (mem_cons_of_mem _ hp)
    have hall1 : ∀ i r', s1.commissionRecords[i]? = some r' → r'.ofTopUp no = true →
        r'.status = .settled → (r', i) ∈ rs := by
      intro i r' hi hown' hst'
      by_cases hii : i = id
      · -- the record just taken back is no longer settled
        subst hii
        rw [hrec1, getElem?_modify_self hget, Option.some.injEq] at hi
        subst hi
        cases hst'
      · rw [hother i hii] at hi
        rcases mem_cons.mp (hall i r' hi hown' hst') with heq | hmem'
        · exact absurd (Prod.ext_iff.mp heq).2 hii
        · exact hmem'
    obtain ⟨hinv, hmoney, hnone, hcredits⟩ := ih hnd.2 hrs1 hall1 hinv1 hx
    refine ⟨hinv, hpost.money.trans hmoney, hnone, hcredits.trans ?_⟩
    rw [hpost.credits]
    simp [creditUnder]

/-- **A reversal takes back every settled commission of its order.** -/
theorem reverseCommissionsTx_inv (h : CommissionInv no s)
    (hx : reverseCommissionsTx .topUp no reason now s = .ok s') :
    CommissionInv no s' ∧ MoneyFrame no s s' ∧ NoneSettled no s' ∧
      topUpCredits no s' = topUpCredits no s := by
  unfold reverseCommissionsTx at hx
  simp only [bind_eq_ok] at hx
  obtain ⟨-, -, hx⟩ := hx
  refine reverseRecordsTx_inv _ (settledRecords_nodup .topUp no s) ?_ ?_ h hx
  · intro q hq
    obtain ⟨hget, hsrc, hno, hst⟩ := settledRecords_spec hq
    exact ⟨hget, by simp [ofTopUp, hsrc, hno], hst⟩
  intro i r hi hown hst
  simp only [ofTopUp] at hown
  refine mem_filter.mpr ⟨mem_zipIdx_iff_getElem?.mpr hi, ?_⟩
  simp [hown, hst]

/-! ## Other orders -/

theorem records_sameView (h : rs.filter (ofTopUp no) = topUpRecords no s) :
    SameView no s { s with commissionRecords := rs } := ⟨rfl, rfl, h, rfl⟩

/-- A commission of another source. -/
def OtherSource (no : String) (sourceType : CommissionSourceType) (sourceOrderNo : String) : Prop :=
  ¬ (sourceType = .topUp ∧ sourceOrderNo = no)

section

variable (h : OtherSource no sourceType sourceOrderNo)

include h

theorem OtherSource.ofTopUp :
    (sourceType == .topUp && sourceOrderNo == no) = false := by
  rw [Bool.eq_false_iff]
  intro heq
  simp only [Bool.and_eq_true, beq_iff_eq] at heq
  exact h heq

theorem OtherSource.commission (l b : Nat) :
    Foreign no (some (.commission sourceType sourceOrderNo l b)) := by
  refine foreign_some ?_
  have hne := h.ofTopUp
  cases sourceType with
  | topUp => simpa [FlowKey.ofTopUp] using hne
  | vipActivation => rfl

theorem OtherSource.commissionReverse (l b : Nat) :
    Foreign no (some (.commissionReverse sourceType sourceOrderNo l b)) := by
  refine foreign_some ?_
  have hne := h.ofTopUp
  cases sourceType with
  | topUp => simpa [FlowKey.ofTopUp] using hne
  | vipActivation => rfl

end

theorem settleCommissionRuleTx_sameView (fault : CommissionFault)
    (hsrc : OtherSource no params.sourceType params.sourceOrderNo) :
    SameView no s (settleCommissionRuleTx fault params now s) := by
  have happend : ∀ st e t, SameView no s
      { s with commissionRecords := s.commissionRecords ++ [params.record st e t] } := by
    intro st e t
    refine records_sameView ?_
    have hnot : (params.record st e t).ofTopUp no = false := hsrc.ofTopUp
    rw [filter_append, filter_cons_of_neg (by simp [hnot]), filter_nil, append_nil]
    rfl
  rcases settleCommissionRuleTx_cases fault params now s with h | ⟨-, ⟨e, h⟩ | ⟨-, hx⟩⟩
  · rw [h]
    exact SameView.refl no s
  · rw [h]
    exact happend _ _ _
  have hkey := hsrc.commission params.level params.beneficiaryUserId
  refine (happend .settled "" now).trans ?_
  rcases creditCommissionTx_ok hx with ⟨h, -⟩ | ⟨-, -, -, hw⟩
  · rw [h]
    exact SameView.refl no _
  · exact (saveAccount_sameView hkey _ _ _).trans (hw.sameView hkey)

theorem settleTopUpCommissionsTx_sameView (hno : topUp.tradeNo ≠ no) (s : Store) :
    SameView no s (settleTopUpCommissionsTx cfg faults topUp now s) := by
  refine settleTopUpCommissionsTx_rule (SameView.refl no) .trans faults topUp ?_ s
  intro fault params s _ hparams
  exact settleCommissionRuleTx_sameView fault (fun hsrc => hno (hparams ▸ hsrc.2))

theorem reverseCommissionsTx_sameView (hsrc : OtherSource no sourceType sourceOrderNo)
    (hx : reverseCommissionsTx sourceType sourceOrderNo reason now s = .ok s') :
    SameView no s s' := by
  refine reverseCommissionsTx_rule (SameView.refl no) .trans ?_ hx
  rintro s s1 r id hget rfl rfl - htaken
  have hkey := hsrc.commissionReverse r.level r.beneficiaryUserId
  refine ((saveAccount_sameView hkey r.beneficiaryUserId _ s).trans
    (records_sameView ?_)).trans (htaken.sameView hkey)
  exact filter_modify_of_not hget hsrc.ofTopUp hsrc.ofTopUp

end ApiGateway
