import ApiGateway.Proof.Wallet
import ApiGateway.Service.Commission

/-!
# What the commission functions can do

Settling a rule adds one record at most, and pays for it or not. Settling an order goes over its
rules, and a reversal over the settled records of its source: the walks are gone through here once,
for any relation of two stores that each rule, or each record, keeps.
-/

namespace ApiGateway

open Table Decimal List

variable {cfg : Config} {s s' : Store} {no reason : String} {sourceType : CommissionSourceType}
variable {now : Int}

/-- What settling one rule can do: nothing, record a failure, or record and pay. -/
theorem settleCommissionRuleTx_cases (fault : CommissionFault) (params : CreateCommissionParams)
    (now : Int) (s : Store) :
    settleCommissionRuleTx fault params now s = s ∨
    (s.commissionRecords.any params.matchesRecord = false ∧
      ((∃ e, settleCommissionRuleTx fault params now s =
        { s with commissionRecords := s.commissionRecords ++ [params.record .failed e 0] }) ∨
      (0 < params.amount ∧
        creditCommissionTx params.beneficiaryUserId params.sourceOrderNo params.amount
          .commissionIncome params.remark
          (some (.commission params.sourceType params.sourceOrderNo params.level
            params.beneficiaryUserId))
          { s with commissionRecords := s.commissionRecords ++ [params.record .settled "" now] } =
        .ok (settleCommissionRuleTx fault params now s)))) := by
  have hfailed : ∀ e, createFailedCommissionTx params e s = s ∨
      (s.commissionRecords.any params.matchesRecord = false ∧
        ∃ e', createFailedCommissionTx params e s =
          { s with commissionRecords := s.commissionRecords ++ [params.record .failed e' 0] }) := by
    intro e
    unfold createFailedCommissionTx
    split
    · exact .inl rfl
    split
    · exact .inl rfl
    · rename_i hany
      exact .inr ⟨by simpa using hany, _, rfl⟩
  cases fault with
  | settleAndRecord => exact .inl rfl
  | settle e =>
    rcases hfailed e with h | ⟨hany, e', h⟩
    · exact .inl h
    · exact .inr ⟨hany, .inl ⟨e', h⟩⟩
  | none =>
    cases hx : createSettledCommissionTx params now s with
    | error e =>
      have hs : settleCommissionRuleTx .none params now s = s ∨
          settleCommissionRuleTx .none params now s = createFailedCommissionTx params e.text s := by
        unfold settleCommissionRuleTx
        rw [hx]
        cases e <;> simp
      rcases hs with hs | hs
      · exact .inl hs
      rw [hs]
      rcases hfailed e.text with h | ⟨hany, e', h⟩
      · exact .inl h
      · exact .inr ⟨hany, .inl ⟨e', h⟩⟩
    | ok s' =>
      have hs : settleCommissionRuleTx .none params now s = s' := by
        unfold settleCommissionRuleTx
        rw [hx]
      rw [hs]
      unfold createSettledCommissionTx at hx
      split at hx
      · rw [pure_eq_ok] at hx
        exact .inl hx.symm
      rename_i hvalid
      simp only [not_or, not_le] at hvalid
      simp only [bind_eq_ok, failIf_eq_ok, Bool.not_eq_true] at hx
      obtain ⟨-, hany, hx⟩ := hx
      exact .inr ⟨hany, .inr ⟨hvalid.2.2.2.1, hx⟩⟩

theorem settledRecords_spec {r : CommissionRecord × Nat} (h : r ∈ settledRecords sourceType no s) :
    s.commissionRecords[r.2]? = some r.1 ∧ r.1.sourceType = sourceType ∧
      r.1.sourceOrderNo = no ∧ r.1.status = .settled := by
  obtain ⟨hmem, hp⟩ := mem_filter.mp h
  simp only [Bool.and_eq_true, beq_iff_eq] at hp
  exact ⟨mem_zipIdx_iff_getElem?.mp hmem, hp.1.1, hp.1.2, hp.2⟩

theorem settledRecords_nodup (sourceType : CommissionSourceType) (no : String) (s : Store) :
    ((settledRecords sourceType no s).map Prod.snd).Nodup := by
  have hall : (s.commissionRecords.zipIdx.map Prod.snd).Nodup := by
    rw [zipIdx_map_snd]
    exact nodup_range'
  exact hall.sublist (filter_sublist.map _)

/-- A record is taken back: the account gives back its amount, the record is marked, and
there is a flow. -/
def TakesBack (sourceType : CommissionSourceType) (no reason : String) (now : Int)
    (r : CommissionRecord) (id : Nat) (s s' : Store) : Prop :=
  let u := r.beneficiaryUserId
  let key := some (FlowKey.commissionReverse sourceType no r.level u)
  WritesFlow key { s.saveAccount u { s.wallets u with
      commissionAmount := (s.wallets u).commissionAmount - r.amount } key with
    commissionRecords := s.commissionRecords.modify id fun r => { r with
      status := .reversed, reversedAt := now, reverseReason := trimSpace reason } } s'

theorem TakesBack.records {r : CommissionRecord} {id : Nat}
    (h : TakesBack sourceType no reason now r id s s') :
    s'.commissionRecords = s.commissionRecords.modify id fun r => { r with
      status := .reversed, reversedAt := now, reverseReason := trimSpace reason } := by
  obtain ⟨-, -, rfl⟩ := h
  rfl

section Rules

variable {R : Store → Store → Prop} (hrefl : ∀ s, R s s)
  (htrans : ∀ {s1 s2 s3 : Store}, R s1 s2 → R s2 s3 → R s1 s3)
include hrefl htrans

theorem settleTopUpCommissionsTx_rule (faults : CommissionFaults) (topUp : TopUp)
    (hrule : ∀ fault params s, params.sourceType = .topUp → params.sourceOrderNo = topUp.tradeNo →
      R s (settleCommissionRuleTx fault params now s)) (s : Store) :
    R s (settleTopUpCommissionsTx cfg faults topUp now s) := by
  have hloop : ∀ ps s,
      (∀ p ∈ ps, p.sourceType = .topUp ∧ p.sourceOrderNo = topUp.tradeNo) →
      R s (settleRulesTx faults.level now ps s) := by
    intro ps
    induction ps with
    | nil => exact fun s _ => hrefl s
    | cons p _ ih =>
      intro s hps
      obtain ⟨hsrc, hno⟩ := hps p mem_cons_self
      refine htrans ?_ (ih _ fun q hq => hps q (mem_cons_of_mem p hq))
      split
      · exact hrefl s
      · exact hrule _ p s hsrc hno
  unfold settleTopUpCommissionsTx
  split
  · exact hrefl s
  refine hloop _ s ?_
  intro p hp
  obtain ⟨-, -, rfl⟩ := mem_map.mp hp
  exact ⟨rfl, rfl⟩

/-- The records are distinct, so each is as it was found when its turn comes. -/
theorem reverseCommissionsTx_rule (hstep : ∀ {s s1 : Store} {r : CommissionRecord} {id : Nat},
      s.commissionRecords[id]? = some r → r.sourceType = sourceType → r.sourceOrderNo = no →
      r.status = .settled → TakesBack sourceType no reason now r id s s1 → R s s1)
    (h : reverseCommissionsTx sourceType no reason now s = .ok s') : R s s' := by
  have hloop : ∀ rs {s : Store}, (rs.map Prod.snd).Nodup →
      (∀ q ∈ rs, s.commissionRecords[q.2]? = some q.1 ∧ q.1.sourceType = sourceType ∧
        q.1.sourceOrderNo = no ∧ q.1.status = .settled) →
      reverseRecordsTx sourceType no reason now rs s = .ok s' → R s s' := by
    intro rs
    induction rs with
    | nil =>
      intro s _ _ h
      simp only [reverseRecordsTx, Except.ok.injEq] at h
      exact h ▸ hrefl s
    | cons q rs ih =>
      intro s hnd hrs h
      obtain ⟨r, id⟩ := q
      rw [map_cons, nodup_cons] at hnd
      obtain ⟨hget, hsrc, hno, hst⟩ := hrs (r, id) mem_cons_self
      have hrest := fun p hp => hrs p (mem_cons_of_mem _ hp)
      simp only [reverseRecordsTx] at h
      split at h
      · exact ih hnd.2 hrest h
      simp only [bind_eq_ok, getOrCreateWalletAccountTx_eq_ok] at h
      obtain ⟨a, ⟨-, rfl⟩, h⟩ := h
      generalize hs1 : createWalletFlowTx _ _ = s1 at h
      have htaken : TakesBack sourceType no reason now r id s s1 := ⟨_, rfl, hs1.symm⟩
      refine htrans (hstep hget hsrc hno hst htaken) (ih hnd.2 ?_ h)
      -- the rows still to come are other rows
      intro p hp
      have hne : id ≠ p.2 := by
        rintro rfl
        have hin : p.2 ∈ rs.map Prod.snd := mem_map_of_mem hp
        exact hnd.1 hin
      rw [htaken.records, getElem?_modify_ne _ _ hne]
      exact hrest p hp
  unfold reverseCommissionsTx at h
  simp only [bind_eq_ok] at h
  obtain ⟨-, -, h⟩ := h
  exact hloop _ (settledRecords_nodup sourceType no s) (fun _ => settledRecords_spec) h

end Rules

end ApiGateway
