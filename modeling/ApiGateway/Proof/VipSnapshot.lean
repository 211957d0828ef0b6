import ApiGateway.Lib.Runs
import ApiGateway.Proof.Commissions
import ApiGateway.Service.VipActivation

/-!
# The VVIP snapshot and the records

`is_vvip` should be true exactly while the user has a paid activation that was not taken back.
Reversing an order writes `false` whatever the other orders of the user are.
-/

namespace ApiGateway

open Table Decimal Runs List VipActivationRecord

variable {cfg : Config} {s s' : Store} {u : Nat}
variable {order r r' : VipActivationRecord} {method payload reason tradeNo : String} {id : Nat}
  {provider : PaymentProvider} {faults : VipCommissionFaults} {now : Timestamp}

/-- The flag of the profile says what the records say. -/
def SnapshotAgrees (u : Nat) (s : Store) : Prop :=
  (s.userProfiles u).isVvip = true ↔
    ∃ r ∈ s.vipActivations, r.userId = u ∧ r.status = .success ∧ 0 < r.activatedAt

/-- A reversal of a paid order finds no other paid order of the user. -/
def VipOp.Orderly (u : Nat) : VipOp → Store → Prop
  | .reverse tradeNo _ _ _, s =>
    ∀ r ∈ lookup (fun r : VipActivationRecord => r.tradeNo == trimSpace tradeNo) s.vipActivations,
      r.2.userId = u → r.2.status = .success →
      ∀ q ∈ s.vipActivations.zipIdx, q.2 ≠ r.1 → q.1.activeFor u = false
  | _, _ => True

instance VipOp.decidableOrderly (op : VipOp) (s : Store) : Decidable (op.Orderly u s) := by
  cases op <;> dsimp only [VipOp.Orderly] <;> infer_instance

theorem VipActivationRecord.activeFor_iff :
    r.activeFor u = true ↔ r.userId = u ∧ r.status = .success ∧ 0 < r.activatedAt := by
  simp [activeFor, and_assoc]

theorem snapshotAgrees_iff : SnapshotAgrees u s ↔
    ((s.userProfiles u).isVvip = true ↔ ∃ r ∈ s.vipActivations, r.activeFor u = true) := by
  simp only [SnapshotAgrees, activeFor_iff]

/-! ## What leaves both alone -/

/-- Neither the records nor the profiles change. -/
structure SameVip (s s' : Store) : Prop where
  records : s'.vipActivations = s.vipActivations
  profiles : s'.userProfiles = s.userProfiles

theorem SameVip.refl (s : Store) : SameVip s s := ⟨rfl, rfl⟩

theorem SameVip.trans {s1 : Store} (h : SameVip s s1) (h' : SameVip s1 s') : SameVip s s' :=
  ⟨h'.records.trans h.records, h'.profiles.trans h.profiles⟩

theorem SnapshotAgrees.congr (h : SnapshotAgrees u s) (hsame : SameVip s s') :
    SnapshotAgrees u s' := by
  unfold SnapshotAgrees at ⊢
  rw [hsame.records, hsame.profiles]
  exact h

theorem createPassingFlowTx_sameVip {key remark : String} {flowType : WalletFlowType}
    {direction : WalletFlowDirection}
    (h : createPassingFlowTx cfg key flowType direction remark order s = .ok s') :
    SameVip s s' := by
  unfold createPassingFlowTx at h
  split at h
  · exact pure_eq_ok.mp h ▸ .refl s
  dsimp only at h
  split at h
  · exact pure_eq_ok.mp h ▸ .refl s
  · simp only [bind_eq_ok, pure_eq_ok] at h
    obtain ⟨-, -, rfl⟩ := h
    exact ⟨rfl, rfl⟩

theorem settleCommissionRuleTx_sameVip (fault : CommissionFault) {params : CreateCommissionParams}
    (now : Int) : SameVip s (settleCommissionRuleTx fault params now s) := by
  rcases settleCommissionRuleTx_cases fault params now s with h | ⟨-, ⟨e, h⟩ | ⟨-, h⟩⟩
  · rw [h]
    exact .refl s
  · rw [h]
    exact ⟨rfl, rfl⟩
  generalize settleCommissionRuleTx fault params now s = s' at h
  rcases creditCommissionTx_ok h with ⟨rfl, -⟩ | ⟨-, -, -, -, -, rfl⟩
  · exact ⟨rfl, rfl⟩
  · exact ⟨rfl, rfl⟩

theorem createVipActivationCommissionForBeneficiaryTx_sameVip {beneficiary source : Nat}
    {orderNo : String} {level : Nat} {baseAmount amount : ℚ} {now : Int} :
    SameVip s (createVipActivationCommissionForBeneficiaryTx faults beneficiary source
      orderNo level baseAmount amount now s) := by
  unfold createVipActivationCommissionForBeneficiaryTx
  split
  · exact .refl s
  split
  · -- the record of a failure is what a rule comes to that is rolled back
    exact settleCommissionRuleTx_sameVip (.settle _) now
  · split
    · exact settleCommissionRuleTx_sameVip _ now
    · exact .refl s

theorem settleVipActivationCommissionsTx_sameVip (now : Int) :
    SameVip s (settleVipActivationCommissionsTx cfg faults order now s) := by
  unfold settleVipActivationCommissionsTx
  dsimp only
  split
  · exact .refl s
  split
  · exact .refl s
  rename_i parent _
  have hfirst : ∀ amount, SameVip s (if parent = 0 then s
      else createVipActivationCommissionForBeneficiaryTx faults parent order.userId
        (trimSpace order.tradeNo) 1 (vipActivationFlowAmount cfg order) amount now s) := by
    intro amount
    split
    · exact .refl s
    · exact createVipActivationCommissionForBeneficiaryTx_sameVip
  split
  · exact hfirst _
  split
  · exact hfirst _
  · exact (hfirst _).trans createVipActivationCommissionForBeneficiaryTx_sameVip

theorem reverseCommissionsTx_sameVip {sourceType : CommissionSourceType} {source : String}
    {now : Int} (h : reverseCommissionsTx sourceType source reason now s = .ok s') :
    SameVip s s' :=
  reverseCommissionsTx_rule .refl .trans (fun _ _ _ _ ⟨_, _, hs⟩ => hs ▸ ⟨rfl, rfl⟩) h

/-! ## Rewriting one order -/

theorem active_modify_of_not
    (hrow : s.vipActivations[id]? = some r) (hbefore : r.activeFor u = false)
    (hafter : r'.activeFor u = false) :
    (∃ q ∈ (s.saveVipActivation id r').vipActivations, q.activeFor u = true) ↔
      ∃ q ∈ s.vipActivations, q.activeFor u = true := by
  simp only [mem_iff_getElem?]
  constructor
  · rintro ⟨q, ⟨j, hj⟩, hq⟩
    rcases getElem?_modify_some hrow hj with ⟨rfl, rfl⟩ | ⟨-, hj⟩
    · rw [hafter] at hq
      cases hq
    · exact ⟨q, ⟨j, hj⟩, hq⟩
  · rintro ⟨q, ⟨j, hj⟩, hq⟩
    by_cases hji : id = j
    · subst hji
      rw [hrow, Option.some.injEq] at hj
      rw [← hj, hbefore] at hq
      cases hq
    · exact ⟨q, ⟨j, (getElem?_modify_ne _ _ hji).trans hj⟩, hq⟩

theorem activeFor_of_user (h : r.userId ≠ u) : r.activeFor u = false := by
  simp [activeFor, h]

theorem activeFor_of_status (h : r.status ≠ .success) : r.activeFor u = false := by
  simp [activeFor, h]

theorem SnapshotAgrees.saveUnpaid (h : SnapshotAgrees u s)
    (hrow : s.vipActivations[id]? = some r) (hbefore : r.status ≠ .success)
    (hafter : r'.status ≠ .success) : SnapshotAgrees u (s.saveVipActivation id r') := by
  rw [snapshotAgrees_iff] at h ⊢
  rw [active_modify_of_not hrow (activeFor_of_status hbefore) (activeFor_of_status hafter)]
  exact h

theorem SnapshotAgrees.activate (h : SnapshotAgrees u s)
    (r' : VipActivationRecord) (hrow : s.vipActivations[id]? = some r) (huser : r'.userId = r.userId)
    (hpaid : r'.status = .success ∧ 0 < r'.activatedAt) (activatedAt disabledAt : Int) :
    SnapshotAgrees u (upsertVvipProfileTx r'.userId activatedAt true disabledAt
      (s.saveVipActivation id r')) := by
  rw [snapshotAgrees_iff] at h ⊢
  by_cases hu : r'.userId = u
  · subst hu
    have hself : (s.saveVipActivation id r').vipActivations[id]? = some r' := by
      exact getElem?_modify_self hrow
    have hactive : r'.activeFor r'.userId = true :=
      activeFor_iff.mpr ⟨rfl, hpaid⟩
    refine iff_of_true ?_ ⟨r', mem_of_getElem? hself, hactive⟩
    simp
  · have hsame := active_modify_of_not hrow (activeFor_of_user (huser ▸ hu)) (activeFor_of_user hu)
    rw [upsertVvipProfileTx_userProfiles, Function.update_of_ne (Ne.symm hu)]
    exact h.trans hsame.symm

theorem SnapshotAgrees.deactivate (h : SnapshotAgrees u s)
    (hrow : s.vipActivations[id]? = some r) (huser : r'.userId = r.userId)
    (hstatus : r'.status ≠ .success)
    (hothers : r.userId = u → ∀ (j : Nat) q, s.vipActivations[j]? = some q → j ≠ id →
      q.activeFor u = false) (activatedAt disabledAt : Int) :
    SnapshotAgrees u (upsertVvipProfileTx r.userId activatedAt false disabledAt
      (s.saveVipActivation id r')) := by
  rw [snapshotAgrees_iff] at h ⊢
  by_cases hu : r.userId = u
  · refine iff_of_false (by simp [hu]) ?_
    rintro ⟨q, hmem, hq⟩
    obtain ⟨j, hj⟩ := mem_iff_getElem?.mp hmem
    rcases getElem?_modify_some hrow hj with ⟨rfl, rfl⟩ | ⟨hji, hj⟩
    · rw [activeFor_of_status hstatus] at hq
      cases hq
    · rw [hothers hu j q hj (Ne.symm hji)] at hq
      cases hq
  · have hsame := active_modify_of_not hrow (activeFor_of_user hu) (activeFor_of_user (huser ▸ hu))
    rw [upsertVvipProfileTx_userProfiles, Function.update_of_ne (Ne.symm hu)]
    exact h.trans hsame.symm

/-! ## The operations -/

theorem vipActivationOrderOf_ok (h : vipActivationOrderOf tradeNo provider s = .ok (id, order)) :
    lookup (fun r : VipActivationRecord => r.tradeNo == tradeNo) s.vipActivations =
      some (id, order) := by
  simp only [vipActivationOrderOf, lockVipActivationTx, bind_eq_ok, orFail_eq_ok, Prod.exists] at h
  obtain ⟨id', order', hlookup, -, -, rfl, rfl⟩ := h
  exact hlookup

section

variable (h : SnapshotAgrees u s)

include h

theorem SnapshotAgrees.successEffects {activatedAt : Int} {first : Bool}
    (hrow : s.vipActivations[id]? = some order)
    (hexec : applyVipActivationSuccessEffectsTx cfg faults id order payload method activatedAt now
      first s = .ok s') :
    SnapshotAgrees u s' := by
  unfold applyVipActivationSuccessEffectsTx at hexec
  split at hexec
  · exact pure_eq_ok.mp hexec ▸ h
  simp only [bind_eq_ok, pure_eq_ok] at hexec
  obtain ⟨s2, hflow, rfl⟩ := hexec
  have hpaid : (activatedOrder cfg order payload method activatedAt now).status = .success ∧
      0 < (activatedOrder cfg order payload method activatedAt now).activatedAt := by
    refine ⟨rfl, ?_⟩
    show 0 < if activatedAt ≤ 0 then now.seconds else activatedAt
    split
    · exact now.positive
    · omega
  have hdone := h.activate (activatedOrder cfg order payload method activatedAt now) hrow
    rfl hpaid (activatedOrder cfg order payload method activatedAt now).activatedAt 0
  refine SnapshotAgrees.congr ?_ (settleVipActivationCommissionsTx_sameVip now.seconds)
  refine SnapshotAgrees.congr ?_ (createPassingFlowTx_sameVip hflow)
  split
  · refine hdone.congr ?_
    unfold setDefaultVvipDiscount
    split
    · exact .refl _
    · exact ⟨rfl, rfl⟩
  · exact hdone

theorem SnapshotAgrees.complete
    (hexec : completeVipActivationOrder cfg faults tradeNo payload provider method now s = .ok s') :
    SnapshotAgrees u s' := by
  simp only [completeVipActivationOrder, bind_eq_ok, Prod.exists] at hexec
  obtain ⟨-, -, id, order, horder, hexec⟩ := hexec
  have hrow := (lookup_some (vipActivationOrderOf_ok horder)).1
  cases hstatus : order.status with
  | success =>
    simp only [hstatus] at hexec
    exact h.successEffects hrow hexec
  | disabled =>
    simp only [hstatus, pure_eq_ok] at hexec
    exact hexec ▸ h
  | failed =>
    simp only [hstatus] at hexec
    cases hexec
  | pending =>
    simp only [hstatus] at hexec
    split at hexec
    · -- paid after the user was disabled
      rw [pure_eq_ok] at hexec
      exact hexec ▸ h.saveUnpaid hrow (by simp [hstatus]) (by simp [failedOrder])
    · exact h.successEffects hrow hexec

theorem SnapshotAgrees.repair
    (hexec : repairVipActivationSettlement cfg faults tradeNo provider now s = .ok s') :
    SnapshotAgrees u s' := by
  simp only [repairVipActivationSettlement, bind_eq_ok, Prod.exists] at hexec
  obtain ⟨-, -, id, order, horder, -, -, hexec⟩ := hexec
  exact h.successEffects (lookup_some (vipActivationOrderOf_ok horder)).1 hexec

theorem SnapshotAgrees.fail (hexec : failVipActivationOrder tradeNo payload provider s = .ok s') :
    SnapshotAgrees u s' := by
  simp only [failVipActivationOrder, bind_eq_ok, Prod.exists] at hexec
  obtain ⟨-, -, id, order, horder, hexec⟩ := hexec
  have hrow := (lookup_some (vipActivationOrderOf_ok horder)).1
  split at hexec
  · exact pure_eq_ok.mp hexec ▸ h
  · simp only [bind_eq_ok, failIf_eq_ok, pure_eq_ok, not_not] at hexec
    obtain ⟨-, hpending, rfl⟩ := hexec
    exact h.saveUnpaid hrow (by simp [hpending]) (by simp [failedOrder])

theorem SnapshotAgrees.create {buyer : Nat} {random : String}
    (hexec : createVipActivationOrder cfg buyer provider method random now s = .ok s') :
    SnapshotAgrees u s' := by
  simp only [createVipActivationOrder, bind_eq_ok, pure_eq_ok] at hexec
  obtain ⟨-, -, -, -, -, -, -, -, -, -, rfl⟩ := hexec
  rw [snapshotAgrees_iff] at h ⊢
  -- a new order is pending
  refine h.trans ⟨?_, ?_⟩
  · rintro ⟨r, hr, hactive⟩
    exact ⟨r, mem_append_left _ hr, hactive⟩
  rintro ⟨r, hr, hactive⟩
  rcases mem_append.mp hr with hr | hr
  · exact ⟨r, hr, hactive⟩
  · rw [mem_singleton.mp hr, activeFor_of_status (by simp)] at hactive
    cases hactive

theorem SnapshotAgrees.reverse (hop : (VipOp.reverse tradeNo provider reason now).Orderly u s)
    (hexec : reverseVipActivationOrder cfg tradeNo provider reason now s = .ok s') :
    SnapshotAgrees u s' := by
  simp only [reverseVipActivationOrder, bind_eq_ok, Prod.exists] at hexec
  obtain ⟨-, -, id, order, horder, hexec⟩ := hexec
  have hlookup := vipActivationOrderOf_ok horder
  have hrow := (lookup_some hlookup).1
  split at hexec
  · -- an order that was taken back before keeps its status
    rename_i hdisabled
    simp only [bind_eq_ok] at hexec
    obtain ⟨s1, hflow, hrev⟩ := hexec
    refine SnapshotAgrees.congr ?_ (reverseCommissionsTx_sameVip hrev)
    refine SnapshotAgrees.congr ?_ (createPassingFlowTx_sameVip hflow)
    exact h.saveUnpaid hrow (by simp [hdisabled]) (by simp [hdisabled])
  simp only [bind_eq_ok, failIf_eq_ok, not_not] at hexec
  obtain ⟨-, hsuccess, s1, hflow, hrev⟩ := hexec
  have hothers : order.userId = u → ∀ j q, s.vipActivations[j]? = some q → j ≠ id →
      q.activeFor u = false := by
    intro huser j q hj hji
    exact hop (id, order) hlookup huser hsuccess (q, j) (mem_zipIdx_iff_getElem?.mpr hj) hji
  refine SnapshotAgrees.congr ?_ (reverseCommissionsTx_sameVip hrev)
  refine SnapshotAgrees.congr ?_ (createPassingFlowTx_sameVip hflow)
  refine h.deactivate hrow ?_ ?_ hothers order.activatedAt now.seconds
  · rfl
  · simp

end

/-- A row rewritten where it belongs to another user, or where it is not active afterwards, is
active for the user exactly if it was. -/
theorem active_updateWhere {p : Nat → VipActivationRecord → Bool}
    {f : VipActivationRecord → VipActivationRecord} {xs : List VipActivationRecord}
    (hf : ∀ i r, p i r = true → r.activeFor u = false ∧ (f r).activeFor u = false) :
    (∃ r ∈ updateWhere p f xs, r.activeFor u = true) ↔ ∃ r ∈ xs, r.activeFor u = true := by
  simp only [mem_iff_getElem?, getElem?_updateWhere]
  constructor
  · rintro ⟨r', ⟨j, hj⟩, hactive⟩
    obtain ⟨r, hr, rfl⟩ := Option.map_eq_some_iff.mp hj
    refine ⟨r, ⟨j, hr⟩, ?_⟩
    split at hactive
    · rename_i hp
      rw [(hf j r hp).2] at hactive
      cases hactive
    · exact hactive
  rintro ⟨r, ⟨j, hj⟩, hactive⟩
  refine ⟨r, ⟨j, ?_⟩, hactive⟩
  have hp : p j r = false := by
    by_contra hp
    rw [(hf j r (by simpa using hp)).1] at hactive
    cases hactive
  rw [hj, Option.map_some, hp]
  rfl

theorem SnapshotAgrees.disable (h : SnapshotAgrees u s) {user admin : Nat}
    (hexec : disableVipActivation user admin reason now s = .ok s') :
    SnapshotAgrees u s' := by
  simp only [disableVipActivation, bind_eq_ok, pure_eq_ok] at hexec
  obtain ⟨-, -, -, -, rfl⟩ := hexec
  rw [snapshotAgrees_iff] at h ⊢
  simp only [upsertVvipProfileTx_userProfiles, upsertVvipProfileTx_vipActivations]
  by_cases huser : user = u
  · subst huser
    refine iff_of_false (by simp) ?_
    rw [active_updateWhere]
    · -- the first update leaves no active row
      rintro ⟨r', hmem, hactive⟩
      obtain ⟨j, hj⟩ := mem_iff_getElem?.mp hmem
      rw [getElem?_updateWhere] at hj
      obtain ⟨r, hr, rfl⟩ := Option.map_eq_some_iff.mp hj
      split at hactive
      · rw [activeFor_of_status (by simp)] at hactive
        cases hactive
      · contradiction
    · intro i r hp
      simp only [Bool.and_eq_true, beq_iff_eq] at hp
      exact ⟨activeFor_of_status (by simp [hp.2]), activeFor_of_status (by simp)⟩
  · rw [Function.update_of_ne (Ne.symm huser), active_updateWhere, active_updateWhere]
    · exact h
    · intro i r hp
      have hr : r.userId ≠ u := by
        rw [(activeFor_iff.mp hp).1]
        exact huser
      exact ⟨activeFor_of_user hr, activeFor_of_user hr⟩
    · intro i r hp
      simp only [Bool.and_eq_true, beq_iff_eq] at hp
      have hr : r.userId ≠ u := hp.1 ▸ huser
      exact ⟨activeFor_of_user hr, activeFor_of_user hr⟩

/-- **Every orderly operation keeps the snapshot.** -/
theorem snapshotAgrees_step (op : VipOp) (h : SnapshotAgrees u s) (hop : op.Orderly u s)
    (hexec : op.exec cfg s = .ok s') : SnapshotAgrees u s' := by
  cases op with
  | create => exact h.create hexec
  | complete => exact h.complete hexec
  | fail => exact h.fail hexec
  | repair => exact h.repair hexec
  | reverse => exact h.reverse hop hexec
  | disable => exact h.disable hexec

/-- **The VVIP snapshot agrees with the records**, if paid orders are reversed only as the last paid
one of their user. -/
theorem vvip_snapshot_agrees (h : SnapshotAgrees u s) {ops : List VipOp}
    (hops : Along (VipOp.exec cfg) (VipOp.Orderly u) ops s) :
    SnapshotAgrees u (run (VipOp.exec cfg) ops s) :=
  run_induction (fun op s s' => snapshotAgrees_step op) h hops

def firstSecond : Timestamp := ⟨1, by decide⟩

/-- Of two orders the first is paid, delivered a second time and reversed, and the second
is paid after that. -/
def oneActivation : List VipOp :=
  [.create 1 .epay "alipay" "a" firstSecond, .create 1 .epay "alipay" "b" firstSecond,
    .complete {} "VIPUSR1NOa1" "" .epay "" firstSecond,
    .complete {} "VIPUSR1NOa1" "" .epay "" firstSecond,
    .reverse "VIPUSR1NOa1" .epay "" firstSecond,
    .complete {} "VIPUSR1NOb1" "" .epay "" firstSecond]

theorem vvip_snapshot_agrees_one_activation :
    SnapshotAgrees 1 {} ∧ Along (VipOp.exec .shipped) (VipOp.Orderly 1) oneActivation {} ∧
    SnapshotAgrees 1 (run (VipOp.exec .shipped) oneActivation {}) :=
  have hstart : SnapshotAgrees 1 {} := ⟨by simp, by simp⟩
  have hops : Along (VipOp.exec .shipped) (VipOp.Orderly 1) oneActivation {} := by decide +kernel
  ⟨hstart, hops, vvip_snapshot_agrees hstart hops⟩

/-- Two orders are paid, and one of them is reversed. -/
def twoActivations : List VipOp :=
  [.create 1 .epay "alipay" "a" firstSecond, .create 1 .epay "alipay" "b" firstSecond,
    .complete {} "VIPUSR1NOa1" "" .epay "" firstSecond,
    .complete {} "VIPUSR1NOb1" "" .epay "" firstSecond,
    .reverse "VIPUSR1NOa1" .epay "" firstSecond]

/-- The second order is still paid, and the profile says that the user is not VVIP. -/
theorem reversal_clears_snapshot :
    SnapshotAgrees 1 {} ∧
    ((run (VipOp.exec .shipped) twoActivations {}).userProfiles 1).isVvip = false ∧
    isUserActiveVvipTx (run (VipOp.exec .shipped) twoActivations {}) 1 = true :=
  ⟨⟨by simp, by simp⟩, by decide +kernel, by decide +kernel⟩

end ApiGateway
