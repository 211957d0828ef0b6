import ApiGateway.Proof.WithdrawTransactions

/-!
# The commission wallet is conserved

Releasing an order computes `max 0 (frozen - amount)`. The clamp would hide a double release, so
conservation rests on the fact that frozen commission is exactly what the open orders hold.
-/

namespace ApiGateway

open Table Interleave List

variable {early : String → Prop} {cfg : Config} {u : Nat} {s s' : Store}
variable {o : WithdrawOrder}
variable {o' : WithdrawOrder} {g : Nat → WithdrawOrder → WithdrawOrder} {id : Nat}
  {f : WithdrawOrder → WithdrawOrder} {C : Store → WithdrawTx → Prop}

/-! ## Open orders -/

/-- What an order holds of user `u`'s commission. -/
def openRow (u : Nat) (o : WithdrawOrder) : ℚ :=
  if o.userId = u ∧ o.isOpen = true then o.amount else 0

/-- The sum of the amounts of user `u`'s open orders. -/
def openAmount (u : Nat) (s : Store) : ℚ := total (openRow u) s.withdrawOrders

theorem openRow_of_open (hu : o.userId = u) (ho : o.isOpen = true) : openRow u o = o.amount := by
  unfold openRow
  rw [if_pos ⟨hu, ho⟩]

theorem openRow_of_closed (ho : o.isOpen = false) : openRow u o = 0 := by
  unfold openRow
  simp [ho]

theorem openRow_of_ne (hu : o.userId ≠ u) : openRow u o = 0 := by
  unfold openRow
  simp [hu]

theorem RowMove.openRow (h : RowMove early o o') : openRow u o' = openRow u o := by
  unfold ApiGateway.openRow
  rw [h.userId, h.isOpen, h.amount]

theorem isOpen_of_pending (h : o.status = .pending) : o.isOpen = true := by
  unfold WithdrawOrder.isOpen
  rw [h]
  cases o.provider <;> rfl

/-! ## Transfers in the journal -/

theorem Posting.Plain.transferred {p : Posting} (h : p.Plain) : p.transferred u = 0 := by
  unfold Posting.transferred
  rw [h.commission, neg_zero, ite_self]

theorem total_transferred_of_plain {ps : List Posting} (h : ∀ p ∈ ps, p.Plain) :
    total (Posting.transferred u) ps = 0 := by
  induction ps with
  | nil => rfl
  | cons p _ ih =>
    rw [total_cons, (h p mem_cons_self).transferred,
      ih fun q hq => h q (mem_cons_of_mem _ hq), add_zero]

/-! ## The invariant -/

/-- The commission side of user `u`'s wallet adds up. -/
structure LedgerInv (u : Nat) (s : Store) : Prop where
  /-- Every order of the user is about a positive amount. -/
  positive : ∀ o ∈ s.withdrawOrders, o.userId = u → 0 < o.amount
  /-- Manual orders stay within the manual statuses. -/
  manual : ∀ o ∈ s.withdrawOrders, o.userId = u → o.provider = .manual → o.ManualStatus
  /-- What is frozen is what the open orders hold. -/
  frozen : (s.wallets u).frozenCommissionAmount = openAmount u s
  /-- Commission in, frozen and out is commission earned and not taken away. -/
  conserved : (s.wallets u).commissionAmount + (s.wallets u).frozenCommissionAmount +
      (s.wallets u).totalWithdrawAmount =
    (s.wallets u).totalCommissionAmount - reversedCommissions u s - transferredCommissions u s

theorem LedgerInv.covers (h : LedgerInv u s) (hmem : o ∈ s.withdrawOrders)
    (hu : o.userId = u) (ho : o.isOpen = true) :
    o.amount ≤ (s.wallets u).frozenCommissionAmount := by
  rw [h.frozen, ← openRow_of_open hu ho]
  refine le_total ?_ hmem
  intro x hx
  unfold openRow
  split
  · rename_i hx'
    exact (h.positive x hx hx'.1).le
  · exact le_refl 0

theorem mem_rewritten {ys : List WithdrawOrder}
    (hys : ∀ i, ys[i]? = s.withdrawOrders[i]?.map (g i)) (h : o' ∈ ys) :
    ∃ i o, s.withdrawOrders[i]? = some o ∧ o' = g i o := by
  obtain ⟨i, hi⟩ := mem_iff_getElem?.mp h
  rw [hys, Option.map_eq_some_iff] at hi
  obtain ⟨o, ho, rfl⟩ := hi
  exact ⟨i, o, ho, rfl⟩

theorem LedgerInv.rows (h : LedgerInv u s)
    (hys : ∀ i, s'.withdrawOrders[i]? = s.withdrawOrders[i]?.map (g i))
    (hg : ∀ i o, s.withdrawOrders[i]? = some o → RowMove early o (g i o))
    (hw : s'.wallets = s.wallets) (hr : s'.commissionRecords = s.commissionRecords)
    (hj : s'.journal = s.journal) : LedgerInv u s' := by
  refine ⟨?_, ?_, ?_, ?_⟩
  · intro o' hmem hu
    obtain ⟨i, o, ho, rfl⟩ := mem_rewritten hys hmem
    have hm := hg i o ho
    rw [hm.amount]
    exact h.positive o (mem_of_getElem? ho) (hm.userId ▸ hu)
  · intro o' hmem hu hp
    obtain ⟨i, o, ho, rfl⟩ := mem_rewritten hys hmem
    have hm := hg i o ho
    rw [hm.provider] at hp
    exact hm.manual hp (h.manual o (mem_of_getElem? ho) (hm.userId ▸ hu) hp)
  · have hsum : openAmount u s' = openAmount u s := by
      refine total_congr_of_getElem? fun i => ?_
      rw [hys]
      cases ho : s.withdrawOrders[i]? with
      | none => rfl
      | some o => simp [(hg i o ho).openRow]
    rw [hw, hsum]
    exact h.frozen
  · unfold reversedCommissions transferredCommissions
    rw [hw, hr, hj]
    exact h.conserved

/-! ## One step -/

theorem LedgerInv.side (h : LedgerInv u s) (hw : SameCommission (s.wallets u) (s'.wallets u))
    (ho : s'.withdrawOrders = s.withdrawOrders)
    (hr : reversedCommissions u s' = reversedCommissions u s)
    (hj : ∃ ps, s'.journal = s.journal ++ ps ∧ ∀ p ∈ ps, p.Plain) : LedgerInv u s' := by
  obtain ⟨ps, hps, hplain⟩ := hj
  have ht : transferredCommissions u s' = transferredCommissions u s := by
    unfold transferredCommissions
    rw [hps, total_append, total_transferred_of_plain hplain, add_zero]
  refine ⟨?_, ?_, ?_, ?_⟩
  · rw [ho]
    exact h.positive
  · rw [ho]
    exact h.manual
  · unfold openAmount
    rw [ho, hw.frozen]
    exact h.frozen
  · rw [hw.commission, hw.frozen, hw.totalWithdraw, hw.totalCommission, hr, ht]
    exact h.conserved

/-- A wallet write logged under `key`, seen from user `u`. The last two hypotheses are its
arithmetic, for its owner and for everybody else. -/
theorem LedgerInv.post (h : LedgerInv u s) {v : Nat} {a : WalletAccount} {key : FlowKey}
    (hw : s'.wallets = (s.saveAccount v a (some key)).wallets)
    (hj : s'.journal = (s.saveAccount v a (some key)).journal)
    (hpos : ∀ o ∈ s'.withdrawOrders, o.userId = u → 0 < o.amount)
    (hman : ∀ o ∈ s'.withdrawOrders, o.userId = u → o.provider = .manual → o.ManualStatus)
    (hother : v ≠ u → openAmount u s' = openAmount u s ∧
      reversedCommissions u s' = reversedCommissions u s)
    (hself : v = u →
      a.frozenCommissionAmount - (s.wallets u).frozenCommissionAmount =
        openAmount u s' - openAmount u s ∧
      a.commissionAmount + a.frozenCommissionAmount + a.totalWithdrawAmount -
          a.totalCommissionAmount + (reversedCommissions u s' - reversedCommissions u s) +
          (if key.isTransfer then (s.wallets u).commissionAmount - a.commissionAmount else 0) =
        (s.wallets u).commissionAmount + (s.wallets u).frozenCommissionAmount +
          (s.wallets u).totalWithdrawAmount - (s.wallets u).totalCommissionAmount) :
    LedgerInv u s' := by
  have hf := h.frozen
  have hc := h.conserved
  have ht : transferredCommissions u s' = transferredCommissions u s +
      if v = u ∧ key.isTransfer then (s.wallets v).commissionAmount - a.commissionAmount else 0 := by
    unfold transferredCommissions
    rw [hj, Store.saveAccount_journal, total_append, total_cons, total_nil]
    simp [Posting.transferred]
  by_cases hu : v = u
  · subst hu
    obtain ⟨h1, h2⟩ := hself rfl
    have hrow : s'.wallets v = a := by
      rw [hw, Store.saveAccount_wallets, Function.update_self]
    refine ⟨hpos, hman, ?_, ?_⟩
    · rw [hrow]
      linarith
    · simp only [true_and] at ht
      rw [hrow]
      linarith
  · obtain ⟨h1, h2⟩ := hother hu
    have hrow : s'.wallets u = s.wallets u := by
      rw [hw, Store.saveAccount_wallets, Function.update_of_ne (Ne.symm hu)]
    refine ⟨hpos, hman, ?_, ?_⟩
    · rw [hrow, h1, hf]
    · rw [if_neg (by simp [hu]), add_zero] at ht
      rw [hrow, h2, ht]
      exact hc

theorem LedgerInv.positive_modify (h : LedgerInv u s) (hget : s.withdrawOrders[id]? = some o)
    (hk : Kept o (f o)) : ∀ o' ∈ s.withdrawOrders.modify id f, o'.userId = u → 0 < o'.amount := by
  intro o' hmem hu
  rcases mem_modify hget hmem with rfl | hmem'
  · rw [hk.amount]
    exact h.positive o (mem_of_getElem? hget) (hk.userId ▸ hu)
  · exact h.positive o' hmem' hu

/-- **Every effect keeps the ledger.** -/
theorem ledgerInv_effect (he : Effect early s s') (h : LedgerInv u s) : LedgerInv u s' := by
  induction he with
  | side wallets orders _ reversed journal => exact h.side (wallets u) orders (reversed u) journal
  | orders _ g hys hg => exact h.rows hys hg rfl rfl rfl
  | approve id o f hget hp hs hk hs' =>
    have hmove : RowMove (fun _ => True) o (f o) :=
      .active hk hp (by rw [hs]; rfl) (by rw [hs']; rfl) fun _ => .inr trivial
    exact h.rows (getElem?_modify f id _) (RowMove.modify hget hmove) rfl rfl rfl
  | @freeze s order _ hpos hs _ _ htr =>
    have hsum : total (openRow u) (s.withdrawOrders ++ [order]) =
        openAmount u s + openRow u order := by
      rw [total_append, total_cons, total_nil, add_zero]
      rfl
    refine h.post rfl rfl ?_ ?_ (fun hu => ⟨?_, rfl⟩) (fun hu => ⟨?_, ?_⟩)
    · intro o hmem hu
      rcases mem_append.mp hmem with ho | ho
      · exact h.positive o ho hu
      · rw [mem_singleton] at ho
        exact ho ▸ hpos
    · intro o hmem hu hp
      rcases mem_append.mp hmem with ho | ho
      · exact h.manual o ho hu hp
      · rw [mem_singleton] at ho
        simp [ho, WithdrawOrder.ManualStatus, hs]
    · exact hsum.trans (by rw [openRow_of_ne hu, add_zero])
    · subst hu
      rw [openRow_of_open rfl (isOpen_of_pending hs)] at hsum
      show _ = total _ _ - _
      rw [hsum]
      ring
    subst hu
    rw [htr]
    show _ + (reversedCommissions _ s - reversedCommissions _ s) + _ = _
    simp only [Bool.false_eq_true, if_false]
    ring
  | @settle s paid id o a _ f hget ha hc htr =>
    have hmem := mem_of_getElem? hget
    have hsum : total (openRow u) (s.withdrawOrders.modify id f) =
        openAmount u s - openRow u o := by
      rw [total_modify hget, openRow_of_closed hc.nowClosed, add_zero]
      rfl
    refine h.post rfl rfl ?_ ?_ (fun hu => ⟨?_, rfl⟩) (fun hu => ?_)
    · exact h.positive_modify hget hc.toKept
    · intro o' hmem' hu hp
      rcases mem_modify hget hmem' with rfl | hmem'
      · exact (hc.manual (hc.provider ▸ hp)).1
      · exact h.manual o' hmem' hu hp
    · exact hsum.trans (by rw [openRow_of_ne hu, sub_zero])
    subst hu
    have hopen := hc.wasOpen (h.manual o hmem rfl)
    have hle := h.covers hmem rfl hopen
    rw [openRow_of_open rfl hopen] at hsum
    rw [ha (h.positive o hmem rfl), htr]
    -- the clamp does not act: the order is covered by what is frozen
    have hclamp : max 0 ((s.wallets o.userId).frozenCommissionAmount - o.amount) =
        (s.wallets o.userId).frozenCommissionAmount - o.amount :=
      max_eq_right (sub_nonneg.mpr hle)
    refine ⟨?_, ?_⟩
    · show _ = total (openRow o.userId) (s.withdrawOrders.modify id f) - _
      rw [hsum]
      cases paid <;> simp only [settledAccount, hclamp] <;> simp
    · show _ + (reversedCommissions _ s - reversedCommissions _ s) + _ = _
      cases paid <;> simp only [settledAccount, hclamp] <;> simp
      ring
  | @income s v a _ _ htr =>
    refine h.post rfl rfl h.positive h.manual (fun _ => ⟨rfl, rfl⟩) (fun hu => ?_)
    subst hu
    refine ⟨(sub_self _).trans (sub_self _).symm, ?_⟩
    rw [htr]
    show _ + (reversedCommissions _ s - reversedCommissions _ s) + _ = _
    simp only [Bool.false_eq_true, if_false]
    ring
  | @reverse s id r _ f hget hr hf hfa hfb _ htr =>
    have hsum : total (fun r => if r.beneficiaryUserId = u ∧ r.status = .reversed
          then r.amount else 0) (s.commissionRecords.modify id f) =
        reversedCommissions u s + if r.beneficiaryUserId = u then r.amount else 0 := by
      rw [total_modify hget]
      simp [hr, hf, hfa, hfb, reversedCommissions]
    refine h.post rfl rfl h.positive h.manual (fun hu => ⟨rfl, ?_⟩) (fun hu => ?_)
    · exact hsum.trans (by rw [if_neg hu, add_zero])
    subst hu
    refine ⟨(sub_self _).trans (sub_self _).symm, ?_⟩
    rw [if_pos rfl] at hsum
    rw [htr]
    show _ + (total _ _ - _) + _ = _
    rw [hsum]
    simp only [Bool.false_eq_true, if_false]
    ring
  | @transfer s =>
    refine h.post rfl rfl h.positive h.manual (fun _ => ⟨rfl, rfl⟩) (fun hu => ?_)
    subst hu
    refine ⟨(sub_self _).trans (sub_self _).symm, ?_⟩
    show _ + (reversedCommissions _ s - reversedCommissions _ s) + _ = _
    simp only [FlowKey.isTransfer, if_true]
    ring
  | trans _ _ ih ih' => exact ih' (ih h)

/-! ## Whole runs -/

/-- User `u` before anything happened to their commission. -/
structure FreshUser (u : Nat) (s : Store) : Prop where
  wallet : s.wallets u = {}
  orders : ∀ o ∈ s.withdrawOrders, o.userId ≠ u
  records : ∀ r ∈ s.commissionRecords, r.beneficiaryUserId ≠ u
  journal : s.journal = []

theorem ledgerInv_init (h : FreshUser u s) : LedgerInv u s := by
  have hopen : openAmount u s = 0 := by
    refine sum_eq_zero fun x hx => ?_
    obtain ⟨o, ho, rfl⟩ := mem_map.mp hx
    exact openRow_of_ne (h.orders o ho)
  have hrev : reversedCommissions u s = 0 := by
    refine sum_eq_zero fun x hx => ?_
    obtain ⟨r, hr, rfl⟩ := mem_map.mp hx
    simp [h.records r hr]
  refine ⟨?_, ?_, ?_, ?_⟩
  · intro o ho hu
    exact absurd hu (h.orders o ho)
  · intro o ho hu
    exact absurd hu (h.orders o ho)
  · rw [hopen, h.wallet]
  · simp [h.wallet, hrev, transferredCommissions, h.journal]

theorem ledgerInv_call (c : WithdrawCall) (h : LedgerInv u s) : LedgerInv u (c.record s) := by
  cases c <;> exact h.side (SameCommission.refl _) rfl rfl ⟨[], by simp [WithdrawCall.record], by simp⟩

theorem ledgerInv_reachable {Entry : WithdrawProg cfg Unit → Prop}
    (h : FreshUser u s) {w : World (withdrawSystem cfg)} (hw : Reachable Entry C s w) :
    LedgerInv u w.state :=
  invariant_reachable (ledgerInv_init h)
    (fun _ t _ _ hi _ hx => ledgerInv_effect (WithdrawTx.exec_effect t hx) hi)
    (fun _ c hi => ledgerInv_call c hi) hw

/-- **The commission wallet is conserved.** For a user who started with an empty wallet, in every
interleaving: the frozen commission is the sum of the amounts of the open orders; releasing any of
them meets no clamp; and what was credited and neither reversed nor transferred is in the wallet,
frozen or paid out. -/
theorem commission_conserved (h : FreshUser u s) {w : World (withdrawSystem cfg)}
    (hw : Reachable (WithdrawEntry cfg) (fun _ _ => True) s w) :
    (w.state.wallets u).frozenCommissionAmount = openAmount u w.state ∧
    (∀ o ∈ w.state.withdrawOrders, o.userId = u → o.isOpen = true →
      max 0 ((w.state.wallets u).frozenCommissionAmount - o.amount) =
        (w.state.wallets u).frozenCommissionAmount - o.amount) ∧
    (w.state.wallets u).commissionAmount + (w.state.wallets u).frozenCommissionAmount +
        (w.state.wallets u).totalWithdrawAmount =
      (w.state.wallets u).totalCommissionAmount - reversedCommissions u w.state -
        transferredCommissions u w.state := by
  have hi := ledgerInv_reachable h hw
  refine ⟨hi.frozen, ?_, hi.conserved⟩
  intro o ho hu hopen
  exact max_eq_right (sub_nonneg.mpr (hi.covers ho hu hopen))

/-- A world that answers every question in the plainest way. -/
def plainAnswers : (c : WithdrawCall) → c.Resp
  | .setting => {}
  | .now => 1
  | .timeString => "20260101"
  | .forbiddenTime => false
  | .withdrawalProfile u => some
      { id := 0, userId := u, accountType := "bankcard", realName := "N", idCardNo := "I"
        mobile := "M", bankCardNo := "C", bankName := "B", contractSigned := true }
  | .singleOrderSubmit _ | .singleOrderQuery _ | .singleOrderConfirmPay _
  | .singleOrderCancel _ => { resp := none }

/-- Handlers served one after the other, each with the number of its steps. -/
def serveAll : Nat → List (WithdrawRequest × Nat) → List (Move (withdrawSystem Config.shipped))
  | _, [] => []
  | i, (req, n) :: rest =>
    Move.serve (req.handle Config.shipped) i n plainAnswers ++ serveAll (i + 1) rest

theorem entry_of_spawn_mem_serveAll {p : WithdrawProg Config.shipped Unit} :
    ∀ {rs : List (WithdrawRequest × Nat)} {i : Nat}, Move.spawn p ∈ serveAll i rs →
      WithdrawEntry Config.shipped p
  | (req, n) :: rest, i, h => by
      rcases mem_append.mp h with h' | h'
      · exact ⟨req, Move.spawn_mem_serve h'⟩
      · exact entry_of_spawn_mem_serveAll h'

theorem exists_served (g : Store → WithdrawTx → Bool)
    (hC : ∀ s t, g s t = true → C s t) (rs : List (WithdrawRequest × Nat))
    {q : World (withdrawSystem Config.shipped) → Prop} [DecidablePred q]
    (h : ((⟨{}, []⟩ : World (withdrawSystem Config.shipped)).moves g (serveAll 0 rs)).any q = true) :
    ∃ w, Reachable (WithdrawEntry Config.shipped) C {} w ∧ q w :=
  exists_reachable _ hC (fun _ hp => entry_of_spawn_mem_serveAll hp) h

def earnHundred : WithdrawRequest :=
  .settleCommission .none
    { beneficiaryUserId := 1, sourceUserId := 2, sourceOrderNo := "T1", sourceType := .topUp
      level := 1, baseAmount := 1000, commissionRate := 0, amount := 100
      sourceUserLabel := "", remark := "" }

theorem freshUser_empty (u : Nat) : FreshUser u {} := ⟨rfl, by simp, by simp, rfl⟩

theorem commission_conserved_after_withdraw :
    ∃ w : World (withdrawSystem Config.shipped),
      (w.state.wallets 1).frozenCommissionAmount = 30 ∧ openAmount 1 w.state = 30 ∧
      (w.state.wallets 1).commissionAmount + 30 + (w.state.wallets 1).totalWithdrawAmount =
        (w.state.wallets 1).totalCommissionAmount - reversedCommissions 1 w.state -
          transferredCommissions 1 w.state := by
  obtain ⟨w, hw, hfrozen⟩ := exists_served (C := fun _ _ => True) (fun _ _ => true)
    (fun _ _ _ => trivial) [(earnHundred, 2), (.submitWithdrawOrder
      { userId := 1, amount := 30, feeAmount := 0, receiveType := "bank"
        receiveAccount := "6222", remark := "" }, 3)]
    (q := fun w => (w.state.wallets 1).frozenCommissionAmount = 30) (by decide +kernel)
  have h := commission_conserved (freshUser_empty 1) hw
  rw [hfrozen] at h
  exact ⟨w, hfrozen, h.1.symm, h.2.2⟩

end ApiGateway
