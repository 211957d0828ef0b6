import ApiGateway.Proof.WithdrawLedger

/-!
# A provider order settles exactly once

The handlers of a provider order read it, talk to the provider and write in a later transaction.
What saves the order from being settled twice is that every settling transaction reads the status
again under its lock. `settlements no` are the wallet postings that let the commission of order `no`
out of `frozen`.
-/

namespace ApiGateway

open Table Interleave List Posting

variable {early : String → Prop} {cfg : Config} {u : Nat} {s s' : Store}
variable {p : Posting} {no : String} {ps : List Posting} {o o' : WithdrawOrder}
  {g : Nat → WithdrawOrder → WithdrawOrder} {key : FlowKey} {paid : Bool}
variable {a : WalletAccount} {Entry : WithdrawProg cfg Unit → Prop}
  {C : Store → WithdrawTx → Prop}

/-! ## Settling postings -/

def Posting.settles (no : String) (p : Posting) : Bool :=
  match p.key with
  | some k => k.settlesOrder no
  | none => false

def settlements (no : String) (s : Store) : List Posting :=
  s.journal.filter (Posting.settles no)

/-- The posting is the one that the final status of the order calls for. -/
structure Posting.Matches (o : WithdrawOrder) (p : Posting) : Prop where
  userId : p.userId = o.userId
  frozen : p.frozen = -o.amount
  /-- Paid orders leave the wallet, all others go back to the commission. -/
  moved : if o.status = .paid then p.totalWithdraw = o.amount ∧ p.commission = 0
    else p.commission = o.amount ∧ p.totalWithdraw = 0
  balance : p.balance = 0
  totalCommission : p.totalCommission = 0
  quota : p.quota = 0

theorem Posting.settles_of_key {k : FlowKey} (hk : p.key = some k) (no : String) :
    p.settles no = k.settlesOrder no := by
  unfold settles
  rw [hk]

theorem Posting.Plain.settles (h : p.Plain) (no : String) : p.settles no = false := by
  unfold Posting.settles
  split
  · rename_i k hk
    exact h.key k hk no
  · rfl

theorem settlements_append (hj : s'.journal = s.journal ++ ps)
    (h : ∀ p ∈ ps, p.settles no = false) : settlements no s' = settlements no s := by
  unfold settlements
  have hnone : ps.filter (settles no) = [] := by
    simpa using h
  rw [hj, filter_append, hnone, append_nil]

theorem settlements_append_one (hj : s'.journal = s.journal ++ [p]) (h : p.settles no = true) :
    settlements no s' = settlements no s ++ [p] := by
  unfold settlements
  rw [hj]
  simp [h]

/-! ## The invariant -/

/-- Where order `o` stands is where its settlements stand. -/
def Settled (s : Store) (o : WithdrawOrder) : Prop :=
  if isPiggyTerminalStatus o.status then ∃ p, settlements o.withdrawNo s = [p] ∧ p.Matches o
  else settlements o.withdrawNo s = []

structure SettleInv (u : Nat) (s : Store) : Prop where
  /-- The number of an order of the user names that order only. -/
  unique : ∀ (i j : Nat) (oi oj : WithdrawOrder), s.withdrawOrders[i]? = some oi →
    s.withdrawOrders[j]? = some oj → oi.userId = u → oi.withdrawNo = oj.withdrawNo → i = j
  /-- A settlement is always the settlement of an order that exists. -/
  known : ∀ p ∈ s.journal, ∀ no, p.settles no = true → ∃ o ∈ s.withdrawOrders, o.withdrawNo = no
  settled : ∀ o ∈ s.withdrawOrders, o.userId = u → o.provider = .piggyLaborV3 → Settled s o

theorem isOpen_piggy (hp : o.provider = .piggyLaborV3) :
    o.isOpen = !isPiggyTerminalStatus o.status := by
  unfold WithdrawOrder.isOpen
  rw [hp]

theorem Settled.keep (h : Settled s o) (hk : Kept o o')
    (ht : isPiggyTerminalStatus o'.status = isPiggyTerminalStatus o.status)
    (hs : isPiggyTerminalStatus o.status = true → o'.status = o.status)
    (hset : settlements o.withdrawNo s' = settlements o.withdrawNo s) : Settled s' o' := by
  unfold Settled at h ⊢
  rw [ht, hk.withdrawNo, hset]
  split
  · rename_i hterm
    rw [if_pos hterm] at h
    obtain ⟨p, hp, hm⟩ := h
    refine ⟨p, hp, ?_⟩
    obtain ⟨h1, h2, h3, h4, h5, h6⟩ := hm
    refine ⟨?_, ?_, ?_, h4, h5, h6⟩
    · rw [hk.userId, h1]
    · rw [hk.amount, h2]
    · rw [hs hterm, hk.amount]
      exact h3
  · rename_i hterm
    rwa [if_neg hterm] at h

theorem Settled.move (h : Settled s o) (hm : RowMove early o o') (hp : o.provider = .piggyLaborV3)
    (hset : settlements o.withdrawNo s' = settlements o.withdrawNo s) : Settled s' o' := by
  have hopen := hm.isOpen
  rw [isOpen_piggy hp, isOpen_piggy (hm.provider.trans hp), Bool.not_inj_iff] at hopen
  refine h.keep hm.toKept hopen (fun ht => hm.closed hp ?_) hset
  rw [isOpen_piggy hp, ht]
  rfl

/-! ## One step -/

/-- Rewriting rows one by one, with some postings, if each order of the user is settled as it should
be. -/
theorem SettleInv.rewrite (h : SettleInv u s)
    (hys : ∀ i, s'.withdrawOrders[i]? = s.withdrawOrders[i]?.map (g i))
    (hg : ∀ i o, s.withdrawOrders[i]? = some o → Kept o (g i o))
    (hj : s'.journal = s.journal ++ ps)
    (hknown : ∀ p ∈ ps, ∀ no, p.settles no = true → ∃ o ∈ s.withdrawOrders, o.withdrawNo = no)
    (hset : ∀ i o, s.withdrawOrders[i]? = some o → o.userId = u → o.provider = .piggyLaborV3 →
      Settled s' (g i o)) : SettleInv u s' := by
  refine ⟨?_, ?_, ?_⟩
  · intro i j oi oj hi hj' hu hno
    rw [hys, Option.map_eq_some_iff] at hi hj'
    obtain ⟨a, ha, rfl⟩ := hi
    obtain ⟨b, hb, rfl⟩ := hj'
    rw [(hg i a ha).userId] at hu
    rw [(hg i a ha).withdrawNo, (hg j b hb).withdrawNo] at hno
    exact h.unique i j a b ha hb hu hno
  · intro p hp no hno
    have hold : ∃ o ∈ s.withdrawOrders, o.withdrawNo = no := by
      rw [hj] at hp
      rcases mem_append.mp hp with hp' | hp'
      · exact h.known p hp' no hno
      · exact hknown p hp' no hno
    -- the row of that order is still there under its number
    obtain ⟨o, ho, rfl⟩ := hold
    obtain ⟨i, hi⟩ := mem_iff_getElem?.mp ho
    refine ⟨g i o, mem_of_getElem? (i := i) ?_, (hg i o hi).withdrawNo⟩
    rw [hys, hi]
    rfl
  · intro o' hmem hu hp
    obtain ⟨i, o, hi, rfl⟩ := mem_rewritten hys hmem
    have hk := hg i o hi
    exact hset i o hi (hk.userId ▸ hu) (hk.provider ▸ hp)

theorem SettleInv.moves (h : SettleInv u s)
    (hys : ∀ i, s'.withdrawOrders[i]? = s.withdrawOrders[i]?.map (g i))
    (hg : ∀ i o, s.withdrawOrders[i]? = some o → RowMove early o (g i o))
    (hj : s'.journal = s.journal ++ ps) (hps : ∀ p ∈ ps, ∀ no, p.settles no = false) :
    SettleInv u s' := by
  refine h.rewrite hys (fun i o ho => (hg i o ho).toKept) hj ?_ ?_
  · intro p hp no hno
    rw [hps p hp no] at hno
    cases hno
  · intro i o ho hu hp
    exact (h.settled o (mem_of_getElem? ho) hu hp).move (hg i o ho) hp
      (settlements_append hj fun p hp' => hps p hp' _)

theorem SettleInv.saveAccount (h : SettleInv u s) {v : Nat}
    (hkey : ∀ no, key.settlesOrder no = false) (ho : s'.withdrawOrders = s.withdrawOrders)
    (hj : s'.journal = (s.saveAccount v a (some key)).journal) : SettleInv u s' := by
  have hsame : ∀ (i : Nat) o, s.withdrawOrders[i]? = some o →
      RowMove (fun _ => False) o o := fun _ o _ => RowMove.refl _ o
  refine h.moves ?_ hsame hj ?_
  · intro i
    rw [ho]
    simp
  · intro p hp no
    rw [mem_singleton] at hp
    rw [settles_of_key (by rw [hp]), hkey]

theorem SettleInv.freeze (h : SettleInv u s) {order : WithdrawOrder} (hs : order.status = .pending)
    (hnew : ∀ o ∈ s.withdrawOrders, o.withdrawNo ≠ order.withdrawNo)
    (hkey : ∀ no, key.settlesOrder no = false)
    (ho : s'.withdrawOrders = s.withdrawOrders ++ [order])
    (hj : s'.journal = (s.saveAccount order.userId a (some key)).journal) : SettleInv u s' := by
  have hps : ∀ no, settlements no s' = settlements no s := by
    intro no
    refine settlements_append hj fun p hp => ?_
    rw [mem_singleton] at hp
    rw [settles_of_key (by rw [hp]), hkey]
  refine ⟨?_, ?_, ?_⟩
  · intro i j oi oj hi hj' hu hno
    rw [ho, getElem?_append] at hi hj'
    -- two old rows are told apart as before, and the new number is new
    split at hi <;> split at hj'
    · exact h.unique i j oi oj hi hj' hu hno
    · obtain ⟨-, rfl⟩ := getElem?_singleton_some hj'
      exact absurd hno (hnew oi (mem_of_getElem? hi))
    · obtain ⟨-, rfl⟩ := getElem?_singleton_some hi
      exact absurd hno.symm (hnew oj (mem_of_getElem? hj'))
    · have h1 := (getElem?_singleton_some hi).1
      have h2 := (getElem?_singleton_some hj').1
      omega
  · intro p hp no hno
    rw [hj] at hp
    rcases mem_append.mp hp with hp' | hp'
    · obtain ⟨o, hmem, hno'⟩ := h.known p hp' no hno
      exact ⟨o, ho ▸ mem_append_left _ hmem, hno'⟩
    · rw [mem_singleton] at hp'
      rw [settles_of_key (by rw [hp']), hkey] at hno
      cases hno
  intro o hmem hu hp
  rw [ho] at hmem
  rcases mem_append.mp hmem with hmem' | hmem'
  · exact (h.settled o hmem' hu hp).keep (Kept.refl o) rfl (fun _ => rfl) (hps _)
  -- a number that is new has no settlement yet
  rw [mem_singleton] at hmem'
  subst hmem'
  unfold Settled
  rw [hs, hps]
  unfold settlements
  rw [filter_eq_nil_iff]
  intro p hp' hset
  obtain ⟨o', ho', hno'⟩ := h.known p hp' _ hset
  exact hnew o' ho' hno'

theorem matches_settledAccount
    {w : WalletAccount} (hk : Kept o o') (hpaid : paid = true ↔ o'.status = .paid)
    (hle : o.amount ≤ w.frozenCommissionAmount) :
    Matches o' {
      userId := o.userId
      key := some key
      balance := (settledAccount paid o.amount w).balanceAmount - w.balanceAmount
      commission := (settledAccount paid o.amount w).commissionAmount - w.commissionAmount
      frozen := (settledAccount paid o.amount w).frozenCommissionAmount - w.frozenCommissionAmount
      totalCommission :=
        (settledAccount paid o.amount w).totalCommissionAmount - w.totalCommissionAmount
      totalWithdraw :=
        (settledAccount paid o.amount w).totalWithdrawAmount - w.totalWithdrawAmount } := by
  have hclamp : max 0 (w.frozenCommissionAmount - o.amount) = w.frozenCommissionAmount - o.amount :=
    max_eq_right (sub_nonneg.mpr hle)
  cases paid with
  | true =>
    have hs : o'.status = .paid := hpaid.mp rfl
    constructor <;> simp [settledAccount, hk.userId, hk.amount, hs, hclamp]
  | false =>
    have hs : o'.status ≠ .paid := fun h => Bool.false_ne_true (hpaid.mpr h)
    constructor <;> simp [settledAccount, hk.userId, hk.amount, hs, hclamp]

/-- A closing key settles the number of its order and nothing else. -/
theorem Closing.settles_iff (hc : Closing paid key o o') (h : key.settlesOrder no = true) :
    o.provider = .piggyLaborV3 ∧ no = o.withdrawNo := by
  have hprov : o.provider = .manual ∨ o.provider = .piggyLaborV3 := by cases o.provider <;> simp
  rcases hprov with hp | hp
  · rw [(hc.manual hp).2] at h
    cases h
  · have hkey := (hc.piggy hp).1
    cases key <;> simp_all [FlowKey.settlesOrder]

theorem SettleInv.settle (h : SettleInv u s) (hl : LedgerInv u s) {id : Nat}
    {a : ℚ} {f : WithdrawOrder → WithdrawOrder}
    (hget : s.withdrawOrders[id]? = some o) (ha : 0 < o.amount → a = o.amount)
    (hc : Closing paid key o (f o)) (ho : s'.withdrawOrders = s.withdrawOrders.modify id f)
    (hj : s'.journal = (s.saveAccount o.userId (settledAccount paid a (s.wallets o.userId))
      (some key)).journal) : SettleInv u s' := by
  have hmem := mem_of_getElem? hget
  refine h.rewrite (g := fun i b => if id = i then f b else b) ?_ ?_ hj ?_ ?_
  · intro i
    rw [ho]
    exact getElem?_modify f id _ i
  · intro i b hb
    split
    · rename_i hi
      subst hi
      rw [hget, Option.some.injEq] at hb
      exact hb ▸ hc.toKept
    · exact Kept.refl b
  · intro p hp no hno
    rw [mem_singleton] at hp
    rw [settles_of_key (by rw [hp])] at hno
    exact ⟨o, hmem, (hc.settles_iff hno).2.symm⟩
  intro i b hb hu hp
  split
  · -- the order that is being closed: it was open, so this is its first settlement
    rename_i hi
    subst hi
    rw [hget, Option.some.injEq] at hb
    subst hb
    subst hu
    obtain ⟨hkey, hpaid⟩ := hc.piggy hp
    have hopen := hc.wasOpen fun hm => nomatch (hp.symm.trans hm)
    have hnone : settlements o.withdrawNo s = [] := by
      have hset := h.settled o hmem rfl hp
      unfold Settled at hset
      rw [isOpen_piggy hp, Bool.not_eq_true'] at hopen
      rwa [if_neg (by simp [hopen])] at hset
    have hclosed := hc.nowClosed
    rw [isOpen_piggy (hc.provider.trans hp), Bool.not_eq_false'] at hclosed
    unfold Settled
    rw [if_pos hclosed, hc.withdrawNo, settlements_append_one hj hkey, hnone, ha (hl.positive o hmem rfl)]
    exact ⟨_, rfl, matches_settledAccount hc.toKept hpaid (hl.covers hmem rfl hopen)⟩
  · -- any other order of the user has another number
    rename_i hi
    refine (h.settled b (mem_of_getElem? hb) hu hp).keep (Kept.refl b) rfl (fun _ => rfl)
      (settlements_append hj fun p hp' => ?_)
    rw [mem_singleton] at hp'
    rw [settles_of_key (by rw [hp']), Bool.eq_false_iff]
    intro hkey
    exact hi (h.unique i id b o hb hget hu (hc.settles_iff hkey).2).symm

/-- **Every effect keeps the settlements right.** -/
theorem settleInv_effect (he : Effect early s s') (hl : LedgerInv u s) (h : SettleInv u s) :
    SettleInv u s' := by
  induction he with
  | @side s _ _ orders _ _ journal =>
    obtain ⟨ps, hj, hplain⟩ := journal
    have hsame : ∀ (i : Nat) o, s.withdrawOrders[i]? = some o →
        RowMove (fun _ => False) o o := fun _ o _ => RowMove.refl _ o
    refine h.moves ?_ hsame hj fun p hp => (hplain p hp).settles
    intro i
    rw [orders]
    simp
  | @orders s _ g hys hg => exact h.moves hys hg (append_nil _).symm (by simp)
  | @approve s id o f hget hp hs hk hs' =>
    have hmove : RowMove (fun _ => True) o (f o) :=
      .active hk hp (by rw [hs]; rfl) (by rw [hs']; rfl) fun _ => .inr trivial
    exact h.moves (getElem?_modify f id _) (RowMove.modify hget hmove) (append_nil _).symm (by simp)
  | freeze _ _ _ hs hnew hkey => exact h.freeze hs hnew hkey rfl rfl
  | settle _ _ o a _ f hget ha hc => exact h.settle hl hget ha hc rfl rfl
  | income v a _ hkey | reverse _ r _ f _ _ _ _ _ hkey =>
    exact h.saveAccount hkey rfl rfl
  | transfer => exact h.saveAccount (fun _ => rfl) rfl rfl
  | trans h1 _ ih ih' => exact ih' (ledgerInv_effect h1 hl) (ih hl h)

/-! ## Final statuses -/

/-- Orders stay, and a provider order in a final status keeps it. -/
def FinalKept (s s' : Store) : Prop :=
  ∀ (i : Nat) (o : WithdrawOrder), s.withdrawOrders[i]? = some o → ∃ o',
    s'.withdrawOrders[i]? = some o' ∧ Kept o o' ∧
      (o.provider = .piggyLaborV3 → isPiggyTerminalStatus o.status = true → o'.status = o.status)

theorem FinalKept.refl (s : Store) : FinalKept s s :=
  fun _ o ho => ⟨o, ho, Kept.refl o, fun _ _ => rfl⟩

theorem FinalKept.trans {a b c : Store} (h : FinalKept a b) (h' : FinalKept b c) :
    FinalKept a c := by
  intro i o ho
  obtain ⟨o1, ho1, hk1, hs1⟩ := h i o ho
  obtain ⟨o2, ho2, hk2, hs2⟩ := h' i o1 ho1
  refine ⟨o2, ho2, hk1.trans hk2, fun hp ht => ?_⟩
  have hst := hs1 hp ht
  rw [hs2 (hk1.provider.trans hp) (hst ▸ ht), hst]

theorem FinalKept.of_eq (h : s'.withdrawOrders = s.withdrawOrders) : FinalKept s s' := by
  intro i o ho
  exact ⟨o, h ▸ ho, Kept.refl o, fun _ _ => rfl⟩

theorem FinalKept.moves (hys : ∀ i, s'.withdrawOrders[i]? = s.withdrawOrders[i]?.map (g i))
    (hg : ∀ i o, s.withdrawOrders[i]? = some o → RowMove early o (g i o)) : FinalKept s s' := by
  intro i o ho
  have hm := hg i o ho
  refine ⟨g i o, by rw [hys, ho]; rfl, hm.toKept, fun hp ht => hm.closed hp ?_⟩
  rw [isOpen_piggy hp, ht]
  rfl

theorem finalKept_effect (he : Effect early s s') : FinalKept s s' := by
  induction he with
  | side _ orders => exact .of_eq orders
  | orders _ g hys hg => exact .moves hys hg
  | approve id o f hget hp hs hk hs' =>
    have hmove : RowMove (fun _ => True) o (f o) :=
      .active hk hp (by rw [hs]; rfl) (by rw [hs']; rfl) fun _ => .inr trivial
    exact .moves (getElem?_modify f id _) (RowMove.modify hget hmove)
  | @freeze s =>
    intro i o ho
    refine ⟨o, ?_, Kept.refl o, fun _ _ => rfl⟩
    have hlt : i < s.withdrawOrders.length := (List.getElem?_eq_some_iff.mp ho).1
    rw [getElem?_append_left hlt, ho]
  | @settle s _ id o a _ f hget _ hc =>
    intro i b hb
    by_cases hi : id = i
    · subst hi
      rw [hget, Option.some.injEq] at hb
      subst hb
      refine ⟨f o, getElem?_modify_self hget, hc.toKept, fun hp ht => ?_⟩
      -- a provider order that is being closed was open
      have hopen := hc.wasOpen fun hm => nomatch (hp.symm.trans hm)
      rw [isOpen_piggy hp, ht] at hopen
      cases hopen
    · exact ⟨b, (getElem?_modify_ne _ _ hi).trans hb, Kept.refl b, fun _ _ => rfl⟩
  | income | reverse
  | transfer => exact .of_eq rfl
  | trans _ _ ih ih' => exact ih.trans ih'

/-! ## Whole runs -/

theorem settleInv_init (h : FreshUser u s) : SettleInv u s := by
  refine ⟨?_, ?_, ?_⟩
  · intro i j oi oj hi _ hu _
    exact absurd hu (h.orders oi (mem_of_getElem? hi))
  · intro p hp
    rw [h.journal] at hp
    cases hp
  · intro o ho hu
    exact absurd hu (h.orders o ho)

theorem settleInv_reachable (h : FreshUser u s) {w : World (withdrawSystem cfg)}
    (hw : Reachable Entry C s w) : LedgerInv u w.state ∧ SettleInv u w.state := by
  refine invariant_reachable (I := fun s => LedgerInv u s ∧ SettleInv u s)
    ⟨ledgerInv_init h, settleInv_init h⟩ ?_ ?_ hw
  · intro s1 t s2 r hi _ hx
    have he := WithdrawTx.exec_effect t hx
    exact ⟨ledgerInv_effect he hi.1, settleInv_effect he hi.1 hi.2⟩
  · intro s1 c hi
    refine ⟨ledgerInv_call c hi.1, ?_⟩
    cases c <;> exact ⟨hi.2.unique, hi.2.known, hi.2.settled⟩

theorem finalKept_later
    {w w' : World (withdrawSystem cfg)} (hw : Reachable Entry C s w) (hl : Later Entry C w w') :
    FinalKept w.state w'.state := by
  refine later_related (I := fun _ => True) (fun _ _ => trivial) FinalKept.refl
    FinalKept.trans ?_ ?_ hw hl
  · intro s1 t s2 r _ hx
    exact finalKept_effect (WithdrawTx.exec_effect t hx)
  · intro s1 c _
    cases c <;> exact .of_eq rfl

/-- **A provider order settles exactly once.** In every interleaving, an order in a final status has
had exactly one settling effect, the one its status calls for, and keeps that status; any other
order has had none. -/
theorem piggy_order_settles_once (h : FreshUser u s) {w w' : World (withdrawSystem cfg)}
    (hw : Reachable (WithdrawEntry cfg) (fun _ _ => True) s w)
    (hl : Later (WithdrawEntry cfg) (fun _ _ => True) w w') {id : Nat} {o : WithdrawOrder}
    (hget : w.state.withdrawOrders[id]? = some o) (hu : o.userId = u)
    (hp : o.provider = .piggyLaborV3) :
    (isPiggyTerminalStatus o.status = true →
      (∃ o', w'.state.withdrawOrders[id]? = some o' ∧ o'.status = o.status) ∧
      ∃ p, settlements o.withdrawNo w.state = [p] ∧ p.Matches o) ∧
    (isPiggyTerminalStatus o.status = false → settlements o.withdrawNo w.state = []) := by
  have hset := (settleInv_reachable h hw).2.settled o (mem_of_getElem? hget) hu hp
  unfold Settled at hset
  refine ⟨fun ht => ⟨?_, ?_⟩, fun ht => ?_⟩
  · obtain ⟨o', ho', -, hs⟩ := finalKept_later hw hl id o hget
    exact ⟨o', ho', hs hp ht⟩
  · rwa [if_pos ht] at hset
  · rwa [if_neg (by simp [ht])] at hset

/-- A provider order of user 1 that is approved and then reported as paid. -/
theorem piggy_order_settles_once_paid : ∃ w : World (withdrawSystem Config.shipped), ∃ o p,
    w.state.withdrawOrders[0]? = some o ∧ o.status = .paid ∧
      settlements o.withdrawNo w.state = [p] ∧ p.Matches o := by
  obtain ⟨w, hw, hq⟩ := exists_served (C := fun _ _ => True) (fun _ _ => true)
    (fun _ _ _ => trivial) [(earnHundred, 2),
      (.submitPiggyWithdrawOrder { userId := 1, amount := 10, remark := "" }, 7),
      (.adminApproveWithdrawOrder 0 9 "", 7),
      (.piggyPaymentCallback (.signed
        { outerTradeNo := "PWDR120260101", notifyType := "tradeResult", tradeStatus := "success" }), 7)]
    (q := fun w => (w.state.withdrawOrders[0]?.any fun o => o.userId == 1 &&
      o.provider == .piggyLaborV3 && o.status == .paid) = true) (by decide +kernel)
  obtain ⟨o, hget, ho⟩ := (Option.any_eq_true _ _).mp hq
  simp only [Bool.and_eq_true, beq_iff_eq] at ho
  obtain ⟨⟨hu, hp⟩, hs⟩ := ho
  have h := piggy_order_settles_once (freshUser_empty 1) hw .refl hget hu hp
  obtain ⟨-, p, hset, hm⟩ := h.1 (by rw [hs]; rfl)
  exact ⟨w, o, p, hget, hs, hset, hm⟩

end ApiGateway
