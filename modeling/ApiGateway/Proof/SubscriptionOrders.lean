import ApiGateway.Service.SubscriptionOrder

/-!
# An order is fulfilled once

Two callbacks that read the same pending order both create a subscription from it. The unique trade
number of the top-up does not stop the second: it finds the row that the first has committed, and
saves it again. In the same way an order can expire after it was fulfilled. If no other call that
has read an order is open when it is read, it is still pending at the commit.
-/

namespace ApiGateway

open Table Threads OrderCall CompletePc

variable {clock : Clock}
variable {s : Store} {c : OrderCall} {id : Nat} {order : SubscriptionOrder} {d : OrderShared}
variable {G : World OrderShared OrderThread → Nat → OrderInput → Bool} {d' : OrderShared}
  {t' : OrderThread}

/-- The worlds that calls reach from a database, with the steps that `G` allows. -/
def OrderReachable (clock : Clock) (G : World OrderShared OrderThread → Nat → OrderInput → Bool)
    (s : Store) : World OrderShared OrderThread → Prop :=
  Reachable (orderStep clock) OrderThread.Starts (fun w i x => G w i x = true) { store := s }

theorem exists_orderReachable (es : List (Event OrderThread OrderInput))
    {q : World OrderShared OrderThread → Prop} [DecidablePred q]
    (hS : ∀ t, Event.start t ∈ es → t.Starts)
    (h : ((⟨{ store := s }, []⟩ : World OrderShared OrderThread).play
      (orderStep clock) G es).any q) :
    ∃ w, OrderReachable clock G s w ∧ q w :=
  exists_reachable es (fun _ _ _ hg => hg) hS h

/-! ## What a step can do -/

theorem OrderCall.findOrderTx_ok (h : c.findOrderTx s = .ok (id, order)) :
    s.subscriptionOrderByTradeNo c.tradeNo = some (id, order) := by
  simp only [findOrderTx, bind_eq_ok, orFail_eq_ok, pure_eq_ok,
    Prod.exists] at h
  obtain ⟨id', order', hrow, -, -, heq⟩ := h
  rw [heq] at hrow
  exact hrow

theorem OrderCall.readToCompleteTx_ok (h : c.readToCompleteTx s = .ok (some (id, order))) :
    s.subscriptionOrderByTradeNo c.tradeNo = some (id, order) ∧ order.status = .pending := by
  simp only [readToCompleteTx, bind_eq_ok, Prod.exists] at h
  obtain ⟨id', order', hfind, h⟩ := h
  split at h
  · cases h
  simp only [bind_eq_ok, failIf_eq_ok, pure_eq_ok] at h
  obtain ⟨-, hstatus, heq⟩ := h
  obtain ⟨rfl, rfl⟩ := some_pair_inj heq
  exact ⟨findOrderTx_ok hfind, not_not.mp hstatus⟩

theorem OrderCall.readToExpireTx_ok (h : c.readToExpireTx s = .ok (some (id, order))) :
    s.subscriptionOrderByTradeNo c.tradeNo = some (id, order) ∧ order.status = .pending := by
  simp only [readToExpireTx, bind_eq_ok, Prod.exists] at h
  obtain ⟨id', order', hfind, h⟩ := h
  split at h
  · cases h
  · rename_i hstatus
    obtain ⟨rfl, rfl⟩ := some_pair_inj (pure_eq_ok.mp h)
    exact ⟨findOrderTx_ok hfind, not_not.mp hstatus⟩

/-- A statement of a completion returns, goes on with the same order, or is the commit. -/
theorem completeStatement_cases {now : Int} {c : CompleteCall} {pc : CompletePc}
    (h : completeStatement clock now c id order d pc = (t', d')) :
    (d' = d ∧ ((∃ res, t' = .returned res) ∨ ∃ pc', t' = .completing c id order pc')) ∨
    (∃ new topUp completeTime res, t' = .returned res ∧
      d' = d.complete c id order new topUp completeTime) := by
  have andThen {α : Type} {result : Except Err α} {next : α → CompletePc} (hd : d' = d)
      (ht : t' = OrderThread.andThen result fun a => .completing c id order (next a)) :
      d' = d ∧ ((∃ res, t' = .returned res) ∨ ∃ pc', t' = .completing c id order pc') := by
    cases result with
    | error => exact ⟨hd, .inl ⟨_, ht⟩⟩
    | ok => exact ⟨hd, .inr ⟨_, ht⟩⟩
  cases pc with
  | readPlan | countPurchases | readGroup =>
    obtain ⟨ht, hd⟩ := Prod.mk.inj h
    exact .inl (andThen hd.symm ht.symm)
  | writeTopUp new =>
    simp only [completeStatement] at h
    split at h <;> obtain ⟨ht, hd⟩ := Prod.mk.inj h
    · exact .inl ⟨hd.symm, .inl ⟨_, ht.symm⟩⟩
    · exact .inl (andThen hd.symm ht.symm)
  | writeGroup | insertSubscription | readTopUp | saveOrder =>
    obtain ⟨rfl, rfl⟩ := Prod.mk.inj h
    exact .inl ⟨rfl, .inr ⟨_, rfl⟩⟩
  | commit new topUp completeTime =>
    obtain ⟨rfl, rfl⟩ := Prod.mk.inj h
    exact .inr ⟨new, topUp, completeTime, _, rfl, rfl⟩

/-- A step returns, has read a pending order, goes on with it, or commits a completion or an expiry
of it. -/
inductive OrderEffect (t t' : OrderThread) (d : OrderShared) : OrderShared → Prop where
  | returns (hclosed : t'.opened = none) : OrderEffect t t' d d
  | reads (k : String) (id : Nat) (order : SubscriptionOrder) (hreads : t.readsTradeNo = some k)
      (hopened : t'.opened = some (k, id, order))
      (hrow : d.store.subscriptionOrderByTradeNo k = some (id, order))
      (hpending : order.status = .pending) : OrderEffect t t' d d
  | goesOn (hsame : t'.opened = t.opened) : OrderEffect t t' d d
  | completes (c : CompleteCall) (id : Nat) (order : SubscriptionOrder) (new : NewSubscription)
      (topUp : TopUpWrite) (completeTime : Int) (hopened : t.opened = some (c.tradeNo, id, order))
      (hclosed : t'.opened = none) :
      OrderEffect t t' d (d.complete c id order new topUp completeTime)
  | expires (c : OrderCall) (id : Nat) (order : SubscriptionOrder) (completeTime : Int)
      (hopened : t.opened = some (c.tradeNo, id, order)) (hclosed : t'.opened = none) :
      OrderEffect t t' d (d.expire id order completeTime)

theorem orderStep_effect {x : OrderInput} {t : OrderThread}
    (h : orderStep clock x t d = some (t', d')) : OrderEffect t t' d d' := by
  cases t with
  | completeCalled c | expireCalled c =>
    simp only [orderStep] at h
    split at h
    · obtain ⟨rfl, rfl⟩ := some_pair_inj h
      exact .returns rfl
    split at h
    · obtain ⟨rfl, rfl⟩ := some_pair_inj h
      exact .returns rfl
    obtain ⟨rfl, rfl⟩ := some_pair_inj h
    unfold OrderThread.andThen
    split
    · exact .returns rfl
    rename_i found hread
    cases found with
    | none => exact .returns rfl
    | some found =>
      have hfound : d.store.subscriptionOrderByTradeNo c.tradeNo = some found ∧
          found.2.status = .pending := by
        first
        | exact readToCompleteTx_ok hread
        | exact readToExpireTx_ok hread
      exact .reads c.tradeNo found.1 found.2 rfl rfl hfound.1 hfound.2
  | completing c id order =>
    simp only [orderStep] at h
    split at h
    · obtain ⟨rfl, rfl⟩ := some_pair_inj h
      exact .returns rfl
    rcases completeStatement_cases (Option.some.inj h) with
      ⟨rfl, ⟨-, rfl⟩ | ⟨-, rfl⟩⟩ | ⟨new, topUp, completeTime, -, rfl, rfl⟩
    · exact .returns rfl
    · exact .goesOn rfl
    · exact .completes c id order new topUp completeTime rfl rfl
  | expiring c id order =>
    simp only [orderStep] at h
    split at h
    · obtain ⟨rfl, rfl⟩ := some_pair_inj h
      exact .returns rfl
    · obtain ⟨rfl, rfl⟩ := some_pair_inj h
      exact .goesOn rfl
    · obtain ⟨rfl, rfl⟩ := some_pair_inj h
      exact .expires c id order _ rfl rfl
  | returned => exact nomatch h

/-! ## What the writes touch -/

@[simp] theorem TopUpWrite.apply_subscriptionOrders (topUp : TopUpWrite) (s : Store) :
    (topUp.apply s).subscriptionOrders = s.subscriptionOrders := by
  cases topUp <;> rfl

@[simp] theorem NewSubscription.apply_subscriptionOrders (new : NewSubscription) (s : Store) :
    (new.apply s).subscriptionOrders = s.subscriptionOrders := by
  unfold NewSubscription.apply
  split <;> rfl

section Orders

variable {s : Store} {k : String} {id : Nat} {order order' : SubscriptionOrder}

theorem subscriptionOrderByTradeNo_tradeNo (h : s.subscriptionOrderByTradeNo k = some (id, order)) :
    s.subscriptionOrders[id]? = some order ∧ order.tradeNo = k := by
  obtain ⟨hrow, hp⟩ := lookup_some h
  exact ⟨hrow, beq_iff_eq.mp hp⟩

theorem lookup_saved_ne {k' : String} (h : s.subscriptionOrderByTradeNo k = some (id, order))
    (hsaved : order'.tradeNo = order.tradeNo) (hk : k' ≠ k) :
    lookup (fun o => o.tradeNo == k') (s.subscriptionOrders.modify id fun _ => order') =
      s.subscriptionOrderByTradeNo k' := by
  obtain ⟨hrow, hno⟩ := subscriptionOrderByTradeNo_tradeNo h
  have hne : (order.tradeNo == k') = false := beq_false_of_ne fun h => hk (h.symm.trans hno)
  exact lookup_modify_of_not hrow hne (by rw [hsaved]; exact hne)

end Orders

theorem complete_lookup {c : CompleteCall}
    {new : NewSubscription} {topUp : TopUpWrite} {completeTime : Int} (k : String) :
    (d.complete c id order new topUp completeTime).store.subscriptionOrderByTradeNo k =
      lookup (fun o => o.tradeNo == k)
        (d.store.subscriptionOrders.modify id fun _ => order.completed c completeTime) := by
  simp [Store.subscriptionOrderByTradeNo]

/-- Calls read an order, go on with a pending one, and a completion uses it up. -/
def orderReads (clock : Clock) :
    OnceLog (orderStep clock) OrderThread.Starts String (Nat × SubscriptionOrder) where
  look d k := d.store.subscriptionOrderByTradeNo k
  fresh row := row.2.status = .pending
  opened := OrderThread.opened
  reads := OrderThread.readsTradeNo
  start_closed := by
    rintro _ (⟨c, rfl⟩ | ⟨c, rfl⟩)
    · rfl
    · rfl
  opens := by
    intro x t d t' d' k row h hopen
    cases orderStep_effect h with
    | returns hclosed => exact nomatch (hopen.symm.trans hclosed)
    | reads k' id order hreads hopened hrow hpending =>
      obtain ⟨rfl, rfl⟩ := some_pair_inj (hopen.symm.trans hopened)
      exact .inr ⟨hreads, hrow, hpending⟩
    | goesOn hsame => exact .inl (hsame ▸ hopen)
    | completes _ _ _ _ _ _ _ hclosed | expires _ _ _ _ _ hclosed =>
      exact nomatch (hopen.symm.trans hclosed)
  writes := by
    intro x t d t' d' h hplace k
    cases orderStep_effect h with
    | returns _ | reads _ _ _ _ _ _ _ | goesOn _ => exact .inl rfl
    | completes c id order new topUp completeTime hopened hclosed
    | expires c id order completeTime hopened hclosed =>
      by_cases hk : k = c.tradeNo
      · subst hk
        exact .inr ⟨hclosed, _, hopened⟩
      first
      | exact .inl ((complete_lookup k).trans (lookup_saved_ne (hplace _ _ hopened) rfl hk))
      | exact .inl (lookup_saved_ne (hplace _ _ hopened) rfl hk)
  log d := d.created
  spent row := row.2.status = .success
  not_fresh := by
    intro row hsuccess hpending
    exact nomatch (hsuccess.symm.trans hpending)
  logs := by
    intro x t d t' d' h hplace
    cases orderStep_effect h with
    | returns _ | reads _ _ _ _ _ _ _ | goesOn _ => exact .inl rfl
    | completes c id order new topUp completeTime hopened _ =>
      exact .inr ⟨c.tradeNo, (id, order), (id, order.completed c completeTime), hopened, rfl,
        (complete_lookup _).trans (lookup_modify (hplace _ _ hopened)
          (beq_iff_eq.mpr (subscriptionOrderByTradeNo_tradeNo (hplace _ _ hopened)).2)), rfl⟩
    | expires _ _ _ _ _ _ => exact .inl rfl

/-! ## Once -/

/-- **A subscription order is fulfilled once.** If no call reads an order while another call that
has read it is open, one subscription at most is created from it, and none from an expired one. -/
theorem subscription_order_fulfilled_once {s : Store} {w : World OrderShared OrderThread}
    (h : OrderReachable clock orderOneReader s w) (tradeNo : String) :
    w.shared.created.count tradeNo ≤ 1 ∧
      ∀ id order, w.shared.store.subscriptionOrderByTradeNo tradeNo = some (id, order) →
        order.status = .expired → w.shared.created.count tradeNo = 0 := by
  have honce := (orderReads clock).once (fun w i x h => (Bool.and_eq_true_iff.mp h).2) rfl h
  refine ⟨List.nodup_iff_count_le_one.mp honce.1 tradeNo, ?_⟩
  intro id order hrow hexpired
  refine List.count_eq_zero.mpr fun hmem => ?_
  obtain ⟨row, hrow', hsuccess⟩ := honce.2 tradeNo hmem
  obtain rfl := Option.mem_unique hrow' hrow
  exact nomatch (hsuccess.symm.trans hexpired)

def oneOrder : Store where
  subscriptionPlans := [{ }]
  subscriptionOrders := [{
    userId := 1, planId := 0, money := 10, tradeNo := "T", paymentMethod := "alipay",
    paymentProvider := .epay }]

/-- The order of `oneOrder` is completed, and then called to expire. -/
theorem subscription_order_fulfilled_once_then_kept :
    ∃ w, OrderReachable thirtyDayMonths.toClock orderOneReader oneOrder w ∧
      (w.shared.created.count "T" = 1 ∧ w.threads.length = 2) ∧
      w.shared.created.count "T" ≤ 1 ∧
      ∀ id order, w.shared.store.subscriptionOrderByTradeNo "T" = some (id, order) →
        order.status = .expired → w.shared.created.count "T" = 0 := by
  obtain ⟨w, hw, hq⟩ : ∃ w, OrderReachable thirtyDayMonths.toClock orderOneReader oneOrder w ∧
      w.shared.created.count "T" = 1 ∧ w.threads.length = 2 := exists_orderReachable
    ([.start (.completeCalled ⟨⟨"T", .epay⟩, "", ""⟩), .start (.expireCalled ⟨"T", .epay⟩)] ++
      List.replicate 9 (.move 0 ⟨10, none⟩) ++ [.move 1 ⟨11, none⟩])
    (by simp [OrderThread.Starts]) (by decide +kernel)
  exact ⟨w, hw, hq, subscription_order_fulfilled_once hw "T"⟩

/-- **An order that is fulfilled twice, and one that expires after it was fulfilled**: the second
call reads the order before the first commits. -/
theorem subscription_order_fulfilled_twice :
    (∃ w, OrderReachable thirtyDayMonths.toClock orderRowLocks oneOrder w ∧
      w.shared.created.count "T" = 2 ∧ w.shared.store.subscriptions.length = 2) ∧
    ∃ w, OrderReachable thirtyDayMonths.toClock orderRowLocks oneOrder w ∧
      w.shared.created.count "T" = 1 ∧
      (w.shared.store.subscriptionOrderByTradeNo "T").any (fun row => row.2.status == .expired) := by
  constructor
  · exact exists_orderReachable ([.start (.completeCalled ⟨⟨"T", .epay⟩, "", ""⟩),
        .start (.completeCalled ⟨⟨"T", .epay⟩, "", ""⟩), .move 0 ⟨10, none⟩, .move 1 ⟨10, none⟩] ++
        List.replicate 8 (.move 0 ⟨11, none⟩) ++ List.replicate 8 (.move 1 ⟨12, none⟩))
      (by simp [OrderThread.Starts]) (by decide +kernel)
  · exact exists_orderReachable ([.start (.completeCalled ⟨⟨"T", .epay⟩, "", ""⟩),
        .start (.expireCalled ⟨"T", .epay⟩), .move 0 ⟨10, none⟩, .move 1 ⟨10, none⟩] ++
        List.replicate 8 (.move 0 ⟨11, none⟩) ++ List.replicate 2 (.move 1 ⟨12, none⟩))
      (by simp [OrderThread.Starts]) (by decide +kernel)

end ApiGateway
