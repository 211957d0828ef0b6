import ApiGateway.Proof.WithdrawLedger

/-!
# Payouts and their approval

The confirm-payment request makes the provider pay. It is guarded by the status of the order alone:
whoever finds the order in `await_confirm` claims it and sends the request.

An order can get there without an approval: a payment result that arrives while it is `pending`
parks it in `manual_review`, from where a second result moves it on. That is the only way.
-/

namespace ApiGateway

open Table Decimal Interleave List WithdrawProg

variable {early : String → Prop} {cfg : Config} {no : String} {s s' : Store}

/-! ## The invariant -/

/-- Every confirm-payment request for `no` comes after an approval of `no`. -/
def ConfirmsApproved (no : String) (events : List PiggyEvent) : Prop :=
  ∀ i : Nat, events[i]? = some (.confirmSent no) → ∃ j : Nat, j < i ∧ events[j]? = some (.approved no)

structure ApprovalInv (no : String) (s : Store) : Prop where
  /-- An order that is under way has been approved. -/
  reviewed : ∀ o ∈ s.withdrawOrders, o.provider = .piggyLaborV3 → o.withdrawNo = no →
    o.isOpen = true → o.status ≠ .pending → .approved no ∈ s.trace
  confirms : ConfirmsApproved no s.trace

theorem ConfirmsApproved.append {events : List PiggyEvent} {e : PiggyEvent}
    (h : ConfirmsApproved no events) (he : e = .confirmSent no → .approved no ∈ events) :
    ConfirmsApproved no (events ++ [e]) := by
  intro i hi
  rw [getElem?_append] at hi
  split at hi
  · obtain ⟨j, hji, hj⟩ := h i hi
    exact ⟨j, hji, by rw [getElem?_append_left (by omega)]; exact hj⟩
  obtain ⟨-, rfl⟩ := getElem?_singleton_some hi
  obtain ⟨j, hj⟩ := mem_iff_getElem?.mp (he rfl)
  have hlt : j < events.length := (List.getElem?_eq_some_iff.mp hj).1
  exact ⟨j, by omega, by rw [getElem?_append_left hlt]; exact hj⟩

theorem ApprovalInv.moves (h : ApprovalInv no s) {g : Nat → WithdrawOrder → WithdrawOrder}
    (hno : ¬ early no) (hys : ∀ i, s'.withdrawOrders[i]? = s.withdrawOrders[i]?.map (g i))
    (hg : ∀ i o, s.withdrawOrders[i]? = some o → RowMove early o (g i o))
    (ht : s'.trace = s.trace) : ApprovalInv no s' := by
  refine ⟨?_, ht ▸ h.confirms⟩
  intro o' hmem hp hn hopen hs
  obtain ⟨i, o, hi, rfl⟩ := mem_rewritten hys hmem
  have hm := hg i o hi
  rw [hm.provider] at hp
  rw [hm.withdrawNo] at hn
  rw [hm.isOpen] at hopen
  rw [ht]
  refine h.reviewed o (mem_of_getElem? hi) hp hn hopen fun hpend => ?_
  rcases hm.waiting hp hpend with h' | h'
  · exact hs h'
  · exact hno (hn ▸ h')

theorem ApprovalInv.same (h : ApprovalInv no s) (ho : s'.withdrawOrders = s.withdrawOrders)
    (ht : s'.trace = s.trace) : ApprovalInv no s' := by
  refine ⟨?_, ht ▸ h.confirms⟩
  rw [ho, ht]
  exact h.reviewed

/-- **Every effect but an early payment result keeps the invariant.** -/
theorem approvalInv_effect (he : Effect early s s') (hno : ¬ early no) (h : ApprovalInv no s) :
    ApprovalInv no s' := by
  induction he with
  | side _ orders trace => exact h.same orders trace
  | orders _ g hys hg => exact h.moves hno hys hg rfl
  | @approve s _ o f hget _ _ hk =>
    refine ⟨?_, h.confirms.append (by simp)⟩
    intro o' hmem hp' hn hopen hst
    refine mem_append.mpr ?_
    rcases mem_modify hget hmem with rfl | hmem'
    · -- the approved order itself
      rw [hk.withdrawNo] at hn
      exact .inr (by rw [hn]; exact mem_singleton_self _)
    · exact .inl (h.reviewed o' hmem' hp' hn hopen hst)
  | @freeze s _ _ _ hs =>
    refine ⟨?_, h.confirms⟩
    intro o hmem hp hn hopen hst
    rcases mem_append.mp hmem with hmem' | hmem'
    · exact h.reviewed o hmem' hp hn hopen hst
    · rw [mem_singleton] at hmem'
      exact absurd (hmem' ▸ hs) hst
  | @settle s _ _ o a _ f hget _ hc =>
    refine ⟨?_, h.confirms⟩
    intro o' hmem hp hn hopen hst
    rcases mem_modify hget hmem with rfl | hmem'
    · rw [hc.nowClosed] at hopen
      cases hopen
    · exact h.reviewed o' hmem' hp hn hopen hst
  | income | reverse
  | transfer => exact h.same rfl rfl
  | trans _ _ ih ih' => exact ih' (ih h)

theorem trace_effect {e : PiggyEvent} (he : Effect early s s') (h : e ∈ s.trace) :
    e ∈ s'.trace := by
  induction he with
  | side _ _ trace => exact trace ▸ h
  | approve => exact mem_append_left _ h
  | trans _ _ ih ih' => exact ih' (ih h)
  | _ => exact h

/-! ## What the handlers owe

A handler may ask anything of the outside world, except that a confirm-payment
request for `no` needs an approval on record. -/

/-- What must be on record before a question is asked. -/
def WithdrawCall.Owes (no : String) : WithdrawCall → Store → Prop
  | .singleOrderConfirmPay n, s => trimSpace n = no → .approved no ∈ s.trace
  | _, _ => True

/-- No payment result is taken for `no` while it waits for its review. -/
def NoEarlyResult (no : String) (s : Store) (t : WithdrawTx) : Prop :=
  callbackOnPending no s t = false

/-- The contract every handler keeps. -/
def approvalContract (cfg : Config) (no : String) :
    Contract (withdrawSystem cfg) (NoEarlyResult no) where
  inv := ApprovalInv no
  rely s s' := PiggyEvent.approved no ∈ s.trace → .approved no ∈ s'.trace
  mayRun _ _ := True
  may := WithdrawCall.Owes no
  rely_refl _ h := h
  rely_trans h h' := fun ha => h' (h ha)
  tx_inv _ t _ _ hi hC _ hx :=
    approvalInv_effect (WithdrawTx.exec_effect t hx) (Bool.not_eq_true _ ▸ hC) hi
  tx_rely _ t _ _ _ _ _ hx := trace_effect (WithdrawTx.exec_effect t hx)
  call_inv s c hi hm := by
    cases c with
    | singleOrderConfirmPay n =>
      refine ⟨?_, hi.confirms.append ?_⟩
      · intro o ho hp hn hopen hs
        exact mem_append_left _ (hi.reviewed o ho hp hn hopen hs)
      · intro he
        exact hm (PiggyEvent.confirmSent.inj he)
    | _ => exact hi
  call_rely s c _ _ := by
    intro ha
    cases c with
    | singleOrderConfirmPay n => exact mem_append_left _ ha
    | _ => exact ha

/-- The program keeps the contract wherever it starts. -/
abbrev Keeps (no : String) {α : Type} (p : WithdrawProg cfg α) : Prop :=
  Safe (approvalContract cfg no) p

section Keeps

variable {α β : Type}

theorem keeps_run (t : WithdrawTx) : Keeps no (run t : WithdrawProg cfg _) :=
  safe_run fun _ _ => trivial

theorem keeps_check (r : Except Err α) : Keeps no (check r : WithdrawProg cfg α) :=
  safe_done r

theorem keeps_pure (a : α) : Keeps no (pure a : WithdrawProg cfg α) := safe_done _

/-- Every question but the confirm-payment request is free. -/
def WithdrawCall.sendsConfirm : WithdrawCall → Bool
  | .singleOrderConfirmPay _ => true
  | _ => false

variable {c : WithdrawCall}

theorem keeps_ask (h : c.sendsConfirm = false) :
    Keeps no (ask c : WithdrawProg cfg _) := by
  refine safe_ask fun s _ => ?_
  cases c with
  | singleOrderConfirmPay => exact nomatch h
  | _ => trivial

variable {f : α → WithdrawProg cfg β}

theorem keeps_bind {p : WithdrawProg cfg α} (hp : Keeps no p) (hf : ∀ a, Keeps no (f a)) :
    Keeps no (p >>= f) := safe_bind hp hf

theorem Keeps.run {t : WithdrawTx} {f : t.Ret → WithdrawProg cfg β} (hf : ∀ a, Keeps no (f a)) :
    Keeps no (run t >>= f) := keeps_bind (keeps_run t) hf

theorem Keeps.check {r : Except Err α} (hf : ∀ a, Keeps no (f a)) :
    Keeps no (check r >>= f) := keeps_bind (keeps_check r) hf

theorem Keeps.ask {f : c.Resp → WithdrawProg cfg β} (h : c.sendsConfirm = false)
    (hf : ∀ a, Keeps no (f a)) : Keeps no (ask c >>= f) :=
  keeps_bind (keeps_ask h) hf

end Keeps

/-! ### The confirmation -/

theorem approved_of_claim {n : String} {now : Int} (hi : ApprovalInv no s)
    (h : (claimPiggyOrderForConfirmTx n now s).2 = true) (hn : trimSpace n = no) :
    .approved no ∈ s.trace := by
  obtain ⟨i, o, hget, hpick⟩ := affects_iff.mp h
  simp only [Bool.and_eq_true, beq_iff_eq, OrderSelector.picks] at hpick
  obtain ⟨⟨hp, hno⟩, hst⟩ := hpick
  refine hi.reviewed o (mem_of_getElem? hget) hp (hno.trans hn) ?_ (by simp [hst])
  simp [WithdrawOrder.isOpen, hp, hst, isPiggyTerminalStatus]

variable (n : String)

theorem claimPiggyOrderForConfirm_wp :
    wp (approvalContract cfg no) (claimPiggyOrderForConfirm cfg n)
      (fun r s' => ∀ id, r = .ok (id, true) → trimSpace n = no → .approved no ∈ s'.trace) s := by
  refine wp_bind _ s ?_
  cases failIf (isBlank n) Err.withdrawOrderNotFound with
  | error => exact fun id h => nomatch h
  | ok =>
    refine wp_bind _ s fun s1 _ _ => ⟨trivial, fun now => ?_⟩
    refine wp_bind _ _ fun s2 _ hi2 =>
      ⟨fun s3 claimed hC hx => ⟨trivial, ?_⟩, fun e id h => nomatch h⟩
    refine wp_bind _ _ fun s4 hr hi4 =>
      ⟨fun s5 r hC' hx' => ⟨trivial, ?_⟩, fun e id h => nomatch h⟩
    intro id hres hn
    -- what the claim proved stays true while the order is read again
    have hclaimed : claimed = true := by
      unfold piggyConfirmClaimResult at hres
      split at hres
      · assumption
      split at hres
      all_goals first
        | cases hres
        | (split at hres <;> cases hres)
    have hclaim : (claimPiggyOrderForConfirmTx n now s2).2 = true :=
      (congrArg Prod.snd (Except.ok.inj hx)).trans hclaimed
    have h3 := (approvalContract cfg no).tx_rely _ _ _ _ hi2 hC trivial hx
      (approved_of_claim hi2 hclaim hn)
    exact (approvalContract cfg no).tx_rely _ _ _ _ hi4 hC' trivial hx' (hr h3)

theorem confirmPiggyOrder_keeps : Keeps no (confirmPiggyOrder cfg n) := by
  refine keeps_bind (keeps_ask rfl) fun setting => keeps_bind (keeps_check _) fun _ => ?_
  intro s
  refine wp_bind _ s (wp_mono ?_ _ s (claimPiggyOrderForConfirm_wp n))
  rintro (e | ⟨id, claimed⟩) s1 hq
  · trivial
  cases claimed with
  | false => exact keeps_pure () s1
  | true =>
    refine wp_bind _ s1 fun s2 hr _ => ⟨fun hn => hr (hq id rfl hn), fun reply => ?_⟩
    refine keeps_bind (keeps_ask rfl) (fun now => ?_) _
    cases reply.err with
    | some => exact keeps_bind (safe_ignore (keeps_run _)) fun _ => safe_fail _
    | none => exact keeps_bind (keeps_run _) fun _ => keeps_pure _

/-! ### All other handlers

None of them sends the request itself; they run transactions, ask harmless
questions and hand over to `confirmPiggyOrder`. -/

variable {content : PiggyPaymentCallbackContent}

theorem processPiggyPaymentCallbackContent_keeps :
    Keeps no (processPiggyPaymentCallbackContent cfg content) := by
  have review : ∀ reason, Keeps no (markPiggyOrderManualReviewByNo cfg content.outerTradeNo reason) :=
    fun reason => .ask rfl fun _ => .run fun _ => keeps_pure _
  have release : ∀ reason, Keeps no (failPiggyOrderAndReleaseProg cfg content reason) :=
    fun reason => .ask rfl fun _ => .ask rfl fun _ => keeps_run _
  unfold processPiggyPaymentCallbackContent
  dsimp only
  split
  · exact keeps_bind (review _) fun _ => safe_fail _
  split
  · split
    · refine .ask rfl fun _ => .ask rfl fun _ => .run fun shouldConfirm => ?_
      cases shouldConfirm with
      | true => exact confirmPiggyOrder_keeps _
      | false => exact keeps_pure _
    · split
      · exact release _
      · exact review _
  · split
    · split
      · exact .ask rfl fun _ => .ask rfl fun _ => keeps_run _
      · split
        · exact release _
        · exact review _
    · exact review _

theorem applyPiggyQueryStatus_keeps {data : PiggyResponseData} :
    Keeps no (applyPiggyQueryStatus cfg n data) := by
  refine .check fun found => ?_
  split
  · exact keeps_pure _
  split
  · refine keeps_bind ?_ fun _ => keeps_bind processPiggyPaymentCallbackContent_keeps fun _ =>
      keeps_pure _
    exact .check fun _ => .check fun _ => .check fun _ => .run fun _ => keeps_check _
  · exact keeps_bind processPiggyPaymentCallbackContent_keeps fun _ => keeps_pure _

theorem queryPiggyOrderStatusWithEvidence_keeps :
    Keeps no (queryPiggyOrderStatusWithEvidence cfg n) := by
  refine .ask rfl fun setting => ?_
  split
  · exact keeps_pure _
  refine .ask rfl fun reply => ?_
  split
  · refine .ask rfl fun _ => keeps_bind (safe_attempt (keeps_run _)) fun _ => ?_
    split
    · exact keeps_pure _
    refine keeps_bind (safe_attempt (keeps_run _)) fun _ => ?_
    split
    · split <;> exact keeps_pure _
    · exact keeps_pure _
  · refine keeps_bind (safe_attempt (keeps_run _)) fun _ => ?_
    split
    · exact keeps_pure _
    · refine keeps_bind (safe_attempt (applyPiggyQueryStatus_keeps _)) fun _ => ?_
      split <;> exact keeps_pure _

theorem queryPiggyOrderStatus_keeps : Keeps no (queryPiggyOrderStatus cfg n) := by
  refine keeps_bind (queryPiggyOrderStatusWithEvidence_keeps n) fun evidence => ?_
  split
  · exact keeps_pure _
  · exact safe_fail _

variable {id : Nat}

theorem currentOrderResult_keeps {fallback : Option WithdrawApprovalResult} :
    Keeps no (piggyWithdrawApprovalResultFromCurrentOrder cfg id fallback) :=
  .run fun _ => keeps_pure _

theorem checkedResult_keeps {α β : Type} {r : Except Err α} {f : α → β} :
    Keeps no (do return f (← check r) : WithdrawProg cfg β) :=
  .check fun _ => keeps_pure _

variable {order : WithdrawOrder}

theorem handlePiggyDuplicateOuterTradeNoSubmission_keeps {failReason reqDigest respDigest : String} :
    Keeps no
      (handlePiggyDuplicateOuterTradeNoSubmission cfg id order failReason reqDigest respDigest) := by
  refine keeps_bind (queryPiggyOrderStatusWithEvidence_keeps _) fun evidence =>
    .run fun current => ?_
  split
  · exact checkedResult_keeps
  refine .ask rfl fun _ => .run fun marked => ?_
  split
  · exact keeps_pure _
  · exact currentOrderResult_keeps

theorem submitPiggyOrderToProvider_keeps {setting : PiggyWithdrawSetting} :
    Keeps no (submitPiggyOrderToProvider cfg id order setting) := by
  refine .check fun _ => .ask rfl fun reply => .ask rfl fun now => ?_
  split
  · split
    · exact handlePiggyDuplicateOuterTradeNoSubmission_keeps
    refine .run fun released => ?_
    split
    · exact safe_fail _
    · exact keeps_bind currentOrderResult_keeps fun _ => checkedResult_keeps
  · refine .run fun marked => ?_
    split
    · exact keeps_pure _
    · exact currentOrderResult_keeps
  · refine .run fun updated => ?_
    split
    · exact keeps_pure _
    · exact .run fun _ => currentOrderResult_keeps

theorem adminApproveWithdrawOrder_keeps {id reviewerId : Nat} {remark : String} :
    Keeps no (adminApproveWithdrawOrder cfg id reviewerId remark) := by
  refine .run fun provider => ?_
  split
  · refine keeps_bind ?_ fun _ => keeps_pure _
    exact .ask rfl fun _ => .check fun _ => .check fun _ => .ask rfl fun _ => .run fun _ =>
      submitPiggyOrderToProvider_keeps
  · exact .ask rfl fun _ => keeps_run _

theorem adminRecoverPiggyApprovedSubmissionWithResult_keeps :
    Keeps no (adminRecoverPiggyApprovedSubmissionWithResult cfg id) := by
  refine .ask rfl fun setting => .check fun _ => .check fun _ => .ask rfl fun now =>
    .run fun claimed => .run fun order => ?_
  split
  · exact .check fun _ => checkedResult_keeps
  refine keeps_bind (queryPiggyOrderStatusWithEvidence_keeps _) fun evidence =>
    .ask rfl fun now => ?_
  split
  · refine .run fun current => ?_
    split
    · exact checkedResult_keeps
    · exact submitPiggyOrderToProvider_keeps
  split
  · exact .run fun _ => .run fun _ => checkedResult_keeps
  refine .run fun _ => .run fun current => ?_
  split
  · exact checkedResult_keeps
  · exact keeps_pure _

theorem adminCancelPiggyOrder_keeps {id adminId : Nat} {reason : String} :
    Keeps no (adminCancelPiggyOrder cfg id adminId reason) := by
  have claim : Keeps no (claimPiggyOrderForCancel cfg id) :=
    .ask rfl fun _ => .run fun _ => .run fun _ => .check fun _ => keeps_pure _
  refine .ask rfl fun _ => .check fun _ => keeps_bind claim fun order => .ask rfl fun reply =>
    .ask rfl fun now => ?_
  split
  · exact keeps_bind (safe_ignore (keeps_run _)) fun _ => safe_fail _
  · exact keeps_run _

theorem scanPiggyOrder_keeps :
    Keeps no (scanPiggyOrder cfg order id) := by
  refine .ask rfl fun setting => .ask rfl fun now => ?_
  split
  · split
    · exact safe_ignore adminRecoverPiggyApprovedSubmissionWithResult_keeps
    · exact keeps_pure _
  · exact safe_ignore (confirmPiggyOrder_keeps _)
  · split
    · exact safe_ignore (queryPiggyOrderStatus_keeps _)
    · exact keeps_pure _
  · split
    · refine keeps_bind (safe_attempt (queryPiggyOrderStatus_keeps _)) fun _ => ?_
      split
      · exact safe_ignore (keeps_run _)
      · exact keeps_pure _
    · exact keeps_pure _
  · exact safe_ignore (queryPiggyOrderStatus_keeps _)
  · exact safe_ignore (queryPiggyOrderStatus_keeps _)
  · split
    · exact safe_ignore (queryPiggyOrderStatus_keeps _)
    · exact keeps_pure _
  · exact keeps_pure _

theorem processPiggyCallbackOnce_keeps {logId : Nat} :
    Keeps no (processPiggyCallbackOnce cfg logId content) := by
  have finish : ∀ t : WithdrawTx, Keeps no (Prog.ignore (run t : WithdrawProg cfg _)) :=
    fun t => safe_ignore (keeps_run t)
  refine keeps_bind (safe_attempt (keeps_run _)) fun processed => ?_
  split
  · exact keeps_bind (finish _) fun _ => safe_fail _
  · exact finish _
  refine keeps_bind (safe_attempt processPiggyPaymentCallbackContent_keeps) fun _ => ?_
  split
  · exact keeps_bind (finish _) fun _ => safe_fail _
  · exact finish _

theorem handlePiggyPaymentCallback_keeps {cb : PiggyPaymentCallback} :
    Keeps no (handlePiggyPaymentCallback cfg cb) := by
  refine .ask rfl fun setting => .run fun logId => ?_
  cases cb with
  | rejected => exact keeps_bind (safe_ignore (keeps_run _)) fun _ => safe_fail _
  | signed => exact processPiggyCallbackOnce_keeps
  | unsigned =>
    refine keeps_bind (safe_attempt ?_) fun _ => ?_
    · exact Keeps.check fun _ => .run fun _ => keeps_check _
    · split
      · exact keeps_bind (safe_ignore (keeps_run _)) fun _ => safe_fail _
      · exact processPiggyCallbackOnce_keeps

theorem submitPiggyWithdrawOrder_keeps (req : PiggyWithdrawSubmitRequest) :
    Keeps no (submitPiggyWithdrawOrder cfg req) := by
  exact .check fun _ => .check fun _ => .check fun _ => .ask rfl fun _ => .check fun _ =>
    .check fun _ => .ask rfl fun _ => .check fun _ => .ask rfl fun _ => .run fun _ =>
    .check fun _ => .check fun _ => .ask rfl fun _ => .check fun _ => .check fun _ =>
    .check fun _ => .ask rfl fun _ => .run fun _ => keeps_pure _

theorem WithdrawRequest.handle_keeps (req : WithdrawRequest) : Keeps no (req.handle cfg) := by
  cases req with
  | submitWithdrawOrder =>
    exact .ask rfl fun _ => .ask rfl fun _ => .run fun _ => keeps_pure _
  | submitPiggyWithdrawOrder req => exact submitPiggyWithdrawOrder_keeps req
  | adminApproveWithdrawOrder => exact adminApproveWithdrawOrder_keeps
  | adminRejectWithdrawOrder =>
    refine .run fun provider => .ask rfl fun now => ?_
    split <;> exact keeps_run _
  | adminRetryPiggyConfirm => exact .run fun _ => .check fun _ => confirmPiggyOrder_keeps _
  | adminRecoverPiggyApprovedSubmission =>
    exact safe_ignore adminRecoverPiggyApprovedSubmissionWithResult_keeps
  | adminCancelPiggyOrder => exact adminCancelPiggyOrder_keeps
  | scanPiggyWithdrawCompensations =>
    exact .ask rfl fun _ => .ask rfl fun _ => .run fun _ =>
      safe_forEach (fun _ => scanPiggyOrder_keeps) _
  | piggyPaymentCallback => exact handlePiggyPaymentCallback_keeps
  | _ => exact .ask rfl fun _ => keeps_run _

/-! ## Whole runs -/

/-- The provider reports that it waits for the confirmation of order
`PWDR120260101`. -/
def awaitCallback (frontLogNo : String) : PiggyPaymentCallback :=
  .signed { outerTradeNo := "PWDR120260101", notifyType := "submitResult", tradeStatus := "await"
            frontLogNo := frontLogNo }

/-- No order with this number has left `pending`, and nothing was recorded yet. -/
structure Unreviewed (no : String) (s : Store) : Prop where
  pending : ∀ o ∈ s.withdrawOrders, o.provider = .piggyLaborV3 → o.withdrawNo = no →
    o.status = .pending
  trace : s.trace = []

/-- **A payout is confirmed only after its approval**, if no payment result is taken for the order
while it waits for its review. -/
theorem confirm_sent_after_approval (h : Unreviewed no s) {w : World (withdrawSystem cfg)}
    (hw : Reachable (WithdrawEntry cfg) (NoEarlyResult no) s w) :
    ConfirmsApproved no w.state.trace := by
  have hinit : ApprovalInv no s := by
    refine ⟨?_, ?_⟩
    · intro o ho hp hn _ hs
      exact absurd (h.pending o ho hp hn) hs
    · intro i hi
      rw [h.trace] at hi
      cases hi
  have hentry : ∀ p, WithdrawEntry cfg p → Keeps no p := by
    rintro p ⟨req, rfl⟩
    exact req.handle_keeps
  exact (wp_reachable hentry hinit hw).1.confirms

/-- An order that is approved, submitted and then confirmed. -/
theorem confirm_sent_after_approval_run : ∃ w : World (withdrawSystem Config.shipped),
    w.state.trace = [.approved "PWDR120260101", .confirmSent "PWDR120260101"] ∧
      ConfirmsApproved "PWDR120260101" w.state.trace := by
  obtain ⟨w, hw, hq⟩ := exists_served (C := NoEarlyResult "PWDR120260101")
    (fun s t => !callbackOnPending "PWDR120260101" s t)
    (fun _ _ h => by simpa [NoEarlyResult] using h)
    [(earnHundred, 2), (.submitPiggyWithdrawOrder { userId := 1, amount := 10, remark := "" }, 7),
      (.adminApproveWithdrawOrder 0 9 "", 7), (.piggyPaymentCallback (awaitCallback "L1"), 14)]
    (q := fun w => w.state.trace = [.approved "PWDR120260101", .confirmSent "PWDR120260101"])
    (by decide +kernel)
  exact ⟨w, hq, confirm_sent_after_approval ⟨by simp, rfl⟩ hw⟩

/-- Without that condition: the first payment result parks the pending order in `manual_review`, the
second one moves it on to `await_confirm`, and the confirm-payment request leaves. -/
theorem unapproved_payout : ∃ w : World (withdrawSystem Config.shipped),
    Reachable (WithdrawEntry Config.shipped) (fun _ _ => True) {} w ∧
      ¬ ConfirmsApproved "PWDR120260101" w.state.trace := by
  obtain ⟨w, hw, hq⟩ := exists_served (C := fun _ _ => True) (fun _ _ => true)
    (fun _ _ _ => trivial) [(earnHundred, 2),
      (.submitPiggyWithdrawOrder { userId := 1, amount := 10, remark := "" }, 7),
      (.piggyPaymentCallback (awaitCallback "L1"), 7),
      (.piggyPaymentCallback (awaitCallback "L2"), 14)]
    (q := fun w => w.state.trace = [.confirmSent "PWDR120260101"]) (by decide +kernel)
  refine ⟨w, hw, fun happ => ?_⟩
  rw [hq] at happ
  obtain ⟨j, hj, -⟩ := happ 0 rfl
  exact absurd hj (Nat.not_lt_zero j)

end ApiGateway
