import ApiGateway.Service.Redemption

/-!
# A code pays once

Two calls that read the same code before either of them has saved it both find it enabled. The
second to get a lock on the rows does not look at the code again, so the code pays twice. If no
other call that has read a code is open when it is read, it is still enabled at the commit.
-/

namespace ApiGateway

open Table Threads List RedeemThread RedeemShared

variable {G : World RedeemShared RedeemThread → Nat → RedeemInput → Bool} {s : Store}
  {key : String} {id : Nat} {r : Redemption} {d : RedeemShared}
  {w : World RedeemShared RedeemThread}
variable {c : RedeemCall} {redeemedTime : Int}

/-- The worlds that calls of `redeem` reach from a database, with the steps that `G` allows. -/
def RedeemReachable (G : World RedeemShared RedeemThread → Nat → RedeemInput → Bool) (s : Store) :
    World RedeemShared RedeemThread → Prop :=
  Reachable redeemStep RedeemThread.Starts (fun w i x => G w i x = true) { store := s }

theorem exists_redeemReachable
    (es : List (Event RedeemThread RedeemInput)) {q : World RedeemShared RedeemThread → Prop}
    [DecidablePred q] (hS : ∀ t, Event.start t ∈ es → t.Starts)
    (h : ((⟨{ store := s }, []⟩ : World RedeemShared RedeemThread).play redeemStep G es).any q) :
    ∃ w, RedeemReachable G s w ∧ q w :=
  exists_reachable es (fun _ _ _ hg => hg) hS h

/-! ## What a step can do -/

theorem readRedemptionTx_ok {now : Int} (h : readRedemptionTx key now s = .ok (id, r)) :
    s.redemptionByKey key = some (id, r) ∧ r.status = .enabled := by
  simp only [readRedemptionTx, bind_eq_ok, orFail_eq_ok, failIf_eq_ok, pure_eq_ok, Prod.exists] at h
  obtain ⟨id', r', hrow, -, hstatus, -, -, heq⟩ := h
  obtain ⟨rfl, rfl⟩ := Prod.mk.injEq .. ▸ heq
  exact ⟨hrow, not_not.mp hstatus⟩

/-- A step gives up, reads the code, writes inside its transaction, or commits. -/
theorem redeemStep_cases {x : RedeemInput} {t t' : RedeemThread} {d' : RedeemShared}
    (h : redeemStep x t d = some (t', d')) :
    (d' = d ∧ ∃ c e, t' = .returned c (.error e)) ∨
    (d' = d ∧ ∃ c id r, t = .called c ∧ t' = .read c id r ∧
      d.store.redemptionByKey c.key = some (id, r) ∧ r.status = .enabled) ∨
    (d' = d ∧ t'.opened = t.opened ∧ t'.opened.isSome) ∨
    (∃ c id r redeemedTime, t = .saved c id r redeemedTime ∧ t' = .returned c (.ok r.quota) ∧
      d' = d.commit c id r redeemedTime) := by
  unfold redeemStep at h
  split at h
  · rename_i c
    split at h
    · obtain ⟨rfl, rfl⟩ := some_pair_inj h
      exact .inl ⟨rfl, c, _, rfl⟩
    split at h
    · obtain ⟨rfl, rfl⟩ := some_pair_inj h
      exact .inl ⟨rfl, c, _, rfl⟩
    rename_i id r hread
    split at h
    · obtain ⟨rfl, rfl⟩ := some_pair_inj h
      exact .inl ⟨rfl, c, _, rfl⟩
    · obtain ⟨rfl, rfl⟩ := some_pair_inj h
      exact .inr (.inl ⟨rfl, c, id, r, rfl, rfl, readRedemptionTx_ok hread⟩)
  · rename_i c id r
    split at h <;> obtain ⟨rfl, rfl⟩ := some_pair_inj h
    · exact .inl ⟨rfl, c, _, rfl⟩
    · exact .inr (.inr (.inl ⟨rfl, rfl, rfl⟩))
  · rename_i c id r
    split at h <;> obtain ⟨rfl, rfl⟩ := some_pair_inj h
    · exact .inl ⟨rfl, c, _, rfl⟩
    · exact .inr (.inr (.inl ⟨rfl, rfl, rfl⟩))
  · rename_i c id r redeemedTime
    split at h <;> obtain ⟨rfl, rfl⟩ := some_pair_inj h
    · exact .inl ⟨rfl, c, _, rfl⟩
    · exact .inr (.inr (.inr ⟨c, id, r, redeemedTime, rfl, rfl, rfl⟩))
  · cases h

theorem redeemStep_commits {x : RedeemInput} {t t' : RedeemThread} {d' : RedeemShared}
    (h : redeemStep x t d = some (t', d')) :
    d' = d ∨ ∃ c id r redeemedTime, t = .saved c id r redeemedTime ∧
      t' = .returned c (.ok r.quota) ∧ d' = d.commit c id r redeemedTime := by
  rcases redeemStep_cases h with ⟨hd, -⟩ | ⟨hd, -⟩ | ⟨hd, -⟩ | hcommit
  · exact .inl hd
  · exact .inl hd
  · exact .inl hd
  · exact .inr hcommit

/-! ## The log of payments -/

def RedeemShared.paidFor (d : RedeemShared) (key : String) : Int :=
  ((d.payments.filter fun p => p.key == key).map RedeemPayment.quota).sum

/-- Whatever the interleaving, a payment is a call that reported success. -/
theorem countP_paidKey (h : RedeemReachable G s w) (key : String) :
    w.threads.countP (fun t => t.paidKey == some key) =
      (w.shared.payments.map RedeemPayment.key).count key := by
  induction h with
  | init => rfl
  | @tail w _ _ hs ih =>
    cases hs with
    | start t ht =>
      obtain ⟨c, rfl⟩ := ht
      simpa [paidKey] using ih
    | move i x t t' _ hi _ hx =>
      obtain ⟨hlt, hget⟩ := List.getElem?_eq_some_iff.mp hi
      -- a thread that moves has not returned
      have hold : t.paidKey = none := by
        cases t with
        | returned => exact nomatch hx
        | _ => rfl
      rw [countP_set hlt, hget, hold, ih]
      rcases redeemStep_cases hx with ⟨rfl, c, e, rfl⟩ | ⟨rfl, c, id, r, -, rfl, -⟩ |
        ⟨rfl, -, hsome⟩ | ⟨c, id, r, -, -, rfl, rfl⟩
      · simp [paidKey]
      · simp [paidKey]
      · cases t' with
        | returned => exact nomatch hsome
        | _ => simp [paidKey]
      · simp [paidKey, count_singleton]

/-! ## Rows that are read -/

theorem redemptionByKey_key (h : s.redemptionByKey key = some (id, r)) :
    s.redemptions[id]? = some r ∧ r.key = key ∧ r.deleted = false := by
  obtain ⟨hrow, hp⟩ := lookup_some h
  simp only [Bool.and_eq_true, beq_iff_eq, Bool.not_eq_true'] at hp
  exact ⟨hrow, hp⟩

theorem redemptionByKey_commit_ne {k : String} (h : d.store.redemptionByKey c.key = some (id, r))
    (hk : k ≠ c.key) :
    (d.commit c id r redeemedTime).store.redemptionByKey k = d.store.redemptionByKey k := by
  obtain ⟨hrow, hkey, -⟩ := redemptionByKey_key h
  have hne : (r.key == k) = false := beq_false_of_ne (fun h => hk (h.symm.trans hkey))
  exact lookup_modify_of_not hrow (by simp [hne]) (by simp [Redemption.redeemedBy, hne])

theorem redemptionByKey_commit_self (h : d.store.redemptionByKey c.key = some (id, r)) :
    (d.commit c id r redeemedTime).store.redemptionByKey c.key =
      some (id, r.redeemedBy c.userId redeemedTime) := by
  obtain ⟨-, hkey, hdel⟩ := redemptionByKey_key h
  exact lookup_modify h (by simp [Redemption.redeemedBy, hkey, hdel])

/-- Calls read a code, go on with an enabled one, and use it up. -/
def redeemReads : OnceLog redeemStep RedeemThread.Starts String (Nat × Redemption) where
  look d k := d.store.redemptionByKey k
  fresh row := row.2.status = .enabled
  opened := RedeemThread.opened
  reads := RedeemThread.readsKey
  start_closed := by
    rintro _ ⟨c, rfl⟩
    rfl
  opens := by
    intro x t d t' d' k row h hopen
    rcases redeemStep_cases h with ⟨-, c, e, rfl⟩ | ⟨-, c, id, r, rfl, rfl, hrow⟩ | ⟨-, hsame, -⟩ |
      ⟨c, id, r, redeemedTime, -, rfl, -⟩
    · exact nomatch hopen
    · obtain ⟨rfl, rfl⟩ := some_pair_inj hopen
      exact .inr ⟨rfl, hrow⟩
    · exact .inl (hsame ▸ hopen)
    · exact nomatch hopen
  writes := by
    intro x t d t' d' h hplace k
    rcases redeemStep_commits h with rfl | ⟨c, id, r, redeemedTime, rfl, rfl, rfl⟩
    · exact .inl rfl
    by_cases hk : k = c.key
    · subst hk
      exact .inr ⟨rfl, _, rfl⟩
    · exact .inl (redemptionByKey_commit_ne (hplace c.key (id, r) rfl) hk)
  log d := d.payments.map RedeemPayment.key
  spent row := row.2.status = .used
  not_fresh := by
    intro row hused henabled
    exact nomatch (hused.symm.trans henabled)
  logs := by
    intro x t d t' d' h hplace
    rcases redeemStep_commits h with rfl | ⟨c, id, r, redeemedTime, rfl, rfl, rfl⟩
    · exact .inl rfl
    · refine .inr ⟨c.key, (id, r), _, rfl, ?_, redemptionByKey_commit_self (hplace _ _ rfl), rfl⟩
      simp

/-! ## Once -/

theorem payments_quota (h : RedeemReachable redeemOneReader s w)
    (hr : s.redemptionByKey key = some (id, r)) :
    (∃ r', w.shared.store.redemptionByKey key = some (id, r') ∧ r'.quota = r.quota) ∧
      ∀ p ∈ w.shared.payments, p.key = key → p.quota = r.quota := by
  induction h with
  | init => exact ⟨⟨r, hr, rfl⟩, fun p hp => nomatch hp⟩
  | @tail w _ hreach hs ih =>
    cases hs with
    | start => exact ih
    | move i x t _ _ hi _ hx =>
      rcases redeemStep_commits hx with rfl | ⟨c, id1, r1, redeemedTime, rfl, rfl, rfl⟩
      · exact ih
      obtain ⟨⟨r', hr', hq⟩, hpaid⟩ := ih
      have hplace : w.shared.store.redemptionByKey c.key = some (id1, r1) :=
        ((redeemReads.stable (fun _ _ _ h => (Bool.and_eq_true_iff.mp h).2) hreach).here i _ hi _ _ rfl).1
      by_cases hk : key = c.key
      · subst hk
        obtain ⟨rfl, rfl⟩ := some_pair_inj (hr'.symm.trans hplace)
        refine ⟨⟨_, redemptionByKey_commit_self hplace, hq⟩, ?_⟩
        intro p hp hpk
        rcases mem_append.mp hp with hp | hp
        · exact hpaid p hp hpk
        · obtain rfl := mem_singleton.mp hp
          exact hq
      · refine ⟨⟨r', (redemptionByKey_commit_ne hplace hk).trans hr', hq⟩, ?_⟩
        intro p hp hpk
        rcases mem_append.mp hp with hp | hp
        · exact hpaid p hp hpk
        · obtain rfl := mem_singleton.mp hp
          exact absurd hpk.symm hk

/-- **A redemption code pays once.** If no call reads a code while another call that has read it is
open, it adds no more than its quota, and one call at most reports success. -/
theorem redemption_code_pays_once {s : Store} {w : World RedeemShared RedeemThread}
    (h : RedeemReachable redeemOneReader s w) {key : String} {id : Nat} {r : Redemption}
    (hr : s.redemptionByKey key = some (id, r)) (hquota : 0 ≤ r.quota) :
    w.shared.paidFor key ≤ r.quota ∧
      w.threads.countP (fun t => t.paidKey == some key) ≤ 1 := by
  have honce : (w.shared.payments.map RedeemPayment.key).Nodup :=
    (redeemReads.once (fun _ _ _ h => (Bool.and_eq_true_iff.mp h).2) rfl h).1
  refine ⟨?_, ?_⟩
  · have hlen : (w.shared.payments.filter fun p => p.key == key).length ≤ 1 := by
      refine length_le_one_of_slot (b := key) (honce.sublist (filter_sublist.map _)) ?_
      intro p hp
      exact beq_iff_eq.mp (mem_filter.mp hp).2
    have hquotas : ∀ p ∈ w.shared.payments.filter fun p => p.key == key, p.quota = r.quota := by
      intro p hp
      obtain ⟨hmem, hkey⟩ := mem_filter.mp hp
      exact (payments_quota h hr).2 p hmem (beq_iff_eq.mp hkey)
    unfold RedeemShared.paidFor
    generalize (w.shared.payments.filter fun p => p.key == key) = ps at hlen hquotas
    match ps, hlen, hquotas with
    | [], _, _ => simpa using hquota
    | [p], _, hquotas => simp [hquotas p mem_cons_self]
  · rw [countP_paidKey h]
    exact nodup_iff_count_le_one.mp honce key

def oneCode : Store where
  redemptions := [{ key := "code" }]

/-- One call pays, and a call that comes after it does not. -/
theorem redemption_code_pays_once_then_refuses :
    ∃ w, RedeemReachable redeemOneReader oneCode w ∧
      (w.shared.paidFor "code" = 100 ∧ w.threads.length = 2) ∧
      w.shared.paidFor "code" ≤ 100 ∧ w.threads.countP (fun t => t.paidKey == some "code") ≤ 1 := by
  obtain ⟨w, hw, hq⟩ := exists_redeemReachable (G := redeemOneReader) (s := oneCode)
    (q := fun w => w.shared.paidFor "code" = 100 ∧ w.threads.length = 2)
    [.start (.called ⟨"code", 1⟩), .start (.called ⟨"code", 2⟩), .move 0 ⟨10, false⟩,
      .move 0 ⟨11, false⟩, .move 0 ⟨12, false⟩, .move 0 ⟨13, false⟩, .move 1 ⟨14, false⟩]
    (by simp [RedeemThread.Starts]) (by decide +kernel)
  have hcode : oneCode.redemptionByKey "code" = some (0, { key := "code" }) := rfl
  exact ⟨w, hw, hq, redemption_code_pays_once hw hcode (by decide)⟩

/-- **A code that pays twice.** Two calls read the code, and then both write. -/
theorem redemption_code_pays_twice :
    ∃ w, RedeemReachable redeemRowLocks oneCode w ∧ w.shared.paidFor "code" = 200 ∧
      w.threads.countP (fun t => t.paidKey == some "code") = 2 :=
  exists_redeemReachable [.start (.called ⟨"code", 1⟩), .start (.called ⟨"code", 2⟩),
      .move 0 ⟨10, false⟩, .move 1 ⟨10, false⟩, .move 0 ⟨11, false⟩, .move 1 ⟨11, false⟩,
      .move 0 ⟨12, false⟩, .move 0 ⟨13, false⟩, .move 1 ⟨14, false⟩, .move 1 ⟨15, false⟩]
    (by simp [RedeemThread.Starts]) (by decide +kernel)

end ApiGateway
