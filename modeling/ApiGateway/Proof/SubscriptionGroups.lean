import ApiGateway.Lib.Runs
import ApiGateway.Service.Subscription

/-!
# Group upgrades of subscriptions

A subscription row remembers the group its buyer had, unless the buyer was in the group of the plan
already. So the group comes back only with the end of the one that remembers it, the root, and it is
right as long as that is the last to end: it outlasts the renewals bought on top of it (`Root`),
they are for the same group, and no administrator takes it away before them.
-/

namespace ApiGateway

open Table Decimal Runs List UserSubscription

variable {clock : Clock} {s s' : Store} {u : Nat} {home : String}
variable {id j : Nat} {sub sub' : UserSubscription} {now : Int}
variable {last : UserSubscription} {i : Nat}

/-- An active subscription of the user that put them into a group. -/
def UserSubscription.ActiveUpgrade (u : Nat) (sub : UserSubscription) : Prop :=
  sub.userId = u ∧ sub.status = .active ∧ sub.upgradeGroup ≠ ""

/-- A subscription of the user that put them into a group, and was found to be over. -/
def UserSubscription.ExpiredUpgrade (u : Nat) (sub : UserSubscription) : Prop :=
  sub.userId = u ∧ sub.status = .expired ∧ sub.upgradeGroup ≠ ""

instance (sub : UserSubscription) : Decidable (sub.ActiveUpgrade u) :=
  inferInstanceAs (Decidable (_ ∧ _ ∧ _))

instance (sub : UserSubscription) : Decidable (sub.ExpiredUpgrade u) :=
  inferInstanceAs (Decidable (_ ∧ _ ∧ _))

inductive GroupOp where
  | purchase (u planId : Nat) (now : Int)
  | expire (u : Nat) (now : Int)
  | invalidate (id : Nat) (now : Int)
  | delete (id : Nat) (now : Int)

variable (clock) in
def GroupOp.exec : GroupOp → Store → Except Err Store
  | .purchase u planId now, s => createUserSubscriptionFromPlanTx clock u planId now s
  | .expire u now, s => .ok (expireUserSubscriptions u now s)
  | .invalidate id now, s => adminInvalidateUserSubscription id now s
  | .delete id now, s => adminDeleteUserSubscription id now s

/-- The user's group is the group of an active subscription, or their own when there is no
such subscription. -/
structure GroupRight (u : Nat) (home : String) (s : Store) : Prop where
  idle : (∀ sub ∈ s.subscriptions, ¬ sub.ActiveUpgrade u) → (s.users u).group = home
  active : (∃ sub ∈ s.subscriptions, sub.ActiveUpgrade u) →
    ∃ sub ∈ s.subscriptions, sub.ActiveUpgrade u ∧ (s.users u).group = sub.upgradeGroup

/-! ## Orderly calls -/

/-- A subscription for `group` until `endTime` fits on top of the user's others: the active ones are
for the same group, and outlast it if they remember the user's own group. The first one ends after
those that are over. -/
def UpgradeFits (u : Nat) (group : String) (endTime : Int) (s : Store) : Prop :=
  0 < endTime ∧
  (∀ sub ∈ s.subscriptions, sub.ActiveUpgrade u →
    sub.upgradeGroup = group ∧ (sub.prevUserGroup ≠ "" → endTime < sub.endTime)) ∧
  ((∀ sub ∈ s.subscriptions, ¬ sub.ActiveUpgrade u) →
    ∀ sub ∈ s.subscriptions, sub.ExpiredUpgrade u → sub.endTime ≤ endTime)

/-- Subscription `id` may be taken away: no other one is overdue, and if there is another one then
`id` does not remember the user's own group. -/
def MayEnd (u id : Nat) (now : Int) (s : Store) : Prop :=
  ∀ sub ∈ s.subscription id, sub.userId = u →
    ∀ r ∈ s.subscriptions.zipIdx, r.2 ≠ id → r.1.ActiveUpgrade u →
      now < r.1.endTime ∧ ¬ (sub.ActiveUpgrade u ∧ sub.prevUserGroup ≠ "")

variable (clock) in
/-- The calls that keep the group of user `u` right. -/
def GroupOp.Orderly (u : Nat) : GroupOp → Store → Prop
  | .purchase buyer planId now, s => buyer = u → ∀ plan ∈ s.subscriptionPlans[planId]?,
      trimSpace plan.upgradeGroup ≠ "" → ∀ endTime ∈ (plan.calcPlanEndTime clock now).toOption,
        UpgradeFits u (trimSpace plan.upgradeGroup) endTime s
  | .expire _ _, _ => True
  | .invalidate id now, s => MayEnd u id now s
  | .delete id now, s => MayEnd u id now s

instance (group : String) (endTime : Int) : Decidable (UpgradeFits u group endTime s) :=
  inferInstanceAs (Decidable (_ ∧ _ ∧ _))

instance (id : Nat) (now : Int) : Decidable (MayEnd u id now s) :=
  inferInstanceAs (Decidable (∀ sub ∈ s.subscription id, _))

instance GroupOp.decidableOrderly (op : GroupOp) (s : Store) :
    Decidable (op.Orderly clock u s) := by
  cases op <;> dsimp only [GroupOp.Orderly] <;> infer_instance

/-! ## The invariant -/

/-- The active subscription that remembers the user's own group: it ends after every other one. -/
structure Root (u : Nat) (home : String) (i : Nat) (root : UserSubscription) (s : Store) : Prop where
  row : s.subscriptions[i]? = some root
  active : root.ActiveUpgrade u
  prev : root.prevUserGroup = home
  outlasts : ∀ (j : Nat) sub, s.subscriptions[j]? = some sub → j ≠ i → sub.ActiveUpgrade u →
    sub.endTime < root.endTime
  latest : ∀ (j : Nat) sub, s.subscriptions[j]? = some sub → sub.ExpiredUpgrade u →
    sub.endTime < root.endTime ∨ (sub.endTime = root.endTime ∧ j < i)

structure GroupInv (u : Nat) (home : String) (s : Store) : Prop where
  /-- A row remembers the user's own group, or nothing, and nothing if it is for that group. -/
  remembers : ∀ (j : Nat) sub, s.subscriptions[j]? = some sub → sub.userId = u →
    sub.upgradeGroup ≠ "" → trimSpace sub.upgradeGroup = sub.upgradeGroup ∧
      (sub.prevUserGroup = "" ∨ (sub.prevUserGroup = home ∧ sub.upgradeGroup ≠ home))
  ends : ∀ (j : Nat) sub, s.subscriptions[j]? = some sub → sub.ActiveUpgrade u → 0 < sub.endTime
  active : ∀ (j : Nat) sub, s.subscriptions[j]? = some sub → sub.ActiveUpgrade u →
    (s.users u).group = sub.upgradeGroup
  idle : (∀ (j : Nat) sub, s.subscriptions[j]? = some sub → ¬ sub.ActiveUpgrade u) →
    (s.users u).group = home
  /-- While the user is away from their own group, some active row remembers it. -/
  root : (s.users u).group ≠ home → ∃ i root, Root u home i root s

theorem GroupInv.right (h : GroupInv u home s) : GroupRight u home s where
  idle hnone := h.idle fun j sub hrow => hnone sub (mem_of_getElem? hrow)
  active := by
    rintro ⟨sub, hmem, hactive⟩
    obtain ⟨j, hrow⟩ := mem_iff_getElem?.mp hmem
    exact ⟨sub, hmem, hactive, h.active j sub hrow hactive⟩

structure SameFor (u : Nat) (s s' : Store) : Prop where
  rows : ∀ (j : Nat) (sub : UserSubscription), sub.userId = u →
    (s'.subscriptions[j]? = some sub ↔ s.subscriptions[j]? = some sub)
  group : (s'.users u).group = (s.users u).group

theorem GroupInv.congr (h : GroupInv u home s) (hsame : SameFor u s s') : GroupInv u home s' where
  remembers j sub hrow huser := h.remembers j sub ((hsame.rows j sub huser).mp hrow) huser
  ends j sub hrow hactive := h.ends j sub ((hsame.rows j sub hactive.1).mp hrow) hactive
  active j sub hrow hactive := by
    rw [hsame.group]
    exact h.active j sub ((hsame.rows j sub hactive.1).mp hrow) hactive
  idle hnone := by
    rw [hsame.group]
    refine h.idle fun j sub hrow hactive => ?_
    exact hnone j sub ((hsame.rows j sub hactive.1).mpr hrow) hactive
  root hne := by
    rw [hsame.group] at hne
    obtain ⟨i, root, hroot⟩ := h.root hne
    exact ⟨i, root, {
      row := (hsame.rows i root hroot.active.1).mpr hroot.row
      active := hroot.active
      prev := hroot.prev
      outlasts := fun j sub hrow hji hactive =>
        hroot.outlasts j sub ((hsame.rows j sub hactive.1).mp hrow) hji hactive
      latest := fun j sub hrow hexpired =>
        hroot.latest j sub ((hsame.rows j sub hexpired.1).mp hrow) hexpired }⟩

/-! ## Purchases -/

/-- The buyer of `sub` moves into its group and the row remembers the one before, or they are there
already and it remembers nothing. -/
def MovesBuyer (u : Nat) (sub : UserSubscription) (s s' : Store) : Prop :=
  (sub.upgradeGroup ≠ "" ∧ (s.users u).group ≠ sub.upgradeGroup ∧
    sub.prevUserGroup = (s.users u).group ∧
    s'.users = (s.updateUserGroup u sub.upgradeGroup).users) ∨
  ((sub.upgradeGroup ≠ "" → (s.users u).group = sub.upgradeGroup) ∧
    sub.prevUserGroup = "" ∧ s'.users = s.users)

theorem createUserSubscriptionFromPlanTx_ok {planId : Nat}
    (h : createUserSubscriptionFromPlanTx clock u planId now s = .ok s') :
    ∃ plan endTime sub, s.subscriptionPlans[planId]? = some plan ∧
      plan.calcPlanEndTime clock now = .ok endTime ∧
      s'.subscriptions = s.subscriptions ++ [sub] ∧ sub.userId = u ∧ sub.status = .active ∧
      sub.endTime = endTime ∧ sub.upgradeGroup = trimSpace plan.upgradeGroup ∧
      MovesBuyer u sub s s' := by
  unfold createUserSubscriptionFromPlanTx at h
  simp only [bind_eq_ok, orFail_eq_ok, pure_eq_ok] at h
  obtain ⟨plan, hplan, -, -, -, -, endTime, hend, rfl⟩ := h
  by_cases hmoves : trimSpace plan.upgradeGroup ≠ "" ∧
      (s.users u).group ≠ trimSpace plan.upgradeGroup
  · refine ⟨plan, endTime, _, hplan, hend, by rw [if_pos hmoves]; rfl, rfl, rfl, rfl, rfl, .inl ?_⟩
    refine ⟨hmoves.1, hmoves.2, ?_, ?_⟩
    · rw [if_pos hmoves]
    · rw [if_pos hmoves]
  refine ⟨plan, endTime, _, hplan, hend, by rw [if_neg hmoves], rfl, rfl, rfl, rfl, .inr ?_⟩
  refine ⟨fun hup => ?_, ?_, ?_⟩
  · by_contra hne
    exact hmoves ⟨hup, hne⟩
  · rw [if_neg hmoves]
  · rw [if_neg hmoves]

theorem GroupInv.purchase (h : GroupInv u home s) (hhome : home ≠ "")
    (hrows : s'.subscriptions = s.subscriptions ++ [sub]) (huser : sub.userId = u)
    (hstatus : sub.status = .active) (htrim : trimSpace sub.upgradeGroup = sub.upgradeGroup)
    (hfits : sub.upgradeGroup ≠ "" → UpgradeFits u sub.upgradeGroup sub.endTime s)
    (hgroup : MovesBuyer u sub s s') : GroupInv u home s' := by
  have hcases : ∀ j row, s'.subscriptions[j]? = some row →
      s.subscriptions[j]? = some row ∨ (j = s.subscriptions.length ∧ row = sub) := by
    intro j row hrow
    rw [hrows] at hrow
    exact getElem?_append_singleton_some hrow
  have hold : ∀ {j : Nat} {row : UserSubscription}, s.subscriptions[j]? = some row →
      s'.subscriptions[j]? = some row := by
    intro j row hrow
    rw [hrows]
    exact getElem?_append_some hrow
  have hremembers (hprev : sub.upgradeGroup ≠ "" →
      sub.prevUserGroup = "" ∨ (sub.prevUserGroup = home ∧ sub.upgradeGroup ≠ home)) (j : Nat)
      row (hrow : s'.subscriptions[j]? = some row) (huser' : row.userId = u)
      (hup : row.upgradeGroup ≠ "") : trimSpace row.upgradeGroup = row.upgradeGroup ∧
        (row.prevUserGroup = "" ∨ (row.prevUserGroup = home ∧ row.upgradeGroup ≠ home)) := by
    rcases hcases j row hrow with hrow | ⟨-, rfl⟩
    · exact h.remembers j row hrow huser' hup
    · exact ⟨htrim, hprev hup⟩
  have hends : ∀ (j : Nat) row, s'.subscriptions[j]? = some row → row.ActiveUpgrade u →
      0 < row.endTime := by
    intro j row hrow hrowActive
    rcases hcases j row hrow with hrow | ⟨-, rfl⟩
    · exact h.ends j row hrow hrowActive
    · exact (hfits hrowActive.2.2).1
  have hover : ∀ {j : Nat} {row : UserSubscription}, s'.subscriptions[j]? = some row →
      row.ExpiredUpgrade u → s.subscriptions[j]? = some row := by
    intro j row hrow hrowExpired
    refine (hcases j row hrow).resolve_right ?_
    rintro ⟨-, rfl⟩
    exact nomatch (hrowExpired.2.1.symm.trans hstatus)
  rcases hgroup with ⟨hup, hmoves, hprev, husers⟩ | ⟨hsame, hprev, husers⟩
  · -- the user moves, so no subscription is active: the active ones are for the same group
    obtain ⟨-, hactive, hexpired⟩ := hfits hup
    have hidle : ∀ (j : Nat) row, s.subscriptions[j]? = some row → ¬ row.ActiveUpgrade u := by
      intro j row hrow hrowActive
      apply hmoves
      rw [h.active j row hrow hrowActive]
      exact (hactive row (mem_of_getElem? hrow) hrowActive).1
    have hwas : (s.users u).group = home := h.idle hidle
    have hnew : s'.subscriptions[s.subscriptions.length]? = some sub := by
      rw [hrows]
      simp
    refine ⟨hremembers fun _ => ?_, hends, ?_, ?_, ?_⟩
    · exact .inr ⟨hprev.trans hwas, fun heq => hmoves (hwas.trans heq.symm)⟩
    · intro j row hrow hrowActive
      rcases hcases j row hrow with hrow | ⟨-, rfl⟩
      · exact absurd hrowActive (hidle j row hrow)
      · rw [husers]
        simp
    · intro hnone
      exact absurd ⟨huser, hstatus, hup⟩ (hnone _ sub hnew)
    intro _
    refine ⟨s.subscriptions.length, sub, hnew, ⟨huser, hstatus, hup⟩, hprev.trans hwas, ?_, ?_⟩
    · intro j row hrow hne hrowActive
      rcases hcases j row hrow with hrow | ⟨hlen, -⟩
      · exact absurd hrowActive (hidle j row hrow)
      · exact absurd hlen hne
    intro j row hrow hrowExpired
    have hrow := hover hrow hrowExpired
    have hle := hexpired (fun row' hmem hactive' => by
      obtain ⟨k, hk⟩ := mem_iff_getElem?.mp hmem
      exact hidle k row' hk hactive') row (mem_of_getElem? hrow) hrowExpired
    have hlt := (List.getElem?_eq_some_iff.mp hrow).1
    omega
  · -- the user stays where they are, and the row remembers nothing
    refine ⟨hremembers fun _ => .inl hprev, hends, ?_, ?_, ?_⟩
    · intro j row hrow hrowActive
      rw [husers]
      rcases hcases j row hrow with hrow | ⟨-, rfl⟩
      · exact h.active j row hrow hrowActive
      · exact hsame hrowActive.2.2
    · intro hnone
      rw [husers]
      exact h.idle fun j row hrow => hnone j row (hold hrow)
    intro hne
    rw [husers] at hne
    obtain ⟨i, root, hroot⟩ := h.root hne
    refine ⟨i, root, hold hroot.row, hroot.active, hroot.prev, ?_, fun j row hrow hrowExpired =>
      hroot.latest j row (hover hrow hrowExpired) hrowExpired⟩
    intro j row hrow hji hrowActive
    rcases hcases j row hrow with hrow | ⟨-, rfl⟩
    · exact hroot.outlasts j row hrow hji hrowActive
    · have hfit := (hfits hrowActive.2.2).2.1 root (mem_of_getElem? hroot.row) hroot.active
      exact hfit.2 (by rw [hroot.prev]; exact hhome)

/-! ## Expiry -/

theorem lastExpired_some (h : lastExpired u s = some last) :
    ∃ j : Nat, s.subscriptions[j]? = some last ∧ last.ExpiredUpgrade u := by
  obtain ⟨⟨sub, j⟩, hmax, rfl⟩ := Option.map_eq_some_iff.mp h
  obtain ⟨hmem, hp⟩ := mem_filter.mp (argmax_mem hmax)
  refine ⟨j, mem_zipIdx_iff_getElem?.mp hmem, ?_⟩
  simpa [ExpiredUpgrade, and_assoc] using hp

/-- The row that `ORDER BY end_time DESC, id DESC` puts first. -/
theorem lastExpired_eq (hrow : s.subscriptions[i]? = some last) (hexpired : last.ExpiredUpgrade u)
    (hlatest : ∀ (j : Nat) sub, s.subscriptions[j]? = some sub → sub.ExpiredUpgrade u → j ≠ i →
      sub.endTime < last.endTime ∨ (sub.endTime = last.endTime ∧ j < i)) :
    lastExpired u s = some last := by
  have hmem : (last, i) ∈ s.subscriptions.zipIdx.filter fun r =>
      r.1.userId == u && r.1.status == .expired && r.1.upgradeGroup != "" := by
    refine mem_filter.mpr ⟨mem_zipIdx_iff_getElem?.mpr hrow, ?_⟩
    simpa [ExpiredUpgrade, and_assoc] using hexpired
  cases hfound : lastExpired u s with
  | none =>
    unfold lastExpired at hfound
    rw [Option.map_eq_none_iff, argmax_eq_none] at hfound
    rw [hfound] at hmem
    cases hmem
  | some =>
    obtain ⟨⟨sub, j⟩, hmax, rfl⟩ := Option.map_eq_some_iff.mp hfound
    obtain ⟨hsub, hp⟩ := mem_filter.mp (argmax_mem hmax)
    have hsub : s.subscriptions[j]? = some sub := mem_zipIdx_iff_getElem?.mp hsub
    have hle := le_of_mem_argmax hmem hmax
    rw [Prod.Lex.toLex_le_toLex] at hle
    dsimp only at hle
    by_cases hji : j = i
    · subst hji
      rw [hrow] at hsub
      exact hsub.symm
    have hsubExpired : sub.ExpiredUpgrade u := by
      simpa [ExpiredUpgrade, and_assoc] using hp
    rcases hlatest j sub hsub hsubExpired hji with hlt | ⟨heq, hlt⟩ <;>
      rcases hle with hle | ⟨heq', hle⟩ <;> omega

theorem markOverdue_row (h : (markOverdue u now s).subscriptions[j]? = some sub') :
    ∃ sub, s.subscriptions[j]? = some sub ∧
      ((sub' = sub ∧ ¬ (sub.userId = u ∧ sub.overdue now = true)) ∨
       (sub' = { sub with status := .expired } ∧ sub.userId = u ∧ sub.overdue now = true)) := by
  simp only [markOverdue, getElem?_updateWhere, Option.map_eq_some_iff] at h
  obtain ⟨sub, hrow, rfl⟩ := h
  refine ⟨sub, hrow, ?_⟩
  by_cases hover : sub.userId = u ∧ sub.overdue now = true
  · refine .inr ⟨if_pos (by simpa using hover), hover⟩
  · refine .inl ⟨if_neg (by simpa using hover), hover⟩

theorem markOverdue_of_not
    (h : s.subscriptions[j]? = some sub) (hover : ¬ (sub.userId = u ∧ sub.overdue now = true)) :
    (markOverdue u now s).subscriptions[j]? = some sub := by
  simp only [markOverdue, getElem?_updateWhere, h, Option.map_some, Option.some.injEq]
  exact if_neg (by simpa using hover)

theorem UserSubscription.overdue_iff : sub.overdue now = true ↔
    sub.status = .active ∧ 0 < sub.endTime ∧ sub.endTime ≤ now := by
  simp [overdue, and_assoc]

variable {root : UserSubscription}

theorem Root.latest_markOverdue (hroot : Root u home i root s)
    (hrow : (markOverdue u now s).subscriptions[j]? = some sub) (hexpired : sub.ExpiredUpgrade u)
    (hji : j ≠ i) : sub.endTime < root.endTime ∨ (sub.endTime = root.endTime ∧ j < i) := by
  obtain ⟨sub0, hrow0, ⟨rfl, -⟩ | ⟨rfl, huser, hover⟩⟩ := markOverdue_row hrow
  · exact hroot.latest j sub hrow0 hexpired
  -- one of the renewals has just ended
  · have hactive := (overdue_iff.mp hover).1
    exact .inl (hroot.outlasts j sub0 hrow0 hji ⟨huser, hactive, hexpired.2.2⟩)

section Expiry

variable (h : GroupInv u home s)
include h

theorem GroupInv.overdue_or_lt
    (hrow : s.subscriptions[j]? = some sub) (hactive : sub.ActiveUpgrade u) :
    sub.overdue now = true ∨ now < sub.endTime := by
  have hpos := h.ends j sub hrow hactive
  rcases lt_or_ge now sub.endTime with hlt | hge
  · exact .inr hlt
  · exact .inl (overdue_iff.mpr ⟨hactive.2.1, hpos, hge⟩)

theorem GroupInv.active_markOverdue
    (hrow : (markOverdue u now s).subscriptions[j]? = some sub) (hactive : sub.ActiveUpgrade u) :
    s.subscriptions[j]? = some sub ∧ now < sub.endTime := by
  obtain ⟨sub0, hrow0, ⟨rfl, hover⟩ | ⟨rfl, -⟩⟩ := markOverdue_row hrow
  · refine ⟨hrow0, (h.overdue_or_lt hrow0 hactive).resolve_left ?_⟩
    exact fun hcontra => hover ⟨hactive.1, hcontra⟩
  · exact nomatch hactive.2.1

theorem GroupInv.remembers_markOverdue (hrow : (markOverdue u now s).subscriptions[j]? = some sub)
    (huser : sub.userId = u) (hup : sub.upgradeGroup ≠ "") :
    trimSpace sub.upgradeGroup = sub.upgradeGroup ∧
      (sub.prevUserGroup = "" ∨ (sub.prevUserGroup = home ∧ sub.upgradeGroup ≠ home)) := by
  obtain ⟨sub0, hrow0, ⟨rfl, -⟩ | ⟨rfl, huser0, -⟩⟩ := markOverdue_row hrow
  · exact h.remembers j sub hrow0 huser hup
  · exact h.remembers j sub0 hrow0 huser0 hup

/-- While another active subscription is left, so is the root: it ends after the others. -/
theorem GroupInv.expire_some (hleft : ∃ (j : Nat) (sub : UserSubscription),
      (markOverdue u now s).subscriptions[j]? = some sub ∧ sub.ActiveUpgrade u) :
    GroupInv u home (markOverdue u now s) where
  remembers j sub hrow huser hup := h.remembers_markOverdue hrow huser hup
  ends j sub hrow hactive := h.ends j sub (h.active_markOverdue hrow hactive).1 hactive
  active j sub hrow hactive := h.active j sub (h.active_markOverdue hrow hactive).1 hactive
  idle hnone := by
    obtain ⟨j, sub, hrow, hactive⟩ := hleft
    exact absurd hactive (hnone j sub hrow)
  root hne := by
    obtain ⟨i, root, hroot⟩ := h.root hne
    obtain ⟨j, sub, hrow, hactive⟩ := hleft
    obtain ⟨hrow0, hlt⟩ := h.active_markOverdue hrow hactive
    have hrunning : now < root.endTime := by
      by_cases hji : j = i
      · subst hji
        rw [hroot.row, Option.some.injEq] at hrow0
        rw [hrow0]
        exact hlt
      · have := hroot.outlasts j sub hrow0 hji hactive
        omega
    have hnot : ¬ (root.userId = u ∧ root.overdue now = true) := by
      rintro ⟨-, hover⟩
      have hend := (overdue_iff.mp hover).2.2
      omega
    have hstays := markOverdue_of_not hroot.row hnot
    refine ⟨i, root, hstays, hroot.active, hroot.prev, ?_, ?_⟩
    · intro k row hk hki hrowActive
      exact hroot.outlasts k row (h.active_markOverdue hk hrowActive).1 hki hrowActive
    intro k row hk hrowExpired
    refine hroot.latest_markOverdue hk hrowExpired ?_
    rintro rfl
    obtain rfl := Option.mem_unique hstays hk
    exact nomatch (hroot.active.2.1.symm.trans hrowExpired.2.1)

theorem GroupInv.lastExpired_root
    (hleft : ∀ (j : Nat) sub, (markOverdue u now s).subscriptions[j]? = some sub →
      ¬ sub.ActiveUpgrade u)
    (hroot : Root u home i root s) :
    lastExpired u (markOverdue u now s) = some { root with status := .expired } := by
  have hover : root.overdue now = true := by
    rcases h.overdue_or_lt hroot.row hroot.active with hover | hlt
    · exact hover
    refine absurd hroot.active (hleft i root (markOverdue_of_not hroot.row ?_))
    rintro ⟨-, hover⟩
    have hend := (overdue_iff.mp hover).2.2
    omega
  have hmarked : (markOverdue u now s).subscriptions[i]? = some { root with status := .expired } := by
    simp [markOverdue, getElem?_updateWhere, hroot.row, hroot.active.1, hover]
  refine lastExpired_eq hmarked ⟨hroot.active.1, rfl, hroot.active.2.2⟩ ?_
  exact fun j sub hrow hexpired hji => hroot.latest_markOverdue hrow hexpired hji

variable (hhome : home ≠ "") (htrim : trimSpace home = home)
include hhome htrim

theorem GroupInv.expire_none
    (hnone : ∀ (j : Nat) sub, (markOverdue u now s).subscriptions[j]? = some sub →
      ¬ sub.ActiveUpgrade u) :
    ((expireUserSubscriptions u now s).users u).group = home ∧
      (expireUserSubscriptions u now s).subscriptions = (markOverdue u now s).subscriptions := by
  have hany : ((markOverdue u now s).subscriptions.any fun sub => sub.upgrades u now) = false := by
    rw [any_eq_false]
    intro sub hmem hup
    obtain ⟨j, hrow⟩ := mem_iff_getElem?.mp hmem
    simp only [upgrades, Bool.and_eq_true, beq_iff_eq, bne_iff_ne] at hup
    exact hnone j sub hrow ⟨hup.1.1.1, hup.1.1.2, hup.2⟩
  have husers : (markOverdue u now s).users = s.users := rfl
  unfold expireUserSubscriptions
  dsimp only
  rw [hany, if_neg (by simp)]
  split
  · rename_i hlookup
    refine ⟨?_, rfl⟩
    by_contra hne
    obtain ⟨i, root, hroot⟩ := h.root hne
    rw [h.lastExpired_root hnone hroot] at hlookup
    cases hlookup
  rename_i hlookup
  obtain ⟨j, hrow, huser, -, hup⟩ := lastExpired_some hlookup
  obtain ⟨hlastTrim, hremembers⟩ := h.remembers_markOverdue hrow huser hup
  rw [hlastTrim, husers]
  by_cases hwas : (s.users u).group = home
  · -- nothing to undo
    split
    · exact ⟨hwas, rfl⟩
    split
    · exact ⟨hwas, rfl⟩
    rename_i hset hcurrent
    rcases hremembers with hprev | ⟨-, hne⟩
    · exact absurd (.inr (by rw [hprev]; rfl)) hset
    · exact absurd (.inl (hwas ▸ hne.symm)) hcurrent
  obtain ⟨i, root, hroot⟩ := h.root hwas
  rw [h.lastExpired_root hnone hroot, Option.some.injEq] at hlookup
  subst hlookup
  rw [hroot.prev, htrim, if_neg (not_or.mpr ⟨hup, hhome⟩),
    if_neg (not_or.mpr ⟨not_not.mpr (h.active i root hroot.row hroot.active), hwas⟩)]
  exact ⟨by simp, rfl⟩

theorem GroupInv.expire (now : Int) : GroupInv u home (expireUserSubscriptions u now s) := by
  by_cases hleft : ∃ (j : Nat) (sub : UserSubscription),
      (markOverdue u now s).subscriptions[j]? = some sub ∧ sub.ActiveUpgrade u
  · have hany : ((markOverdue u now s).subscriptions.any fun sub => sub.upgrades u now) = true := by
      obtain ⟨j, sub, hrow, hactive⟩ := hleft
      refine any_eq_true.mpr ⟨sub, mem_of_getElem? hrow, ?_⟩
      have hlt := (h.active_markOverdue hrow hactive).2
      simp [upgrades, hactive.1, hactive.2.1, hactive.2.2, hlt]
    unfold expireUserSubscriptions
    dsimp only
    rw [hany]
    exact h.expire_some hleft
  have hnone : ∀ (j : Nat) sub, (markOverdue u now s).subscriptions[j]? = some sub →
      ¬ sub.ActiveUpgrade u := fun j sub hrow hactive => hleft ⟨j, sub, hrow, hactive⟩
  obtain ⟨hgroup, hrows⟩ := h.expire_none hhome htrim hnone
  refine ⟨?_, ?_, ?_, ?_, ?_⟩
  · intro j sub hrow huser hup
    rw [hrows] at hrow
    exact h.remembers_markOverdue hrow huser hup
  · intro j sub hrow hactive
    rw [hrows] at hrow
    exact absurd hactive (hnone j sub hrow)
  · intro j sub hrow hactive
    rw [hrows] at hrow
    exact absurd hactive (hnone j sub hrow)
  · exact fun _ => hgroup
  · exact fun hne => absurd hgroup hne

end Expiry

theorem sameFor_expire {user : Nat} (huser : user ≠ u) :
    SameFor u s (expireUserSubscriptions user now s) := by
  have hmarked : SameFor u s (markOverdue user now s) := by
    refine ⟨fun j sub hsub => ⟨fun hrow => ?_, fun hrow => ?_⟩, rfl⟩
    · obtain ⟨sub0, hrow0, ⟨rfl, -⟩ | ⟨rfl, huser0, -⟩⟩ := markOverdue_row hrow
      · exact hrow0
      · exact absurd (huser0.symm.trans hsub) huser
    · exact markOverdue_of_not hrow fun hover => huser (hover.1.symm.trans hsub)
  unfold expireUserSubscriptions
  dsimp only
  split
  · exact hmarked
  split
  · exact hmarked
  split
  · exact hmarked
  split
  · exact hmarked
  · refine ⟨hmarked.rows, ?_⟩
    rw [Store.updateUserGroup_users, Function.update_of_ne (Ne.symm huser)]
    exact hmarked.group

/-! ## Administrators -/

/-- Other active subscriptions of the user than `id`. -/
def OthersActive (u id : Nat) (s : Store) : Prop :=
  ∃ (j : Nat) (sub : UserSubscription), j ≠ id ∧ s.subscriptions[j]? = some sub ∧ sub.ActiveUpgrade u

theorem downgradeUserGroupForSubscriptionTx_frame (id : Nat) (sub : UserSubscription) (now : Int)
    (s : Store) :
    (downgradeUserGroupForSubscriptionTx id sub now s).subscriptions = s.subscriptions ∧
    ∀ u, u ≠ sub.userId →
      (downgradeUserGroupForSubscriptionTx id sub now s).users u = s.users u := by
  unfold downgradeUserGroupForSubscriptionTx
  dsimp only
  split
  · exact ⟨rfl, fun _ _ => rfl⟩
  split
  · exact ⟨rfl, fun _ _ => rfl⟩
  split
  · exact ⟨rfl, fun _ _ => rfl⟩
  · refine ⟨rfl, fun u hu => ?_⟩
    rw [Store.updateUserGroup_users, Function.update_of_ne hu]

theorem subscription_some (h : s.subscription id = some sub) :
    s.subscriptions[id]? = some sub := (Option.filter_eq_some_iff.mp h).1

theorem sameFor_modify
    (hrow : s.subscriptions[id]? = some sub) (huser : sub.userId ≠ u) (huser' : sub'.userId ≠ u)
    (hrows : s'.subscriptions = s.subscriptions.modify id fun _ => sub')
    (hgroup : s'.users u = s.users u) : SameFor u s s' where
  rows := by
    intro j row hrowUser
    rw [hrows]
    by_cases hji : id = j
    · subst hji
      rw [getElem?_modify_self hrow, hrow, Option.some.injEq, Option.some.injEq]
      constructor
      · rintro rfl
        exact absurd hrowUser huser'
      · rintro rfl
        exact absurd hrowUser huser
    · rw [getElem?_modify_ne _ _ hji]
  group := by rw [hgroup]

section Admin

variable (h : GroupInv u home s) (hhome : home ≠ "") (htrim : trimSpace home = home)
include h hhome htrim

/-- The end of a subscription gives the group back, if no other one is active. `s0` is the store the
query sees. -/
theorem GroupInv.downgrade (hrow : s.subscriptions[id]? = some sub) (huser : sub.userId = u)
    (hrunning : ∀ (j : Nat) row, s.subscriptions[j]? = some row → j ≠ id → row.ActiveUpgrade u →
      now < row.endTime) {s0 : Store} (husers : s0.users = s.users)
    (hrows : ∀ j : Nat, j ≠ id → s0.subscriptions[j]? = s.subscriptions[j]?) :
    (OthersActive u id s →
      ((downgradeUserGroupForSubscriptionTx id sub now s0).users u).group = (s.users u).group) ∧
    (¬ OthersActive u id s →
      ((downgradeUserGroupForSubscriptionTx id sub now s0).users u).group = home) := by
  have hany : (s0.subscriptions.zipIdx.any fun r => r.1.upgrades u now && r.2 != id) = true ↔
      OthersActive u id s := by
    rw [any_eq_true]
    constructor
    · rintro ⟨⟨row, j⟩, hmem, hp⟩
      have hj : s0.subscriptions[j]? = some row := mem_zipIdx_iff_getElem?.mp hmem
      simp only [upgrades, Bool.and_eq_true, beq_iff_eq, bne_iff_ne] at hp
      obtain ⟨⟨⟨⟨hrowUser, hstatus⟩, -⟩, hup⟩, hne⟩ := hp
      exact ⟨j, row, hne, (hrows j hne).symm.trans hj, hrowUser, hstatus, hup⟩
    · rintro ⟨j, row, hne, hj, hactive⟩
      refine ⟨(row, j), mem_zipIdx_iff_getElem?.mpr ((hrows j hne).trans hj), ?_⟩
      have hlt := hrunning j row hj hne hactive
      simp [upgrades, hactive.1, hactive.2.1, hactive.2.2, hlt, hne]
  -- without another active one, the user is home or this is the root
  have hlast : ¬ OthersActive u id s → ((s.users u).group = home ∧ (sub.upgradeGroup ≠ "" →
        sub.prevUserGroup = "" ∨ (s.users u).group ≠ sub.upgradeGroup)) ∨
      (sub.upgradeGroup ≠ "" ∧ sub.prevUserGroup = home ∧ (s.users u).group = sub.upgradeGroup ∧
        (s.users u).group ≠ home) := by
    intro hnone
    by_cases hwas : (s.users u).group = home
    · refine .inl ⟨hwas, fun hup => ?_⟩
      -- a row for another group remembers the user's own
      rcases (h.remembers id sub hrow huser hup).2 with hprev | ⟨-, hne⟩
      · exact .inl hprev
      · exact .inr (hwas ▸ hne.symm)
    obtain ⟨i, root, hroot⟩ := h.root hwas
    by_cases hi : i = id
    · subst hi
      obtain rfl := Option.mem_unique hroot.row hrow
      exact .inr ⟨hroot.active.2.2, hroot.prev, h.active i root hrow hroot.active, hwas⟩
    · exact absurd ⟨i, root, hi, hroot.row, hroot.active⟩ hnone
  have hsubTrim : trimSpace sub.upgradeGroup = sub.upgradeGroup := by
    by_cases hup : sub.upgradeGroup = ""
    · rw [hup]
      rfl
    · exact (h.remembers id sub hrow huser hup).1
  unfold downgradeUserGroupForSubscriptionTx
  dsimp only
  rw [hsubTrim, huser, husers]
  have hkept : (s0.users u).group = (s.users u).group := by rw [husers]
  split
  · rename_i hother
    refine ⟨fun _ => hkept, fun hnone => hkept.trans ?_⟩
    rcases hlast hnone with ⟨hwas, -⟩ | ⟨hup, -, hcurrent, -⟩
    · exact hwas
    · exact absurd hcurrent (hother.resolve_left hup)
  rename_i hsame
  obtain ⟨hup, hcurrent⟩ := not_or.mp hsame
  split
  · rename_i hothers
    exact ⟨fun _ => hkept, fun hnone => absurd (hany.mp hothers) hnone⟩
  rename_i hothers
  have hnone : ¬ OthersActive u id s := fun hsome => hothers (hany.mpr hsome)
  refine ⟨fun hsome => absurd hsome hnone, fun _ => ?_⟩
  rcases hlast hnone with ⟨hwas, hkeeps⟩ | ⟨-, hprev, -, hwas⟩
  · have hprev := (hkeeps hup).resolve_right hcurrent
    rw [hprev]
    exact hkept.trans hwas
  · rw [hprev, htrim, if_neg (not_or.mpr ⟨hhome, fun heq => hwas heq.symm⟩)]
    simp

omit htrim in
theorem GroupInv.ended (hrow : s.subscriptions[id]? = some sub)
    (hends : ∀ (j : Nat) row, s.subscriptions[j]? = some row → j ≠ id → row.ActiveUpgrade u →
      ¬ (sub.ActiveUpgrade u ∧ sub.prevUserGroup ≠ ""))
    (hrows : s'.subscriptions = s.subscriptions.modify id fun _ => sub')
    (hstatus : sub'.status = .cancelled) (hkeeps : sub'.userId = sub.userId ∧
      sub'.upgradeGroup = sub.upgradeGroup ∧ sub'.prevUserGroup = sub.prevUserGroup)
    (hothers : OthersActive u id s → (s'.users u).group = (s.users u).group)
    (hlast : ¬ OthersActive u id s → (s'.users u).group = home) : GroupInv u home s' := by
  have hne : ∀ {j : Nat}, j ≠ id → s'.subscriptions[j]? = s.subscriptions[j]? := by
    intro j hj
    rw [hrows]
    exact getElem?_modify_ne _ _ (Ne.symm hj)
  have hcases : ∀ {j : Nat} {row : UserSubscription}, s'.subscriptions[j]? = some row →
      (id = j ∧ sub' = row) ∨ (j ≠ id ∧ s.subscriptions[j]? = some row) := by
    intro j row hj
    rw [hrows] at hj
    exact (getElem?_modify_some hrow hj).imp_right fun h => ⟨Ne.symm h.1, h.2⟩
  -- a row that is active or expired is one of the others
  have hother : ∀ {j : Nat} {row : UserSubscription}, s'.subscriptions[j]? = some row →
      row.status ≠ .cancelled → j ≠ id ∧ s.subscriptions[j]? = some row := by
    intro j row hj hstatus'
    rcases hcases hj with ⟨-, rfl⟩ | hother
    · exact absurd hstatus hstatus'
    · exact hother
  refine ⟨?_, ?_, ?_, ?_, ?_⟩
  · intro j row hj huser hup
    rcases hcases hj with ⟨rfl, rfl⟩ | ⟨-, hj⟩
    · rw [hkeeps.1] at huser
      rw [hkeeps.2.1] at hup ⊢
      rw [hkeeps.2.2]
      exact h.remembers id sub hrow huser hup
    · exact h.remembers j row hj huser hup
  · intro j row hj hactive
    exact h.ends j row (hother hj (by rw [hactive.2.1]; simp)).2 hactive
  · intro j row hj hactive
    obtain ⟨hji, hj0⟩ := hother hj (by rw [hactive.2.1]; simp)
    rw [hothers ⟨j, row, hji, hj0, hactive⟩]
    exact h.active j row hj0 hactive
  · intro hnone
    refine hlast ?_
    rintro ⟨j, row, hji, hj, hactive⟩
    exact hnone j row ((hne hji).trans hj) hactive
  intro haway
  have hsome : OthersActive u id s := by
    by_contra hnone
    exact haway (hlast hnone)
  rw [hothers hsome] at haway
  obtain ⟨i, root, hroot⟩ := h.root haway
  -- the root stays, because another one is active
  have hi : i ≠ id := by
    rintro rfl
    obtain ⟨j, row, hji, hj, hactive⟩ := hsome
    rw [hroot.row, Option.some.injEq] at hrow
    refine hends j row hj hji hactive ⟨hrow ▸ hroot.active, ?_⟩
    rw [← hrow, hroot.prev]
    exact hhome
  refine ⟨i, root, (hne hi).trans hroot.row, hroot.active, hroot.prev, ?_, ?_⟩
  · intro j row hj hji hactive
    exact hroot.outlasts j row (hother hj (by rw [hactive.2.1]; simp)).2 hji hactive
  · intro j row hj hexpired
    exact hroot.latest j row (hother hj (by rw [hexpired.2.1]; simp)).2 hexpired

/-- An administrator ends a subscription: the row is rewritten and the group is downgraded, in
either order. -/
theorem GroupInv.taken (hmay : MayEnd u id now s)
    (hsub : s.subscription id = some sub) (sub' : UserSubscription) (s0 : Store)
    (husers : s0.users = s.users)
    (hrows0 : ∀ j : Nat, j ≠ id → s0.subscriptions[j]? = s.subscriptions[j]?)
    (hrows : s'.subscriptions = s.subscriptions.modify id fun _ => sub')
    (husers' : s'.users = (downgradeUserGroupForSubscriptionTx id sub now s0).users)
    (hstatus : sub'.status = .cancelled) (hkeeps : sub'.userId = sub.userId ∧
      sub'.upgradeGroup = sub.upgradeGroup ∧ sub'.prevUserGroup = sub.prevUserGroup) :
    GroupInv u home s' := by
  have hrow := subscription_some hsub
  by_cases huser : sub.userId = u
  · have hmay : ∀ j row, s.subscriptions[j]? = some row → j ≠ id → row.ActiveUpgrade u →
        now < row.endTime ∧ ¬ (sub.ActiveUpgrade u ∧ sub.prevUserGroup ≠ "") := by
      intro j row hj hji hactive
      exact hmay sub hsub huser (row, j) (mem_zipIdx_iff_getElem?.mpr hj) hji hactive
    obtain ⟨hothers, hlast⟩ := h.downgrade hhome htrim hrow huser
      (fun j row hj hji hactive => (hmay j row hj hji hactive).1) husers hrows0
    rw [← husers'] at hothers hlast
    exact h.ended hhome hrow (fun j row hj hji hactive => (hmay j row hj hji hactive).2) hrows
      hstatus hkeeps hothers hlast
  · refine h.congr (sameFor_modify hrow huser (hkeeps.1 ▸ huser) hrows ?_)
    rw [husers', (downgradeUserGroupForSubscriptionTx_frame id sub now s0).2 u (Ne.symm huser),
      husers]

theorem GroupInv.invalidate (hmay : MayEnd u id now s)
    (hexec : adminInvalidateUserSubscription id now s = .ok s') : GroupInv u home s' := by
  simp only [adminInvalidateUserSubscription, bind_eq_ok, orFail_eq_ok, pure_eq_ok] at hexec
  obtain ⟨sub, hsub, rfl⟩ := hexec
  have hrows : s.subscriptions.modify id (fun sub => { sub with status := .cancelled, endTime := now })
      = s.subscriptions.modify id fun _ => { sub with status := .cancelled, endTime := now } :=
    modify_of_getElem? (subscription_some hsub)
  rw [hrows]
  have hframe := (downgradeUserGroupForSubscriptionTx_frame id sub now { s with
    subscriptions := s.subscriptions.modify id fun _ =>
      { sub with status := .cancelled, endTime := now } }).1
  refine h.taken hhome htrim hmay hsub _ _ ?_ ?_ hframe rfl rfl ⟨rfl, rfl, rfl⟩
  · rfl
  · intro j hj
    exact getElem?_modify_ne _ _ (Ne.symm hj)

theorem GroupInv.delete (hmay : MayEnd u id now s)
    (hexec : adminDeleteUserSubscription id now s = .ok s') : GroupInv u home s' := by
  simp only [adminDeleteUserSubscription, bind_eq_ok, orFail_eq_ok, pure_eq_ok] at hexec
  obtain ⟨sub, hsub, rfl⟩ := hexec
  refine h.taken hhome htrim hmay hsub { sub with status := .cancelled, deleted := true } s rfl
    (fun j _ => rfl) ?_ rfl rfl ⟨rfl, rfl, rfl⟩
  rw [(downgradeUserGroupForSubscriptionTx_frame id sub now s).1]
  exact modify_of_getElem? (subscription_some hsub)

end Admin

/-! ## Whole runs -/

/-- **Every orderly call keeps the invariant.** -/
theorem groupInv_step (hhome : home ≠ "") (htrim : trimSpace home = home) (op : GroupOp)
    (h : GroupInv u home s) (hop : op.Orderly clock u s) (hexec : op.exec clock s = .ok s') :
    GroupInv u home s' := by
  cases op with
  | purchase buyer =>
    obtain ⟨plan, -, sub, hplan, hend, hrows, huser, hstatus, rfl, hup, hgroup⟩ :=
      createUserSubscriptionFromPlanTx_ok hexec
    by_cases hbuyer : buyer = u
    · subst hbuyer
      refine h.purchase hhome hrows huser hstatus (by rw [hup]; simp) (fun hne => ?_) hgroup
      rw [hup] at hne ⊢
      refine hop rfl plan hplan hne sub.endTime ?_
      rw [hend]
      rfl
    -- another user's purchase
    refine h.congr ⟨fun j row hrow => ?_, ?_⟩
    · rw [hrows]
      constructor
      · intro hj
        rcases getElem?_append_singleton_some hj with hj | ⟨-, rfl⟩
        · exact hj
        · exact absurd (huser.symm.trans hrow) hbuyer
      · intro hj
        exact getElem?_append_some hj
    · rcases hgroup with ⟨-, -, -, husers⟩ | ⟨-, -, husers⟩
      · rw [husers, Store.updateUserGroup_users, Function.update_of_ne (Ne.symm hbuyer)]
      · rw [husers]
  | expire user now =>
    obtain rfl := Except.ok.inj hexec
    by_cases huser : user = u
    · subst huser
      exact h.expire hhome htrim now
    · exact h.congr (sameFor_expire huser)
  | invalidate =>
    exact h.invalidate hhome htrim hop hexec
  | delete => exact h.delete hhome htrim hop hexec

theorem groupInv_start (hgroup : (s.users u).group = home)
    (hnone : ∀ sub ∈ s.subscriptions, sub.userId = u → sub.upgradeGroup = "") :
    GroupInv u home s where
  remembers _ sub hrow huser hup := absurd (hnone sub (mem_of_getElem? hrow) huser) hup
  ends _ sub hrow hactive := absurd (hnone sub (mem_of_getElem? hrow) hactive.1) hactive.2.2
  active _ sub hrow hactive := absurd (hnone sub (mem_of_getElem? hrow) hactive.1) hactive.2.2
  idle _ := hgroup
  root hne := absurd hgroup hne

/-- **Group upgrades are undone**, if the subscription that remembers the user's own group is the
last of those bought on top of each other to end. -/
theorem group_upgrades_undone (hhome : home ≠ "") (htrim : trimSpace home = home)
    (hgroup : (s.users u).group = home)
    (hnone : ∀ sub ∈ s.subscriptions, sub.userId = u → sub.upgradeGroup = "") {ops : List GroupOp}
    (hops : Along (GroupOp.exec clock) (GroupOp.Orderly clock u) ops s) :
    GroupRight u home (run (GroupOp.exec clock) ops s) :=
  (run_induction (fun op s s' => groupInv_step hhome htrim op) (groupInv_start hgroup hnone)
    hops).right

/-- Plans for a hundred and for fifty seconds, for two groups and for none. -/
def groupPlans : Store where
  subscriptionPlans := [
    { durationUnit := .custom, customSeconds := 100, upgradeGroup := "vip" },
    { durationUnit := .custom, customSeconds := 50, upgradeGroup := " vip" },
    { durationUnit := .custom, customSeconds := 50, upgradeGroup := "svip" },
    { durationUnit := .custom, customSeconds := 50 }]

/-- A subscription with a shorter one for the same group and a plain one on top of it; another when
the group was given back. -/
def nestedPurchases : List GroupOp :=
  [.purchase 1 0 10, .purchase 1 1 20, .purchase 1 3 30, .expire 1 75, .invalidate 1 80,
    .expire 1 115, .purchase 1 2 120, .delete 3 130]

theorem group_upgrades_undone_nested :
    Along (GroupOp.exec thirtyDayMonths.toClock) (GroupOp.Orderly thirtyDayMonths.toClock 1)
      nestedPurchases groupPlans ∧
    GroupRight 1 "default"
      (run (GroupOp.exec thirtyDayMonths.toClock) nestedPurchases groupPlans) :=
  have hops : Along (GroupOp.exec thirtyDayMonths.toClock)
    (GroupOp.Orderly thirtyDayMonths.toClock 1) nestedPurchases groupPlans := by decide +kernel
  ⟨hops, group_upgrades_undone (by decide) (by decide +kernel) (by decide) (by decide) hops⟩

/-- A renewal that outlasts the subscription it renews. -/
def renewal : List GroupOp := [.purchase 1 0 10, .purchase 1 0 60, .expire 1 115, .expire 1 165]

/-- Two groups, the second one over before the first. -/
def twoGroups : List GroupOp := [.purchase 1 0 10, .purchase 1 2 20, .expire 1 75]

/-- After the renewal no subscription is active and the user still has the group; with two groups,
that of the subscription that is over. -/
theorem renewal_keeps_upgrade :
    ((∀ sub ∈ (run (GroupOp.exec thirtyDayMonths.toClock) renewal groupPlans).subscriptions,
        ¬ sub.ActiveUpgrade 1) ∧
      ((run (GroupOp.exec thirtyDayMonths.toClock) renewal groupPlans).users 1).group = "vip") ∧
    ((∃ sub ∈ (run (GroupOp.exec thirtyDayMonths.toClock) twoGroups groupPlans).subscriptions,
        sub.ActiveUpgrade 1) ∧
      (∀ sub ∈ (run (GroupOp.exec thirtyDayMonths.toClock) twoGroups groupPlans).subscriptions,
        sub.ActiveUpgrade 1 → sub.upgradeGroup = "vip") ∧
      ((run (GroupOp.exec thirtyDayMonths.toClock) twoGroups groupPlans).users 1).group =
        "svip") := by
  decide +kernel

end ApiGateway
