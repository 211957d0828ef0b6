import ApiGateway.Lib.Forest
import ApiGateway.Lib.Runs
import ApiGateway.Service.Commission

/-!
# The referral relations form a forest

A new relation is only created for a child without an active parent, and only when the walk up from
the parent does not meet the child.

The walk gives the right answer because the relations have no cycle and no child has two parents,
and they stay so because the walk gave the right answer when each of them was created. That the walk
ends needs neither: it stops at the first user it meets twice.
-/

namespace ApiGateway

open Table Runs Relation Forest List

variable {s s' : Store} {child parent : Nat}
variable {visited : List Nat} {current : Nat}

/-- `child` has an active relation with `parent` above it. -/
def ActiveParent (s : Store) (child parent : Nat) : Prop :=
  ∃ r ∈ s.userRelations, r.active = true ∧ r.childUserId = child ∧ r.parentUserId = parent

structure ReferralForest (s : Store) : Prop where
  /-- A user is the child of one active relation at most. -/
  oneParent : ∀ (i j : Nat) r r', s.userRelations[i]? = some r → s.userRelations[j]? = some r' →
    r.active = true → r'.active = true → r.childUserId = r'.childUserId → i = j
  acyclic : Acyclic (ActiveParent s)
  users : ∀ r ∈ s.userRelations, r.parentUserId ≠ 0 ∧ r.childUserId ≠ 0

theorem ReferralForest.init (h : s.userRelations = []) : ReferralForest s where
  oneParent := by intro i j r r' hr; simp [h] at hr
  acyclic := acyclic_of_empty (by rintro a b ⟨r, hr, -⟩; simp [h] at hr)
  users := by intro r hr; simp [h] at hr

/-! ## Looking up the parent -/

theorem activeParentTx_some (h : activeParentTx s child = some parent) :
    ActiveParent s child parent := by
  unfold activeParentTx at h
  simp only [Option.map_eq_some_iff, Prod.exists] at h
  obtain ⟨i, r, hr, rfl⟩ := h
  obtain ⟨hrow, hp⟩ := lookup_some hr
  simp only [Bool.and_eq_true, beq_iff_eq] at hp
  exact ⟨r, mem_of_getElem? hrow, hp.2, hp.1, rfl⟩

theorem activeParentTx_none (h : activeParentTx s child = none) :
    ¬ ActiveParent s child parent := by
  rintro ⟨r, hr, hactive, hchild, -⟩
  unfold activeParentTx at h
  rw [Option.map_eq_none_iff] at h
  have hnot := lookup_none h r hr
  simp [hactive, hchild] at hnot

theorem ReferralForest.parent_unique (h : ReferralForest s) {p p' : Nat}
    (hp : ActiveParent s child p) (hp' : ActiveParent s child p') : p = p' := by
  obtain ⟨r, hr, hactive, hchild, rfl⟩ := hp
  obtain ⟨r', hr', hactive', hchild', rfl⟩ := hp'
  obtain ⟨i, hi⟩ := mem_iff_getElem?.mp hr
  obtain ⟨j, hj⟩ := mem_iff_getElem?.mp hr'
  have hij : i = j := h.oneParent i j r r' hi hj hactive hactive' (hchild.trans hchild'.symm)
  subst hij
  rw [hi] at hj
  rw [Option.some.inj hj]

/-! ## The walk -/

/-- The loop of the cycle check: it is at `current`, has visited `visited`, and returns the answer
in the end. -/
inductive CycleWalk (s : Store) (child : Nat) : List Nat → Nat → Bool → Prop
  | outside {visited : List Nat} : CycleWalk s child visited 0 false
  | found {visited : List Nat} {current : Nat} :
      current ≠ 0 → current = child → CycleWalk s child visited current true
  | repeated {visited : List Nat} {current : Nat} :
      current ≠ 0 → current ≠ child → current ∈ visited → CycleWalk s child visited current true
  | root {visited : List Nat} {current : Nat} :
      current ≠ 0 → current ≠ child → current ∉ visited → activeParentTx s current = none →
      CycleWalk s child visited current false
  | up {visited : List Nat} {current parent : Nat} {answer : Bool} :
      current ≠ 0 → current ≠ child → current ∉ visited →
      activeParentTx s current = some parent →
      CycleWalk s child (current :: visited) parent answer →
      CycleWalk s child visited current answer

theorem CycleWalk.deterministic {b b' : Bool}
    (h : CycleWalk s child visited current b) (h' : CycleWalk s child visited current b') :
    b = b' := by
  induction h with
  | outside | found | repeated => cases h' <;> first | rfl | contradiction
  | root _ _ _ hnone =>
    cases h' with
    | up _ _ _ hsome => rw [hnone] at hsome; cases hsome
    | _ => first | rfl | contradiction
  | up _ _ _ hsome _ ih =>
    cases h' with
    | root _ _ _ hnone => rw [hnone] at hsome; cases hsome
    | up _ _ _ hsome' hrest =>
      rw [hsome] at hsome'
      obtain rfl := Option.some.inj hsome'
      exact ih hrest
    | _ => contradiction

/-- **The walk ends**, in any state: each user it leaves behind is the child of a relation and is
met once. -/
theorem reachesChild_walk {fuel : Nat} (hnodup : visited.Nodup)
    (hchildren : visited ⊆ s.userRelations.map (·.childUserId))
    (hfuel : s.userRelations.length < fuel + visited.length) :
    CycleWalk s child visited current (reachesChild s child fuel visited current) := by
  induction fuel generalizing visited current with
  | zero =>
    have hle := (subperm_of_subset hnodup hchildren).length_le
    rw [length_map] at hle
    omega
  | succ _ ih =>
    unfold reachesChild
    by_cases hzero : current = 0
    · subst hzero
      exact .outside
    rw [if_neg hzero]
    by_cases hfound : current = child
    · rw [if_pos (.inl hfound)]
      exact .found hzero hfound
    by_cases hmem : current ∈ visited
    · rw [if_pos (.inr hmem)]
      exact .repeated hzero hfound hmem
    rw [if_neg (by simp [hfound, hmem])]
    cases hparent : activeParentTx s current with
    | none => exact .root hzero hfound hmem hparent
    | some =>
      refine .up hzero hfound hmem hparent (ih ?_ ?_ ?_)
      · exact nodup_cons.mpr ⟨hmem, hnodup⟩
      · obtain ⟨r, hr, -, hchild, -⟩ := activeParentTx_some hparent
        refine cons_subset.mpr ⟨?_, hchildren⟩
        exact mem_map.mpr ⟨r, hr, hchild⟩
      · rw [length_cons]
        omega

/-- **The walk is exact** in a forest. It never meets a user twice, so it says yes
only at the child. -/
theorem ReferralForest.walk_iff (h : ReferralForest s) {answer : Bool} (hchild : child ≠ 0)
    (hbelow : ∀ v ∈ visited, TransGen (ActiveParent s) v current)
    (hwalk : CycleWalk s child visited current answer) :
    answer = true ↔ ReflTransGen (ActiveParent s) current child := by
  induction hwalk with
  | outside =>
    refine iff_of_false (by simp) fun hpath => ?_
    rcases hpath.cases_head with heq | ⟨-, ⟨r, hr, -, hzero, -⟩, -⟩
    · exact hchild heq.symm
    · exact (h.users r hr).2 hzero
  | found _ hfound =>
    subst hfound
    exact iff_of_true rfl .refl
  | repeated _ _ hmem => exact absurd (hbelow _ hmem) (h.acyclic _)
  | root _ hne _ hnone =>
    refine iff_of_false (by simp) fun hpath => ?_
    rcases hpath.cases_head with heq | ⟨next, hnext, -⟩
    · exact hne heq
    · exact activeParentTx_none hnone hnext
  | up _ hne _ hsome _ ih =>
    have hup := activeParentTx_some hsome
    rw [ih ?_]
    · constructor
      · exact fun hpath => hpath.head hup
      intro hpath
      rcases hpath.cases_head with heq | ⟨next, hnext, hrest⟩
      · exact absurd heq hne
      · rw [h.parent_unique hup hnext]
        exact hrest
    · intro v hv
      rcases mem_cons.mp hv with rfl | hv
      · exact .single hup
      · exact (hbelow v hv).tail hup

theorem wouldCreateUserRelationCycleTx_walk (hparent : parent ≠ 0) (hchild : child ≠ 0) :
    CycleWalk s child [] parent (wouldCreateUserRelationCycleTx s parent child) := by
  have hwalk : CycleWalk s child [] parent
      (reachesChild s child (s.userRelations.length + 2) [] parent) :=
    reachesChild_walk nodup_nil (nil_subset _) (by simp)
  have heq : wouldCreateUserRelationCycleTx s parent child =
      reachesChild s child (s.userRelations.length + 2) [] parent := by
    simp [wouldCreateUserRelationCycleTx, hparent, hchild]
  rw [heq]
  exact hwalk

section

variable (h : ReferralForest s)

include h

theorem ReferralForest.wouldCreate_iff :
    wouldCreateUserRelationCycleTx s parent child = true ↔
      parent ≠ 0 ∧ ReflTransGen (ActiveParent s) parent child := by
  by_cases hparent : parent = 0
  · simp [wouldCreateUserRelationCycleTx, hparent]
  by_cases hchild : child = 0
  · -- nobody has user 0 above them
    subst hchild
    refine iff_of_false (by simp [wouldCreateUserRelationCycleTx]) ?_
    rintro ⟨-, hpath⟩
    rcases hpath.cases_tail with heq | ⟨-, -, r, hr, -, -, hzero⟩
    · exact hparent heq.symm
    · exact (h.users r hr).1 hzero
  rw [h.walk_iff hchild (by simp) (wouldCreateUserRelationCycleTx_walk hparent hchild)]
  exact (and_iff_right hparent).symm

/-! ## The two transactions -/

inductive RelationOp where
  | createActiveUserRelationTx (parent child : Nat)
  | disableUserRelationById (id : Nat)

def RelationOp.exec : RelationOp → Store → Except Err Store
  | .createActiveUserRelationTx parent child => ApiGateway.createActiveUserRelationTx parent child
  | .disableUserRelationById id => ApiGateway.disableUserRelationById id

theorem ReferralForest.create (hx : createActiveUserRelationTx parent child s = .ok s') :
    ReferralForest s' := by
  unfold createActiveUserRelationTx at hx
  simp only [bind_eq_ok, failIf_eq_ok, pure_eq_ok] at hx
  obtain ⟨-, hids, -, -, -, hbound, -, hcycle, rfl⟩ := hx
  rw [not_or] at hids
  have hfree : ∀ r ∈ s.userRelations, r.active = true → r.childUserId ≠ child := by
    intro r hr hactive hchild
    refine activeParentTx_none ?_ ⟨r, hr, hactive, hchild, rfl⟩
    simpa using hbound
  have hback : ¬ ReflTransGen (ActiveParent s) parent child :=
    fun hpath => hcycle (h.wouldCreate_iff.mpr ⟨hids.1, hpath⟩)
  refine ⟨?_, ?_, ?_⟩
  · intro i j r r' hr hr' hactive hactive' hsame
    -- an old row and the new one have different children
    rcases getElem?_append_singleton_some hr with hr | ⟨rfl, rfl⟩ <;>
      rcases getElem?_append_singleton_some hr' with hr' | ⟨rfl, rfl⟩
    · exact h.oneParent i j r r' hr hr' hactive hactive' hsame
    · exact absurd hsame (hfree r (mem_of_getElem? hr) hactive)
    · exact absurd hsame.symm (hfree r' (mem_of_getElem? hr') hactive')
    · rfl
  · refine (h.acyclic.addEdge hback).mono ?_
    rintro a b ⟨r, hr, hactive, rfl, rfl⟩
    rcases mem_append.mp hr with hr | hr
    · exact .inl ⟨r, hr, hactive, rfl, rfl⟩
    · rw [mem_singleton] at hr
      subst hr
      exact .inr ⟨rfl, rfl⟩
  · intro r hr
    rcases mem_append.mp hr with hr | hr
    · exact h.users r hr
    · rw [mem_singleton] at hr
      subst hr
      exact hids

theorem ReferralForest.disable {id : Nat} (hx : disableUserRelationById id s = .ok s') :
    ReferralForest s' := by
  unfold disableUserRelationById at hx
  simp only [bind_eq_ok, orFail_eq_ok, pure_eq_ok] at hx
  obtain ⟨row, hfound, rfl⟩ := hx
  -- a row is as it was, or no longer active
  have hrow : ∀ (i : Nat) r, (s.userRelations.modify id fun r => { r with active := false })[i]? =
      some r → ∃ r0, s.userRelations[i]? = some r0 ∧ (r.active = true → r = r0) ∧
        r.parentUserId = r0.parentUserId ∧ r.childUserId = r0.childUserId := by
    intro i r hr
    rcases getElem?_modify_some hfound hr with ⟨rfl, rfl⟩ | ⟨-, hr⟩
    · exact ⟨row, hfound, fun hactive => absurd hactive (by simp), rfl, rfl⟩
    · exact ⟨r, hr, fun _ => rfl, rfl, rfl⟩
  refine ⟨?_, ?_, ?_⟩
  · intro i j r r' hr hr' hactive hactive' hsame
    obtain ⟨r0, hr0, hkept, -⟩ := hrow i r hr
    obtain ⟨r1, hr1, hkept', -⟩ := hrow j r' hr'
    obtain rfl := hkept hactive
    obtain rfl := hkept' hactive'
    exact h.oneParent i j r r' hr0 hr1 hactive hactive' hsame
  · refine h.acyclic.mono ?_
    rintro a b ⟨r, hr, hactive, hchild, hparent⟩
    obtain ⟨i, hi⟩ := mem_iff_getElem?.mp hr
    obtain ⟨r0, hr0, hkept, -⟩ := hrow i r hi
    obtain rfl := hkept hactive
    exact ⟨r, mem_of_getElem? hr0, hactive, hchild, hparent⟩
  · intro r hr
    obtain ⟨i, hi⟩ := mem_iff_getElem?.mp hr
    obtain ⟨r0, hr0, -, hparent, hchild⟩ := hrow i r hi
    rw [hparent, hchild]
    exact h.users r0 (mem_of_getElem? hr0)

theorem ReferralForest.step {op : RelationOp} (hx : op.exec s = .ok s') :
    ReferralForest s' := by
  cases op with
  | createActiveUserRelationTx => exact h.create hx
  | disableUserRelationById => exact h.disable hx

theorem ReferralForest.run (ops : List RelationOp) :
    ReferralForest (run RelationOp.exec ops s) :=
  run_induction (fun _ _ _ h _ hx => h.step hx) h
    (along_of_forall fun _ _ _ => trivial)

end

/-- **The referral relations form a forest, and the cycle check is exact on it.** After any
creations and disablings no user has two active parents and no user is above themselves. The loop of
the cycle check ends with one answer, and for a parent who is a user it is yes exactly when the new
relation would close a cycle. -/
theorem referrals_form_forest (s : Store) (hs : s.userRelations = []) (ops : List RelationOp)
    (s' : Store) (hrun : run RelationOp.exec ops s = s') :
    (∀ (i j : Nat) r r', s'.userRelations[i]? = some r → s'.userRelations[j]? = some r' →
      r.active = true → r'.active = true → r.childUserId = r'.childUserId → i = j) ∧
    (∀ u, ¬ TransGen (ActiveParent s') u u) ∧
    ∀ parent child,
      (parent ≠ 0 → child ≠ 0 → ∀ answer, CycleWalk s' child [] parent answer ↔
        answer = wouldCreateUserRelationCycleTx s' parent child) ∧
      (wouldCreateUserRelationCycleTx s' parent child = true ↔
        parent ≠ 0 ∧ ∃ u, TransGen (addEdge (ActiveParent s') child parent) u u) := by
  have hforest : ReferralForest s' := by
    rw [← hrun]
    exact (ReferralForest.init hs).run ops
  refine ⟨hforest.oneParent, hforest.acyclic, fun parent child => ⟨?_, ?_⟩⟩
  · intro hparent hchild answer
    have hwalk := wouldCreateUserRelationCycleTx_walk (s := s') hparent hchild
    constructor
    · exact fun h => h.deterministic hwalk
    · rintro rfl
      exact hwalk
  · rw [hforest.acyclic.exists_cycle_iff]
    exact hforest.wouldCreate_iff

/-- User 1 is above 2 and 2 above 3, so 3 cannot be above 1; once 2 has left 1, it can. -/
theorem referrals_form_forest_moved :
    wouldCreateUserRelationCycleTx (run RelationOp.exec
      [.createActiveUserRelationTx 1 2, .createActiveUserRelationTx 2 3,
       .createActiveUserRelationTx 3 1] {}) 3 1 = true ∧
    ∀ u, ¬ TransGen (ActiveParent (run RelationOp.exec
      [.createActiveUserRelationTx 1 2, .createActiveUserRelationTx 2 3,
       .createActiveUserRelationTx 3 1, .disableUserRelationById 0,
       .createActiveUserRelationTx 3 1] {})) u u :=
  ⟨by decide +kernel, (referrals_form_forest {} rfl _ _ rfl).2.1⟩

end ApiGateway
