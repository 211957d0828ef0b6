import ApiGateway.Model.BatchUpdate

/-!
# What becomes of a recorded value

A value waits in a store or in the hands of a run until it is applied. The one way out is an
update that fails.
-/

namespace ApiGateway

open Threads BatchThread BatchState

variable {k : BatchUpdateType × Nat}

/-- What a store has for an id. -/
def BatchStore.value (store : BatchStore) (id : Nat) : Int := (store.lookup id).getD 0

/-- What a call has taken out of a store and not applied yet. -/
def BatchThread.waiting (k : BatchUpdateType × Nat) : BatchThread → Int
  | .apply type store _ => if k.1 = type then store.value k.2 else 0
  | _ => 0

/-- What is still waiting to be applied, in a store or with a call. -/
def batchWaiting (w : World BatchState BatchThread) (k : BatchUpdateType × Nat) : Int :=
  (w.shared.stores k.1).value k.2 + (w.threads.map (BatchThread.waiting k)).sum

/-- What is not waiting with a call. -/
def BatchState.settled (k : BatchUpdateType × Nat) (s : BatchState) : Int :=
  s.applied k + s.failed k + (s.stores k.1).value k.2 - s.recorded k

theorem value_erase {store : BatchStore} {id : Nat} {value : Int}
    (h : store.lookup id = some value) (j : Nat) :
    BatchStore.value (store.erase id) j + (if j = id then value else 0) = store.value j := by
  unfold BatchStore.value
  by_cases hj : j = id
  · subst hj
    simp [h]
  · simp [hj]

theorem single_apply (type : BatchUpdateType) (id : Nat) (value : Int) :
    (Pi.single (type, id) value : BatchUpdateType × Nat → Int) k =
      if k.1 = type then if k.2 = id then value else 0 else 0 := by
  rw [Pi.single_apply, ← ite_and]
  exact if_congr Prod.ext_iff rfl rfl

/-- No step makes a value appear or disappear. -/
theorem batchStep_settled {x : Nat × Bool} {thread thread' : BatchThread} {s s' : BatchState}
    (h : batchStep x thread s = some (thread', s')) :
    s'.settled k + thread'.waiting k = s.settled k + thread.waiting k := by
  unfold batchStep at h
  split at h
  · rename_i type id value
    cases h
    simp only [settled, waiting, Pi.add_apply, single_apply]
    by_cases htype : k.1 = type
    · subst htype
      by_cases hid : k.2 = id
      · subst hid
        cases hold : (s.stores k.1).lookup k.2 with
        | none => simp [BatchStore.value, hold]
        | some =>
          simp [BatchStore.value, hold]
          omega
      · simp [BatchStore.value, hid]
    · simp [htype]
  · cases h
    rfl
  · cases h
    split <;> rfl
  · cases h
    rfl
  · rename_i type types
    cases h
    by_cases htype : k.1 = type
    · subst htype
      simp [settled, waiting, BatchStore.value]
      omega
    · simp [settled, waiting, htype]
  · rename_i store types
    split at h
    · rename_i hempty
      cases h
      have hnone : store.lookup k.2 = none :=
        AList.lookup_eq_none.mpr fun hmem => by simpa [hempty] using AList.mem_keys.mp hmem
      simp [waiting, BatchStore.value, hnone]
    · split at h
      · cases h
      rename_i hvalue
      have herase := value_erase hvalue k.2
      split at h
      all_goals
        cases h
        simp only [settled, waiting, Pi.add_apply, single_apply]
        split <;> omega
  · cases h

/-- The worlds that calls reach from empty stores. -/
def BatchReachable : World BatchState BatchThread → Prop :=
  Reachable batchStep BatchThread.Starts (fun _ _ _ => True) {}

/-- **Nothing is lost but what fails**: what was applied and what waits make up all that was
recorded, exactly if the failed updates come to nothing. -/
theorem batched_updates_lose_nothing_iff (w : World BatchState BatchThread) (h : BatchReachable w)
    (type : BatchUpdateType) (id : Nat) :
    w.shared.applied (type, id) + batchWaiting w (type, id) = w.shared.recorded (type, id) ↔
      w.shared.failed (type, id) = 0 := by
  have hstart : ∀ l, Starts l → l.waiting (type, id) = 0 := by
    intro l hl
    cases l with
    | apply => cases hl
    | _ => rfl
  have hsum := Reachable.conserved (waiting (type, id)) (settled (type, id))
    hstart (fun x l s l' s' => batchStep_settled) h
  have hempty : settled (type, id) {} = 0 := rfl
  unfold batchWaiting
  unfold settled at hsum hempty
  omega

/-- One record, and a run that comes to its update. -/
def batchSchedule (ok : Bool) : List (Event BatchThread (Nat × Bool)) :=
  [.start (.addNewRecord .userQuota 1 (-5)), .start (.batchUpdate BatchUpdateType.all),
    .move 0 (0, ok), .move 1 (0, ok), .move 1 (0, ok), .move 1 (1, ok)]

theorem batched_update_applied : ∃ w, BatchReachable w ∧ w.shared.failed (.userQuota, 1) = 0 ∧
    w.shared.applied (.userQuota, 1) + batchWaiting w (.userQuota, 1) = -5 := by
  obtain ⟨w, hw, hfailed, hrecorded⟩ : ∃ w, BatchReachable w ∧
      w.shared.failed (.userQuota, 1) = 0 ∧ w.shared.recorded (.userQuota, 1) = -5 :=
    exists_reachable (batchSchedule true) (fun _ _ _ (_ : true) => trivial)
      (by simp [batchSchedule, Starts]) (by decide +kernel)
  refine ⟨w, hw, hfailed, ?_⟩
  rw [← hrecorded]
  exact (batched_updates_lose_nothing_iff w hw .userQuota 1).mpr hfailed

theorem failed_update_lost : ∃ w, BatchReachable w ∧
    w.shared.applied (.userQuota, 1) + batchWaiting w (.userQuota, 1) ≠
      w.shared.recorded (.userQuota, 1) :=
  exists_reachable (batchSchedule false) (fun _ _ _ (_ : true) => trivial)
    (by simp [batchSchedule, Starts]) (by decide +kernel)

end ApiGateway
