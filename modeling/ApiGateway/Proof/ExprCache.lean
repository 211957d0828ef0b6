import ApiGateway.Service.ExprCache

/-!
# The identifiers that a call is told

An entry says what compiling says, and the cache has room for the entry that is stored. But that
entry may be gone when the call looks again.
-/

namespace ApiGateway

open Threads List Option

variable {C : ExprCompiler} {cache cache' : ExprCache} {thread thread' : ExprThread}

/-- What is right about a call where it stands. -/
def ExprThread.Right (C : ExprCompiler) (cache : ExprCache) : ExprThread → Prop
  | .store exprStr vars _ => C.compile exprStr = some vars
  | .lookAgain exprStr => (cache.lookup exprStr).isSome
  | .returned exprStr vars => ∀ ids, C.compile exprStr = some ids → vars = ids
  | _ => True

/-- Every entry says what compiling says. -/
def EntriesRight (C : ExprCompiler) (cache : ExprCache) : Prop :=
  ∀ exprStr vars, cache.lookup exprStr = some vars → C.compile exprStr = some vars

/-- What an access does: it reads, it starts the cache anew, or it stores an entry. -/
theorem exprStep_cases (h : exprStep C () thread cache = some (thread', cache')) :
    (cache' = cache ∧ (EntriesRight C cache → thread.Right C cache → thread'.Right C cache)) ∨
    (thread = .invalidateCache ∧ thread' = .done ∧ cache' = ∅) ∨
    ∃ exprStr vars again, thread = .store exprStr vars again ∧
      thread' = (if again then .lookAgain exprStr else .done) ∧
      cache' = (if maxCacheSize ≤ cache.keys.length then ∅ else cache).insert exprStr vars := by
  unfold exprStep at h
  split at h
  · rename_i exprStr
    refine .inl ?_
    split at h
    · rename_i hempty
      cases h
      refine ⟨rfl, fun _ _ ids hids => ?_⟩
      rw [hempty, C.compile_empty] at hids
      cases hids
    split at h
    · rename_i vars hvars
      cases h
      refine ⟨rfl, fun hright _ ids hids => ?_⟩
      exact some.inj ((hright exprStr vars hvars).symm.trans hids)
    · cases h
      exact ⟨rfl, fun _ _ => trivial⟩
  · rename_i again
    refine .inl ?_
    split at h
    · rename_i hsome
      cases h
      cases again
      · exact ⟨rfl, fun _ _ => trivial⟩
      · exact ⟨rfl, fun _ _ => isSome_of_eq_some hsome⟩
    · rename_i hvars
      cases h
      exact ⟨rfl, fun _ _ => hvars⟩
    · rename_i hnone
      cases h
      cases again
      · exact ⟨rfl, fun _ _ => trivial⟩
      · exact ⟨rfl, fun _ _ ids hids => nomatch (hnone.symm.trans hids)⟩
  · cases h
    exact .inr (.inr ⟨_, _, _, rfl, rfl, rfl⟩)
  · rename_i exprStr
    cases h
    refine .inl ⟨rfl, fun hright hsome ids hids => ?_⟩
    obtain ⟨vars, hvars⟩ := isSome_iff_exists.mp hsome
    rw [hvars]
    exact some.inj ((hright exprStr vars hvars).symm.trans hids)
  · cases h
    exact .inr (.inl ⟨rfl, rfl, rfl⟩)
  · cases h
  · cases h

theorem entriesRight_empty : EntriesRight C ∅ := fun key vars h => by
  cases h

def WithinLimit (cache : ExprCache) : Prop := cache.keys.length ≤ maxCacheSize

theorem exprStep_size (h : exprStep C () thread cache = some (thread', cache'))
    (hsize : WithinLimit cache) : WithinLimit cache' := by
  unfold WithinLimit at ⊢
  rcases exprStep_cases h with ⟨rfl, -⟩ | ⟨-, -, rfl⟩ | ⟨exprStr, -, -, -, -, rfl⟩
  · exact hsize
  · exact Nat.zero_le _
  · rw [AList.keys_insert, length_cons]
    have herase := (erase_sublist (a := exprStr)
      (l := (if maxCacheSize ≤ cache.keys.length then ∅ else cache : ExprCache).keys)).length_le
    split_ifs at herase ⊢ with hfull
    · exact Nat.le_add_left 1 255
    · omega

theorem exprStep_entries (h : exprStep C () thread cache = some (thread', cache'))
    (hright : EntriesRight C cache) (hthread : thread.Right C cache) :
    EntriesRight C cache' ∧ thread'.Right C cache' ∧ (thread.clears cache = false →
      ∀ key, (cache.lookup key).isSome → (cache'.lookup key).isSome) := by
  rcases exprStep_cases h with ⟨rfl, hsame⟩ | ⟨rfl, rfl, rfl⟩ | ⟨exprStr, vars, again, rfl, rfl, rfl⟩
  · exact ⟨hright, hsame hright hthread, fun _ _ => id⟩
  · exact ⟨entriesRight_empty, trivial, fun hclears => nomatch hclears⟩
  refine ⟨fun key vars' hkey => ?_, ?_, fun hclears key hsome => ?_⟩
  · by_cases hne : key = exprStr
    · subst hne
      rw [AList.lookup_insert] at hkey
      exact hthread.trans hkey
    · rw [AList.lookup_insert_ne hne] at hkey
      split at hkey
      · cases hkey
      · exact hright key vars' hkey
  · cases again
    · trivial
    · exact isSome_of_eq_some (AList.lookup_insert _)
  · by_cases hne : key = exprStr
    · subst hne
      exact isSome_of_eq_some (AList.lookup_insert _)
    · rw [AList.lookup_insert_ne hne, if_neg (of_decide_eq_false hclears)]
      exact hsome

def ExprReachable (C : ExprCompiler) (g : World ExprCache ExprThread → Nat → Unit → Bool) :
    World ExprCache ExprThread → Prop :=
  Reachable (exprStep C) ExprThread.Starts (fun w i x => g w i x = true) ∅

/-- **Used variables are told reliably** while entries are dropped only when no call is about to
look again, and the cache stays within its limit. -/
theorem used_vars_reliable (C : ExprCompiler) :
    (∀ w, ExprReachable C (fun _ _ _ => true) w → w.shared.keys.length ≤ maxCacheSize) ∧
      ∀ w, ExprReachable C dropsUnread w → ∀ exprStr vars ids,
        .returned exprStr vars ∈ w.threads → C.compile exprStr = some ids → vars = ids := by
  refine ⟨fun w h => ?_, fun w h exprStr vars ids hmem hids => ?_⟩
  · have hsize : WithinLimit w.shared := by
      refine h.invariant (Nat.zero_le _) ?_
      intro w i x thread thread' cache' hsize _ _ hx
      exact exprStep_size hx hsize
    exact hsize
  let o : Outline ExprCache ExprThread := ⟨EntriesRight C, fun l cache => l.Right C cache, fun _ _ => True⟩
  have hholds : o.Holds w := by
    refine Outline.reachable entriesRight_empty ?_ ?_ h
    · intro w l _ hl
      refine ⟨?_, fun _ _ => ⟨trivial, trivial⟩⟩
      cases l with
      | usedVars | compile | invalidateCache | done => trivial
      | _ => cases hl
    · intro w i x l l' s' hw hi hg hx
      obtain ⟨hentries, hright, hkept⟩ := exprStep_entries hx hw.inv (hw.here i l hi)
      refine ⟨hentries, hright, fun j l₂ hj hl₂ => ⟨?_, trivial, trivial⟩⟩
      have hbefore := hw.here j l₂ hl₂
      cases l₂ with
      | lookAgain key =>
        refine hkept ?_ key hbefore
        have hlooks : w.threads.any (·.looksAgain) = true :=
          any_eq_true.mpr ⟨_, mem_of_getElem? hl₂, rfl⟩
        simpa [dropsUnread, hi, hlooks] using hg
      | _ => exact hbefore
  obtain ⟨i, hi⟩ := mem_iff_getElem?.mp hmem
  exact hholds.here i _ hi ids hids

def someCompiler : ExprCompiler where
  compile exprStr := if exprStr = "p + c" then some ["p", "c"] else none
  compile_empty := rfl

theorem used_vars_reliable_after_drop : ∃ w, ExprReachable someCompiler dropsUnread w ∧
    .returned "p + c" ["p", "c"] ∈ w.threads ∧
      ∀ vars, .returned "p + c" vars ∈ w.threads → vars = ["p", "c"] := by
  obtain ⟨w, hw, hmem⟩ : ∃ w, ExprReachable someCompiler dropsUnread w ∧
      .returned "p + c" ["p", "c"] ∈ w.threads := exists_reachable
    [.start .invalidateCache, .move 0 (), .start (.usedVars "p + c"), .move 1 (), .move 1 (),
      .move 1 (), .move 1 ()] (fun _ _ _ hg => hg) (by simp [ExprThread.Starts]) (by decide +kernel)
  exact ⟨w, hw, hmem, fun vars h => (used_vars_reliable someCompiler).2 w hw _ vars _ h rfl⟩

/-- The rules are updated between the storing of an entry and the look at it. -/
theorem used_vars_missed : ∃ w, ExprReachable someCompiler (fun _ _ _ => true) w ∧
    .returned "p + c" [] ∈ w.threads :=
  exists_reachable
    [.start (.usedVars "p + c"), .start .invalidateCache, .move 0 (), .move 0 (), .move 0 (),
      .move 1 (), .move 0 ()] (fun _ _ _ hg => hg) (by simp [ExprThread.Starts]) (by decide +kernel)

end ApiGateway
