import ApiGateway.Model.ChannelKeys

/-!
# Polling takes turns

Read from the polling index on, and from the start again, the enabled keys are a queue: a call
takes the first and puts it at the end.
-/

namespace ApiGateway

open List KeyedChannel

variable {c : KeyedChannel}

/-- A channel in polling mode with a key to poll. -/
structure KeyedChannel.Polling (c : KeyedChannel) : Prop where
  multi : c.isMultiKey = true
  mode : c.multiKeyMode = .polling
  enabled : c.enabledIdx ≠ []

/-- The enabled keys from a position on. -/
def KeyedChannel.turns (c : KeyedChannel) (start : Nat) : List Nat :=
  ((range c.keys.length).rotate start).filter c.isEnabled

theorem turns_perm (start : Nat) : (c.turns start).Perm c.enabledIdx := (rotate_perm _ _).filter _

theorem map_range_eq_rotate (len start : Nat) :
    (range len).map (fun i => (start + i) % len) = (range len).rotate start := by
  refine ext_getElem (by simp) fun i _ _ => ?_
  simp [Nat.add_comm]

/-- A call takes the key whose turn it is. -/
theorem getNextEnabledKey_polling (h : c.Polling) (draw : Nat) (pollingIndex : Int) :
    ∃ idx rest next, c.getNextEnabledKey draw false pollingIndex = .ok (c.keyAt idx, idx, next) ∧
      c.turns (c.start pollingIndex) = idx :: rest ∧ c.turns (c.start next) = rest ++ [idx] := by
  have hlen : c.keys.length ≠ 0 := fun h0 => h.enabled (by simp [enabledIdx, h0])
  obtain ⟨first, others, hfirst⟩ := exists_cons_of_ne_nil h.enabled
  obtain ⟨idx, rest, hturns⟩ : ∃ idx rest, c.turns (c.start pollingIndex) = idx :: rest :=
    exists_cons_of_ne_nil fun hnil => h.enabled (nil_perm.mp (hnil ▸ turns_perm _))
  obtain ⟨before, after, hsplit, hbefore, hidx, hafter⟩ := filter_eq_cons_iff.mp hturns
  refine ⟨idx, rest, ((idx + 1) % c.keys.length : Nat), ?_, hturns, ?_⟩
  · have hfind : ((range c.keys.length).rotate (c.start pollingIndex)).find? c.isEnabled =
        some idx :=
      find?_eq_some_iff_append.mpr ⟨hidx, before, after, hsplit, by simpa using hbefore⟩
    simp [getNextEnabledKey, h.multi, h.mode, hlen, hfirst, map_range_eq_rotate, hfind]
  · -- the next call starts behind `idx`
    have hpos : idx = (before.length + c.start pollingIndex) % c.keys.length := by
      have hget : ((range c.keys.length).rotate (c.start pollingIndex))[before.length]? =
          some idx := by simp [hsplit]
      obtain ⟨hlt, hget⟩ := List.getElem?_eq_some_iff.mp hget
      simpa [getElem_rotate] using hget.symm
    have hnext : (range c.keys.length).rotate ((idx + 1) % c.keys.length) =
        after ++ (before ++ [idx]) := by
      have hrot := rotate_append_length_eq (before ++ [idx]) after
      rw [append_assoc, singleton_append, ← hsplit, rotate_rotate, ← rotate_mod,
        length_range] at hrot
      rw [← hrot, hpos, Nat.mod_add_mod, Nat.add_comm before.length, length_append,
        length_singleton, Nat.add_assoc]
    have hstart : c.start ((idx + 1) % c.keys.length : Nat) = (idx + 1) % c.keys.length := by
      have hlt := Nat.mod_lt (idx + 1) (Nat.pos_of_ne_zero hlen)
      rw [start, if_neg (by omega)]
      rfl
    unfold turns
    rw [hstart, hnext, filter_append, filter_append, hafter, filter_eq_nil_iff.mpr hbefore]
    simp [hidx]

theorem getNextEnabledKey_lookupFails (h : c.Polling) (draw : Nat) (pollingIndex : Int) :
    c.getNextEnabledKey draw true pollingIndex = .error .getChannelFailed := by
  have hlen : c.keys.length ≠ 0 := fun h0 => h.enabled (by simp [enabledIdx, h0])
  obtain ⟨first, others, hfirst⟩ := exists_cons_of_ne_nil h.enabled
  simp [getNextEnabledKey, h.multi, h.mode, hlen, hfirst]

theorem nextKeys_turns (h : c.Polling) {memoryCacheEnabled : Bool} {calls : List KeyCall}
    (hwrites : ∀ call ∈ calls, call.writesThrough memoryCacheEnabled = true) :
    ∀ {pollingIndex : Int} {now later : List Nat}, now.length = calls.length →
      c.turns (c.start pollingIndex) = now ++ later →
      nextKeys memoryCacheEnabled c pollingIndex calls =
        now.map fun idx => .ok (c.keyAt idx, idx) := by
  induction calls with
  | nil =>
    intro _ now _ hnow _
    rw [length_eq_zero_iff.mp hnow]
    rfl
  | cons call _ ih =>
    intro pollingIndex now later hnow hturns
    obtain ⟨idx, rest, next, hkey, hfirst, hnext⟩ :=
      getNextEnabledKey_polling h call.draw pollingIndex
    cases now with
    | nil => cases hnow
    | cons =>
      rw [hfirst, cons_append] at hturns
      obtain ⟨rfl, rfl⟩ := cons.inj hturns
      rw [append_assoc] at hnext
      have hcall := hwrites call mem_cons_self
      have hfound : call.lookupFails = false := by
        simpa using (Bool.and_eq_true_iff.mp hcall).1
      simp only [nextKeys, hfound, hkey, hcall, if_true, map_cons]
      rw [ih (fun call' hmem => hwrites call' (mem_cons_of_mem _ hmem)) (Nat.succ.inj hnow) hnext]

/-- **Polling is a fair round robin** among calls that write the index to the record that the
next call reads, and no call is given a disabled key; it gets a key if the record is found. -/
theorem polling_fair (c : KeyedChannel) (h : c.Polling) (memoryCacheEnabled : Bool)
    (pollingIndex : Int) (calls : List KeyCall) :
    (calls.length = c.enabledIdx.length →
      (∀ call ∈ calls, call.writesThrough memoryCacheEnabled = true) →
      ∃ idxs : List Nat, idxs.Perm c.enabledIdx ∧ nextKeys memoryCacheEnabled c pollingIndex calls =
        idxs.map fun idx => .ok (c.keyAt idx, idx)) ∧
    ∀ r ∈ nextKeys memoryCacheEnabled c pollingIndex calls,
      (∃ idx ∈ c.enabledIdx, r = .ok (c.keyAt idx, idx)) ∨
        r = .error .getChannelFailed ∧ ∃ call ∈ calls, call.lookupFails = true := by
  refine ⟨fun hlen hwrites => ?_, ?_⟩
  · have hperm := turns_perm (c := c) (c.start pollingIndex)
    exact ⟨_, hperm, nextKeys_turns h hwrites (hperm.length_eq.trans hlen.symm) (append_nil _).symm⟩
  · induction calls generalizing pollingIndex with
    | nil => exact fun r hr => nomatch hr
    | cons call calls ih =>
      have hlater : ∀ index, ∀ r ∈ nextKeys memoryCacheEnabled c index calls,
          (∃ idx ∈ c.enabledIdx, r = .ok (c.keyAt idx, idx)) ∨
            r = .error .getChannelFailed ∧ ∃ call' ∈ call :: calls, call'.lookupFails = true :=
        fun index r hr => (ih index r hr).imp_right fun ⟨herr, call', hmem, hfails⟩ =>
          ⟨herr, call', mem_cons_of_mem _ hmem, hfails⟩
      intro r hr
      cases hfails : call.lookupFails with
      | true =>
        simp only [nextKeys, hfails, getNextEnabledKey_lookupFails h, mem_cons] at hr
        rcases hr with rfl | hr
        · exact .inr ⟨rfl, call, mem_cons_self, hfails⟩
        · exact hlater _ r hr
      | false =>
        obtain ⟨idx, rest, next, hkey, hfirst, -⟩ :=
          getNextEnabledKey_polling h call.draw pollingIndex
        simp only [nextKeys, hfails, hkey, mem_cons] at hr
        rcases hr with rfl | hr
        · exact .inl ⟨idx, (turns_perm _).mem_iff.mp (hfirst ▸ mem_cons_self), rfl⟩
        · exact hlater _ r hr

/-- Three keys, of which the first two are enabled. -/
def threeKeys : KeyedChannel where
  key := ""
  isMultiKey := true
  keys := ["a", "b", "c"]
  multiKeyStatusList i := if i = 2 then some 2 else none
  multiKeyMode := .polling

theorem polling_fair_threeKeys : ∃ idxs : List Nat, idxs.Perm [0, 1] ∧
    nextKeys true threeKeys 5 [{ cached := true }, { cached := true }] =
      idxs.map fun idx => .ok (threeKeys.keyAt idx, idx) :=
  (polling_fair threeKeys ⟨rfl, rfl, by decide⟩ true 5 _).1 rfl (by simp [KeyCall.writesThrough])

/-- With the cache on, a caller with a channel from the database writes to its own copy. -/
theorem polling_stands_still :
    nextKeys true threeKeys 0 [{ cached := false }, { cached := false }] =
      [.ok ("a", 0), .ok ("a", 0)] :=
  rfl

end ApiGateway
