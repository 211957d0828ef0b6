import ApiGateway.Service.QiniuKeys
import ApiGateway.Proof.Wallet

/-!
# The limit of a key and what it was granted

A limit is overwritten by the sum of the grants that were applied, so it is right once every grant
of the token is applied, provided that the grants add up to the balance at the time the limit was
first set and the fundings since. `KeyInv` says that, and that keys belong to one user each.
-/

namespace ApiGateway

open Table List Function QiniuQuotaGrant

variable {cfg : Config} {s : KeyState}
variable {i id m n u : Nat} {key : String} {t : Token} {call : LimitCall} {g : QiniuQuotaGrant}
variable {history : List KeyEvent} {noted : Bool} {task : QiniuKeySyncTask}

/-! ## Histories -/

theorem sinceFirstSet_append_singleton (key : String) (history : List KeyEvent) (e : KeyEvent) :
    sinceFirstSet key (history ++ [e]) =
      ((sinceFirstSet key history).map fun since => (since.1, since.2 ++ [e])).or
        (sinceFirstSet key [e]) := by
  induction history with
  | nil => rfl
  | cons e' _ ih =>
    cases e' with
    | limitSet key' =>
      by_cases hkey : key' = key
      · simp [sinceFirstSet, hkey]
      · simpa [sinceFirstSet, hkey] using ih
    | funded => simpa [sinceFirstSet] using ih

theorem entitledLimit_funded (u v : Nat) (key : String) (amount : ℚ) (history : List KeyEvent) :
    entitledLimit u key (history ++ [.funded v amount]) =
      (entitledLimit u key history).map fun e => e + if v = u then amount else 0 := by
  rw [entitledLimit, entitledLimit, sinceFirstSet_append_singleton]
  cases sinceFirstSet key history with
  | none => rfl
  | some => simp [KeyEvent.fundingOf, add_assoc]

theorem entitledLimit_limitSet_of_some {key' : String} {e balance : ℚ}
    (h : entitledLimit u key history = some e) :
    entitledLimit u key (history ++ [.limitSet key' balance]) = some e := by
  rw [entitledLimit] at h ⊢
  rw [sinceFirstSet_append_singleton]
  cases hs : sinceFirstSet key history with
  | none =>
    rw [hs] at h
    cases h
  | some =>
    rw [hs] at h
    simpa [KeyEvent.fundingOf] using h

theorem entitledLimit_limitSet_of_none {key' : String} {balance : ℚ}
    (h : entitledLimit u key history = none) :
    entitledLimit u key (history ++ [.limitSet key' balance]) =
      if key' = key then some balance else none := by
  rw [entitledLimit, Option.map_eq_none_iff] at h
  rw [entitledLimit, sinceFirstSet_append_singleton, h]
  by_cases hkey : key' = key
  · simp [sinceFirstSet]
  · simp [sinceFirstSet]

/-! ## The invariant -/

/-- The provider made `key` for a task of user `u`. -/
def KeyState.Owns (s : KeyState) (key : String) (u : Nat) : Prop :=
  key ≠ "" ∧ ∃ task ∈ s.tasks, task.userId = u ∧ task.qiniuKey = key

def Store.ManagedToken (s : Store) (i : Nat) (t : Token) : Prop :=
  s.tokens[i]? = some t ∧ t.qiniuManaged = true

/-- What a grant is worth to a token, applied or not. -/
def QiniuQuotaGrant.grantedTo (tokenId : Nat) (grant : QiniuQuotaGrant) : ℚ :=
  if grant.tokenId = some tokenId then grant.grantAmount else 0

def commissionTransferBusinessKey (walletFlowId : Nat) : String :=
  s!"commission_transfer:{walletFlowId}"

/-- A grant belongs to a managed token of its user, and its business key was given out. -/
structure GrantInv (s : Store) (g : QiniuQuotaGrant) : Prop where
  token : ∃ i t, g.tokenId = some i ∧ s.ManagedToken i t ∧ t.userId = g.userId
  nonneg : 0 ≤ g.grantAmount
  transfer : ∀ n, g.businessKey = commissionTransferBusinessKey n → n ≤ s.walletFlows.length
  baseline : ∀ n, g.businessKey = qiniuInitialQuotaBaselineBusinessKey n → n ≤ s.tokens.length

/-- A managed token is the only token of its user, and its grants add up. -/
structure ManagedTokenInv (s : KeyState) (i : Nat) (t : Token) : Prop where
  enabled : t.enabled = true
  owns : s.Owns t.key t.userId
  only : ∀ j t', s.store.tokens[j]? = some t' → t'.userId = t.userId → j = i
  /-- The grants of the token are its first balance and the fundings since. -/
  tracks : entitledLimit t.userId t.key s.history =
    some (total (grantedTo i) s.store.quotaGrants)
  /-- Once all of them are applied, the provider has the sum. -/
  limit : (∀ g ∈ s.store.quotaGrants, g.tokenId = some i → g.remoteApplyStatus = .applied) →
    s.remoteLimit t.key = some (total (grantedTo i) s.store.quotaGrants)

structure KeyInv (cfg : Config) (s : KeyState) : Prop where
  /-- A key belongs to one user. -/
  owner : ∀ key u v, s.Owns key u → s.Owns key v → u = v
  /-- The provider knows the keys of tasks. -/
  known : ∀ key u, s.Owns key u → key ∈ s.remoteKeys
  /-- Limits were set only for keys the provider knows. -/
  setKnown : ∀ key u e, entitledLimit u key s.history = some e → key ∈ s.remoteKeys
  /-- While its token is not written, a key is entitled to the balance. -/
  waiting : ∀ key u e, s.Owns key u → s.store.hasToken u = false →
    entitledLimit u key s.history = some e → e = qiniuBalance cfg u s.store
  grant : ∀ g ∈ s.store.quotaGrants, GrantInv s.store g
  managed : ∀ i t, s.store.ManagedToken i t → ManagedTokenInv s i t

theorem hasToken_of_getElem? {s : Store} (h : s.tokens[i]? = some t) : s.hasToken t.userId = true :=
  any_eq_true.mpr ⟨t, mem_of_getElem? h, by simp⟩

theorem userId_ne_of_hasToken {s : Store} (hu : s.hasToken u = false) (h : s.tokens[i]? = some t) :
    t.userId ≠ u := by
  rintro rfl
  rw [hasToken_of_getElem? h] at hu
  cases hu

theorem KeyInv.key_inj (h : KeyInv cfg s) {j : Nat} {t' : Token}
    (hi : s.store.ManagedToken i t) (hj : s.store.ManagedToken j t') (hkey : t'.key = t.key) :
    j = i := by
  have howns := (h.managed j t' hj).owns
  rw [hkey] at howns
  exact (h.managed i t hi).only j t' hj.1
    (h.owner t.key t'.userId t.userId howns (h.managed i t hi).owns)

/-! ## Tasks -/

/-- Tasks may change as long as a key changes hands only if the provider just made it. -/
theorem KeyInv.withTasks (h : KeyInv cfg s) {tasks : List QiniuKeySyncTask}
    {remoteKeys : List String} (newKey : String) (v : Nat)
    (hkeys : ∀ key ∈ s.remoteKeys, key ∈ remoteKeys)
    (hkeep : ∀ key u, s.Owns key u → { s with tasks, remoteKeys }.Owns key u)
    (hnew : ∀ key u, { s with tasks, remoteKeys }.Owns key u → s.Owns key u ∨
      (key = newKey ∧ u = v ∧ newKey ∉ s.remoteKeys ∧ newKey ∈ remoteKeys)) :
    KeyInv cfg { s with tasks, remoteKeys } := by
  refine ⟨?_, ?_, ?_, ?_, h.grant, ?_⟩
  · intro key u u' hu hu'
    rcases hnew key u hu with hold | ⟨rfl, rfl, hfresh, -⟩
    · rcases hnew key u' hu' with hold' | ⟨rfl, rfl, hfresh, -⟩
      · exact h.owner key u u' hold hold'
      · exact absurd (h.known key u hold) hfresh
    · rcases hnew key u' hu' with hold' | ⟨-, rfl, -⟩
      · exact absurd (h.known key u' hold') hfresh
      · rfl
  · intro key u hu
    rcases hnew key u hu with hold | ⟨rfl, -, -, hmem⟩
    · exact hkeys key (h.known key u hold)
    · exact hmem
  · intro key u e he
    exact hkeys key (h.setKnown key u e he)
  · intro key u e hu htoken he
    rcases hnew key u hu with hold | ⟨rfl, -, hfresh, -⟩
    · exact h.waiting key u e hold htoken he
    · exact absurd (h.setKnown key u e he) hfresh
  · intro i t ht
    have hm := h.managed i t ht
    exact ⟨hm.enabled, hkeep _ _ hm.owns, hm.only, hm.tracks, hm.limit⟩

theorem owns_updateTask {f : QiniuKeySyncTask → QiniuKeySyncTask}
    (hf : ∀ task, (f task).userId = task.userId ∧ (f task).qiniuKey = task.qiniuKey) :
    (s.updateTask id f).Owns key u ↔ s.Owns key u := by
  have hmap : (s.tasks.modify id f).map (fun task => (task.userId, task.qiniuKey)) =
      s.tasks.map fun task => (task.userId, task.qiniuKey) := by
    refine ext_getElem? fun j => ?_
    rw [getElem?_map, getElem?_map, getElem?_modify]
    cases s.tasks[j]? with
    | none => rfl
    | some task =>
      by_cases hij : id = j
      · simp [hij, (hf task).1, (hf task).2]
      · simp [hij]
  have hmem : ∀ tasks : List QiniuKeySyncTask,
      (∃ task ∈ tasks, task.userId = u ∧ task.qiniuKey = key) ↔
        (u, key) ∈ tasks.map fun task => (task.userId, task.qiniuKey) := by
    intro tasks
    simp
  unfold KeyState.Owns KeyState.updateTask
  rw [hmem, hmem, hmap]

theorem owns_markTask {status : QiniuKeyTaskStatus} :
    (s.markTask id status noted).Owns key u ↔ s.Owns key u := by
  refine owns_updateTask ?_
  exact fun _ => ⟨rfl, rfl⟩

theorem KeyInv.markTask (h : KeyInv cfg s) (id : Nat) (status : QiniuKeyTaskStatus)
    (noted : Bool) : KeyInv cfg (s.markTask id status noted) :=
  h.withTasks "" 0 (fun _ hkey => hkey) (fun _ _ hu => owns_markTask.mpr hu)
    (fun _ _ hu => .inl (owns_markTask.mp hu))

theorem KeyInv.enqueue (h : KeyInv cfg s) (u : Nat) :
    KeyInv cfg { s with tasks := s.tasks ++ [{ userId := u }] } := by
  refine h.withTasks "" 0 (fun _ hkey => hkey) ?_ ?_
  · rintro key v ⟨hkey, task, hmem, htask⟩
    exact ⟨hkey, task, mem_append_left _ hmem, htask⟩
  rintro key v ⟨hkey, task, hmem, htask⟩
  rcases mem_append.mp hmem with hmem | hmem
  · exact .inl ⟨hkey, task, hmem, htask⟩
  · -- the new task has no key yet
    obtain rfl := mem_singleton.mp hmem
    exact absurd htask.2.symm hkey

variable {newKey : String}

theorem KeyInv.noteKey (h : KeyInv cfg s) (hget : s.tasks[id]? = some task)
    (hnone : task.qiniuKey = "") (hfresh : newKey ∉ s.remoteKeys) :
    KeyInv cfg ({ s with remoteKeys := newKey :: s.remoteKeys }.updateTask id
      fun task => { task with qiniuKey := newKey }) := by
  refine h.withTasks newKey task.userId (fun _ hkey => mem_cons_of_mem _ hkey) ?_ ?_
  · rintro - v ⟨hkey, task', hmem, huser, rfl⟩
    obtain ⟨j, hj⟩ := mem_iff_getElem?.mp hmem
    have hne : id ≠ j := by
      rintro rfl
      rw [hget, Option.some.injEq] at hj
      exact hkey (hj ▸ hnone)
    refine ⟨hkey, task', mem_iff_getElem?.mpr ⟨j, ?_⟩, huser, rfl⟩
    exact (getElem?_modify_ne _ _ hne).trans hj
  · rintro key v ⟨hkey, task', hmem, huser, hkey'⟩
    rcases mem_modify hget hmem with rfl | hmem
    · exact .inr ⟨hkey'.symm, huser.symm, hfresh, mem_cons_self⟩
    · exact .inl ⟨hkey, task', hmem, huser, hkey'⟩

/-! ## Setting a limit -/

/-- A limit may be overwritten as long as the key waits for its token or a grant of the
token is yet to be applied. -/
theorem KeyInv.setLimit (h : KeyInv cfg s) (hown : s.Owns key u)
    (hopen : ∀ i t, s.store.ManagedToken i t → t.key = key →
      ∃ g ∈ s.store.quotaGrants, g.tokenId = some i ∧ g.remoteApplyStatus ≠ .applied)
    (limit : ℚ) (call : LimitCall) :
    KeyInv cfg (setAPIKeyTotalQuota cfg u key limit call s) := by
  by_cases hreached : call.reached = true
  swap
  · rw [setAPIKeyTotalQuota, if_neg hreached]
    exact h
  rw [setAPIKeyTotalQuota, if_pos hreached]
  refine ⟨h.owner, h.known, ?_, ?_, h.grant, ?_⟩
  · intro key' v e he
    cases hbefore : entitledLimit v key' s.history with
    | some e' => exact h.setKnown key' v e' hbefore
    | none =>
      rw [entitledLimit_limitSet_of_none hbefore] at he
      split at he
      · rename_i heq
        exact heq ▸ h.known key u hown
      · cases he
  · intro key' v e hown' htoken he
    cases hbefore : entitledLimit v key' s.history with
    | some e' =>
      rw [entitledLimit_limitSet_of_some hbefore, Option.some.injEq] at he
      exact he ▸ h.waiting key' v e' hown' htoken hbefore
    | none =>
      -- the limit is set for the first time, so the balance of now is what counts
      rw [entitledLimit_limitSet_of_none hbefore] at he
      split at he
      · rename_i heq
        subst heq
        rw [h.owner key v u hown' hown]
        exact (Option.some.inj he).symm
      · cases he
  · intro i t ht
    have hm := h.managed i t ht
    refine ⟨hm.enabled, hm.owns, hm.only, entitledLimit_limitSet_of_some hm.tracks, ?_⟩
    intro happlied
    by_cases hkey : t.key = key
    · obtain ⟨g, hg, hgi, hpending⟩ := hopen i t ht hkey
      exact absurd (happlied g hg hgi) hpending
    · show update s.remoteLimit key (some limit) t.key = _
      rw [update_of_ne hkey]
      exact hm.limit happlied

variable {limit : ℚ}

@[simp] theorem setAPIKeyTotalQuota_store :
    (setAPIKeyTotalQuota cfg u key limit call s).store = s.store := by
  unfold setAPIKeyTotalQuota
  split <;> rfl

@[simp] theorem setAPIKeyTotalQuota_remoteLimit :
    (setAPIKeyTotalQuota cfg u key limit .ok s).remoteLimit key = some limit := by
  exact update_self key (some limit) s.remoteLimit

/-! ## Business keys -/

theorem append_ne_of_head {a b : String} {c d : Char} {as bs : List Char} (ha : a.toList = c :: as)
    (hb : b.toList = d :: bs) (hcd : c ≠ d) (x y : String) : a ++ x ≠ b ++ y := by
  intro h
  have hlist : (a ++ x).toList = (b ++ y).toList := by rw [h]
  rw [String.toList_append, String.toList_append, ha, hb, cons_append, cons_append,
    List.cons.injEq] at hlist
  exact hcd hlist.1

theorem toString_nat_inj (h : toString m = toString n) : m = n := by
  have hdigits : Nat.toDigits 10 m = Nat.toDigits 10 n := String.ofList_injective h
  simpa using congrArg (Nat.ofDigitChars 10 · 0) hdigits

theorem transferKey_ne_baseline (m n : Nat) :
    commissionTransferBusinessKey m ≠ qiniuInitialQuotaBaselineBusinessKey n :=
  append_ne_of_head rfl rfl (by decide) (toString m) (toString n)

theorem GrantInv.mono {s s' : Store} (h : GrantInv s g)
    (htokens : ∀ (i : Nat) t, s.tokens[i]? = some t → s'.tokens[i]? = some t)
    (hlength : s.tokens.length ≤ s'.tokens.length)
    (hflows : s.walletFlows.length ≤ s'.walletFlows.length) : GrantInv s' g := by
  obtain ⟨i, t, hi, ht, huser⟩ := h.token
  exact ⟨⟨i, t, hi, ⟨htokens i t ht.1, ht.2⟩, huser⟩, h.nonneg,
    fun n hn => (h.transfer n hn).trans hflows, fun n hn => (h.baseline n hn).trans hlength⟩

/-! ## Writing a token -/

def baselineGrant (u i : Nat) (amount : ℚ) : QiniuQuotaGrant :=
  { userId := u, tokenId := some i, businessKey := qiniuInitialQuotaBaselineBusinessKey (i + 1)
    grantAmount := amount, remoteApplyStatus := .applied }

theorem createManagedTokenTx_eq {s : Store} (h : ∀ g ∈ s.quotaGrants, GrantInv s g) {amount : ℚ}
    (hamount : 0 ≤ amount) :
    createManagedTokenTx u key amount s = { s with
      tokens := s.tokens ++ [{ userId := u, key, enabled := true, qiniuManaged := true }]
      quotaGrants := s.quotaGrants ++ [baselineGrant u s.tokens.length amount] } := by
  have hfresh : ¬ (s.quotaGrants.any fun g =>
      g.businessKey == qiniuInitialQuotaBaselineBusinessKey (s.tokens.length + 1)) = true := by
    rw [any_eq_true]
    rintro ⟨g, hg, hkey⟩
    have := (h g hg).baseline _ (beq_iff_eq.mp hkey)
    omega
  unfold createManagedTokenTx createQiniuInitialQuotaBaselineTx
  rw [if_neg hfresh, if_neg (not_lt.mpr hamount), baselineGrant]

theorem KeyInv.createToken (h : KeyInv cfg s) {amount : ℚ}
    (hown : s.Owns key u) (hnone : s.store.hasToken u = false) (hamount : 0 ≤ amount)
    (hlimit : s.remoteLimit key = some amount)
    (hentitled : entitledLimit u key s.history = some amount) :
    KeyInv cfg { s with store := createManagedTokenTx u key amount s.store } := by
  rw [createManagedTokenTx_eq h.grant hamount]
  have hkeep : ∀ (i : Nat) t a, s.store.tokens[i]? = some t →
      (s.store.tokens ++ [a])[i]? = some t := by
    intro i t a ht
    obtain ⟨hlt, -⟩ := List.getElem?_eq_some_iff.mp ht
    rw [getElem?_append_left hlt, ht]
  -- no earlier grant is for the new token
  have hold : ∀ g ∈ s.store.quotaGrants, g.tokenId ≠ some s.store.tokens.length := by
    intro g hg hn
    obtain ⟨i, t, hi, ht, -⟩ := (h.grant g hg).token
    rw [hi, Option.some.injEq] at hn
    exact absurd (List.getElem?_eq_some_iff.mp ht.1).1 (by omega)
  have hzero : total (grantedTo s.store.tokens.length) s.store.quotaGrants = 0 := by
    refine sum_eq_zero fun x hx => ?_
    obtain ⟨g, hg, rfl⟩ := mem_map.mp hx
    exact if_neg (hold g hg)
  refine ⟨h.owner, h.known, h.setKnown, ?_, ?_, ?_⟩
  · intro key' v e hown' htoken he
    refine h.waiting key' v e hown' ?_ he
    rw [Store.hasToken, any_append, Bool.or_eq_false_iff] at htoken
    exact htoken.1
  · intro g hg
    rcases mem_append.mp hg with hg | hg
    · exact (h.grant g hg).mono (fun i t ht => hkeep i t _ ht) (by simp) le_rfl
    obtain rfl := mem_singleton.mp hg
    refine ⟨⟨_, _, rfl, ⟨getElem?_concat_length, rfl⟩, rfl⟩, hamount, ?_, ?_⟩
    · intro n hn
      exact absurd hn.symm (transferKey_ne_baseline n _)
    · intro n hn
      rw [← toString_nat_inj ((String.append_right_inj _).mp hn)]
      simp
  rintro i t ⟨hget, hmanaged⟩
  rcases getElem?_append_singleton_some hget with hget | ⟨rfl, rfl⟩
  · have hm := h.managed i t ⟨hget, hmanaged⟩
    have hne : some s.store.tokens.length ≠ some i := by
      have := (List.getElem?_eq_some_iff.mp hget).1
      simp only [ne_eq, Option.some.injEq]
      omega
    have htotal : total (grantedTo i)
        (s.store.quotaGrants ++ [baselineGrant u s.store.tokens.length amount]) =
        total (grantedTo i) s.store.quotaGrants := by
      simp [grantedTo, baselineGrant, hne]
    refine ⟨hm.enabled, hm.owns, ?_, ?_, ?_⟩
    · intro j t' hj huser
      rcases getElem?_append_singleton_some hj with hj | ⟨rfl, rfl⟩
      · exact hm.only j t' hj huser
      · exact absurd huser.symm (userId_ne_of_hasToken hnone hget)
    · rw [htotal]
      exact hm.tracks
    · intro happlied
      rw [htotal]
      exact hm.limit fun g hg => happlied g (mem_append_left _ hg)
  · have htotal : total (grantedTo s.store.tokens.length)
        (s.store.quotaGrants ++ [baselineGrant u s.store.tokens.length amount]) = amount := by
      rw [total_append, hzero]
      simp [grantedTo, baselineGrant]
    refine ⟨rfl, hown, ?_, ?_, ?_⟩
    · intro j t' hj huser
      rcases getElem?_append_singleton_some hj with hj | ⟨rfl, -⟩
      · exact absurd huser (userId_ne_of_hasToken hnone hj)
      · rfl
    · rw [htotal]
      exact hentitled
    · intro _
      rw [htotal]
      exact hlimit

/-! ## Grants -/

/-- A pass over one grant changes its status. The sum for its token is right if the provider had it
when the last grant became applied. -/
theorem KeyInv.updateGrant (h : KeyInv cfg s)
    {f : QiniuQuotaGrant → QiniuQuotaGrant} {status : QiniuQuotaGrantStatus}
    (hget : s.store.quotaGrants[id]? = some g) (hf : f g = { g with remoteApplyStatus := status })
    (hlimit : status = .applied → ∀ i t, s.store.ManagedToken i t → g.tokenId = some i →
      (∀ g' ∈ s.store.quotaGrants.eraseIdx id, g'.tokenId = some i →
        g'.remoteApplyStatus = .applied) →
      s.remoteLimit t.key = some (total (grantedTo i) s.store.quotaGrants)) :
    KeyInv cfg (s.updateGrant id noted f) := by
  cases noted with
  | false => exact h
  | true =>
    rw [KeyState.updateGrant, if_pos rfl, modify_of_getElem? hget, hf]
    have htotal : ∀ i, total (grantedTo i)
        (s.store.quotaGrants.modify id fun _ => { g with remoteApplyStatus := status }) =
        total (grantedTo i) s.store.quotaGrants := by
      intro i
      rw [total_modify hget]
      exact sub_add_cancel _ _
    refine ⟨h.owner, h.known, h.setKnown, h.waiting, ?_, ?_⟩
    · intro g' hg'
      rcases mem_modify hget hg' with rfl | hg'
      · have hinv := h.grant g (mem_of_getElem? hget)
        exact ⟨hinv.token, hinv.nonneg, hinv.transfer, hinv.baseline⟩
      · have hinv := h.grant g' hg'
        exact ⟨hinv.token, hinv.nonneg, hinv.transfer, hinv.baseline⟩
    intro i t ht
    have hm := h.managed i t ht
    refine ⟨hm.enabled, hm.owns, hm.only, ?_, ?_⟩
    · rw [htotal]
      exact hm.tracks
    intro happlied
    rw [htotal]
    have hothers : ∀ j g', j ≠ id → s.store.quotaGrants[j]? = some g' →
        g'.tokenId = some i → g'.remoteApplyStatus = .applied := by
      intro j g' hne hj
      exact happlied g' (mem_iff_getElem?.mpr ⟨j, (getElem?_modify_ne _ _ hne.symm).trans hj⟩)
    by_cases hi : g.tokenId = some i
    · have happlied' := happlied _ (mem_of_getElem? (getElem?_modify_self hget)) hi
      refine hlimit happlied' i t ht hi fun g' hg' => ?_
      obtain ⟨j, hne, hj⟩ := mem_eraseIdx_iff_getElem?.mp hg'
      exact hothers j g' hne hj
    refine hm.limit fun g' hg' hi' => ?_
    obtain ⟨j, hj⟩ := mem_iff_getElem?.mp hg'
    refine hothers j g' ?_ hj hi'
    rintro rfl
    rw [hget, Option.some.injEq] at hj
    exact hi (hj ▸ hi')

/-- When the other grants of its token are applied, a grant brings the limit to the sum of
all of them. -/
theorem qiniuQuotaGrantTargetLimit_eq {s : Store}
    (hget : s.quotaGrants[id]? = some g) (hi : g.tokenId = some i)
    (hnonneg : ∀ g' ∈ s.quotaGrants, 0 ≤ g'.grantAmount)
    (hothers : ∀ g' ∈ s.quotaGrants.eraseIdx id, g'.tokenId = some i →
      g'.remoteApplyStatus = .applied) :
    qiniuQuotaGrantTargetLimit i id g.grantAmount s = total (grantedTo i) s.quotaGrants := by
  have happlied : total (appliedTo i) (s.quotaGrants.eraseIdx id) =
      total (grantedTo i) (s.quotaGrants.eraseIdx id) := by
    refine congrArg List.sum (map_congr_left fun g' hg' => ?_)
    unfold appliedTo grantedTo
    by_cases hi' : g'.tokenId = some i
    · rw [if_pos ⟨hi', hothers g' hg' hi'⟩, if_pos hi']
    · rw [if_neg (fun h => hi' h.1), if_neg hi']
  have hsplit : total (grantedTo i) (s.quotaGrants.eraseIdx id) + g.grantAmount =
      total (grantedTo i) s.quotaGrants := by
    obtain ⟨hlt, rfl⟩ := List.getElem?_eq_some_iff.mp hget
    have hperm := (getElem_cons_eraseIdx_perm hlt).map (grantedTo i)
    rw [total, total, ← hperm.sum_eq, map_cons, sum_cons, grantedTo, if_pos hi, add_comm]
  have hsum : 0 ≤ total (grantedTo i) s.quotaGrants := by
    refine sum_nonneg fun x hx => ?_
    obtain ⟨g', hg', rfl⟩ := mem_map.mp hx
    unfold grantedTo
    split
    · exact hnonneg g' hg'
    · exact le_rfl
  unfold qiniuQuotaGrantTargetLimit
  rw [happlied, hsplit, if_neg (not_lt.mpr hsum)]

theorem KeyInv.applyGrant (h : KeyInv cfg s) (id : Nat) (call : LimitCall) (noted : Bool) :
    KeyInv cfg (applyQiniuQuotaGrant cfg id call noted s) := by
  unfold applyQiniuQuotaGrant
  cases hget : s.store.quotaGrants[id]? with
  | none => exact h
  | some g =>
    dsimp only
    by_cases hpending : g.remoteApplyStatus = .applied
    · rw [if_pos hpending]
      exact h
    have hmem : g ∈ s.store.quotaGrants := mem_of_getElem? hget
    obtain ⟨i, t, hi, ht, -⟩ := (h.grant g hmem).token
    have hm := h.managed i t ht
    have htoken : qiniuQuotaGrantToken g s.store = some (i, t) := by
      simp [qiniuQuotaGrantToken, hi, ht.1, ht.2, hm.enabled]
    rw [if_neg hpending, htoken]
    dsimp only
    -- the grant is still open, so the limit may be set whether or not the rest goes well
    have hset := h.setLimit hm.owns (fun j t' ht' hkey => by
      obtain rfl := h.key_inj ht ht' hkey
      exact ⟨g, hmem, hi, hpending⟩)
      (qiniuQuotaGrantTargetLimit i id g.grantAmount s.store) call
    by_cases hok : call = .ok
    · rw [if_pos hok]
      refine hset.updateGrant (by rw [setAPIKeyTotalQuota_store]; exact hget) (by rw [← hi]) ?_
      intro _ j t' ht' hj hothers
      subst hok
      rw [setAPIKeyTotalQuota_store] at ⊢
      obtain rfl : i = j := Option.mem_unique hi hj
      obtain rfl : t = t' := Option.mem_unique ht.1 ht'.1
      rw [setAPIKeyTotalQuota_remoteLimit,
        qiniuQuotaGrantTargetLimit_eq hget hi (fun g' hg' => (h.grant g' hg').nonneg) hothers]
    · rw [if_neg hok]
      refine hset.updateGrant (by rw [setAPIKeyTotalQuota_store]; exact hget) rfl ?_
      intro hfailed
      cases hfailed

theorem KeyInv.scanGrants (h : KeyInv cfg s) (limit : Nat) (due : Nat → Bool)
    (outcome : Nat → LimitCall × Bool) :
    KeyInv cfg (scanPendingQiniuQuotaGrants cfg limit due outcome s) := by
  unfold scanPendingQiniuQuotaGrants
  generalize pendingQuotaGrants limit due s.store.quotaGrants = ids
  induction ids generalizing s with
  | nil => exact h
  | cons id _ ih => exact ih (h.applyGrant id _ _)

/-! ## Attempts to create a key -/

theorem qiniuInitialQuotaLimit_eq (u : Nat) (s : Store) :
    qiniuInitialQuotaLimit cfg u s = qiniuBalance cfg u s := by
  exact if_neg (not_lt.mpr (quotaToWalletAmount_nonneg _))

/-- The limit of a waiting key is set to what the key is entitled to, at the first attempt
and at every later one. -/
theorem KeyInv.entitled_setLimit (h : KeyInv cfg s)
    (hown : s.Owns key u) (hnone : s.store.hasToken u = false) (limit : ℚ) :
    entitledLimit u key (setAPIKeyTotalQuota cfg u key limit .ok s).history =
      some (qiniuBalance cfg u s.store) := by
  rw [setAPIKeyTotalQuota, if_pos (by rfl)]
  cases hbefore : entitledLimit u key s.history with
  | some e =>
    rw [entitledLimit_limitSet_of_some hbefore, h.waiting key u e hown hnone hbefore]
  | none => rw [entitledLimit_limitSet_of_none hbefore, if_pos rfl]

theorem KeyInv.initializeKey (h : KeyInv cfg s) (hown : s.Owns key u)
    (hnone : s.store.hasToken u = false) (taskId : Nat) (call : LimitCall)
    (tokenWritten noted : Bool) :
    KeyInv cfg (initializeKey cfg taskId u key call tokenWritten noted s) := by
  have hset := h.setLimit hown (fun i t ht hkey => by
      have howns := (h.managed i t ht).owns
      rw [hkey] at howns
      exact absurd (h.owner key t.userId u howns hown) (userId_ne_of_hasToken hnone ht.1))
    (qiniuInitialQuotaLimit cfg u s.store) call
  unfold ApiGateway.initializeKey
  by_cases hok : call = .ok ∧ tokenWritten = true
  · rw [if_pos hok]
    obtain ⟨rfl, -⟩ := hok
    refine KeyInv.markTask (hset.createToken ?_ ?_ ?_ ?_ ?_) _ _ _
    · exact hown
    · exact hnone
    · rw [qiniuInitialQuotaLimit_eq]
      exact quotaToWalletAmount_nonneg _
    · exact setAPIKeyTotalQuota_remoteLimit
    · rw [h.entitled_setLimit hown hnone, qiniuInitialQuotaLimit_eq]
  · rw [if_neg hok]
    exact hset.markTask _ _ _

theorem KeyInv.executeTask (h : KeyInv cfg s) {taskId : Nat}
    (hget : ∃ status, s.tasks[taskId]? = some { task with status }) {outcome : CreateKeyOutcome}
    (noted : Bool) :
    KeyInv cfg (executeQiniuCreateKeyTask cfg taskId task newKey outcome noted s) := by
  obtain ⟨status, hget⟩ := hget
  unfold executeQiniuCreateKeyTask
  by_cases htoken : s.store.hasToken task.userId = true
  · rw [if_pos htoken]
    exact h.markTask _ _ _
  rw [if_neg htoken]
  rw [Bool.not_eq_true] at htoken
  cases outcome with
  | noKey => exact h.markTask _ _ _
  | keyLost =>
    dsimp only
    split
    · exact h.markTask _ _ _
    · have hmade : KeyInv cfg { s with remoteKeys := newKey :: s.remoteKeys } :=
        h.withTasks "" 0 (fun _ hkey => mem_cons_of_mem _ hkey) (fun _ _ hu => hu)
          fun _ _ hu => .inl hu
      exact hmade.markTask _ _ _
  | key =>
    dsimp only
    by_cases hkey : task.qiniuKey ≠ ""
    · rw [if_pos hkey]
      exact h.initializeKey ⟨hkey, _, mem_of_getElem? hget, rfl, rfl⟩ htoken _ _ _ _
    rw [if_neg hkey]
    rw [not_not] at hkey
    by_cases hrefused : newKey = "" ∨ newKey ∈ s.remoteKeys
    · rw [if_pos hrefused]
      exact h.markTask _ _ _
    rw [if_neg hrefused]
    rw [not_or] at hrefused
    refine (h.noteKey hget hkey hrefused.2).initializeKey ?_ htoken _ _ _ _
    exact ⟨hrefused.1, _, mem_of_getElem? (getElem?_modify_self hget), rfl, rfl⟩

end ApiGateway
