import ApiGateway.Service.ChannelAffinity

/-!
# When affinity keys tell requests apart

A key is its head, each part with its colon, and then the value, which may be anything. So two keys
can meet as soon as one head begins the other, and so can a key and the beginning of the keys that
clearing a rule deletes.
-/

namespace ApiGateway

open List Decimal

variable {rule : ChannelAffinityRule} {m g v name key : List Char}

/-- Neither text begins the other. -/
abbrev Apart (a b : List Char) : Prop := ¬ a <+: b ∧ ¬ b <+: a

/-- What stands before the value. -/
def affinityHead (rule : ChannelAffinityRule) (modelName usingGroup : List Char) : List Char :=
  (affinityParts rule modelName usingGroup).flatMap (· ++ [':'])

theorem keySuffix_eq :
    buildChannelAffinityCacheKeySuffix rule m g v = affinityHead rule m g ++ v := by
  unfold buildChannelAffinityCacheKeySuffix affinityHead
  induction affinityParts rule m g with
  | nil => simp
  | cons part parts ih =>
    rw [cons_append, intercalate_cons_of_ne_nil (by simp), ih, flatMap_cons, append_assoc _ _ v]

/-- The head of a full key ends with a colon, if only that of the namespace. -/
theorem affinityHead_closed (rule : ChannelAffinityRule) (m g : List Char) :
    ∃ z, channelAffinityPrefix ++ affinityHead rule m g = z ++ [':'] := by
  unfold affinityHead
  rcases eq_nil_or_concat (affinityParts rule m g) with hnil | ⟨parts, part, hparts⟩
  · rw [hnil]
    exact ⟨channelAffinityPrefix.dropLast, rfl⟩
  · refine ⟨channelAffinityPrefix ++ (parts.flatMap (· ++ [':']) ++ part), ?_⟩
    simp [hparts]

/-! ## Full keys -/

/-- Nothing is trimmed off a text that ends with a colon. -/
theorem rdropWhile_closed {t : List Char} (h : ∃ z, t = z ++ [':']) (v : List Char) :
    (t ++ v).rdropWhile isSpace = t ++ v.rdropWhile isSpace := by
  obtain ⟨z, rfl⟩ := h
  unfold rdropWhile
  rw [reverse_append, dropWhile_append]
  split
  · rename_i hnil
    rw [isEmpty_iff.mp hnil, reverse_nil, append_nil, ← rdropWhile,
      rdropWhile_concat_neg _ _ _ (by decide)]
  · rw [reverse_append, reverse_reverse]

theorem namespace_closed : ∃ z, channelAffinityPrefix = z ++ [':'] :=
  ⟨channelAffinityPrefix.dropLast, rfl⟩

theorem affinityFullKey_eq (h : channelAffinityPrefix <+: key) :
    affinityFullKey key = key.rdropWhile isSpace := by
  obtain ⟨t, rfl⟩ := h
  -- nothing is trimmed off the front
  have hfront : trimChars (channelAffinityPrefix ++ t) =
      (channelAffinityPrefix ++ t).rdropWhile isSpace := rfl
  simp only [affinityFullKey, hfront, rdropWhile_closed namespace_closed]
  rw [if_neg (append_ne_nil_of_left_ne_nil (by decide) _),
    if_pos ( isPrefixOf_iff_prefix.mpr (prefix_append _ _))]

theorem namespace_affinityFullKey (h : trimChars key ≠ []) :
    channelAffinityPrefix <+: affinityFullKey key := by
  unfold affinityFullKey
  dsimp only
  rw [if_neg h]
  split
  · rename_i hpre
    exact isPrefixOf_iff_prefix.mp hpre
  · exact prefix_append _ _

/-- The keys of a rule for a model and a group: what begins with their head and has no white space
at the end. -/
def IsKey (rule : ChannelAffinityRule) (modelName usingGroup t : List Char) : Prop :=
  channelAffinityPrefix ++ affinityHead rule modelName usingGroup <+: t ∧ t.rdropWhile isSpace = t

theorem key_eq {c : Nat} : AffinityEntry.key ⟨rule, m, g, v, c⟩ =
    channelAffinityPrefix ++ affinityHead rule m g ++ v.rdropWhile isSpace := by
  unfold AffinityEntry.key
  rw [keySuffix_eq, affinityFullKey_eq (prefix_append _ _), ← append_assoc,
    rdropWhile_closed (affinityHead_closed rule m g)]

theorem isKey_iff {t : List Char} :
    IsKey rule m g t ↔ ∃ v, AffinityEntry.key ⟨rule, m, g, v, 0⟩ = t := by
  simp only [key_eq]
  constructor
  · rintro ⟨⟨v, rfl⟩, htrim⟩
    rw [rdropWhile_closed (affinityHead_closed rule m g)] at htrim
    exact ⟨v, htrim⟩
  · rintro ⟨v, rfl⟩
    refine ⟨prefix_append _ _, ?_⟩
    rw [rdropWhile_closed (affinityHead_closed rule m g), rdropWhile_idempotent]

/-! ## Clearing -/

theorem deletedPrefix_closed (key : List Char) : ∃ z, deletedPrefix key = z ++ [':'] := by
  unfold deletedPrefix
  dsimp only
  split
  · rename_i hlast
    exact ⟨_, (dropLast_append_getLast? ':' hlast).symm⟩
  · exact ⟨_, rfl⟩

/-- Some key begins as those that are deleted exactly if one head begins the other. -/
theorem begins_key_iff {pre : List Char} (hclosed : ∃ z, pre = z ++ [':']) :
    (∀ t, IsKey rule m g t → ¬ pre <+: t) ↔
      Apart pre (channelAffinityPrefix ++ affinityHead rule m g) := by
  have hkey : ∀ t, (∃ z, t = z ++ [':']) → t.rdropWhile isSpace = t := by
    rintro _ ⟨z, rfl⟩
    exact rdropWhile_concat_neg _ _ _ (by decide)
  constructor
  · -- texts that end with a colon are not trimmed
    intro h
    refine ⟨fun hpre => ?_, fun hhead => h pre ⟨hhead, hkey pre hclosed⟩ prefix_rfl⟩
    exact h _ ⟨prefix_rfl, hkey _ (affinityHead_closed rule m g)⟩ hpre
  · rintro ⟨hl, hr⟩ t ⟨hhead, -⟩ hpre
    rcases prefix_or_prefix_of_prefix hpre hhead with h | h
    · exact hl h
    · exact hr h

variable {redisOn : Bool} {rules : List ChannelAffinityRule} {out : List AffinityEntry}

theorem clear_ok (h : clearChannelAffinityCacheByRuleName redisOn rules name [] = .ok out) :
    trimChars name ≠ [] ∧ ∀ cache, clearChannelAffinityCacheByRuleName redisOn rules name cache =
      .ok (deleteByPrefix redisOn (trimChars name) cache) := by
  unfold clearChannelAffinityCacheByRuleName at h
  dsimp only at h
  split at h
  · cases h
  rename_i hname
  split at h
  · cases h
  rename_i matched hfind
  split at h
  swap
  · cases h
  rename_i hincluded
  refine ⟨hname, fun cache => ?_⟩
  simp [clearChannelAffinityCacheByRuleName, hname, hfind, hincluded]

/-- Clearing spares the entries of a rule for a model and a group. -/
def Spares (redisOn : Bool) (rules : List ChannelAffinityRule) (name : List Char)
    (rule : ChannelAffinityRule) (modelName usingGroup : List Char) : Prop :=
  ∀ v channelID cache cache',
    clearChannelAffinityCacheByRuleName redisOn rules name cache = .ok cache' →
    ⟨rule, modelName, usingGroup, v, channelID⟩ ∈ cache →
    ⟨rule, modelName, usingGroup, v, channelID⟩ ∈ cache'

theorem spares_iff (h : clearChannelAffinityCacheByRuleName redisOn rules name [] = .ok out) :
    Spares redisOn rules name rule m g ↔
      ∀ t, IsKey rule m g t → deletesKey redisOn (trimChars name) t = false := by
  obtain ⟨hname, hclear⟩ := clear_ok h
  have hfull := namespace_affinityFullKey ((trimChars_trimChars name).symm ▸ hname)
  have hne : affinityFullKey (trimChars name) ≠ [] := fun hnil =>
    absurd (prefix_nil.mp (hnil ▸ hfull)) (by decide)
  constructor
  · intro hspares t ht
    obtain ⟨v, rfl⟩ := isKey_iff.mp ht
    have hmem := hspares v 0 [_] _ (hclear _) mem_cons_self
    rw [deleteByPrefix, if_neg hne] at hmem
    simpa using (mem_filter.mp hmem).2
  · intro hno v channelID cache cache' hx he
    rw [hclear] at hx
    cases hx
    rw [deleteByPrefix, if_neg hne]
    have hkey := hno _ (isKey_iff.mpr ⟨v, rfl⟩)
    rw [key_eq] at hkey
    exact mem_filter.mpr ⟨he, by rw [key_eq, hkey]; rfl⟩

/-- **Affinity keys and their colons.** For two pairs of a model and a group, no values give the
same key exactly if neither head begins the other. Clearing a rule in memory spares the entries of
another one exactly if neither their head nor the cleared beginning of keys begins the other;
clearing it on a server, exactly if the cleared beginning, with a star behind it and read as a
pattern, fits no key of theirs. -/
theorem affinity_keys_apart (rule : ChannelAffinityRule) :
    (∀ m g m' g', (∀ v v', buildChannelAffinityCacheKeySuffix rule m g v =
        buildChannelAffinityCacheKeySuffix rule m' g' v' → m = m' ∧ g = g' ∧ v = v') ↔
      m = m' ∧ g = g' ∨ Apart (affinityHead rule m g) (affinityHead rule m' g')) ∧
    ∀ redisOn rules name out, clearChannelAffinityCacheByRuleName redisOn rules name [] = .ok out →
      ∀ m g, Spares redisOn rules name rule m g ↔
        if redisOn then ∀ t, IsKey rule m g t →
          ¬ Glob.fits (Glob.parse (utf8 (deletedPrefix (trimChars name)) ++ utf8 ['*'])) (utf8 t)
        else Apart (deletedPrefix (trimChars name))
          (channelAffinityPrefix ++ affinityHead rule m g) := by
  refine ⟨fun m g m' g' => ⟨fun hinj => or_iff_not_imp_left.mpr fun hne => ⟨?_, ?_⟩, ?_⟩, ?_⟩
  · rintro ⟨t, ht⟩
    obtain ⟨hm, hg, -⟩ := hinj t [] (by rw [keySuffix_eq, keySuffix_eq, ht, append_nil])
    exact hne ⟨hm, hg⟩
  · rintro ⟨t, ht⟩
    obtain ⟨hm, hg, -⟩ := hinj [] t (by rw [keySuffix_eq, keySuffix_eq, ht, append_nil])
    exact hne ⟨hm, hg⟩
  · rintro (⟨rfl, rfl⟩ | ⟨hl, hr⟩) v v' heq
    · rw [keySuffix_eq, keySuffix_eq] at heq
      exact ⟨rfl, rfl, append_cancel_left heq⟩
    · rw [keySuffix_eq, keySuffix_eq] at heq
      rcases prefix_or_prefix_of_prefix (prefix_append _ v) ⟨v', heq.symm⟩ with h | h
      · exact absurd h hl
      · exact absurd h hr
  · intro redisOn rules name out h m g
    rw [spares_iff h]
    cases redisOn with
    | true => simp [deletesKey]
    | false =>
      rw [if_neg (by decide), ← begins_key_iff (deletedPrefix_closed (trimChars name))]
      refine forall₂_congr fun t _ => ?_
      rw [deletesKey, if_neg (by decide), ← isPrefixOf_iff_prefix, Bool.not_eq_true]

def codexRule : ChannelAffinityRule := { name := "codex".toList }

def claudeRule : ChannelAffinityRule := { name := "claude".toList }

/-- Two models are told apart whatever the values, and clearing `claude` spares both. -/
theorem affinity_keys_apart_codex :
    (∀ v v', buildChannelAffinityCacheKeySuffix codexRule "gpt".toList "vip".toList v ≠
      buildChannelAffinityCacheKeySuffix codexRule "o1".toList "vip".toList v') ∧
    ∀ redisOn, Spares redisOn [claudeRule] "claude".toList codexRule "gpt".toList "vip".toList := by
  obtain ⟨hkeys, hspares⟩ := affinity_keys_apart codexRule
  refine ⟨fun v v' h => ?_, fun redisOn => (hspares redisOn _ _ [] rfl _ _).mpr ?_⟩
  · exact absurd ((hkeys _ _ _ _).mpr (.inr (by decide +kernel)) v v' h).1 (by decide +kernel)
  cases redisOn with
  | false =>
    rw [if_neg (by decide)]
    decide +kernel
  | true =>
    rintro t ⟨⟨v, rfl⟩, -⟩ hfits
    have hpre := (Glob.fits_plain (by unfold Glob.Plain; decide +kernel) _).mp hfits
    unfold utf8 at hpre
    rw [flatMap_append] at hpre
    rcases prefix_or_prefix_of_prefix hpre (prefix_append _ _) with h | h
    · exact absurd h (by decide +kernel)
    · exact absurd h (by decide +kernel)

/-- A colon moves from the model to the group and nobody sees it. Clearing `codex` takes an entry of
the rule `codex:cli`, and on a server clearing `c*` takes one of `codex`. -/
theorem affinity_keys_collide :
    buildChannelAffinityCacheKeySuffix codexRule "a:b".toList "c".toList "1".toList =
        buildChannelAffinityCacheKeySuffix codexRule "a".toList "b:c".toList "1".toList ∧
      clearChannelAffinityCacheByRuleName false [codexRule] "codex".toList (recordChannelAffinity
        ⟨{ name := "codex:cli".toList }, [], [], "1".toList, 7⟩ []) = .ok [] ∧
      clearChannelAffinityCacheByRuleName true [{ name := "c*".toList }] "c*".toList
        (recordChannelAffinity ⟨codexRule, [], [], "1".toList, 7⟩ []) = .ok [] :=
  ⟨by decide +kernel, rfl, rfl⟩

end ApiGateway
