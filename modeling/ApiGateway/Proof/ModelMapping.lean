import ApiGateway.Lib.Chain
import ApiGateway.Lib.Runs
import ApiGateway.Relay.ModelMapping
import Mathlib.Data.List.Nodup
import Mathlib.Data.List.Perm.Subperm

/-!
# The upstream model is the end of the client's chain

The mapping of a channel is a relation with one successor: a model leads to its target unless that
is empty or the model itself. An attempt follows it from the model it finds in the relay info. For
the compact endpoint the helper leaves the mapped model there, and the Gemini handler the name it
bills a request without thinking by.
-/

namespace ApiGateway

open Relation Chain Runs List Option MappingInfo

variable {modelMap : List (String × String)} {originModelName : String}
variable {current start : String} {mapped : Bool} {info : MappingInfo} {mapping : ModelMapping}
  {env : MappingEnv}
variable {visited : List String} {exit : LoopExit}

/-- One redirect of a mapping. A model mapped to itself is the end of its chain. -/
def Redirects (modelMap : List (String × String)) (model target : String) : Prop :=
  modelMap.lookup model = some target ∧ target ≠ "" ∧ target ≠ model

theorem redirects_rightUnique : Relator.RightUnique (Redirects modelMap) := by
  intro a b c hb hc
  exact mem_unique hb.1 hc.1

/-- The redirects of a channel. A mapping that is absent has none. -/
def ModelMapping.Redirects : ModelMapping → String → String → Prop
  | .entries modelMap => ApiGateway.Redirects modelMap
  | .unset | .malformed => fun _ _ => False

/-! ## The loop -/

/-- The loop over the mapping, iteration by iteration. -/
inductive MappingWalk (modelMap : List (String × String)) (originModelName : String) :
    List String → String → Bool → LoopExit → Prop
  | absent {visited : List String} {current : String} {mapped : Bool} :
      modelMap.lookup current = none →
      MappingWalk modelMap originModelName visited current mapped (.stop current mapped)
  | blank {visited : List String} {current : String} {mapped : Bool} :
      modelMap.lookup current = some "" →
      MappingWalk modelMap originModelName visited current mapped (.stop current mapped)
  | ownModel {visited : List String} {current : String} {mapped : Bool} :
      modelMap.lookup current = some current → current ≠ "" → current ∈ visited →
      current = originModelName →
      MappingWalk modelMap originModelName visited current mapped .ownModel
  | selfMapped {visited : List String} {current : String} {mapped : Bool} :
      modelMap.lookup current = some current → current ≠ "" → current ∈ visited →
      current ≠ originModelName →
      MappingWalk modelMap originModelName visited current mapped (.stop current true)
  | cycle {visited : List String} {current target : String} {mapped : Bool} :
      modelMap.lookup current = some target → target ≠ "" → target ∈ visited →
      target ≠ current →
      MappingWalk modelMap originModelName visited current mapped (.cycle mapped)
  | redirect {visited : List String} {current target : String} {mapped : Bool}
      {exit : LoopExit} :
      modelMap.lookup current = some target → target ≠ "" → target ∉ visited →
      MappingWalk modelMap originModelName (target :: visited) target true exit →
      MappingWalk modelMap originModelName visited current mapped exit

/-- **The loop ends**: the models before the current one have entries of their own and are met once.
-/
theorem mappingLoop_walk {fuel : Nat} {before : List String}
    (hnodup : (current :: before).Nodup) (hkeys : before ⊆ modelMap.map (·.1))
    (hfuel : modelMap.length < fuel + before.length) :
    MappingWalk modelMap originModelName (current :: before) current mapped
      (mappingLoop modelMap originModelName fuel (current :: before) current mapped) := by
  induction fuel generalizing before current mapped with
  | zero =>
    have hle := (subperm_of_subset (nodup_cons.mp hnodup).2 hkeys).length_le
    rw [length_map] at hle
    omega
  | succ _ ih =>
    unfold mappingLoop
    cases hlookup : modelMap.lookup current with
    | none => exact .absent hlookup
    | some target =>
      dsimp only
      by_cases hblank : target = ""
      · rw [if_pos hblank]
        exact .blank (hblank ▸ hlookup)
      rw [if_neg hblank]
      by_cases hvisited : target ∈ current :: before
      · rw [if_pos hvisited]
        by_cases hself : target = current
        · subst hself
          rw [if_pos rfl]
          by_cases hown : target = originModelName
          · rw [if_pos hown]
            exact .ownModel hlookup hblank hvisited hown
          · rw [if_neg hown]
            exact .selfMapped hlookup hblank hvisited hown
        · rw [if_neg hself]
          exact .cycle hlookup hblank hvisited hself
      · rw [if_neg hvisited]
        refine .redirect hlookup hblank hvisited (ih ?_ ?_ ?_)
        · exact nodup_cons.mpr ⟨hvisited, hnodup⟩
        · have hkey : current ∈ modelMap.map (·.1) := by
            obtain ⟨-, -, rfl, -⟩ := lookup_eq_some_iff.mp hlookup
            simp
          exact cons_subset.mpr ⟨hkey, hkeys⟩
        · rw [length_cons]
          omega

theorem MappingWalk.deterministic
    {exit' : LoopExit} (h : MappingWalk modelMap originModelName visited current mapped exit)
    (h' : MappingWalk modelMap originModelName visited current mapped exit') : exit = exit' := by
  induction h generalizing exit' with
  | absent hnone =>
    cases h' with
    | absent => rfl
    | blank h | ownModel h | selfMapped h | cycle h | redirect h =>
      exact nomatch (hnone.symm.trans h)
  | blank | ownModel | selfMapped | cycle =>
    cases h' <;> simp_all
  | redirect htarget hne hnew _ ih =>
    cases h' with
    | redirect htarget' _ _ hrest =>
      obtain rfl := mem_unique htarget htarget'
      exact ih hrest
    | absent hnone => exact nomatch (htarget.symm.trans hnone)
    | blank hblank => exact absurd (mem_unique htarget hblank) hne
    | ownModel hself _ hmem | selfMapped hself _ hmem =>
      exact absurd (mem_unique hself htarget ▸ hmem) hnew
    | cycle htarget' _ hmem =>
      exact absurd (mem_unique htarget' htarget ▸ hmem) hnew

/-- What the exit of the loop says about the chain of the model it started from. -/
def LoopExit.Describes (modelMap : List (String × String)) (originModelName start : String) :
    LoopExit → Prop
  | .cycle _ => EntersCycle (Redirects modelMap) start
  | .ownModel => EndsAt (Redirects modelMap) start originModelName
  | .stop current mapped => EndsAt (Redirects modelMap) start current ∧
      (mapped = true → current ≠ "") ∧ (mapped = false → current = start)

/-- **The loop is exact.** Every model it has visited leads to the current one, so a visited
target closes a cycle. -/
theorem MappingWalk.describes (h : MappingWalk modelMap originModelName visited current mapped exit)
    (hreach : ReflTransGen (Redirects modelMap) start current) (hcurrent : current ∈ visited)
    (hvisited : ∀ v ∈ visited, ReflTransGen (Redirects modelMap) start v ∧
      ReflTransGen (Redirects modelMap) v current)
    (hmapped : mapped = true → current ≠ "") (hunmapped : mapped = false → current = start) :
    exit.Describes modelMap originModelName start := by
  induction h with
  | absent hnone =>
    refine ⟨⟨hreach, fun b hb => ?_⟩, hmapped, hunmapped⟩
    exact nomatch (hnone.symm.trans hb.1)
  | blank hblank =>
    refine ⟨⟨hreach, fun b hb => ?_⟩, hmapped, hunmapped⟩
    exact hb.2.1 (mem_unique hb.1 hblank)
  | ownModel hself _ _ hown =>
    subst hown
    refine ⟨hreach, fun b hb => ?_⟩
    exact hb.2.2 (mem_unique hb.1 hself)
  | selfMapped hself hne =>
    refine ⟨⟨hreach, fun b hb => ?_⟩, fun _ => hne, fun hfalse => nomatch hfalse⟩
    exact hb.2.2 (mem_unique hb.1 hself)
  | cycle htarget hne hmem hother =>
    obtain ⟨hstart, hback⟩ := hvisited _ hmem
    exact ⟨_, hstart, TransGen.tail' hback ⟨htarget, hne, hother⟩⟩
  | redirect htarget hne hnew _ ih =>
    have hstep : Redirects modelMap _ _ := ⟨htarget, hne, fun hself => hnew (hself ▸ hcurrent)⟩
    refine ih (hreach.tail hstep) mem_cons_self ?_ (fun _ => hne)
      (fun hfalse => nomatch hfalse)
    intro v hv
    rcases mem_cons.mp hv with rfl | hv
    · exact ⟨hreach.tail hstep, .refl⟩
    · exact ⟨(hvisited v hv).1, (hvisited v hv).2.tail hstep⟩

theorem mappingLoop_describes :
    (mappingLoop modelMap originModelName (modelMap.length + 1) [start] start false).Describes
      modelMap originModelName start := by
  have hwalk : MappingWalk modelMap originModelName [start] start false
      (mappingLoop modelMap originModelName (modelMap.length + 1) [start] start false) :=
    mappingLoop_walk (nodup_singleton start) (nil_subset _) (by simp)
  refine hwalk.describes .refl mem_cons_self ?_ (fun htrue => nomatch htrue) (fun _ => rfl)
  intro v hv
  rw [mem_singleton] at hv
  subst hv
  exact ⟨.refl, .refl⟩

/-! ## One attempt -/

theorem finishMapping_upstream {e : String} (hmapped : info.channelMeta.isModelMapped = true →
      e ≠ "" ∧ info.channelMeta.upstreamModelName = e)
    (hunmapped : info.channelMeta.isModelMapped = false →
      e = start ∧ (info.isResponsesCompact = false → info.channelMeta.upstreamModelName = start)) :
    (info.finishMapping start).channelMeta.upstreamModelName = e := by
  unfold finishMapping
  cases hflag : info.channelMeta.isModelMapped with
  | true =>
    obtain ⟨hne, hup⟩ := hmapped hflag
    split
    · simp [hup, hne]
    · exact hup
  | false =>
    obtain ⟨rfl, hup⟩ := hunmapped hflag
    split
    · simp
    · rename_i hplain
      exact hup (by simpa using hplain)

/-- What one attempt of the helper comes to, for the model it finds in the info. -/
structure MappedRight (mapping : ModelMapping) (start : String)
    (result : Except MappingErr String) : Prop where
  cycle : result = .error .modelMappingContainsCycle ↔ EntersCycle mapping.Redirects start
  upstream : ∀ model, result = .ok model → EndsAt mapping.Redirects start model
  unmarshal : result = .error .unmarshalModelMappingFailed ↔ mapping = .malformed

theorem ModelMapping.redirects_rightUnique (mapping : ModelMapping) :
    Relator.RightUnique mapping.Redirects := by
  cases mapping with
  | entries => exact ApiGateway.redirects_rightUnique
  | unset | malformed => exact fun _ _ _ h => h.elim

theorem mappedRight_of_end {model : String}
    (h : EndsAt mapping.Redirects start model) (hm : mapping ≠ .malformed) :
    MappedRight mapping start (.ok model) where
  cycle := iff_of_false (by simp) (h.not_entersCycle mapping.redirects_rightUnique)
  upstream := by
    intro model' heq
    obtain rfl := Except.ok.inj heq
    exact h
  unmarshal := iff_of_false (by simp) hm

theorem not_entersCycle_of_none : ¬ EntersCycle (fun _ _ : String => False) start := by
  rintro ⟨b, -, hcycle⟩
  obtain ⟨c, hbc, -⟩ := TransGen.head'_iff.mp hcycle
  exact hbc

theorem modelMappedHelper_right :
    MappedRight mapping info.mappingModelName
      ((modelMappedHelper mapping info.initChannelMeta).1.map fun _ =>
        (modelMappedHelper mapping info.initChannelMeta).2.channelMeta.upstreamModelName) := by
  have hplain : info.initChannelMeta.isResponsesCompact = false →
      info.originModelName = info.mappingModelName := by
    intro h
    have h' : info.isResponsesCompact = false := h
    simp [mappingModelName, h']
  have hstart : info.initChannelMeta.mappingModelName = info.mappingModelName := rfl
  cases mapping with
  | unset =>
    have hup : (info.initChannelMeta.finishMapping
        info.mappingModelName).channelMeta.upstreamModelName = info.mappingModelName :=
      finishMapping_upstream (fun h => nomatch h)
        (fun _ => ⟨rfl, hplain⟩)
    simp only [modelMappedHelper, hstart, hup]
    exact mappedRight_of_end ⟨.refl, fun _ h => h⟩ (by simp)
  | malformed =>
    simp only [modelMappedHelper, Except.map]
    exact ⟨iff_of_false (by simp) not_entersCycle_of_none, fun _ h => absurd h (by simp),
      iff_of_true rfl rfl⟩
  | entries modelMap =>
    have hexit : (mappingLoop modelMap info.originModelName (modelMap.length + 1)
        [info.mappingModelName] info.mappingModelName false).Describes modelMap
        info.originModelName info.mappingModelName :=
      mappingLoop_describes
    have hfalse : info.initChannelMeta.channelMeta.isModelMapped = false := rfl
    have horigin : info.initChannelMeta.originModelName = info.originModelName := rfl
    simp only [modelMappedHelper, hstart, hfalse, horigin]
    generalize mappingLoop modelMap info.originModelName (modelMap.length + 1)
      [info.mappingModelName] info.mappingModelName false = exit at hexit
    cases exit with
    | cycle =>
      refine ⟨iff_of_true rfl hexit, fun _ h => absurd h (by simp [Except.map]), ?_⟩
      exact iff_of_false (by simp [Except.map]) (by simp)
    | ownModel => exact mappedRight_of_end hexit (by simp)
    | stop current mapped =>
      obtain ⟨hend, hne, hstart⟩ := hexit
      have hup : ((info.initChannelMeta.stopAt current mapped).finishMapping
          info.mappingModelName).channelMeta.upstreamModelName = current := by
        refine finishMapping_upstream (fun h => ?_) (fun h => ?_)
        · have h' : mapped = true := h
          exact ⟨hne h', by simp [stopAt, h']⟩
        have h' : mapped = false := h
        refine ⟨hstart h', fun hc => ?_⟩
        simp only [h']
        exact hplain hc
      simp only [hup]
      exact mappedRight_of_end hend (by simp)

theorem MappedRight.unique
    {result result' : Except MappingErr String} (h : MappedRight mapping start result)
    (h' : MappedRight mapping start result') : result = result' := by
  cases result with
  | error e =>
    cases e with
    | unmarshalModelMappingFailed => exact (h'.unmarshal.mpr (h.unmarshal.mp rfl)).symm
    | modelMappingContainsCycle => exact (h'.cycle.mpr (h.cycle.mp rfl)).symm
  | ok model =>
    cases result' with
    | error e =>
      cases e with
      | unmarshalModelMappingFailed => exact h.unmarshal.mpr (h'.unmarshal.mp rfl)
      | modelMappingContainsCycle => exact h.cycle.mpr (h'.cycle.mp rfl)
    | ok model' =>
      rw [(h.upstream model rfl).unique mapping.redirects_rightUnique (h'.upstream model' rfl)]

/-! ## What an attempt leaves behind -/

theorem modelMappedHelper_origin (mapping : ModelMapping) (info : MappingInfo) :
    (modelMappedHelper mapping info).2.relayMode = info.relayMode ∧
    ((modelMappedHelper mapping info).2.originModelName = info.originModelName ∨
      info.isResponsesCompact = true ∧ (modelMappedHelper mapping info).1 = .ok () ∧
        (modelMappedHelper mapping info).2.originModelName = withCompactModelSuffix
          (modelMappedHelper mapping info).2.channelMeta.upstreamModelName) := by
  have hfinish : ∀ (i : MappingInfo) start, i.relayMode = info.relayMode →
      i.originModelName = info.originModelName →
      (i.finishMapping start).relayMode = info.relayMode ∧
      ((i.finishMapping start).originModelName = info.originModelName ∨
        info.isResponsesCompact = true ∧ (i.finishMapping start).originModelName =
          withCompactModelSuffix (i.finishMapping start).channelMeta.upstreamModelName) := by
    intro i start hmode horigin
    unfold finishMapping
    split
    · rename_i hcompact
      refine ⟨hmode, .inr ⟨?_, rfl⟩⟩
      simpa [isResponsesCompact, hmode] using hcompact
    · exact ⟨hmode, .inl horigin⟩
  unfold modelMappedHelper
  cases mapping with
  | unset =>
    obtain ⟨hmode, horigin⟩ := hfinish info info.mappingModelName rfl rfl
    exact ⟨hmode, horigin.imp_right fun h => ⟨h.1, rfl, h.2⟩⟩
  | malformed => exact ⟨rfl, .inl rfl⟩
  | entries =>
    dsimp only
    split
    · exact ⟨rfl, .inl rfl⟩
    · exact ⟨rfl, .inl rfl⟩
    rename_i current mapped _
    obtain ⟨hmode, horigin⟩ := hfinish (info.stopAt current mapped) info.mappingModelName rfl rfl
    exact ⟨hmode, horigin.imp_right fun h => ⟨h.1, rfl, h.2⟩⟩

/-- The Gemini handler does not rename the request of this attempt. -/
def NotRenamed (env : MappingEnv) (mapping : ModelMapping) (info : MappingInfo) : Prop :=
  env.renames (modelMappedHelper mapping info.initChannelMeta).2 = false

theorem mappingAttempt_eq (h : NotRenamed env mapping info) :
    mappingAttempt env mapping info =
      ((modelMappedHelper mapping info.initChannelMeta).1.map fun _ =>
        (modelMappedHelper mapping info.initChannelMeta).2.channelMeta.upstreamModelName,
       (modelMappedHelper mapping info.initChannelMeta).2) := by
  unfold NotRenamed at h
  unfold mappingAttempt
  generalize modelMappedHelper mapping info.initChannelMeta = r at h
  obtain ⟨result, info'⟩ := r
  cases result with
  | error => rfl
  | ok => simp [MappingEnv.renameNoThinking, h, Except.map]

/-- The attempt leaves the client's model in the info: it is not renamed, and for the compact
endpoint not mapped to another one. -/
def KeepsModel (env : MappingEnv) (mapping : ModelMapping) (info : MappingInfo) : Prop :=
  NotRenamed env mapping info ∧
  (info.isResponsesCompact = true → ∀ model, (mappingAttempt env mapping info).1 = .ok model →
    trimSuffix model compactModelSuffix = info.mappingModelName)

theorem KeepsModel.mappingModelName (h : KeepsModel env mapping info) :
    (mappingAttempt env mapping info).2.mappingModelName = info.mappingModelName := by
  obtain ⟨hname, hsame⟩ := h
  rw [mappingAttempt_eq hname] at hsame ⊢
  obtain ⟨hmode, horigin⟩ := modelMappedHelper_origin mapping info.initChannelMeta
  generalize modelMappedHelper mapping info.initChannelMeta = r at hsame hmode horigin
  obtain ⟨result, info'⟩ := r
  have hmode' : info'.relayMode = info.relayMode := hmode
  rcases horigin with horigin | ⟨hcompact, hok, horigin⟩
  · have horigin' : info'.originModelName = info.originModelName := horigin
    simp [MappingInfo.mappingModelName, isResponsesCompact, hmode', horigin']
  have hcompact' : info.isResponsesCompact = true := hcompact
  have hcompact'' : info'.isResponsesCompact = true := by
    simpa [isResponsesCompact, hmode'] using hcompact'
  have htrim := hsame hcompact' info'.channelMeta.upstreamModelName (by rw [hok]; rfl)
  rw [← htrim, MappingInfo.mappingModelName, if_pos hcompact'', horigin, withCompactModelSuffix]
  split
  · rfl
  · rename_i hno
    have hcut : ∀ m, trimSuffix (m ++ compactModelSuffix) compactModelSuffix = m := by
      simp [trimSuffix, hasSuffix]
    rw [hcut, trimSuffix, if_neg hno]

theorem mappingModelName_run {client : MappingInfo}
    {earlier : List ModelMapping} (h : Along (mappingStep env) (KeepsModel env) earlier client) :
    (run (mappingStep env) earlier client).mappingModelName = client.mappingModelName := by
  refine run_induction (I := fun info => info.mappingModelName = client.mappingModelName) ?_ rfl h
  intro mapping info info' hinfo hkeeps hstep
  obtain rfl := Except.ok.inj hstep
  exact hkeeps.mappingModelName.trans hinfo

def compactRequest : MappingInfo :=
  { relayMode := .responsesCompact, originModelName := "gpt-4-openai-compact" }

end ApiGateway
