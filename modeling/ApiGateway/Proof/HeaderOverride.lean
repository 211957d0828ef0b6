import ApiGateway.Lib.Table
import ApiGateway.Proof.ModelMapping
import ApiGateway.Relay.HeaderOverride

/-!
# Header overrides and the channels before

An attempt should send override headers that come from the client request, the retry information
and its own channel. `freshInfo` is a relay info that knows nothing else.

Two parts of the relay info outlive an attempt. The runtime headers stay switched on once any
attempt has applied a param override, and the model the info has as the client's can be another
one. An attempt that touches neither leaves no trace but its error.
-/

namespace ApiGateway

open Runs Table

variable {Body : Type} {engine : BodyEngine Body} {request : ClientRequest Body}
variable {client info : OverrideInfo}
variable {info' : OverrideInfo}

/-- The relay info of the client, at some point of the retry loop. -/
def freshInfo (client : OverrideInfo) (retryIndex : Nat) (lastError : Option RelayError) :
    OverrideInfo :=
  { client with retryIndex := retryIndex, lastError := lastError }

/-- Equal but for the meta data of the last channel, which every attempt replaces. -/
structure SameBefore (info info' : OverrideInfo) : Prop where
  relayMode : info.mapping.relayMode = info'.mapping.relayMode
  originModelName : info.mapping.originModelName = info'.mapping.originModelName
  others : { info with mapping := info'.mapping } = info'

theorem SameBefore.initChannelMeta (h : SameBefore info info') :
    info.mapping.initChannelMeta = info'.mapping.initChannelMeta := by
  simp only [MappingInfo.initChannelMeta, h.relayMode, h.originModelName]

theorem SameBefore.mappingAttempt (h : SameBefore info info')
    (env : MappingEnv) (mapping : ModelMapping) :
    mappingAttempt env mapping info.mapping = mappingAttempt env mapping info'.mapping := by
  unfold ApiGateway.mappingAttempt
  rw [h.initChannelMeta]

/-- **An attempt reads nothing of the last channel's meta data.** -/
theorem SameBefore.relayAttempt (h : SameBefore info info') (channel : RelayChannel) :
    relayAttempt engine request channel info = relayAttempt engine request channel info' := by
  have hset : ∀ mapping : MappingInfo,
      { info with mapping := mapping } = { info' with mapping := mapping } := by
    intro mapping
    rw [← h.others]
  unfold ApiGateway.relayAttempt
  rw [h.mappingAttempt]
  simp [hset]

/-- The attempt applies no param override and leaves the client's model as it is. -/
def LeavesNoTrace (engine : BodyEngine Body) (request : ClientRequest Body)
    (failed : FailedAttempt) (info : OverrideInfo) : Prop :=
  (relayAttempt engine request failed.channel info).2.useRuntimeHeadersOverride =
    info.useRuntimeHeadersOverride ∧
  (mappingAttempt request.env failed.channel.modelMapping info.mapping).2.originModelName =
    info.mapping.originModelName

theorem mappingAttempt_relayMode {env : MappingEnv} {mapping : ModelMapping} {info : MappingInfo} :
    (mappingAttempt env mapping info).2.relayMode = info.relayMode := by
  have hhelper : (modelMappedHelper mapping info.initChannelMeta).2.relayMode =
      info.relayMode := (modelMappedHelper_origin mapping info.initChannelMeta).1
  unfold mappingAttempt
  generalize modelMappedHelper mapping info.initChannelMeta = r at hhelper
  obtain ⟨result, info'⟩ := r
  cases result with
  | error => exact hhelper
  | ok =>
    dsimp only [MappingEnv.renameNoThinking] at ⊢
    split <;> exact hhelper

/-- What an attempt can change: the mapping, and the runtime headers by switching them on. -/
theorem relayAttempt_cases (engine : BodyEngine Body) (request : ClientRequest Body)
    (channel : RelayChannel) (info : OverrideInfo) :
    let mapping := (mappingAttempt request.env channel.modelMapping info.mapping).2
    (relayAttempt engine request channel info).2 = { info with mapping := mapping } ∨
    ∃ context, (relayAttempt engine request channel info).2 =
      syncRuntimeHeaderOverrideFromContext { info with mapping := mapping } context := by
  unfold relayAttempt
  generalize mappingAttempt request.env channel.modelMapping info.mapping = r
  obtain ⟨result, mapping⟩ := r
  cases result with
  | error => exact .inl rfl
  | ok upstreamModel =>
    dsimp only
    split
    · exact .inl rfl
    cases request.convert channel upstreamModel with
    | none => exact .inl rfl
    | some body =>
      cases happly : applyParamOverrideWithRelayInfo engine body
          { info with mapping := mapping } channel with
      | error =>
        simp [happly]
      | ok r =>
        obtain ⟨body', info'⟩ := r
        simp only [happly]
        unfold applyParamOverrideWithRelayInfo at happly
        split at happly
        · obtain ⟨-, rfl⟩ := ok_pair_inj happly
          exact .inl rfl
        rw [bind_eq_ok] at happly
        obtain ⟨out, -, hout⟩ := happly
        obtain ⟨-, rfl⟩ := ok_pair_inj hout
        exact .inr ⟨out.2, rfl⟩

theorem LeavesNoTrace.sameBefore {failed : FailedAttempt}
    (hoff : client.useRuntimeHeadersOverride = false)
    (hinfo : SameBefore info (freshInfo client info.retryIndex info.lastError))
    (h : LeavesNoTrace engine request failed info)
    (hstep : relayStep engine request failed info = .ok info') :
    SameBefore info' (freshInfo client info'.retryIndex info'.lastError) := by
  obtain ⟨hruntime, horigin⟩ := h
  have hinfoOff : info.useRuntimeHeadersOverride = false := by
    have hflag := congrArg OverrideInfo.useRuntimeHeadersOverride hinfo.others
    exact hflag.trans hoff
  obtain rfl := Except.ok.inj hstep
  rcases relayAttempt_cases engine request failed.channel info with hkept | ⟨context, hon⟩
  · refine ⟨?_, ?_, ?_⟩
    · rw [hkept]
      exact mappingAttempt_relayMode.trans hinfo.relayMode
    · rw [hkept]
      exact horigin.trans hinfo.originModelName
    have hothers := hinfo.others
    simp only [freshInfo] at hothers ⊢
    simp_all
  · -- the runtime headers would be on
    rw [hon, hinfoOff] at hruntime
    exact nomatch hruntime

/-- Bodies that are flat objects; every condition holds. -/
def flatEngine : BodyEngine (List (String × HeaderValue)) where
  checkConditions := fun _ _ _ _ => .ok true
  applyOperation := fun _ _ _ body => .ok body
  setAll := fun entries body => .ok (entries ++ body)
  get := fun body key => body.lookup key
  set := fun body key value => .ok ((key, value) :: body)

def flatRequest : ClientRequest (List (String × HeaderValue)) where
  convert := fun _ model => some [("model", .text model)]

def chatInfo : OverrideInfo := { mapping := { originModelName := "gpt-4" } }

/-- A channel that sends a key of its own in a header. -/
def keyedChannel (key : String) (paramOverride : ParamOverride) : RelayChannel :=
  { headersOverride := [("X-Key", key)], paramOverride := paramOverride }

/-- A param override that sets the temperature and has nothing to do with headers. -/
def temperatureOverride : ParamOverride := { legacy := [("temperature", .text "0.2")] }

def upstreamDown : RelayError := { statusCode := 500 }

end ApiGateway
