import Mathlib.Data.List.Infix

/-!
# Model mapping of a relay attempt

A request is tried on one channel after another. All attempts share one relay info: each puts the
meta data of its channel into it and then follows the model mapping of that channel from the model
the info has as the client's. For the compact endpoint the client's model carries a suffix, which is
taken off before and put back behind the mapped model, as the model to bill.
-/

namespace ApiGateway

/-! ## Model names -/

def compactModelSuffix : String := "-openai-compact"

def hasSuffix (s suffix : String) : Bool := suffix.toList.isSuffixOf s.toList

def trimSuffix (s suffix : String) : String :=
  if hasSuffix s suffix then String.ofList (s.toList.take (s.toList.length - suffix.toList.length))
  else s

def withCompactModelSuffix (modelName : String) : String :=
  if hasSuffix modelName compactModelSuffix then modelName else modelName ++ compactModelSuffix

/-! ## The relay info -/

inductive RelayMode where
  | responsesCompact
  | other
deriving DecidableEq

/-- The part of the relay info that belongs to the channel of the attempt. -/
structure MappingMeta where
  upstreamModelName : String := ""
  isModelMapped : Bool := false
deriving DecidableEq

structure MappingInfo where
  relayMode : RelayMode := .other
  originModelName : String
  channelMeta : MappingMeta := {}
deriving DecidableEq

/-- The mapping of a channel, as text: absent, not a map of strings, or its entries. -/
inductive ModelMapping where
  | unset
  | malformed
  | entries (entries : List (String × String))

inductive MappingErr where
  | unmarshalModelMappingFailed
  | modelMappingContainsCycle
deriving DecidableEq

variable (info : MappingInfo)

/-- Selecting a channel stores the model in the context, and the meta data of the attempt
takes it from there. -/
def MappingInfo.initChannelMeta : MappingInfo :=
  { info with channelMeta := { upstreamModelName := info.originModelName } }

def MappingInfo.isResponsesCompact : Bool :=
  info.relayMode == .responsesCompact

/-- The model the mapping is followed from. -/
def MappingInfo.mappingModelName : String :=
  if info.isResponsesCompact then trimSuffix info.originModelName compactModelSuffix
  else info.originModelName

/-! ## Following the mapping -/

/-- How the loop over the mapping is left. -/
inductive LoopExit where
  | cycle (isModelMapped : Bool)
  /-- The client's own model is mapped to itself: the helper returns at once. -/
  | ownModel
  | stop (currentModel : String) (isModelMapped : Bool)
deriving DecidableEq

/-- Every model but the current one has an entry and is met once, so one step more than there are
entries is enough. -/
def mappingLoop (modelMap : List (String × String)) (originModelName : String) :
    Nat → List String → String → Bool → LoopExit
  | 0, _, _, mapped => .cycle mapped
  | fuel + 1, visitedModels, currentModel, mapped =>
    match modelMap.lookup currentModel with
    | none => .stop currentModel mapped
    | some mappedModel =>
      if mappedModel = "" then .stop currentModel mapped
      else if mappedModel ∈ visitedModels then
        if mappedModel = currentModel then
          if currentModel = originModelName then .ownModel else .stop currentModel true
        else .cycle mapped
      else mappingLoop modelMap originModelName fuel (mappedModel :: visitedModels)
        mappedModel true

/-- What the helper does after the mapping. -/
def MappingInfo.finishMapping (mappingModelName : String) : MappingInfo :=
  if info.isResponsesCompact then
    let finalUpstreamModelName :=
      if info.channelMeta.isModelMapped ∧ info.channelMeta.upstreamModelName ≠ "" then
        info.channelMeta.upstreamModelName
      else mappingModelName
    { info with
      channelMeta := { info.channelMeta with upstreamModelName := finalUpstreamModelName }
      originModelName := withCompactModelSuffix finalUpstreamModelName }
  else info

/-- Leave the loop with the model it stopped at. -/
def MappingInfo.stopAt (currentModel : String) (mapped : Bool) :
    MappingInfo :=
  { info with
    channelMeta :=
      { upstreamModelName := if mapped then currentModel else info.channelMeta.upstreamModelName
        isModelMapped := mapped } }

def modelMappedHelper (mapping : ModelMapping) (info : MappingInfo) :
    Except MappingErr Unit × MappingInfo :=
  let start := info.mappingModelName
  match mapping with
  | .unset => (.ok (), info.finishMapping start)
  | .malformed => (.error .unmarshalModelMappingFailed, info)
  | .entries modelMap =>
    match mappingLoop modelMap info.originModelName (modelMap.length + 1) [start] start
        info.channelMeta.isModelMapped with
    | .cycle mapped =>
      (.error .modelMappingContainsCycle,
        { info with channelMeta := { info.channelMeta with isModelMapped := mapped } })
    | .ownModel =>
      (.ok (), { info with channelMeta := { info.channelMeta with isModelMapped := false } })
    | .stop currentModel mapped => (.ok (), (info.stopAt currentModel mapped).finishMapping start)

/-! ## One attempt -/

/-- Whether an attempt is a Gemini request that turns thinking off while the adapter for it is on,
and which models have a price. -/
structure MappingEnv where
  noThinkingRequest : Bool := false
  hasModelBillingConfig : String → Bool := fun _ => false

def noThinkingSuffix : String := "-nothinking"

variable (env : MappingEnv)

/-- The Gemini handler bills, and names, a request without thinking by a model of its own. -/
def MappingEnv.renames (info : MappingInfo) : Bool :=
  env.noThinkingRequest &&
    !decide (noThinkingSuffix.toList <:+: info.originModelName.toList) &&
    env.hasModelBillingConfig (info.originModelName ++ noThinkingSuffix)

def MappingEnv.renameNoThinking (info : MappingInfo) : MappingInfo :=
  if env.renames info then
    { info with
      originModelName := info.originModelName ++ noThinkingSuffix
      channelMeta :=
        { info.channelMeta with upstreamModelName := info.originModelName ++ noThinkingSuffix } }
  else info

/-- An attempt up to the adaptor: the upstream model handed to it, and the relay info the
next attempt finds. -/
def mappingAttempt (mapping : ModelMapping) (info : MappingInfo) :
    Except MappingErr String × MappingInfo :=
  match modelMappedHelper mapping info.initChannelMeta with
  | (.error e, info') => (.error e, info')
  | (.ok (), info') =>
    let info'' := env.renameNoThinking info'
    (.ok info''.channelMeta.upstreamModelName, info'')

/-- An attempt as a step of the relay info. -/
def mappingStep (mapping : ModelMapping) (info : MappingInfo) :
    Except MappingErr MappingInfo :=
  .ok (mappingAttempt env mapping info).2

end ApiGateway
