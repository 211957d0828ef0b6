import ApiGateway.Lib.Decimal
import ApiGateway.Relay.ModelMapping

/-!
# Header overrides of a relay attempt

A channel can be configured with headers to send and with a program of param operations. Some of
these rewrite the headers: they work on a copy in the override context, and when the program has
succeeded the copy becomes the runtime headers of the relay info, which from then on are sent in
place of the configured ones. `BodyEngine` stands for the operations on the JSON body.
-/

namespace ApiGateway

open Decimal

/-! ## Headers -/

/-- A header map, in the order it is ranged over. -/
abbrev HeaderMap := List (String × String)

def HeaderMap.delete (headers : HeaderMap) (name : String) : HeaderMap :=
  headers.filter fun entry => entry.1 != name

def HeaderMap.set (headers : HeaderMap) (name value : String) : HeaderMap :=
  headers.delete name ++ [(name, value)]

def normalizeHeaderContextKey (key : String) : String := trimSpace key.toLower

def hasPrefix (s start : String) : Bool := start.toList.isPrefixOf s.toList

def isHeaderPassthroughRuleKeyForOverride (key : String) : Bool :=
  let key := trimSpace key.toLower
  key == "*" || hasPrefix key "re:" || hasPrefix key "regex:"

def sanitizeHeaderOverrideMap (source : HeaderMap) : HeaderMap :=
  source.foldl (fun target entry =>
    let key := normalizeHeaderContextKey entry.1
    let value := trimSpace entry.2
    if key = "" then target
    else if value = "" then
      if isHeaderPassthroughRuleKeyForOverride key then HeaderMap.set target key "" else target
    else HeaderMap.set target key value) []

def buildRequestHeadersContext (headers : HeaderMap) : HeaderMap :=
  headers.foldl (fun target entry =>
    let key := normalizeHeaderContextKey entry.1
    let value := trimSpace entry.2
    if key = "" ∨ value = "" then target else HeaderMap.set target key value) []

def splitHeaderListValue (raw : String) : List String :=
  ((raw.toList.splitOn ',').map fun item => trimSpace (String.ofList item)).filter (· != "")

/-! ## Operations -/

inductive OverrideErr where
  | sourceHeaderNotFound (header : String)
  | returnError (message : String)
  | message (text : String)
deriving DecidableEq

/-- A value of the configuration, or of the body, as the header operations read it. A map has the
tokens of its keys. -/
inductive HeaderValue where
  | null
  | text (formatted : String)
  | mapping (entries : List (String × Except OverrideErr (List String)))
      (keepOnlyDeclared : Bool)

inductive BodyMode where
  | delete | set | move | copy | prepend | append | trimPrefix | trimSuffix | ensurePrefix
  | ensureSuffix | trimSpace | toLower | toUpper | replace | regexReplace | pruneObjects
deriving DecidableEq

inductive OperationMode where
  | body (mode : BodyMode)
  | returnError (error : OverrideErr)
  | setHeader
  | deleteHeader
  | copyHeader
  | moveHeader
  /-- With the header names the value was parsed to. -/
  | passHeaders (names : Except OverrideErr (List String))
  | syncFields
  | unknown (mode : String)

structure ConditionOperation where
  path : String
  mode : String
  value : HeaderValue
  invert : Bool := false
  passMissingKey : Bool := false

structure ParamOperation where
  mode : OperationMode
  path : String := ""
  value : HeaderValue := .null
  keepOrigin : Bool := false
  source : String := ""
  target : String := ""
  conditions : List ConditionOperation := []
  logic : String := "OR"

/-- The entries that are set in the body, and the operations if the override has any that
can be parsed. -/
structure ParamOverride where
  legacy : List (String × HeaderValue) := []
  operations : Option (List ParamOperation) := none

def ParamOverride.isEmpty (o : ParamOverride) : Bool := o.legacy.isEmpty && o.operations.isNone

/-! ## The override context -/

structure RelayError where
  statusCode : Int
  message : String := ""
  code : String := ""
  type : String := ""
  skipRetry : Bool := false
deriving DecidableEq

structure OverrideContext where
  upstreamModel : String
  originalModel : String
  requestPath : String
  requestHeaders : HeaderMap
  headerOverride : HeaderMap
  retryIndex : Nat
  lastError : Option RelayError
  isChannelTest : Bool

variable (context : OverrideContext) (headerName : String)

def getHeaderValueFromContext :
    Option String :=
  let name := normalizeHeaderContextKey headerName
  if name = "" then none
  else
    let read := fun headers : HeaderMap =>
      ((headers.lookup name).map trimSpace).filter (· != "")
    (read context.headerOverride).or (read context.requestHeaders)

/-- The tokens of the header with their replacements, then the appended ones. -/
def resolveHeaderOverrideValueByMapping (entries : List (String × Except OverrideErr (List String)))
    (keepOnlyDeclared : Bool) :
    Except OverrideErr (Option String) := do
  if entries.isEmpty then
    throw (.message "header value mapping cannot be empty")
  let appendTokens ← (entries.lookup "$append").getD (.ok [])
  let sourceTokens :=
    ((getHeaderValueFromContext context headerName).map splitHeaderListValue).getD []
  let resultTokens ← sourceTokens.foldlM (fun tokens token => do
    let wildcard := if keepOnlyDeclared then none else entries.lookup "*"
    match (entries.lookup token).or wildcard with
    | none => return if keepOnlyDeclared then tokens else tokens ++ [token]
    | some replacement => return tokens ++ (← replacement)) []
  let tokens := (resultTokens ++ appendTokens).eraseDups
  return if tokens.isEmpty then none else some (",".intercalate tokens)

def resolveHeaderOverrideValue :
    HeaderValue → Except OverrideErr (Option String)
  | .null => .error (.message "header value is required")
  | .mapping entries keepOnlyDeclared =>
    resolveHeaderOverrideValueByMapping context headerName entries keepOnlyDeclared
  | .text formatted =>
    let value := trimSpace formatted
    .ok (if value = "" then none else some value)

def setHeaderOverrideInContext (value : HeaderValue) (keepOrigin : Bool) :
    Except OverrideErr OverrideContext := do
  let name := normalizeHeaderContextKey headerName
  if name = "" then
    throw (.message "header name is required")
  let existing := ((context.headerOverride.lookup name).map trimSpace).getD ""
  if keepOrigin ∧ existing ≠ "" then
    return context
  match ← resolveHeaderOverrideValue context name value with
  | none => return { context with headerOverride := context.headerOverride.delete name }
  | some headerValue =>
    return { context with headerOverride := context.headerOverride.set name headerValue }

def deleteHeaderOverrideInContext :
    Except OverrideErr OverrideContext := do
  let name := normalizeHeaderContextKey headerName
  if name = "" then
    throw (.message "header name is required")
  return { context with headerOverride := context.headerOverride.delete name }

def copyHeaderInContext (fromHeader toHeader : String) (keepOrigin : Bool) :
    Except OverrideErr OverrideContext := do
  let source := normalizeHeaderContextKey fromHeader
  let target := normalizeHeaderContextKey toHeader
  if source = "" ∨ target = "" then
    throw (.message "copy_header from/to is required")
  match getHeaderValueFromContext context source with
  | none => throw (.sourceHeaderNotFound source)
  | some value => setHeaderOverrideInContext context target (.text value) keepOrigin

def moveHeaderInContext (fromHeader toHeader : String) (keepOrigin : Bool) :
    Except OverrideErr OverrideContext := do
  let source := normalizeHeaderContextKey fromHeader
  let target := normalizeHeaderContextKey toHeader
  if source = "" ∨ target = "" then
    throw (.message "move_header from/to is required")
  let context ← copyHeaderInContext context source target keepOrigin
  if source = target then
    return context
  deleteHeaderOverrideInContext context source

/-- A source header that does not exist is no error. -/
def ignoreMissingSource :
    Except OverrideErr OverrideContext → Except OverrideErr OverrideContext
  | .error (.sourceHeaderNotFound _) => .ok context
  | result => result

/-! ## Running the operations -/

/-- Reading and writing the body by path, and the conditions of an operation, which read
the body and the context. -/
structure BodyEngine (Body : Type) where
  checkConditions : Body → OverrideContext → List ConditionOperation → String →
    Except OverrideErr Bool
  applyOperation : BodyMode → ParamOperation → OverrideContext → Body → Except OverrideErr Body
  setAll : List (String × HeaderValue) → Body → Except OverrideErr Body
  get : Body → String → Option HeaderValue
  set : Body → String → HeaderValue → Except OverrideErr Body

section Engine

variable {Body : Type} (engine : BodyEngine Body)

inductive SyncTarget where
  | json (key : String)
  | header (key : String)

def parseSyncTarget (spec : String) : Except OverrideErr SyncTarget :=
  let raw := trimSpace spec
  if raw = "" then .error (.message "sync_fields target is required")
  else
    let chars := raw.toList
    if ':' ∉ chars then .ok (.json raw)
    else
      let kind := trimSpace (String.ofList (chars.takeWhile (· ≠ ':'))).toLower
      let key := trimSpace (String.ofList ((chars.dropWhile (· ≠ ':')).drop 1))
      if key = "" then .error (.message "sync_fields target key is required")
      else if kind = "json" ∨ kind = "body" then .ok (.json key)
      else if kind = "header" then .ok (.header key)
      else .error (.message "sync_fields target prefix is invalid")

variable (body : Body)

def readSyncTargetValue (context : OverrideContext) :
    SyncTarget → Option HeaderValue
  | .json key => engine.get body key
  | .header key => (getHeaderValueFromContext context key).map .text

def writeSyncTargetValue (context : OverrideContext) (value : HeaderValue) :
    SyncTarget → Except OverrideErr (Body × OverrideContext)
  | .json key => do return (← engine.set body key value, context)
  | .header key => do return (body, ← setHeaderOverrideInContext context key value false)

/-- The side that exists is written to the side that is missing. -/
def syncFieldsBetweenTargets (context : OverrideContext) (fromSpec toSpec : String) :
    Except OverrideErr (Body × OverrideContext) := do
  let source ← parseSyncTarget fromSpec
  let target ← parseSyncTarget toSpec
  match readSyncTargetValue engine body context source,
      readSyncTargetValue engine body context target with
  | some value, none => writeSyncTargetValue engine body context value target
  | none, some value => writeSyncTargetValue engine body context value source
  | _, _ => return (body, context)

/-- The headers of a copy or move: the path stands in for one that is not given. -/
def ParamOperation.headers (op : ParamOperation) : String × String :=
  let orPath := fun header => if trimSpace header = "" then trimSpace op.path else trimSpace header
  (orPath op.source, orPath op.target)

def applyOperation (context : OverrideContext) (op : ParamOperation) :
    Except OverrideErr (Body × OverrideContext) :=
  match op.mode with
  | .body mode => do return (← engine.applyOperation mode op context body, context)
  | .returnError error => .error error
  | .setHeader => do
    return (body, ← setHeaderOverrideInContext context op.path op.value op.keepOrigin)
  | .deleteHeader => do return (body, ← deleteHeaderOverrideInContext context op.path)
  | .copyHeader => do
    return (body, ← ignoreMissingSource context
      (copyHeaderInContext context op.headers.1 op.headers.2 op.keepOrigin))
  | .moveHeader => do
    return (body, ← ignoreMissingSource context
      (moveHeaderInContext context op.headers.1 op.headers.2 op.keepOrigin))
  | .passHeaders names => do
    let passed ← (← names).foldlM (fun context name =>
      ignoreMissingSource context (copyHeaderInContext context name name op.keepOrigin)) context
    return (body, passed)
  | .syncFields => syncFieldsBetweenTargets engine body context op.source op.target
  | .unknown mode => .error (.message ("unknown operation: " ++ mode))

def applyOperations (context : OverrideContext) (operations : List ParamOperation) :
    Except OverrideErr (Body × OverrideContext) :=
  operations.foldlM (fun state op => do
    if ← engine.checkConditions state.1 state.2 op.conditions op.logic then
      applyOperation engine state.1 state.2 op
    else return state) (body, context)

def applyParamOverride (paramOverride : ParamOverride) (context : OverrideContext) :
    Except OverrideErr (Body × OverrideContext) := do
  let body ← if paramOverride.legacy.isEmpty then pure body
    else engine.setAll paramOverride.legacy body
  applyOperations engine body context (paramOverride.operations.getD [])

end Engine

/-! ## The relay info -/

/-- What is configured on a channel. The param override includes the template of the affinity rule.
-/
structure RelayChannel where
  modelMapping : ModelMapping := .unset
  paramOverride : ParamOverride := {}
  headersOverride : HeaderMap := []
  passThroughBody : Bool := false

structure OverrideInfo where
  mapping : MappingInfo
  requestURLPath : String := ""
  requestHeaders : HeaderMap := []
  isChannelTest : Bool := false
  retryIndex : Nat := 0
  lastError : Option RelayError := none
  runtimeHeadersOverride : HeaderMap := []
  useRuntimeHeadersOverride : Bool := false

variable (info : OverrideInfo)

def getEffectiveHeaderOverride (channel : RelayChannel) : HeaderMap :=
  if info.useRuntimeHeadersOverride then sanitizeHeaderOverrideMap info.runtimeHeadersOverride
  else sanitizeHeaderOverrideMap channel.headersOverride

def buildParamOverrideContext (channel : RelayChannel) : OverrideContext where
  upstreamModel := info.mapping.channelMeta.upstreamModelName
  originalModel := info.mapping.originModelName
  requestPath := info.requestURLPath
  requestHeaders := buildRequestHeadersContext info.requestHeaders
  headerOverride := sanitizeHeaderOverrideMap (getEffectiveHeaderOverride info channel)
  retryIndex := info.retryIndex
  lastError := info.lastError
  isChannelTest := info.isChannelTest

def syncRuntimeHeaderOverrideFromContext (context : OverrideContext) :
    OverrideInfo :=
  { info with
    runtimeHeadersOverride := sanitizeHeaderOverrideMap context.headerOverride
    useRuntimeHeadersOverride := true }

section Attempt

variable {Body : Type} (engine : BodyEngine Body)

def applyParamOverrideWithRelayInfo (body : Body) (info : OverrideInfo) (channel : RelayChannel) :
    Except OverrideErr (Body × OverrideInfo) :=
  if channel.paramOverride.isEmpty then .ok (body, info)
  else do
    let result ← applyParamOverride engine body channel.paramOverride
      (buildParamOverrideContext info channel)
    return (result.1, syncRuntimeHeaderOverrideFromContext info result.2)

/-- The client request: what the handlers rename models by, and the body they convert it to for a
channel and an upstream model. -/
structure ClientRequest (Body : Type) where
  env : MappingEnv := {}
  convert : RelayChannel → String → Option Body

/-- An attempt up to the upstream call: the override headers it sends, if it gets that far,
and the relay info it leaves. -/
def relayAttempt (request : ClientRequest Body) (channel : RelayChannel) (info : OverrideInfo) :
    Option HeaderMap × OverrideInfo :=
  match mappingAttempt request.env channel.modelMapping info.mapping with
  | (.error _, mapping) => (none, { info with mapping := mapping })
  | (.ok upstreamModel, mapping) =>
    let info := { info with mapping := mapping }
    if channel.passThroughBody then (some (getEffectiveHeaderOverride info channel), info)
    else
      match request.convert channel upstreamModel with
      | none => (none, info)
      | some body =>
        match applyParamOverrideWithRelayInfo engine body info channel with
        | .error _ => (none, info)
        | .ok (_, info') => (some (getEffectiveHeaderOverride info' channel), info')

/-- A channel that was tried, and the error the attempt ended with. -/
structure FailedAttempt where
  channel : RelayChannel
  error : RelayError

/-- The retry loop after a failed attempt: the error is kept and the index goes up. -/
def relayStep (request : ClientRequest Body) (failed : FailedAttempt) (info : OverrideInfo) :
    Except OverrideErr OverrideInfo :=
  .ok { (relayAttempt engine request failed.channel info).2 with
    lastError := some failed.error
    retryIndex := info.retryIndex + 1 }

end Attempt

end ApiGateway
