import ApiGateway.Lib.Decimal
import ApiGateway.Relay.StreamFormats

/-!
# Responses answers for clients of the chat format

An upstream that speaks the Responses format answers with a list of output items, messages and
function calls among them, or streams them: items are added and done, and in between come pieces of
their text or of their arguments. Such a piece names the item id of a call, the chat format wants
the call id, so the handler keeps maps from the one to the other, and by call id the index, the name
and the arguments so far.
-/

namespace ApiGateway

open Decimal

inductive OutputType where
  | message
  | functionCall
  | other
deriving DecidableEq

inductive OutputContentType where
  | outputText
  | other
deriving DecidableEq

structure ResponsesOutputContent where
  type : OutputContentType
  text : String
deriving DecidableEq

structure ResponsesOutput where
  type : OutputType
  id : String := ""
  role : String := ""
  content : List ResponsesOutputContent := []
  callId : String := ""
  name : String := ""
  arguments : String := ""
deriving DecidableEq

structure OpenAIResponsesResponse where
  model : String := ""
  output : List ResponsesOutput
deriving DecidableEq

/-- The call id a client is told: that of the item, if it has no other. -/
def ResponsesOutput.callID (out : ResponsesOutput) : String :=
  if trimSpace out.callId = "" then trimSpace out.id else trimSpace out.callId

/-! ### Whole answers -/

def ResponsesOutput.isAssistantMessage (out : ResponsesOutput) : Bool :=
  out.type = .message ∧ (out.role = "" ∨ out.role = "assistant")

def assistantText (output : List ResponsesOutput) : String :=
  String.join <| (output.filter ResponsesOutput.isAssistantMessage).flatMap fun out =>
    (out.content.filter fun c => c.type = .outputText).map (·.text)

/-- The text of the assistant's messages, or else of anything that has some. -/
def extractOutputTextFromResponses (response : OpenAIResponsesResponse) : String :=
  if assistantText response.output ≠ "" then assistantText response.output
  else String.join (response.output.flatMap fun out => out.content.map (·.text))

def ResponsesOutput.toolCall (out : ResponsesOutput) : Option ToolCall :=
  if out.type ≠ .functionCall then none
  else if trimSpace out.name = "" then none
  else some { id := out.callID, name := trimSpace out.name, arguments := out.arguments }

def responsesResponseToChatCompletionsResponse (id : String)
    (response : OpenAIResponsesResponse) : OpenAITextResponse :=
  let text := extractOutputTextFromResponses response
  let toolCalls := if text = "" then response.output.filterMap ResponsesOutput.toolCall else []
  { id := id
    model := response.model
    content := if toolCalls ≠ [] then "" else text
    reasoningContent := none
    toolCalls := toolCalls
    finishReason := if toolCalls ≠ [] then "tool_calls" else "stop" }

/-! ### Streamed answers -/

inductive ResponsesEvent where
  | created (model : String)
  | reasoningSummaryTextDelta (delta : String)
  | reasoningSummaryTextDone
  | outputTextDelta (itemId : String) (contentIndex : Nat) (delta : String)
  | outputItemAdded (item : ResponsesOutput)
  | outputItemDone (item : ResponsesOutput)
  | functionCallArgumentsDelta (itemId delta : String)
  | functionCallArgumentsDone (itemId arguments : String)
  | completed (response : OpenAIResponsesResponse)
  | failed
  | other
deriving DecidableEq

/-- What the handler keeps between two events. A map gives the zero value for a missing key. -/
structure ResponsesStream where
  model : String
  outputText : String := ""
  sentStart : Bool := false
  sentStop : Bool := false
  sawToolCall : Bool := false
  streamErr : Bool := false
  toolCallIndexByID : List (String × Nat) := []
  toolCallNameByID : String → String := fun _ => ""
  toolCallArgsByID : String → String := fun _ => ""
  toolCallNameSent : String → Bool := fun _ => false
  toolCallCanonicalIDByItemID : String → String := fun _ => ""
  hasSentReasoningSummary : Bool := false
  needsReasoningSummarySeparator : Bool := false

def generateStartEmptyResponse (id model : String) : ChatChunk :=
  { id := id, model := model,
    choices := [{ delta := { role := "assistant", content := some "" } }] }

def generateStopResponse (id model finishReason : String) : ChatChunk :=
  { id := id, model := model, choices := [{ finishReason := some finishReason }] }

section Handler

variable (responseId : String) (s : ResponsesStream)

def sendStartIfNeeded : ResponsesStream × List ChatChunk :=
  if s.sentStart then (s, [])
  else ({ s with sentStart := true }, [generateStartEmptyResponse responseId s.model])

/-- Send a delta, after the start of the answer if that was not sent yet. -/
def sendDelta (delta : StreamDelta) : ResponsesStream × List ChatChunk :=
  let started := sendStartIfNeeded responseId s
  (started.1, started.2 ++
    [{ id := responseId, model := s.model, choices := [{ delta := delta }] }])

/-- A blank line goes between two summaries, unless the second brings it along. -/
def separated (delta : String) : String :=
  if s.needsReasoningSummarySeparator then
    if "\n\n".toList.isPrefixOf delta.toList then delta
    else if "\n".toList.isPrefixOf delta.toList then "\n" ++ delta
    else "\n\n" ++ delta
  else delta

def sendReasoningSummaryDelta (delta : String) :
    ResponsesStream × List ChatChunk :=
  if delta = "" then (s, [])
  else
    sendDelta responseId
      { s with needsReasoningSummarySeparator := false, hasSentReasoningSummary := true }
      { reasoningContent := some (separated s delta) }

variable (callID : String)

/-- The index of a call: calls are numbered as they are first sent. -/
def ResponsesStream.toolCallIndex : Nat :=
  (s.toolCallIndexByID.lookup callID).getD s.toolCallIndexByID.length

def ResponsesStream.indexToolCall : List (String × Nat) :=
  if (s.toolCallIndexByID.lookup callID).isSome then s.toolCallIndexByID
  else s.toolCallIndexByID ++ [(callID, s.toolCallIndexByID.length)]

def ResponsesStream.nameToolCall (callID name : String) : ResponsesStream :=
  { s with toolCallNameByID :=
      if name ≠ "" then Function.update s.toolCallNameByID callID name else s.toolCallNameByID }

/-- The name goes with the first piece that is sent when it is known. -/
def ResponsesStream.sendsName : Bool :=
  s.toolCallNameByID callID != "" && !s.toolCallNameSent callID

def ResponsesStream.toolPiece (callID argsDelta : String) :
    ToolCallResponse :=
  { index := some (s.toolCallIndex callID)
    id := callID
    name := if s.sendsName callID then s.toolCallNameByID callID else ""
    arguments := argsDelta }

def ResponsesStream.pieceSent : ResponsesStream :=
  { s with
    sawToolCall := true
    toolCallIndexByID := s.indexToolCall callID
    toolCallNameSent :=
      if s.sendsName callID then Function.update s.toolCallNameSent callID true
      else s.toolCallNameSent }

def sendToolCallDelta (callID name argsDelta : String) :
    ResponsesStream × List ChatChunk :=
  if callID = "" then (s, [])
  else if s.outputText ≠ "" then (s, [])
  else
    -- from here on the name is the one in the map: if that is empty, so is `name`
    let s := s.nameToolCall callID name
    sendDelta responseId (s.pieceSent callID) { toolCalls := [s.toolPiece callID argsDelta] }

/-- What is new in the arguments of an item. -/
def argumentsDelta (prevArgs newArgs : String) : String :=
  if newArgs = "" then ""
  else if prevArgs.toList.isPrefixOf newArgs.toList then
    String.ofList (newArgs.toList.drop prevArgs.length)
  else newArgs

/-- An item is put into the maps. -/
def ResponsesStream.recordItem (item : ResponsesOutput) : ResponsesStream :=
  let itemID := trimSpace item.id
  { s.nameToolCall item.callID (trimSpace item.name) with
    toolCallCanonicalIDByItemID :=
      if itemID ≠ "" ∧ item.callID ≠ "" then
        Function.update s.toolCallCanonicalIDByItemID itemID item.callID
      else s.toolCallCanonicalIDByItemID
    toolCallArgsByID :=
      if item.arguments ≠ "" then Function.update s.toolCallArgsByID item.callID item.arguments
      else s.toolCallArgsByID }

/-- An item is added or done. -/
def handleOutputItem (item : ResponsesOutput) :
    ResponsesStream × List ChatChunk :=
  if item.type ≠ .functionCall then (s, [])
  else
    let prevArgs := s.toolCallArgsByID item.callID
    sendToolCallDelta responseId (s.recordItem item) item.callID (trimSpace item.name)
      (argumentsDelta prevArgs item.arguments)

/-- The call an event names by its item id. -/
def ResponsesStream.canonicalID (itemID : String) : String :=
  if s.toolCallCanonicalIDByItemID itemID = "" then itemID
  else s.toolCallCanonicalIDByItemID itemID

def handleArgumentsDelta (itemId delta : String) :
    ResponsesStream × List ChatChunk :=
  let callID := s.canonicalID (trimSpace itemId)
  if callID = "" then (s, [])
  else
    sendToolCallDelta responseId
      { s with toolCallArgsByID :=
          Function.update s.toolCallArgsByID callID (s.toolCallArgsByID callID ++ delta) }
      callID "" delta

def ResponsesStream.finishReason : String :=
  if s.sawToolCall ∧ s.outputText = "" then "tool_calls" else "stop"

/-- The end of the answer, if it was not sent yet. -/
def sendStopIfNeeded : ResponsesStream × List ChatChunk :=
  let started := sendStartIfNeeded responseId s
  if s.sentStop then started
  else ({ started.1 with sentStop := true },
    started.2 ++ [generateStopResponse responseId s.model s.finishReason])

def ResponsesStream.withModel (model : String) : ResponsesStream :=
  if model ≠ "" then { s with model := model } else s

def handleResponsesEvent (e : ResponsesEvent) :
    ResponsesStream × List ChatChunk :=
  if s.streamErr then (s, [])
  else
    match e with
    | .created model => (s.withModel model, [])
    | .reasoningSummaryTextDelta delta => sendReasoningSummaryDelta responseId s delta
    | .reasoningSummaryTextDone =>
      (if s.hasSentReasoningSummary then { s with needsReasoningSummarySeparator := true }
       else s, [])
    | .outputTextDelta _ _ delta =>
      if delta = "" then sendStartIfNeeded responseId s
      else sendDelta responseId { s with outputText := s.outputText ++ delta }
        { content := some delta }
    | .outputItemAdded item => handleOutputItem responseId s item
    | .outputItemDone item => handleOutputItem responseId s item
    | .functionCallArgumentsDelta itemId delta => handleArgumentsDelta responseId s itemId delta
    | .functionCallArgumentsDone _ _ => (s, [])
    | .completed response => sendStopIfNeeded responseId (s.withModel response.model)
    | .failed => ({ s with streamErr := true }, [])
    | .other => (s, [])

/-- The chunks for a stream of events. `model` is the model asked for, `usage` what is told of
the usage at the end. -/
def oaiResponsesToChatStreamHandler (model : String) (usage : Option Usage)
    (events : List ResponsesEvent) : List ChatChunk :=
  let run := Streams.run (handleResponsesEvent responseId) { model := model } events
  if run.1.streamErr then run.2
  else
    run.2 ++ (sendStopIfNeeded responseId run.1).2 ++
      (usage.map fun usage =>
        ({ id := responseId, model := run.1.model, usage := some usage } : ChatChunk)).toList

end Handler

end ApiGateway
