import ApiGateway.Relay.StreamFormats

/-!
# Claude answers for clients of the chat format

A Claude message is translated as a whole, or event by event while it is
streamed. The stream translator keeps no state: the index of a tool call is made
from the index of its block.
-/

namespace ApiGateway

def claudeStopReasonToOpenAIFinishReason (stopReason : String) : String :=
  match stopReason.toLower with
  | "stop_sequence" => "stop"
  | "end_turn" => "stop"
  | "max_tokens" => "length"
  | "tool_use" => "tool_calls"
  | "refusal" => "content_filter"
  | _ => stopReason

/-! ### Streamed messages -/

/-- The index of a tool call: one less than that of its block. -/
def fcIdx (index : Int) : Int := if index - 1 < 0 then 0 else index - 1

def chunkOf (delta : StreamDelta) : ChatChunk := { choices := [{ delta := delta }] }

/-- The chunk for an event, if there is one. -/
def streamResponseClaude2OpenAI : ClaudeEvent → Option ChatChunk
  | .messageStart id model _ =>
    some { id := id, model := model,
           choices := [{ delta := { role := "assistant", content := some "" } }] }
  | .contentBlockStart index block =>
    some <| chunkOf <|
      match block with
      | .text text => { content := some text }
      | .toolUse id name =>
        { toolCalls := [{ index := some (fcIdx index), id := id, name := name }] }
      | .thinking _ => {}
  | .contentBlockDelta index delta =>
    some <| chunkOf <|
      match delta with
      | .text text => { content := some text }
      | .inputJson json =>
        { toolCalls := [{ index := some (fcIdx index), arguments := json }] }
      | .signature _ => { reasoningContent := some "\n" }
      | .thinking thinking => { reasoningContent := some thinking }
  | .messageDelta stopReason _ =>
    let finishReason := (stopReason.map claudeStopReasonToOpenAIFinishReason).filter (· ≠ "null")
    some { choices := [{ finishReason := finishReason }] }
  | .contentBlockStop _ | .messageStop | .ping => none

/-! ### Whole messages -/

section Message

variable {Json : Type}

/-- JSON values and their texts. -/
structure JsonCodec (Json : Type) where
  marshal : Json → String
  unmarshal : String → Option Json
  unmarshal_marshal : ∀ value, unmarshal (marshal value) = some value

inductive MessageBlock (Json : Type) where
  | text (text : String)
  | thinking (thinking : String)
  | toolUse (id name : String) (input : Json)

structure ClaudeMessage (Json : Type) where
  id : String := ""
  model : String := ""
  content : List (MessageBlock Json)
  stopReason : String

def MessageBlock.getText : MessageBlock Json → String
  | .text t => t
  | _ => ""

def MessageBlock.getThinking : MessageBlock Json → String
  | .thinking t => t
  | _ => ""

/-- The loop over the blocks: a later text replaces an earlier one, and so does a thought. -/
def responseText (start : String) (content : List (MessageBlock Json)) : String :=
  content.foldl (fun text block =>
    match block with
    | .text text' => text'
    | _ => text) start

def thinkingContent (content : List (MessageBlock Json)) : String :=
  content.foldl (fun thinking block =>
    match block with
    | .thinking thinking' => thinking'
    | _ => thinking) ""

def MessageBlock.toolCall (codec : JsonCodec Json) : MessageBlock Json → Option ToolCall
  | .toolUse id name input => some { id := id, name := name, arguments := codec.marshal input }
  | _ => none

def responseClaude2OpenAI (codec : JsonCodec Json) (message : ClaudeMessage Json) :
    OpenAITextResponse :=
  let first := (message.content.head?.map MessageBlock.getThinking).getD ""
  let thinking := thinkingContent message.content
  { id := message.id
    model := message.model
    content := responseText ((message.content.head?.map MessageBlock.getText).getD "")
      message.content
    reasoningContent :=
      if thinking ≠ "" then some thinking else if first ≠ "" then some first else none
    toolCalls := message.content.filterMap (MessageBlock.toolCall codec)
    finishReason := claudeStopReasonToOpenAIFinishReason message.stopReason }

end Message

/-! ### The events of a message -/

/-- A block as it is streamed, in any number of pieces. -/
inductive StreamedBlock where
  | text (start : String) (pieces : List String)
  | thinking (start : String) (pieces signatures : List String)
  | toolUse (id name : String) (pieces : List String)

def StreamedBlock.start : StreamedBlock → ClaudeBlock
  | .text start _ => .text start
  | .thinking start _ _ => .thinking start
  | .toolUse id name _ => .toolUse id name

def StreamedBlock.deltas : StreamedBlock → List ClaudeDelta
  | .text _ pieces => pieces.map .text
  | .thinking _ pieces signatures => pieces.map .thinking ++ signatures.map .signature
  | .toolUse _ _ pieces => pieces.map .inputJson

def StreamedBlock.events (index : Int) (block : StreamedBlock) : List ClaudeEvent :=
  .contentBlockStart index block.start ::
    (block.deltas.map (.contentBlockDelta index) ++ [.contentBlockStop index])

/-- The blocks of a message are numbered in order. -/
def blocksEvents : Int → List StreamedBlock → List ClaudeEvent
  | _, [] => []
  | index, block :: blocks => block.events index ++ blocksEvents (index + 1) blocks

structure StreamedMessage where
  id : String := ""
  model : String := ""
  startUsage : ClaudeUsage := { inputTokens := 0, outputTokens := 0 }
  blocks : List StreamedBlock
  stopReason : String
  usage : Option ClaudeUsage := none

def StreamedMessage.events (message : StreamedMessage) : List ClaudeEvent :=
  .messageStart message.id message.model message.startUsage ::
    (blocksEvents 0 message.blocks ++
      [.messageDelta (some message.stopReason) message.usage, .messageStop])

end ApiGateway
