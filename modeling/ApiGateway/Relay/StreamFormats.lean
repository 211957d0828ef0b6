import ApiGateway.Service.TieredBilling
import ApiGateway.Lib.Streams

/-!
# Wire formats of streamed answers

A chat completion is streamed as chunks whose deltas carry pieces of text, of
reasoning and of tool calls. A Claude message is streamed as events that open,
fill and close numbered content blocks. The reader of chunks puts the pieces of a
tool call together by its number.
-/

namespace ApiGateway

deriving instance DecidableEq for ClaudeCacheCreationUsage
deriving instance DecidableEq for ClaudeUsage

/-! ### Chat completion chunks -/

structure ToolCallResponse where
  index : Option Int := none
  id : String := ""
  name : String := ""
  arguments : String := ""
deriving DecidableEq

structure StreamDelta where
  role : String := ""
  content : Option String := none
  reasoningContent : Option String := none
  reasoning : Option String := none
  toolCalls : List ToolCallResponse := []
deriving DecidableEq

def StreamDelta.getContentString (delta : StreamDelta) : String := delta.content.getD ""

def StreamDelta.getReasoningContent (delta : StreamDelta) : String :=
  (delta.reasoningContent.or delta.reasoning).getD ""

structure StreamChoice where
  delta : StreamDelta := {}
  finishReason : Option String := none
deriving DecidableEq

structure ChatChunk where
  id : String := ""
  model : String := ""
  choices : List StreamChoice := []
  usage : Option Usage := none
deriving DecidableEq

variable (chunk : ChatChunk)

/-- The delta of the first choice, which is all a converter looks at. -/
def ChatChunk.delta : StreamDelta := (chunk.choices.head?.map (·.delta)).getD {}

def ChatChunk.finishReason : String :=
  (chunk.choices.head?.bind (·.finishReason)).getD ""

def ChatChunk.isFinished : Bool := chunk.finishReason != ""

/-! ### Claude events -/

inductive ClaudeBlock where
  | text (text : String)
  | thinking (thinking : String)
  | toolUse (id name : String)
deriving DecidableEq

inductive ClaudeDelta where
  | text (text : String)
  | thinking (thinking : String)
  | signature (signature : String)
  | inputJson (partialJson : String)
deriving DecidableEq

inductive ClaudeEvent where
  | messageStart (id model : String) (usage : ClaudeUsage)
  | contentBlockStart (index : Int) (block : ClaudeBlock)
  | contentBlockDelta (index : Int) (delta : ClaudeDelta)
  | contentBlockStop (index : Int)
  | messageDelta (stopReason : Option String) (usage : Option ClaudeUsage)
  | messageStop
  | ping
deriving DecidableEq

/-! ### Tool calls put together by their reader -/

/-- A tool call, or a piece of one. -/
structure ToolCall where
  id : String
  name : String
  arguments : String
deriving DecidableEq

/-- The id and the name are those that came first, the arguments are appended. -/
def ToolCall.merge (a b : ToolCall) : ToolCall where
  id := if a.id = "" then b.id else a.id
  name := if a.name = "" then b.name else a.name
  arguments := a.arguments ++ b.arguments

/-- A piece that names no other call only adds to the arguments. -/
theorem ToolCall.merge_arguments {a : ToolCall} {id arguments : String}
    (hid : id = "" ∨ id = a.id) :
    a.merge { id := id, name := "", arguments := arguments } =
      { a with arguments := a.arguments ++ arguments } := by
  unfold ToolCall.merge
  have hid' : (if a.id = "" then id else a.id) = a.id := by
    split
    · rename_i hempty
      rcases hid with rfl | rfl
      · exact hempty.symm
      · rfl
    · rfl
  have hname : (if a.name = "" then "" else a.name) = a.name := by
    split
    · rename_i hempty; exact hempty.symm
    · rfl
  rw [hid', hname]

/-- An answer that is sent as a whole. -/
structure OpenAITextResponse where
  id : String
  model : String
  content : String
  reasoningContent : Option String
  toolCalls : List ToolCall
  finishReason : String
deriving DecidableEq

/-- The pieces of tool calls in a delta. A piece without an index is counted by its place. -/
def StreamDelta.toolPieces (delta : StreamDelta) : List (Int × ToolCall) :=
  delta.toolCalls.mapIdx fun i call =>
    (call.index.getD i, { id := call.id, name := call.name, arguments := call.arguments })

variable (chunks : List ChatChunk)

def chatToolPieces : List (Int × ToolCall) :=
  chunks.flatMap fun chunk => chunk.delta.toolPieces

/-- The tool calls of a chat stream, with their indices. -/
def chatToolCalls : List (Int × ToolCall) :=
  Streams.gather ToolCall.merge (chatToolPieces chunks)

def chatText : String :=
  String.join (chunks.map fun chunk => chunk.delta.getContentString)

theorem chatText_append (a b : List ChatChunk) :
    chatText (a ++ b) = chatText a ++ chatText b := by
  unfold chatText
  rw [List.map_append, String.join_append]

theorem chatToolPieces_append (a b : List ChatChunk) :
    chatToolPieces (a ++ b) = chatToolPieces a ++ chatToolPieces b := List.flatMap_append ..

def ChatChunk.finish : Option String :=
  chunk.choices.head?.bind (·.finishReason)

/-- The finish reason a client is left with. -/
def chatFinishReason : Option String :=
  (chunks.filterMap ChatChunk.finish).getLast?

end ApiGateway
