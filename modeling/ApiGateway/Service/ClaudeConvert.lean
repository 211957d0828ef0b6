import ApiGateway.Relay.StreamFormats

/-!
# Chat completion streams sent as Claude streams

A client that speaks the Claude format may be served by an upstream that speaks the OpenAI format.
Claude numbers its content blocks and wants each of them opened and closed, so the converter
remembers what kind of block is open and at which index; tool calls may be open side by side, from a
base index up to the largest offset seen. The stream handler withholds the chunk it read last and
converts it by a final call, with the usage the request is billed by.
-/

namespace ApiGateway

inductive LastMessageType where
  | none
  | text
  | thinking
  | tools
deriving DecidableEq

/-- What the relay info remembers between two chunks. -/
structure ConvertInfo where
  sendResponseCount : Nat := 0
  finishReason : String := ""
  estimatePromptTokens : Int := 0
  lastMessagesType : LastMessageType := .none
  index : Int := 0
  usage : Option Usage := none
  done : Bool := false
  toolCallBaseIndex : Int := 0
  toolCallMaxIndexOffset : Int := 0
deriving DecidableEq

def openAIFinishReasonToClaudeStopReason (finishReason : String) : String :=
  match finishReason.toLower with
  | "stop" => "end_turn"
  | "stop_sequence" => "stop_sequence"
  | "length" => "max_tokens"
  | "max_tokens" => "max_tokens"
  | "content_filter" => "refusal"
  | "tool_calls" => "tool_use"
  | _ => finishReason

def normalizeCacheCreationSplit (totalTokens tokens5m tokens1h : Int) : Int × Int :=
  (tokens5m + max (totalTokens - tokens5m - tokens1h) 0, tokens1h)

def buildClaudeUsageFromOpenAIUsage (usage : Usage) : ClaudeUsage :=
  let split := normalizeCacheCreationSplit usage.cachedCreationTokens
    usage.claudeCacheCreation5mTokens usage.claudeCacheCreation1hTokens
  { inputTokens := usage.promptTokens
    outputTokens := usage.completionTokens
    cacheCreationInputTokens := usage.cachedCreationTokens
    cacheReadInputTokens := usage.cachedTokens
    cacheCreation :=
      if split.1 > 0 ∨ split.2 > 0 then
        some { ephemeral5mInputTokens := split.1, ephemeral1hInputTokens := split.2 }
      else none }

/-- A part of the conversion: it updates the info and emits events. -/
abbrev Emit := ConvertInfo → ConvertInfo × List ClaudeEvent

def Emit.andThen (f g : Emit) : Emit := fun info =>
  ((g (f info).1).1, (f info).2 ++ (g (f info).1).2)

/-! ### Blocks -/

variable (info : ConvertInfo)

/-- The stops of the blocks that are open. -/
def stopOpenBlocks : List ClaudeEvent :=
  match info.lastMessagesType with
  | .none => []
  | .text | .thinking => [.contentBlockStop info.index]
  | .tools =>
    (List.range (info.toolCallMaxIndexOffset + 1).toNat).map fun (offset : Nat) =>
      .contentBlockStop (info.toolCallBaseIndex + offset)

/-- Stop the open blocks and go to the next free index. -/
def stopOpenBlocksAndAdvance : Emit := fun info =>
  match info.lastMessagesType with
  | .none => (info, [])
  | .tools =>
    ({ info with
        index := info.toolCallBaseIndex + info.toolCallMaxIndexOffset + 1
        toolCallBaseIndex := 0
        toolCallMaxIndexOffset := 0
        lastMessagesType := .none }, stopOpenBlocks info)
  | .text | .thinking =>
    ({ info with index := info.index + 1, lastMessagesType := .none }, stopOpenBlocks info)

/-- The two kinds of content that fill one block at a time. -/
inductive ContentKind where
  | text
  | thinking
deriving DecidableEq

def ContentKind.messageType : ContentKind → LastMessageType
  | .text => .text
  | .thinking => .thinking

def ContentKind.block : ContentKind → ClaudeBlock
  | .text => .text ""
  | .thinking => .thinking ""

def ContentKind.delta : ContentKind → String → ClaudeDelta
  | .text, s => .text s
  | .thinking, s => .thinking s

variable (kind : ContentKind)

/-- Open a block at the next free index and put the first piece in. -/
def openContent (piece : String) : Emit := fun info =>
  let r := stopOpenBlocksAndAdvance info
  ({ r.1 with lastMessagesType := kind.messageType },
    r.2 ++ [.contentBlockStart r.1.index kind.block,
      .contentBlockDelta r.1.index (kind.delta piece)])

def continueContent (piece : String) : Emit := fun info =>
  if info.lastMessagesType = kind.messageType then
    (info, [.contentBlockDelta info.index (kind.delta piece)])
  else openContent kind piece info

/-- Tool calls that follow something else start at the next free index. -/
def enterTools : Emit := fun info =>
  if info.lastMessagesType = .tools then (info, [])
  else
    let r := stopOpenBlocksAndAdvance info
    ({ r.1 with
        toolCallBaseIndex := r.1.index
        toolCallMaxIndexOffset := 0
        lastMessagesType := .tools }, r.2)

/-- The events of one piece of a tool call: a start if it carries a name, a delta if it
carries arguments. -/
def toolEvents (base offset : Int) (call : ToolCall) : List ClaudeEvent :=
  (if call.name ≠ "" then [.contentBlockStart (base + offset) (.toolUse call.id call.name)]
    else []) ++
  (if call.arguments ≠ "" then
      [.contentBlockDelta (base + offset) (.inputJson call.arguments)]
    else [])

def maxOffset (start : Int) (pieces : List (Int × ToolCall)) : Int :=
  pieces.foldl (fun m piece => if piece.1 > m then piece.1 else m) start

def fillTools (pieces : List (Int × ToolCall)) : Emit := fun info =>
  let offset := maxOffset info.toolCallMaxIndexOffset pieces
  ({ info with
      toolCallMaxIndexOffset := offset
      index := info.toolCallBaseIndex + offset },
    pieces.flatMap fun piece => toolEvents info.toolCallBaseIndex piece.1 piece.2)

variable (delta : StreamDelta)

/-- The events of a delta: tool calls before reasoning, reasoning before text. -/
def convertDelta : Emit :=
  if delta.toolCalls ≠ [] then enterTools.andThen (fillTools delta.toolPieces)
  else if delta.getReasoningContent ≠ "" then
    continueContent .thinking delta.getReasoningContent
  else if delta.getContentString ≠ "" then continueContent .text delta.getContentString
  else fun info => (info, [])

/-! ### Messages -/

variable (chunk : ChatChunk)

/-- Stop the open blocks and the message. Only a known usage is reported. -/
def closeMessage (stopReason : String) : Emit := fun info =>
  ({ info with done := true },
    stopOpenBlocks info ++
      ((chunk.usage.or info.usage).elim [] fun usage =>
        [.messageDelta (some stopReason) (some (buildClaudeUsageFromOpenAIUsage usage))]) ++
      [.messageStop])

/-- In the first chunk only the first tool call is announced. -/
def firstTool : Emit := fun info =>
  match delta.toolCalls with
  | [] => (info, [])
  | call :: _ =>
    ({ info with
        lastMessagesType := .tools
        toolCallBaseIndex := 0
        toolCallMaxIndexOffset := 0 },
      .contentBlockStart 0 (.toolUse call.id call.name) ::
        if call.arguments ≠ "" then [.contentBlockDelta 0 (.inputJson call.arguments)] else [])

/-- Content of the first chunk starts a block in any case. -/
def startContent (piece : String) : Emit := fun info =>
  if info.lastMessagesType = kind.messageType then
    (info, [.contentBlockStart info.index kind.block,
      .contentBlockDelta info.index (kind.delta piece)])
  else openContent kind piece info

def firstContent : Emit :=
  if delta.getReasoningContent ≠ "" then startContent .thinking delta.getReasoningContent
  else if delta.getContentString ≠ "" then startContent .text delta.getContentString
  else fun info => (info, [])

def startMessage : Emit := fun info =>
  (info, [.messageStart chunk.id chunk.model
    { inputTokens := info.estimatePromptTokens, outputTokens := 0 }])

def finishFirst : Emit := fun info =>
  if chunk.isFinished then
    closeMessage chunk (openAIFinishReasonToClaudeStopReason chunk.finishReason)
      { info with finishReason := chunk.finishReason }
  else (info, [])

def firstResponse : Emit :=
  (startMessage chunk).andThen
    ((firstTool chunk.delta).andThen ((firstContent chunk.delta).andThen (finishFirst chunk)))

/-- A chunk without choices ends the message once a usage is known. -/
def usageResponse : Emit := fun info =>
  if (chunk.usage.or info.usage).isSome then
    let stopReason := openAIFinishReasonToClaudeStopReason info.finishReason
    closeMessage chunk (if stopReason = "" then "end_turn" else stopReason) info
  else (info, [])

def choiceResponse : Emit := fun info =>
  if chunk.isFinished then
    -- closing is deferred to a chunk that has the usage, and so is the delta
    if chunk.usage.isNone then ({ info with finishReason := chunk.finishReason }, [])
    else
      (convertDelta chunk.delta).andThen
        (closeMessage chunk (openAIFinishReasonToClaudeStopReason chunk.finishReason))
        { info with finishReason := chunk.finishReason }
  else convertDelta chunk.delta info

def streamResponseOpenAI2Claude : Emit := fun info =>
  if info.done then (info, [])
  else if info.sendResponseCount = 1 then firstResponse chunk info
  else if chunk.choices = [] then usageResponse chunk info
  else choiceResponse chunk info

/-! ### The stream handler -/

def handleStreamFormat (chunk : ChatChunk) :
    ConvertInfo × List ClaudeEvent :=
  streamResponseOpenAI2Claude chunk
    { info with
      sendResponseCount := info.sendResponseCount + 1
      usage := chunk.usage.or info.usage }

def handleFinalResponse (usage : Usage) (info : ConvertInfo) (last : ChatChunk) :
    ConvertInfo × List ClaudeEvent :=
  let r := streamResponseOpenAI2Claude last { info with usage := some usage }
  ({ r.1 with done := true }, r.2)

/-- A chunk that arrives sends the one before it on its way. -/
def dataHandler (s : Option ChatChunk × ConvertInfo) (data : ChatChunk) :
    (Option ChatChunk × ConvertInfo) × List ClaudeEvent :=
  match s.1 with
  | none => ((some data, s.2), [])
  | some last =>
    let r := handleStreamFormat s.2 last
    ((some data, r.1), r.2)

/-- All events of a stream. `usage` is what the request is billed by, which is known once
the stream has ended. -/
def oaiStreamHandler (usage : Usage) (chunks : List ChatChunk) :
    List ClaudeEvent :=
  let r := Streams.run dataHandler (none, info) chunks
  match r.1.1 with
  | none => r.2
  | some last => r.2 ++ (handleFinalResponse usage r.1.2 last).2

end ApiGateway
