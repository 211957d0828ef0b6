import ApiGateway.Relay.ClaudeTranslate
import Mathlib.Algebra.Order.Group.Int

/-!
# Streamed and whole Claude answers agree

The client of a chat stream should get what the translation of the whole message would have given
it. But the index of a tool call is one less than that of its block, and never negative, and of a
whole message only the last text block is kept.
-/

namespace ApiGateway

open List Streams StreamedBlock MessageBlock

variable {Json : Type}
variable {codec : JsonCodec Json} {blocks : List StreamedBlock}
  {content : List (MessageBlock Json)}
variable {index : Int} {block : StreamedBlock} {events rest : List ClaudeEvent}

/-! ### A message and its stream -/

/-- The pieces of a streamed block make up the block. -/
inductive StreamedBlock.Assembles (codec : JsonCodec Json) :
    StreamedBlock → MessageBlock Json → Prop
  | text (start : String) (pieces : List String) :
      Assembles codec (.text start pieces) (.text (start ++ String.join pieces))
  | thinking (start : String) (pieces signatures : List String) :
      Assembles codec (.thinking start pieces signatures) (.thinking (start ++ String.join pieces))
  | toolUse (id name : String) (pieces : List String) (input : Json)
      (h : codec.unmarshal (String.join pieces) = some input) :
      Assembles codec (.toolUse id name pieces) (.toolUse id name input)

structure StreamOf (codec : JsonCodec Json) (streamed : StreamedMessage)
    (message : ClaudeMessage Json) : Prop where
  blocks : List.Forall₂ (StreamedBlock.Assembles codec) streamed.blocks message.content
  stopReason : streamed.stopReason = message.stopReason

/-- What the client gets: the chunks of the events that have one. -/
def chatChunks (events : List ClaudeEvent) : List ChatChunk :=
  events.filterMap streamResponseClaude2OpenAI

/-- The index under which a block of a tool call is announced. -/
def toolUseIndex (e : ClaudeEvent) : Option Int :=
  match e with
  | .contentBlockStart _ (.toolUse _ _) =>
    (streamResponseClaude2OpenAI e).bind fun chunk =>
      chunk.delta.toolCalls.head?.bind (·.index)
  | _ => none

/-- The same call; the arguments are JSON texts of the same value. -/
def SameCall (codec : JsonCodec Json) (a b : ToolCall) : Prop :=
  a.id = b.id ∧ a.name = b.name ∧ codec.unmarshal a.arguments = codec.unmarshal b.arguments

/-- The streamed answer is the answer translated as a whole. -/
structure Agrees (codec : JsonCodec Json) (events : List ClaudeEvent)
    (response : OpenAITextResponse) : Prop where
  text : chatText (chatChunks events) = response.content
  toolCalls : List.Forall₂ (SameCall codec)
    ((chatToolCalls (chatChunks events)).map Prod.snd) response.toolCalls
  finishReason : chatFinishReason (chatChunks events) = some response.finishReason
  /-- No two tool calls have the same index. -/
  indices : (events.filterMap toolUseIndex).Nodup

def MessageBlock.text? : MessageBlock Json → Option String
  | .text t => some t
  | _ => none

def MessageBlock.isToolUse : MessageBlock Json → Bool
  | .toolUse _ _ _ => true
  | _ => false

/-- The first two blocks are tool calls. -/
def startsWithTwoTools : List (MessageBlock Json) → Bool
  | first :: second :: _ => first.isToolUse && second.isToolUse
  | _ => false

/-! ### Text -/

def StreamedBlock.textOf : StreamedBlock → String
  | .text start pieces => start ++ String.join pieces
  | _ => ""

theorem chatChunks_append (a b : List ClaudeEvent) :
    chatChunks (a ++ b) = chatChunks a ++ chatChunks b := filterMap_append ..

theorem chatChunks_events (index : Int) (block : StreamedBlock) :
    chatChunks (block.events index) =
      chatChunks [.contentBlockStart index block.start] ++
        chatChunks (block.deltas.map (.contentBlockDelta index)) := by
  unfold events
  simp [chatChunks, streamResponseClaude2OpenAI]

theorem chatText_deltas (index : Int) (deltas : List ClaudeDelta) :
    chatText (chatChunks (deltas.map (.contentBlockDelta index))) =
      String.join (deltas.map fun delta =>
        match delta with
        | .text t => t
        | _ => "") := by
  induction deltas with
  | nil => rfl
  | cons delta _ ih =>
    rw [map_cons, ← singleton_append, chatChunks_append, chatText_append, ih,
      map_cons]
    cases delta with
    | text => simp [chatChunks, chatText, streamResponseClaude2OpenAI, chunkOf,
        ChatChunk.delta, StreamDelta.getContentString]
    | thinking | signature | inputJson => rfl

theorem chatText_block (index : Int) (block : StreamedBlock) :
    chatText (chatChunks (block.events index)) = block.textOf := by
  rw [chatChunks_events, chatText_append, chatText_deltas]
  cases block with
  | text =>
    simp [start, deltas, textOf, chatChunks, chatText,
      streamResponseClaude2OpenAI, chunkOf, ChatChunk.delta, StreamDelta.getContentString,
      Function.comp_def]
  | thinking =>
    simp only [deltas, map_append, map_map, Function.comp_def,
      String.join_append, join_const_empty]
    rfl
  | toolUse =>
    simp only [deltas, map_map, Function.comp_def, join_const_empty]
    rfl

theorem chatText_blocks (index : Int) (blocks : List StreamedBlock) :
    chatText (chatChunks (blocksEvents index blocks)) =
      String.join (blocks.map textOf) := by
  induction blocks generalizing index with
  | nil => rfl
  | cons _ _ ih =>
    rw [blocksEvents, chatChunks_append, chatText_append, chatText_block, ih, map_cons,
      String.join_cons]

/-- **The text of the stream is that of all text blocks.** -/
theorem join_textOf (h : List.Forall₂ (Assembles codec) blocks content) :
    String.join (blocks.map textOf) =
      String.join (content.filterMap text?) := by
  induction h with
  | nil => rfl
  | cons hblock _ ih =>
    rw [map_cons, String.join_cons, ih]
    cases hblock with
    | text => exact (String.join_cons ..).symm
    | thinking | toolUse => exact String.empty_append

/-- **The text of the whole message is that of its last text block.** -/
theorem responseText_eq (start : String) (content : List (MessageBlock Json)) :
    responseText start content = ((content.filterMap text?).getLast?).getD start := by
  unfold responseText
  induction content using List.reverseRecOn with
  | nil => rfl
  | append_singleton _ block ih =>
    cases block with
    | text => simp [text?]
    | thinking | toolUse => simpa [text?] using ih

theorem responseClaude2OpenAI_content (codec : JsonCodec Json) (message : ClaudeMessage Json) :
    (responseClaude2OpenAI codec message).content =
      ((message.content.filterMap text?).getLast?).getD "" := by
  unfold responseClaude2OpenAI
  rw [responseText_eq]
  -- what the loop starts with matters only if there is no text block, and is empty then
  cases hlast : (message.content.filterMap text?).getLast? with
  | some => rfl
  | none =>
    cases hcontent : message.content with
    | nil => rfl
    | cons block =>
      rw [hcontent] at hlast
      cases block with
      | text => simp [text?] at hlast
      | thinking | toolUse => rfl

/-! ### Tool calls -/

/-- A tool call with its index, as it is announced, and the pieces of its arguments. -/
def StreamedBlock.toolGroup (index : Int) : StreamedBlock → List (Int × ToolCall × List ToolCall)
  | .toolUse id name pieces =>
    [(fcIdx index, { id := id, name := name, arguments := "" },
      pieces.map fun json => { id := "", name := "", arguments := json })]
  | _ => []

def toolGroups : Int → List StreamedBlock → List (Int × ToolCall × List ToolCall)
  | _, [] => []
  | index, block :: blocks => block.toolGroup index ++ toolGroups (index + 1) blocks

theorem chatToolPieces_deltas (index : Int) (deltas : List ClaudeDelta) :
    chatToolPieces (chatChunks (deltas.map (.contentBlockDelta index))) =
      deltas.filterMap fun delta =>
        match delta with
        | .inputJson json => some (fcIdx index, { id := "", name := "", arguments := json })
        | _ => none := by
  induction deltas with
  | nil => rfl
  | cons delta _ ih =>
    rw [map_cons, ← singleton_append, chatChunks_append, chatToolPieces_append, ih]
    cases delta with
    | text | thinking | signature | inputJson => rfl

theorem chatToolPieces_block (index : Int) (block : StreamedBlock) :
    chatToolPieces (chatChunks (block.events index)) =
      (block.toolGroup index).flatMap fun g => (g.1, g.2.1) :: g.2.2.map fun a => (g.1, a) := by
  rw [chatChunks_events, chatToolPieces_append, chatToolPieces_deltas]
  cases block with
  | text | thinking | toolUse =>
    simp [deltas, toolGroup, chatChunks, chatToolPieces,
      start, streamResponseClaude2OpenAI, chunkOf, ChatChunk.delta,
      StreamDelta.toolPieces]

theorem chatToolPieces_blocks (index : Int) (blocks : List StreamedBlock) :
    chatToolPieces (chatChunks (blocksEvents index blocks)) =
      (toolGroups index blocks).flatMap fun g => (g.1, g.2.1) :: g.2.2.map fun a => (g.1, a) := by
  induction blocks generalizing index with
  | nil => rfl
  | cons _ _ ih =>
    rw [blocksEvents, chatChunks_append, chatToolPieces_append, chatToolPieces_block, ih,
      toolGroups, flatMap_append]

theorem foldl_merge_pieces (call : ToolCall) (pieces : List String) :
    (pieces.map fun json => ({ id := "", name := "", arguments := json } : ToolCall)).foldl
      ToolCall.merge call = { call with arguments := call.arguments ++ String.join pieces } := by
  induction pieces generalizing call with
  | nil => simp
  | cons _ _ ih =>
    rw [map_cons, foldl_cons, ToolCall.merge_arguments (Or.inl rfl), ih,
      String.join_cons, String.append_assoc]

/-- **With indices of their own the streamed calls are those of the message.** -/
theorem sameCalls (h : List.Forall₂ (Assembles codec) blocks content) (index : Int) :
    List.Forall₂ (SameCall codec)
      ((toolGroups index blocks).map fun g => g.2.2.foldl ToolCall.merge g.2.1)
      (content.filterMap (toolCall codec)) := by
  induction h generalizing index with
  | nil => exact List.Forall₂.nil
  | cons hblock _ ih =>
    cases hblock with
    | text | thinking => exact ih (index + 1)
    | toolUse _ _ _ _ hinput =>
      refine List.Forall₂.cons ?_ (ih (index + 1))
      dsimp only
      rw [foldl_merge_pieces]
      refine ⟨rfl, rfl, ?_⟩
      rw [String.empty_append, hinput, codec.unmarshal_marshal]

/-! ### Indices -/

theorem le_of_mem_toolGroups {k : Int} (hindex : 1 ≤ index)
    (h : k ∈ (toolGroups index blocks).map Prod.fst) : index - 1 ≤ k := by
  induction blocks generalizing index with
  | nil => exact absurd h not_mem_nil
  | cons block _ ih =>
    rw [toolGroups, map_append, mem_append] at h
    rcases h with hhead | htail
    · cases block with
      | text | thinking => exact absurd hhead not_mem_nil
      | toolUse =>
        have hk : k = fcIdx index := mem_singleton.mp hhead
        unfold fcIdx at hk
        omega
    · have := ih (by omega) htail
      omega

theorem nodup_toolGroups (hindex : 1 ≤ index) (blocks : List StreamedBlock) :
    ((toolGroups index blocks).map Prod.fst).Nodup := by
  induction blocks generalizing index with
  | nil => exact nodup_nil
  | cons block _ ih =>
    have hrest := ih (show 1 ≤ index + 1 by omega)
    cases block with
    | text | thinking => exact hrest
    | toolUse =>
      refine nodup_cons.mpr ⟨?_, hrest⟩
      intro hmem
      have hle := le_of_mem_toolGroups (by omega) hmem
      unfold fcIdx at hle
      omega

theorem zero_mem_toolGroups :
    0 ∈ (toolGroups 1 (block :: blocks)).map Prod.fst ↔ block.toolGroup 1 ≠ [] := by
  rw [toolGroups, map_append, mem_append]
  constructor
  · rintro (hhead | htail) hnil
    · rw [hnil] at hhead
      exact absurd hhead not_mem_nil
    · have := le_of_mem_toolGroups (by decide) htail
      omega
  intro hne
  left
  cases block with
  | text | thinking => exact absurd rfl hne
  | toolUse => exact mem_singleton.mpr rfl

theorem toolGroup_eq_nil
    {block' : MessageBlock Json} (h : block.Assembles codec block') (index : Int) :
    block.toolGroup index = [] ↔ block'.isToolUse = false := by
  cases h with
  | text | thinking => exact ⟨fun _ => rfl, fun _ => rfl⟩
  | toolUse =>
    exact ⟨fun h => absurd h (by simp [toolGroup]), fun h => nomatch h⟩

/-- **Two calls share an index exactly if the first two blocks are calls.** -/
theorem nodup_iff (h : List.Forall₂ (Assembles codec) blocks content) :
    ((toolGroups 0 blocks).map Prod.fst).Nodup ↔ startsWithTwoTools content = false := by
  cases h with
  | nil => exact ⟨fun _ => rfl, fun _ => nodup_nil⟩
  | @cons _ _ blocks content hfirst hrest =>
    have hnodup := nodup_toolGroups (le_refl 1) blocks
    rw [toolGroups, map_append, zero_add]
    cases hfirst with
    | text | thinking =>
      refine ⟨fun _ => ?_, fun _ => hnodup⟩
      cases content with
      | nil => rfl
      | cons => rfl
    | toolUse id name pieces =>
      have hcons : (((StreamedBlock.toolUse id name pieces).toolGroup 0).map Prod.fst ++
          (toolGroups 1 blocks).map Prod.fst).Nodup ↔
          0 ∉ (toolGroups 1 blocks).map Prod.fst :=
        ⟨fun h => (nodup_cons.mp h).1, fun h => nodup_cons.mpr ⟨h, hnodup⟩⟩
      rw [hcons]
      cases hrest with
      | nil => exact ⟨fun _ => rfl, fun _ => not_mem_nil⟩
      | cons hsecond =>
        rw [zero_mem_toolGroups, not_not, toolGroup_eq_nil hsecond]
        rfl

theorem toolUseIndex_blocks (index : Int) (blocks : List StreamedBlock) :
    (blocksEvents index blocks).filterMap toolUseIndex =
      (toolGroups index blocks).map Prod.fst := by
  induction blocks generalizing index with
  | nil => rfl
  | cons block _ ih =>
    have hdeltas : ∀ deltas : List ClaudeDelta,
        (deltas.map (ClaudeEvent.contentBlockDelta index)).filterMap toolUseIndex = [] := by
      intro deltas
      rw [filterMap_map]
      exact filterMap_eq_nil_iff.mpr fun _ _ => rfl
    rw [blocksEvents, toolGroups, filterMap_append, ih]
    unfold events
    cases block with
    | text | thinking =>
      rw [filterMap_cons_none rfl, filterMap_append, hdeltas]
      rfl
    | toolUse =>
      rw [← singleton_append, filterMap_append, filterMap_append, hdeltas]
      rfl

/-! ### The finish reason -/

theorem finish_blocks (index : Int) (blocks : List StreamedBlock) :
    (chatChunks (blocksEvents index blocks)).filterMap ChatChunk.finish = [] := by
  induction blocks generalizing index with
  | nil => rfl
  | cons block _ ih =>
    rw [blocksEvents, chatChunks_append, filterMap_append, ih, chatChunks_events, filterMap_append]
    have hdeltas : (chatChunks (block.deltas.map (.contentBlockDelta index))).filterMap
        ChatChunk.finish = [] := by
      unfold chatChunks
      rw [filterMap_map, filterMap_filterMap]
      exact filterMap_eq_nil_iff.mpr fun _ _ => rfl
    rw [hdeltas]
    rfl

theorem claudeStopReason_eq_null {stopReason : String} :
    claudeStopReasonToOpenAIFinishReason stopReason = "null" ↔ stopReason = "null" := by
  constructor
  · intro h
    unfold claudeStopReasonToOpenAIFinishReason at h
    split at h
    · exact absurd h (by decide)
    · exact absurd h (by decide)
    · exact absurd h (by decide)
    · exact absurd h (by decide)
    · exact absurd h (by decide)
    · exact h
  · rintro rfl
    decide +kernel

/-! ### The whole message -/

variable (streamed : StreamedMessage)

theorem chatChunks_message :
    chatChunks streamed.events =
      chatChunks [.messageStart streamed.id streamed.model streamed.startUsage] ++
        (chatChunks (blocksEvents 0 streamed.blocks) ++
          chatChunks [.messageDelta (some streamed.stopReason) streamed.usage, .messageStop]) := by
  unfold StreamedMessage.events
  rw [← singleton_append, chatChunks_append, chatChunks_append]

theorem chatText_message :
    chatText (chatChunks streamed.events) =
      String.join (streamed.blocks.map textOf) := by
  rw [chatChunks_message, chatText_append, chatText_append, chatText_blocks]
  exact String.empty_append.trans String.append_empty

theorem chatToolCalls_message {streamed : StreamedMessage}
    (h : ((toolGroups 0 streamed.blocks).map Prod.fst).Nodup) :
    (chatToolCalls (chatChunks streamed.events)).map Prod.snd =
      (toolGroups 0 streamed.blocks).map fun g => g.2.2.foldl ToolCall.merge g.2.1 := by
  unfold chatToolCalls
  rw [chatChunks_message, chatToolPieces_append, chatToolPieces_append, chatToolPieces_blocks]
  have hstart : chatToolPieces (chatChunks
      [.messageStart streamed.id streamed.model streamed.startUsage]) = [] := rfl
  have hstop : chatToolPieces (chatChunks
      [.messageDelta (some streamed.stopReason) streamed.usage, .messageStop]) = [] := rfl
  rw [hstart, hstop, nil_append, append_nil, Streams.gather_groups h, map_map]
  rfl

theorem toolUseIndex_message :
    streamed.events.filterMap toolUseIndex = (toolGroups 0 streamed.blocks).map Prod.fst := by
  unfold StreamedMessage.events
  rw [filterMap_cons_none rfl, filterMap_append, toolUseIndex_blocks]
  exact append_nil _

theorem chatFinishReason_message :
    chatFinishReason (chatChunks streamed.events) =
      (some (claudeStopReasonToOpenAIFinishReason streamed.stopReason)).filter (· ≠ "null") := by
  have hstart : (chatChunks [.messageStart streamed.id streamed.model
      streamed.startUsage]).filterMap ChatChunk.finish = [] := rfl
  unfold chatFinishReason
  rw [chatChunks_message, filterMap_append, filterMap_append, finish_blocks, hstart]
  unfold chatChunks streamResponseClaude2OpenAI
  by_cases hnull : claudeStopReasonToOpenAIFinishReason streamed.stopReason = "null"
  · simp [ChatChunk.finish]
  · simp [ChatChunk.finish]

/-- Pings are lost on a translation that takes no notice of them. -/
theorem filterMap_of_filter {β : Type} {f : ClaudeEvent → Option β} (hf : f .ping = none)
    (h : events.filter (· ≠ .ping) = rest) : events.filterMap f = rest.filterMap f := by
  subst h
  rw [filterMap_filter]
  congr 1
  funext e
  by_cases he : e = .ping <;> simp [he, hf]

def textCodec : JsonCodec String where
  marshal := id
  unmarshal := some
  unmarshal_marshal _ := rfl

def weatherStream : StreamedMessage where
  blocks := [.thinking "" ["Both cities."] ["c2ln"], .text "" ["Let me ", "look."],
    .toolUse "t0" "weather" ["\x7b\"city\":", "\"Rome\"\x7d"],
    .toolUse "t1" "weather" ["\x7b\"city\":", "\"Oslo\"\x7d"]]
  stopReason := "tool_use"

def weatherMessage : ClaudeMessage String where
  content := [.thinking "Both cities.", .text "Let me look.",
    .toolUse "t0" "weather" "\x7b\"city\":\"Rome\"\x7d",
    .toolUse "t1" "weather" "\x7b\"city\":\"Oslo\"\x7d"]
  stopReason := "tool_use"

theorem weatherStream_of : StreamOf textCodec weatherStream weatherMessage where
  blocks := .cons (.thinking "" ["Both cities."] ["c2ln"]) <|
    .cons (.text "" ["Let me ", "look."]) <|
    .cons (.toolUse "t0" "weather" _ _ rfl) <| .cons (.toolUse "t1" "weather" _ _ rfl) .nil
  stopReason := rfl

def leadingToolsStream : StreamedMessage where
  blocks := [.toolUse "t0" "weather" ["\x7b\x7d"], .toolUse "t1" "time" ["\x7b\x7d"]]
  stopReason := "tool_use"

def leadingToolsMessage : ClaudeMessage String where
  content := [.toolUse "t0" "weather" "\x7b\x7d", .toolUse "t1" "time" "\x7b\x7d"]
  stopReason := "tool_use"

def splitTextStream : StreamedMessage where
  blocks := [.text "" ["a"], .text "" ["b"]]
  stopReason := "end_turn"

def splitTextMessage : ClaudeMessage String where
  content := [.text "a", .text "b"]
  stopReason := "end_turn"

end ApiGateway
