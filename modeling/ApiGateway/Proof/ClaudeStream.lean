import ApiGateway.Proof.ClaudeBlocks

/-!
# Converted streams are completed

A Claude client waits for one `message_start`, for a `message_delta` and the `message_stop` at the
end, and for the stop of every block. The converter sends all of that only if some chunk makes it
close the message:

* the first chunk is recognised by a counter that the final call does not advance. A stream of one
  chunk is never started, one of two chunks is started twice;
* a chunk with a finish reason closes the message only if it has a usage itself. The final call
  knows a usage, but returns before it looks at it.

What is opened is closed by then, as long as no tool call has a negative index.
-/

namespace ApiGateway

open List Streams ChatChunk

variable {info : ConvertInfo}

/-! ### Completed streams -/

/-- What a Claude client may expect of a whole stream. -/
structure Completed (events : List ClaudeEvent) : Prop where
  /-- It starts with the only `message_start`. -/
  starts : ∃ id model usage rest, events = .messageStart id model usage :: rest ∧
    ∀ id model usage, .messageStart id model usage ∉ rest
  /-- It ends with a `message_delta` and the only `message_stop`. -/
  ends : ∃ body reason usage, events = body ++ [.messageDelta reason usage, .messageStop] ∧
    .messageStop ∉ body
  /-- Every block that was started has been stopped. -/
  stopped : ∀ i, ¬ Unstopped i events

/-! ### When a message is closed -/

/-- A chunk after the first closes the message: without choices, when a usage is known, or by a
finish reason and a usage of its own. -/
def endsMessage (usageKnown : Bool) (chunk : ChatChunk) : Bool :=
  if chunk.choices = [] then usageKnown else chunk.isFinished && chunk.usage.isSome

/-- Some chunk after the first closes the message. The final call always knows a usage. -/
def endsRest (usageKnown : Bool) : List ChatChunk → Bool
  | [] => false
  | chunk :: rest =>
    endsMessage (usageKnown || chunk.usage.isSome || rest.isEmpty) chunk ||
      endsRest (usageKnown || chunk.usage.isSome) rest

/-- The chunks after the first whose delta is converted: up to the closing one, without those that
only defer the closing. -/
def convertedRest (usageKnown : Bool) : List ChatChunk → List ChatChunk
  | [] => []
  | chunk :: rest =>
    (if chunk.isFinished && chunk.usage.isNone then [] else [chunk]) ++
      if endsMessage (usageKnown || chunk.usage.isSome || rest.isEmpty) chunk then []
      else convertedRest (usageKnown || chunk.usage.isSome) rest

def streamEnds : List ChatChunk → Bool
  | [] => false
  | first :: rest =>
    if first.isFinished then first.usage.isSome && !rest.isEmpty
    else 2 ≤ rest.length && endsRest first.usage.isSome rest

/-- The chunks whose tool calls open blocks by their index. -/
def convertedChunks : List ChatChunk → List ChatChunk
  | [] => []
  | first :: rest =>
    if first.isFinished then [] else convertedRest first.usage.isSome rest

/-! ### One chunk after the first -/

/-- No piece of the chunk's tool calls is converted, or none has a negative index. -/
def ChatChunk.opensOk (chunk : ChatChunk) : Prop :=
  (chunk.isFinished && chunk.usage.isNone) = true ∨ chunk.delta.offsetsOk

/-- What a chunk after the first comes to while the message is open. -/
inductive Responds (chunk : ChatChunk) (info : ConvertInfo) :
    ConvertInfo × List ClaudeEvent → Prop where
  | closes (reason stopReason : String) (husage : (chunk.usage.or info.usage).isSome)
      (hdefer : (chunk.isFinished && chunk.usage.isNone) = false)
      (hends : endsMessage (chunk.usage.or info.usage).isSome chunk = true) :
      Responds chunk info ((convertDelta chunk.delta).andThen (closeMessage chunk stopReason)
        { info with finishReason := reason })
  /-- The finish reason is kept for later, the delta is not. -/
  | defers (hdefer : (chunk.isFinished && chunk.usage.isNone) = true)
      (hends : endsMessage (chunk.usage.or info.usage).isSome chunk = false) :
      Responds chunk info ({ info with finishReason := chunk.finishReason }, [])
  | converts (hdefer : (chunk.isFinished && chunk.usage.isNone) = false)
      (hends : endsMessage (chunk.usage.or info.usage).isSome chunk = false) :
      Responds chunk info (convertDelta chunk.delta info)

theorem streamResponse_responds {chunk : ChatChunk} (hdone : info.done = false)
    (hcount : info.sendResponseCount ≠ 1) :
    Responds chunk info (streamResponseOpenAI2Claude chunk info) := by
  unfold streamResponseOpenAI2Claude
  rw [if_neg (by simp [hdone]), if_neg hcount]
  by_cases hchoices : chunk.choices = []
  · have hdefer : (chunk.isFinished && chunk.usage.isNone) = false := by
      simp [isFinished, finishReason, hchoices]
    have hskip (info : ConvertInfo) : convertDelta chunk.delta info = (info, []) := by
      simp [convertDelta, delta, hchoices, StreamDelta.getReasoningContent,
        StreamDelta.getContentString]
    rw [if_pos hchoices]
    unfold usageResponse
    split
    · rename_i husage
      have hclose : ∀ reason, closeMessage chunk reason info = (convertDelta chunk.delta).andThen
          (closeMessage chunk reason) { info with finishReason := info.finishReason } := by
        simp [Emit.andThen, hskip]
      rw [hclose]
      exact .closes _ _ husage hdefer (by simp [endsMessage, hchoices, husage])
    · rename_i husage
      rw [← hskip info]
      exact .converts hdefer (by simpa [endsMessage, hchoices] using husage)
  rw [if_neg hchoices]
  unfold choiceResponse
  split
  · rename_i hfinished
    split
    · rename_i hnone
      refine .defers (by simp [hfinished, hnone]) ?_
      simp [endsMessage, hchoices, Option.isNone_iff_eq_none.mp hnone]
    · rename_i hsome
      rw [Bool.not_eq_true, Option.isNone_eq_false_iff] at hsome
      refine .closes _ _ (by simp [hsome]) ?_ ?_
      · simp [hsome]
      · simp [endsMessage, hfinished, hsome]
  · rename_i hfinished
    exact .converts (by simp [hfinished]) (by simp [endsMessage, hchoices, hfinished])

theorem closeMessage_of_usage {chunk : ChatChunk} (reason : String)
    (h : (chunk.usage.or info.usage).isSome) :
    ∃ usage, (closeMessage chunk reason info).2 =
      stopOpenBlocks info ++ [.messageDelta (some reason) usage, .messageStop] := by
  obtain ⟨usage, husage⟩ := Option.isSome_iff_exists.mp h
  refine ⟨some (buildClaudeUsageFromOpenAIUsage usage), ?_⟩
  unfold closeMessage
  rw [husage]
  simp

/-- The events of a stretch that closes the message. -/
def ClosesMessage (ok : Prop) (info : ConvertInfo) (events : List ClaudeEvent) : Prop :=
  ∃ body info' reason usage, Converted ok info info' body ∧
    events = body ++ stopOpenBlocks info' ++ [.messageDelta reason usage, .messageStop]

section Chunk

variable {chunk : ChatChunk} {r : ConvertInfo × List ClaudeEvent}

/-- **A chunk that ends the message closes it.** -/
theorem Responds.ends (h : Responds chunk info r) (hoffset : 0 ≤ info.toolCallMaxIndexOffset)
    (hends : endsMessage (chunk.usage.or info.usage).isSome chunk = true) :
    r.1.done = true ∧ ClosesMessage chunk.opensOk info r.2 := by
  cases h with
  | closes reason stopReason husage hdefer =>
    refine ⟨rfl, ?_⟩
    have hsame := sameMessage_convertDelta { info with finishReason := reason } chunk.delta
    obtain ⟨usage, hevents⟩ := closeMessage_of_usage stopReason (hsame.usage ▸ husage)
    refine ⟨_, _, some stopReason, usage, (converted_convertDelta chunk.delta reason hoffset).congr
      ?_, ?_⟩
    · simp [opensOk, hdefer]
    · unfold Emit.andThen
      rw [hevents, append_assoc]
  | defers _ hnot | converts _ hnot => exact nomatch (hends.symm.trans hnot)

/-- **Any other chunk only adds to the blocks.** -/
theorem Responds.continues (h : Responds chunk info r) (hoffset : 0 ≤ info.toolCallMaxIndexOffset)
    (hends : endsMessage (chunk.usage.or info.usage).isSome chunk = false) :
    SameMessage info r.1 ∧ Converted chunk.opensOk info r.1 r.2 := by
  cases h with
  | closes _ _ _ _ hcloses => exact nomatch (hends.symm.trans hcloses)
  | defers hdefer =>
    exact ⟨⟨rfl, rfl, rfl⟩, (converted_nil hoffset rfl).congr
      ⟨fun _ => .inl hdefer, fun _ => trivial⟩⟩
  | converts hdefer =>
    refine ⟨sameMessage_convertDelta info chunk.delta,
      (converted_convertDelta chunk.delta info.finishReason hoffset).congr ?_⟩
    simp [opensOk, hdefer]

end Chunk

/-! ### The rest of a stream -/

/-- The events of the chunks that are left, the last of them in the final call. -/
def remaining (usage : Usage) : ConvertInfo → List ChatChunk → List ClaudeEvent
  | _, [] => []
  | info, [last] => (handleFinalResponse usage info last).2
  | info, chunk :: next :: rest =>
    (handleStreamFormat info chunk).2 ++
      remaining usage (handleStreamFormat info chunk).1 (next :: rest)

theorem run_dataHandler (usage : Usage) (chunks : List ChatChunk) (info : ConvertInfo)
    (last : ChatChunk) :
    ∃ last' info' events,
      run dataHandler (some last, info) chunks = ((some last', info'), events) ∧
      events ++ (handleFinalResponse usage info' last').2 =
        remaining usage info (last :: chunks) := by
  induction chunks generalizing info last with
  | nil => exact ⟨last, info, [], rfl, rfl⟩
  | cons chunk _ ih =>
    obtain ⟨last', info', events, hrun, hevents⟩ := ih (handleStreamFormat info last).1 chunk
    refine ⟨last', info', (handleStreamFormat info last).2 ++ events, ?_, ?_⟩
    · rw [run_cons]
      simp only [dataHandler]
      rw [hrun]
    · rw [append_assoc, hevents]
      rfl

/-- Every chunk is converted once: the last by the final call, the others as they came. -/
theorem oaiStreamHandler_eq (info : ConvertInfo) (usage : Usage) (chunks : List ChatChunk) :
    oaiStreamHandler info usage chunks = remaining usage info chunks := by
  cases chunks with
  | nil => rfl
  | cons chunk chunks =>
    have hfirst : run dataHandler (none, info) (chunk :: chunks) =
        run dataHandler (some chunk, info) chunks := by
      rfl
    obtain ⟨last, info', events, hrun, hevents⟩ := run_dataHandler usage chunks info chunk
    unfold oaiStreamHandler
    rw [hfirst, hrun]
    exact hevents

theorem remaining_done {usage : Usage} {chunks : List ChatChunk} (h : info.done = true) :
    remaining usage info chunks = [] := by
  induction chunks generalizing info with
  | nil => rfl
  | cons chunk chunks ih =>
    cases chunks with
    | nil => simp [remaining, handleFinalResponse, streamResponseOpenAI2Claude, h]
    | cons =>
      have hnext : handleStreamFormat info chunk =
          ({ info with
            sendResponseCount := info.sendResponseCount + 1
            usage := chunk.usage.or info.usage }, []) := by
        simp [handleStreamFormat, streamResponseOpenAI2Claude, h]
      rw [remaining, hnext]
      exact ih h

/-- The state in which chunks after the first are read: no count is 1 any more when they are
converted. -/
structure Reading (info : ConvertInfo) (rest : List ChatChunk) : Prop where
  done : info.done = false
  started : 1 ≤ info.sendResponseCount
  notFirst : info.sendResponseCount = 1 → 2 ≤ rest.length
  offset : 0 ≤ info.toolCallMaxIndexOffset

section Rest

variable {info : ConvertInfo} {chunk next last : ChatChunk}
  {rest : List ChatChunk}

theorem isSome_or_or {a b : Option Usage} : (a.or (a.or b)).isSome = (b.isSome || a.isSome) := by
  cases a with
  | none | some => simp

/-- The last chunk is not converted as a first one, -/
theorem Reading.last_count (h : Reading info [chunk]) : info.sendResponseCount ≠ 1 := by
  intro hone
  have := h.notFirst hone
  simp at this

/-- and the others neither. -/
theorem Reading.next_count (h : Reading info rest) : info.sendResponseCount + 1 ≠ 1 := by
  have := h.started
  omega

theorem Reading.responds (h : Reading info rest) :
    Responds chunk { info with
      sendResponseCount := info.sendResponseCount + 1
      usage := chunk.usage.or info.usage } (handleStreamFormat info chunk) :=
  streamResponse_responds h.done h.next_count

theorem Reading.closes (h : Reading info rest)
    (hends : endsMessage (info.usage.isSome || chunk.usage.isSome) chunk = true) :
    (handleStreamFormat info chunk).1.done = true ∧
      ClosesMessage chunk.opensOk info (handleStreamFormat info chunk).2 := by
  rw [← isSome_or_or] at hends
  obtain ⟨hdone, body, info', reason, usage, hconverted, hevents⟩ := h.responds.ends h.offset hends
  exact ⟨hdone, body, info', reason, usage, hconverted.of_recount, hevents⟩

theorem Reading.step (h : Reading info (chunk :: next :: rest))
    (hends : endsMessage (info.usage.isSome || chunk.usage.isSome) chunk = false) :
    Reading (handleStreamFormat info chunk).1 (next :: rest) ∧
      (handleStreamFormat info chunk).1.usage.isSome =
        (info.usage.isSome || chunk.usage.isSome) ∧
      Converted chunk.opensOk info (handleStreamFormat info chunk).1
        (handleStreamFormat info chunk).2 := by
  rw [← isSome_or_or] at hends
  obtain ⟨hsame, hconverted⟩ := h.responds.continues h.offset hends
  refine ⟨⟨hsame.done.trans h.done, ?_, ?_, hconverted.emitted.offset⟩, ?_, hconverted.of_recount⟩
  · rw [hsame.sendResponseCount]
    exact Nat.le_add_left 1 _
  · intro hone
    rw [hsame.sendResponseCount] at hone
    exact absurd hone h.next_count
  · rw [hsame.usage, ← isSome_or_or]
    simp

theorem convertedRest_ok_cons {known : Bool} :
    (∀ c ∈ convertedRest known (chunk :: rest), c.delta.offsetsOk) ↔
      chunk.opensOk ∧
        (endsMessage (known || chunk.usage.isSome || rest.isEmpty) chunk = false →
          ∀ c ∈ convertedRest (known || chunk.usage.isSome) rest, c.delta.offsetsOk) := by
  rw [convertedRest, forall_mem_append]
  refine and_congr ?_ ?_
  · unfold opensOk
    split
    · rename_i hdefer
      simp [hdefer]
    · rename_i hdefer
      simp only [mem_singleton, forall_eq]
      exact ⟨Or.inr, fun h => h.resolve_left hdefer⟩
  · split
    · rename_i hends
      simp [hends]
    · rename_i hends
      rw [Bool.not_eq_true] at hends
      exact ⟨fun h _ => h, fun h => h hends⟩

theorem remaining_of_not_endsRest (usage : Usage) (h : Reading info rest)
    (hends : endsRest info.usage.isSome rest = false) :
    BlockEvents (remaining usage info rest) := by
  induction rest generalizing info with
  | nil => intro e he; simp [remaining] at he
  | cons chunk rest ih =>
    cases rest with
    | nil =>
      simp only [endsRest] at hends
      have hresponds : Responds chunk { info with usage := some usage } _ :=
        streamResponse_responds h.done h.last_count
      exact (hresponds.continues h.offset (by simpa using hends)).2.emitted.blocks
    | cons =>
      simp only [endsRest, isEmpty_cons, Bool.or_false, Bool.or_eq_false_iff] at hends
      obtain ⟨hchunk, hrest⟩ := hends
      obtain ⟨hreading, husage, hconverted⟩ := h.step hchunk
      refine hconverted.emitted.blocks.append (ih hreading ?_)
      rw [husage]
      simpa only [endsRest, Bool.or_eq_false_iff] using hrest

theorem remaining_of_endsRest (usage : Usage) (h : Reading info rest)
    (hends : endsRest info.usage.isSome rest = true) :
    ClosesMessage (∀ c ∈ convertedRest info.usage.isSome rest, c.delta.offsetsOk) info
      (remaining usage info rest) := by
  induction rest generalizing info with
  | nil => simp [endsRest] at hends
  | cons chunk rest ih =>
    cases rest with
    | nil =>
      simp only [endsRest, isEmpty_nil, Bool.or_true, Bool.or_false] at hends
      have hresponds : Responds chunk { info with usage := some usage } _ :=
        streamResponse_responds h.done h.last_count
      obtain ⟨-, body, info', reason, u, hconverted, hevents⟩ :=
        hresponds.ends h.offset (by simpa using hends)
      refine ⟨body, info', reason, u, ?_, hevents⟩
      refine Converted.congr (Converted.of_recount hconverted) ?_
      rw [convertedRest_ok_cons]
      simp [hends]
    | cons next rest =>
      by_cases hchunk : endsMessage (info.usage.isSome || chunk.usage.isSome) chunk = true
      · -- nothing is sent once the message is closed
        obtain ⟨hclosed, body, info', reason, u, hconverted, hevents⟩ := h.closes hchunk
        refine ⟨body, info', reason, u, hconverted.congr ?_, ?_⟩
        · rw [convertedRest_ok_cons]
          simp [hchunk]
        · rw [remaining, remaining_done hclosed, append_nil]
          exact hevents
      · rw [Bool.not_eq_true] at hchunk
        obtain ⟨hreading, husage, hconverted⟩ := h.step hchunk
        have hrest : endsRest (handleStreamFormat info chunk).1.usage.isSome
            (next :: rest) = true := by
          rw [husage]
          rw [endsRest, isEmpty_cons, Bool.or_false, hchunk] at hends
          exact hends
        obtain ⟨body, info', reason, u, hbody, hevents⟩ := ih hreading hrest
        refine ⟨_, info', reason, u, (hconverted.append hbody).congr ?_, ?_⟩
        · refine Iff.symm (convertedRest_ok_cons.trans ?_)
          rw [husage, isEmpty_cons]
          simp [hchunk]
        · rw [remaining, hevents, append_assoc, append_assoc, append_assoc]

end Rest

/-! ### The first chunk -/

/-- The info before anything was opened. -/
structure Fresh (info : ConvertInfo) : Prop where
  type : info.lastMessagesType = .none
  index : info.index = 0
  offset : info.toolCallMaxIndexOffset = 0

variable (delta : StreamDelta)

theorem converted_firstTool (h : Fresh info) :
    Converted True info (firstTool delta info).1 (firstTool delta info).2 := by
  have hoffset : 0 ≤ info.toolCallMaxIndexOffset := by rw [h.offset]
  unfold firstTool
  cases delta.toolCalls with
  | nil => exact converted_nil hoffset rfl
  | cons =>
    refine ⟨⟨?_, le_refl _, ?_, ?_⟩, fun _ => ?_, fun hnot => absurd trivial hnot⟩
    · intro e he
      rcases mem_cons.mp he with rfl | he
      · rfl
      split at he
      · rw [mem_singleton.mp he]
        rfl
      · simp at he
    · simp [ConvertInfo.floor, h.type, h.index]
    · intro i hi
      rcases mem_cons.mp hi with hi | hi
      · cases hi
      · split at hi
        · simp at hi
        · simp at hi
    intro i hi
    rcases hi with hi | ⟨hopen, -⟩
    · obtain ⟨block, hblock⟩ := start_mem_of_unstopped hi
      have hzero : i = 0 := by
        rcases mem_cons.mp hblock with heq | hmem
        · exact (ClaudeEvent.contentBlockStart.inj heq).1
        · split at hmem
          · simp at hmem
          · simp at hmem
      simp [ConvertInfo.Opened, hzero]
    · rw [ConvertInfo.Opened, h.type] at hopen
      exact hopen.elim

theorem firstTool_type (h : Fresh info) (kind : ContentKind) :
    (firstTool delta info).1.lastMessagesType ≠ kind.messageType := by
  unfold firstTool
  cases delta.toolCalls with
  | nil =>
    rw [h.type]
    cases kind with
    | text | thinking => simp [ContentKind.messageType]
  | cons => exact (messageType_ne_tools kind).symm

theorem converted_firstContent (hoffset : 0 ≤ info.toolCallMaxIndexOffset)
    (htype : ∀ kind : ContentKind, info.lastMessagesType ≠ kind.messageType) :
    Converted True info (firstContent delta info).1 (firstContent delta info).2 := by
  have hopen : ∀ kind piece, Converted True info (startContent kind piece info).1
      (startContent kind piece info).2 := by
    intro kind piece
    unfold startContent
    rw [if_neg (htype kind)]
    exact ⟨emitted_openContent hoffset, fun _ => carried_openContent,
      fun hnot => absurd trivial hnot⟩
  unfold firstContent
  split
  · exact hopen _ _
  · split
    · exact hopen _ _
    · exact converted_nil hoffset rfl

def firstBlocks : Emit := (firstTool delta).andThen (firstContent delta)

theorem converted_firstBlocks (h : Fresh info) :
    Converted True info (firstBlocks delta info).1 (firstBlocks delta info).2 := by
  have htool := converted_firstTool delta h
  have hcontent := converted_firstContent delta htool.emitted.offset (firstTool_type delta h)
  exact (htool.append hcontent).congr (by simp)

theorem sameMessage_firstBlocks (delta : StreamDelta) :
    SameMessage info (firstBlocks delta info).1 := by
  have htool : SameMessage info (firstTool delta info).1 := by
    unfold firstTool
    cases delta.toolCalls with
    | nil => exact SameMessage.refl
    | cons => exact ⟨rfl, rfl, rfl⟩
  have hstart : ∀ kind piece info,
      SameMessage info (startContent kind piece info).1 := by
    intro kind piece info
    unfold startContent
    split
    · exact SameMessage.refl
    · exact sameMessage_openContent
  have hcontent : SameMessage (firstTool delta info).1
      (firstContent delta (firstTool delta info).1).1 := by
    unfold firstContent
    split
    · exact hstart _ _ _
    · split
      · exact hstart _ _ _
      · exact SameMessage.refl
  exact htool.trans hcontent

/-! ### Whole streams -/

section Stream

def firstInfo (tokens : Int) (first : ChatChunk) : ConvertInfo :=
  { estimatePromptTokens := tokens, sendResponseCount := 1, usage := first.usage.or none }

def opening (tokens : Int) (first : ChatChunk) : ConvertInfo × List ClaudeEvent :=
  firstBlocks first.delta (firstInfo tokens first)

variable {tokens : Int} {usage : Usage} {first next : ChatChunk}
  {rest : List ChatChunk}

theorem fresh_firstInfo (tokens : Int) (first : ChatChunk) : Fresh (firstInfo tokens first) :=
  ⟨rfl, rfl, rfl⟩

theorem converted_opening (tokens : Int) (first : ChatChunk) :
    Converted True (firstInfo tokens first) (opening tokens first).1 (opening tokens first).2 :=
  converted_firstBlocks first.delta (fresh_firstInfo tokens first)

theorem sameMessage_opening (tokens : Int) (first : ChatChunk) :
    SameMessage (firstInfo tokens first) (opening tokens first).1 :=
  sameMessage_firstBlocks first.delta

theorem opening_usage (tokens : Int) (first : ChatChunk) :
    (opening tokens first).1.usage = first.usage := by
  rw [(sameMessage_opening tokens first).usage]
  simp [firstInfo]

theorem handleStreamFormat_first :
    handleStreamFormat { estimatePromptTokens := tokens } first =
      ((finishFirst first (opening tokens first).1).1,
        .messageStart first.id first.model { inputTokens := tokens, outputTokens := 0 } ::
          ((opening tokens first).2 ++ (finishFirst first (opening tokens first).1).2)) := by
  refine Prod.ext rfl ?_
  show (firstResponse first _).2 = _
  simp [firstResponse, Emit.andThen, startMessage, firstBlocks, opening, firstInfo]

theorem handleStreamFormat_unfinished (hfinished : first.isFinished = false) :
    handleStreamFormat { estimatePromptTokens := tokens } first =
      ((opening tokens first).1,
        .messageStart first.id first.model { inputTokens := tokens, outputTokens := 0 } ::
          (opening tokens first).2) := by
  rw [handleStreamFormat_first, finishFirst, if_neg (by simp [hfinished]), append_nil]

/-- **A stream that is closed once is completed, up to negative indices.** -/
theorem completed_iff_of_closing {ok : Prop} {id model : String}
    {start : ClaudeUsage} {events : List ClaudeEvent} (h : ClosesMessage ok info events) :
    Completed (.messageStart id model start :: events) ↔ ok := by
  obtain ⟨body, info', reason, u, hconverted, rfl⟩ := h
  have hbody := hconverted.emitted.blocks
  have hstops := blockEvents_stopOpenBlocks info'
  constructor
  · intro hcompleted
    by_contra hnot
    -- a block below the floor is not among those that are stopped at the end
    obtain ⟨i, hi, hlt⟩ := hconverted.stranded hnot
    refine hcompleted.stopped i ?_
    refine unstopped_append.mpr (Or.inl ⟨unstopped_append.mpr (Or.inl ⟨hi, ?_⟩), by simp⟩)
    intro hstop
    exact absurd (Opened.floor_le (mem_stopOpenBlocks.mp hstop)) (by omega)
  intro hok
  refine ⟨⟨id, model, start, _, rfl, ?_⟩, ⟨.messageStart id model start ::
    (body ++ stopOpenBlocks info'), reason, u, by simp, ?_⟩, ?_⟩
  · intro id' model' start' hmem
    rcases mem_append.mp hmem with hmem | hmem
    · exact (hbody.append hstops).notMem rfl hmem
    · simp at hmem
  · intro hmem
    rcases mem_cons.mp hmem with heq | hmem
    · exact nomatch heq
    · exact (hbody.append hstops).notMem rfl hmem
  intro i hi
  rcases unstopped_append.mp hi with ⟨hi, -⟩ | hi
  · rcases unstopped_append.mp hi with ⟨hi, hstop⟩ | hi
    · exact hstop (mem_stopOpenBlocks.mpr (hconverted.carried hok i (Or.inl hi)))
    · exact not_unstopped_stopOpenBlocks info' i hi
  · simp [Unstopped] at hi

theorem not_completed_single :
    ¬ Completed (remaining usage { estimatePromptTokens := tokens } [first]) := by
  intro hcompleted
  obtain ⟨id, model, start, rest, heq, -⟩ := hcompleted.starts
  have hmem : .messageStart id model start ∈
      remaining usage { estimatePromptTokens := tokens } [first] := by
    rw [heq]
    exact mem_cons_self ..
  rw [remaining] at hmem
  -- the count is 0 in the final call, so this is no first chunk
  have hresponds : Responds first { estimatePromptTokens := tokens, usage := some usage } _ :=
    streamResponse_responds rfl (by simp)
  cases hends : endsMessage (first.usage.or (some usage)).isSome first with
  | true =>
    obtain ⟨-, body, info', reason, u, hconverted, hevents⟩ := hresponds.ends (le_refl _) hends
    have hevents' : (handleFinalResponse usage { estimatePromptTokens := tokens } first).2 =
        body ++ stopOpenBlocks info' ++ [.messageDelta reason u, .messageStop] := hevents
    rw [hevents'] at hmem
    rcases mem_append.mp hmem with hmem | hmem
    · exact (hconverted.emitted.blocks.append (blockEvents_stopOpenBlocks info')).notMem rfl hmem
    · simp at hmem
  | false =>
    exact (hresponds.continues (le_refl _) hends).2.emitted.blocks.notMem rfl hmem

theorem not_completed_pair (hfinished : first.isFinished = false) :
    ¬ Completed (remaining usage { estimatePromptTokens := tokens } [first, next]) := by
  intro hcompleted
  obtain ⟨id, model, start, rest, heq, hrest⟩ := hcompleted.starts
  have hsame := sameMessage_opening tokens first
  -- the count is still 1 in the final call, so the last chunk starts the message again
  have hagain : (handleFinalResponse usage (opening tokens first).1 next).2 =
      (firstResponse next { (opening tokens first).1 with usage := some usage }).2 := by
    have hcount : (opening tokens first).1.sendResponseCount = 1 := hsame.sendResponseCount
    have hdone : (opening tokens first).1.done = false := hsame.done
    simp [handleFinalResponse, streamResponseOpenAI2Claude, hcount, hdone]
  rw [remaining, remaining, handleStreamFormat_unfinished hfinished, hagain] at heq
  obtain ⟨-, hrest'⟩ := List.cons.inj heq
  have hmem : .messageStart next.id next.model
      { inputTokens := (opening tokens first).1.estimatePromptTokens, outputTokens := 0 } ∈ rest := by
    rw [← hrest']
    exact mem_append_right _ (mem_cons_self ..)
  exact hrest _ _ _ hmem

theorem remaining_of_first_finished
    (hfinished : first.isFinished = true) :
    remaining usage { estimatePromptTokens := tokens } (first :: next :: rest) =
      .messageStart first.id first.model { inputTokens := tokens, outputTokens := 0 } ::
        ((opening tokens first).2 ++
          (closeMessage first (openAIFinishReasonToClaudeStopReason first.finishReason)
            { (opening tokens first).1 with finishReason := first.finishReason }).2) := by
  have hdone : (finishFirst first (opening tokens first).1).1.done = true := by
    rw [finishFirst, if_pos hfinished]
    rfl
  rw [remaining, handleStreamFormat_first, remaining_done hdone, append_nil, finishFirst,
    if_pos hfinished]

theorem completed_iff_of_first_finished
    (hfinished : first.isFinished = true) :
    Completed (remaining usage { estimatePromptTokens := tokens } (first :: next :: rest)) ↔
      first.usage.isSome = true := by
  have hconverted := converted_opening tokens first
  rw [remaining_of_first_finished hfinished]
  cases husage : first.usage with
  | some =>
    have hknown : (first.usage.or { (opening tokens first).1 with
        finishReason := first.finishReason }.usage).isSome := by simp [husage]
    obtain ⟨u', hevents⟩ := closeMessage_of_usage
      (openAIFinishReasonToClaudeStopReason first.finishReason) hknown
    rw [completed_iff_of_closing ⟨_, (opening tokens first).1, _, u', hconverted, by
      rw [hevents, append_assoc]; rfl⟩]
    simp
  | none =>
    -- without a usage there is no `message_delta` at all
    refine ⟨fun h => ?_, fun h => nomatch h⟩
    obtain ⟨body, reason, u, heq, -⟩ := h.ends
    have hmem : .messageDelta reason u ∈ body ++ [.messageDelta reason u, .messageStop] := by
      simp
    rw [← heq, closeMessage] at hmem
    have hblocks := hconverted.emitted.blocks.append (blockEvents_stopOpenBlocks
      (opening tokens first).1)
    rcases mem_cons.mp hmem with hmem | hmem
    · exact nomatch hmem
    rw [opening_usage, husage, Option.or_none, Option.elim_none, append_nil, ← append_assoc] at hmem
    rcases mem_append.mp hmem with hmem | hmem
    · exact absurd hmem (hblocks.notMem rfl)
    · exact nomatch hmem

theorem reading_rest (tokens : Int) (usage : Usage) (hfinished : first.isFinished = false)
    (hrest : 2 ≤ rest.length) :
    Reading (opening tokens first).1 rest ∧
      (opening tokens first).1.usage.isSome = first.usage.isSome ∧
      remaining usage { estimatePromptTokens := tokens } (first :: rest) =
        .messageStart first.id first.model { inputTokens := tokens, outputTokens := 0 } ::
          ((opening tokens first).2 ++ remaining usage (opening tokens first).1 rest) := by
  have hsame := sameMessage_opening tokens first
  refine ⟨⟨hsame.done, hsame.sendResponseCount.ge, fun _ => hrest,
    (converted_opening tokens first).emitted.offset⟩, by rw [opening_usage], ?_⟩
  cases rest with
  | nil => simp at hrest
  | cons =>
    rw [remaining, handleStreamFormat_unfinished hfinished, cons_append]

theorem completed_iff_of_rest (hfinished : first.isFinished = false)
    (hrest : 2 ≤ rest.length) :
    Completed (remaining usage { estimatePromptTokens := tokens } (first :: rest)) ↔
      endsRest first.usage.isSome rest = true ∧
        ∀ chunk ∈ convertedRest first.usage.isSome rest, chunk.delta.offsetsOk := by
  have hconverted := converted_opening tokens first
  obtain ⟨hreading, husage, hevents⟩ := reading_rest tokens usage hfinished hrest
  rw [hevents, ← husage]
  cases hends : endsRest (opening tokens first).1.usage.isSome rest with
  | true =>
    obtain ⟨body, info', reason, u, hbody, hrest'⟩ := remaining_of_endsRest usage hreading hends
    rw [completed_iff_of_closing ⟨_, info', reason, u, hconverted.append hbody,
      by rw [hrest']; simp⟩]
    simp
  | false =>
    refine ⟨fun h => ?_, fun h => nomatch h.1⟩
    have hblocks := hconverted.emitted.blocks.append
      (remaining_of_not_endsRest usage hreading hends)
    obtain ⟨body, reason, u, heq, -⟩ := h.ends
    have hmem : .messageStop ∈ body ++ [.messageDelta reason u, .messageStop] := by simp
    rw [← heq] at hmem
    rcases mem_cons.mp hmem with hmem | hmem
    · exact nomatch hmem
    · exact absurd hmem (hblocks.notMem rfl)

end Stream

/-- **A converted stream is completed exactly if some chunk closes it.** A stream of one chunk never
is, and one of two chunks only if the first closes it. Otherwise the message is closed by a chunk
without choices once a usage is known, or by a finish reason in a chunk that has a usage itself. -/
theorem stream_completed_iff (tokens : Int) (usage : Usage) (chunks : List ChatChunk) :
    Completed (oaiStreamHandler { estimatePromptTokens := tokens } usage chunks) ↔
      streamEnds chunks = true ∧ ∀ chunk ∈ convertedChunks chunks, chunk.delta.offsetsOk := by
  rw [oaiStreamHandler_eq]
  match chunks with
  | [] =>
    refine ⟨fun h => ?_, fun h => nomatch h.1⟩
    obtain ⟨id, model, start, rest, heq, -⟩ := h.starts
    exact nomatch heq
  | [first] =>
    refine ⟨fun h => absurd h not_completed_single, fun h => absurd h.1 ?_⟩
    simp [streamEnds]
  | first :: next :: rest =>
    cases hfinished : first.isFinished with
    | true =>
      rw [completed_iff_of_first_finished hfinished]
      simp [streamEnds, convertedChunks, hfinished]
    | false =>
      match rest with
      | [] =>
        refine ⟨fun h => absurd h (not_completed_pair hfinished), fun h => absurd h.1 ?_⟩
        simp [streamEnds, hfinished]
      | third :: rest =>
        rw [completed_iff_of_rest hfinished (by simp)]
        simp [streamEnds, convertedChunks, hfinished]

/-! ### Ordinary streams that are not completed -/

def textChunk (text : String) : ChatChunk := { choices := [{ delta := { content := some text } }] }

def finishChunk : ChatChunk := { choices := [{ finishReason := some "stop" }] }

def billedUsage : Usage := { promptTokens := 5, completionTokens := 2 }

/-- **A finish reason without a usage leaves the message open.** Two chunks start the message twice,
one does not start it. -/
theorem finished_stream_left_open :
    oaiStreamHandler {} billedUsage [textChunk "a", textChunk "b", finishChunk] =
      [.messageStart "" "" { inputTokens := 0, outputTokens := 0 },
        .contentBlockStart 0 (.text ""), .contentBlockDelta 0 (.text "a"),
        .contentBlockDelta 0 (.text "b")] ∧
    ¬ Completed (oaiStreamHandler {} billedUsage [textChunk "a", textChunk "b", finishChunk]) ∧
    ¬ Completed (oaiStreamHandler {} billedUsage [textChunk "a", finishChunk]) ∧
    ¬ Completed (oaiStreamHandler {} billedUsage [textChunk "a"]) := by
  have hevents : oaiStreamHandler {} billedUsage [textChunk "a", textChunk "b", finishChunk] =
      [.messageStart "" "" { inputTokens := 0, outputTokens := 0 },
        .contentBlockStart 0 (.text ""), .contentBlockDelta 0 (.text "a"),
        .contentBlockDelta 0 (.text "b")] := by decide +kernel
  refine ⟨hevents, fun h => ?_, fun h => ?_, fun h => ?_⟩
  · obtain ⟨body, reason, u, heq, -⟩ := h.ends
    have hmem : .messageStop ∈ body ++ [.messageDelta reason u, .messageStop] := by simp
    rw [← heq, hevents] at hmem
    exact nomatch hmem
  · exact not_completed_pair (by decide) h
  · exact not_completed_single h

end ApiGateway
