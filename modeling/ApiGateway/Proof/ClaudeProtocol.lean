import ApiGateway.Proof.ClaudeStream

/-!
# The block protocol of Claude streams

A Claude client follows the blocks of a message: they are started one index after the other, a
delta goes to an open block of its own kind, only open blocks are stopped, and nothing comes after
`message_stop`. `BlockState.accept` is that client.

As long as tool calls are numbered 0, 1, 2, … and come in one run, what the converter remembers is
all there is to know about the client (`ConvertInfo.view`). After text or reasoning the base has
moved, while an index still counts from the start; and of several tool calls in the first chunk only
the first is announced.
-/

namespace ApiGateway

open List Function ConvertInfo ClaudeEvent

variable {i n n' : Int} {pieces : List (Int × ToolCall)} {info : ConvertInfo}
  {piece : String} {delta : StreamDelta} {ended : Bool} {chunk : ChatChunk}
variable {seen : List Int} {rest : List ChatChunk}

/-! ### The client -/

inductive BlockKind where
  | text
  | thinking
  | toolUse
deriving DecidableEq

def ClaudeBlock.kind : ClaudeBlock → BlockKind
  | .text _ => .text
  | .thinking _ => .thinking
  | .toolUse _ _ => .toolUse

def ClaudeDelta.kind : ClaudeDelta → BlockKind
  | .text _ => .text
  | .thinking _ => .thinking
  | .signature _ => .thinking
  | .inputJson _ => .toolUse

@[ext]
structure BlockState where
  next : Int := 0
  opened : Int → Option BlockKind := fun _ => none
  stopped : Bool := false

variable {s s' : BlockState}

def BlockState.accept (s : BlockState) (e : ClaudeEvent) : Option BlockState :=
  if s.stopped then none
  else
    match e with
    | .contentBlockStart i block =>
      if i = s.next then
        some { s with
          next := s.next + 1
          opened := update s.opened i (some block.kind) }
      else none
    | .contentBlockDelta i delta => if s.opened i = some delta.kind then some s else none
    | .contentBlockStop i =>
      if (s.opened i).isSome then some { s with opened := update s.opened i none }
      else none
    | .messageStop => some { s with stopped := true }
    | .messageStart _ _ _ | .messageDelta _ _ | .ping => some s

theorem accept_start {block : ClaudeBlock}
    (hs : s.stopped = false) (hi : i = s.next) (hs' : s'.stopped = false)
    (hnext : s'.next = s.next + 1)
    (hopened : ∀ j, s'.opened j = if j = i then some block.kind else s.opened j) :
    s.accept (.contentBlockStart i block) = some s' := by
  simp only [BlockState.accept, hs]
  rw [if_pos hi]
  refine congrArg some (BlockState.ext hnext.symm ?_ hs'.symm)
  funext j
  rw [hopened j]
  exact update_apply s.opened i _ j

theorem accept_delta {delta : ClaudeDelta}
    (hs : s.stopped = false) (hi : s.opened i = some delta.kind) :
    s.accept (.contentBlockDelta i delta) = some s := by
  simp only [BlockState.accept, hs, Bool.false_eq_true, if_false]
  rw [if_pos hi]

theorem accept_stop (hs : s.stopped = false)
    (hi : (s.opened i).isSome) (hs' : s'.stopped = false) (hnext : s'.next = s.next)
    (hopened : ∀ j, s'.opened j = if j = i then none else s.opened j) :
    s.accept (.contentBlockStop i) = some s' := by
  simp only [BlockState.accept, hs]
  rw [if_pos hi]
  refine congrArg some (BlockState.ext hnext.symm ?_ hs'.symm)
  funext j
  rw [hopened j]
  exact update_apply s.opened i _ j

/-- The client follows the events to their end. -/
def FollowsProtocol (events : List ClaudeEvent) : Prop :=
  (events.foldlM BlockState.accept {}).isSome

/-! ### Tool calls of a chat stream -/

/-- Every index is introduced by a piece that carries the id and the name, no other piece carries
the name, and indices come in increasing order. `seen` are those introduced so far. -/
def introducedOnce (seen : List Int) : List (Int × ToolCall) → Bool
  | [] => true
  | (i, call) :: rest =>
    (if i ∈ seen then call.name == ""
      else call.id != "" && call.name != "" && seen.all (· < i)) &&
    introducedOnce (i :: seen) rest

/-- Reading a piece after the indices `0, …, n - 1` were introduced. -/
def readTool (n : Int) (piece : Int × ToolCall) : Option Int :=
  if piece.1 = n ∧ piece.2.id ≠ "" ∧ piece.2.name ≠ "" then some (n + 1)
  else if 0 ≤ piece.1 ∧ piece.1 < n ∧ piece.2.name = "" then some n
  else none

def ChatChunk.hasTools (chunk : ChatChunk) : Bool := !chunk.delta.toolCalls.isEmpty

/-- The chunk carries text or reasoning. -/
def ChatChunk.speaks (chunk : ChatChunk) : Bool :=
  chunk.delta.getReasoningContent != "" || chunk.delta.getContentString != ""

/-- No tool calls come after text or reasoning that came with or after tool calls. -/
def oneToolRun : (seen ended : Bool) → List ChatChunk → Bool
  | _, _, [] => true
  | seen, ended, chunk :: rest =>
    (!chunk.hasTools || !ended) &&
      oneToolRun (seen || chunk.hasTools)
        (ended || ((seen || chunk.hasTools) && chunk.speaks)) rest

/-- The chunk's conversion is put off, and its delta with it. -/
def ChatChunk.defers (chunk : ChatChunk) : Bool := chunk.isFinished && chunk.usage.isNone

/-- The chunks that are not converted as a first one. The only chunk of a stream is one. -/
def laterChunks : List ChatChunk → List ChatChunk
  | [] => []
  | [chunk] => [chunk]
  | _ :: rest => rest

/-- The streams the converter's summary is made for. -/
structure SteadyTools (chunks : List ChatChunk) : Prop where
  /-- The indices are `0, 1, 2, …` without gaps. -/
  gapless : ∀ i ∈ (chatToolPieces chunks).map Prod.fst,
    0 ≤ i ∧ ∀ j ∈ List.range i.toNat, (j : Int) ∈ (chatToolPieces chunks).map Prod.fst
  /-- Tool calls come in one run. -/
  oneRun : oneToolRun false false chunks = true
  /-- The first of several chunks carries one tool call at most. -/
  first : ∀ chunk ∈ chunks.head?, 2 ≤ chunks.length → chunk.delta.toolCalls.length ≤ 1
  /-- The second of two chunks comes after the message was closed. -/
  second : ∀ chunk ∈ chunks.head?, chunks.length = 2 → chunk.isFinished = true
  /-- No later chunk with a finish reason but no usage carries tool calls. -/
  converted : ∀ chunk ∈ laterChunks chunks, chunk.defers = true → chunk.hasTools = false

/-! ### Indices in order -/

theorem introducedOnce_lt {j : Int}
    (h : introducedOnce seen pieces = true) (hi : i ∈ seen) (hj : j ∉ seen)
    (hmem : j ∈ pieces.map Prod.fst) : i < j := by
  induction pieces generalizing seen with
  | nil => simp at hmem
  | cons piece _ ih =>
    rw [introducedOnce, Bool.and_eq_true] at h
    by_cases hpiece : j = piece.1
    · subst hpiece
      have hnew := h.1
      rw [if_neg hj, Bool.and_eq_true, all_eq_true] at hnew
      exact of_decide_eq_true (hnew.2 i hi)
    refine ih h.2 (mem_cons_of_mem _ hi) ?_ ?_
    · rw [mem_cons, not_or]
      exact ⟨hpiece, hj⟩
    · rcases mem_cons.mp hmem with heq | hmem
      · exact absurd heq hpiece
      · exact hmem

/-- Introduced once, in order and without gaps, the indices can be read off a counter. -/
theorem foldlM_readTool_isSome {all : List (Int × ToolCall)} (hgap : ∀ i ∈ all.map Prod.fst,
      0 ≤ i ∧ ∀ j ∈ List.range i.toNat, (j : Int) ∈ all.map Prod.fst)
    (hall : ∀ i, i ∈ all.map Prod.fst ↔ i ∈ seen ∨ i ∈ pieces.map Prod.fst)
    (hseen : ∀ i, i ∈ seen ↔ 0 ≤ i ∧ i < n) (hn : 0 ≤ n) (h : introducedOnce seen pieces = true) :
    (pieces.foldlM readTool n).isSome := by
  induction pieces generalizing seen n with
  | nil => rfl
  | cons piece rest ih =>
    rw [introducedOnce, Bool.and_eq_true] at h
    obtain ⟨hpiece, hrest⟩ := h
    have hall' : ∀ i, i ∈ all.map Prod.fst ↔ i ∈ piece.1 :: seen ∨ i ∈ rest.map Prod.fst := by
      intro i
      rw [hall i, map_cons, mem_cons, mem_cons]
      tauto
    rw [foldlM_cons]
    by_cases hold : piece.1 ∈ seen
    · rw [if_pos hold, beq_iff_eq] at hpiece
      obtain ⟨hlo, hhi⟩ := (hseen piece.1).mp hold
      have hread : readTool n piece = some n := by
        unfold readTool
        rw [if_neg (by omega), if_pos ⟨hlo, hhi, hpiece⟩]
      rw [hread]
      refine ih hall' (fun i => ?_) hn hrest
      rw [mem_cons, hseen i]
      constructor
      · rintro (rfl | h)
        · exact ⟨hlo, hhi⟩
        · exact h
      · exact Or.inr
    rw [if_neg hold, Bool.and_eq_true, Bool.and_eq_true, bne_iff_ne, bne_iff_ne] at hpiece
    have hmem : piece.1 ∈ all.map Prod.fst := (hall _).mpr (Or.inr (by simp))
    have hle : n ≤ piece.1 := by
      by_contra hlt
      exact hold ((hseen _).mpr ⟨(hgap _ hmem).1, by omega⟩)
    -- a gap would have to be filled later, but later indices are larger
    have heq : piece.1 = n := by
      by_contra hne
      have hgapn : n ∈ all.map Prod.fst := by
        have := (hgap _ hmem).2 n.toNat (mem_range.mpr (by omega))
        rwa [Int.toNat_of_nonneg hn] at this
      have hnotSeen : n ∉ piece.1 :: seen := by
        rw [mem_cons, not_or, hseen n]
        exact ⟨fun h => hne h.symm, by omega⟩
      have hlater := ((hall' n).mp hgapn).resolve_left hnotSeen
      have := introducedOnce_lt hrest (mem_cons_self ..) hnotSeen hlater
      omega
    have hread : readTool n piece = some (n + 1) := by
      unfold readTool
      rw [if_pos ⟨heq, hpiece.1.1, hpiece.1.2⟩]
    rw [hread]
    refine ih hall' (fun i => ?_) (by omega) hrest
    rw [mem_cons, hseen i]
    omega

theorem readTool_of_introduced {chunks : List ChatChunk}
    (hintro : introducedOnce [] (chatToolPieces chunks) = true)
    (hgap : ∀ i ∈ (chatToolPieces chunks).map Prod.fst, 0 ≤ i ∧
      ∀ j ∈ List.range i.toNat, (j : Int) ∈ (chatToolPieces chunks).map Prod.fst) :
    ((chatToolPieces chunks).foldlM readTool 0).isSome := by
  refine foldlM_readTool_isSome hgap (fun i => ?_) (fun i => ?_) (le_refl 0) hintro
  · simp
  · simp only [not_mem_nil, false_iff]
    omega

theorem readTool_cases {piece : Int × ToolCall} (h : readTool n piece = some n') :
    (piece.1 = n ∧ piece.2.id ≠ "" ∧ piece.2.name ≠ "" ∧ n' = n + 1) ∨
      (0 ≤ piece.1 ∧ piece.1 < n ∧ piece.2.name = "" ∧ n' = n) := by
  unfold readTool at h
  split at h
  · rename_i hnew
    exact Or.inl ⟨hnew.1, hnew.2.1, hnew.2.2, (Option.some.inj h).symm⟩
  split at h
  · rename_i hold
    exact Or.inr ⟨hold.1, hold.2.1, hold.2.2, (Option.some.inj h).symm⟩
  · cases h

/-! ### The client's state -/

/-- A client with `n` tool calls open from `base` on. -/
def toolView (base n : Int) : BlockState where
  next := base + n
  opened := fun i => if base ≤ i ∧ i < base + n then some .toolUse else none

/-- A client with one block of content open. -/
def contentView (index : Int) (kind : BlockKind) : BlockState where
  next := index + 1
  opened := fun i => if i = index then some kind else none

/-- What the converter's summary says of the client. -/
def ConvertInfo.view (info : ConvertInfo) : BlockState :=
  match info.lastMessagesType with
  | .none => toolView info.index 0
  | .text => contentView info.index .text
  | .thinking => contentView info.index .thinking
  | .tools => toolView info.toolCallBaseIndex (info.toolCallMaxIndexOffset + 1)

def ContentKind.blockKind : ContentKind → BlockKind
  | .text => .text
  | .thinking => .thinking

theorem ContentKind.kind_block (kind : ContentKind) : kind.block.kind = kind.blockKind := by
  cases kind with
  | text | thinking => rfl

theorem ContentKind.kind_delta (kind : ContentKind) (piece : String) :
    (kind.delta piece).kind = kind.blockKind := by
  cases kind with
  | text | thinking => rfl

variable {kind : ContentKind}

theorem view_content (h : info.lastMessagesType = kind.messageType) :
    info.view = contentView info.index kind.blockKind := by
  unfold view
  rw [h]
  cases kind with
  | text | thinking => rfl

theorem accept_stops (base : Int) (n : Nat) (hstopped : s.stopped = false)
    (hopened : ∀ k : Nat, k < n → (s.opened (base + k)).isSome) :
    ((List.range n).map fun (k : Nat) => contentBlockStop (base + k)).foldlM
        BlockState.accept s =
      some { s with
        opened := fun i => if base ≤ i ∧ i < base + n then none else s.opened i } := by
  induction n with
  | zero =>
    refine congrArg some (BlockState.ext rfl ?_ rfl)
    funext i
    exact (if_neg (by omega)).symm
  | succ n ih =>
    rw [range_succ, map_append, foldlM_append, ih fun k hk => hopened k (by omega)]
    have hlast : BlockState.accept
        { s with opened := fun i => if base ≤ i ∧ i < base + n then none else s.opened i }
        (.contentBlockStop (base + n)) =
        some { s with
          opened := fun i => if base ≤ i ∧ i < base + (n + 1 : Nat) then none
            else s.opened i } := by
      refine accept_stop hstopped ?_ hstopped rfl fun j => ?_
      · dsimp only
        rw [if_neg (by omega)]
        exact hopened n (by omega)
      · dsimp only
        split_ifs
        all_goals first | rfl | omega
    simp [hlast]

/-- **Stopping the open blocks leaves none.** -/
theorem accept_stopOpenBlocks (hoffset : 0 ≤ info.toolCallMaxIndexOffset) :
    (stopOpenBlocks info).foldlM BlockState.accept info.view =
      some (stopOpenBlocksAndAdvance info).1.view := by
  have hcontent : ∀ kind, (contentView info.index kind).accept (.contentBlockStop info.index) =
      some (toolView (info.index + 1) 0) := by
    intro kind
    refine accept_stop rfl (by simp [contentView]) rfl (by simp [contentView, toolView]) ?_
    intro j
    simp only [contentView, toolView]
    split_ifs
    all_goals first | rfl | omega
  unfold stopOpenBlocks stopOpenBlocksAndAdvance
  cases htype : info.lastMessagesType with
  | none => rfl
  | text | thinking =>
    simp only [view, htype, foldlM_cons, hcontent]
    rfl
  | tools =>
    simp only [view, htype]
    rw [accept_stops info.toolCallBaseIndex (info.toolCallMaxIndexOffset + 1).toNat rfl]
    · simp only [toolView, Option.some.injEq, BlockState.mk.injEq, and_true]
      refine ⟨by omega, ?_⟩
      funext i
      by_cases hi : info.toolCallBaseIndex ≤ i ∧
          i < info.toolCallBaseIndex + (info.toolCallMaxIndexOffset + 1)
      · rw [if_pos (by omega), if_neg (by omega)]
      · rw [if_neg (by omega), if_neg hi, if_neg (by omega)]
    · intro k hk
      simp only [toolView]
      rw [if_pos (by omega)]
      rfl

/-! ### Content -/

theorem accept_block {base : Int} :
    [contentBlockStart base kind.block,
        .contentBlockDelta base (kind.delta piece)].foldlM BlockState.accept (toolView base 0) =
      some (contentView base kind.blockKind) := by
  have hstart : (toolView base 0).accept (.contentBlockStart base kind.block) =
      some (contentView base kind.blockKind) := by
    refine accept_start rfl (by simp [toolView]) rfl (by simp [contentView, toolView]) ?_
    intro j
    simp only [contentView, toolView, ContentKind.kind_block]
    split_ifs
    all_goals first | rfl | omega
  have hdelta : (contentView base kind.blockKind).accept
      (.contentBlockDelta base (kind.delta piece)) = some (contentView base kind.blockKind) := by
    refine accept_delta rfl ?_
    simp [contentView, ContentKind.kind_delta]
  rw [foldlM_cons, hstart]
  simp [hdelta]

theorem accept_openContent (hoffset : 0 ≤ info.toolCallMaxIndexOffset) :
    (openContent kind piece info).2.foldlM BlockState.accept info.view =
      some (openContent kind piece info).1.view := by
  have hnone : (stopOpenBlocksAndAdvance info).1.view =
      toolView (stopOpenBlocksAndAdvance info).1.index 0 := by
    unfold view
    rw [stopOpenBlocksAndAdvance_type]
  have hview : (openContent kind piece info).1.view =
      contentView (stopOpenBlocksAndAdvance info).1.index kind.blockKind := view_content rfl
  rw [hview]
  unfold openContent
  rw [foldlM_append, stopOpenBlocksAndAdvance_events, accept_stopOpenBlocks hoffset, hnone]
  exact accept_block

theorem accept_continueContent (hoffset : 0 ≤ info.toolCallMaxIndexOffset) :
    (continueContent kind piece info).2.foldlM BlockState.accept info.view =
      some (continueContent kind piece info).1.view := by
  unfold continueContent
  split
  · rename_i htype
    rw [view_content htype, foldlM_cons, accept_delta rfl (by
      simp [contentView, ContentKind.kind_delta])]
    rfl
  · exact accept_openContent hoffset

/-! ### Tool calls -/

theorem accept_toolEvents (base : Int) {piece : Int × ToolCall} (hn : 0 ≤ n)
    (h : readTool n piece = some n') :
    (toolEvents base piece.1 piece.2).foldlM BlockState.accept (toolView base n) =
      some (toolView base n') := by
  have hdelta : ∀ m i : Int, 0 ≤ i → i < m → (if piece.2.arguments ≠ "" then
          [contentBlockDelta (base + i) (.inputJson piece.2.arguments)]
        else []).foldlM BlockState.accept (toolView base m) = some (toolView base m) := by
    intro m i hlo hhi
    split
    · have hopen : (toolView base m).opened (base + i) = some .toolUse := by
        simp only [toolView]
        rw [if_pos (by omega)]
      rw [foldlM_cons, accept_delta rfl hopen]
      rfl
    · rfl
  unfold toolEvents
  rw [foldlM_append]
  rcases readTool_cases h with ⟨hi, -, hname, hn'⟩ | ⟨hlo, hhi, hname, hn'⟩
  · -- a new tool call takes the next index
    have hstart : (toolView base n).accept
        (.contentBlockStart (base + piece.1) (.toolUse piece.2.id piece.2.name)) =
        some (toolView base (n + 1)) := by
      refine accept_start rfl (by simp [toolView, hi]) rfl ?_ fun j => ?_
      · simp only [toolView]
        omega
      · simp only [toolView]
        split_ifs
        all_goals first | rfl | omega
    rw [if_pos hname, foldlM_cons, hstart, hn']
    exact hdelta (n + 1) piece.1 (by omega) (by omega)
  · rw [if_neg (by simp [hname]), hn']
    exact hdelta n piece.1 hlo hhi

theorem accept_pieces (base : Int) (hn : 0 ≤ n) (h : pieces.foldlM readTool n = some n') :
    (pieces.flatMap fun piece => toolEvents base piece.1 piece.2).foldlM BlockState.accept
        (toolView base n) = some (toolView base n') ∧ n ≤ n' := by
  induction pieces generalizing n with
  | nil =>
    obtain rfl := Option.some.inj h
    exact ⟨rfl, le_refl n⟩
  | cons _ _ ih =>
    rw [foldlM_cons, Option.bind_eq_bind, Option.bind_eq_some_iff] at h
    obtain ⟨m, hpiece, hrest⟩ := h
    have hm : n ≤ m := by
      rcases readTool_cases hpiece with ⟨-, -, -, hm⟩ | ⟨-, -, -, hm⟩
      · omega
      · omega
    obtain ⟨haccept, hle⟩ := ih (by omega) hrest
    refine ⟨?_, by omega⟩
    rw [flatMap_cons, foldlM_append, accept_toolEvents base hn hpiece]
    exact haccept

theorem maxOffset_of_read (start : Int) (h : pieces.foldlM readTool n = some n')
    (hstart : start = n - 1 ∨ (n = 0 ∧ start = 0 ∧ pieces ≠ [])) :
    maxOffset start pieces = n' - 1 := by
  induction pieces generalizing n start with
  | nil =>
    obtain rfl := Option.some.inj h
    rcases hstart with hstart | ⟨-, -, hne⟩
    · exact hstart
    · exact absurd rfl hne
  | cons piece rest ih =>
    rw [foldlM_cons, Option.bind_eq_bind, Option.bind_eq_some_iff] at h
    obtain ⟨m, hpiece, hrest⟩ := h
    have hcons : maxOffset start (piece :: rest) =
        maxOffset (if piece.1 > start then piece.1 else start) rest := rfl
    rw [hcons]
    refine ih _ hrest (Or.inl ?_)
    rcases readTool_cases hpiece with ⟨hi, -, -, hm⟩ | ⟨hlo, hhi, -, hm⟩
    · split
      · omega
      · omega
    · split
      · omega
      · omega

/-! ### Chunks

`n` tool calls were introduced so far. While they are open the summary counts them; once
text or reasoning came after them the run has ended. -/

structure InStep (n : Int) (ended : Bool) (info : ConvertInfo) : Prop where
  offset : 0 ≤ info.toolCallMaxIndexOffset
  nonneg : 0 ≤ n
  tools : info.lastMessagesType = .tools → n = info.toolCallMaxIndexOffset + 1
  rest : info.lastMessagesType ≠ .tools → 0 < n → ended = true

theorem InStep.mono {b : Bool} (h : InStep n ended info) (hle : ended = true → b = true) :
    InStep n b info :=
  ⟨h.offset, h.nonneg, h.tools, fun hnot hn => hle (h.rest hnot hn)⟩

theorem InStep.enterTools (h : InStep n false info) :
    (enterTools info).2.foldlM BlockState.accept info.view =
        some (toolView (enterTools info).1.toolCallBaseIndex n) ∧
      ((enterTools info).1.toolCallMaxIndexOffset = n - 1 ∨
        (n = 0 ∧ (enterTools info).1.toolCallMaxIndexOffset = 0)) := by
  unfold ApiGateway.enterTools
  split
  · rename_i htype
    have hn := h.tools htype
    refine ⟨?_, Or.inl (by dsimp only; omega)⟩
    rw [hn]
    simp only [view, htype]
    rfl
  rename_i htype
  have hzero : n = 0 := by
    by_contra hne
    have hnonneg := h.nonneg
    exact nomatch (h.rest htype (by omega))
  refine ⟨?_, Or.inr ⟨hzero, rfl⟩⟩
  rw [stopOpenBlocksAndAdvance_events, accept_stopOpenBlocks h.offset, hzero]
  unfold view
  rw [stopOpenBlocksAndAdvance_type]

theorem toolPieces_eq_nil : delta.toolPieces = [] ↔ delta.toolCalls = [] := by
  simp [StreamDelta.toolPieces]

theorem InStep.continueContent (h : InStep n ended info) :
    InStep n (ended || decide (0 < n)) (continueContent kind piece info).1 := by
  have htype : (ApiGateway.continueContent kind piece info).1.lastMessagesType =
      kind.messageType := by
    unfold ApiGateway.continueContent
    split
    · assumption
    · rfl
  refine ⟨(emitted_continueContent h.offset).offset, h.nonneg, fun htools => ?_, ?_⟩
  · rw [htype] at htools
    exact absurd htools (messageType_ne_tools kind)
  · intro _ hn
    simp [hn]

/-- **The client follows a delta.** -/
theorem InStep.convertDelta (h : InStep n ended info)
    (hread : delta.toolPieces.foldlM readTool n = some n')
    (hrun : delta.toolCalls ≠ [] → ended = false) :
    (convertDelta delta info).2.foldlM BlockState.accept info.view =
        some (convertDelta delta info).1.view ∧
      InStep n' (ended || (decide (0 < n') &&
        (delta.getReasoningContent != "" || delta.getContentString != "")))
        (convertDelta delta info).1 := by
  unfold ApiGateway.convertDelta
  by_cases hcalls : delta.toolCalls ≠ []
  · rw [if_pos hcalls]
    obtain rfl := hrun hcalls
    obtain ⟨henter, hmax⟩ := h.enterTools
    obtain ⟨hpieces, hle⟩ :=
      accept_pieces (ApiGateway.enterTools info).1.toolCallBaseIndex h.nonneg hread
    have hne : delta.toolPieces ≠ [] := fun hnil => hcalls (toolPieces_eq_nil.mp hnil)
    have hoffset : maxOffset (ApiGateway.enterTools info).1.toolCallMaxIndexOffset
        delta.toolPieces = n' - 1 := by
      refine maxOffset_of_read _ hread ?_
      rcases hmax with hmax | ⟨hzero, hmax⟩
      · exact Or.inl hmax
      · exact Or.inr ⟨hzero, hmax, hne⟩
    have htype := enterTools_type info
    refine ⟨?_, ?_⟩
    · unfold Emit.andThen
      rw [foldlM_append, henter]
      refine hpieces.trans ?_
      simp only [view, fillTools, htype]
      congr 2
      omega
    have hemitted : Emitted (ApiGateway.enterTools info).1
        (fillTools delta.toolPieces (ApiGateway.enterTools info).1).1
        (fillTools delta.toolPieces (ApiGateway.enterTools info).1).2 :=
      emitted_fillTools (emitted_enterTools h.offset).offset htype
    have hfill : ((ApiGateway.enterTools.andThen (fillTools delta.toolPieces)) info).1 =
        (fillTools delta.toolPieces (ApiGateway.enterTools info).1).1 := rfl
    rw [hfill]
    refine ⟨hemitted.offset, le_trans h.nonneg hle, fun _ => ?_, fun hnot => ?_⟩
    · simp only [fillTools]
      omega
    · exact absurd htype hnot
  · rw [if_neg hcalls]
    have hnil : delta.toolPieces = [] := toolPieces_eq_nil.mpr (not_not.mp hcalls)
    rw [hnil] at hread
    obtain rfl := Option.some.inj hread
    by_cases hreason : delta.getReasoningContent ≠ ""
    · rw [if_pos hreason]
      exact ⟨accept_continueContent h.offset, h.continueContent.mono (by simp [hreason])⟩
    rw [if_neg hreason]
    by_cases htext : delta.getContentString ≠ ""
    · rw [if_pos htext]
      exact ⟨accept_continueContent h.offset, h.continueContent.mono (by simp [htext])⟩
    · rw [if_neg htext]
      refine ⟨rfl, h.offset, h.nonneg, h.tools, fun hnot hn => ?_⟩
      rw [h.rest hnot hn]
      rfl

theorem accept_closeMessage {reason : String} (info : ConvertInfo)
    (hoffset : 0 ≤ info.toolCallMaxIndexOffset) :
    ((closeMessage chunk reason info).2.foldlM BlockState.accept info.view).isSome := by
  have hstopped : (stopOpenBlocksAndAdvance info).1.view.stopped = false := by
    unfold view
    rw [stopOpenBlocksAndAdvance_type]
    rfl
  unfold closeMessage
  rw [foldlM_append, foldlM_append, accept_stopOpenBlocks hoffset]
  cases chunk.usage.or info.usage with
  | none | some => simp [BlockState.accept, hstopped]

theorem hasTools_iff : chunk.hasTools = true ↔ chunk.delta.toolCalls ≠ [] := by
  simp [ChatChunk.hasTools]

theorem read_of_no_tools (h : chunk.hasTools = false)
    (hread : chunk.delta.toolPieces.foldlM readTool n = some n') : n' = n := by
  have hnil : chunk.delta.toolPieces = [] := by
    rw [toolPieces_eq_nil]
    by_contra hne
    have htools := hasTools_iff.mpr hne
    rw [h] at htools
    cases htools
  rw [hnil] at hread
  exact (Option.some.inj hread).symm

theorem seen_of_read (hn : 0 ≤ n) (hread : chunk.delta.toolPieces.foldlM readTool n = some n') :
    decide (0 < n') = (decide (0 < n) || chunk.hasTools) := by
  cases htools : chunk.hasTools with
  | false => rw [read_of_no_tools htools hread, Bool.or_false]
  | true =>
    rw [Bool.or_true, decide_eq_true_eq]
    have hne : chunk.delta.toolPieces ≠ [] :=
      fun hnil => hasTools_iff.mp htools (toolPieces_eq_nil.mp hnil)
    obtain ⟨-, hle⟩ := accept_pieces 0 hn hread
    by_contra hlt
    have hzero : n = 0 := by omega
    have hmax := maxOffset_of_read 0 hread (Or.inr ⟨hzero, rfl, hne⟩)
    have hstart := le_maxOffset 0 chunk.delta.toolPieces
    omega

section Chunk

variable {n n' : Int} {ended : Bool} {info : ConvertInfo} {chunk : ChatChunk}
  {r : ConvertInfo × List ClaudeEvent}

/-- **The client follows a chunk after the first**: the message is closed, or the summary still
tells the client's state. -/
theorem InStep.responds (h : InStep n ended info) (hresponds : Responds chunk info r)
    (hdone : info.done = false)
    (hread : chunk.delta.toolPieces.foldlM readTool n = some n')
    (hrun : chunk.hasTools = true → ended = false)
    (hdefer : chunk.defers = true → chunk.hasTools = false) :
    (r.1.done = true ∧ (r.2.foldlM BlockState.accept info.view).isSome) ∨
    (r.1.done = false ∧ r.2.foldlM BlockState.accept info.view = some r.1.view ∧
      InStep n' (ended || (decide (0 < n') && chunk.speaks)) r.1) := by
  have hrun' : chunk.delta.toolCalls ≠ [] → ended = false := fun hne => hrun (hasTools_iff.mpr hne)
  cases hresponds with
  | closes reason =>
    have hinfo : InStep n ended { info with finishReason := reason } := { h with }
    obtain ⟨haccept, hstep⟩ := hinfo.convertDelta hread hrun'
    refine Or.inl ⟨rfl, ?_⟩
    have hview : ({ info with finishReason := reason } : ConvertInfo).view = info.view := rfl
    unfold Emit.andThen
    rw [foldlM_append, ← hview, haccept]
    exact accept_closeMessage _ hstep.offset
  | defers hskip =>
    -- the delta is dropped, and with it no tool call
    rw [read_of_no_tools (hdefer hskip) hread]
    have hlater := h.mono (b := ended || (decide (0 < n) && chunk.speaks)) fun h => by simp [h]
    exact Or.inr ⟨hdone, rfl, { hlater with }⟩
  | converts =>
    obtain ⟨haccept, hstep⟩ := h.convertDelta hread hrun'
    have hsame := sameMessage_convertDelta info chunk.delta
    exact Or.inr ⟨hsame.done.trans hdone, haccept, hstep⟩

end Chunk

/-! ### Streams -/

theorem chatToolPieces_cons (chunk : ChatChunk) (rest : List ChatChunk) :
    chatToolPieces (chunk :: rest) = chunk.delta.toolPieces ++ chatToolPieces rest := by
  simp [chatToolPieces]

theorem read_cons (h : ((chatToolPieces (chunk :: rest)).foldlM readTool n).isSome) :
    ∃ n', chunk.delta.toolPieces.foldlM readTool n = some n' ∧
      ((chatToolPieces rest).foldlM readTool n').isSome := by
  rw [chatToolPieces_cons, foldlM_append] at h
  obtain ⟨m, hm⟩ := Option.isSome_iff_exists.mp h
  rw [Option.bind_eq_bind, Option.bind_eq_some_iff] at hm
  obtain ⟨n', hread, hrest⟩ := hm
  exact ⟨n', hread, by rw [hrest]; rfl⟩

/-- **The client follows the rest of a stream.** -/
theorem follows_remaining {usage : Usage} (hreading : Reading info rest) (h : InStep n ended info)
    (hread : ((chatToolPieces rest).foldlM readTool n).isSome)
    (hrun : oneToolRun (decide (0 < n)) ended rest = true)
    (hdefer : ∀ chunk ∈ rest, chunk.defers = true → chunk.hasTools = false) :
    ((remaining usage info rest).foldlM BlockState.accept info.view).isSome := by
  induction rest generalizing n ended info with
  | nil => rfl
  | cons chunk rest ih =>
    obtain ⟨n', hchunk, hrest⟩ := read_cons hread
    rw [oneToolRun, Bool.and_eq_true] at hrun
    obtain ⟨hnow, hlater⟩ := hrun
    have htools : chunk.hasTools = true → ended = false := by
      intro htools
      rw [htools] at hnow
      simpa using hnow
    have hdefer' := hdefer chunk (mem_cons_self ..)
    cases rest with
    | nil =>
      have hinfo : InStep n ended { info with usage := some usage } := { h with }
      rcases hinfo.responds (streamResponse_responds hreading.done hreading.last_count)
        hreading.done hchunk htools hdefer' with ⟨-, haccept⟩ | ⟨-, haccept, -⟩
      · exact haccept
      have hsome : ((remaining usage info [chunk]).foldlM BlockState.accept info.view) =
          some _ := haccept
      rw [hsome]
      rfl
    | cons =>
      have hinfo : InStep n ended { info with
          sendResponseCount := info.sendResponseCount + 1
          usage := chunk.usage.or info.usage } := { h with }
      rcases hinfo.responds hreading.responds hreading.done hchunk htools hdefer' with
        ⟨hclosed, haccept⟩ | ⟨hdone, haccept, hstep⟩
      · rw [remaining, remaining_done hclosed, append_nil]
        exact haccept
      -- a message that is not closed goes on
      have hends : endsMessage (info.usage.isSome || chunk.usage.isSome) chunk = false := by
        by_contra hends
        rw [Bool.not_eq_false] at hends
        cases (hreading.closes hends).1.symm.trans hdone
      have hfold : (handleStreamFormat info chunk).2.foldlM BlockState.accept info.view =
          some (handleStreamFormat info chunk).1.view := haccept
      rw [← seen_of_read h.nonneg hchunk] at hlater
      rw [remaining, foldlM_append, hfold]
      exact ih (hreading.step hends).1 hstep hrest hlater
        fun c hc => hdefer c (mem_cons_of_mem _ hc)

theorem initial_view : ({} : BlockState) = toolView 0 0 := by
  refine BlockState.ext rfl ?_ rfl
  funext i
  exact (if_neg (by omega)).symm

theorem Fresh.view (h : Fresh info) : info.view = {} := by
  unfold ConvertInfo.view
  rw [h.type, h.index, initial_view]

/-- **The client follows the first chunk**, if it brings one tool call at most. -/
theorem follows_firstBlocks (hfresh : Fresh info) (hcalls : delta.toolCalls.length ≤ 1)
    (hread : delta.toolPieces.foldlM readTool 0 = some n) :
    (firstBlocks delta info).2.foldlM BlockState.accept info.view =
        some (firstBlocks delta info).1.view ∧
      InStep n (decide (0 < n) &&
        (delta.getReasoningContent != "" || delta.getContentString != ""))
        (firstBlocks delta info).1 := by
  have htool : (firstTool delta info).2.foldlM BlockState.accept info.view =
        some (firstTool delta info).1.view ∧
      0 ≤ n ∧ 0 ≤ (firstTool delta info).1.toolCallMaxIndexOffset ∧
      ((firstTool delta info).1.lastMessagesType = .tools →
        n = (firstTool delta info).1.toolCallMaxIndexOffset + 1) ∧
      ((firstTool delta info).1.lastMessagesType ≠ .tools → n = 0) := by
    unfold firstTool
    unfold StreamDelta.toolPieces at hread
    match hc : delta.toolCalls with
    | [] =>
      rw [hc] at hread
      obtain rfl := Option.some.inj hread
      refine ⟨rfl, le_refl 0, by rw [hfresh.offset], fun htype => ?_, fun _ => rfl⟩
      rw [hfresh.type] at htype
      cases htype
    | [call] =>
      rw [hc] at hread
      simp only [mapIdx_cons, foldlM_cons, Option.bind_eq_bind, Option.bind_eq_some_iff] at hread
      obtain ⟨m, hpiece, hm⟩ := hread
      obtain rfl := Option.some.inj hm
      -- the block is at index 0, which is what the piece says too
      rcases readTool_cases hpiece with ⟨hi, -, hname, rfl⟩ | ⟨hlo, hhi, -⟩
      · have haccept := accept_toolEvents 0 (le_refl 0) hpiece
        rw [hi] at haccept
        refine ⟨?_, by omega, le_refl 0, fun _ => rfl, fun hnot => absurd rfl hnot⟩
        rw [hfresh.view, initial_view]
        simpa [toolEvents, hname, view] using haccept
      · omega
    | call :: call' :: calls =>
      rw [hc] at hcalls
      simp at hcalls
  obtain ⟨haccept, hn, hoffset, htools, hrest⟩ := htool
  have hstart : ∀ kind piece, startContent kind piece (firstTool delta info).1 =
      openContent kind piece (firstTool delta info).1 := by
    intro kind piece
    unfold startContent
    rw [if_neg (firstTool_type delta hfresh kind)]
  have hopen : ∀ kind piece,
      ((firstTool delta info).2 ++ (openContent kind piece (firstTool delta info).1).2).foldlM
          BlockState.accept info.view =
        some (openContent kind piece (firstTool delta info).1).1.view ∧
      InStep n (decide (0 < n)) (openContent kind piece (firstTool delta info).1).1 := by
    intro kind piece
    refine ⟨?_, (emitted_openContent hoffset).offset, hn, fun htype => ?_, fun _ hpos => ?_⟩
    · rw [foldlM_append, haccept]
      exact accept_openContent hoffset
    · exact absurd htype (messageType_ne_tools kind)
    · simp [hpos]
  unfold firstBlocks Emit.andThen firstContent
  by_cases hreason : delta.getReasoningContent ≠ ""
  · rw [if_pos hreason]
    dsimp only
    rw [hstart]
    exact ⟨(hopen _ _).1, (hopen _ _).2.mono (by simp [hreason])⟩
  rw [if_neg hreason]
  by_cases htext : delta.getContentString ≠ ""
  · rw [if_pos htext]
    dsimp only
    rw [hstart]
    exact ⟨(hopen _ _).1, (hopen _ _).2.mono (by simp [htext])⟩
  rw [if_neg htext]
  rw [append_nil]
  refine ⟨haccept, hoffset, hn, htools, fun hnot hpos => ?_⟩
  have := hrest hnot
  omega

theorem accept_messageStart {id model : String} {usage : ClaudeUsage}
    {events : List ClaudeEvent} (h : s.stopped = false) :
    (messageStart id model usage :: events).foldlM BlockState.accept s =
      events.foldlM BlockState.accept s := by
  simp [BlockState.accept, h]

/-- After a first chunk without a finish reason there are two more. -/
theorem SteadyTools.length_rest {first next : ChatChunk}
    (h : SteadyTools (first :: next :: rest)) (hfinished : first.isFinished = false) :
    2 ≤ (next :: rest).length := by
  by_contra hlt
  have htwo : (first :: next :: rest).length = 2 := by
    simp only [length_cons] at hlt ⊢
    omega
  exact nomatch ((h.second first rfl htwo).symm.trans hfinished)

/-- **The client follows every stream whose tool calls are steady**: each index is introduced once
and in order, without gaps, tool calls come in one run, the first chunk brings one at most and none
is in a chunk that is skipped. -/
theorem claude_blocks_follow_protocol (tokens : Int) (usage : Usage) (chunks : List ChatChunk)
    (hintro : introducedOnce [] (chatToolPieces chunks) = true) (hsteady : SteadyTools chunks) :
    FollowsProtocol (oaiStreamHandler { estimatePromptTokens := tokens } usage chunks) := by
  have hread := readTool_of_introduced hintro hsteady.gapless
  rw [oaiStreamHandler_eq]
  unfold FollowsProtocol
  match chunks with
  | [] => rfl
  | [chunk] =>
    obtain ⟨n, hchunk, -⟩ := read_cons hread
    have hstep : InStep 0 false { estimatePromptTokens := tokens, usage := some usage } :=
      ⟨le_refl 0, le_refl 0, fun h => absurd h (by simp), fun _ h => absurd h (by simp)⟩
    have hview : ({ estimatePromptTokens := tokens, usage := some usage } : ConvertInfo).view =
        {} := Fresh.view ⟨rfl, rfl, rfl⟩
    have hdefer := hsteady.converted chunk (mem_singleton_self chunk)
    rcases hstep.responds (streamResponse_responds rfl (by simp)) rfl hchunk (fun _ => rfl) hdefer
      with ⟨-, haccept⟩ | ⟨-, haccept, -⟩
    · rw [hview] at haccept
      exact haccept
    rw [hview] at haccept
    have hsome : (remaining usage { estimatePromptTokens := tokens } [chunk]).foldlM
        BlockState.accept {} = some _ := haccept
    rw [hsome]
    rfl
  | first :: next :: rest =>
    obtain ⟨n, hfirst, hrest⟩ := read_cons hread
    have hfresh := fresh_firstInfo tokens first
    have hcalls : first.delta.toolCalls.length ≤ 1 := hsteady.first first rfl (by simp)
    obtain ⟨haccept, hstep⟩ := follows_firstBlocks hfresh hcalls hfirst
    rw [hfresh.view, ← opening] at haccept
    cases hfinished : first.isFinished with
    | true =>
      rw [remaining_of_first_finished hfinished, accept_messageStart rfl, foldlM_append, haccept]
      exact accept_closeMessage { (opening tokens first).1 with
        finishReason := first.finishReason } hstep.offset
    | false =>
      obtain ⟨hreading, -, hevents⟩ :=
        reading_rest tokens usage hfinished (hsteady.length_rest hfinished)
      have hrun := hsteady.oneRun
      rw [oneToolRun, Bool.and_eq_true] at hrun
      have hseen := seen_of_read (le_refl 0) hfirst
      rw [show decide ((0 : Int) < 0) = false by decide] at hseen
      have hlater := hrun.2
      rw [← hseen] at hlater
      rw [hevents, accept_messageStart rfl, foldlM_append, haccept]
      exact follows_remaining hreading hstep hrest hlater hsteady.converted

/-! ### Streams with tool calls -/

def toolChunk (calls : List ToolCallResponse) : ChatChunk :=
  { choices := [{ delta := { toolCalls := calls } }] }

def usageChunk : ChatChunk := { usage := some billedUsage }

def parallelCalls : List ChatChunk :=
  [textChunk "a",
    toolChunk [{ index := some 0, id := "t0", name := "f" },
      { index := some 1, id := "t1", name := "g" }],
    toolChunk [{ index := some 1, arguments := "1" }, { index := some 0, arguments := "0" }],
    finishChunk, usageChunk]

theorem steadyTools_parallelCalls : SteadyTools parallelCalls where
  gapless := by decide +kernel
  oneRun := by decide +kernel
  first := by
    intro chunk hchunk _
    obtain rfl := Option.some.inj hchunk
    decide
  second := by
    intro chunk _ hlength
    exact absurd hlength (by decide)
  converted := by decide +kernel

theorem claude_blocks_follow_protocol_parallel :
    FollowsProtocol (oaiStreamHandler { estimatePromptTokens := 5 } billedUsage parallelCalls) :=
  claude_blocks_follow_protocol 5 billedUsage parallelCalls (by decide +kernel)
    steadyTools_parallelCalls

/-- **A second tool call after text is started at an index too high**, as block 4 and not 3. Of two
tool calls in the first chunk, the second is filled though it was never started. -/
theorem interrupted_tools_break_protocol :
    introducedOnce [] (chatToolPieces [textChunk "a",
        toolChunk [{ index := some 0, id := "t0", name := "f" }], textChunk "b",
        toolChunk [{ index := some 1, id := "t1", name := "g" }], usageChunk]) = true ∧
    ¬ FollowsProtocol (oaiStreamHandler {} billedUsage [textChunk "a",
        toolChunk [{ index := some 0, id := "t0", name := "f" }], textChunk "b",
        toolChunk [{ index := some 1, id := "t1", name := "g" }], usageChunk]) ∧
    introducedOnce [] (chatToolPieces [toolChunk [{ index := some 0, id := "t0", name := "f" },
          { index := some 1, id := "t1", name := "g" }],
        toolChunk [{ index := some 1, arguments := "1" }], usageChunk]) = true ∧
    ¬ FollowsProtocol (oaiStreamHandler {} billedUsage
      [toolChunk [{ index := some 0, id := "t0", name := "f" },
          { index := some 1, id := "t1", name := "g" }],
        toolChunk [{ index := some 1, arguments := "1" }], usageChunk]) := by
  unfold FollowsProtocol
  refine ⟨by decide +kernel, by decide +kernel, by decide +kernel, by decide +kernel⟩

end ApiGateway
