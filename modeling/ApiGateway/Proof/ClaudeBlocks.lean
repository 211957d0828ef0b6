import ApiGateway.Service.ClaudeConvert
import Mathlib.Algebra.Order.Group.Int

/-!
# Blocks of a converted stream

Every delta only starts, fills and stops content blocks. What has been started and not stopped is
what the converter takes to be open. Indices only grow: a tool call announced under a negative
index starts a block below all that will be stopped again.
-/

namespace ApiGateway

open List ConvertInfo

variable {a b c info : ConvertInfo} {e e' : List ClaudeEvent} {i : Int} {kind : ContentKind}
  {piece : String} {pieces : List (Int × ToolCall)} {ok : Prop}
variable {events : List ClaudeEvent} {base : Int} {delta : StreamDelta} {ok' : Prop}
  {info' : ConvertInfo}

/-! ### Events of blocks -/

def ClaudeEvent.isBlock : ClaudeEvent → Bool
  | .contentBlockStart _ _ | .contentBlockDelta _ _ | .contentBlockStop _ => true
  | _ => false

def BlockEvents (events : List ClaudeEvent) : Prop := ∀ e ∈ events, e.isBlock = true

theorem BlockEvents.append {a b : List ClaudeEvent} (ha : BlockEvents a) (hb : BlockEvents b) :
    BlockEvents (a ++ b) := by
  intro e he
  rcases mem_append.mp he with h | h
  · exact ha e h
  · exact hb e h

theorem BlockEvents.notMem {e : ClaudeEvent} (h : BlockEvents events) (he : e.isBlock = false) :
    e ∉ events := by
  intro hmem
  rw [h e hmem] at he
  cases he

/-- Block `i` was started and no later event stops it. -/
def Unstopped (i : Int) : List ClaudeEvent → Prop
  | [] => False
  | .contentBlockStart j _ :: rest => (j = i ∧ .contentBlockStop i ∉ rest) ∨ Unstopped i rest
  | _ :: rest => Unstopped i rest

theorem unstopped_append {a b : List ClaudeEvent} :
    Unstopped i (a ++ b) ↔ (Unstopped i a ∧ .contentBlockStop i ∉ b) ∨ Unstopped i b := by
  induction a with
  | nil => simp [Unstopped]
  | cons e a ih =>
    cases e with
    | contentBlockStart =>
      simp only [cons_append, Unstopped, mem_append]
      tauto
    | _ => simpa only [cons_append, Unstopped] using ih

theorem start_mem_of_unstopped (h : Unstopped i events) :
    ∃ block, .contentBlockStart i block ∈ events := by
  induction events with
  | nil => exact absurd h (by simp [Unstopped])
  | cons e _ ih =>
    cases e with
    | contentBlockStart j block =>
      rcases h with ⟨rfl, -⟩ | h
      · exact ⟨block, mem_cons_self ..⟩
      · obtain ⟨block', hb⟩ := ih h
        exact ⟨block', mem_cons_of_mem _ hb⟩
    | _ =>
      obtain ⟨block', hb⟩ := ih h
      exact ⟨block', mem_cons_of_mem _ hb⟩

/-! ### Open blocks -/

/-- The blocks the converter takes to be open. -/
def ConvertInfo.Opened (info : ConvertInfo) (i : Int) : Prop :=
  match info.lastMessagesType with
  | .none => False
  | .text | .thinking => i = info.index
  | .tools => info.toolCallBaseIndex ≤ i ∧
      i ≤ info.toolCallBaseIndex + info.toolCallMaxIndexOffset

theorem mem_stopOpenBlocks : .contentBlockStop i ∈ stopOpenBlocks info ↔ info.Opened i := by
  unfold stopOpenBlocks Opened
  cases info.lastMessagesType with
  | none | text | thinking => simp
  | tools =>
    simp only [mem_map, mem_range, ClaudeEvent.contentBlockStop.injEq]
    constructor
    · rintro ⟨k, hk, rfl⟩
      omega
    · rintro ⟨hlo, hhi⟩
      exact ⟨(i - info.toolCallBaseIndex).toNat, by omega, by omega⟩

theorem stopOpenBlocks_eq_stop {e : ClaudeEvent} (h : e ∈ stopOpenBlocks info) :
    ∃ i, e = .contentBlockStop i := by
  unfold stopOpenBlocks at h
  cases htype : info.lastMessagesType with
  | none => simp [htype] at h
  | text | thinking => exact ⟨info.index, by simpa [htype] using h⟩
  | tools =>
    simp only [htype, mem_map] at h
    obtain ⟨k, -, rfl⟩ := h
    exact ⟨_, rfl⟩

theorem blockEvents_stopOpenBlocks (info : ConvertInfo) : BlockEvents (stopOpenBlocks info) := by
  intro e he
  obtain ⟨i, rfl⟩ := stopOpenBlocks_eq_stop he
  rfl

theorem not_unstopped_stopOpenBlocks (info : ConvertInfo) (i : Int) :
    ¬ Unstopped i (stopOpenBlocks info) := by
  intro h
  obtain ⟨block, hb⟩ := start_mem_of_unstopped h
  obtain ⟨j, hj⟩ := stopOpenBlocks_eq_stop hb
  cases hj

/-! ### What a part of the conversion does

`Emitted` holds of every delta. Indices only grow: nothing below the floor is ever stopped
again. `Carried` says that a block not stopped yet is still taken to be open. -/

/-- The lowest index that may still be stopped. -/
def ConvertInfo.floor (info : ConvertInfo) : Int :=
  if info.lastMessagesType = .tools then info.toolCallBaseIndex else info.index

structure Emitted (info info' : ConvertInfo) (events : List ClaudeEvent) : Prop where
  blocks : BlockEvents events
  offset : 0 ≤ info'.toolCallMaxIndexOffset
  floor : info.floor ≤ info'.floor
  stops : ∀ i, .contentBlockStop i ∈ events → info.floor ≤ i

/-- Whether the message is closed is not the business of a delta. -/
structure SameMessage (info info' : ConvertInfo) : Prop where
  done : info'.done = info.done
  sendResponseCount : info'.sendResponseCount = info.sendResponseCount
  usage : info'.usage = info.usage

def Carried (info info' : ConvertInfo) (events : List ClaudeEvent) : Prop :=
  ∀ i, Unstopped i events ∨ (info.Opened i ∧ .contentBlockStop i ∉ events) → info'.Opened i

/-- A block was started that no later event can stop. -/
def Stranded (info : ConvertInfo) (events : List ClaudeEvent) : Prop :=
  ∃ i, Unstopped i events ∧ i < info.floor

theorem Emitted.nil (h : 0 ≤ info.toolCallMaxIndexOffset) : Emitted info info [] where
  blocks := by intro e he; simp at he
  offset := h
  floor := le_refl _
  stops := by intro i hi; simp at hi

theorem Emitted.append (h : Emitted a b e) (h' : Emitted b c e') : Emitted a c (e ++ e') where
  blocks := h.blocks.append h'.blocks
  offset := h'.offset
  floor := le_trans h.floor h'.floor
  stops := by
    intro i hi
    rcases mem_append.mp hi with hi | hi
    · exact h.stops i hi
    · exact le_trans h.floor (h'.stops i hi)

theorem SameMessage.refl : SameMessage info info := ⟨rfl, rfl, rfl⟩

theorem SameMessage.trans (h : SameMessage a b) (h' : SameMessage b c) : SameMessage a c where
  done := h'.done.trans h.done
  sendResponseCount := h'.sendResponseCount.trans h.sendResponseCount
  usage := h'.usage.trans h.usage

theorem Carried.append (h : Carried a b e) (h' : Carried b c e') : Carried a c (e ++ e') := by
  intro i hi
  refine h' i ?_
  rcases hi with hi | ⟨hopen, hi⟩
  · rcases unstopped_append.mp hi with ⟨hu, hstop⟩ | hu
    · exact Or.inr ⟨h i (Or.inl hu), hstop⟩
    · exact Or.inl hu
  · rw [mem_append, not_or] at hi
    exact Or.inr ⟨h i (Or.inr ⟨hopen, hi.1⟩), hi.2⟩

theorem Stranded.append (h : Stranded a e) (h' : Emitted a b e') : Stranded b (e ++ e') := by
  obtain ⟨i, hi, hlt⟩ := h
  refine ⟨i, unstopped_append.mpr (Or.inl ⟨hi, fun hstop => ?_⟩), lt_of_lt_of_le hlt h'.floor⟩
  exact absurd (h'.stops i hstop) (by omega)

/-! ### Blocks of content -/

theorem Opened.floor_le (h : info.Opened i) : info.floor ≤ i := by
  unfold Opened at h
  unfold floor
  cases htype : info.lastMessagesType with
  | none => simp [htype] at h
  | text | thinking | tools => simp [htype] at h ⊢; omega

theorem stopOpenBlocksAndAdvance_events (info : ConvertInfo) :
    (stopOpenBlocksAndAdvance info).2 = stopOpenBlocks info := by
  unfold stopOpenBlocksAndAdvance
  cases htype : info.lastMessagesType with
  | none => simp [stopOpenBlocks, htype]
  | text | thinking | tools => rfl

theorem stopOpenBlocksAndAdvance_type (info : ConvertInfo) :
    (stopOpenBlocksAndAdvance info).1.lastMessagesType = .none := by
  unfold stopOpenBlocksAndAdvance
  cases htype : info.lastMessagesType with
  | none => exact htype
  | text | thinking | tools => rfl

theorem emitted_stopOpenBlocksAndAdvance (h : 0 ≤ info.toolCallMaxIndexOffset) :
    Emitted info (stopOpenBlocksAndAdvance info).1 (stopOpenBlocksAndAdvance info).2 where
  blocks := by
    rw [stopOpenBlocksAndAdvance_events]
    exact blockEvents_stopOpenBlocks info
  offset := by
    unfold stopOpenBlocksAndAdvance
    cases info.lastMessagesType with
    | none | text | thinking => exact h
    | tools => exact le_refl _
  floor := by
    unfold stopOpenBlocksAndAdvance floor
    cases htype : info.lastMessagesType with
    | none => simp [htype]
    | text | thinking => simp only [reduceCtorEq, if_false]; omega
    | tools => simp only [reduceCtorEq, if_true, if_false]; omega
  stops := by
    intro i hi
    rw [stopOpenBlocksAndAdvance_events] at hi
    exact Opened.floor_le (mem_stopOpenBlocks.mp hi)

theorem sameMessage_stopOpenBlocksAndAdvance (info : ConvertInfo) :
    SameMessage info (stopOpenBlocksAndAdvance info).1 := by
  unfold stopOpenBlocksAndAdvance
  cases info.lastMessagesType with
  | none => exact SameMessage.refl
  | text | thinking | tools => exact ⟨rfl, rfl, rfl⟩

theorem stopOpenBlocksAndAdvance_stops (h : Unstopped i (stopOpenBlocksAndAdvance info).2 ∨
      (info.Opened i ∧ .contentBlockStop i ∉ (stopOpenBlocksAndAdvance info).2)) : False := by
  rw [stopOpenBlocksAndAdvance_events] at h
  rcases h with h | ⟨hopen, hstop⟩
  · exact not_unstopped_stopOpenBlocks info i h
  · exact hstop (mem_stopOpenBlocks.mpr hopen)

theorem emitted_block
    (h : 0 ≤ info.toolCallMaxIndexOffset) (htype : info.lastMessagesType ≠ .tools) :
    Emitted info { info with lastMessagesType := kind.messageType }
      [.contentBlockStart info.index kind.block,
        .contentBlockDelta info.index (kind.delta piece)] where
  blocks := by
    intro e he
    simp only [mem_cons, not_mem_nil, or_false] at he
    rcases he with rfl | rfl
    · rfl
    · rfl
  offset := h
  floor := by
    unfold floor
    cases kind with
    | text | thinking => simp [ContentKind.messageType, htype]
  stops := by intro i hi; simp at hi

theorem opened_content :
    ({ info with lastMessagesType := kind.messageType } : ConvertInfo).Opened i ↔
      i = info.index := by
  cases kind with
  | text | thinking => rfl

theorem emitted_openContent (h : 0 ≤ info.toolCallMaxIndexOffset) :
    Emitted info (openContent kind piece info).1 (openContent kind piece info).2 := by
  have hadv := emitted_stopOpenBlocksAndAdvance h
  refine hadv.append (emitted_block hadv.offset ?_)
  rw [stopOpenBlocksAndAdvance_type]
  simp

theorem carried_openContent :
    Carried info (openContent kind piece info).1 (openContent kind piece info).2 := by
  intro i hi
  -- the old blocks are stopped, so it is the block just started
  refine opened_content.mpr ?_
  rcases hi with hi | ⟨hopen, hi⟩
  · rcases unstopped_append.mp hi with ⟨hu, -⟩ | hu
    · exact (stopOpenBlocksAndAdvance_stops (Or.inl hu)).elim
    · simp only [Unstopped, or_false] at hu
      exact hu.1.symm
  · refine (stopOpenBlocksAndAdvance_stops (Or.inr ⟨hopen, fun hs => hi ?_⟩)).elim
    exact mem_append_left _ hs

theorem messageType_ne_tools (kind : ContentKind) : kind.messageType ≠ .tools := by
  cases kind with
  | text | thinking => simp [ContentKind.messageType]

theorem emitted_continueContent (h : 0 ≤ info.toolCallMaxIndexOffset) :
    Emitted info (continueContent kind piece info).1 (continueContent kind piece info).2 := by
  unfold continueContent
  split
  · exact
      { blocks := by intro e he; rw [mem_singleton.mp he]; rfl
        offset := h
        floor := le_refl _
        stops := by intro i hi; simp at hi }
  · exact emitted_openContent h

theorem carried_continueContent :
    Carried info (continueContent kind piece info).1 (continueContent kind piece info).2 := by
  unfold continueContent
  split
  · intro i hi
    rcases hi with hi | ⟨hopen, -⟩
    · simp [Unstopped] at hi
    · exact hopen
  · exact carried_openContent

/-! ### Blocks of tool calls -/

theorem le_maxOffset (start : Int) (pieces : List (Int × ToolCall)) :
    start ≤ maxOffset start pieces := by
  induction pieces generalizing start with
  | nil => exact le_refl _
  | cons _ _ ih =>
    refine le_trans ?_ (ih _)
    dsimp only
    split
    · omega
    · exact le_refl _

theorem mem_le_maxOffset (start : Int) {piece : Int × ToolCall} (h : piece ∈ pieces) :
    piece.1 ≤ maxOffset start pieces := by
  induction pieces generalizing start with
  | nil => simp at h
  | cons p pieces ih =>
    rcases mem_cons.mp h with rfl | h
    · refine le_trans ?_ (le_maxOffset _ pieces)
      dsimp only
      split
      · exact le_refl _
      · omega
    · exact ih _ h

theorem mem_toolEvents {offset : Int} {call : ToolCall} {e : ClaudeEvent}
    (h : e ∈ toolEvents base offset call) :
    (call.name ≠ "" ∧ e = .contentBlockStart (base + offset) (.toolUse call.id call.name)) ∨
      e = .contentBlockDelta (base + offset) (.inputJson call.arguments) := by
  rcases mem_append.mp h with h | h
  · split at h
    · rename_i hname
      exact Or.inl ⟨hname, mem_singleton.mp h⟩
    · simp at h
  · split at h
    · exact Or.inr (mem_singleton.mp h)
    · simp at h

theorem stop_notMem_toolEvents :
    .contentBlockStop i ∉ pieces.flatMap fun piece => toolEvents base piece.1 piece.2 := by
  intro h
  obtain ⟨piece, -, hmem⟩ := mem_flatMap.mp h
  rcases mem_toolEvents hmem with ⟨-, heq⟩ | heq
  · cases heq
  · cases heq

theorem emitted_enterTools (h : 0 ≤ info.toolCallMaxIndexOffset) :
    Emitted info (enterTools info).1 (enterTools info).2 := by
  unfold enterTools
  split
  · exact Emitted.nil h
  have hadv := emitted_stopOpenBlocksAndAdvance h
  have hfloor : (stopOpenBlocksAndAdvance info).1.floor =
      (stopOpenBlocksAndAdvance info).1.index := by
    unfold floor
    rw [stopOpenBlocksAndAdvance_type, if_neg (by simp)]
  exact
    { blocks := hadv.blocks
      offset := le_refl _
      floor := by
        refine le_trans hadv.floor (le_of_eq ?_)
        rw [hfloor]
        rfl
      stops := hadv.stops }

theorem enterTools_type (info : ConvertInfo) : (enterTools info).1.lastMessagesType = .tools := by
  unfold enterTools
  split
  · assumption
  · rfl

theorem carried_enterTools : Carried info (enterTools info).1 (enterTools info).2 := by
  unfold enterTools
  split
  · intro i hi
    rcases hi with hi | ⟨hopen, -⟩
    · exact absurd hi (by simp [Unstopped])
    · exact hopen
  · intro i hi
    exact (stopOpenBlocksAndAdvance_stops hi).elim

theorem emitted_fillTools
    (h : 0 ≤ info.toolCallMaxIndexOffset) (htype : info.lastMessagesType = .tools) :
    Emitted info (fillTools pieces info).1 (fillTools pieces info).2 where
  blocks := by
    intro e he
    obtain ⟨piece, -, hmem⟩ := mem_flatMap.mp he
    rcases mem_toolEvents hmem with ⟨-, rfl⟩ | rfl
    · rfl
    · rfl
  offset := le_trans h (le_maxOffset _ pieces)
  floor := by
    unfold floor fillTools
    simp [htype]
  stops := by
    intro i hi
    exact absurd hi stop_notMem_toolEvents

theorem carried_fillTools (htype : info.lastMessagesType = .tools)
    (hpieces : ∀ piece ∈ pieces, piece.2.name ≠ "" → 0 ≤ piece.1) :
    Carried info (fillTools pieces info).1 (fillTools pieces info).2 := by
  intro i hi
  have hgoal : info.toolCallBaseIndex ≤ i ∧
      i ≤ info.toolCallBaseIndex + maxOffset info.toolCallMaxIndexOffset pieces := by
    rcases hi with hi | ⟨hopen, -⟩
    · obtain ⟨block, hblock⟩ := start_mem_of_unstopped hi
      obtain ⟨piece, hpiece, hmem⟩ := mem_flatMap.mp hblock
      rcases mem_toolEvents hmem with ⟨hname, heq⟩ | heq
      · obtain ⟨rfl, -⟩ := ClaudeEvent.contentBlockStart.inj heq
        have hlo := hpieces piece hpiece hname
        have hhi := mem_le_maxOffset info.toolCallMaxIndexOffset hpiece
        omega
      · cases heq
    · have hmax := le_maxOffset info.toolCallMaxIndexOffset pieces
      simp only [Opened, htype] at hopen
      omega
  simpa only [Opened, fillTools, htype] using hgoal

/-- A tool call announced under a negative index is below the floor for good. -/
theorem stranded_fillTools
    (htype : info.lastMessagesType = .tools) {piece : Int × ToolCall} (hmem : piece ∈ pieces)
    (hname : piece.2.name ≠ "") (hneg : piece.1 < 0) :
    Stranded (fillTools pieces info).1 (fillTools pieces info).2 := by
  refine ⟨info.toolCallBaseIndex + piece.1, ?_, ?_⟩
  · obtain ⟨before, after, rfl⟩ := append_of_mem hmem
    have hevents : (fillTools (before ++ piece :: after) info).2 =
        (before.flatMap fun p => toolEvents info.toolCallBaseIndex p.1 p.2) ++
          .contentBlockStart (info.toolCallBaseIndex + piece.1)
            (.toolUse piece.2.id piece.2.name) ::
          ((if piece.2.arguments ≠ "" then
              [.contentBlockDelta (info.toolCallBaseIndex + piece.1) (.inputJson piece.2.arguments)]
            else []) ++
          after.flatMap fun p => toolEvents info.toolCallBaseIndex p.1 p.2) := by
      simp [fillTools, toolEvents, hname]
    rw [hevents]
    refine unstopped_append.mpr (Or.inr (Or.inl ⟨rfl, fun hstop => ?_⟩))
    rcases mem_append.mp hstop with hstop | hstop
    · split at hstop
      · simp at hstop
      · simp at hstop
    · exact stop_notMem_toolEvents hstop
  · simp only [floor, fillTools, htype, if_true]
    omega

/-! ### Deltas -/

def StreamDelta.offsetsOk (delta : StreamDelta) : Prop :=
  ∀ piece ∈ delta.toolPieces, piece.2.name ≠ "" → 0 ≤ piece.1

theorem emitted_convertDelta (h : 0 ≤ info.toolCallMaxIndexOffset) :
    Emitted info (convertDelta delta info).1 (convertDelta delta info).2 := by
  unfold convertDelta
  split
  · have henter := emitted_enterTools h
    exact henter.append (emitted_fillTools henter.offset (enterTools_type info))
  split
  · exact emitted_continueContent h
  · split
    · exact emitted_continueContent h
    · exact Emitted.nil h

theorem sameMessage_openContent : SameMessage info (openContent kind piece info).1 :=
  { sameMessage_stopOpenBlocksAndAdvance info with }

theorem sameMessage_continueContent : SameMessage info (continueContent kind piece info).1 := by
  unfold continueContent
  split
  · exact SameMessage.refl
  · exact sameMessage_openContent

theorem sameMessage_convertDelta (info : ConvertInfo) (delta : StreamDelta) :
    SameMessage info (convertDelta delta info).1 := by
  unfold convertDelta
  split
  · have henter : SameMessage info (enterTools info).1 := by
      unfold enterTools
      split
      · exact SameMessage.refl
      · exact { sameMessage_stopOpenBlocksAndAdvance info with }
    exact { henter with }
  · split
    · exact sameMessage_continueContent
    · split
      · exact sameMessage_continueContent
      · exact SameMessage.refl

theorem carried_convertDelta (h : delta.offsetsOk) :
    Carried info (convertDelta delta info).1 (convertDelta delta info).2 := by
  unfold convertDelta
  split
  · exact carried_enterTools.append (carried_fillTools (enterTools_type info) h)
  split
  · exact carried_continueContent
  split
  · exact carried_continueContent
  intro i hi
  rcases hi with hi | ⟨hopen, -⟩
  · exact absurd hi (by simp [Unstopped])
  · exact hopen

theorem stranded_convertDelta (h : ¬ delta.offsetsOk) :
    Stranded (convertDelta delta info).1 (convertDelta delta info).2 := by
  unfold StreamDelta.offsetsOk at h
  push Not at h
  obtain ⟨piece, hmem, hname, hneg⟩ := h
  have hcalls : delta.toolCalls ≠ [] := by
    intro hnil
    simp [StreamDelta.toolPieces, hnil] at hmem
  unfold convertDelta
  rw [if_pos hcalls]
  obtain ⟨i, hi, hlt⟩ := stranded_fillTools (enterTools_type info) hmem hname (by omega)
  exact ⟨i, unstopped_append.mpr (Or.inr hi), hlt⟩

/-- What becomes of the blocks while chunks are read; `ok` says that no tool call among them is
announced under a negative index. -/
structure Converted (ok : Prop) (info info' : ConvertInfo) (events : List ClaudeEvent) :
    Prop where
  emitted : Emitted info info' events
  carried : ok → Carried info info' events
  stranded : ¬ ok → Stranded info' events

theorem Converted.append (h : Converted ok a b e) (h' : Converted ok' b c e') :
    Converted (ok ∧ ok') a c (e ++ e') where
  emitted := h.emitted.append h'.emitted
  carried := fun hok => (h.carried hok.1).append (h'.carried hok.2)
  stranded := by
    intro hnot
    by_cases hok : ok
    · obtain ⟨i, hi, hlt⟩ := h'.stranded fun hok' => hnot ⟨hok, hok'⟩
      exact ⟨i, unstopped_append.mpr (Or.inr hi), hlt⟩
    · exact (h.stranded hok).append h'.emitted

theorem Converted.congr (h : Converted ok a b e) (hok : ok ↔ ok') : Converted ok' a b e := by
  rw [← hok]
  exact h

theorem Converted.of_recount {count : Nat} {usage : Option Usage}
    (h : Converted ok { info with sendResponseCount := count, usage := usage } info' e) :
    Converted ok info info' e where
  emitted := ⟨h.emitted.blocks, h.emitted.offset, h.emitted.floor, h.emitted.stops⟩
  carried := h.carried
  stranded := h.stranded

theorem converted_nil (hinfo : 0 ≤ info.toolCallMaxIndexOffset)
    (h : info' = { info with finishReason := info'.finishReason }) :
    Converted True info info' [] := by
  rw [h]
  exact
    { emitted :=
        { blocks := by intro e he; simp at he
          offset := hinfo
          floor := le_refl _
          stops := by intro i hi; simp at hi }
      carried := by
        intro _ i hi
        rcases hi with hi | ⟨hopen, -⟩
        · exact absurd hi (by simp [Unstopped])
        · exact hopen
      stranded := fun hnot => absurd trivial hnot }

theorem converted_convertDelta (delta : StreamDelta) (reason : String)
    (h : 0 ≤ info.toolCallMaxIndexOffset) :
    Converted delta.offsetsOk info
      (convertDelta delta { info with finishReason := reason }).1
      (convertDelta delta { info with finishReason := reason }).2 := by
  have hemitted : Emitted { info with finishReason := reason }
      (convertDelta delta { info with finishReason := reason }).1
      (convertDelta delta { info with finishReason := reason }).2 := emitted_convertDelta h
  have hcarried : delta.offsetsOk → Carried { info with finishReason := reason }
      (convertDelta delta { info with finishReason := reason }).1
      (convertDelta delta { info with finishReason := reason }).2 := carried_convertDelta
  exact
    { emitted := ⟨hemitted.blocks, hemitted.offset, hemitted.floor, hemitted.stops⟩
      carried := hcarried
      stranded := stranded_convertDelta }

end ApiGateway
