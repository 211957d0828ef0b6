import ApiGateway.Relay.ResponsesToChat

/-!
# What an event of a Responses stream does

Seen by its reader an event brings text, or a piece of a call, or neither (`OpenStep`, `CallStep`,
`SameCalls`). What it does to the maps of the handler is said once, for the call it is about.
-/

namespace ApiGateway

open Decimal List Streams Function ResponsesEvent String ResponsesStream

variable {delta : StreamDelta} {s' : ResponsesStream} {callID name : String} {e : ResponsesEvent}
  {call : ResponsesOutput}
variable {d started : String} {pieces : List String} {t : ResponsesStream}

/-! ### Events of a function call -/

inductive CallPart where
  | added (callID name arguments : String)
  | delta (delta : String)
  | done (callID name arguments : String)
deriving DecidableEq

variable {part : CallPart}

/-- The arguments a call has when it is added. -/
def CallPart.startedArgs : CallPart → String
  | .added _ _ arguments => arguments
  | _ => ""

def ResponsesOutput.itemID (out : ResponsesOutput) : String := trimSpace out.id

/-- The item id of the call an event is about, and what it says of the call. -/
def ResponsesEvent.callPart : ResponsesEvent → Option (String × CallPart)
  | .outputItemAdded item =>
    if item.type = .functionCall then
      some (item.itemID, .added item.callID (trimSpace item.name) item.arguments)
    else none
  | .outputItemDone item =>
    if item.type = .functionCall then
      some (item.itemID, .done item.callID (trimSpace item.name) item.arguments)
    else none
  | .functionCallArgumentsDelta itemId delta => some (trimSpace itemId, .delta delta)
  | _ => none

def ResponsesEvent.partFor (id : String) (e : ResponsesEvent) : Option CallPart :=
  match e.callPart with
  | some (id', part) => if id' = id then some part else none
  | none => none

def partsOf (id : String) (events : List ResponsesEvent) : List CallPart :=
  events.filterMap (ResponsesEvent.partFor id)

def ResponsesEvent.addedID (e : ResponsesEvent) : Option String :=
  match e.callPart with
  | some (id, .added _ _ _) => some id
  | _ => none

def ResponsesEvent.textDelta : ResponsesEvent → String
  | .outputTextDelta _ _ delta => delta
  | _ => ""

/-- The part of the output a text delta belongs to, and the delta. -/
def ResponsesEvent.textPiece : ResponsesEvent → Option ((String × Nat) × String)
  | .outputTextDelta itemId contentIndex delta => some ((itemId, contentIndex), delta)
  | _ => none

def streamedText (events : List ResponsesEvent) : String :=
  String.join (events.map ResponsesEvent.textDelta)

def ResponsesEvent.isOpen : ResponsesEvent → Bool
  | .completed _ => false
  | .failed => false
  | _ => true

/-! ### What one chunk conveys -/

section Send

variable {responseId : String} {s : ResponsesStream}

/-- Chunks that end nothing, with the text and the pieces of calls they bring. -/
structure Brings (chunks : List ChatChunk) (text : String) (pieces : List (Int × ToolCall)) :
    Prop where
  text : chatText chunks = text
  pieces : chatToolPieces chunks = pieces
  unfinished : chunks.filterMap ChatChunk.finish = []

theorem Brings.nil : Brings [] "" [] := ⟨rfl, rfl, rfl⟩

theorem Brings.append {a b : List ChatChunk} {t u : String} {p q : List (Int × ToolCall)}
    (ha : Brings a t p) (hb : Brings b u q) : Brings (a ++ b) (t ++ u) (p ++ q) where
  text := by rw [chatText_append, ha.text, hb.text]
  pieces := by rw [chatToolPieces_append, ha.pieces, hb.pieces]
  unfinished := by rw [filterMap_append, ha.unfinished, hb.unfinished, append_nil]

theorem sendStartIfNeeded_eq (responseId : String) (s : ResponsesStream) : ∃ chunks,
    sendStartIfNeeded responseId s = ({ s with sentStart := true }, chunks) ∧
      Brings chunks "" [] := by
  unfold sendStartIfNeeded
  cases hstart : s.sentStart with
  | true => cases s; subst hstart; exact ⟨[], rfl, Brings.nil⟩
  | false => exact ⟨_, rfl, rfl, rfl, rfl⟩

theorem sendDelta_eq (responseId : String) (s : ResponsesStream) (delta : StreamDelta) : ∃ chunks,
    sendDelta responseId s delta = ({ s with sentStart := true }, chunks) ∧
      Brings chunks delta.getContentString delta.toolPieces := by
  obtain ⟨chunks, hstart, hbrings⟩ := sendStartIfNeeded_eq responseId s
  have hdelta : Brings [{ id := responseId, model := s.model, choices := [{ delta := delta }] }]
      delta.getContentString delta.toolPieces := by
    refine ⟨?_, ?_, rfl⟩
    · simp [chatText, ChatChunk.delta]
    · simp [chatToolPieces, ChatChunk.delta]
  have h := hbrings.append hdelta
  refine ⟨_, ?_, h⟩
  unfold sendDelta
  rw [hstart]

/-! ### Text, errors and the end -/

/-- What an event does, calls apart: it brings its own text and ends nothing. -/
structure OpenStep (s : ResponsesStream) (result : ResponsesStream × List ChatChunk)
    (text : String) : Prop where
  outputText : result.1.outputText = s.outputText ++ text
  streamErr : result.1.streamErr = s.streamErr
  sentStop : result.1.sentStop = s.sentStop
  brings : ∃ pieces, Brings result.2 text pieces

theorem OpenStep.nothing (ht : s'.outputText = s.outputText)
    (he : s'.streamErr = s.streamErr) (hs : s'.sentStop = s.sentStop) :
    OpenStep s (s', []) "" :=
  ⟨by rw [append_empty]; exact ht, he, hs, [], Brings.nil⟩

theorem sendDelta_openStep (ht : s'.outputText = s.outputText ++ delta.getContentString)
    (he : s'.streamErr = s.streamErr) (hs : s'.sentStop = s.sentStop) :
    OpenStep s (sendDelta responseId s' delta) delta.getContentString := by
  obtain ⟨chunks, heq, hbrings⟩ := sendDelta_eq responseId s' delta
  rw [heq]
  exact ⟨ht, he, hs, _, hbrings⟩

theorem sendToolCallDelta_openStep {argsDelta : String}
    (ht : s'.outputText = s.outputText) (he : s'.streamErr = s.streamErr)
    (hs : s'.sentStop = s.sentStop) :
    OpenStep s (sendToolCallDelta responseId s' callID name argsDelta) "" := by
  unfold sendToolCallDelta
  split
  · exact .nothing ht he hs
  split
  · exact .nothing ht he hs
  · refine sendDelta_openStep ?_ he hs
    change s'.outputText = s.outputText ++ ""
    rw [ht, append_empty]

theorem ResponsesStream.withModel_eq (s : ResponsesStream) (model : String) :
    ∃ m, s.withModel model = { s with model := m } := by
  unfold withModel
  split
  · exact ⟨model, rfl⟩
  · exact ⟨s.model, rfl⟩

/-- What an event that is about no call leaves as it is. -/
structure SameCalls (s : ResponsesStream) (result : ResponsesStream × List ChatChunk) : Prop where
  sawToolCall : result.1.sawToolCall = s.sawToolCall
  index : result.1.toolCallIndexByID = s.toolCallIndexByID
  args : result.1.toolCallArgsByID = s.toolCallArgsByID
  names : result.1.toolCallNameByID = s.toolCallNameByID
  namesSent : result.1.toolCallNameSent = s.toolCallNameSent
  canonical : result.1.toolCallCanonicalIDByItemID = s.toolCallCanonicalIDByItemID
  pieces : chatToolPieces result.2 = []

theorem SameCalls.sendDelta (h : SameCalls s (t, [])) (hdelta : delta.toolCalls = []) :
    SameCalls s (sendDelta responseId t delta) := by
  have hpieces : delta.toolPieces = [] := by
    unfold StreamDelta.toolPieces
    rw [hdelta]
    rfl
  obtain ⟨chunks, heq, hbrings⟩ := sendDelta_eq responseId t delta
  rw [heq]
  exact { h with pieces := hbrings.pieces.trans hpieces }

theorem handleResponsesEvent_plain (he : e.isOpen = true) (herr : s.streamErr = false)
    (hpart : e.callPart = none) :
    OpenStep s (handleResponsesEvent responseId s e) e.textDelta ∧
      SameCalls s (handleResponsesEvent responseId s e) := by
  have hself : OpenStep s (s, []) "" ∧ SameCalls s (s, []) :=
    ⟨.nothing rfl rfl rfl, rfl, rfl, rfl, rfl, rfl, rfl, rfl⟩
  have hitem : ∀ item : ResponsesOutput, item.type ≠ .functionCall →
      handleOutputItem responseId s item = (s, []) := fun _ htype => if_pos htype
  unfold handleResponsesEvent
  rw [if_neg (by rw [herr]; decide)]
  unfold callPart at hpart
  cases e with
  | created model =>
    obtain ⟨m, hm⟩ := s.withModel_eq model
    dsimp only
    rw [hm]
    exact ⟨.nothing rfl rfl rfl, rfl, rfl, rfl, rfl, rfl, rfl, rfl⟩
  | reasoningSummaryTextDelta =>
    dsimp only
    unfold sendReasoningSummaryDelta
    split
    · exact hself
    · exact ⟨sendDelta_openStep append_empty.symm rfl rfl,
        .sendDelta ⟨rfl, rfl, rfl, rfl, rfl, rfl, rfl⟩ rfl⟩
  | reasoningSummaryTextDone =>
    dsimp only
    split
    · exact ⟨.nothing rfl rfl rfl, rfl, rfl, rfl, rfl, rfl, rfl, rfl⟩
    · exact hself
  | outputTextDelta =>
    dsimp only [textDelta]
    split
    · rename_i hdelta
      subst hdelta
      obtain ⟨chunks, heq, hbrings⟩ := sendStartIfNeeded_eq responseId s
      rw [heq]
      exact ⟨⟨append_empty.symm, rfl, rfl, _, hbrings⟩,
        rfl, rfl, rfl, rfl, rfl, rfl, hbrings.pieces⟩
    · exact ⟨sendDelta_openStep rfl rfl rfl, .sendDelta ⟨rfl, rfl, rfl, rfl, rfl, rfl, rfl⟩ rfl⟩
  | outputItemAdded item | outputItemDone item =>
    dsimp only at hpart ⊢
    split at hpart
    · cases hpart
    · rwa [hitem item (by assumption)]
  | functionCallArgumentsDelta => cases hpart
  | functionCallArgumentsDone => exact hself
  | completed | failed => exact Bool.noConfusion he
  | other => exact hself

theorem ResponsesEvent.callPart_cases {id : String} (h : e.callPart = some (id, part)) :
    (∃ item : ResponsesOutput, item.type = .functionCall ∧ item.itemID = id ∧
      (e = .outputItemAdded item ∧
          part = .added item.callID (trimSpace item.name) item.arguments ∨
        e = .outputItemDone item ∧
          part = .done item.callID (trimSpace item.name) item.arguments)) ∨
    ∃ itemId d, trimSpace itemId = id ∧ e = .functionCallArgumentsDelta itemId d ∧
      part = .delta d := by
  unfold callPart at h
  cases e with
  | outputItemAdded item | outputItemDone item =>
    dsimp only at h
    split at h
    · obtain ⟨hid, rfl⟩ := Prod.mk.inj (Option.some.inj h)
      exact .inl ⟨item, by assumption, hid, by simp⟩
    · cases h
  | functionCallArgumentsDelta itemId d =>
    obtain ⟨hid, hpart⟩ := Prod.mk.inj (Option.some.inj h)
    exact .inr ⟨itemId, d, hid, rfl, hpart.symm⟩
  | _ => cases h

theorem recordItem_frame (s : ResponsesStream) (item : ResponsesOutput) :
    (s.recordItem item).outputText = s.outputText ∧
    (s.recordItem item).streamErr = s.streamErr ∧ (s.recordItem item).sentStop = s.sentStop ∧
    (s.recordItem item).toolCallIndexByID = s.toolCallIndexByID ∧
    (s.recordItem item).toolCallNameSent = s.toolCallNameSent := by
  simp only [recordItem, nameToolCall, and_self]

theorem handleResponsesEvent_sends (responseId : String) {id : String} (herr : s.streamErr = false)
    (hpart : e.callPart = some (id, part)) :
    e.textDelta = "" ∧ ∃ t callID name d, handleResponsesEvent responseId s e =
        sendToolCallDelta responseId t callID name d ∧
      t.outputText = s.outputText ∧ t.streamErr = s.streamErr ∧ t.sentStop = s.sentStop := by
  unfold handleResponsesEvent
  rw [if_neg (by rw [herr]; decide)]
  rcases e.callPart_cases hpart with ⟨item, htype, -, ⟨rfl, -⟩ | ⟨rfl, -⟩⟩ | ⟨-, d, -, rfl, -⟩
  case inr =>
    refine ⟨rfl, ?_⟩
    unfold handleArgumentsDelta
    dsimp only
    split
    · exact ⟨s, "", "", "", rfl, rfl, rfl, rfl⟩
    · exact ⟨_, _, _, _, rfl, rfl, rfl, rfl⟩
  all_goals
    obtain ⟨ht, he, hs, -⟩ := recordItem_frame s item
    exact ⟨rfl, _, _, _, _, if_neg (not_not.mpr htype), ht, he, hs⟩

theorem handleResponsesEvent_openStep (he : e.isOpen = true) (hs : s.streamErr = false) :
    OpenStep s (handleResponsesEvent responseId s e) e.textDelta := by
  cases hpart : e.callPart with
  | none => exact (handleResponsesEvent_plain he hs hpart).1
  | some =>
    obtain ⟨hnone, t, callID, name, d, heq, htext, herr, hstop⟩ :=
      handleResponsesEvent_sends responseId hs hpart
    rw [heq, hnone]
    exact sendToolCallDelta_openStep htext herr hstop

/-- What the handler has done with the events read so far, calls apart. -/
structure OpenRun (pre : List ResponsesEvent) (s : ResponsesStream) (sent : List ChatChunk) :
    Prop where
  outputText : s.outputText = streamedText pre
  streamErr : s.streamErr = false
  sentStop : s.sentStop = false
  text : chatText sent = streamedText pre
  unfinished : sent.filterMap ChatChunk.finish = []

theorem streamedText_append (a b : List ResponsesEvent) :
    streamedText (a ++ b) = streamedText a ++ streamedText b := by
  unfold streamedText
  rw [map_append, join_append]

theorem streamedText_singleton (e : ResponsesEvent) : streamedText [e] = e.textDelta := by
  unfold streamedText
  rw [map_singleton, join_cons, join_nil, append_empty]

theorem OpenRun.step {pre : List ResponsesEvent} {sent : List ChatChunk}
    (h : OpenRun pre s sent) (he : e.isOpen = true) :
    OpenRun (pre ++ [e]) (handleResponsesEvent responseId s e).1
      (sent ++ (handleResponsesEvent responseId s e).2) := by
  have hstep : OpenStep s (handleResponsesEvent responseId s e) e.textDelta :=
    handleResponsesEvent_openStep he h.streamErr
  obtain ⟨pieces, hbrings⟩ := hstep.brings
  refine ⟨?_, ?_, ?_, ?_, ?_⟩
  · rw [hstep.outputText, h.outputText, streamedText_append, streamedText_singleton]
  · rw [hstep.streamErr, h.streamErr]
  · rw [hstep.sentStop, h.sentStop]
  · rw [chatText_append, h.text, hbrings.text, streamedText_append, streamedText_singleton]
  · rw [filterMap_append, h.unfinished, hbrings.unfinished, append_nil]

/-- What the handler has come to after some events, and what it has sent. -/
abbrev handled (responseId model : String) (events : List ResponsesEvent) :
    ResponsesStream × List ChatChunk :=
  run (handleResponsesEvent responseId) { model := model } events

theorem openRun (responseId model : String) {body : List ResponsesEvent}
    (hopen : ∀ e ∈ body, e.isOpen = true) :
    OpenRun body (handled responseId model body).1 (handled responseId model body).2 := by
  refine run_invariant ⟨rfl, rfl, rfl, rfl, rfl⟩ ?_
  intro pre e post s sent hbody h
  refine h.step (hopen e ?_)
  rw [hbody]
  exact mem_append_right _ (mem_cons_self ..)

/-! ### Calls -/

variable (prevArgs : String)

/-- The arguments the handler holds for a call after one more of its events. -/
def CallPart.held : CallPart → String
  | .added _ _ arguments => if arguments ≠ "" then arguments else prevArgs
  | .delta d => prevArgs ++ d
  | .done _ _ arguments => if arguments ≠ "" then arguments else prevArgs

/-- The piece of the arguments that is sent for an event. -/
def CallPart.piece : CallPart → String
  | .added _ _ arguments => argumentsDelta prevArgs arguments
  | .delta d => d
  | .done _ _ arguments => argumentsDelta prevArgs arguments

def CallPart.step (part : CallPart) : String × List String :=
  (part.held prevArgs, [part.piece prevArgs])

variable (parts : List CallPart)

/-- What is held and what is sent of the arguments of a call, from its own events. -/
def callRun : String × List String :=
  run CallPart.step "" parts

def heldArgs : String := (callRun parts).1

def sentArgs : String := String.join (callRun parts).2

theorem sentArgs_append (part : CallPart) :
    sentArgs (parts ++ [part]) = sentArgs parts ++ part.piece (heldArgs parts) := by
  unfold sentArgs heldArgs callRun
  rw [run_append, run_singleton, CallPart.step, join_append,
    join_cons, join_nil, append_empty]

theorem run_deltas (pieces : List String) :
    run CallPart.step prevArgs (pieces.map .delta) = (prevArgs ++ join pieces, pieces) := by
  induction pieces generalizing prevArgs with
  | nil => simp
  | cons d _ ih =>
    have hstep : CallPart.step prevArgs (.delta d) = (prevArgs ++ d, [d]) := rfl
    rw [map_cons, run_cons, hstep, ih, join_cons, String.append_assoc]
    rfl

theorem argumentsDelta_empty (newArgs : String) : argumentsDelta "" newArgs = newArgs := by
  unfold argumentsDelta
  split
  · rename_i h; exact h.symm
  · simp

theorem argumentsDelta_self (args : String) : argumentsDelta args args = "" := by
  unfold argumentsDelta
  split
  · rfl
  · simp [← length_toList]

/-- All that is sent of the arguments of a call: when it is done, what the arguments have beyond
what is held then. -/
theorem sentArgs_complete {arguments : String} :
    sentArgs (.added callID name started :: (pieces.map .delta ++
      [.done callID name arguments])) =
      started ++ join pieces ++
        argumentsDelta (started ++ join pieces) arguments := by
  have hfirst : CallPart.step "" (.added callID name started) = (started, [started]) := by
    unfold CallPart.step CallPart.held CallPart.piece
    dsimp only
    rw [argumentsDelta_empty]
    by_cases h : started = ""
    · simp [h]
    · simp [h]
  unfold sentArgs callRun
  rw [run_cons, hfirst, run_append, run_deltas, run_singleton,
    singleton_append, join_cons, join_append]
  unfold CallPart.step CallPart.piece
  rw [join_cons, join_nil, append_empty, String.append_assoc]

/-- **The client gets the arguments of a call once**, if none were there when it was added. -/
theorem sentArgs_eq_iff :
    sentArgs (.added callID name started :: (pieces.map .delta ++
      [.done callID name (join pieces)])) = join pieces ↔ started = "" := by
  rw [sentArgs_complete]
  constructor
  · intro h
    have hlength := congrArg String.length h
    rw [String.length_append, String.length_append] at hlength
    exact length_eq_zero_iff.mp (by omega)
  · rintro rfl
    rw [empty_append, argumentsDelta_self, append_empty]

/-- An event that is about `call`: it has the ids and the name of the call. -/
def CallPart.IsOf (call : ResponsesOutput) (part : CallPart) : Prop :=
  (∃ arguments, part = .added call.callID (trimSpace call.name) arguments) ∨
  (∃ d, part = .delta d) ∨
  ∃ arguments, part = .done call.callID (trimSpace call.name) arguments

theorem callID_ne_empty (h : call.itemID ≠ "") : call.callID ≠ "" := by
  unfold ResponsesOutput.callID
  split
  · exact h
  · assumption

/-- What an event of `call` does to the maps, and the piece it sends. -/
structure CallStep (s : ResponsesStream) (call : ResponsesOutput) (part : CallPart)
    (result : ResponsesStream × List ChatChunk) : Prop where
  sawToolCall : result.1.sawToolCall = true
  index : result.1.toolCallIndexByID = s.indexToolCall call.callID
  args : result.1.toolCallArgsByID = update s.toolCallArgsByID call.callID
    (part.held (s.toolCallArgsByID call.callID))
  names : result.1.toolCallNameByID =
    update s.toolCallNameByID call.callID (trimSpace call.name)
  namesSent : result.1.toolCallNameSent = update s.toolCallNameSent call.callID
    (s.toolCallNameSent call.callID || trimSpace call.name != "")
  canonical : result.1.toolCallCanonicalIDByItemID =
    update s.toolCallCanonicalIDByItemID call.itemID call.callID
  brings : Brings result.2 "" [((s.toolCallIndex call.callID : Int),
    { id := call.callID
      name := if s.toolCallNameSent call.callID then "" else trimSpace call.name
      arguments := part.piece (s.toolCallArgsByID call.callID) })]

/-- `t` is the state in which the piece is sent: the event was put into the maps before. -/
theorem sendToolCallDelta_callStep (hid : call.itemID ≠ "") (htext : t.outputText = "")
    (hindex : t.toolCallIndexByID = s.toolCallIndexByID)
    (hsent : t.toolCallNameSent = s.toolCallNameSent)
    (hargs : t.toolCallArgsByID = update s.toolCallArgsByID call.callID
      (part.held (s.toolCallArgsByID call.callID)))
    (hnames : (t.nameToolCall call.callID name).toolCallNameByID =
      update s.toolCallNameByID call.callID (trimSpace call.name))
    (hcanonical : t.toolCallCanonicalIDByItemID =
      update s.toolCallCanonicalIDByItemID call.itemID call.callID)
    (hpiece : d = part.piece (s.toolCallArgsByID call.callID)) :
    CallStep s call part (sendToolCallDelta responseId t call.callID name d) := by
  have hname : (t.nameToolCall call.callID name).toolCallNameByID call.callID =
      trimSpace call.name := by rw [hnames, update_self]
  have hsends : (t.nameToolCall call.callID name).sendsName call.callID =
      (trimSpace call.name != "" && !s.toolCallNameSent call.callID) := by
    unfold sendsName
    rw [hname]
    change (_ && !t.toolCallNameSent call.callID) = _
    rw [hsent]
  have hidx : (t.nameToolCall call.callID name).toolCallIndex call.callID =
      s.toolCallIndex call.callID := by
    change t.toolCallIndex call.callID = _
    unfold toolCallIndex
    rw [hindex]
  obtain ⟨chunks, heq, hbrings⟩ := sendDelta_eq responseId
    ((t.nameToolCall call.callID name).pieceSent call.callID)
    { toolCalls := [(t.nameToolCall call.callID name).toolPiece call.callID d] }
  unfold sendToolCallDelta
  rw [if_neg (callID_ne_empty hid), if_neg (not_not.mpr htext), heq]
  refine ⟨rfl, ?_, hargs, hnames, ?_, hcanonical, ?_⟩
  · change t.indexToolCall call.callID = _
    unfold indexToolCall
    rw [hindex]
  · change (if (t.nameToolCall call.callID name).sendsName call.callID = true then
      update t.toolCallNameSent call.callID true else t.toolCallNameSent) = _
    rw [hsends, hsent]
    cases hold : s.toolCallNameSent call.callID with
    | true =>
      rw [Bool.not_true, Bool.and_false, if_neg (by decide), Bool.true_or, ← hold, update_eq_self]
    | false =>
      rw [Bool.not_false, Bool.and_true, Bool.false_or]
      split
      · rename_i h; rw [h]
      · rename_i h
        rw [Bool.not_eq_true] at h
        rw [h, ← hold, update_eq_self]
  · refine ⟨hbrings.text, hbrings.pieces.trans ?_, hbrings.unfinished⟩
    unfold StreamDelta.toolPieces toolPiece
    rw [hsends, hname, hidx, hpiece]
    cases s.toolCallNameSent call.callID with
    | true => simp
    | false => by_cases hempty : trimSpace call.name = "" <;> simp [hempty]

theorem handleOutputItem_callStep {item : ResponsesOutput}
    (hid : call.itemID ≠ "") (htext : s.outputText = "") (htype : item.type = .functionCall)
    (hitemID : item.itemID = call.itemID) (hcallID : item.callID = call.callID)
    (hname : trimSpace item.name = trimSpace call.name)
    (hheld : part.held (s.toolCallArgsByID call.callID) =
      if item.arguments ≠ "" then item.arguments else s.toolCallArgsByID call.callID)
    (hpiece : part.piece (s.toolCallArgsByID call.callID) =
      argumentsDelta (s.toolCallArgsByID call.callID) item.arguments)
    (hold : s.toolCallNameByID call.callID = "" ∨
      s.toolCallNameByID call.callID = trimSpace call.name) :
    CallStep s call part (handleOutputItem responseId s item) := by
  -- an empty name leaves the map as it is, and then the map has no other name either
  have hnamed : ∀ names : String → String, (names call.callID = "" ∨
      names call.callID = trimSpace call.name) →
      (if trimSpace call.name ≠ "" then update names call.callID (trimSpace call.name)
        else names) = update names call.callID (trimSpace call.name) := by
    intro names hnames
    split
    · rfl
    rename_i hempty
    rw [not_not] at hempty
    rw [hempty] at hnames ⊢
    symm
    rw [update_eq_self_iff]
    rcases hnames with h | h
    · exact h.symm
    · exact h.symm
  unfold handleOutputItem
  rw [if_neg (not_not.mpr htype)]
  rw [hcallID]
  obtain ⟨ht, -, -, hindex, hsent⟩ := recordItem_frame s item
  refine sendToolCallDelta_callStep hid (ht.trans htext) hindex hsent ?_ ?_ ?_ hpiece.symm
  · unfold recordItem
    rw [hheld, hcallID]
    split
    · rfl
    · exact (update_eq_self ..).symm
  · unfold recordItem nameToolCall
    rw [hname, hcallID, hnamed _ hold, hnamed _ (Or.inr (update_self ..)), update_idem]
  · unfold recordItem
    dsimp only
    rw [hcallID, show trimSpace item.id = call.itemID from hitemID,
      if_pos ⟨hid, callID_ne_empty hid⟩]

theorem handleArgumentsDelta_callStep {itemId : String}
    (hid : call.itemID ≠ "") (htext : s.outputText = "") (hitemID : trimSpace itemId = call.itemID)
    (hcanonical : s.toolCallCanonicalIDByItemID call.itemID = call.callID)
    (hname : s.toolCallNameByID call.callID = trimSpace call.name) :
    CallStep s call (.delta d) (handleArgumentsDelta responseId s itemId d) := by
  have hcallID : s.canonicalID (trimSpace itemId) = call.callID := by
    unfold canonicalID
    rw [hitemID, hcanonical, if_neg (callID_ne_empty hid)]
  unfold handleArgumentsDelta
  rw [hcallID, if_neg (callID_ne_empty hid)]
  refine sendToolCallDelta_callStep hid ?_ ?_ ?_ ?_ ?_ ?_ rfl
  · exact htext
  · rfl
  · rfl
  · simp [CallPart.held]
  · unfold nameToolCall
    rw [if_neg (by decide), ← hname, update_eq_self]
  · rw [← hcanonical, update_eq_self]

/-- **An event of a call sends one piece of it.** -/
theorem handleResponsesEvent_callStep (herr : s.streamErr = false) (htext : s.outputText = "")
    (hid : call.itemID ≠ "") (he : e.callPart = some (call.itemID, part)) (hof : part.IsOf call)
    (hold : s.toolCallNameByID call.callID = "" ∨
      s.toolCallNameByID call.callID = trimSpace call.name) (hdelta : ∀ d, part = .delta d →
      s.toolCallCanonicalIDByItemID call.itemID = call.callID ∧
      s.toolCallNameByID call.callID = trimSpace call.name) :
    CallStep s call part (handleResponsesEvent responseId s e) := by
  unfold handleResponsesEvent
  rw [if_neg (by rw [herr]; decide)]
  rcases e.callPart_cases he with
    ⟨item, htype, hitemID, ⟨rfl, rfl⟩ | ⟨rfl, rfl⟩⟩ | ⟨itemId, d, hitemID, rfl, rfl⟩
  · rcases hof with ⟨arguments, heq⟩ | ⟨d, heq⟩ | ⟨arguments, heq⟩
    · obtain ⟨hcallID, hname, -⟩ := CallPart.added.inj heq
      exact handleOutputItem_callStep hid htext htype hitemID hcallID hname rfl rfl hold
    · cases heq
    · cases heq
  · rcases hof with ⟨arguments, heq⟩ | ⟨d, heq⟩ | ⟨arguments, heq⟩
    · cases heq
    · cases heq
    · obtain ⟨hcallID, hname, -⟩ := CallPart.done.inj heq
      exact handleOutputItem_callStep hid htext htype hitemID hcallID hname rfl rfl hold
  · obtain ⟨hcanonical, hname⟩ := hdelta d rfl
    exact handleArgumentsDelta_callStep hid htext hitemID hcanonical hname

theorem handleResponsesEvent_afterText (he : e.isOpen = true)
    (herr : s.streamErr = false) (htext : s.outputText ≠ "") :
    chatToolPieces (handleResponsesEvent responseId s e).2 = [] := by
  cases hpart : e.callPart with
  | none => exact (handleResponsesEvent_plain he herr hpart).2.pieces
  | some =>
    obtain ⟨-, t, callID, name, d, heq, ht, -⟩ := handleResponsesEvent_sends responseId herr hpart
    rw [heq]
    unfold sendToolCallDelta
    split
    · rfl
    · rw [if_pos (by rw [ht]; exact htext)]
      rfl

end Send

end ApiGateway
