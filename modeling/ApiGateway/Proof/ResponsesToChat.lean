import ApiGateway.Proof.ResponsesCalls

/-!
# Streamed and whole Responses answers agree

From the first text on no piece of a call is sent any more, as a whole answer has either text or
calls. The two agree if the text comes first, and if it is the text of the assistant: a whole answer
in which the assistant says nothing takes its text from any other item.
-/

namespace ApiGateway

open Decimal List Streams ResponsesOutput ResponsesEvent

variable {events : List ResponsesEvent} {s : ResponsesStream}
variable {begun : List ResponsesOutput} {sent : List ChatChunk}

/-- The streamed answer is the whole one. -/
structure ChatAgrees (chunks : List ChatChunk) (response : OpenAITextResponse) : Prop where
  text : chatText chunks = response.content
  /-- The same calls, numbered 0, 1, 2 and so on. -/
  toolCalls : chatToolCalls chunks = number 0 response.toolCalls
  finishReason : chatFinishReason chunks = some response.finishReason

/-- The text deltas in the order of the parts of the output. -/
def sortedText (body : List ResponsesEvent) (output : List ResponsesOutput) : String :=
  String.join ((textParts output).map fun part =>
    String.join ((textDeltasOf part.1 body).map Prod.snd))

/-- When a stream gives what the whole answer gives. -/
structure StreamsAlike (body : List ResponsesEvent) (response : OpenAIResponsesResponse) :
    Prop where
  /-- The order in which the text deltas come makes no difference. -/
  sorted : streamedText body = sortedText body response.output
  /-- If there is text, it comes before any call. -/
  textFirst : streamedText body ≠ "" →
    ∀ e ∈ body.takeWhile fun e => e.textDelta = "", e.callPart = none
  /-- If there is none, no item has any, -/
  silent : streamedText body = "" → ∀ out ∈ response.output, ∀ c ∈ out.content, c.text = ""
  /-- every call has a name, -/
  named : streamedText body = "" → ∀ call ∈ functionCalls response, trimSpace call.name ≠ ""
  /-- they are added in the order of the output, -/
  ordered : streamedText body = "" →
    body.filterMap ResponsesEvent.addedID = (functionCalls response).map itemID
  /-- and they are added without arguments. -/
  unstarted : streamedText body = "" →
    ∀ p ∈ body.filterMap ResponsesEvent.callPart, p.2.startedArgs = ""

section Completed

variable {body pre post : List ResponsesEvent} {response : OpenAIResponsesResponse}
  {e : ResponsesEvent} {call : ResponsesOutput} {part : CallPart}

/-! ### Runs -/

section Run

variable {responseId model : String}

theorem streamedText_eq_empty : streamedText events = "" ↔ ∀ e ∈ events, e.textDelta = "" := by
  unfold streamedText
  rw [join_eq_empty]
  simp

variable (responseId model) in
theorem streaming_run (h : CompletedStream body response) (hbody : body = pre ++ post)
    (htext : ∀ e ∈ pre, e.textDelta = "") :
    ∃ begun, Streaming (functionCalls response) begun pre (handled responseId model pre).1
      (handled responseId model pre).2 := by
  suffices hrun : OpenRun pre (handled responseId model pre).1 (handled responseId model pre).2 ∧
      ∃ begun, Streaming (functionCalls response) begun pre (handled responseId model pre).1
        (handled responseId model pre).2 from hrun.2
  refine run_invariant (I := fun pre s sent => OpenRun pre s sent ∧
    ∃ begun, Streaming (functionCalls response) begun pre s sent)
    ⟨⟨rfl, rfl, rfl, rfl, rfl⟩, [], Streaming.init⟩ ?_
  rintro pre' e post' s sent hpre ⟨hopen, begun, hI⟩
  have hbody' : body = pre' ++ e :: (post' ++ post) := by
    rw [hbody, hpre, append_assoc, cons_append]
  have hquiet : s.outputText = "" := by
    rw [hopen.outputText, streamedText_eq_empty]
    intro e' he'
    exact htext e' (hpre ▸ mem_append_left _ he')
  refine ⟨hopen.step (h.isOpen e ?_), hI.step h hbody' hopen.streamErr hquiet⟩
  rw [hbody']
  exact mem_append_right _ (mem_cons_self ..)

theorem pieces_afterText (hopen : ∀ e ∈ events, e.isOpen = true) (herr : s.streamErr = false)
    (htext : s.outputText ≠ "") :
    chatToolPieces (run (handleResponsesEvent responseId) s events).2 = [] := by
  induction events generalizing s with
  | nil => rfl
  | cons e _ ih =>
    have he : e.isOpen = true := hopen e (mem_cons_self ..)
    have hstep : OpenStep s (handleResponsesEvent responseId s e) e.textDelta :=
      handleResponsesEvent_openStep he herr
    rw [run_cons, chatToolPieces_append, handleResponsesEvent_afterText he herr htext,
      ih (fun e' he' => hopen e' (mem_cons_of_mem _ he')) (hstep.streamErr.trans herr) ?_]
    · rfl
    · rw [hstep.outputText, ne_eq, String.append_eq_empty_iff]
      exact fun hempty => htext hempty.1

/-! ### The end of the stream -/

theorem sendStopIfNeeded_open (id : String) (h : s.sentStop = false) : ∃ chunks,
    sendStopIfNeeded id s = ({ s with sentStart := true, sentStop := true }, chunks) ∧
    chatText chunks = "" ∧ chatToolPieces chunks = [] ∧
    chunks.filterMap ChatChunk.finish = [s.finishReason] := by
  obtain ⟨chunks, heq, hstart⟩ := sendStartIfNeeded_eq id s
  unfold sendStopIfNeeded
  rw [heq, if_neg (by rw [h]; decide)]
  refine ⟨_, rfl, ?_, ?_, ?_⟩
  · rw [chatText_append, hstart.text]
    rfl
  · rw [chatToolPieces_append, hstart.pieces]
    rfl
  · rw [filterMap_append, hstart.unfinished]
    rfl

/-- What the client has at the end is what the events before the end brought. -/
structure Finished (chunks : List ChatChunk) (s : ResponsesStream) (sent : List ChatChunk) :
    Prop where
  text : chatText chunks = chatText sent
  toolCalls : chatToolCalls chunks = chatToolCalls sent
  finishReason : chatFinishReason chunks = some s.finishReason

theorem handler_finished (responseId model : String) (usage : Option Usage)
    (response : OpenAIResponsesResponse) (hopen : ∀ e ∈ body, e.isOpen = true) :
    Finished (oaiResponsesToChatStreamHandler responseId model usage
        (body ++ [.completed response]))
      (handled responseId model body).1 (handled responseId model body).2 := by
  have hrun := openRun responseId model hopen
  unfold oaiResponsesToChatStreamHandler
  rw [run_append, run_singleton, ← handled]
  generalize handled responseId model body = r at hrun
  obtain ⟨m, hmodel⟩ := r.1.withModel_eq response.model
  have hhandle : handleResponsesEvent responseId r.1 (.completed response) =
      sendStopIfNeeded responseId { r.1 with model := m } := by
    unfold handleResponsesEvent
    rw [if_neg (by rw [hrun.streamErr]; decide), ← hmodel]
  have hstop : ({ r.1 with model := m } : ResponsesStream).sentStop = false := hrun.sentStop
  obtain ⟨chunks, hstopped, htext, hpieces, hfinish⟩ := sendStopIfNeeded_open responseId hstop
  rw [hhandle, hstopped]
  have hsent : (sendStopIfNeeded responseId
      { r.1 with model := m, sentStart := true, sentStop := true }).2 = [] := by
    simp [sendStopIfNeeded, sendStartIfNeeded]
  rw [if_neg (by rw [hrun.streamErr]; decide), hsent, append_nil]
  generalize hlast : (usage.map fun usage =>
    ({ id := responseId, model := m, usage := some usage } : ChatChunk)).toList = last
  -- the chunk with the usage has no choice, so it brings nothing
  have husage : chatText last = "" ∧ chatToolPieces last = [] ∧
      last.filterMap ChatChunk.finish = [] := by
    subst hlast
    cases usage with
    | none | some => exact ⟨rfl, rfl, rfl⟩
  refine ⟨?_, ?_, ?_⟩
  · rw [chatText_append, chatText_append, htext, husage.1, String.append_empty, String.append_empty]
  · unfold chatToolCalls
    rw [chatToolPieces_append, chatToolPieces_append, hpieces, husage.2.1, append_nil, append_nil]
  unfold chatFinishReason
  rw [filterMap_append, filterMap_append, hrun.unfinished, hfinish, husage.2.2]
  rfl

end Run

/-! ### Both answers -/

def ResponsesOutput.whole (call : ResponsesOutput) : ToolCall :=
  { id := call.callID, name := trimSpace call.name, arguments := call.arguments }

theorem toolCall_eq (hcall : call ∈ functionCalls response) :
    call.toolCall = if trimSpace call.name = "" then none else some call.whole := by
  have htype : call.type = .functionCall := of_decide_eq_true (mem_filter.mp hcall).2
  unfold toolCall
  rw [if_neg (by rw [not_not]; exact htype)]
  rfl

theorem toolCalls_eq (id : String) (response : OpenAIResponsesResponse) :
    (responsesResponseToChatCompletionsResponse id response).toolCalls =
      if extractOutputTextFromResponses response = "" then
        (functionCalls response).filterMap toolCall
      else [] := by
  have hfilter : response.output.filterMap toolCall =
      (functionCalls response).filterMap toolCall := by
    unfold functionCalls
    rw [filterMap_filter]
    congr 1
    funext out
    unfold toolCall
    by_cases htype : out.type = .functionCall
    · simp [htype]
    · simp [htype]
  unfold responsesResponseToChatCompletionsResponse
  rw [hfilter]

theorem content_eq (id : String) (response : OpenAIResponsesResponse) :
    (responsesResponseToChatCompletionsResponse id response).content =
      extractOutputTextFromResponses response := by
  unfold responsesResponseToChatCompletionsResponse
  dsimp only
  by_cases htext : extractOutputTextFromResponses response = ""
  · rw [htext, ite_self]
  · rw [if_neg htext, if_neg (by simp)]

theorem finishReason_eq (id : String) (response : OpenAIResponsesResponse) :
    (responsesResponseToChatCompletionsResponse id response).finishReason =
      if (responsesResponseToChatCompletionsResponse id response).toolCalls ≠ [] then "tool_calls"
      else "stop" := rfl

theorem assistantText_eq (output : List ResponsesOutput) :
    assistantText output = String.join ((textParts output).map Prod.snd) := by
  unfold assistantText textParts
  rw [map_flatMap]
  congr 2
  funext out
  have hfst : out.content.zipIdx.map Prod.fst = out.content := zipIdx_map_fst ..
  conv_lhs => rw [← hfst]
  rw [filter_map, map_map, map_map]
  rfl

theorem CompletedStream.sortedText_eq (h : CompletedStream body response) :
    sortedText body response.output = assistantText response.output := by
  rw [assistantText_eq, sortedText]
  congr 1
  exact map_congr_left fun part hpart => (h.texts part hpart).symm

theorem CompletedStream.streamedText_of_silent (h : CompletedStream body response)
    (hsilent : assistantText response.output = "") : streamedText body = "" := by
  rw [assistantText_eq, join_eq_empty] at hsilent
  rw [streamedText_eq_empty]
  intro e he
  cases e with
  | outputTextDelta itemId contentIndex delta =>
    have hpiece : ((itemId, contentIndex), delta) ∈ body.filterMap textPiece :=
      mem_filterMap.mpr ⟨_, he, rfl⟩
    obtain ⟨part, hpart, hkey⟩ := mem_map.mp (h.textKnown _ hpiece)
    have hnone := h.texts part hpart
    rw [hsilent part.2 (mem_map_of_mem hpart), eq_comm, join_eq_empty] at hnone
    refine hnone delta (mem_map.mpr ⟨_, mem_filter.mpr ⟨hpiece, ?_⟩, rfl⟩)
    exact decide_eq_true hkey.symm
  | _ => rfl

/-- A whole answer in which the assistant says nothing takes its text from any item. -/
theorem CompletedStream.text_agrees_iff (h : CompletedStream body response) :
    streamedText body = extractOutputTextFromResponses response ↔
      streamedText body = sortedText body response.output ∧
      (streamedText body = "" → ∀ out ∈ response.output, ∀ c ∈ out.content, c.text = "") := by
  rw [h.sortedText_eq]
  unfold extractOutputTextFromResponses
  by_cases hsilent : assistantText response.output = ""
  · have hnone := h.streamedText_of_silent hsilent
    rw [if_neg (not_not.mpr hsilent), hnone, hsilent, eq_comm, join_eq_empty]
    constructor
    · exact fun hall => ⟨rfl, fun _ out hout c hc =>
        hall c.text (mem_flatMap.mpr ⟨out, hout, mem_map_of_mem hc⟩)⟩
    · rintro ⟨-, hall⟩ t ht
      obtain ⟨out, hout, ht⟩ := mem_flatMap.mp ht
      obtain ⟨c, hc, rfl⟩ := mem_map.mp ht
      exact hall rfl out hout c hc
  · rw [if_pos hsilent]
    exact ⟨fun heq => ⟨heq, fun hnone => absurd (heq.symm.trans hnone) hsilent⟩, And.left⟩

theorem mem_partsOf {id : String} :
    part ∈ partsOf id events ↔ ∃ e ∈ events, e.callPart = some (id, part) := by
  unfold partsOf
  rw [mem_filterMap]
  refine exists_congr fun e => and_congr_right fun _ => ?_
  unfold partFor
  split
  · rename_i he
    rw [he]
    split
    · rename_i hid
      simp [hid]
    · rename_i hid
      simp [hid]
  · rename_i he
    simp [he]

theorem CompletedStream.gathered_eq_iff (h : CompletedStream body response)
    (hcall : call ∈ functionCalls response) :
    gathered body call = call.whole ↔ ∀ part ∈ partsOf call.itemID body, part.startedArgs = "" := by
  obtain ⟨started, pieces, hparts, harguments⟩ := h.parts call hcall
  have hargs : gathered body call = call.whole ↔ started = "" := by
    unfold gathered whole
    rw [hparts, harguments, ToolCall.mk.injEq, sentArgs_eq_iff]
    exact ⟨fun heq => heq.2.2, fun heq => ⟨rfl, rfl, heq⟩⟩
  rw [hargs, hparts, forall_mem_cons, forall_mem_append, forall_mem_map]
  constructor
  · intro hempty
    exact ⟨hempty, fun _ _ => rfl, by simp [CallPart.startedArgs]⟩
  · exact fun hall => hall.1

theorem filterMap_toolCall_of_named
    (hnamed : ∀ call ∈ functionCalls response, trimSpace call.name ≠ "") :
    (functionCalls response).filterMap toolCall = (functionCalls response).map whole := by
  rw [← filterMap_eq_map]
  refine filterMap_congr ?_
  intro call hcall
  rw [toolCall_eq hcall, if_neg (hnamed call hcall)]
  rfl

theorem named_of_length {l : List ResponsesOutput} (hsub : ∀ c ∈ l, c ∈ functionCalls response)
    (hlength : (l.filterMap toolCall).length = l.length) :
    ∀ call ∈ l, trimSpace call.name ≠ "" := by
  rw [length_filterMap_eq_countP, countP_eq_length] at hlength
  intro call hcall hempty
  have hsome := hlength call hcall
  rw [toolCall_eq (hsub call hcall), if_pos hempty] at hsome
  exact absurd hsome (by decide)

/-- **Without text**: the client has the calls exactly if they are named, added in order and without
arguments. -/
theorem calls_agree_iff (h : CompletedStream body response)
    (hI : Streaming (functionCalls response) begun body s sent) :
    begun.map (gathered body) = (functionCalls response).filterMap toolCall ↔
      (∀ call ∈ functionCalls response, trimSpace call.name ≠ "") ∧
      body.filterMap addedID =
        (functionCalls response).map itemID ∧
      ∀ p ∈ body.filterMap callPart, p.2.startedArgs = "" := by
  have hperm : begun.Perm (functionCalls response) := by
    refine (perm_ext_iff_of_nodup hI.nodup (List.Nodup.of_map _ h.itemIDs)).mpr ?_
    intro c
    refine ⟨hI.sub c, fun hc => (hI.mem_iff c hc).mpr ?_⟩
    obtain ⟨started, pieces, hparts, _⟩ := h.parts c hc
    rw [hparts]
    exact cons_ne_nil _ _
  constructor
  · intro heq
    have hnamed : ∀ call ∈ functionCalls response, trimSpace call.name ≠ "" := by
      refine named_of_length (fun _ hc => hc) ?_
      rw [← heq, length_map]
      exact hperm.length_eq
    rw [filterMap_toolCall_of_named hnamed] at heq
    have hids : begun.map callID = (functionCalls response).map callID := by
      have hmap := congrArg (List.map ToolCall.id) heq
      simpa only [map_map, Function.comp_def, gathered, whole] using hmap
    have hbegun : begun = functionCalls response :=
      eq_of_map_eq h.callIDs hI.sub (fun _ hc => hc) hids
    subst hbegun
    refine ⟨hnamed, hI.order, ?_⟩
    rintro ⟨id, part⟩ hp
    obtain ⟨e, he, hpart⟩ := mem_filterMap.mp hp
    obtain ⟨call, hcall, rfl⟩ := h.call_of_part he hpart
    have hwhole := map_inj_left.mp heq call hcall
    exact (h.gathered_eq_iff hcall).mp hwhole part (mem_partsOf.mpr ⟨e, he, hpart⟩)
  · rintro ⟨hnamed, hordered, hunstarted⟩
    have hbegun : begun = functionCalls response :=
      eq_of_map_eq h.itemIDs hI.sub (fun _ hc => hc) (hI.order.symm.trans hordered)
    rw [filterMap_toolCall_of_named hnamed, hbegun]
    refine map_congr_left ?_
    intro call hcall
    refine (h.gathered_eq_iff hcall).mpr ?_
    intro part hpart
    obtain ⟨e, he, hcallPart⟩ := mem_partsOf.mp hpart
    exact hunstarted _ (mem_filterMap.mpr ⟨e, he, hcallPart⟩)

/-- **With text**: the client has no call exactly if none came before the text. -/
theorem begun_eq_nil_iff (h : CompletedStream body response) (hbody : body = pre ++ post)
    (hI : Streaming (functionCalls response) begun pre s sent) :
    begun = [] ↔ ∀ e ∈ pre, e.callPart = none := by
  constructor
  · intro hnil e he
    rw [Option.eq_none_iff_forall_ne_some]
    rintro ⟨id, part⟩ hpart
    obtain ⟨call, hcall, rfl⟩ := h.call_of_part (hbody ▸ mem_append_left _ he) hpart
    have hmem : call ∈ begun :=
      (hI.mem_iff call hcall).mpr (ne_nil_of_mem (mem_partsOf.mpr ⟨e, he, hpart⟩))
    rw [hnil] at hmem
    exact absurd hmem not_mem_nil
  intro hnone
  rw [eq_nil_iff_forall_not_mem]
  intro call hmem
  have hne := (hI.mem_iff call (hI.sub call hmem)).mp hmem
  obtain ⟨part, hpart⟩ := exists_mem_of_ne_nil _ hne
  obtain ⟨e, he, hcall⟩ := mem_partsOf.mp hpart
  rw [hnone e he] at hcall
  cases hcall

theorem calls_beforeText {responseId model : String} (h : CompletedStream body response)
    (htext : streamedText body ≠ "") :
    chatToolCalls (handled responseId model body).2 = number 0 [] ↔
      ∀ e ∈ body.takeWhile fun e => e.textDelta = "", e.callPart = none := by
  have hsplit := (takeWhile_append_dropWhile
    (p := fun e : ResponsesEvent => e.textDelta = "") (l := body)).symm
  generalize hquiet : (body.takeWhile fun e => e.textDelta = "") = quiet at hsplit
  generalize hrest : (body.dropWhile fun e => e.textDelta = "") = rest at hsplit
  have hempty : ∀ e ∈ quiet, e.textDelta = "" := by
    intro e he
    rw [← hquiet] at he
    have hdecide := mem_takeWhile_imp he
    exact of_decide_eq_true hdecide
  obtain ⟨begun, hI⟩ := streaming_run responseId model h hsplit hempty
  -- the rest starts with text, and from there on no piece is sent
  obtain ⟨first, later, hfirst, hnonempty⟩ : ∃ first later,
      rest = first :: later ∧ first.textDelta ≠ "" := by
    cases rest with
    | nil =>
      rw [hsplit, append_nil, ne_eq, streamedText_eq_empty] at htext
      exact absurd hempty htext
    | cons first later =>
      refine ⟨first, later, rfl, ?_⟩
      have hhead := head_dropWhile_not (fun e : ResponsesEvent => decide (e.textDelta = ""))
        (by rw [hrest]; simp)
      simp only [hrest] at hhead
      exact of_decide_eq_false hhead
  have hopen : ∀ e ∈ rest, e.isOpen = true := fun e he =>
    h.isOpen e (hsplit ▸ mem_append_right _ he)
  have hpieces : chatToolPieces (run (handleResponsesEvent responseId)
      (handled responseId model quiet).1 rest).2 = [] := by
    have hrun := openRun responseId model fun e he => h.isOpen e (hsplit ▸ mem_append_left _ he)
    subst hfirst
    have hopenFirst := hopen first (mem_cons_self ..)
    have hnoPart : first.callPart = none := by
      cases first with
      | outputTextDelta => rfl
      | _ => exact absurd rfl hnonempty
    have hstep : OpenStep _ (handleResponsesEvent responseId _ first) first.textDelta :=
      handleResponsesEvent_openStep hopenFirst hrun.streamErr
    rw [run_cons, chatToolPieces_append,
      (handleResponsesEvent_plain hopenFirst hrun.streamErr hnoPart).2.pieces,
      pieces_afterText (fun e he => hopen e (mem_cons_of_mem _ he))
        (hstep.streamErr.trans hrun.streamErr) ?_]
    · rfl
    · rw [hstep.outputText, ne_eq, String.append_eq_empty_iff]
      exact fun hboth => hnonempty hboth.2
  have hclient : chatToolCalls (handled responseId model body).2 =
      number 0 (begun.map (gathered quiet)) := by
    rw [hsplit, handled, run_append]
    unfold chatToolCalls
    rw [chatToolPieces_append, hpieces, append_nil]
    exact hI.client
  rw [hclient, number_inj, map_eq_nil_iff]
  exact begun_eq_nil_iff h hsplit hI

theorem ResponsesStream.finishReason_of_text (h : s.outputText ≠ "") : s.finishReason = "stop" := by
  exact if_neg fun hboth => h hboth.2

/-- **A streamed answer is the whole answer**, for every stream that leads up to a completed
response, exactly if the order of the text deltas makes no difference, and

* if there is text, no call is begun before it,
* if there is none, no item has text, and the calls have names and are added without arguments, in
  the order of the output. -/
theorem responses_stream_agrees_iff (h : CompletedStream body response)
    (responseId model id : String) (usage : Option Usage) :
    ChatAgrees (oaiResponsesToChatStreamHandler responseId model usage
        (body ++ [.completed response]))
      (responsesResponseToChatCompletionsResponse id response) ↔
      StreamsAlike body response := by
  have hend := handler_finished responseId model usage response h.isOpen
  have hrun := openRun responseId model h.isOpen
  generalize oaiResponsesToChatStreamHandler responseId model usage _ = chunks at hend
  have htext : chatText chunks = (responsesResponseToChatCompletionsResponse id response).content ↔
      streamedText body = extractOutputTextFromResponses response := by
    rw [hend.text, hrun.text, content_eq]
  have hcalls := toolCalls_eq id response
  by_cases hempty : streamedText body = ""
  · obtain ⟨begun, hI⟩ :=
      streaming_run responseId model h (append_nil body).symm (streamedText_eq_empty.mp hempty)
    have hwhole : streamedText body = extractOutputTextFromResponses response →
        (chatToolCalls chunks =
          number 0 (responsesResponseToChatCompletionsResponse id response).toolCalls ↔
        begun.map (gathered body) = (functionCalls response).filterMap toolCall) := by
      intro hstreamed
      rw [hend.toolCalls, hI.client, number_inj, hcalls, if_pos (hstreamed.symm.trans hempty)]
    constructor
    · intro hagrees
      have hstreamed := htext.mp hagrees.text
      obtain ⟨hsorted, hsilent⟩ := h.text_agrees_iff.mp hstreamed
      obtain ⟨hnamed, hordered, hunstarted⟩ :=
        (calls_agree_iff h hI).mp ((hwhole hstreamed).mp hagrees.toolCalls)
      exact ⟨hsorted, fun hne => absurd hempty hne, hsilent, fun _ => hnamed, fun _ => hordered,
        fun _ => hunstarted⟩
    intro halike
    have hstreamed := h.text_agrees_iff.mpr ⟨halike.sorted, halike.silent⟩
    have heq := (calls_agree_iff h hI).mpr
      ⟨halike.named hempty, halike.ordered hempty, halike.unstarted hempty⟩
    refine ⟨htext.mpr hstreamed, (hwhole hstreamed).mpr heq, ?_⟩
    rw [if_pos (hstreamed.symm.trans hempty)] at hcalls
    rw [hend.finishReason, finishReason_eq, hcalls, ← heq]
    unfold ResponsesStream.finishReason
    by_cases hnil : begun = []
    · rw [if_neg fun hboth => hI.sawToolCall.mp hboth.1 hnil, hnil]
      rfl
    · rw [if_pos ⟨hI.sawToolCall.mpr hnil, hrun.outputText.trans hempty⟩,
        if_pos (by simpa using hnil)]
  · have hbefore : streamedText body = extractOutputTextFromResponses response →
        (responsesResponseToChatCompletionsResponse id response).toolCalls = [] := by
      intro hstreamed
      rw [hcalls, if_neg (hstreamed ▸ hempty)]
    constructor
    · intro hagrees
      have hstreamed := htext.mp hagrees.text
      obtain ⟨hsorted, hsilent⟩ := h.text_agrees_iff.mp hstreamed
      have hnone := hagrees.toolCalls
      rw [hend.toolCalls, hbefore hstreamed, calls_beforeText h hempty] at hnone
      exact ⟨hsorted, fun _ => hnone, hsilent, fun heq => absurd heq hempty,
        fun heq => absurd heq hempty, fun heq => absurd heq hempty⟩
    · intro halike
      have hstreamed := h.text_agrees_iff.mpr ⟨halike.sorted, halike.silent⟩
      refine ⟨htext.mpr hstreamed, ?_, ?_⟩
      · rw [hend.toolCalls, hbefore hstreamed, calls_beforeText h hempty]
        exact halike.textFirst hempty
      · rw [hend.finishReason, finishReason_eq, hbefore hstreamed, if_neg (by simp),
          ResponsesStream.finishReason_of_text (hrun.outputText ▸ hempty)]

end Completed

def romeCall : ResponsesOutput :=
  { type := .functionCall, id := "fc_0", callId := "call_0", name := "weather",
    arguments := "\x7b\"city\":\"Rome\"\x7d" }

def osloCall : ResponsesOutput :=
  { type := .functionCall, id := "fc_1", callId := "call_1", name := "weather",
    arguments := "\x7b\"city\":\"Oslo\"\x7d" }

def turnsBody : List ResponsesEvent :=
  [.created "model", .outputItemAdded { romeCall with arguments := "" },
    .functionCallArgumentsDelta "fc_0" "\x7b\"city\":",
    .outputItemAdded { osloCall with arguments := "" },
    .functionCallArgumentsDelta "fc_1" "\x7b\"city\":",
    .functionCallArgumentsDelta "fc_0" "\"Rome\"\x7d", .outputItemDone romeCall,
    .functionCallArgumentsDelta "fc_1" "\"Oslo\"\x7d", .outputItemDone osloCall]

def turnsResponse : OpenAIResponsesResponse := { output := [romeCall, osloCall] }

theorem turns_completed : CompletedStream turnsBody turnsResponse where
  isOpen := by decide +kernel
  itemIDs := by decide +kernel
  hasItemID := by decide +kernel
  callIDs := by decide +kernel
  parts := by
    intro call hcall
    rcases mem_cons.mp hcall with rfl | hcall
    · exact ⟨"", ["\x7b\"city\":", "\"Rome\"\x7d"], by decide +kernel, by decide +kernel⟩
    · rw [mem_singleton.mp hcall]
      exact ⟨"", ["\x7b\"city\":", "\"Oslo\"\x7d"], by decide +kernel, by decide +kernel⟩
  known := by decide +kernel
  texts := by decide +kernel
  textKnown := by decide +kernel

theorem responses_stream_agrees_iff_turns :
    ChatAgrees (oaiResponsesToChatStreamHandler "chatcmpl" "model" none
        (turnsBody ++ [.completed turnsResponse]))
      (responsesResponseToChatCompletionsResponse "chatcmpl" turnsResponse) :=
  (responses_stream_agrees_iff turns_completed "chatcmpl" "model" "chatcmpl" none).mpr
    { sorted := by decide +kernel
      textFirst := by decide +kernel
      silent := by decide +kernel
      named := by decide +kernel
      ordered := by decide +kernel
      unstarted := by decide +kernel }

def answerItem : ResponsesOutput :=
  { type := .message, id := "msg_0", role := "assistant",
    content := [{ type := .outputText, text := "Looking." }] }

def thoughtItem : ResponsesOutput :=
  { type := .other, id := "rs_0", content := [{ type := .other, text := "Rome, then." }] }

/-- A call and no text, but a reasoning item that has some. -/
def thoughtBody : List ResponsesEvent :=
  [.outputItemAdded { romeCall with arguments := "" },
    .functionCallArgumentsDelta "fc_0" romeCall.arguments, .outputItemDone romeCall]

def thoughtResponse : OpenAIResponsesResponse := { output := [thoughtItem, romeCall] }

def textLastBody : List ResponsesEvent := thoughtBody ++ [.outputTextDelta "msg_0" 0 "Looking."]

def textLastResponse : OpenAIResponsesResponse := { output := [romeCall, answerItem] }

theorem textLast_completed : CompletedStream textLastBody textLastResponse where
  isOpen := by decide +kernel
  itemIDs := by decide +kernel
  hasItemID := by decide +kernel
  callIDs := by decide +kernel
  parts := by
    intro call hcall
    rw [mem_singleton.mp hcall]
    exact ⟨"", [romeCall.arguments], by decide +kernel, by decide +kernel⟩
  known := by decide +kernel
  texts := by decide +kernel
  textKnown := by decide +kernel

theorem thought_completed : CompletedStream thoughtBody thoughtResponse where
  isOpen := by decide +kernel
  itemIDs := by decide +kernel
  hasItemID := by decide +kernel
  callIDs := by decide +kernel
  parts := by
    intro call hcall
    rw [mem_singleton.mp hcall]
    exact ⟨"", [romeCall.arguments], by decide +kernel, by decide +kernel⟩
  known := by decide +kernel
  texts := by decide +kernel
  textKnown := by decide +kernel

/-- A client keeps a call that was sent before the text, although the whole answer has none. One
that was sent nothing else would have got the reasoning as text and no call. -/
theorem call_before_text_stays :
    CompletedStream textLastBody textLastResponse ∧
    chatToolCalls (oaiResponsesToChatStreamHandler "chatcmpl" "model" none
      (textLastBody ++ [.completed textLastResponse])) = [(0, romeCall.whole)] ∧
    (responsesResponseToChatCompletionsResponse "chatcmpl" textLastResponse).toolCalls = [] ∧
    CompletedStream thoughtBody thoughtResponse ∧
    chatFinishReason (oaiResponsesToChatStreamHandler "chatcmpl" "model" none
      (thoughtBody ++ [.completed thoughtResponse])) = some "tool_calls" ∧
    (responsesResponseToChatCompletionsResponse "chatcmpl" thoughtResponse).content =
      "Rome, then." ∧
    (responsesResponseToChatCompletionsResponse "chatcmpl" thoughtResponse).toolCalls = [] ∧
    (responsesResponseToChatCompletionsResponse "chatcmpl" thoughtResponse).finishReason =
      "stop" :=
  ⟨textLast_completed, by decide +kernel, by decide +kernel, thought_completed,
    by decide +kernel, by decide +kernel, by decide +kernel, by decide +kernel⟩

end ApiGateway
