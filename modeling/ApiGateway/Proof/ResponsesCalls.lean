import ApiGateway.Proof.ResponsesEvents

/-!
# The calls of a Responses stream

The events of the calls of an answer may come in any order, as long as each call is added before its
pieces and done after them. Seen from one call, a stream is the list of its own events (`partsOf`),
and what the client has gathered of it depends on that list only (`sentArgs`). `Streaming` says what
the handler's maps hold of every call.
-/

namespace ApiGateway

open Decimal List Streams Function ResponsesOutput ResponsesEvent Option ResponsesStream

variable {id : String} {result : ResponsesStream × List ChatChunk}
variable {c c' : ResponsesOutput} {k : String} {n : Nat} {l : List ResponsesOutput}

def functionCalls (response : OpenAIResponsesResponse) : List ResponsesOutput :=
  response.output.filter fun out => out.type = .functionCall

/-- The parts of the output that hold text of the assistant. -/
def textParts (output : List ResponsesOutput) : List ((String × Nat) × String) :=
  (output.filter ResponsesOutput.isAssistantMessage).flatMap fun out =>
    (out.content.zipIdx.filter fun c => c.1.type = .outputText).map fun c =>
      ((out.id, c.2), c.1.text)

/-- The text deltas of one part of the output. -/
def textDeltasOf (key : String × Nat) (events : List ResponsesEvent) :
    List ((String × Nat) × String) :=
  (events.filterMap ResponsesEvent.textPiece).filter fun piece => piece.1 = key

/-- The events that lead up to a completed response, in any order that keeps those of one
call in order. -/
structure CompletedStream (body : List ResponsesEvent) (response : OpenAIResponsesResponse) :
    Prop where
  isOpen : ∀ e ∈ body, e.isOpen = true
  itemIDs : ((functionCalls response).map ResponsesOutput.itemID).Nodup
  hasItemID : ∀ call ∈ functionCalls response, call.itemID ≠ ""
  callIDs : ((functionCalls response).map ResponsesOutput.callID).Nodup
  /-- A call is added, its arguments come in pieces, and it is done. -/
  parts : ∀ call ∈ functionCalls response, ∃ started pieces,
    partsOf call.itemID body =
      .added call.callID (trimSpace call.name) started :: (pieces.map .delta ++
        [.done call.callID (trimSpace call.name) call.arguments]) ∧
    call.arguments = String.join pieces
  known : ∀ p ∈ body.filterMap ResponsesEvent.callPart,
    p.1 ∈ (functionCalls response).map ResponsesOutput.itemID
  texts : ∀ part ∈ textParts response.output,
    part.2 = String.join ((textDeltasOf part.1 body).map Prod.snd)
  textKnown : ∀ piece ∈ body.filterMap ResponsesEvent.textPiece,
    piece.1 ∈ (textParts response.output).map Prod.fst

/-! ### The events of one call in the stream -/

theorem partsOf_append (id : String) (a b : List ResponsesEvent) :
    partsOf id (a ++ b) = partsOf id a ++ partsOf id b := filterMap_append ..

theorem partsOf_own {e : ResponsesEvent} {part : CallPart}
    (he : e.callPart = some (id, part)) (pre : List ResponsesEvent) :
    partsOf id (pre ++ [e]) = partsOf id pre ++ [part] := by
  have hpart : e.partFor id = some part := by
    unfold partFor
    rw [he]
    exact if_pos rfl
  exact filterMap_concat_some hpart pre

theorem partsOf_other {e : ResponsesEvent}
    (he : ∀ part, e.callPart ≠ some (id, part)) (pre : List ResponsesEvent) :
    partsOf id (pre ++ [e]) = partsOf id pre := by
  have hpart : e.partFor id = none := by
    unfold partFor
    split
    · rename_i part hcall
      rw [if_neg]
      rintro rfl
      exact he part hcall
    · rfl
  exact filterMap_concat_none hpart pre

variable {body pre post : List ResponsesEvent} {response : OpenAIResponsesResponse}
  {e : ResponsesEvent} {call : ResponsesOutput} {part : CallPart}

section Completed

variable (h : CompletedStream body response)
include h

theorem CompletedStream.part_cases
    (hbody : body = pre ++ e :: post) (hcall : call ∈ functionCalls response)
    (he : e.callPart = some (call.itemID, part)) :
    (partsOf call.itemID pre = [] ∧
      ∃ started, part = .added call.callID (trimSpace call.name) started) ∨
    (partsOf call.itemID pre ≠ [] ∧ ((∃ d, part = .delta d) ∨
      part = .done call.callID (trimSpace call.name) call.arguments)) := by
  obtain ⟨started, pieces, hparts, _⟩ := h.parts call hcall
  have hsplit : partsOf call.itemID body =
      partsOf call.itemID pre ++ part :: partsOf call.itemID post := by
    rw [hbody, ← singleton_append, ← append_assoc, partsOf_append, partsOf_own he,
      append_assoc, singleton_append]
  rw [hsplit] at hparts
  cases hpre : partsOf call.itemID pre with
  | nil =>
    rw [hpre, nil_append, List.cons.injEq] at hparts
    exact Or.inl ⟨rfl, started, hparts.1⟩
  | cons =>
    rw [hpre, cons_append, List.cons.injEq] at hparts
    refine Or.inr ⟨by simp, ?_⟩
    have hmem : part ∈ pieces.map CallPart.delta ++
        [.done call.callID (trimSpace call.name) call.arguments] := by
      rw [← hparts.2]
      exact mem_append_right _ (mem_cons_self ..)
    rcases mem_append.mp hmem with hdelta | hdone
    · obtain ⟨d, _, rfl⟩ := mem_map.mp hdelta
      exact Or.inl ⟨d, rfl⟩
    · exact Or.inr (mem_singleton.mp hdone)

theorem CompletedStream.isOf
    (hbody : body = pre ++ e :: post) (hcall : call ∈ functionCalls response)
    (he : e.callPart = some (call.itemID, part)) : part.IsOf call := by
  rcases h.part_cases hbody hcall he with ⟨_, started, rfl⟩ | ⟨_, ⟨d, rfl⟩ | rfl⟩
  · exact Or.inl ⟨started, rfl⟩
  · exact Or.inr (Or.inl ⟨d, rfl⟩)
  · exact Or.inr (Or.inr ⟨_, rfl⟩)

theorem CompletedStream.call_of_part (he : e ∈ body) (hpart : e.callPart = some (id, part)) :
    ∃ call ∈ functionCalls response, call.itemID = id :=
  mem_map.mp (h.known _ (mem_filterMap.mpr ⟨e, he, hpart⟩))

end Completed

/-! ### The invariant -/

/-- What the client has of a call. -/
def gathered (pre : List ResponsesEvent) (call : ResponsesOutput) : ToolCall :=
  { id := call.callID, name := trimSpace call.name,
    arguments := sentArgs (partsOf call.itemID pre) }

/-- As long as there is no text: `begun` are the calls added so far, by index, and the maps and the
client have of every call what its own events say. -/
structure Streaming (calls begun : List ResponsesOutput) (pre : List ResponsesEvent)
    (s : ResponsesStream) (sent : List ChatChunk) : Prop where
  sub : ∀ c ∈ begun, c ∈ calls
  nodup : begun.Nodup
  order : pre.filterMap ResponsesEvent.addedID = begun.map ResponsesOutput.itemID
  mem_iff : ∀ c ∈ calls, c ∈ begun ↔ partsOf c.itemID pre ≠ []
  sawToolCall : s.sawToolCall = true ↔ begun ≠ []
  index : s.toolCallIndexByID = (begun.map ResponsesOutput.callID).zipIdx
  args : ∀ c ∈ calls, s.toolCallArgsByID c.callID = heldArgs (partsOf c.itemID pre)
  names : ∀ c ∈ begun, s.toolCallNameByID c.callID = trimSpace c.name
  unnamed : ∀ c ∈ calls, c ∉ begun → s.toolCallNameByID c.callID = ""
  namesSent : ∀ c ∈ calls, s.toolCallNameSent c.callID = true ↔ c ∈ begun ∧ trimSpace c.name ≠ ""
  canonical : ∀ c ∈ begun, s.toolCallCanonicalIDByItemID c.itemID = c.callID
  client : chatToolCalls sent = number 0 (begun.map (gathered pre))

theorem Streaming.init {calls : List ResponsesOutput} {model : String} :
    Streaming calls [] [] { model := model } [] where
  sub := by simp
  nodup := nodup_nil
  order := rfl
  mem_iff := by simp [partsOf]
  sawToolCall := by simp
  index := rfl
  args _ _ := rfl
  names := by simp
  unnamed _ _ _ := rfl
  namesSent := by simp
  canonical := by simp
  client := rfl

variable {begun : List ResponsesOutput} {s : ResponsesStream} {sent : List ChatChunk}
  {responseId : String}

theorem Streaming.other_step (hI : Streaming (functionCalls response) begun pre s sent)
    (he : e.isOpen = true) (herr : s.streamErr = false) (hpart : e.callPart = none) :
    Streaming (functionCalls response) begun (pre ++ [e])
      (handleResponsesEvent responseId s e).1
      (sent ++ (handleResponsesEvent responseId s e).2) := by
  have hsame : SameCalls s (handleResponsesEvent responseId s e) :=
    (handleResponsesEvent_plain he herr hpart).2
  have hparts : ∀ id, partsOf id (pre ++ [e]) = partsOf id pre := fun id =>
    partsOf_other (fun part h => by rw [hpart] at h; simp at h) pre
  have hadded : (pre ++ [e]).filterMap addedID =
      pre.filterMap addedID := by
    have hnone : e.addedID = none := by
      unfold addedID
      rw [hpart]
    exact filterMap_concat_none hnone pre
  have hgathered : gathered (pre ++ [e]) = gathered pre := by
    funext c
    unfold gathered
    rw [hparts]
  refine ⟨hI.sub, hI.nodup, hadded.trans hI.order, ?_, ?_, ?_, ?_, ?_, ?_, ?_, ?_, ?_⟩
  · intro c hc
    rw [hparts]
    exact hI.mem_iff c hc
  · rw [hsame.sawToolCall]
    exact hI.sawToolCall
  · rw [hsame.index]
    exact hI.index
  · intro c hc
    rw [hsame.args, hparts]
    exact hI.args c hc
  · rw [hsame.names]
    exact hI.names
  · rw [hsame.names]
    exact hI.unnamed
  · rw [hsame.namesSent]
    exact hI.namesSent
  · rw [hsame.canonical]
    exact hI.canonical
  · unfold chatToolCalls
    rw [chatToolPieces_append, hsame.pieces, append_nil, hgathered]
    exact hI.client

section Call

variable (h : CompletedStream body response)
  (hI : Streaming (functionCalls response) begun pre s sent)
  (hcall : call ∈ functionCalls response)
include h hcall

theorem gathered_other (he : e.callPart = some (call.itemID, part))
    (hsub : ∀ c ∈ l, c ∈ functionCalls response) (hnot : call ∉ l) :
    l.map (gathered (pre ++ [e])) = l.map (gathered pre) := by
  refine map_congr_left ?_
  intro c hc
  unfold gathered
  rw [partsOf_other]
  intro part' heq
  rw [he, some.injEq, Prod.mk.injEq] at heq
  exact hnot (inj_on_of_nodup_map h.itemIDs hcall (hsub c hc) heq.1 ▸ hc)

theorem callID_notMem_map (hsub : ∀ c ∈ l, c ∈ functionCalls response) (hnot : call ∉ l) :
    call.callID ∉ l.map callID := by
  intro hmem
  obtain ⟨c, hc, heq⟩ := mem_map.mp hmem
  exact hnot (inj_on_of_nodup_map h.callIDs (hsub c hc) hcall heq ▸ hc)

include hI

/-- What a call's event leaves to show: where the call stands among those begun, and that the client
puts the piece there. -/
theorem Streaming.of_callStep (he : e.callPart = some (call.itemID, part))
    (hstep : CallStep s call part result)
    {begun' : List ResponsesOutput} (hmem : ∀ c, c ∈ begun' ↔ c ∈ begun ∨ c = call)
    (hnodup : begun'.Nodup) (horder : (pre ++ [e]).filterMap addedID =
      begun'.map itemID)
    (hindex : s.indexToolCall call.callID = (begun'.map callID).zipIdx)
    (hput : put ToolCall.merge (number 0 (begun.map (gathered pre)))
      (s.toolCallIndex call.callID)
      { id := call.callID
        name := if s.toolCallNameSent call.callID then "" else trimSpace call.name
        arguments := part.piece (heldArgs (partsOf call.itemID pre)) } =
      number 0 (begun'.map (gathered (pre ++ [e])))) :
    Streaming (functionCalls response) begun' (pre ++ [e]) result.1 (sent ++ result.2) := by
  have hsub : ∀ c ∈ begun', c ∈ functionCalls response := by
    intro c hc
    rcases (hmem c).mp hc with hc | rfl
    · exact hI.sub c hc
    · exact hcall
  have hold : ∀ c ∈ begun', c ≠ call → c ∈ begun := fun c hc hne =>
    ((hmem c).mp hc).resolve_right hne
  have hother : ∀ c ∈ functionCalls response, c ≠ call →
      c.callID ≠ call.callID ∧ c.itemID ≠ call.itemID ∧
      partsOf c.itemID (pre ++ [e]) = partsOf c.itemID pre := by
    intro c hc hne
    have hitem : c.itemID ≠ call.itemID := fun heq =>
      hne (inj_on_of_nodup_map h.itemIDs hc hcall heq)
    refine ⟨fun heq => hne (inj_on_of_nodup_map h.callIDs hc hcall heq), hitem,
      partsOf_other ?_ pre⟩
    intro part' heq
    rw [he, some.injEq, Prod.mk.injEq] at heq
    exact hitem heq.1.symm
  refine ⟨hsub, hnodup, horder, ?_, ?_, hstep.index.trans hindex, ?_, ?_, ?_, ?_, ?_, ?_⟩
  · intro c hc
    rw [hmem]
    by_cases heq : c = call
    · subst heq
      rw [partsOf_own he]
      simp
    · rw [(hother c hc heq).2.2, ← hI.mem_iff c hc]
      simp [heq]
  · rw [hstep.sawToolCall]
    exact ⟨fun _ => ne_nil_of_mem ((hmem call).mpr (Or.inr rfl)), fun _ => rfl⟩
  · intro c hc
    rw [hstep.args]
    by_cases heq : c = call
    · subst heq
      rw [update_self, hI.args c hc, partsOf_own he]
      unfold heldArgs callRun
      rw [run_append]
      rfl
    · obtain ⟨hcallID, _, hparts⟩ := hother c hc heq
      rw [update_of_ne hcallID, hI.args c hc, hparts]
  · intro c hc
    rw [hstep.names]
    by_cases heq : c = call
    · subst heq
      rw [update_self]
    rw [update_of_ne (hother c (hsub c hc) heq).1]
    exact hI.names c (hold c hc heq)
  · intro c hc hnot
    rw [hmem, not_or] at hnot
    rw [hstep.names, update_of_ne (hother c hc hnot.2).1]
    exact hI.unnamed c hc hnot.1
  · intro c hc
    rw [hstep.namesSent, hmem]
    by_cases heq : c = call
    · subst heq
      have hold := hI.namesSent c hc
      rw [update_self, Bool.or_eq_true, hold, bne_iff_ne]
      constructor
      · rintro (hsent | hname)
        · exact ⟨Or.inl hsent.1, hsent.2⟩
        · exact ⟨Or.inr rfl, hname⟩
      · rintro ⟨_, hname⟩
        exact Or.inr hname
    · rw [update_of_ne (hother c hc heq).1, hI.namesSent c hc]
      simp [heq]
  · intro c hc
    rw [hstep.canonical]
    by_cases heq : c = call
    · subst heq
      rw [update_self]
    rw [update_of_ne (hother c (hsub c hc) heq).2.1]
    exact hI.canonical c (hold c hc heq)
  · have hargs := hI.args call hcall
    have hgathered := hI.client
    unfold chatToolCalls at hgathered ⊢
    rw [chatToolPieces_append, hstep.brings.pieces, gather_append_singleton, hgathered, hargs]
    exact hput

theorem Streaming.added_step {started : String}
    (he : e.callPart = some (call.itemID, .added call.callID (trimSpace call.name) started))
    (hpre : partsOf call.itemID pre = [])
    (hstep : CallStep s call (.added call.callID (trimSpace call.name) started) result) :
    Streaming (functionCalls response) (begun ++ [call]) (pre ++ [e]) result.1
      (sent ++ result.2) := by
  have hnot : call ∉ begun := by
    rw [hI.mem_iff call hcall, not_not]
    exact hpre
  have hlookup : s.toolCallIndexByID.lookup call.callID = none := by
    rw [hI.index]
    exact lookup_zipIdx_of_notMem (callID_notMem_map h hcall hI.sub hnot)
  have hlength : s.toolCallIndexByID.length = begun.length := by
    rw [hI.index, length_zipIdx, length_map]
  have hsent : s.toolCallNameSent call.callID = false := by
    rw [← Bool.not_eq_true, hI.namesSent call hcall]
    exact fun hmem => hnot hmem.1
  refine hI.of_callStep h hcall he hstep ?_ ?_ ?_ ?_ ?_
  · intro c
    rw [mem_append, mem_singleton]
  · exact nodup_append.mpr ⟨hI.nodup, nodup_singleton call,
      fun c hc c' hc' heq => hnot (mem_singleton.mp hc' ▸ heq ▸ hc)⟩
  · have hadded : e.addedID = some call.itemID := by
      unfold addedID
      rw [he]
    rw [filterMap_concat_some hadded, hI.order, map_append]
    rfl
  · unfold indexToolCall
    rw [hlookup, hlength, hI.index, map_append, zipIdx_append,
      length_map, Nat.zero_add]
    rfl
  have hk : (s.toolCallIndex call.callID : Int) =
      0 + ((begun.map (gathered pre)).length : Int) := by
    unfold toolCallIndex
    rw [hlookup, getD_none, hlength, length_map, zero_add]
  rw [hk, put_number_next, map_append, gathered_other h hcall he hI.sub hnot, hsent]
  unfold gathered
  rw [map_singleton, partsOf_own he, hpre]
  rfl

theorem Streaming.continued_step (he : e.callPart = some (call.itemID, part))
    (hpre : partsOf call.itemID pre ≠ []) (hadded : e.addedID = none)
    (hstep : CallStep s call part result) :
    Streaming (functionCalls response) begun (pre ++ [e]) result.1 (sent ++ result.2) := by
  have hmem : call ∈ begun := (hI.mem_iff call hcall).mpr hpre
  obtain ⟨l1, l2, rfl⟩ := append_of_mem hmem
  have hnodup := hI.nodup
  rw [nodup_append, nodup_cons] at hnodup
  have hnot1 : call ∉ l1 := fun hc => hnodup.2.2 call hc call (mem_cons_self ..) rfl
  have hnot2 : call ∉ l2 := hnodup.2.1.1
  have hsub1 : ∀ c ∈ l1, c ∈ functionCalls response := fun c hc =>
    hI.sub c (mem_append_left _ hc)
  have hsub2 : ∀ c ∈ l2, c ∈ functionCalls response := fun c hc =>
    hI.sub c (mem_append_right _ (mem_cons_of_mem _ hc))
  have hlookup : s.toolCallIndexByID.lookup call.callID = some l1.length := by
    rw [hI.index, map_append, map_cons, zipIdx_append, lookup_append,
      lookup_zipIdx_of_notMem (callID_notMem_map h hcall hsub1 hnot1), zipIdx_cons,
      lookup_cons_self, none_or, length_map, Nat.zero_add]
  refine hI.of_callStep h hcall he hstep ?_ ?_ ?_ ?_ ?_
  · intro c
    constructor
    · exact Or.inl
    · rintro (hc | rfl)
      · exact hc
      · exact hmem
  · exact hI.nodup
  · exact (filterMap_concat_none hadded pre).trans hI.order
  · unfold indexToolCall
    rw [hlookup, isSome_some]
    exact hI.index
  have hk : (s.toolCallIndex call.callID : Int) = 0 + ((l1.map (gathered pre)).length : Int) := by
    unfold toolCallIndex
    rw [hlookup, getD_some, length_map, zero_add]
  -- the name went with the first piece, or the call has none
  have hname : (if s.toolCallNameSent call.callID then "" else trimSpace call.name) = "" := by
    split
    · rfl
    · rename_i hunsent
      rw [hI.namesSent call hcall, not_and, not_not] at hunsent
      exact hunsent hmem
  have hgathered : gathered (pre ++ [e]) call =
      { gathered pre call with
        arguments := (gathered pre call).arguments ++
          part.piece (heldArgs (partsOf call.itemID pre)) } := by
    unfold gathered
    rw [partsOf_own he, sentArgs_append]
  have hmerge : (gathered pre call).merge
        { id := call.callID, name := "",
          arguments := part.piece (heldArgs (partsOf call.itemID pre)) } =
      gathered (pre ++ [e]) call := by
    have hsame : call.callID = (gathered pre call).id := by simp [gathered]
    rw [hgathered]
    exact ToolCall.merge_arguments (Or.inr hsame)
  rw [hk, hname, map_append, map_cons, put_number, hmerge, map_append,
    map_cons, gathered_other h hcall he hsub1 hnot1, gathered_other h hcall he hsub2 hnot2]

end Call

theorem Streaming.step (h : CompletedStream body response) (hbody : body = pre ++ e :: post)
    (hI : Streaming (functionCalls response) begun pre s sent) (herr : s.streamErr = false)
    (htext : s.outputText = "") :
    ∃ begun', Streaming (functionCalls response) begun' (pre ++ [e])
      (handleResponsesEvent responseId s e).1
      (sent ++ (handleResponsesEvent responseId s e).2) := by
  have hmem : e ∈ body := by
    rw [hbody]
    exact mem_append_right _ (mem_cons_self ..)
  cases hpart : e.callPart with
  | none => exact ⟨begun, hI.other_step (h.isOpen e hmem) herr hpart⟩
  | some p =>
    obtain ⟨id, part⟩ := p
    obtain ⟨call, hcall, rfl⟩ := h.call_of_part hmem hpart
    have hcases := h.part_cases hbody hcall hpart
    have hstep : CallStep s call part (handleResponsesEvent responseId s e) := by
      refine handleResponsesEvent_callStep herr htext (h.hasItemID call hcall) hpart
        (h.isOf hbody hcall hpart) ?_ ?_
      · by_cases hbegun : call ∈ begun
        · exact Or.inr (hI.names call hbegun)
        · exact Or.inl (hI.unnamed call hcall hbegun)
      rintro d rfl
      have hbegun : call ∈ begun := by
        rw [hI.mem_iff call hcall]
        rcases hcases with ⟨_, started, hadded⟩ | ⟨hne, _⟩
        · cases hadded
        · exact hne
      exact ⟨hI.canonical call hbegun, hI.names call hbegun⟩
    rcases hcases with ⟨hpre, started, rfl⟩ | ⟨hpre, hlater⟩
    · exact ⟨begun ++ [call], hI.added_step h hcall hpart hpre hstep⟩
    refine ⟨begun, hI.continued_step h hcall hpart hpre ?_ hstep⟩
    unfold addedID
    rw [hpart]
    rcases hlater with ⟨d, rfl⟩ | rfl
    · rfl
    · rfl

end ApiGateway
