import Mathlib.Data.List.DropRight

/-!
# Think tags in the playground

The playground shows what a model writes between `<think>` and `</think>` apart from the rest.
While an answer streams in, its message keeps the raw text, and every chunk parses it anew.
-/

namespace ApiGateway

open List

/-- Text of the browser, in UTF-16 code units: a chunk may end inside a surrogate pair. -/
abbrev JsText := List UInt16

/-- A literal of the source. -/
def jsText (s : String) : JsText := s.toList.map fun c => c.toNat.toUInt16

/-- What `trim` removes. -/
def isJsSpace (u : UInt16) : Bool :=
  (9 ≤ u && u ≤ 13) || (0x2000 ≤ u && u ≤ 0x200a) ||
    [32, 0xa0, 0x1680, 0x2028, 0x2029, 0x202f, 0x205f, 0x3000, 0xfeff].contains u

def jsTrim (t : JsText) : JsText := (t.dropWhile isJsSpace).rdropWhile isJsSpace

/-- What stands before and behind the first occurrence of `tag`. -/
def cutAt (tag : JsText) : JsText → Option (JsText × JsText)
  | [] => none
  | u :: us =>
    if tag.isPrefixOf (u :: us) then some ([], (u :: us).drop tag.length)
    else (cutAt tag us).map fun r => (u :: r.1, r.2)

theorem length_of_cutAt {tag t before behind : JsText} (h : cutAt tag t = some (before, behind)) :
    behind.length + tag.length ≤ t.length := by
  induction t generalizing before with
  | nil => cases h
  | cons u us ih =>
    unfold cutAt at h
    split at h
    · rename_i hpre
      cases h
      rw [ isPrefixOf_iff_prefix] at hpre
      rw [length_drop, Nat.sub_add_cancel hpre.length_le]
    · obtain ⟨r, hr, heq⟩ := Option.map_eq_some_iff.mp h
      cases heq
      exact Nat.le_succ_of_le (ih hr)

/-- The loop of `parseThinkTags` from `currentPos` on: the visible parts, the thoughts and whether
the last thought is unclosed. -/
def thinkLoop (rest : JsText) : List JsText × List JsText × Bool :=
  match _hopen : cutAt (jsText "<think>") rest with
  | none => ([rest], [], false)
  | some (before, inner) =>
    match _hclose : cutAt (jsText "</think>") inner with
    | none => ([before], [inner], true)
    | some (thought, rest') =>
      let (visibleParts, reasoningParts, hasUnclosed) := thinkLoop rest'
      (before :: visibleParts, thought :: reasoningParts, hasUnclosed)
termination_by rest.length
decreasing_by
  have h₁ := length_of_cutAt _hopen
  have h₂ := length_of_cutAt _hclose
  have h₃ : (jsText "<think>").length = 7 := rfl
  omega

structure ThinkTags where
  visibleContent : JsText
  reasoning : JsText := []
  hasUnclosedTag : Bool := false

def parseThinkTags (content : JsText) : ThinkTags :=
  if cutAt (jsText "<think>") content = none then { visibleContent := content }
  else
    let (visibleParts, reasoningParts, hasUnclosed) := thinkLoop content
    { visibleContent := jsTrim visibleParts.flatten
      reasoning := jsTrim ((jsText "\n\n").intercalate reasoningParts)
      hasUnclosedTag := hasUnclosed }

structure MessageVersion where
  id : String
  content : JsText

structure MessageReasoning where
  content : JsText
  duration : Nat
deriving DecidableEq

/-- The fields of a message that streaming touches. -/
structure ChatMessage where
  versions : List MessageVersion
  reasoning : Option MessageReasoning := none
  isReasoningStreaming : Bool := false

namespace ChatMessage

variable (message : ChatMessage)

def getCurrentVersion : MessageVersion :=
  message.versions.head?.getD { id := "default", content := [] }

def updateCurrentVersionContent (content : JsText) : ChatMessage :=
  { message with versions := [{ message.getCurrentVersion with content }] }

def processStreamingContent (contentChunk : Option JsText) : ChatMessage :=
  let fullContent := message.getCurrentVersion.content ++ contentChunk.getD []
  let { reasoning, hasUnclosedTag, .. } := parseThinkTags fullContent
  { message.updateCurrentVersionContent fullContent with
    reasoning := if reasoning ≠ [] then some ⟨reasoning, 0⟩ else message.reasoning
    isReasoningStreaming := hasUnclosedTag }

/-- The first of the three sources of reasoning that is not empty. -/
def finalizeMessage (apiReasoningContent : JsText := []) : ChatMessage :=
  let { visibleContent, reasoning, .. } := parseThinkTags message.getCurrentVersion.content
  let stored := (message.reasoning.map MessageReasoning.content).getD []
  let finalReasoning :=
    if apiReasoningContent ≠ [] then apiReasoningContent
    else if stored ≠ [] then stored else reasoning
  { message.updateCurrentVersionContent visibleContent with
    reasoning := if finalReasoning ≠ [] then
        some ⟨finalReasoning, (message.reasoning.map MessageReasoning.duration).getD 0⟩
      else none
    isReasoningStreaming := false }

/-- The chunks of an answer, one after the other. -/
def streaming (chunks : List JsText) : ChatMessage :=
  chunks.foldl (fun m chunk => m.processStreamingContent (some chunk)) message

end ChatMessage

end ApiGateway
