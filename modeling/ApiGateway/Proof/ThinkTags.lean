import Mathlib.Data.List.Infix
import ApiGateway.Web.ThinkTags

/-!
# When the cut of an answer shows

The visible text is parsed from the whole answer at the end. The reasoning is not: a message keeps
the last reasoning it has shown, and the beginning of `</think>` is a thought until the rest of it
arrives.
-/

namespace ApiGateway

open List ChatMessage

variable {message : ChatMessage}

theorem content_streaming (message : ChatMessage) (chunks : List JsText) :
    (message.streaming chunks).getCurrentVersion.content =
      message.getCurrentVersion.content ++ chunks.flatten := by
  induction chunks generalizing message with
  | nil => simp [streaming]
  | cons chunk _ ih =>
    rw [streaming, foldl_cons, ← streaming, ih, flatten_cons, ← append_assoc]
    rfl

theorem reasoning_finalize_some {r : MessageReasoning} (hr : message.reasoning = some r)
    (hne : r.content ≠ []) : message.finalizeMessage.reasoning = some r := by
  simp [finalizeMessage, hr, hne]

theorem reasoning_finalize_none (hr : message.reasoning = none)
    (hparse : (parseThinkTags message.getCurrentVersion.content).reasoning = []) :
    message.finalizeMessage.reasoning = none := by
  simp [finalizeMessage, hr, hparse]

/-- The reasoning that the parse of the first chunks finds. -/
def shown (chunks : List JsText) : JsText := (parseThinkTags chunks.flatten).reasoning

section

variable (hempty : message.getCurrentVersion.content = []) (hnone : message.reasoning = none)

include hempty

theorem reasoning_append (chunks : List JsText) (chunk : JsText) :
    (message.streaming (chunks ++ [chunk])).reasoning =
      if shown (chunks ++ [chunk]) ≠ [] then some ⟨shown (chunks ++ [chunk]), 0⟩
      else (message.streaming chunks).reasoning := by
  have hcontent := content_streaming message chunks
  rw [hempty] at hcontent
  have hstep : message.streaming (chunks ++ [chunk]) =
      (message.streaming chunks).processStreamingContent (some chunk) := by
    simp [streaming]
  simp [hstep, processStreamingContent, hcontent, shown]

include hnone

/-- Nothing was shown so far, or the message holds what some of the chunks showed: what all of
them show, if that is anything. -/
theorem reasoning_streaming (chunks : List JsText) :
    (message.streaming chunks).reasoning = none ∧ (∀ p, p <+: chunks → shown p = []) ∨
      ∃ p, p <+: chunks ∧ shown p ≠ [] ∧
        (message.streaming chunks).reasoning = some ⟨shown p, 0⟩ ∧
        (shown chunks ≠ [] → shown p = shown chunks) := by
  induction chunks using reverseRecOn with
  | nil =>
    refine .inl ⟨hnone, ?_⟩
    intro p hp
    rw [prefix_nil.mp hp]
    rfl
  | append_singleton chunks chunk ih =>
    rw [reasoning_append hempty]
    by_cases hshown : shown (chunks ++ [chunk]) = []
    · rw [if_neg (not_not.mpr hshown)]
      rcases ih with ⟨hnone, hall⟩ | ⟨p, hp, hne, hr, -⟩
      · refine .inl ⟨hnone, ?_⟩
        intro p hp
        rcases prefix_concat_iff.mp hp with rfl | hp
        · exact hshown
        · exact hall p hp
      · exact .inr ⟨p, hp.trans (prefix_append _ _), hne, hr, fun h => absurd hshown h⟩
    · exact .inr ⟨_, prefix_rfl, hshown, if_pos hshown, fun _ => rfl⟩

/-- **Where the reasoning depends on the cut.** The visible content is the same for all cuts. The
reasoning is that of the uncut answer exactly if the whole answer has some, or no chunk ended where
the text so far seemed to have some. -/
theorem reasoning_of_cut_iff (chunks : List JsText) :
    let cut := (message.streaming chunks).finalizeMessage
    let whole := (message.streaming [chunks.flatten]).finalizeMessage
    cut.getCurrentVersion.content = whole.getCurrentVersion.content ∧
      (cut.reasoning = whole.reasoning ↔ shown chunks ≠ [] ∨ ∀ p, p <+: chunks → shown p = []) := by
  intro cut whole
  have htext := content_streaming message
  simp only [hempty] at htext
  have hone := reasoning_append hempty [] chunks.flatten
  have hshown : shown [chunks.flatten] = shown chunks := by simp [shown]
  rw [nil_append, hshown] at hone
  have hwhole : shown chunks = [] → whole.reasoning = none := by
    intro hend
    rw [if_neg (not_not.mpr hend)] at hone
    refine reasoning_finalize_none (hone.trans hnone) ?_
    rw [htext]
    exact hshown.trans hend
  refine ⟨?_, ?_⟩
  · show (parseThinkTags _).visibleContent = (parseThinkTags _).visibleContent
    rw [htext, htext, flatten_singleton]
  rcases reasoning_streaming hempty hnone chunks with ⟨hr, hall⟩ | ⟨p, hp, hne, hr, hlast⟩
  · have hend := hall chunks prefix_rfl
    have hcut : cut.reasoning = none := reasoning_finalize_none hr (by rw [htext]; exact hend)
    exact iff_of_true (hcut.trans (hwhole hend).symm) (.inr hall)
  · have hcut : cut.reasoning = some ⟨shown p, 0⟩ := reasoning_finalize_some hr hne
    by_cases hend : shown chunks = []
    · rw [hcut, hwhole hend]
      refine iff_of_false (by simp) ?_
      rintro (h | hall)
      · exact h hend
      · exact hne (hall p hp)
    · rw [if_pos hend] at hone
      rw [hcut, hlast hend]
      exact iff_of_true (reasoning_finalize_some hone hend).symm (.inl hend)

end

def emptyAnswer : ChatMessage := { versions := [⟨"answer", []⟩] }

/-- A thought that is cut inside its closing tag. -/
theorem reasoning_of_cut_iff_thought :
    let chunks := [jsText "<think>So.</", jsText "think>Hi"]
    (emptyAnswer.streaming chunks).finalizeMessage.reasoning =
      (emptyAnswer.streaming [chunks.flatten]).finalizeMessage.reasoning :=
  (reasoning_of_cut_iff rfl rfl _).2.mpr (.inl (by decide +kernel))

/-- The model thought nothing, and the playground shows `<` as its thought. -/
theorem empty_thought_shown :
    let chunks := [jsText "<think><", jsText "/think>Hi"]
    (emptyAnswer.streaming chunks).finalizeMessage.reasoning = some ⟨jsText "<", 0⟩ ∧
      (emptyAnswer.streaming [chunks.flatten]).finalizeMessage.reasoning = none := by
  decide +kernel

/-! ## Nothing is lost -/

/-- The text is cut at the first occurrence of the tag. -/
theorem cutAt_spec {tag t : JsText} {r : Option (JsText × JsText)} (htag : tag ≠ [])
    (h : cutAt tag t = r) :
    r.elim (¬ tag <:+: t) fun (before, behind) =>
      before ++ (tag ++ behind) = t ∧ ¬ tag <:+: before := by
  have hnil : ¬ tag <:+: [] := fun hnil => htag (infix_nil.mp hnil)
  subst h
  induction t with
  | nil => exact hnil
  | cons u us ih =>
    unfold cutAt
    split_ifs with hpre
    · exact ⟨(prefix_append_drop ( isPrefixOf_iff_prefix.mp hpre)).symm, hnil⟩
    rw [ isPrefixOf_iff_prefix] at hpre
    cases hcut : cutAt tag us with
    | none =>
      rw [hcut] at ih
      simpa [infix_cons_iff, hpre] using ih
    | some r =>
      rw [hcut] at ih
      refine ⟨congrArg (u :: ·) ih.1, fun hin => ?_⟩
      rcases infix_cons_iff.mp hin with hfirst | hlater
      · exact hpre (ih.1 ▸ hfirst.trans (prefix_append (u :: r.1) _))
      · exact ih.2 hlater

theorem cutAt_eq_none_iff {t : JsText} :
    cutAt (jsText "<think>") t = none ↔ ¬ jsText "<think>" <:+: t := by
  have h := cutAt_spec (by decide) (rfl : cutAt (jsText "<think>") t = _)
  cases hcut : cutAt (jsText "<think>") t with
  | none =>
    rw [hcut] at h
    exact iff_of_true rfl h
  | some r =>
    rw [hcut] at h
    refine iff_of_false (by simp) (not_not.mpr ⟨r.1, r.2, ?_⟩)
    rw [append_assoc]
    exact h.1

/-- A text cut at its tags, from left to right. -/
inductive ThinkParts where
  | plain (text : JsText)
  | unclosed (before thought : JsText)
  | closed (before thought : JsText) (rest : ThinkParts)

namespace ThinkParts

def text : ThinkParts → JsText
  | plain text => text
  | unclosed before thought => before ++ (jsText "<think>" ++ thought)
  | closed before thought rest =>
    before ++ (jsText "<think>" ++ (thought ++ (jsText "</think>" ++ rest.text)))

def visible : ThinkParts → List JsText
  | plain text => [text]
  | unclosed before _ => [before]
  | closed before _ rest => before :: rest.visible

def thoughts : ThinkParts → List JsText
  | plain _ => []
  | unclosed _ thought => [thought]
  | closed _ thought rest => thought :: rest.thoughts

def isUnclosed : ThinkParts → Bool
  | plain _ => false
  | unclosed .. => true
  | closed _ _ rest => rest.isUnclosed

/-- No tag was overlooked: none opens in what is visible, and none closes in a thought. -/
def Complete (parts : ThinkParts) : Prop :=
  (∀ p ∈ parts.visible, ¬ jsText "<think>" <:+: p) ∧
    ∀ p ∈ parts.thoughts, ¬ jsText "</think>" <:+: p

end ThinkParts

theorem thinkLoop_parts (rest : JsText) : ∃ parts : ThinkParts, parts.text = rest ∧
    parts.Complete ∧ thinkLoop rest = (parts.visible, parts.thoughts, parts.isUnclosed) := by
  fun_induction thinkLoop rest with
  | case1 rest hopen =>
    have hrest : ¬ jsText "<think>" <:+: rest := cutAt_spec (by decide) hopen
    exact ⟨.plain rest, rfl,
      ⟨by simpa [ThinkParts.visible] using hrest, by simp [ThinkParts.thoughts]⟩, rfl⟩
  | case2 rest before inner hopen hclose =>
    have hbefore := cutAt_spec (by decide) hopen
    have hinner : ¬ jsText "</think>" <:+: inner := cutAt_spec (by decide) hclose
    refine ⟨.unclosed before inner, hbefore.1, ⟨?_, ?_⟩, rfl⟩
    · exact forall_mem_singleton.mpr hbefore.2
    · exact forall_mem_singleton.mpr hinner
  | case3 rest before inner hopen thought rest' hclose visible thoughts unclosed hloop ih =>
    have hbefore := cutAt_spec (by decide) hopen
    have hthought := cutAt_spec (by decide) hclose
    obtain ⟨parts, htext, ⟨hvisible, hthoughts⟩, hparts⟩ := ih
    obtain ⟨rfl, rfl, rfl⟩ : visible = parts.visible ∧ thoughts = parts.thoughts ∧
        unclosed = parts.isUnclosed := by simpa [hloop] using hparts
    refine ⟨.closed before thought parts, ?_, ⟨?_, ?_⟩, rfl⟩
    · rw [ThinkParts.text, htext, hthought.1, hbefore.1]
    · exact forall_mem_cons.mpr ⟨hbefore.2, hvisible⟩
    · exact forall_mem_cons.mpr ⟨hthought.2, hthoughts⟩

/-- **Parsing loses nothing and overlooks no tag.** Whatever the text, it is visible text and
thoughts in turn with their tags between them, and these are what the parser returns. -/
theorem think_tags_lossless (content : JsText) : ∃ parts : ThinkParts,
    parts.text = content ∧ parts.Complete ∧
      parseThinkTags content = {
        visibleContent := if parts.thoughts = [] then content else jsTrim parts.visible.flatten
        reasoning := jsTrim ((jsText "\n\n").intercalate parts.thoughts)
        hasUnclosedTag := parts.isUnclosed } := by
  obtain ⟨parts, rfl, hcomplete, hloop⟩ := thinkLoop_parts content
  refine ⟨parts, rfl, hcomplete, ?_⟩
  unfold parseThinkTags
  rw [hloop]
  cases parts with
  | plain text => exact if_pos (cutAt_eq_none_iff.mpr (hcomplete.1 text mem_cons_self))
  | unclosed before thought =>
    exact if_neg fun hnone => cutAt_eq_none_iff.mp hnone ⟨before, thought, append_assoc ..⟩
  | closed before thought rest =>
    exact if_neg fun hnone => cutAt_eq_none_iff.mp hnone ⟨before, _, append_assoc ..⟩

end ApiGateway
