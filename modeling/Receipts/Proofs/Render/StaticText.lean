import Receipts.Proofs.Render.ExtraKeys
import Receipts.Proofs.Template.Scan
import Receipts.Proofs.Text.Stretches

/-!
# Static text around a template

A token begins with an opening brace and ends with a closing one. In a text without opening braces
in front of a template no token begins, and in a text without closing braces behind it none ends, so
every phase of rendering finds the same tokens as without them. The keys and values may be any: no
phase is assumed to end early or to leave no token.
-/

namespace Receipts

open Text (replaceAll)

namespace Template

variable {before after text key : List Char}

theorem closing_mem_token (key : List Char) : '}' ∈ token key := by
  simp [token]

theorem getLast?_token (key : List Char) : (token key).getLast? = some '}' := by
  rw [show token key = '{' :: '{' :: key ++ ['}'] ++ ['}'] by simp [token],
    List.getLast?_concat]

/-- No token ends in a text without closing braces. -/
theorem token_prefix_append_iff (hafter : '}' ∉ after) :
    token key <+: text ++ after ↔ token key <+: text := by
  refine ⟨fun h => ?_, fun h => h.trans (List.prefix_append text after)⟩
  rcases List.prefix_or_prefix_of_prefix h (List.prefix_append text after) with hin | ⟨tail, htail⟩
  · exact hin
  · have hcut : tail <+: after := by
      rwa [← htail, List.prefix_append_right_inj] at h
    have hnone : tail = [] := by
      by_contra hne
      have hlast : tail.getLast? = some '}' := by
        rw [← List.getLast?_append_of_ne_nil text hne, htail, getLast?_token]
      exact hafter (hcut.subset (List.mem_of_getLast? hlast))
    rw [hnone, List.append_nil] at htail
    rw [htail]

theorem token_infix_append_iff (hafter : '}' ∉ after) :
    token key <:+: text ++ after ↔ token key <:+: text := by
  induction text with
  | nil =>
      have hnone : ¬ token key <:+: after := fun h => hafter (h.subset (closing_mem_token key))
      have hnil : ¬ token key <:+: [] := fun h => token_ne_nil key (List.infix_nil.mp h)
      rw [List.nil_append, iff_false_intro hnone, iff_false_intro hnil]
  | cons c text ih =>
      have hhere : token key <+: c :: text ++ after ↔ token key <+: c :: text :=
        token_prefix_append_iff hafter
      rw [List.cons_append] at hhere ⊢
      rw [List.infix_cons_iff, List.infix_cons_iff, hhere, ih]

theorem token_infix_around_iff (hbefore : '{' ∉ before) (hafter : '}' ∉ after) :
    token key <:+: before ++ text ++ after ↔ token key <:+: text := by
  rw [token_infix_append_iff hafter]
  exact ⟨Text.infix_of_infix_append hbefore, fun h => h.trans (List.suffix_append _ _).isInfix⟩

theorem not_token_prefix_of_suffix (hafter : '}' ∉ after) {b : List Char} (hb : b <:+ after) :
    ¬ token key <+: b :=
  fun h => hafter (hb.subset (h.subset (closing_mem_token key)))

theorem replaceAll_around (hbefore : '{' ∉ before) (hafter : '}' ∉ after) (value text : List Char) :
    replaceAll (token key) value (before ++ text ++ after)
      = before ++ replaceAll (token key) value text ++ after := by
  have hne := token_ne_nil key
  have hpassed : Text.IsPassed (Text.literal (token key)) before :=
    (Text.beginsWith_literal '{' _).isPassed hbefore
  rw [Text.replaceAll_eq_replaceHits value hne, Text.replaceAll_eq_replaceHits value hne,
    List.append_assoc, hpassed.replaceHits_append, List.append_assoc]
  congr 1
  refine Text.replaceHits_append_after (fun s _ => ?_) (fun s a width h => ?_)
    (fun b hb _ => ?_) text
  · simp only [Text.literal, List.isPrefixOf_iff_prefix, token_prefix_append_iff hafter]
  · by_cases hp : token key <+: s
    · rw [Text.literal_of_prefix hp] at h
      obtain rfl : _ = width := congrArg Prod.snd (Option.some.inj h)
      exact hp.length_le
    · rw [Text.literal_eq_none_iff.mpr hp] at h
      cases h
  · exact Text.literal_eq_none_iff.mpr (not_token_prefix_of_suffix hafter hb)

theorem beginsWith_placeholder : Text.BeginsWith placeholder '{' := by
  intro c s hc
  refine placeholder_eq_none_iff.mpr fun name _ h => hc ?_
  rw [token, List.cons_prefix_cons] at h
  exact h.1.symm

theorem placeholder_append (hafter : '}' ∉ after) (s : List Char) :
    placeholder (s ++ after) = placeholder s := by
  cases hs : placeholder s with
  | none =>
      rw [placeholder_eq_none_iff] at hs ⊢
      exact fun name hname h => hs name hname ((token_prefix_append_iff hafter).mp h)
  | some found =>
      obtain ⟨name, width⟩ := found
      obtain ⟨hname, rfl, rest, rfl⟩ := placeholder_eq_some hs
      rw [List.append_assoc, placeholder_token hname]

theorem fill_around (hbefore : '{' ∉ before) (hafter : '}' ∉ after)
    (image : List Char → List Char) (text : List Char) :
    fill image (before ++ text ++ after) = before ++ fill image text ++ after := by
  have hpassed := beginsWith_placeholder.isPassed hbefore
  rw [fill, fill, List.append_assoc, hpassed.replaceHits_append, List.append_assoc]
  congr 1
  refine Text.replaceHits_append_after (fun s _ => placeholder_append hafter s)
    (fun s name width h => ?_) (fun b hb _ => ?_) text
  · obtain ⟨-, rfl, hp⟩ := placeholder_eq_some h
    rw [← length_token]
    exact hp.length_le
  · exact placeholder_eq_none_iff.mpr fun _ _ => not_token_prefix_of_suffix hafter hb

end Template

/-! ## The phases pass over static text -/

variable {supplies : List Supply} {before after text : List Char}

theorem presentToken?_around (hbefore : '{' ∉ before) (hafter : '}' ∉ after) :
    presentToken? supplies (before ++ text ++ after) = presentToken? supplies text := by
  have hoccurs : ∀ key, Text.occurs (Template.token key) (before ++ text ++ after)
      = Text.occurs (Template.token key) text := fun key => by
    rw [Bool.eq_iff_iff, Text.occurs_iff, Text.occurs_iff,
      Template.token_infix_around_iff hbefore hafter]
  simp only [presentToken?, List.find?_map, Function.comp_def, hoccurs]

theorem substitute_around (hbefore : '{' ∉ before) (hafter : '}' ∉ after) :
    substitute supplies (before ++ text ++ after)
      = before ++ substitute supplies text ++ after := by
  induction supplies generalizing text with
  | nil => rfl
  | cons supply supplies ih =>
      simp only [substitute, List.foldl_cons] at ih ⊢
      rw [Template.replaceAll_around hbefore hafter, ih]

theorem substituteRounds_around (hbefore : '{' ∉ before) (hafter : '}' ∉ after) (rounds : Nat) :
    substituteRounds supplies rounds (before ++ text ++ after)
      = before ++ substituteRounds supplies rounds text ++ after := by
  induction rounds generalizing text with
  | zero => rfl
  | succ rounds ih =>
      rw [substituteRounds, substituteRounds, substitute_around hbefore hafter,
        presentToken?_around hbefore hafter, ih]
      split <;> rfl

theorem removeTokens_around (hbefore : '{' ∉ before) (hafter : '}' ∉ after) :
    removeTokens supplies (before ++ text ++ after)
      = before ++ removeTokens supplies text ++ after := by
  fun_induction removeTokens supplies text with
  | case1 text hnone =>
      exact removeTokens_of_none ((presentToken?_around hbefore hafter).trans hnone)
  | case2 text found hfound ih =>
      obtain ⟨supply, -, rfl⟩ := List.mem_map.mp (List.mem_of_find?_eq_some hfound)
      rw [removeTokens_of_some ((presentToken?_around hbefore hafter).trans hfound),
        Template.replaceAll_around hbefore hafter, ih]

theorem renderChars_around (text : List Char) (supplies : List Supply) (hbefore : '{' ∉ before)
    (hafter : '}' ∉ after) :
    renderChars (before ++ text ++ after) supplies
      = before ++ renderChars text supplies ++ after := by
  rw [renderChars_eq, renderChars_eq, unblanked, unblanked,
    substituteRounds_around hbefore hafter, removeTokens_around hbefore hafter, blankPlaceholders,
    blankPlaceholders, Template.fill_around hbefore hafter]

/-- Text without opening braces in front of a template and text without closing braces behind it
come through rendering as they are, and the template is rendered as it is without them. -/
theorem render_append_append (before template after : String) (values : FormValues)
    (hbefore : '{' ∉ before.toList) (hafter : '}' ∉ after.toList) :
    render (before ++ template ++ after) values = before ++ render template values ++ after := by
  refine String.toList_injective ?_
  simp only [render, String.toList_append, String.toList_ofList]
  exact renderChars_around _ _ hbefore hafter

/-- A value that asks for itself is put in once, and what it asks for is removed. -/
theorem render_selfTemplate : render selfTemplate selfValues = "x" := by
  refine String.toList_injective ?_
  rw [toList_render_eq_renderedIn, renderedIn_of_left "x\x7b\x7bA\x7d\x7d".toList
    (Template.token ['A']) ['x'] (by decide +kernel) (by decide +kernel) (by decide +kernel)
    (by decide +kernel)]
  decide +kernel

theorem render_append_append_selfTemplate :
    '{' ∉ "<b>\x7d".toList ∧ '}' ∉ "\x7b</b>".toList ∧
    render ("<b>\x7d" ++ selfTemplate ++ "\x7b</b>") selfValues = "<b>\x7dx\x7b</b>" := by
  have hbefore : '{' ∉ "<b>\x7d".toList := by decide
  have hafter : '}' ∉ "\x7b</b>".toList := by decide
  refine ⟨hbefore, hafter, ?_⟩
  rw [render_append_append _ selfTemplate _ selfValues hbefore hafter, render_selfTemplate]
  rfl

end Receipts
