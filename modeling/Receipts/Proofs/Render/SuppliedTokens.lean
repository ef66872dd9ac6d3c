import Receipts.Proofs.Render.Phases
import Receipts.Proofs.Template.Blanking
import Receipts.Template.Form

/-!
# Tokens in a rendered text

No supplied token reaches blanking, but blanking joins what stands around the placeholders it takes
out, and the text it leaves is not searched again. A supplied token is left exactly where it was
spliced. Where no three closing braces follow each other, nothing can be spliced, and a rendered
text asks for nothing any more.
-/

namespace Receipts

open Template (IsName HasTorn Spliced token)
open Text (replaceAll infix_of_infix_append)

/-- A supplied token stands in a rendered text exactly if blanking spliced it. If the key has no
closing brace, then placeholders stood between the two closing braces of the token. -/
theorem supplied_token_infix_render_iff (template : String) {values : FormValues} {key : String}
    (h : values.contains key = true) :
    (token key.toList <:+: (render template values).toList
      ↔ Spliced (token key.toList) (unblanked template.toList values.supplies)) ∧
    ('}' ∉ key.toList →
      (token key.toList <:+: (render template values).toList
        ↔ HasTorn key.toList (unblanked template.toList values.supplies))) := by
  obtain ⟨value, hvalue⟩ := FormValues.contains_iff_exists.mp h
  have hsupply : (key.toList, value.toList) ∈ values.supplies :=
    FormValues.mem_supplies_iff.mpr (by simpa using hvalue)
  have hnot := not_token_infix_unblanked template.toList hsupply
  rw [toList_render]
  refine ⟨Template.infix_blanked_iff_spliced hnot, fun hkey => ⟨fun hin => ?_, fun htorn => ?_⟩⟩
  · rcases Template.hasTorn_of_token_infix hkey hin with htorn | ⟨hempty, hin⟩
    · exact htorn
    · rw [← hempty] at hin
      exact absurd hin hnot
  · exact Template.token_infix_of_hasTorn hkey htorn

/-- A value for one key. -/
def singleValue : FormValues where
  entries := [("A", "x")]
  ascending := by decide

/-- A template in which a placeholder stands between the closing braces of a token. -/
def tornTemplate : String :=
  "\x7b\x7bA\x7d\x7b\x7bB\x7d\x7d\x7d"

theorem unblanked_tornTemplate :
    unblanked tornTemplate.toList singleValue.supplies = tornTemplate.toList := by
  have hnone : presentToken? singleValue.supplies tornTemplate.toList = none := by decide +kernel
  rw [unblanked, substituteRounds_of_none hnone, removeTokens_of_none hnone]

theorem supplied_token_infix_render_tornTemplate :
    singleValue.contains "A" = true ∧
    token "A".toList <:+: (render tornTemplate singleValue).toList := by
  have hcontains : singleValue.contains "A" = true := by decide +kernel
  refine ⟨hcontains, ?_⟩
  rw [(supplied_token_infix_render_iff tornTemplate hcontains).2 (by decide +kernel),
    unblanked_tornTemplate]
  exact ⟨[['B']], by decide, by decide, by decide +kernel⟩

/-- Not every supplied token is gone from a rendered text. -/
theorem not_forall_not_supplied_token_infix_render :
    ¬ ∀ (template : String) (values : FormValues) (key : String), values.contains key = true →
      ¬ token key.toList <:+: (render template values).toList := by
  intro h
  refine h tornTemplate singleValue "A" (by decide +kernel) ?_
  rw [toList_render, unblanked_tornTemplate]
  decide +kernel

/-! ## Texts without three closing braces in a row -/

/-- Nowhere do three closing braces follow each other. -/
def NoTriple (s : List Char) : Prop :=
  ¬ List.replicate 3 '}' <:+: s

theorem not_noTriple_token_append {key s : List Char} (h : ['}'] <+: s) :
    ¬ NoTriple (token key ++ s) := by
  obtain ⟨t, rfl⟩ := h
  exact fun hno => hno ⟨'{' :: '{' :: key, t, by simp [token, List.replicate]⟩

/-- Closing braces at the front of a text with tokens replaced were at its front before. -/
theorem replicate_prefix_of_replaceAll {key value s : List Char} (hvalue : '}' ∉ value)
    (hs : NoTriple s) {n : Nat} (h : List.replicate n '}' <+: replaceAll (token key) value s) :
    List.replicate n '}' <+: s := by
  induction s using Text.replaceAll_induction (Template.token_ne_nil key) generalizing n with
  | nil => rwa [Text.replaceAll_nil _ (Template.token_ne_nil key)] at h
  | plain c s hc ih =>
      rw [Text.replaceAll_cons _ (Template.token_ne_nil key) hc] at h
      cases n with
      | zero => exact List.nil_prefix
      | succ n =>
          rw [List.replicate_succ, List.cons_prefix_cons] at h ⊢
          exact ⟨h.1, ih (fun ht => hs (ht.trans (List.suffix_cons c s).isInfix)) h.2⟩
  | hit s ih =>
      rw [Text.replaceAll_append_left _ (Template.token_ne_nil key)] at h
      cases n with
      | zero => exact List.nil_prefix
      | succ n =>
          rw [List.replicate_succ] at h
          cases value with
          | cons d value =>
              rw [List.cons_append, List.cons_prefix_cons] at h
              exact absurd (h.1 ▸ List.mem_cons_self) hvalue
          | nil =>
              -- A closing brace right behind a token would be the third in a row.
              have hrest := ih (fun ht => hs (ht.trans (List.suffix_append _ s).isInfix))
                (n := n + 1) (by simpa [List.replicate_succ] using h)
              have hone : ['}'] <+: s := List.IsPrefix.trans ⟨_, rfl⟩ hrest
              exact absurd hs (not_noTriple_token_append hone)

/-- Replacing tokens by a value without closing braces brings no three of them together. -/
theorem NoTriple.replaceAll {key value s : List Char} (hvalue : '}' ∉ value) (hs : NoTriple s) :
    NoTriple (replaceAll (token key) value s) := by
  induction s using Text.replaceAll_induction (Template.token_ne_nil key) with
  | nil => rwa [Text.replaceAll_nil _ (Template.token_ne_nil key)]
  | plain c s hc ih =>
      have hrest : NoTriple s := fun ht => hs (ht.trans (List.suffix_cons c s).isInfix)
      intro ht
      rw [Text.replaceAll_cons _ (Template.token_ne_nil key) hc, List.infix_cons_iff] at ht
      rcases ht with ht | ht
      · rw [← Text.replaceAll_cons _ (Template.token_ne_nil key) hc] at ht
        exact hs (replicate_prefix_of_replaceAll hvalue hs ht).isInfix
      · exact ih hrest ht
  | hit s ih =>
      have hrest : NoTriple s := fun ht => hs (ht.trans (List.suffix_append _ s).isInfix)
      rw [Text.replaceAll_append_left _ (Template.token_ne_nil key)]
      exact fun ht => ih hrest (infix_of_infix_append hvalue ht)

theorem not_noTriple_of_hasTorn {key s : List Char} (h : HasTorn key s) : ¬ NoTriple s := by
  obtain ⟨names, hne, -, hin⟩ := h
  obtain ⟨names, name, rfl⟩ := List.eq_nil_or_concat names |>.resolve_left hne
  refine fun hno => hno (List.IsInfix.trans ?_ hin)
  exact ⟨'{' :: '{' :: (key ++ '}' :: (Template.tokens names ++ '{' :: '{' :: name)), [],
    by simp [Template.torn, Template.tokens, token, List.replicate]⟩

/-- If the template has no three closing braces in a row and neither keys nor values have any, then
a rendered text has no placeholder, asks for nothing, and renders to itself. -/
theorem render_noTriple (template : String) (values : FormValues)
    (htemplate : NoTriple template.toList)
    (hkeys : ∀ key, values.contains key = true → '}' ∉ key.toList)
    (hvalues : ∀ key value, values.get? key = some value → '}' ∉ value.toList) :
    (∀ name, IsName name → ¬ token name <:+: (render template values).toList) ∧
    (Form.ofHtml (render template values)).fields = [] ∧
    render (render template values) values = render template values := by
  have hsupply : ∀ supply ∈ values.supplies, '}' ∉ supply.1 ∧ '}' ∉ supply.2 := by
    intro supply hm
    have hget := FormValues.mem_supplies_iff.mp hm
    exact ⟨by simpa using hkeys _ (FormValues.contains_iff_exists.mpr ⟨_, hget⟩),
      by simpa using hvalues _ _ hget⟩
  have hno : NoTriple (unblanked template.toList values.supplies) :=
    unblanked_invariant (fun supply hm t ht => ht.replaceAll (hsupply supply hm).2)
      (fun supply hm t ht => ht.replaceAll (by simp)) htemplate
  have hname : ∀ name, IsName name → ¬ token name <:+: (render template values).toList := by
    intro name hname hin
    rw [toList_render] at hin
    rcases Template.hasTorn_of_token_infix hname.2 hin with htorn | ⟨hempty, -⟩
    · exact not_noTriple_of_hasTorn htorn hno
    · exact hname.1 hempty
  have hnone : presentToken? values.supplies (render template values).toList = none := by
    rw [presentToken?_eq_none_iff]
    intro supply hm hin
    rw [toList_render] at hin
    rcases Template.hasTorn_of_token_infix (hsupply supply hm).1 hin with htorn | ⟨hempty, hin⟩
    · exact not_noTriple_of_hasTorn htorn hno
    · rw [← hempty] at hin
      exact not_token_infix_unblanked template.toList hm hin
  refine ⟨hname, ?_, String.toList_injective ?_⟩
  · simp [Form.ofHtml, Template.names_of_no_token hname, Form.sortByLabel]
  · rw [toList_render (render template values), unblanked, substituteRounds_of_none hnone,
      removeTokens_of_none hnone]
    exact Template.fill_of_no_token _ hname

/-- A template with stray braces, for which a value with opening braces is supplied. -/
def strayTemplate : String :=
  "\x7d\x7b\x7bA\x7d\x7d\x7b\x7b\x7bB\x7d\x7d \x7b\x7bA\x7b\x7d\x7d"

/-- A value of opening braces, and an empty one for a name that begins with a brace. -/
def strayValues : FormValues where
  entries := [("A", "\x7b\x7b"), ("\x7bB", "")]
  ascending := by decide

theorem render_strayTemplate :
    NoTriple strayTemplate.toList ∧
    (Form.ofHtml (render strayTemplate strayValues)).fields = [] ∧
    render (render strayTemplate strayValues) strayValues = render strayTemplate strayValues := by
  have htemplate : NoTriple strayTemplate.toList := by
    rw [NoTriple]
    decide +kernel
  have hentries : ∀ entry ∈ strayValues.entries,
      '}' ∉ entry.1.toList ∧ '}' ∉ entry.2.toList := by decide +kernel
  refine ⟨htemplate, (render_noTriple strayTemplate strayValues htemplate ?_ ?_).2⟩
  · intro key h
    obtain ⟨value, hget⟩ := FormValues.contains_iff_exists.mp h
    exact (hentries _ (FormValues.get?_eq_some_iff.mp hget)).1
  · intro key value hget
    exact (hentries _ (FormValues.get?_eq_some_iff.mp hget)).2

end Receipts
