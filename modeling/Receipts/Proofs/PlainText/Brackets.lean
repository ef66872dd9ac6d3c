import Receipts.Proofs.PlainText.Blanks

/-!
# No tag is left

Taking out the tags of a text leaves no opening bracket with a closing one behind it, though it
joins the text around each tag: an opening bracket that is no tag has no closing bracket behind it at
all. Without ampersands no entity is decoded, so the brackets that are left stay the only ones.
-/

namespace Receipts.PlainText

open Text (replaceAll replaceHits visibleChars)

/-- Whether a text has an opening bracket and, anywhere behind it, a closing one. -/
def HasBrackets (s : List Char) : Prop :=
  ['<', '>'].Sublist s

theorem closing_not_mem_of_tag {s : List Char} (h : tag ('<' :: s) = none) : '>' ∉ s := by
  intro hm
  obtain ⟨inside, rest, rfl, hinside⟩ := List.eq_append_cons_of_mem hm
  rw [tag, Text.takeWhile_stop hinside, Text.dropWhile_stop hinside] at h
  cases h

theorem not_hasBrackets_replaceHits_tag (s : List Char) :
    ¬ HasBrackets (replaceHits tag (fun _ => []) s) := by
  induction s using Text.scan_induction tag with
  | nil => simp [HasBrackets, Text.replaceHits_nil]
  | plain c s hplain ih =>
      rw [Text.replaceHits_of_plain _ hplain, HasBrackets, List.sublist_cons_iff, not_or]
      refine ⟨ih, ?_⟩
      rintro ⟨rest, hrest, hclosing⟩
      obtain ⟨rfl, rfl⟩ := List.cons.inj hrest
      exact Text.not_mem_replaceHits (fun _ => List.not_mem_nil) (closing_not_mem_of_tag hplain)
        (List.singleton_sublist.mp hclosing)
  | hit c s a width hhit ih =>
      rw [Text.replaceHits_of_hit _ hhit, List.nil_append]
      exact ih

/-! ## Replacements that do not apply -/

theorem replaceEach_of_not_mem {c : Char} {replacements : List (String × String)} {s : List Char}
    (hin : ∀ r ∈ replacements, c ∈ r.1.toList) (hs : c ∉ s) : replaceEach replacements s = s := by
  induction replacements with
  | nil => rfl
  | cons r replacements ih =>
      obtain ⟨hr, hrest⟩ := List.forall_mem_cons.mp hin
      have hsame : replaceAll r.1.toList r.2.toList s = s :=
        Text.replaceAll_of_not_infix _ (List.ne_nil_of_mem hr) fun h => hs (h.subset hr)
      rw [replaceEach, List.foldl_cons, hsame]
      exact ih hrest

theorem not_mem_replaceEach {c : Char} {replacements : List (String × String)} {s : List Char}
    (hout : ∀ r ∈ replacements, r.1.toList ≠ [] ∧ c ∉ r.2.toList) (hs : c ∉ s) :
    c ∉ replaceEach replacements s := by
  induction replacements generalizing s with
  | nil => exact hs
  | cons r replacements ih =>
      obtain ⟨⟨hne, hr⟩, hrest⟩ := List.forall_mem_cons.mp hout
      rw [replaceEach, List.foldl_cons, Text.replaceAll_eq_replaceHits _ hne]
      exact ih hrest (Text.not_mem_replaceHits (fun _ => hr) hs)

theorem visible_eq_of_not_mem {html : List Char} (h : '&' ∉ html) : visible html =
    replaceHits tag (fun _ => []) (replaceEach breaks (replaceHits hidden (fun _ => []) html)) := by
  have hentities : ∀ r ∈ entities, '&' ∈ r.1.toList := by decide +kernel
  have hbreaks : ∀ r ∈ breaks, r.1.toList ≠ [] ∧ '&' ∉ r.2.toList := by decide +kernel
  have hshown : '&' ∉ replaceHits hidden (fun _ => []) html :=
    Text.not_mem_replaceHits (fun _ => List.not_mem_nil) h
  have hbroken := not_mem_replaceEach hbreaks hshown
  rw [visible, replaceEach_of_not_mem hentities]
  exact Text.not_mem_replaceHits (fun _ => List.not_mem_nil) hbroken

/-- The text alternative of a document without ampersands has no opening bracket with a closing one
behind it. -/
theorem not_hasBrackets_ofHtml (html : String) (h : '&' ∉ html.toList) :
    ¬ HasBrackets (ofHtml html).toList := by
  intro hbrackets
  rw [ofHtml, String.toList_ofList] at hbrackets
  -- Brackets are visible characters, and those come through unchanged.
  have hvisible : HasBrackets (visibleChars (visible html.toList)) := by
    rw [← visibleChars_normalBlanks]
    exact hbrackets.filter fun c => !Text.isBlank c
  have hshown : HasBrackets (visible html.toList) := hvisible.trans List.filter_sublist
  rw [visible_eq_of_not_mem h] at hshown
  exact not_hasBrackets_replaceHits_tag _ hshown

/-- Tags within tags, an element that is hidden within a tag, and brackets that open nothing. -/
def tornTags : String :=
  "<<b>i>x</<head>y</head>p></p> a > b <style><i <c"

theorem not_hasBrackets_ofHtml_tornTags :
    '&' ∉ tornTags.toList ∧ ofHtml tornTags = "i>x\n\na > b <i <c" ∧
      ¬ HasBrackets (ofHtml tornTags).toList :=
  ⟨by decide +kernel, by decide +kernel, not_hasBrackets_ofHtml tornTags (by decide +kernel)⟩

end Receipts.PlainText
