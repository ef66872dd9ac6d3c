import Receipts.Proofs.PlainText.Markup
import Receipts.Proofs.Text.AnyCase

/-!
# What stands in a hidden element does not show

A head or a style element runs from its opening tag to the first closing tag of its name, in
whatever letter case. What stands between them goes with it, whatever it is, so two documents that
differ only there have the same text alternative. An opening tag that the text in front begins is
not completed by the element, since the element begins with a bracket.
-/

namespace Receipts.PlainText

open Text (IsTaken OccursInAnyCase Spells afterWord? isCaseOf replaceHits)

/-- The closing tag of an element. -/
def closingTag (name : List Char) : List Char :=
  '<' :: '/' :: (name ++ ['>'])

theorem isCaseOf_opening {name : List Char} (hname : name ∈ hiddenNames) {letter : Char}
    (hletter : letter ∈ '/' :: (name ++ ['>'])) : isCaseOf letter '<' = false := by
  have hnone : (hiddenNames.all fun name =>
      ('/' :: (name ++ ['>'])).all fun letter => !isCaseOf letter '<') = true := by decide
  have hword := List.all_eq_true.mp (List.all_eq_true.mp hnone name hname) letter hletter
  simpa using hword

theorem afterClosing?_closingTag (name rest : List Char) :
    afterClosing? name (closingTag name ++ rest) = some rest := by
  have hword : afterWord? name (name ++ '>' :: rest) = some ('>' :: rest) :=
    Text.afterWord?_append (Text.spells_self name) _
  have htag : closingTag name ++ rest = '<' :: '/' :: (name ++ '>' :: rest) := by
    simp [closingTag]
  rw [htag, afterClosing?]
  simp only [hword, Option.some_or]

/-- A text at whose front no closing tag stands is searched on behind its first character. -/
theorem afterClosing?_cons {name s : List Char} {c : Char}
    (h : ∀ spelled, Spells (closingTag name) spelled → ¬ spelled <+: c :: s) :
    afterClosing? name (c :: s) = afterClosing? name s := by
  rw [afterClosing?.eq_def]
  simp only
  split
  · rename_i s
    split
    · rename_i rest hword
      obtain ⟨spelled, hspelled, rfl⟩ := Text.exists_spelled hword
      exfalso
      refine h ('<' :: '/' :: (spelled ++ ['>'])) ?_ ?_
      · have hclose : Spells ['>'] ['>'] := Text.spells_self _
        exact .cons (by decide) (.cons (by decide) (List.rel_append hspelled hclose))
      · simp
    · rfl
  · rfl

/-- Where no closing tag stands in a text, the first is the one behind it. -/
theorem afterClosing?_append {name content : List Char} (hname : name ∈ hiddenNames)
    (h : ¬ OccursInAnyCase (closingTag name) content) (rest : List Char) :
    afterClosing? name (content ++ (closingTag name ++ rest)) = some rest := by
  induction content with
  | nil => exact afterClosing?_closingTag name rest
  | cons c content ih =>
      have hcontent : ¬ OccursInAnyCase (closingTag name) content :=
        fun hin => h (hin.of_infix (List.suffix_cons c content).isInfix)
      rw [List.cons_append, afterClosing?_cons, ih hcontent]
      rintro spelled hspelled hprefix
      refine h ⟨spelled, hspelled, List.IsPrefix.isInfix ?_⟩
      -- The bracket of the tag behind is not within a closing tag that begins in the text.
      obtain _ | ⟨hfirst, hmore⟩ := hspelled
      obtain ⟨rfl, hrest⟩ := List.cons_prefix_cons.mp hprefix
      have hnot := Text.not_mem_of_spells hmore fun _ => isCaseOf_opening hname
      exact List.cons_prefix_cons.mpr ⟨rfl, Text.prefix_of_prefix_append_stop hnot hrest⟩

/-! ## Elements that are hidden -/

/-- An element with what is in it, as it stands in a document. -/
def elementText (name content : List Char) : List Char :=
  '<' :: (name ++ '>' :: (content ++ closingTag name))

theorem not_occurs_cons_bracket {name content : List Char}
    (h : ¬ OccursInAnyCase (closingTag name) content) :
    ¬ OccursInAnyCase (closingTag name) ('>' :: content) := by
  rintro ⟨spelled, hspelled, hin⟩
  rcases List.infix_cons_iff.mp hin with hprefix | hin
  · obtain _ | ⟨hcase, -⟩ := hspelled
    rw [(List.cons_prefix_cons.mp hprefix).1] at hcase
    cases hcase
  · exact h ⟨spelled, hspelled, hin⟩

theorem element_elementText {name content : List Char} (hname : name ∈ hiddenNames)
    (h : ¬ OccursInAnyCase (closingTag name) content) (rest : List Char) :
    element name (elementText name content ++ rest)
      = some ((), (elementText name content).length) := by
  have hword : afterWord? name (name ++ '>' :: (content ++ (closingTag name ++ rest)))
      = some ('>' :: (content ++ (closingTag name ++ rest))) :=
    Text.afterWord?_append (Text.spells_self name) _
  have hbracket : Text.isWordChar '>' = false := by decide +kernel
  have hclosing : afterClosing? name ('>' :: (content ++ (closingTag name ++ rest))) = some rest :=
    afterClosing?_append hname (not_occurs_cons_bracket h) rest
  have htext : elementText name content ++ rest
      = '<' :: (name ++ '>' :: (content ++ (closingTag name ++ rest))) := by
    simp [elementText]
  have hwidth : (name ++ '>' :: (content ++ (closingTag name ++ rest))).length + 1 - rest.length
      = (elementText name content).length := by
    have hlength := congrArg List.length htext
    rw [List.length_append, List.length_cons] at hlength
    omega
  rw [htext, element, hword]
  simp only [List.head?_cons, Option.any_some, hbracket, Bool.false_eq_true, if_false, hclosing,
    Option.map_some, hwidth]

theorem isTaken_elementText {name content : List Char} (hname : name ∈ hiddenNames)
    (h : ¬ OccursInAnyCase (closingTag name) content) :
    IsTaken hidden (elementText name content) () := by
  refine ⟨List.cons_ne_nil _ _, fun rest => ?_⟩
  have hwhole := element_elementText hname h rest
  obtain rfl | rfl : name = ['h', 'e', 'a', 'd'] ∨ name = ['s', 't', 'y', 'l', 'e'] := by
    simpa [hiddenNames] using hname
  · rw [hidden, hwhole, Option.some_or]
  · have hhead : element ['h', 'e', 'a', 'd']
        (elementText ['s', 't', 'y', 'l', 'e'] content ++ rest) = none := rfl
    rw [hidden, hhead, hwhole, Option.none_or]

/-- No hidden element begins in a text without its opening, whatever bracket comes behind. -/
theorem hidden_eq_none {before text : List Char}
    (h : ∀ name ∈ hiddenNames, ¬ OccursInAnyCase ('<' :: name) before) (htext : text <:+ before)
    (hne : text ≠ []) (rest : List Char) : hidden (text ++ '<' :: rest) = none := by
  obtain ⟨c, text, rfl⟩ := List.exists_cons_of_ne_nil hne
  by_cases hc : c = '<'
  · subst hc
    have helement : ∀ name ∈ hiddenNames, element name ('<' :: (text ++ '<' :: rest)) = none := by
      intro name hname
      cases hword : afterWord? name (text ++ '<' :: rest) with
      | none => rw [element, hword]
      | some after =>
          obtain ⟨spelled, hspelled, hsplit⟩ := Text.exists_spelled hword
          have hnot : '<' ∉ spelled := Text.not_mem_of_spells hspelled fun letter hletter =>
            isCaseOf_opening hname (by simp [hletter])
          have hprefix : spelled <+: text :=
            Text.prefix_of_prefix_append_stop hnot ⟨after, hsplit.symm⟩
          refine absurd ⟨'<' :: spelled, .cons (by decide) hspelled, ?_⟩ (h name hname)
          exact (List.cons_prefix_cons.mpr ⟨rfl, hprefix⟩).isInfix.trans htext.isInfix
    rw [List.cons_append, hidden, helement _ (by simp [hiddenNames]),
      helement _ (by simp [hiddenNames])]
    rfl
  · exact beginsWith_hidden c _ hc

/-- A hidden element goes with its content, and the text behind it is searched on. -/
theorem replaceHits_hidden_append {name content before : List Char} (hname : name ∈ hiddenNames)
    (hbefore : ∀ hiddenName ∈ hiddenNames, ¬ OccursInAnyCase ('<' :: hiddenName) before)
    (hcontent : ¬ OccursInAnyCase (closingTag name) content) (after : List Char) :
    replaceHits hidden (fun _ => []) (before ++ (elementText name content ++ after))
      = before ++ replaceHits hidden (fun _ => []) after := by
  have hin : ∀ text, text <:+ before → text ≠ [] →
      hidden (text ++ (elementText name content ++ after)) = none :=
    fun text htext hne => hidden_eq_none hbefore htext hne _
  rw [Text.replaceHits_append _ _ _ hin,
    (isTaken_elementText hname hcontent).replaceHits_append _ after, List.nil_append]

/-- A document with a hidden element at a given place. -/
def around (before name content after : String) : String :=
  before ++ "<" ++ name ++ ">" ++ content ++ "</" ++ name ++ ">" ++ after

theorem toList_around (before name content after : String) :
    (around before name content after).toList
      = before.toList ++ (elementText name.toList content.toList ++ after.toList) := by
  simp [around, elementText, closingTag]

/-- What stands in a head or a style element up to its first closing tag does not show: another
content without the closing tag gives the same text. The content may open elements, tags and
entities of its own, and what is around the element need not be well formed. -/
theorem ofHtml_around_eq (name before after first second : String)
    (hname : name.toList ∈ hiddenNames)
    (hbefore : ∀ hiddenName ∈ hiddenNames, ¬ OccursInAnyCase ('<' :: hiddenName) before.toList)
    (hfirst : ¬ OccursInAnyCase (closingTag name.toList) first.toList)
    (hsecond : ¬ OccursInAnyCase (closingTag name.toList) second.toList) :
    ofHtml (around before name first after) = ofHtml (around before name second after) := by
  rw [ofHtml, ofHtml, visible, visible, toList_around, toList_around,
    replaceHits_hidden_append hname hbefore hfirst,
    replaceHits_hidden_append hname hbefore hsecond]

/-- Contents that begin the closing tag or open an element of the other name, behind an opening tag
that is torn by the element. -/
theorem ofHtml_around_eq_tornTags :
    ofHtml (around "<p>Hi <STYL" "style" "p{} <head> </styl <b" "le>all</p>") = "Hi all" ∧
      ofHtml (around "<p>Hi <STYL" "style" "p{} <head> </styl <b" "le>all</p>")
        = ofHtml (around "<p>Hi <STYL" "style" "&lt;</ſTYLE </style" "le>all</p>") :=
  ⟨by decide +kernel,
    ofHtml_around_eq "style" "<p>Hi <STYL" "le>all</p>" "p{} <head> </styl <b"
      "&lt;</ſTYLE </style" (by decide +kernel) (by decide +kernel) (by decide +kernel)
      (by decide +kernel)⟩

end Receipts.PlainText
