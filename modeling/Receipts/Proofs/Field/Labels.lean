import Receipts.Proofs.Template.Fields
import Receipts.Proofs.Text.AsciiCase
import Receipts.Proofs.Text.Words

/-!
# Labels of names

The label of an ASCII name is the name with other letter case and a space for each underscore. Where
the name itself has no spaces, the name in lower case can be read off its label: labels keep such
names apart up to letter case, and bring together those that differ in letter case alone.
-/

namespace Receipts

open Text (lower titleCase)

/-! ## The characters of a label -/

/-- The characters of the label of a name. -/
def labelChars (name : List Char) : List Char :=
  [' '].intercalate ((List.splitOn '_' name).map titleCase)

theorem toList_labelOf (name : String) : (labelOf name).toList = labelChars name.toList :=
  String.toList_ofList

theorem labelChars_word {word : List Char} (h : '_' ∉ word) : labelChars word = titleCase word :=
  Text.rejoin_word ' ' titleCase h

theorem labelChars_append {word : List Char} (h : '_' ∉ word) (name : List Char) :
    labelChars (word ++ '_' :: name) = titleCase word ++ ' ' :: labelChars name :=
  Text.rejoin_append ' ' titleCase h name

/-- A character with a space for an underscore. -/
def spaced (c : Char) : Char :=
  if c = '_' then ' ' else c

theorem map_spaced_of_not_mem {s : List Char} (h : '_' ∉ s) : s.map spaced = s := by
  have hsame : ∀ c ∈ s, spaced c = c := fun c hc => if_neg (ne_of_mem_of_not_mem hc h)
  exact (List.map_congr_left hsame).trans (List.map_id' s)

/-- A character with an underscore for a space. -/
def underscored (c : Char) : Char :=
  if c = ' ' then '_' else c

/-- What has no spaces is read off the text with spaces for its underscores. -/
theorem map_underscored_map_spaced {s : List Char} (h : ' ' ∉ s) :
    (s.map spaced).map underscored = s := by
  have hback : ∀ c ∈ s, underscored (spaced c) = c := by
    intro c hc
    by_cases hunderscore : c = '_'
    · subst c
      rfl
    · rw [spaced, if_neg hunderscore]
      exact if_neg (ne_of_mem_of_not_mem hc h)
  rw [List.map_map]
  exact (List.map_congr_left hback).trans (List.map_id' s)

section Ascii

variable {name : List Char} (h : ∀ c ∈ name, c.toNat < 0x80)

include h

theorem ascii_labelChars : ∀ c ∈ labelChars name, c.toNat < 0x80 := by
  induction name using Text.words_induction '_' with
  | last word hno =>
      rw [labelChars_word hno]
      exact Text.ascii_titleCase h
  | more word name hno ih =>
      obtain ⟨hword, hrest⟩ := List.forall_mem_append.mp h
      rw [labelChars_append hno]
      exact List.forall_mem_append.mpr ⟨Text.ascii_titleCase hword,
        List.forall_mem_cons.mpr ⟨by decide, ih (List.forall_mem_cons.mp hrest).2⟩⟩

/-- In lower case the label of a name is the name with spaces for its underscores. -/
theorem map_toLower_labelChars :
    (labelChars name).map Char.toLower = (name.map Char.toLower).map spaced := by
  have hlower : ∀ word : List Char, '_' ∉ word →
      (word.map Char.toLower).map spaced = word.map Char.toLower := fun word hno =>
    map_spaced_of_not_mem (Text.not_mem_map_toLower (by decide) hno)
  induction name using Text.words_induction '_' with
  | last word hno => rw [labelChars_word hno, Text.map_toLower_titleCase h, hlower word hno]
  | more word name hno ih =>
      obtain ⟨hword, hrest⟩ := List.forall_mem_append.mp h
      rw [labelChars_append hno, List.map_append, List.map_cons, Text.map_toLower_titleCase hword,
        ih (List.forall_mem_cons.mp hrest).2, List.map_append, List.map_append, hlower word hno]
      rfl

/-- The label of a name does not depend on the case of its letters. -/
theorem labelChars_map_toLower : labelChars (name.map Char.toLower) = labelChars name := by
  have hlower : ∀ word : List Char, '_' ∉ word → '_' ∉ word.map Char.toLower := fun word hno =>
    Text.not_mem_map_toLower (by decide) hno
  induction name using Text.words_induction '_' with
  | last word hno =>
      rw [labelChars_word (hlower word hno), labelChars_word hno, Text.titleCase_map_toLower h]
  | more word name hno ih =>
      obtain ⟨hword, hrest⟩ := List.forall_mem_append.mp h
      rw [List.map_append, List.map_cons, labelChars_append hno,
        ← ih (List.forall_mem_cons.mp hrest).2, ← Text.titleCase_map_toLower hword]
      exact labelChars_append (hlower word hno) _

theorem length_labelChars : (labelChars name).length = name.length := by
  have hlength := congrArg List.length (map_toLower_labelChars h)
  simpa only [List.length_map] using hlength

theorem lower_labelChars : lower (labelChars name) = (name.map Char.toLower).map spaced := by
  rw [Text.lower_of_ascii (ascii_labelChars h), map_toLower_labelChars h]

end Ascii

/-! ## Names and their labels -/

/-- A name of ASCII characters, none of which is a space. -/
structure IsPlainName (name : String) : Prop where
  ascii : ∀ c ∈ name.toList, c.toNat < 0x80
  no_space : ' ' ∉ name.toList

instance (name : String) : Decidable (IsPlainName name) :=
  decidable_of_iff
    ((name.toList.all fun c => decide (c.toNat < 0x80)) = true ∧ ' ' ∉ name.toList)
    ⟨fun h => ⟨by simpa using h.1, h.2⟩, fun h => ⟨by simpa using h.ascii, h.no_space⟩⟩

variable {a b : String}

theorem labelOf_toLower (ha : IsPlainName a) : labelOf a.toLower = labelOf a := by
  apply String.toList_injective
  rw [toList_labelOf, toList_labelOf, String.toLower, String.toList_map,
    labelChars_map_toLower ha.ascii]

theorem IsPlainName.underscored_label (ha : IsPlainName a) :
    ((labelOf a).toLower.map underscored) = a.toLower := by
  have hspace : ' ' ∉ a.toList.map Char.toLower :=
    Text.not_mem_map_toLower (by decide) ha.no_space
  apply String.toList_injective
  simp only [String.toLower, String.toList_map]
  rw [toList_labelOf, map_toLower_labelChars ha.ascii, map_underscored_map_spaced hspace]

theorem labelOf_eq_iff (ha : IsPlainName a) (hb : IsPlainName b) :
    labelOf a = labelOf b ↔ a.toLower = b.toLower := by
  constructor
  · intro h
    rw [← ha.underscored_label, ← hb.underscored_label, h]
  · intro h
    rw [← labelOf_toLower ha, ← labelOf_toLower hb, h]

theorem length_labelOf (ha : IsPlainName a) : (labelOf a).length = a.length := by
  rw [← String.length_toList, toList_labelOf, length_labelChars ha.ascii, String.length_toList]

theorem hint_ofPlaceholder (ha : IsPlainName a) :
    (Field.ofPlaceholder a).hint = "Enter " ++ a.toLower.map spaced := by
  apply String.toList_injective
  simp only [Field.ofPlaceholder, toList_labelOf, lower_labelChars ha.ascii, String.toList_append,
    String.toList_ofList, String.toLower, String.toList_map]

/-- ASCII names without spaces have the same label exactly if they differ in letter case at most. A
label is as long as its name, the hint is the name in lower case with a space for each underscore,
and so different fields of a form share a label only if the case of letters is all that their keys
differ in. -/
theorem labelOf_tellsApart (ha : IsPlainName a) (hb : IsPlainName b) :
    (labelOf a = labelOf b ↔ a.toLower = b.toLower) ∧
    (labelOf a).length = a.length ∧
    (Field.ofPlaceholder a).hint = "Enter " ++ a.toLower.map spaced ∧
    ∀ html, (Form.ofHtml html).fields.Pairwise fun one other =>
      one.key = a → other.key = b →
        a ≠ b ∧ (one.label = other.label ↔ a.toLower = b.toLower) := by
  refine ⟨labelOf_eq_iff ha hb, length_labelOf ha, hint_ofPlaceholder ha, fun html => ?_⟩
  have hkeys := List.pairwise_map.mp (nodup_keys_ofHtml html)
  refine hkeys.imp_of_mem fun {one other} hone hother hne => ?_
  rintro rfl rfl
  rw [eq_ofPlaceholder_of_mem hone, eq_ofPlaceholder_of_mem hother]
  exact ⟨hne, labelOf_eq_iff ha hb⟩

/-- A template with two names that differ in letter case alone and have underscores at both ends and
in a row. -/
def slottedTemplate : String :=
  "\x7b\x7b_Order__ID_\x7d\x7d\x7b\x7b_ORDER__id_\x7d\x7d"

theorem labelOf_tellsApart_slottedTemplate :
    IsPlainName "_Order__ID_" ∧ IsPlainName "_ORDER__id_" ∧
    labelOf "_Order__ID_" = labelOf "_ORDER__id_" ∧ (labelOf "_Order__ID_").length = 11 ∧
    (Field.ofPlaceholder "_Order__ID_").hint = "Enter  order  id " ∧
    ∃ one other, (Form.ofHtml slottedTemplate).fields = [one, other] ∧
      one.key = "_Order__ID_" ∧ other.key = "_ORDER__id_" ∧ one.label = other.label := by
  have ha : IsPlainName "_Order__ID_" := by decide +kernel
  have hb : IsPlainName "_ORDER__id_" := by decide +kernel
  obtain ⟨hsame, hlength, hhint, hfields⟩ := labelOf_tellsApart ha hb
  have hlower : "_Order__ID_".toLower = "_order__id_" := by decide +kernel
  have hlower' : "_ORDER__id_".toLower = "_order__id_" := by decide +kernel
  have hlabel := hsame.mpr (hlower.trans hlower'.symm)
  have hlong : "_Order__ID_".length = 11 := by decide +kernel
  have hspaced : "Enter " ++ "_order__id_".map spaced = "Enter  order  id " := by decide +kernel
  have hnames : Template.names slottedTemplate = ["_Order__ID_", "_ORDER__id_"] := by
    decide +kernel
  have hform : (Form.ofHtml slottedTemplate).fields
      = [Field.ofPlaceholder "_Order__ID_", Field.ofPlaceholder "_ORDER__id_"] := by
    rw [Form.ofHtml, hnames, Form.sortByLabel]
    exact List.mergeSort_of_pairwise (List.pairwise_pair.mpr (decide_eq_true hlabel.le))
  have htold := hfields slottedTemplate
  rw [hform, List.pairwise_pair] at htold
  exact ⟨ha, hb, hlabel, hlength.trans hlong, (hlower ▸ hhint).trans hspaced, _, _, hform, rfl, rfl,
    (htold rfl rfl).2.mpr (hlower.trans hlower'.symm)⟩

/-- A space in a name looks like an underscore in its label. -/
example : labelOf "LINE 1" = "Line 1" ∧ labelOf "LINE_1" = "Line 1" := by decide +kernel

end Receipts
