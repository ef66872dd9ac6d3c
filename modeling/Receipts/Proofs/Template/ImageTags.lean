import Receipts.Proofs.Text.AnyCase
import Receipts.Proofs.Text.Stretches
import Receipts.Template.Form

/-!
# Documents of image tags

A document is put together from image tags and texts. What a tag gives as its source is the value
of its first attribute whose name is `src` or ends in `-src`: a hyphen belongs to no word, so the
word `src` begins after it. The values in front of that attribute do not matter unless one of them
holds an assignment to `src` itself; of such tags nothing is said here.
-/

namespace Receipts.Template

open Text (BeginsWith IsPassed IsTaken Spells afterWord? isBlank isCaseOf isWordChar)

/-- The word that a source is assigned to. -/
def sourceWord : List Char := ['s', 'r', 'c']

/-- An attribute of a tag. -/
structure Attribute where
  name : List Char
  value : List Char
  deriving DecidableEq, Repr

namespace Attribute

/-- A character of the names that are looked at. -/
def isNameChar (c : Char) : Bool := c.isLower || c == '-'

/-- A name of lower-case letters and hyphens, and a value that its quotes and the brackets of the
tag may stand around. -/
structure IsProper (attr : Attribute) : Prop where
  name_ne_nil : attr.name ≠ []
  name : ∀ c ∈ attr.name, isNameChar c = true
  value : '"' ∉ attr.value ∧ '<' ∉ attr.value ∧ '>' ∉ attr.value

instance (attr : Attribute) : Decidable attr.IsProper :=
  decidable_of_iff (attr.name ≠ [] ∧ attr.name.all isNameChar = true ∧
      ('"' ∉ attr.value ∧ '<' ∉ attr.value ∧ '>' ∉ attr.value))
    ⟨fun ⟨hne, hname, hvalue⟩ => ⟨hne, List.all_eq_true.mp hname, hvalue⟩,
      fun h => ⟨h.name_ne_nil, List.all_eq_true.mpr h.name, h.value⟩⟩

/-- An attribute as it stands in a tag. -/
def written (attr : Attribute) : List Char :=
  ' ' :: (attr.name ++ '=' :: '"' :: (attr.value ++ ['"']))

/-- Whether an attribute is the source of an image. -/
def isSource (attr : Attribute) : Bool := attr.name == sourceWord

/-- Whether `src` is the last of the words in a name that hyphens separate. -/
def endsInSource (attr : Attribute) : Bool :=
  attr.isSource || ('-' :: sourceWord).isSuffixOf attr.name

end Attribute

/-- Whether a value has the word `src` in it, in any letter case and where a word begins, with an
equals sign after it. -/
def AssignsSource (value : List Char) : Prop :=
  ∃ before word blanks after, value = before ++ (word ++ (blanks ++ '=' :: after)) ∧
    Spells sourceWord word ∧ (∀ c ∈ blanks, isBlank c = true) ∧
    isWordChar (before.getLastD '"') = false

/-- A proper attribute that gives no source, neither by its name nor within its value. -/
def Attribute.GivesNoSource (attr : Attribute) : Prop :=
  attr.IsProper ∧ attr.endsInSource = false ∧ ¬ AssignsSource attr.value

/-- An image tag, or a text between tags. -/
inductive Node where
  | image (attributes : List Attribute)
  | text (chars : List Char)
  deriving DecidableEq, Repr

namespace Node

/-- The attributes of a node: a text has none. -/
def attributes : Node → List Attribute
  | image attributes => attributes
  | text _ => []

/-- A tag names no attribute twice, and a text opens no tag. -/
def IsProper : Node → Prop
  | image attributes =>
      (∀ attr ∈ attributes, attr.IsProper) ∧ (attributes.map Attribute.name).Nodup
  | text chars => '<' ∉ chars

instance : (node : Node) → Decidable node.IsProper
  | .image attributes => inferInstanceAs (Decidable ((∀ attr ∈ attributes, attr.IsProper) ∧
      (attributes.map Attribute.name).Nodup))
  | .text chars => inferInstanceAs (Decidable ('<' ∉ chars))

/-- A node as it stands in the document. -/
def written : Node → List Char
  | image attributes => '<' :: 'i' :: 'm' :: 'g' :: (attributes.flatMap Attribute.written ++ ['>'])
  | text chars => chars

/-- The value of the attribute `src`. -/
def source? (node : Node) : Option (List Char) :=
  (node.attributes.find? Attribute.isSource).map Attribute.value

/-- The value of the first attribute whose name ends in `src` as a word. -/
def found? (node : Node) : Option (List Char) :=
  (node.attributes.find? Attribute.endsInSource).map Attribute.value

/-- No value in front of that attribute assigns to `src`. -/
def HasNoDecoy (node : Node) : Prop :=
  ∀ attr ∈ node.attributes.takeWhile (!·.endsInSource), ¬ AssignsSource attr.value

end Node

/-- A document as it stands in HTML. -/
def htmlOf (nodes : List Node) : String :=
  String.ofList (nodes.flatMap Node.written)

/-- Whether a value has both the opening and the closing braces of a placeholder in it. -/
def embedsPlaceholder (value : List Char) : Bool :=
  decide (['{', '{'] <:+: value) && decide (['}', '}'] <:+: value)

theorem hasBraces_eq (value : List Char) : hasBraces value = embedsPlaceholder value := by
  rw [hasBraces, embedsPlaceholder, Bool.eq_iff_iff]
  simp only [Bool.and_eq_true, Text.occurs_iff, decide_eq_true_eq]

/-! ## Where no assignment begins -/

/-- What is assigned to `src` at the front of a text. -/
def sourceHere? (s : List Char) : Option (List Char × List Char) :=
  (afterWord? sourceWord s).bind assigned?

theorem sourceHere?_of_ne {c : Char} (hc : isCaseOf 's' c = false) (s : List Char) :
    sourceHere? (c :: s) = none := by
  simp [sourceHere?, sourceWord, afterWord?, hc]

theorem sourceWithin_cons (left c : Char) (s : List Char) : sourceWithin left (c :: s)
    = match (if isWordChar left then none else sourceHere? (c :: s)) with
      | some found => some found
      | none => if c == '>' then none else sourceWithin c s := rfl

/-- A character at which no assignment begins is passed, unless it ends the tag. -/
theorem sourceWithin_of_none {left c : Char} {s : List Char} (hc : c ≠ '>')
    (h : isWordChar left = true ∨ sourceHere? (c :: s) = none) :
    sourceWithin left (c :: s) = sourceWithin c s := by
  have hclosing : (c == '>') = false := beq_eq_false_iff_ne.mpr hc
  rw [sourceWithin_cons]
  rcases h with hword | hnone
  · simp [hword, hclosing]
  · simp [hnone, hclosing]

theorem sourceWithin_of_found {left c : Char} {s : List Char} {found : List Char × List Char}
    (hleft : isWordChar left = false) (h : sourceHere? (c :: s) = some found) :
    sourceWithin left (c :: s) = some found := by
  rw [sourceWithin_cons, hleft, if_neg Bool.false_ne_true, h]

/-- A stretch in which no assignment begins is passed. -/
theorem sourceWithin_append {left : Char} {s rest : List Char}
    (h : ∀ before c after, s = before ++ c :: after → c ≠ '>' ∧
      (isWordChar (before.getLastD left) = true ∨ sourceHere? (c :: (after ++ rest)) = none)) :
    sourceWithin left (s ++ rest) = sourceWithin (s.getLastD left) rest := by
  induction s generalizing left with
  | nil => rfl
  | cons c s ih =>
      obtain ⟨hclosing, hnone⟩ := h [] c s rfl
      rw [List.getLastD_nil] at hnone
      rw [List.cons_append, sourceWithin_of_none hclosing hnone, List.getLastD_cons]
      refine ih fun before d after hs => ?_
      have hlater := h (c :: before) d after (by rw [hs, List.cons_append])
      rwa [List.getLastD_cons] at hlater

/-! ## Attributes -/

theorem Attribute.isNameChar_iff {c : Char} :
    isNameChar c = true ↔ (97 ≤ c.toNat ∧ c.toNat ≤ 122) ∨ c = '-' := by
  have hlower : c.isLower = (decide (97 ≤ c.toNat) && decide (c.toNat ≤ 122)) := rfl
  rw [isNameChar, hlower, Bool.or_eq_true, beq_iff_eq, Bool.and_eq_true, decide_eq_true_eq,
    decide_eq_true_eq]

theorem isBlank_of_isNameChar {c : Char} (h : Attribute.isNameChar c = true) :
    isBlank c = false := by
  rcases Attribute.isNameChar_iff.mp h with ⟨hlow, hhigh⟩ | rfl
  · simp only [isBlank, Bool.or_eq_false_iff, Bool.and_eq_false_iff, decide_eq_false_iff_not,
      beq_eq_false_iff_ne]
    omega
  · decide

theorem isWordChar_of_isNameChar {c : Char} (h : Attribute.isNameChar c = true) (hne : c ≠ '-') :
    isWordChar c = true := by
  have hlower : c.isLower = true := by simpa [Attribute.isNameChar, hne] using h
  have halphanum : c.isAlphanum = (c.isUpper || c.isLower || c.isDigit) := rfl
  simp [isWordChar, halphanum, hlower]

theorem eq_of_isCaseOf {letter c : Char} (hletter : letter ∈ sourceWord)
    (hc : Attribute.isNameChar c = true) (h : isCaseOf letter c = true) : c = letter := by
  have hupper : (sourceWord.all fun letter => !Attribute.isNameChar letter.toUpper) = true := by
    decide
  simp only [isCaseOf, Bool.or_eq_true, Bool.and_eq_true, beq_iff_eq] at h
  rcases h with (rfl | rfl) | ⟨-, hlong⟩
  · rfl
  · have hlower := List.all_eq_true.mp hupper letter hletter
    rw [hc] at hlower
    cases hlower
  · rcases Attribute.isNameChar_iff.mp hc with hlow | rfl
    · omega
    · exact absurd hlong (by decide)

/-- The symbols around a name and a value spell no letter of the word. -/
theorem isCaseOf_separator {letter c : Char} (hletter : letter ∈ sourceWord)
    (hc : c ∈ [' ', '=', '"']) : isCaseOf letter c = false := by
  have hall : (sourceWord.all fun letter => [' ', '=', '"'].all fun c => !isCaseOf letter c)
      = true := by decide
  have hother := List.all_eq_true.mp (List.all_eq_true.mp hall letter hletter) c hc
  exact Bool.not_eq_true' _ ▸ hother

/-- In a name, words are spelled in one way. -/
theorem eq_of_spells {word spelled : List Char} (hword : word ⊆ sourceWord)
    (h : Spells word spelled) (hname : ∀ c ∈ spelled, Attribute.isNameChar c = true) :
    spelled = word := by
  induction h with
  | nil => rfl
  | cons hcase _ ih =>
      obtain ⟨hletter, hword⟩ := List.cons_subset.mp hword
      obtain ⟨hc, hname⟩ := List.forall_mem_cons.mp hname
      rw [eq_of_isCaseOf hletter hc hcase, ih hword hname]

/-- Within a name that an equals sign follows, an assignment begins at its last word only. -/
theorem sourceHere?_of_name {name : List Char} (hname : ∀ c ∈ name, Attribute.isNameChar c = true)
    (hne : name ≠ sourceWord) (rest : List Char) : sourceHere? (name ++ '=' :: rest) = none := by
  rw [sourceHere?]
  cases hword : afterWord? sourceWord (name ++ '=' :: rest) with
  | none => rfl
  | some r =>
      obtain ⟨spelled, hspelled, hsplit⟩ := Text.exists_spelled hword
      have hequals : '=' ∉ spelled := Text.not_mem_of_spells hspelled fun letter hletter =>
        isCaseOf_separator hletter (by decide)
      have hprefix : spelled <+: name ++ '=' :: rest := ⟨r, hsplit.symm⟩
      obtain ⟨later, rfl⟩ := Text.prefix_of_prefix_append_stop hequals hprefix
      obtain rfl := eq_of_spells (List.Subset.refl _) hspelled fun c hc =>
        hname c (List.mem_append_left later hc)
      rw [List.append_assoc, List.append_cancel_left_eq] at hsplit
      cases later with
      | nil => exact absurd (List.append_nil _) hne
      | cons d later =>
          have hd := hname d (by simp)
          have hother : d ≠ '=' := by
            rintro rfl
            exact absurd hd (by decide)
          rw [Option.bind_some, assigned?, ← hsplit, List.cons_append,
            Text.trimStart_cons_of_visible _ (isBlank_of_isNameChar hd)]
          split
          · rename_i heq
            exact absurd (List.cons.inj heq).1 hother
          · rfl

theorem exists_assigned {s rest : List Char} {found : List Char × List Char}
    (h : assigned? (s ++ '"' :: rest) = some found) :
    ∃ blanks after, s = blanks ++ '=' :: after ∧ ∀ c ∈ blanks, isBlank c = true := by
  induction s with
  | nil =>
      rw [List.nil_append, assigned?, Text.trimStart_cons_of_visible _ (by decide)] at h
      cases h
  | cons c s ih =>
      by_cases hblank : isBlank c = true
      · rw [List.cons_append, assigned?, Text.trimStart_cons_of_blank _ hblank, ← assigned?] at h
        obtain ⟨blanks, after, rfl, hblanks⟩ := ih h
        exact ⟨c :: blanks, after, rfl, List.forall_mem_cons.mpr ⟨hblank, hblanks⟩⟩
      · rw [Bool.not_eq_true] at hblank
        rw [List.cons_append, assigned?, Text.trimStart_cons_of_visible _ hblank] at h
        split at h
        · rename_i heq
          obtain rfl : c = '=' := (List.cons.inj heq).1
          exact ⟨[], s, rfl, by simp⟩
        · cases h

/-- A value without an assignment is passed. -/
theorem sourceWithin_value {value : List Char} (hclosing : '>' ∉ value)
    (h : ¬ AssignsSource value) (rest : List Char) :
    sourceWithin '"' (value ++ '"' :: rest)
      = sourceWithin (value.getLastD '"') ('"' :: rest) := by
  refine sourceWithin_append fun before c after hsplit => ?_
  refine ⟨ne_of_mem_of_not_mem (by simp [hsplit]) hclosing, ?_⟩
  by_cases hleft : isWordChar (before.getLastD '"') = true
  · exact .inl hleft
  refine .inr ?_
  rw [sourceHere?]
  cases hword : afterWord? sourceWord (c :: (after ++ '"' :: rest)) with
  | none => rfl
  | some r =>
      rw [Option.bind_some, Option.eq_none_iff_forall_ne_some]
      intro found hfound
      obtain ⟨spelled, hspelled, hread⟩ := Text.exists_spelled hword
      have hquote : '"' ∉ spelled := Text.not_mem_of_spells hspelled fun letter hletter =>
        isCaseOf_separator hletter (by decide)
      have hprefix : spelled <+: (c :: after) ++ '"' :: rest := ⟨r, hread.symm⟩
      obtain ⟨later, hlater⟩ := Text.prefix_of_prefix_append_stop hquote hprefix
      rw [← List.cons_append, ← hlater, List.append_assoc, List.append_cancel_left_eq] at hread
      rw [← hread] at hfound
      obtain ⟨blanks, assigned, rfl, hblanks⟩ := exists_assigned hfound
      refine h ⟨before, spelled, blanks, assigned, ?_, hspelled, hblanks, ?_⟩
      · rw [hsplit, hlater]
      · simpa using hleft

/-- A name is passed as far as no word `src` begins that ends it. -/
theorem sourceWithin_name (front back : List Char)
    (hname : ∀ c ∈ front ++ back, Attribute.isNameChar c = true)
    (h : ∀ before c after, front = before ++ c :: after → c :: (after ++ back) = sourceWord →
      isWordChar (before.getLastD ' ') = true) (rest : List Char) :
    sourceWithin ' ' (front ++ (back ++ '=' :: rest))
      = sourceWithin (front.getLastD ' ') (back ++ '=' :: rest) := by
  refine sourceWithin_append fun before c after hsplit => ?_
  have hmem : ∀ d ∈ c :: (after ++ back), Attribute.isNameChar d = true := fun d hd =>
    hname d (by simp only [hsplit, List.mem_append, List.mem_cons] at hd ⊢; tauto)
  constructor
  · rintro rfl
    exact absurd (hmem '>' List.mem_cons_self) (by decide)
  · by_cases hword : c :: (after ++ back) = sourceWord
    · exact .inl (h before c after hsplit hword)
    · have hnone := sourceHere?_of_name hmem hword rest
      rw [List.cons_append, List.append_assoc] at hnone
      exact .inr hnone

namespace Attribute

variable {attr : Attribute}

theorem isWordChar_of_not_endsInSource (h : attr.IsProper) (hends : attr.endsInSource = false)
    {before : List Char} (hname : attr.name = before ++ sourceWord) :
    isWordChar (before.getLastD ' ') = true := by
  rw [endsInSource, Bool.or_eq_false_iff] at hends
  rcases List.eq_nil_or_concat' before with rfl | ⟨init, c, rfl⟩
  · rw [isSource, hname] at hends
    exact absurd hends.1 (by simp)
  · rw [List.getLastD_concat]
    refine isWordChar_of_isNameChar (h.name c (by simp [hname])) ?_
    rintro rfl
    have hsuffix : '-' :: sourceWord <:+ attr.name := ⟨init, by simp [hname]⟩
    rw [← List.isSuffixOf_iff_suffix, hends.2] at hsuffix
    cases hsuffix

theorem exists_of_endsInSource (h : attr.endsInSource = true) :
    ∃ before, attr.name = before ++ sourceWord ∧ isWordChar (before.getLastD ' ') = false := by
  rw [endsInSource, Bool.or_eq_true, isSource, beq_iff_eq, List.isSuffixOf_iff_suffix] at h
  rcases h with hname | ⟨init, hname⟩
  · exact ⟨[], by simp [hname], by decide⟩
  · refine ⟨init ++ ['-'], by simp [← hname], ?_⟩
    rw [List.getLastD_concat]
    decide

theorem written_append (attr : Attribute) (rest : List Char) : attr.written ++ rest
    = ' ' :: (attr.name ++ '=' :: '"' :: (attr.value ++ '"' :: rest)) := by
  simp [written]

/-- An attribute with another name is passed. -/
theorem sourceWithin_passed (h : attr.IsProper) (hends : attr.endsInSource = false)
    (hvalue : ¬ AssignsSource attr.value) (left : Char) (rest : List Char) :
    sourceWithin left (attr.written ++ rest) = sourceWithin '"' rest := by
  have hnone : ∀ c ∈ [' ', '=', '"'], isCaseOf 's' c = false := fun c hc =>
    isCaseOf_separator List.mem_cons_self hc
  have hwords : ∀ before c after, attr.name = before ++ c :: after →
      c :: (after ++ []) = sourceWord → isWordChar (before.getLastD ' ') = true := by
    intro before c after hsplit hword
    rw [List.append_nil] at hword
    exact isWordChar_of_not_endsInSource h hends (by rw [hsplit, hword])
  have hname := sourceWithin_name attr.name [] (by simpa using h.name) hwords
    ('"' :: (attr.value ++ '"' :: rest))
  rw [List.nil_append] at hname
  rw [written_append,
    sourceWithin_of_none (by decide) (.inr (sourceHere?_of_ne (hnone ' ' (by simp)) _)), hname,
    sourceWithin_of_none (by decide) (.inr (sourceHere?_of_ne (hnone '=' (by simp)) _)),
    sourceWithin_of_none (by decide) (.inr (sourceHere?_of_ne (hnone '"' (by simp)) _)),
    sourceWithin_value h.value.2.2 hvalue,
    sourceWithin_of_none (by decide) (.inr (sourceHere?_of_ne (hnone '"' (by simp)) _))]

theorem sourceHere?_source {value : List Char} (hquote : '"' ∉ value) (rest : List Char) :
    sourceHere? (sourceWord ++ '=' :: '"' :: (value ++ '"' :: rest)) = some (value, rest) := by
  have hquoted : quotedValue? '"' (value ++ '"' :: rest) = some (value, rest) := by
    rw [quotedValue?, Text.dropWhile_stop hquote, Text.takeWhile_stop hquote]
  rw [sourceHere?, Text.afterWord?_append (Text.spells_self _), Option.bind_some, assigned?,
    Text.trimStart_cons_of_visible _ (by decide)]
  show value? (Text.trimStart ('"' :: _)) = _
  rw [Text.trimStart_cons_of_visible _ (by decide), value?, hquoted]
  rfl

/-- An attribute whose name ends in `src` gives its value. -/
theorem sourceWithin_found (h : attr.IsProper) (hends : attr.endsInSource = true) (left : Char)
    (rest : List Char) :
    sourceWithin left (attr.written ++ rest) = some (attr.value, rest) := by
  obtain ⟨before, hsplit, hleft⟩ := exists_of_endsInSource hends
  have hwords : ∀ front c after, before = front ++ c :: after →
      c :: (after ++ sourceWord) = sourceWord → isWordChar (front.getLastD ' ') = true := by
    intro front c after _ hword
    have hlength := congrArg List.length hword
    simp only [List.length_cons, List.length_append] at hlength
    omega
  have hname := sourceWithin_name before sourceWord (by rw [← hsplit]; exact h.name) hwords
    ('"' :: (attr.value ++ '"' :: rest))
  have hhere := sourceHere?_source h.value.1 rest
  rw [written_append,
    sourceWithin_of_none (by decide) (.inr (sourceHere?_of_ne (by decide) _)), hsplit,
    List.append_assoc, hname]
  exact sourceWithin_of_found hleft hhere

end Attribute

/-! ## Tags -/

theorem exists_sourceWithin_passed {attributes : List Attribute}
    (h : ∀ attr ∈ attributes, attr.GivesNoSource) (left : Char) (rest : List Char) :
    ∃ left', sourceWithin left (attributes.flatMap Attribute.written ++ rest)
      = sourceWithin left' rest := by
  induction attributes generalizing left with
  | nil => exact ⟨left, rfl⟩
  | cons attr attributes ih =>
      obtain ⟨⟨hproper, hends, hvalue⟩, hattributes⟩ := List.forall_mem_cons.mp h
      obtain ⟨left', hlater⟩ := ih hattributes '"'
      refine ⟨left', ?_⟩
      rw [List.flatMap_cons, List.append_assoc, Attribute.sourceWithin_passed hproper hends hvalue,
        hlater]

theorem sourceWithin_closing (left : Char) (rest : List Char) :
    sourceWithin left ('>' :: rest) = none := by
  have hnone : sourceHere? ('>' :: rest) = none := sourceHere?_of_ne (by decide) rest
  rw [sourceWithin_cons, hnone, ite_self]
  rfl

theorem beginsWith_imageSource : BeginsWith imageSource '<' := by
  intro c s hc
  unfold imageSource
  split
  · rename_i heq
    exact absurd (List.cons.inj heq).1 hc
  · rfl

theorem imageSource_tag {inside : List Char} (h : inside.head?.any isWordChar = false) :
    imageSource ('<' :: 'i' :: 'm' :: 'g' :: inside)
      = (sourceWithin 'g' inside).map fun found =>
          (found.1, inside.length + 4 - found.2.length) := by
  have hword : afterWord? ['i', 'm', 'g'] ('i' :: 'm' :: 'g' :: inside) = some inside :=
    Text.afterWord?_append (Text.spells_self _) inside
  rw [imageSource, hword]
  simp only [h, Bool.false_eq_true, if_false, List.length_cons]

theorem head?_attributes (attributes : List Attribute) (rest : List Char) :
    (attributes.flatMap Attribute.written ++ '>' :: rest).head?.any isWordChar = false := by
  cases attributes with
  | nil => exact (by decide : isWordChar '>' = false)
  | cons attr attributes => exact (by decide : isWordChar ' ' = false)

section
variable {before after : List Attribute} {attr : Attribute}

/-- A tag is one hit up to the attribute whose name ends in `src`. -/
theorem isTaken_front (hbefore : ∀ other ∈ before, other.GivesNoSource) (h : attr.IsProper)
    (hends : attr.endsInSource = true) :
    IsTaken imageSource ('<' :: 'i' :: 'm' :: 'g' :: (before.flatMap Attribute.written
      ++ attr.written)) attr.value := by
  refine ⟨List.cons_ne_nil _ _, fun rest => ?_⟩
  have hhead : (before.flatMap Attribute.written ++ (attr.written ++ rest)).head?.any isWordChar
      = false := by
    cases before with
    | nil => exact (by decide : isWordChar ' ' = false)
    | cons other before => exact (by decide : isWordChar ' ' = false)
  obtain ⟨left, hpassed⟩ := exists_sourceWithin_passed hbefore 'g' (attr.written ++ rest)
  have htag := imageSource_tag hhead
  rw [hpassed, Attribute.sourceWithin_found h hends] at htag
  rw [List.cons_append, List.cons_append, List.cons_append, List.cons_append, List.append_assoc,
    htag, Option.map_some]
  simp only [List.length_append, List.length_cons, Option.some.injEq, Prod.mk.injEq, true_and]
  omega

theorem opening_not_mem_written (h : attr.IsProper) : '<' ∉ attr.written := by
  have hname : '<' ∉ attr.name := fun hm => absurd (h.name '<' hm) (by decide)
  simp [Attribute.written, hname, h.value.2.1]

theorem opening_not_mem_rest (hafter : ∀ other ∈ after, other.IsProper) :
    '<' ∉ after.flatMap Attribute.written ++ ['>'] := by
  intro hm
  rw [List.mem_append, List.mem_flatMap] at hm
  rcases hm with ⟨other, hother, hm⟩ | hm
  · exact opening_not_mem_written (hafter other hother) hm
  · exact absurd hm (by decide)

end

/-- A tag without such an attribute holds no hit. -/
theorem isPassed_tag {attributes : List Attribute}
    (h : ∀ attr ∈ attributes, attr.GivesNoSource) :
    IsPassed imageSource (Node.image attributes).written := by
  have hnothing : ∀ rest, imageSource ((Node.image attributes).written ++ rest) = none := by
    intro rest
    obtain ⟨left, hleft⟩ := exists_sourceWithin_passed h 'g' ('>' :: rest)
    have htag := imageSource_tag (head?_attributes attributes rest)
    rw [hleft, sourceWithin_closing] at htag
    simpa [Node.written] using htag
  have hrest : '<' ∉ 'i' :: 'm' :: 'g' :: (attributes.flatMap Attribute.written ++ ['>']) := by
    have hinside := opening_not_mem_rest fun attr hattr => (h attr hattr).1
    simpa using hinside
  exact beginsWith_imageSource.isPassed_cons hrest hnothing

/-- What a node adds to the hits: the source that is found in it, if any. -/
theorem hits_written {node : Node} (h : node.IsProper) (hdecoy : node.HasNoDecoy)
    (rest : List Char) : Text.hits imageSource (node.written ++ rest)
      = node.found?.toList ++ Text.hits imageSource rest := by
  cases node with
  | text chars => exact (beginsWith_imageSource.isPassed h).hits_append rest
  | image attributes =>
      have hproper : ∀ attr ∈ attributes, attr.IsProper := h.1
      cases hfind : attributes.find? Attribute.endsInSource with
      | none =>
          have hnone : ∀ attr ∈ attributes, attr.endsInSource = false := fun attr hattr => by
            simpa using List.find?_eq_none.mp hfind attr hattr
          have hall : attributes.takeWhile (!·.endsInSource) = attributes :=
            List.takeWhile_eq_self_iff.mpr fun attr hattr => by simp [hnone attr hattr]
          have hpass := isPassed_tag fun attr hattr => ⟨hproper attr hattr, hnone attr hattr,
            hdecoy attr (by rw [Node.attributes, hall]; exact hattr)⟩
          rw [hpass.hits_append rest, Node.found?, Node.attributes, hfind]
          rfl
      | some attr =>
          obtain ⟨hends, before, after, rfl, hbefore⟩ := List.find?_eq_some_iff_append.mp hfind
          obtain ⟨hfront, hbehind⟩ := List.forall_mem_append.mp hproper
          obtain ⟨hattr, hafter⟩ := List.forall_mem_cons.mp hbehind
          have hother : ∀ other ∈ before, other.endsInSource = false := fun other hm => by
            simpa using hbefore other hm
          have hpassed : ∀ other ∈ before, other.GivesNoSource := fun other hm =>
            ⟨hfront other hm, hother other hm, hdecoy other (by
              rw [Node.attributes, List.takeWhile_append_of_pos fun o ho => by simp [hother o ho]]
              exact List.mem_append_left _ hm)⟩
          have htaken := isTaken_front hpassed hattr hends
          have hrest := beginsWith_imageSource.isPassed (opening_not_mem_rest hafter)
          have hsplit : (Node.image (before ++ attr :: after)).written ++ rest
              = '<' :: 'i' :: 'm' :: 'g' :: (before.flatMap Attribute.written ++ attr.written)
                ++ (after.flatMap Attribute.written ++ ['>'] ++ rest) := by
            simp [Node.written]
          rw [hsplit, htaken.hits_append, hrest.hits_append, Node.found?, Node.attributes, hfind]
          rfl

/-! ## Documents -/

section
variable {nodes : List Node}

theorem hits_htmlOf (h : ∀ node ∈ nodes, node.IsProper ∧ node.HasNoDecoy) :
    Text.hits imageSource (nodes.flatMap Node.written) = nodes.filterMap Node.found? := by
  induction nodes with
  | nil => rfl
  | cons node nodes ih =>
      obtain ⟨⟨hproper, hdecoy⟩, hnodes⟩ := List.forall_mem_cons.mp h
      rw [List.flatMap_cons, hits_written hproper hdecoy, ih hnodes]
      cases hfound : node.found? <;> simp [hfound]

/-- The sources that embed a placeholder, as texts. -/
def embedding (sources : List (List Char)) : List String :=
  (sources.filter embedsPlaceholder).map String.ofList

/-- No name in front of `src`, or in a tag without it, ends in `-src`. -/
def Node.NamesSourceFirst (node : Node) : Prop :=
  ∀ attr ∈ node.attributes.takeWhile (!·.isSource), attr.endsInSource = false

instance (node : Node) : Decidable node.NamesSourceFirst :=
  inferInstanceAs (Decidable (∀ attr ∈ node.attributes.takeWhile (!·.isSource),
    attr.endsInSource = false))

theorem Node.NamesSourceFirst.found?_eq {node : Node} (h : node.NamesSourceFirst) :
    node.found? = node.source? := by
  unfold found? source?
  refine congrArg (Option.map Attribute.value) ?_
  unfold NamesSourceFirst at h
  generalize node.attributes = attributes at h ⊢
  induction attributes with
  | nil => rfl
  | cons attr attributes ih =>
      by_cases hsource : attr.isSource = true
      · have hends : attr.endsInSource = true := by simp [Attribute.endsInSource, hsource]
        rw [List.find?_cons_of_pos hends, List.find?_cons_of_pos hsource]
      · rw [List.takeWhile_cons_of_pos (by simpa using hsource)] at h
        obtain ⟨hends, hlater⟩ := List.forall_mem_cons.mp h
        rw [List.find?_cons_of_neg (by simp [hends]), List.find?_cons_of_neg hsource, ih hlater]

/-- In a document of tags and texts every tag gives the value of its first attribute whose name ends
in `src` as a word, provided that no value in front of it assigns to `src`. So the form lists the
values of the attributes `src`, unless a name that ends in `-src` comes before one or stands in a
tag without one. -/
theorem imageSources_htmlOf (h : ∀ node ∈ nodes, node.IsProper ∧ node.HasNoDecoy) :
    (Form.ofHtml (htmlOf nodes)).imageSources = embedding (nodes.filterMap Node.found?) ∧
    ((∀ node ∈ nodes, node.NamesSourceFirst) →
      (Form.ofHtml (htmlOf nodes)).imageSources = embedding (nodes.filterMap Node.source?)) := by
  have hfilter : hasBraces = embedsPlaceholder := funext hasBraces_eq
  have hlist : (Form.ofHtml (htmlOf nodes)).imageSources
      = embedding (nodes.filterMap Node.found?) := by
    rw [Form.ofHtml, imageSources, htmlOf, String.toList_ofList, hits_htmlOf h, hfilter, embedding]
  refine ⟨hlist, fun hfirst => ?_⟩
  rw [hlist, List.filterMap_congr fun node hnode => (hfirst node hnode).found?_eq]

end

/-! ## Fixed documents -/

theorem not_assignsSource_of_not_mem {value : List Char} (h : '=' ∉ value) :
    ¬ AssignsSource value := by
  rintro ⟨before, word, blanks, after, rfl, -⟩
  simp at h

theorem Node.hasNoDecoy_of_not_mem {node : Node} (h : ∀ attr ∈ node.attributes, '=' ∉ attr.value) :
    node.HasNoDecoy := fun attr hm =>
  not_assignsSource_of_not_mem (h attr (List.takeWhile_subset _ hm))

/-- A tag with these names and values. -/
def tagOf (attributes : List (String × String)) : Node :=
  .image (attributes.map fun (name, value) => ⟨name.toList, value.toList⟩)

/-- A tag that speaks of `src` before it has one, a text, and a tag with two sources. -/
def mixedNodes : List Node :=
  [tagOf [("alt", "the src of \x7b\x7bA\x7d\x7d"), ("src-set", "\x7b\x7bB\x7d\x7d"),
    ("src", "\x7b\x7bLOGO\x7d\x7d")],
   .text "Paid \x7b\x7bTOTAL\x7d\x7d > 0".toList,
   tagOf [("data-src", "/p/\x7b\x7bPHOTO\x7d\x7d"), ("src", "\x7b\x7bBLANK\x7d\x7d")]]

theorem imageSources_mixedNodes : (∀ node ∈ mixedNodes, node.IsProper ∧ node.HasNoDecoy) ∧
    (Form.ofHtml (htmlOf mixedNodes)).imageSources
      = ["\x7b\x7bLOGO\x7d\x7d", "/p/\x7b\x7bPHOTO\x7d\x7d"] := by
  have hproper : ∀ node ∈ mixedNodes, node.IsProper := by decide +kernel
  have hplain : ∀ node ∈ mixedNodes, ∀ attr ∈ node.attributes, '=' ∉ attr.value := by decide +kernel
  have h : ∀ node ∈ mixedNodes, node.IsProper ∧ node.HasNoDecoy := fun node hm =>
    ⟨hproper node hm, Node.hasNoDecoy_of_not_mem (hplain node hm)⟩
  refine ⟨h, ?_⟩
  rw [(imageSources_htmlOf h).1]
  decide +kernel

/-- That the form of a document lists the values of the attributes `src`, for the documents of a
kind. -/
def ListsSourcesWhere (kind : List Node → Prop) : Prop :=
  ∀ nodes, (∀ node ∈ nodes, node.IsProper) → kind nodes →
    (Form.ofHtml (htmlOf nodes)).imageSources = embedding (nodes.filterMap Node.source?)

/-- A name that ends in `-src` is taken for `src` although no value misleads, and so is an
assignment within a value although no name does. -/
theorem not_listsSourcesWhere :
    ¬ ListsSourcesWhere (fun nodes => ∀ node ∈ nodes, node.HasNoDecoy) ∧
    ¬ ListsSourcesWhere (fun nodes => ∀ node ∈ nodes, node.NamesSourceFirst) := by
  constructor
  · intro h
    have hlist := h [tagOf [("data-src", "\x7b\x7bA\x7d\x7d"), ("src", "\x7b\x7bB\x7d\x7d")]]
      (by decide +kernel) fun node hm => Node.hasNoDecoy_of_not_mem (by
        revert node
        decide +kernel)
    revert hlist
    decide +kernel
  · intro h
    have hlist := h [tagOf [("alt", "src=\x7b\x7bA\x7d\x7d"), ("src", "\x7b\x7bB\x7d\x7d")]]
      (by decide +kernel) (by decide +kernel)
    revert hlist
    decide +kernel

end Receipts.Template
