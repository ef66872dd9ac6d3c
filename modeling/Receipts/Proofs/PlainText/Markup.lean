import Receipts.Proofs.PlainText.Entities

/-!
# Documents of tags and text nodes

A document is put together from tags and text nodes. No tag opens a head or a style element, so
nothing is hidden; tags that end a line or a cell become blanks, and all other tags go. Every step
acts on the document node by node.
-/

namespace Receipts.PlainText

open Text (BeginsWith IsPassed IsTaken afterWord? isBlank isCaseOf literal replaceAll replaceHits)

/-- A tag with what stands between its brackets, or a text node. -/
inductive Node where
  | tag (content : List Char)
  | text (glyphs : List Glyph)
  deriving DecidableEq, Repr

/-- The names of the elements that are hidden with everything in them. -/
def hiddenNames : List (List Char) :=
  [['h', 'e', 'a', 'd'], ['s', 't', 'y', 'l', 'e']]

/-- What may stand between the brackets of a tag that hides nothing. -/
structure IsTagContent (content : List Char) : Prop where
  ascii : ∀ c ∈ content, c.toNat < 0x80
  no_bracket : '<' ∉ content ∧ '>' ∉ content
  not_hidden : ∀ name ∈ hiddenNames, ¬ name <+: content.map Char.toLower

instance (content : List Char) : Decidable (IsTagContent content) :=
  decidable_of_iff ((content.all fun c => decide (c.toNat < 0x80)) = true ∧
      ('<' ∉ content ∧ '>' ∉ content) ∧
      ∀ name ∈ hiddenNames, ¬ name <+: content.map Char.toLower)
    ⟨fun ⟨ha, hb, hn⟩ => ⟨by simpa using ha, hb, hn⟩,
      fun h => ⟨by simpa using h.ascii, h.no_bracket, h.not_hidden⟩⟩

/-- A character that stands for itself is neither an angle bracket nor an ampersand. -/
def Glyph.IsProper : Glyph → Prop
  | char c => c ≠ '<' ∧ c ≠ '>' ∧ c ≠ '&'
  | entity _ => True

instance : (glyph : Glyph) → Decidable glyph.IsProper
  | .char c => inferInstanceAs (Decidable (c ≠ '<' ∧ c ≠ '>' ∧ c ≠ '&'))
  | .entity _ => inferInstanceAs (Decidable True)

namespace Node

def IsProper : Node → Prop
  | tag content => IsTagContent content
  | text glyphs => ∀ glyph ∈ glyphs, glyph.IsProper

instance : (node : Node) → Decidable node.IsProper
  | .tag content => inferInstanceAs (Decidable (IsTagContent content))
  | .text glyphs => inferInstanceAs (Decidable (∀ glyph ∈ glyphs, glyph.IsProper))

/-- A node as it stands in the document. -/
def written : Node → List Char
  | tag content => '<' :: (content ++ ['>'])
  | text glyphs => glyphs.flatMap Glyph.written

/-- What a node says: a tag nothing. -/
def glyphs : Node → List Glyph
  | tag _ => []
  | text glyphs => glyphs

end Node

/-- The characters that the text nodes of a document say. -/
def said (nodes : List Node) : List Char :=
  (nodes.flatMap Node.glyphs).map Glyph.meaning

/-- A document as it stands in HTML. -/
def written (nodes : List Node) : String :=
  String.ofList (nodes.flatMap Node.written)

theorem opening_not_mem_text {glyphs : List Glyph} (h : ∀ glyph ∈ glyphs, glyph.IsProper) :
    '<' ∉ glyphs.flatMap Glyph.written := by
  intro hm
  obtain ⟨glyph, hglyph, hm⟩ := List.mem_flatMap.mp hm
  have hproper := h glyph hglyph
  cases glyph with
  | char c =>
      obtain rfl : '<' = c := by simpa [Glyph.written] using hm
      exact hproper.1 rfl
  | entity e => revert hm; cases e <;> decide

theorem opening_not_mem_rest {content : List Char} (h : IsTagContent content) :
    '<' ∉ content ++ ['>'] := by
  simp [h.no_bracket.1]

/-! ## Nothing is hidden -/

theorem toLower_of_isCaseOf {letter c : Char} (hletter : letter ∈ hiddenNames.flatten)
    (hc : c.toNat < 0x80) (h : isCaseOf letter c = true) : c.toLower = letter := by
  have hlower : (hiddenNames.flatten.all fun letter =>
      letter.toLower == letter && letter.toUpper.toLower == letter) = true := by decide
  obtain ⟨hself, hupper⟩ : letter.toLower = letter ∧ letter.toUpper.toLower = letter := by
    simpa using List.all_eq_true.mp hlower letter hletter
  simp only [isCaseOf, Bool.or_eq_true, Bool.and_eq_true, beq_iff_eq] at h
  rcases h with (rfl | rfl) | ⟨-, hlong⟩
  · exact hself
  · exact hupper
  · omega

theorem isCaseOf_closing {letter : Char} (hletter : letter ∈ hiddenNames.flatten) :
    isCaseOf letter '>' = false := by
  have hnone : (hiddenNames.flatten.all fun letter => !isCaseOf letter '>') = true := by decide
  simpa using List.all_eq_true.mp hnone letter hletter

theorem afterWord?_eq_none {word content : List Char} (hword : word ⊆ hiddenNames.flatten)
    (hascii : ∀ c ∈ content, c.toNat < 0x80) (h : ¬ word <+: content.map Char.toLower)
    (rest : List Char) : afterWord? word (content ++ '>' :: rest) = none := by
  induction word generalizing content with
  | nil => exact absurd (List.nil_prefix) h
  | cons letter word ih =>
      obtain ⟨hletter, hword⟩ := List.cons_subset.mp hword
      cases content with
      | nil => simp [afterWord?, isCaseOf_closing hletter]
      | cons c content =>
          obtain ⟨hc, hcontent⟩ := List.forall_mem_cons.mp hascii
          rw [List.cons_append, afterWord?]
          split
          · rename_i hcase
            refine ih hword hcontent fun hp => h ?_
            rw [List.map_cons, List.cons_prefix_cons]
            exact ⟨(toLower_of_isCaseOf hletter hc hcase).symm, hp⟩
          · rfl

theorem element_eq_none {name content : List Char} (hname : name ∈ hiddenNames)
    (h : IsTagContent content) (rest : List Char) :
    element name ('<' :: (content ++ '>' :: rest)) = none := by
  have hletters : name ⊆ hiddenNames.flatten := fun c hc => List.mem_flatten.mpr ⟨name, hname, hc⟩
  rw [element, afterWord?_eq_none hletters h.ascii (h.not_hidden name hname)]

theorem beginsWith_hidden : BeginsWith hidden '<' := by
  have helement : ∀ name, BeginsWith (element name) '<' := by
    intro name c s hc
    unfold element
    split
    · rename_i hcs
      exact absurd (List.cons.inj hcs).1 hc
    · rfl
  intro c s hc
  rw [hidden, helement _ c s hc, helement _ c s hc]
  rfl

theorem replaceHits_hidden {nodes : List Node} (h : ∀ node ∈ nodes, node.IsProper)
    (image : Unit → List Char) :
    replaceHits hidden image (nodes.flatMap Node.written) = nodes.flatMap Node.written := by
  refine Text.replaceHits_flatMap fun node hnode => .inr ⟨?_, rfl⟩
  have hproper := h node hnode
  cases node with
  | tag content =>
      refine beginsWith_hidden.isPassed_cons (opening_not_mem_rest hproper) fun rest => ?_
      have hnone : ∀ name ∈ hiddenNames, element name ('<' :: (content ++ '>' :: rest)) = none :=
        fun name hname => element_eq_none hname hproper rest
      rw [List.cons_append, List.append_assoc, List.singleton_append, hidden,
        hnone _ (by simp [hiddenNames]), hnone _ (by simp [hiddenNames])]
      rfl
  | text glyphs => exact beginsWith_hidden.isPassed (opening_not_mem_text hproper)

/-! ## Tags that become blanks -/

/-- The tags that end a line or a cell, with what they become. -/
def tagBreaks : List (List Char × List Char) :=
  breaks.map fun replacement => ((replacement.1.toList.drop 1).dropLast, replacement.2.toList)

/-- A tag that becomes blanks as a replacement of texts. -/
def breakEntry (tagBreak : List Char × List Char) : String × String :=
  (String.ofList ('<' :: (tagBreak.1 ++ ['>'])), String.ofList tagBreak.2)

theorem breaks_eq : breaks = tagBreaks.map breakEntry := by
  decide +kernel

/-- The node after the tags of one kind became blanks. -/
def Node.breakAs (tagBreak : List Char × List Char) : Node → Node
  | tag content => if content = tagBreak.1 then text (tagBreak.2.map .char) else tag content
  | text glyphs => text glyphs

theorem replaceAll_breakEntry {tagBreak : List Char × List Char} (hname : '>' ∉ tagBreak.1)
    {nodes : List Node} (h : ∀ node ∈ nodes, node.IsProper) :
    replaceAll (breakEntry tagBreak).1.toList (breakEntry tagBreak).2.toList
        (nodes.flatMap Node.written)
      = (nodes.map (Node.breakAs tagBreak)).flatMap Node.written := by
  obtain ⟨name, image⟩ := tagBreak
  have hne : '<' :: (name ++ ['>']) ≠ [] := List.cons_ne_nil _ _
  have hbegin := Text.beginsWith_literal '<' (name ++ ['>'])
  rw [breakEntry, String.toList_ofList, String.toList_ofList, Text.replaceAll_eq_replaceHits _ hne,
    List.flatMap_map]
  refine Text.replaceHits_flatMap fun node hnode => ?_
  have hproper := h node hnode
  cases node with
  | text glyphs => exact .inr ⟨hbegin.isPassed (opening_not_mem_text hproper), rfl⟩
  | tag content =>
      by_cases hsame : content = name
      · subst hsame
        refine .inl ⟨(), Text.isTaken_literal hne, ?_⟩
        rw [Node.breakAs, if_pos rfl, Node.written, Glyph.flatMap_written_char]
      · refine .inr ⟨hbegin.isPassed_cons (opening_not_mem_rest hproper) fun rest => ?_, ?_⟩
        · refine Text.literal_eq_none_iff.mpr ?_
          rintro ⟨tail, htail⟩
          have hnames : name ++ '>' :: tail = content ++ '>' :: rest := by simpa using htail
          exact hsame (Text.eq_of_append_stop hname hproper.no_bracket.2 hnames).symm
        · simp [Node.breakAs, hsame]

theorem isProper_char_of_isBlank {c : Char} (h : isBlank c = true) : (Glyph.char c).IsProper := by
  refine ⟨?_, ?_, ?_⟩ <;> rintro rfl <;> revert h <;> decide

theorem Node.IsProper.breakAs {node : Node} (h : node.IsProper)
    {tagBreak : List Char × List Char} (hblank : ∀ c ∈ tagBreak.2, isBlank c = true) :
    (node.breakAs tagBreak).IsProper := by
  cases node with
  | text glyphs => exact h
  | tag content =>
      rw [Node.breakAs]
      split
      · exact List.forall_mem_map.mpr fun c hc => isProper_char_of_isBlank (hblank c hc)
      · exact h

/-! ## Tags go -/

theorem beginsWith_tag : BeginsWith tag '<' := by
  intro c s hc
  unfold tag
  split
  · rename_i hcs
    exact absurd (List.cons.inj hcs).1 hc
  · rfl

theorem isTaken_tag {content : List Char} (h : IsTagContent content) :
    IsTaken tag (Node.tag content).written () := by
  refine ⟨List.cons_ne_nil _ _, fun rest => ?_⟩
  have hclosing := h.no_bracket.2
  rw [Node.written, List.cons_append, List.append_assoc, List.singleton_append, tag,
    Text.takeWhile_stop hclosing, Text.dropWhile_stop hclosing]
  simp

theorem replaceHits_tag {nodes : List Node} (h : ∀ node ∈ nodes, node.IsProper) :
    replaceHits tag (fun _ => []) (nodes.flatMap Node.written)
      = (nodes.flatMap Node.glyphs).flatMap Glyph.written := by
  rw [List.flatMap_assoc]
  refine Text.replaceHits_flatMap fun node hnode => ?_
  have hproper := h node hnode
  cases node with
  | tag content => exact .inl ⟨(), isTaken_tag hproper, rfl⟩
  | text glyphs => exact .inr ⟨beginsWith_tag.isPassed (opening_not_mem_text hproper), rfl⟩

end Receipts.PlainText
