import Receipts.Proofs.PlainText.Blanks
import Receipts.Proofs.PlainText.Markup

/-!
# No visible text is lost or invented

The text alternative of a document of tags and text nodes shows the characters that its text nodes
say, each entity decoded once. Blanks are left out of the account: tags may become blanks, a
no-break space becomes a space, and blanks are brought into normal form.
-/

namespace Receipts.PlainText

open Text (isBlank visibleChars replaceHits)

theorem visibleChars_flatMap_congr {α : Type} {f g : α → List Char} {items : List α}
    (h : ∀ item ∈ items, visibleChars (f item) = visibleChars (g item)) :
    visibleChars (items.flatMap f) = visibleChars (items.flatMap g) := by
  induction items with
  | nil => rfl
  | cons item items ih =>
      obtain ⟨hitem, hitems⟩ := List.forall_mem_cons.mp h
      rw [List.flatMap_cons, List.flatMap_cons, Text.visibleChars_append, Text.visibleChars_append,
        hitem, ih hitems]

theorem visibleChars_decoded (glyphs : List Glyph) :
    visibleChars (glyphs.map Glyph.decoded) = visibleChars (glyphs.map Glyph.meaning) := by
  have hglyph : ∀ glyph : Glyph, visibleChars [glyph.decoded] = visibleChars [glyph.meaning] := by
    intro glyph
    cases glyph with
    | char c => rfl
    | entity e => cases e <;> rfl
  rw [List.map_eq_flatMap, List.map_eq_flatMap]
  exact visibleChars_flatMap_congr fun glyph _ => hglyph glyph

theorem visibleChars_breakAs {tagBreak : List Char × List Char}
    (hblank : ∀ c ∈ tagBreak.2, isBlank c = true) (node : Node) :
    visibleChars ((node.breakAs tagBreak).glyphs.map Glyph.decoded)
      = visibleChars (node.glyphs.map Glyph.decoded) := by
  cases node with
  | text glyphs => rfl
  | tag content =>
      rw [Node.breakAs]
      split
      · have himage : (Node.text (tagBreak.2.map .char)).glyphs.map Glyph.decoded = tagBreak.2 := by
          rw [Node.glyphs, List.map_map]
          exact List.map_id tagBreak.2
        rw [himage, Text.visibleChars_of_blank hblank]
        rfl
      · rfl

theorem blank_of_mem_tagBreaks :
    ∀ tagBreak ∈ tagBreaks, ∀ c ∈ tagBreak.2, isBlank c = true := by
  have hall : (tagBreaks.all fun tagBreak => tagBreak.2.all isBlank) = true := by decide +kernel
  exact fun tagBreak hmem => List.all_eq_true.mp (List.all_eq_true.mp hall tagBreak hmem)

theorem closing_not_mem_tagBreaks : ∀ tagBreak ∈ tagBreaks, '>' ∉ tagBreak.1 := by
  decide +kernel

theorem visibleChars_inTurn {replacements : List (List Char × List Char)}
    (hblank : ∀ tagBreak ∈ replacements, ∀ c ∈ tagBreak.2, isBlank c = true) (node : Node) :
    visibleChars ((inTurn Node.breakAs replacements node).glyphs.map Glyph.decoded)
      = visibleChars (node.glyphs.map Glyph.decoded) := by
  induction replacements generalizing node with
  | nil => rfl
  | cons tagBreak replacements ih =>
      obtain ⟨hhere, hrest⟩ := List.forall_mem_cons.mp hblank
      exact (ih hrest _).trans (visibleChars_breakAs hhere node)

/-- The visible characters of a document are those that its text nodes say. -/
theorem visibleChars_visible {nodes : List Node} (h : ∀ node ∈ nodes, node.IsProper) :
    visibleChars (visible (nodes.flatMap Node.written)) = visibleChars (said nodes) := by
  obtain ⟨hbroken, hproper⟩ := replaceEach_units
    (fun tagBreak hmem _ => replaceAll_breakEntry (closing_not_mem_tagBreaks tagBreak hmem))
    (fun tagBreak hmem node hnode => hnode.breakAs (blank_of_mem_tagBreaks tagBreak hmem)) h
  have hampersand : ∀ glyph ∈ (nodes.map (inTurn Node.breakAs tagBreaks)).flatMap Node.glyphs,
      glyph ≠ .char '&' := by
    intro glyph hglyph
    obtain ⟨node, hnode, hglyph⟩ := List.mem_flatMap.mp hglyph
    have hnode := hproper node hnode
    cases node with
    | tag content => cases hglyph
    | text glyphs =>
        rintro rfl
        exact (hnode _ hglyph).2.2 rfl
  rw [visible, replaceHits_hidden h, breaks_eq, hbroken, replaceHits_tag hproper,
    replaceEach_entities hampersand, said, ← visibleChars_decoded, List.map_flatMap,
    List.map_flatMap, List.flatMap_map]
  exact visibleChars_flatMap_congr fun node _ => visibleChars_inTurn blank_of_mem_tagBreaks node

/-- The text alternative of a document of tags and text nodes has the visible characters that the
text nodes say, in their order and with each entity decoded once, and no others. -/
theorem visibleChars_ofHtml (nodes : List Node) (h : ∀ node ∈ nodes, node.IsProper) :
    visibleChars (ofHtml (written nodes)).toList = visibleChars (said nodes) := by
  rw [ofHtml, written, String.toList_ofList, String.toList_ofList, visibleChars_normalBlanks,
    visibleChars_visible h]

/-- Two cells, an entity of which the ampersand is an entity, and tags of which one spans lines. -/
def cellNodes : List Node :=
  [.tag "td class=\"right\"\n".toList,
   .text [.char 'a', .entity .noBreakSpace, .entity .ampersand, .char 'l', .char 't', .char ';'],
   .tag "/td".toList, .tag "td".toList, .text [.entity .lessThan, .entity .middleDot],
   .tag "BR".toList, .text [.entity .greaterThan, .char ' ', .char '\n']]

theorem visibleChars_ofHtml_cellNodes :
    (∀ node ∈ cellNodes, node.IsProper) ∧
    written cellNodes
      = "<td class=\"right\"\n>a&nbsp;&amp;lt;</td><td>&lt;&middot;<BR>&gt; \n" ∧
    visibleChars (ofHtml (written cellNodes)).toList = "a&lt;<·>".toList := by
  have hproper : ∀ node ∈ cellNodes, node.IsProper := by decide +kernel
  refine ⟨hproper, by decide +kernel, ?_⟩
  rw [visibleChars_ofHtml cellNodes hproper]
  decide +kernel

end Receipts.PlainText
