import Receipts.PlainText
import Receipts.Proofs.Text.Stretches

/-!
# Entities are decoded once

Entities are decoded one after the other. No decoding but the last makes an ampersand, so none makes
an entity that a later one would decode, and an ampersand that was written as an entity is only an
ampersand.
-/

namespace Receipts.PlainText

open Text (BeginsWith IsPassed literal replaceAll)

/-- The entities that are decoded. -/
inductive Entity where
  | noBreakSpace
  | middleDot
  | lessThan
  | greaterThan
  | ampersand
  deriving DecidableEq, Repr

namespace Entity

def name : Entity → List Char
  | noBreakSpace => ['n', 'b', 's', 'p']
  | middleDot => ['m', 'i', 'd', 'd', 'o', 't']
  | lessThan => ['l', 't']
  | greaterThan => ['g', 't']
  | ampersand => ['a', 'm', 'p']

/-- The character that an entity stands for. -/
def meaning : Entity → Char
  | noBreakSpace => '\u00a0'
  | middleDot => '·'
  | lessThan => '<'
  | greaterThan => '>'
  | ampersand => '&'

/-- An entity as it stands in a text. -/
def written (entity : Entity) : List Char :=
  '&' :: (entity.name ++ [';'])

theorem name_injective {entity other : Entity} (h : entity.name = other.name) : entity = other := by
  cases entity <;> cases other <;> first | rfl | cases h

theorem end_not_mem_name (entity : Entity) : ';' ∉ entity.name := by
  cases entity <;> decide

theorem written_prefix_iff (entity other : Entity) (rest : List Char) :
    entity.written <+: other.written ++ rest ↔ entity = other := by
  constructor
  · rintro ⟨tail, h⟩
    have hnames : entity.name ++ ';' :: tail = other.name ++ ';' :: rest := by
      simpa [written] using h
    exact name_injective
      (Text.eq_of_append_stop entity.end_not_mem_name other.end_not_mem_name hnames)
  · rintro rfl
    exact List.prefix_append _ _

end Entity

/-- A part of a text: a character that stands for itself, or an entity. -/
inductive Glyph where
  | char (c : Char)
  | entity (entity : Entity)
  deriving DecidableEq, Repr

namespace Glyph

def written : Glyph → List Char
  | char c => [c]
  | entity e => e.written

def meaning : Glyph → Char
  | char c => c
  | entity e => e.meaning

theorem flatMap_written_char (s : List Char) : (s.map char).flatMap written = s := by
  rw [List.flatMap_map]
  exact List.flatMap_singleton' s

/-- The glyph after one entity was decoded to a character. -/
def decode (decoding : Entity × Char) : Glyph → Glyph
  | char c => char c
  | entity e => if e = decoding.1 then char decoding.2 else entity e

end Glyph

/-- What steps make of a unit in turn. -/
def inTurn {β ρ : Type} (step : ρ → β → β) (replacements : List ρ) (unit : β) : β :=
  replacements.foldl (fun unit r => step r unit) unit

/-- Replacements that act on a text unit by unit do so one after another. -/
theorem replaceEach_units {β ρ : Type} {write : β → List Char} {entry : ρ → String × String}
    {step : ρ → β → β} {P : β → Prop} {replacements : List ρ} {units : List β}
    (hstep : ∀ r ∈ replacements, ∀ units : List β, (∀ unit ∈ units, P unit) →
      replaceAll (entry r).1.toList (entry r).2.toList (units.flatMap write)
        = (units.map (step r)).flatMap write)
    (hkeep : ∀ r ∈ replacements, ∀ unit, P unit → P (step r unit))
    (h : ∀ unit ∈ units, P unit) :
    replaceEach (replacements.map entry) (units.flatMap write)
        = (units.map (inTurn step replacements)).flatMap write ∧
      ∀ unit ∈ units.map (inTurn step replacements), P unit := by
  induction replacements generalizing units with
  | nil =>
      have hsame : units.map (inTurn step []) = units := List.map_id units
      rw [hsame]
      exact ⟨rfl, h⟩
  | cons r replacements ih =>
      obtain ⟨hr, hrest⟩ := List.forall_mem_cons.mp hstep
      obtain ⟨hkeepr, hkeeprest⟩ := List.forall_mem_cons.mp hkeep
      have hnext : ∀ unit ∈ units.map (step r), P unit :=
        List.forall_mem_map.mpr fun unit hunit => hkeepr unit (h unit hunit)
      have hmap : (units.map (step r)).map (inTurn step replacements)
          = units.map (inTurn step (r :: replacements)) := List.map_map
      rw [← hmap, List.map_cons, replaceEach, List.foldl_cons, hr units h]
      exact ih hrest hkeeprest hnext

/-! ## Decoding -/

/-- A decoding as a replacement of texts. -/
def decodingEntry (decoding : Entity × Char) : String × String :=
  (String.ofList decoding.1.written, String.ofList [decoding.2])

theorem replaceAll_decodingEntry (decoding : Entity × Char) {glyphs : List Glyph}
    (h : ∀ glyph ∈ glyphs, glyph ≠ .char '&') :
    replaceAll (decodingEntry decoding).1.toList (decodingEntry decoding).2.toList
        (glyphs.flatMap Glyph.written)
      = (glyphs.map (Glyph.decode decoding)).flatMap Glyph.written := by
  obtain ⟨entity, image⟩ := decoding
  rw [decodingEntry, String.toList_ofList, String.toList_ofList]
  have hbegin : BeginsWith (literal entity.written) '&' := Text.beginsWith_literal _ _
  have hne : entity.written ≠ [] := List.cons_ne_nil _ _
  rw [Text.replaceAll_eq_replaceHits _ hne, List.flatMap_map]
  refine Text.replaceHits_flatMap fun glyph hglyph => ?_
  cases glyph with
  | char c =>
      refine .inr ⟨hbegin.isPassed ?_, rfl⟩
      intro hm
      obtain rfl : '&' = c := by simpa [Glyph.written] using hm
      exact h _ hglyph rfl
  | entity other =>
      by_cases hsame : other = entity
      · subst hsame
        exact .inl ⟨(), Text.isTaken_literal hne, by simp [Glyph.decode, Glyph.written]⟩
      · refine .inr ⟨hbegin.isPassed_cons (by cases other <;> decide) fun rest => ?_, ?_⟩
        · exact Text.literal_eq_none_iff.mpr fun hp =>
            hsame ((entity.written_prefix_iff other rest).mp hp).symm
        · simp [Glyph.decode, hsame]

/-- The decodings that make no ampersand. A no-break space is decoded to a space. -/
def decodings : List (Entity × Char) :=
  [(.noBreakSpace, ' '), (.middleDot, '·'), (.lessThan, '<'), (.greaterThan, '>')]

theorem entities_eq :
    entities = decodings.map decodingEntry ++ [decodingEntry (.ampersand, '&')] := by
  decide +kernel

/-- The character that a glyph is decoded to. -/
def Glyph.decoded : Glyph → Char
  | .entity .noBreakSpace => ' '
  | glyph => glyph.meaning

/-- Decoding one entity after the other decodes each glyph once. -/
theorem replaceEach_entities {glyphs : List Glyph} (h : ∀ glyph ∈ glyphs, glyph ≠ .char '&') :
    replaceEach entities (glyphs.flatMap Glyph.written) = glyphs.map Glyph.decoded := by
  have himages : ∀ decoding ∈ decodings, decoding.2 ≠ '&' := by decide
  have hkeep : ∀ decoding ∈ decodings, ∀ glyph : Glyph, glyph ≠ .char '&' →
      glyph.decode decoding ≠ .char '&' := by
    intro decoding hdecoding glyph hglyph
    cases glyph with
    | char c => exact hglyph
    | entity e =>
        rw [Glyph.decode]
        split
        · exact fun heq => himages decoding hdecoding (Glyph.char.inj heq)
        · exact Glyph.noConfusion
  obtain ⟨htext, hglyphs⟩ :=
    replaceEach_units (fun decoding _ _ => replaceAll_decodingEntry decoding) hkeep h
  have hdecoded : ∀ glyph : Glyph,
      ((inTurn Glyph.decode decodings glyph).decode (.ampersand, '&')).written
        = [glyph.decoded] := by
    intro glyph
    cases glyph with
    | char c => rfl
    | entity e => cases e <;> rfl
  rw [replaceEach] at htext
  rw [entities_eq, replaceEach, List.foldl_append, htext, List.foldl_cons, List.foldl_nil,
    replaceAll_decodingEntry (.ampersand, '&') hglyphs, List.map_map, List.flatMap_map]
  simp only [Function.comp_apply, hdecoded]
  exact List.map_eq_flatMap.symm

end Receipts.PlainText
