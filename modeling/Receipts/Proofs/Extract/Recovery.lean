import Receipts.Proofs.Extract.Readings

/-!
# Receipts as documents of outlines

A template is laid out in blocks, its static texts and its slots. A receipt of values without braces
is a document of any outline in which each slot reads as its value, so that a closed check on the
outline tells what a rule finds in the receipt.
-/

namespace Receipts

open Outline (spell spell_map_char FilledBy recovers)
open Template (Chunk)

/-! ## Outlines of templates -/

/-- The outline of a chunk, where `form` gives the outlines of slots. -/
def Template.Chunk.outline (form : List Char → Outline) : Chunk → Outline
  | .plain s => s.map .char
  | .slot name => form name

/-- The outline of a template in blocks, one for each chunk. -/
def spread (form : List Char → Outline) (chunks : List Chunk) : List Outline :=
  chunks.map (Chunk.outline form)

variable {words : Hole → List Char} {form : List Char → Outline} {chunks : List Chunk}

theorem spell_spread {image : List Char → List Char}
    (h : ∀ name, Chunk.slot name ∈ chunks → spell words (form name) = image name) :
    spell words (spread form chunks).flatten = chunks.flatMap (Chunk.fill image) := by
  induction chunks with
  | nil => rfl
  | cons chunk chunks ih =>
      have hrest := ih fun name hm => h name (List.mem_cons_of_mem _ hm)
      rw [spread, List.map_cons, List.flatten_cons, ← spread, Outline.spell_append, hrest,
        List.flatMap_cons]
      cases chunk with
      | plain s => rw [Chunk.outline, spell_map_char, Chunk.fill]
      | slot name => rw [Chunk.outline, h name List.mem_cons_self, Chunk.fill]

theorem filledBy_spread (h : ∀ name, Chunk.slot name ∈ chunks → FilledBy (form name) words) :
    FilledBy (spread form chunks).flatten words := by
  intro hole hm
  rw [spread, ← List.flatMap_def] at hm
  obtain ⟨chunk, hchunk, hin⟩ := List.mem_flatMap.mp hm
  cases chunk with
  | plain s => simp [Chunk.outline] at hin
  | slot name => exact h name hchunk hole hin

/-- If each slot reads as its text, one choice of words fills them all. -/
theorem exists_words {keys : List String} {image : List Char → List Char}
    (h : ∀ name, String.ofList name ∈ keys →
      ReadsAs (form name) (String.ofList name) (image name)) :
    ∃ words, ∀ name, String.ofList name ∈ keys →
      FilledBy (form name) words ∧ spell words (form name) = image name := by
  choose! parts hfill hspell hkeys using h
  have hparts : ∀ name, String.ofList name ∈ keys → ∀ hole, Mark.hole hole ∈ form name →
      parts hole.key.toList hole = parts name hole := by
    intro name hname hole hm
    rw [hkeys name hname hole hm, String.toList_ofList]
  refine ⟨fun hole => parts hole.key.toList hole, fun name hname => ⟨fun hole hm => ?_, ?_⟩⟩
  · simpa only [hparts name hname hole hm] using hfill name hname hole hm
  · rw [← hspell name hname]
    refine List.flatMap_congr fun mark hm => ?_
    cases mark with
    | char c => rfl
    | hole hole => exact hparts name hname hole hm

/-! ## Templates laid out in chunks -/

/-- A chunk that is no slot, or the slot of one of the keys. -/
def IsChunkFor (keys : List String) : Chunk → Prop
  | .plain _ => True
  | .slot name => String.ofList name ∈ keys

instance (keys : List String) : (chunk : Chunk) → Decidable (IsChunkFor keys chunk)
  | .plain _ => inferInstanceAs (Decidable True)
  | .slot name => inferInstanceAs (Decidable (String.ofList name ∈ keys))

/-- Chunks that are the segments of a template, with slots for its placeholders. -/
structure IsLaidOut (template : PlatformTemplate) (chunks : List Chunk) : Prop where
  spelled : Spelled template.segments chunks
  proper : ∀ chunk ∈ chunks, chunk.Proper
  slots : ∀ chunk ∈ chunks, IsChunkFor template.placeholders chunk
  names : ∀ key ∈ template.placeholders, Template.IsKey key.toList
  keys : ∀ key ∈ template.placeholders, key ∈ (Dialect.ofPlatform template.id).keys

variable {template : PlatformTemplate} {shape : String → ValueShape} {values : FormValues}

theorem FormValues.IsPartialFor.isBraceFree (h : values.IsPartialFor template shape)
    (hnames : ∀ key ∈ template.placeholders, Template.IsKey key.toList) :
    values.IsBraceFree where
  keys key hkey := hnames key (h.keys key hkey)
  values key value hget := by
    have hmarkup := (h.values key value hget).noMarkup
    exact ⟨fun hm => hmarkup _ hm (by decide), fun hm => hmarkup _ hm (by decide)⟩

theorem FormValues.IsBenignFor.isBraceFree (h : values.IsBenignFor template shape)
    (hnames : ∀ key ∈ template.placeholders, Template.IsKey key.toList) :
    values.IsBraceFree :=
  h.isPartialFor.isBraceFree hnames

/-- A receipt is a document of the outline in which each slot reads as its value. -/
theorem IsLaidOut.exists_words (h : IsLaidOut template chunks) (hvalues : values.IsBraceFree)
    (hform : ∀ name, String.ofList name ∈ template.placeholders →
      ReadsAs (form name) (String.ofList name) (values.image name)) :
    ∃ words, FilledBy (spread form chunks).flatten words ∧
      (render template.html values).toList = spell words (spread form chunks).flatten ∧
      ∀ key ∈ template.placeholders, spell words (form key.toList) = values.image key.toList := by
  obtain ⟨words, hwords⟩ := Receipts.exists_words hform
  refine ⟨words, filledBy_spread fun name hm => (hwords name (h.slots _ hm)).1, ?_,
    fun key hkey => (hwords key.toList (by rwa [String.ofList_toList])).2⟩
  rw [spell_spread fun name hm => (hwords name (h.slots _ hm)).2]
  exact h.spelled.toList_render h.proper hvalues

theorem ValueShape.key_hole (id key : String) (shape : ValueShape) :
    (shape.hole id key).key = key := by
  cases shape <;> rfl

/-- Whether a rule finds a text in the receipt of given values. -/
def WrittenRule.reads (written : WrittenRule) (values : FormValues) (chunks : List Chunk)
    (found : List Char) : Bool :=
  written.passes fun pattern =>
    Outline.recovers pattern (spread (fun name => (values.image name).map .char) chunks)
      (found.map .char)

theorem value?_of_reads {written : WrittenRule} {found : List Char}
    (hspelled : Spelled template.segments chunks) (hproper : ∀ chunk ∈ chunks, chunk.Proper)
    (hvalues : values.IsBraceFree) (hne : found ≠ []) (htrim : Text.trim found = found)
    (h : written.reads values chunks found = true) :
    written.rule.value? (render template.html values) = some (String.ofList found) := by
  obtain ⟨pattern, hpattern, hdirect, hcheck⟩ := WrittenRule.exists_of_passes h
  have hfilled : FilledBy (spread (fun name => (values.image name).map .char) chunks).flatten
      (fun _ => []) := filledBy_spread fun name _ hole hm => by simp at hm
  have hdocument : (render template.html values).toList
      = spell (fun _ => [])
          (spread (fun name => (values.image name).map .char) chunks).flatten := by
    rw [spell_spread fun name _ => spell_map_char _ (values.image name)]
    exact hspelled.toList_render hproper hvalues
  refine Rule.value?_eq_some hpattern ?_ hne htrim
  rw [hdocument, Outline.capture?_of_recovers hdirect hfilled hcheck, spell_map_char]

end Receipts
