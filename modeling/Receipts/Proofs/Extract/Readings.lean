import Receipts.Proofs.Catalog.Spelling
import Receipts.Proofs.Extract.Benign
import Receipts.Proofs.Extract.Rules
import Receipts.Proofs.Outline.Soundness

/-!
# Receipts as outlines

A receipt of benign values is a document of the outline that has a hole for each value. The value
that a rule is for is looked at more closely: an amount is one stretch of digits, or two with a
point between them, and the digits of a card are four holes. To the rules for other keys these are
texts like any other. A closed check on the outlines of a template then says of all such receipts
that each rule finds the value of its key.
-/

namespace Receipts

open Outline (spell FilledBy)
open Template (Chunk)

theorem Text.isBlank_of_isDigit {c : Char} (h : c.isDigit = true) : isBlank c = false := by
  have hall : (decimalDigits.all fun d => !isBlank d) = true := by decide +kernel
  simpa using List.all_eq_true.mp hall c (mem_decimalDigits h)

/-! ## Holes for values -/

/-- The hole for a value as a whole. Of an amount or a card it asks no more than of free text. -/
def ValueShape.hole (id key : String) : ValueShape → Hole
  | text barred blanks endings =>
      { key, alphabet := .without (markup ++ barred) blanks,
        phrases := (anchors id).map String.toList, endings := endings.map String.toList }
  | amount | card =>
      { key, alphabet := .without markup true, phrases := (anchors id).map String.toList }

/-- The hole for a stretch of digits, or for just one. -/
def digitHole (key : String) (part : Nat) (single : Bool) : Hole :=
  { key, part, alphabet := .digits, single }

/-- The outlines of a value with its parts. -/
def ValueShape.readings (id key : String) : ValueShape → List Outline
  | text barred blanks endings => [[.hole ((text barred blanks endings).hole id key)]]
  | amount =>
      [[.hole (digitHole key 0 false)],
       [.hole (digitHole key 0 false), .char '.', .hole (digitHole key 1 false)]]
  | card => [(List.range 4).map fun part => .hole (digitHole key part true)]

theorem IsBenign.fits_hole {id : String} {shape : ValueShape} {value : List Char}
    (h : IsBenign id shape value) (key : String) : (shape.hole id key).Fits value := by
  have hvisible : ∀ c, value.head? = some c → Text.isBlank c = false := by
    intro c hc
    obtain ⟨s, rfl⟩ := List.head?_eq_some_iff.mp hc
    exact Text.isBlank_head_of_trim_eq h.trimmed
  have hphrases : ∀ p ∈ (anchors id).map String.toList, ¬ p <:+: value := by
    intro p hp
    obtain ⟨phrase, hphrase, rfl⟩ := List.mem_map.mp hp
    exact h.noAnchor phrase hphrase
  have hmarkup : ∀ c ∈ value, (Alphabet.without markup true).holds c = true := fun c hc => by
    simpa [Alphabet.holds] using h.noMarkup c hc
  cases shape with
  | text barred blanks endings =>
      obtain ⟨hbarred, hblanks, hendings⟩ := h.fits
      refine ⟨fun _ => h.nonempty, fun c hc => ?_, by simp [ValueShape.hole], hphrases, ?_,
        hvisible⟩
      · have hnot := h.noMarkup c hc
        have hnot' := hbarred c hc
        cases blanks with
        | true => simp [ValueShape.hole, Alphabet.holds, hnot, hnot']
        | false => simp [ValueShape.hole, Alphabet.holds, hnot, hnot', hblanks rfl c hc]
      · intro e he
        obtain ⟨ending, hending, rfl⟩ := List.mem_map.mp he
        exact hendings ending hending
  | amount =>
      exact ⟨fun _ => h.nonempty, hmarkup, by simp [ValueShape.hole], hphrases,
        by simp [ValueShape.hole], hvisible⟩
  | card =>
      exact ⟨fun _ => h.nonempty, hmarkup, by simp [ValueShape.hole], hphrases,
        by simp [ValueShape.hole], hvisible⟩

theorem fits_digitHole {key : String} {part : Nat} {single : Bool} {w : List Char}
    (h : IsNumeral w) (hsingle : single = true → w.length = 1) :
    (digitHole key part single).Fits w where
  nonempty _ := h.1
  alphabet := h.2
  single := hsingle
  phrases := by simp [digitHole]
  endings := by simp [digitHole]
  visible c hc := Text.isBlank_of_isDigit (h.2 c (List.mem_of_mem_head? hc))

/-- Whether an outline of holes for a key spells a value, with its holes filled as they ask for. -/
def ReadsAs (reading : Outline) (key : String) (value : List Char) : Prop :=
  ∃ words, FilledBy reading words ∧ spell words reading = value ∧
    ∀ hole, Mark.hole hole ∈ reading → hole.key = key

theorem readsAs_hole {hole : Hole} {key : String} {value : List Char} (h : hole.Fits value)
    (hkey : hole.key = key) : ReadsAs [.hole hole] key value := by
  refine ⟨fun _ => value, fun other hm => ?_, by simp [spell, Mark.word], fun other hm => ?_⟩
  · obtain rfl : other = hole := by simpa using hm
    exact h
  · obtain rfl : other = hole := by simpa using hm
    exact hkey

theorem readsAs_nil (key : String) : ReadsAs [] key [] :=
  ⟨fun _ => [], by simp [FilledBy], rfl, by simp⟩

/-- Wording behind a reading stands behind what it spells. -/
theorem ReadsAs.append_chars {reading : Outline} {key : String} {value : List Char}
    (h : ReadsAs reading key value) (s : List Char) :
    ReadsAs (reading ++ s.map .char) key (value ++ s) := by
  obtain ⟨words, hfill, hspell, hkeys⟩ := h
  have hmem : ∀ hole, Mark.hole hole ∈ reading ++ s.map .char → Mark.hole hole ∈ reading := by
    intro hole hm
    simpa using hm
  refine ⟨words, fun hole hm => hfill hole (hmem hole hm), ?_,
    fun hole hm => hkeys hole (hmem hole hm)⟩
  rw [Outline.spell_append, hspell, Outline.spell_map_char]

theorem readsAs_fraction {key : String} {whole fraction : List Char} (hwhole : IsNumeral whole)
    (hfraction : IsNumeral fraction) :
    ReadsAs [.hole (digitHole key 0 false), .char '.', .hole (digitHole key 1 false)] key
      (whole ++ '.' :: fraction) := by
  have hcases : ∀ hole, Mark.hole hole ∈
      [.hole (digitHole key 0 false), .char '.', .hole (digitHole key 1 false)] →
      hole = digitHole key 0 false ∨ hole = digitHole key 1 false := by
    intro hole hm
    simpa using hm
  refine ⟨fun hole => if hole.part = 0 then whole else fraction, fun hole hm => ?_,
    by simp [spell, Mark.word, digitHole], fun hole hm => ?_⟩
  · rcases hcases hole hm with rfl | rfl
    · exact fits_digitHole hwhole (by simp)
    · exact fits_digitHole hfraction (by simp)
  · rcases hcases hole hm with rfl | rfl
    · rfl
    · rfl

theorem readsAs_card {key : String} {value : List Char} (hlength : value.length = 4)
    (hdigits : ∀ c ∈ value, c.isDigit = true) :
    ReadsAs ((List.range 4).map fun part => .hole (digitHole key part true)) key value := by
  have hcases : ∀ hole, Mark.hole hole ∈
      (List.range 4).map (fun part => Mark.hole (digitHole key part true)) →
      ∃ part < 4, hole = digitHole key part true := by
    intro hole hm
    obtain ⟨part, hpart, hhole⟩ := List.mem_map.mp hm
    exact ⟨part, List.mem_range.mp hpart, by simpa using hhole.symm⟩
  refine ⟨fun hole => (value.drop hole.part).take 1, fun hole hm => ?_, ?_, fun hole hm => ?_⟩
  · obtain ⟨part, hpart, rfl⟩ := hcases hole hm
    have hlen : ((value.drop part).take 1).length = 1 := by
      rw [List.length_take, List.length_drop]
      omega
    refine fits_digitHole ⟨List.ne_nil_of_length_eq_add_one hlen, fun c hc => ?_⟩ fun _ => hlen
    exact hdigits c (List.mem_of_mem_drop (List.mem_of_mem_take hc))
  · match value, hlength with
    | [a, b, c, d], _ => rfl
  · obtain ⟨part, -, rfl⟩ := hcases hole hm
    rfl

/-- A benign value is spelled by one of its readings. -/
theorem IsBenign.exists_reading {id : String} {shape : ValueShape} {value : List Char}
    (h : IsBenign id shape value) (key : String) :
    ∃ reading ∈ shape.readings id key, ReadsAs reading key value := by
  cases shape with
  | text barred blanks endings =>
      exact ⟨_, List.mem_singleton.mpr rfl, readsAs_hole (h.fits_hole key) rfl⟩
  | amount =>
      rcases h.fits with hwhole | ⟨whole, fraction, rfl, hwhole, hfraction⟩
      · exact ⟨_, List.mem_cons_self, readsAs_hole (fits_digitHole hwhole (by simp)) rfl⟩
      · exact ⟨_, List.mem_cons_of_mem _ (List.mem_singleton.mpr rfl),
          readsAs_fraction hwhole hfraction⟩
  | card =>
      obtain ⟨hlength, hdigits⟩ := h.fits
      exact ⟨_, List.mem_singleton.mpr rfl, readsAs_card hlength hdigits⟩

end Receipts
