import Mathlib.Data.List.Infix
import Receipts.Proofs.Text.CharSet
import Receipts.Proofs.Text.Scan

/-!
# Outlines of documents

An outline is a document of which the wording is known and the texts between are not. Each such text
fills a hole, and all that is known of it is what the hole asks for: whether it may be empty, which
characters it may have, which phrases stand nowhere in it, and how it does not end. One outline
stands for all documents that any fitting texts make.
-/

namespace Receipts

/-- The digits of ASCII. -/
def decimalDigits : List Char :=
  ['0', '1', '2', '3', '4', '5', '6', '7', '8', '9']

theorem mem_decimalDigits {c : Char} (h : c.isDigit = true) : c ∈ decimalDigits := by
  have hrange : 48 ≤ c.toNat ∧ c.toNat ≤ 57 := by
    simp only [Char.isDigit, Bool.and_eq_true, decide_eq_true_eq, UInt32.le_iff_toNat_le] at h
    exact h
  have hall : ∀ k < 10, Char.ofNat (48 + k) ∈ decimalDigits := by decide
  have hc := hall (c.toNat - 48) (by omega)
  rwa [Nat.add_sub_cancel' hrange.1, Char.ofNat_toNat] at hc

/-- The characters that the text in a hole may have. -/
inductive Alphabet where
  | digits
  | without (chars : List Char) (blanks : Bool)
  deriving DecidableEq, Repr

namespace Alphabet

/-- Whether a character may stand in the hole. -/
def holds : Alphabet → Char → Bool
  | digits, c => c.isDigit
  | without chars blanks, c => !chars.contains c && (blanks || !Text.isBlank c)

/-- Whether every character that may stand in the hole is in a set. Only small gaps of the set are
searched for others. -/
def within (set : CharSet) : Alphabet → Bool
  | digits => decimalDigits.all set.holds
  | without chars blanks =>
      (CharSet.gapsFrom 0 set.ranges).all fun gap =>
        decide (gap.2 ≤ gap.1 + 16) && (List.range (gap.2 + 1 - gap.1)).all fun k =>
          chars.any (fun c => c.toNat == gap.1 + k)
            || (!blanks && Text.isBlank (Char.ofNat (gap.1 + k)))

theorem holds_of_within {alphabet : Alphabet} {set : CharSet} (h : alphabet.within set = true)
    {c : Char} (hc : alphabet.holds c = true) : set.holds c = true := by
  cases alphabet with
  | digits =>
      rw [within, List.all_eq_true] at h
      exact h c (mem_decimalDigits hc)
  | without chars blanks =>
      by_contra hset
      rw [Bool.not_eq_true] at hset
      obtain ⟨gap, hgap, hlow, hhigh⟩ := CharSet.exists_gap_of_holds_eq_false hset
      rw [within, List.all_eq_true] at h
      have hall := (Bool.and_eq_true_iff.mp (h gap hgap)).2
      rw [List.all_eq_true] at hall
      have hcode := hall (c.toNat - gap.1) (List.mem_range.mpr (by omega))
      rw [Nat.add_sub_cancel' hlow, Char.ofNat_toNat, Bool.or_eq_true] at hcode
      simp only [holds, Bool.and_eq_true, Bool.or_eq_true, Bool.not_eq_true'] at hc
      rcases hcode with hmem | hblank
      · rw [List.any_eq_true] at hmem
        obtain ⟨d, hd, heq⟩ := hmem
        obtain rfl : d = c := Char.toNat_inj.mp (by simpa using heq)
        simp [hd] at hc
      · rw [Bool.and_eq_true, Bool.not_eq_true'] at hblank
        simp [hblank.1, hblank.2] at hc

end Alphabet

/-- A place for a text, and what is known of the text. -/
structure Hole where
  key : String
  part : Nat := 0
  alphabet : Alphabet
  single : Bool := false
  optional : Bool := false
  phrases : List (List Char) := []
  endings : List (List Char) := []
  deriving DecidableEq, Repr

namespace Hole

/-- Whether a text is what the hole asks for. It does not begin with a blank. -/
structure Fits (hole : Hole) (w : List Char) : Prop where
  nonempty : hole.optional = false → w ≠ []
  alphabet : ∀ c ∈ w, hole.alphabet.holds c = true
  single : hole.single = true → w.length = 1
  phrases : ∀ p ∈ hole.phrases, ¬ p <:+: w
  endings : ∀ e ∈ hole.endings, ¬ e <:+ w
  visible : ∀ c, w.head? = some c → Text.isBlank c = false

/-- Whether a stretch may stand in the text of the hole, as far as is known. -/
def mayContain (hole : Hole) (w : List Char) : Bool :=
  w.all hole.alphabet.holds && hole.phrases.all fun p => !Text.occurs p w

/-- Whether the text of the hole may end with a stretch. -/
def mayEndWith (hole : Hole) (w : List Char) : Bool :=
  hole.mayContain w && hole.endings.all fun e => !e.isSuffixOf w

end Hole

/-- A character of the wording, or a hole. -/
inductive Mark where
  | char (c : Char)
  | hole (hole : Hole)
  deriving DecidableEq, Repr

/-- A document with holes. -/
abbrev Outline := List Mark

/-- The text of a mark, where `words` are the texts in the holes. -/
def Mark.word (words : Hole → List Char) : Mark → List Char
  | .char c => [c]
  | .hole h => words h

/-- Whether a mark is a blank of the wording. -/
def Mark.isBlank : Mark → Bool
  | .char c => Text.isBlank c
  | .hole _ => false

namespace Outline

/-- The document with its holes filled. -/
def spell (words : Hole → List Char) (outline : Outline) : List Char :=
  outline.flatMap (Mark.word words)

variable {words : Hole → List Char}

theorem spell_nil : spell words [] = [] := rfl

theorem spell_char (c : Char) (outline : Outline) :
    spell words (.char c :: outline) = c :: spell words outline := rfl

theorem spell_hole (hole : Hole) (outline : Outline) :
    spell words (.hole hole :: outline) = words hole ++ spell words outline := rfl

theorem spell_append (a b : Outline) : spell words (a ++ b) = spell words a ++ spell words b :=
  List.flatMap_append

theorem spell_map_char (words : Hole → List Char) (s : List Char) :
    spell words (s.map .char) = s := by
  induction s with
  | nil => rfl
  | cons c s ih => rw [List.map_cons, spell_char, ih]

theorem all_isBlank_spell (words : Hole → List Char) {outline : Outline}
    (h : outline.all Mark.isBlank = true) : (spell words outline).all Text.isBlank = true := by
  induction outline with
  | nil => rfl
  | cons mark outline ih =>
      rw [List.all_cons, Bool.and_eq_true] at h
      cases mark with
      | char c =>
          rw [spell_char, List.all_cons, ih h.2, Bool.and_true]
          exact h.1
      | hole hole => cases h.1

/-- Whether all holes of an outline are filled as they ask for. -/
def FilledBy (outline : Outline) (words : Hole → List Char) : Prop :=
  ∀ hole, Mark.hole hole ∈ outline → hole.Fits (words hole)

theorem FilledBy.of_suffix {a b : Outline} (h : FilledBy b words) (hab : a <:+ b) :
    FilledBy a words :=
  fun hole hm => h hole (hab.subset hm)

end Outline

namespace Hole

/-- The hole, but its text may be left out. -/
def orNone (hole : Hole) : Hole :=
  { hole with optional := true }

/-- The hole for what a text in the hole begins with. -/
def front (hole : Hole) : Hole :=
  { hole with single := false, optional := true, endings := [] }

/-- The hole, but its text does not end in one more way. -/
def notEnding (hole : Hole) (ending : List Char) : Hole :=
  { hole with endings := ending :: hole.endings }

/-- Whether what the hole asks for says nothing about the empty text. -/
def IsLeavable (hole : Hole) : Prop :=
  hole.single = false ∧ [] ∉ hole.phrases ∧ [] ∉ hole.endings

instance (hole : Hole) : Decidable hole.IsLeavable :=
  inferInstanceAs (Decidable (hole.single = false ∧ [] ∉ hole.phrases ∧ [] ∉ hole.endings))

variable {hole : Hole} {w : List Char}

theorem Fits.orNone (h : hole.Fits w) : hole.orNone.Fits w :=
  ⟨by simp [Hole.orNone], h.alphabet, h.single, h.phrases, h.endings, h.visible⟩

theorem IsLeavable.fits_nil (h : hole.IsLeavable) : hole.orNone.Fits [] where
  nonempty := by simp [Hole.orNone]
  alphabet := by simp
  single hsingle := by
    rw [Hole.orNone, h.1] at hsingle
    cases hsingle
  phrases p hp hin := h.2.1 (List.infix_nil.mp hin ▸ hp)
  endings e he hend := h.2.2 (List.suffix_nil.mp hend ▸ he)
  visible := by simp

theorem Fits.front {v : List Char} (h : hole.Fits w) (hv : v <+: w) : hole.front.Fits v where
  nonempty := by simp [Hole.front]
  alphabet c hc := h.alphabet c (hv.subset hc)
  single := by simp [Hole.front]
  phrases p hp hin := h.phrases p hp (hin.trans hv.isInfix)
  endings := by simp [Hole.front]
  visible c hc := by
    obtain ⟨s, rfl⟩ := List.head?_eq_some_iff.mp hc
    obtain ⟨t, rfl⟩ := hv
    exact h.visible c rfl

theorem Fits.notEnding {ending : List Char} (h : hole.Fits w) (hw : ¬ ending <:+ w) :
    (hole.notEnding ending).Fits w := by
  refine ⟨h.nonempty, h.alphabet, h.single, h.phrases, fun e he => ?_, h.visible⟩
  rcases List.mem_cons.mp he with rfl | he
  · exact hw
  · exact h.endings e he

end Hole

theorem Hole.Fits.optional_of_eq_nil {hole : Hole} {w : List Char} (h : hole.Fits w)
    (hw : w = []) : hole.optional = true := by
  by_contra hnot
  exact h.nonempty (by simpa using hnot) hw

theorem Hole.Fits.mayContain {hole : Hole} {v w : List Char} (h : hole.Fits w) (hv : v <:+: w) :
    hole.mayContain v = true := by
  rw [Hole.mayContain, Bool.and_eq_true, List.all_eq_true, List.all_eq_true]
  refine ⟨fun c hc => h.alphabet c (hv.subset hc), fun p hp => ?_⟩
  rw [Bool.not_eq_true', Text.occurs_eq_false_iff]
  exact fun hin => h.phrases p hp (hin.trans hv)

/-- A set with all characters of a hole holds those of its text. -/
theorem Hole.Fits.holds_of_within {hole : Hole} {w : List Char} {set : CharSet} (h : hole.Fits w)
    (hwithin : hole.alphabet.within set = true) {c : Char} (hc : c ∈ w) : set.holds c = true :=
  Alphabet.holds_of_within hwithin (h.alphabet c hc)

theorem Hole.Fits.mayEndWith {hole : Hole} {v w : List Char} (h : hole.Fits w) (hv : v <:+ w) :
    hole.mayEndWith v = true := by
  rw [Hole.mayEndWith, Bool.and_eq_true, List.all_eq_true]
  refine ⟨h.mayContain hv.isInfix, fun e he => ?_⟩
  rw [Bool.not_eq_true', ← Bool.not_eq_true, List.isSuffixOf_iff_suffix]
  exact fun hend => h.endings e he (hend.trans hv)

end Receipts
