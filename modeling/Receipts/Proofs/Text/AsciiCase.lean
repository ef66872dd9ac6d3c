import Mathlib
import Receipts.Text.Case

/-!
# Letter case of ASCII texts

The case rules consult their tables and look at the text around a character only beyond ASCII. An
ASCII text is lowered character by character, and title case changes nothing but the case of its
letters: it neither depends on the case that a text comes in nor is seen once the text is lowered.
-/

namespace Receipts.Text

/-! ## Single characters -/

section Characters

variable {c : Char}

theorem toNat_toLower_lt (h : c.toNat < 0x80) : c.toLower.toNat < 0x80 := by
  by_cases hc : c.isUpper
  · have hlower := Char.isLower_toLower_eq_isAlpha c
    simp only [Char.isAlpha, hc, Bool.true_or, Char.isLower, Bool.and_eq_true, decide_eq_true_eq,
      UInt32.le_iff_toNat_le] at hlower
    exact Nat.lt_of_le_of_lt hlower.2 (by decide)
  · rwa [Char.toLower_eq_of_not_isUpper hc]

theorem toNat_toUpper_lt (h : c.toNat < 0x80) : c.toUpper.toNat < 0x80 := by
  by_cases hc : c.isLower
  · have hupper := Char.isUpper_toUpper_eq_isAlpha c
    simp only [Char.isAlpha, hc, Bool.or_true, Char.isUpper, decide_eq_true_eq,
      UInt32.le_iff_toNat_le] at hupper
    exact Nat.lt_of_le_of_lt hupper.2 (by decide)
  · rwa [Char.toUpper_eq_of_not_isLower hc]

/-- What is no letter is the lower case of nothing else. -/
theorem eq_of_toLower_eq {d : Char} (hd : d.isAlpha = false) (h : c.toLower = d) : c = d := by
  have hc : c.isAlpha = false := by rw [← Char.isAlpha_toLower_eq_isAlpha, h, hd]
  have hupper : ¬ c.isUpper = true := by
    intro hupper
    rw [Char.isAlpha, hupper, Bool.true_or] at hc
    cases hc
  rwa [Char.toLower_eq_of_not_isUpper hupper] at h

theorem lowerChar_of_ascii (h : c.toNat < 0x80) : lowerChar c = [c.toLower] := by
  simp [lowerChar, h]

theorem upperChar_of_ascii (h : c.toNat < 0x80) : upperChar c = [c.toUpper] := by
  simp [upperChar, h]

end Characters

/-! ## Texts -/

section Texts

variable {s : List Char}

theorem not_mem_map_toLower {c : Char} (hc : c.isAlpha = false) (h : c ∉ s) :
    c ∉ s.map Char.toLower := by
  intro hm
  obtain ⟨d, hd, hlower⟩ := List.mem_map.mp hm
  exact h (eq_of_toLower_eq hc hlower ▸ hd)

theorem map_toLower_map_toLower (s : List Char) :
    (s.map Char.toLower).map Char.toLower = s.map Char.toLower := by
  rw [List.map_map]
  exact List.map_congr_left fun c _ => Char.toLower_toLower_eq_toLower c

variable (h : ∀ c ∈ s, c.toNat < 0x80)

include h

theorem ascii_map_toLower : ∀ c ∈ s.map Char.toLower, c.toNat < 0x80 :=
  List.forall_mem_map.mpr fun c hc => toNat_toLower_lt (h c hc)

/-- The one rule of context is about the capital sigma, which is not ASCII. -/
theorem lowerFrom_of_ascii (left : List Char) : lowerFrom left s = s.map Char.toLower := by
  induction s generalizing left with
  | nil => rfl
  | cons c s ih =>
      obtain ⟨hc, hs⟩ := List.forall_mem_cons.mp h
      have hsigma : c ≠ capitalSigma := by
        rintro rfl
        exact absurd hc (by decide)
      rw [lowerFrom, ih hs, if_neg (by simpa using hsigma), lowerChar_of_ascii hc]
      rfl

theorem lower_of_ascii : lower s = s.map Char.toLower :=
  lowerFrom_of_ascii h []

theorem flatMap_lowerChar_of_ascii : s.flatMap lowerChar = s.map Char.toLower := by
  induction s with
  | nil => rfl
  | cons c s ih =>
      obtain ⟨hc, hs⟩ := List.forall_mem_cons.mp h
      rw [List.flatMap_cons, lowerChar_of_ascii hc, ih hs, List.map_cons, List.singleton_append]

theorem titleCase_cons_of_ascii {c : Char} (hc : c.toNat < 0x80) :
    titleCase (c :: s) = c.toUpper :: s.map Char.toLower := by
  rw [titleCase, upperChar_of_ascii hc, flatMap_lowerChar_of_ascii h, List.singleton_append]

theorem ascii_titleCase : ∀ c ∈ titleCase s, c.toNat < 0x80 := by
  cases s with
  | nil => exact h
  | cons c s =>
      obtain ⟨hc, hs⟩ := List.forall_mem_cons.mp h
      rw [titleCase_cons_of_ascii hs hc]
      exact List.forall_mem_cons.mpr ⟨toNat_toUpper_lt hc, ascii_map_toLower hs⟩

/-- Once a text is lowered, its title case is not seen. -/
theorem map_toLower_titleCase : (titleCase s).map Char.toLower = s.map Char.toLower := by
  cases s with
  | nil => rfl
  | cons c s =>
      obtain ⟨hc, hs⟩ := List.forall_mem_cons.mp h
      rw [titleCase_cons_of_ascii hs hc, List.map_cons, List.map_cons,
        Char.toLower_toUpper_eq_toLower, map_toLower_map_toLower]

/-- The title case of a text does not depend on the case that the text comes in. -/
theorem titleCase_map_toLower : titleCase (s.map Char.toLower) = titleCase s := by
  cases s with
  | nil => rfl
  | cons c s =>
      obtain ⟨hc, hs⟩ := List.forall_mem_cons.mp h
      rw [List.map_cons, titleCase_cons_of_ascii (ascii_map_toLower hs) (toNat_toLower_lt hc),
        titleCase_cons_of_ascii hs hc, Char.toUpper_toLower_eq_toUpper, map_toLower_map_toLower]

end Texts

end Receipts.Text
