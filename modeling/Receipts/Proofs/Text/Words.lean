import Mathlib.Data.List.Infix
import Receipts.Proofs.Text.Scan
import Receipts.Text.Case

/-!
# Words that are joined

Where one character separates the words of a text, what stands in the text without that character
stands in one of the words. If the rules of case do not look past the character either, each word is
lowered on its own, the final form of a sigma included. What changes the words one by one and joins
them anew is told word by word.
-/

namespace Receipts.Text

/-! ## Separated words -/

/-- Induction along the words of a text. -/
theorem words_induction (stop : Char) {motive : List Char → Prop}
    (last : ∀ word, stop ∉ word → motive word)
    (more : ∀ word s, stop ∉ word → motive s → motive (word ++ stop :: s)) (s : List Char) :
    motive s := by
  induction hn : s.length using Nat.strong_induction_on generalizing s with
  | h n ih =>
      by_cases h : stop ∈ s
      · obtain ⟨word, rest, rfl, hword⟩ := List.eq_append_cons_of_mem h
        rw [List.length_append, List.length_cons] at hn
        exact more word rest hword (ih rest.length (by omega) rest rfl)
      · exact last s h

section Separated

variable {stop : Char} {word : List Char} (joint : Char) (change : List Char → List Char)

/-- A single word is changed, and there is nothing to join. -/
theorem rejoin_word (h : stop ∉ word) :
    [joint].intercalate ((word.splitOn stop).map change) = change word := by
  rw [List.splitOn_eq_singleton h, List.map_singleton, List.intercalate_singleton]

theorem rejoin_append (h : stop ∉ word) (s : List Char) :
    [joint].intercalate (((word ++ stop :: s).splitOn stop).map change)
      = change word ++ joint :: [joint].intercalate ((s.splitOn stop).map change) := by
  have hne : (s.splitOn stop).map change ≠ [] := by simp
  rw [List.splitOn_append_cons_self_of_not_mem h, List.map_cons,
    List.intercalate_cons_of_ne_nil hne, List.append_assoc, List.singleton_append]

end Separated

/-! ## Stretches of a joined text -/

theorem infix_append_stop_iff {stop : Char} {w s rest : List Char} (hw : stop ∉ w) :
    w <:+: s ++ stop :: rest ↔ w <:+: s ∨ w <:+: rest := by
  constructor
  · exact infix_of_infix_append_stop hw
  · rintro (h | h)
    · exact h.trans (List.prefix_append s _).isInfix
    · exact h.trans ((List.suffix_cons stop rest).trans (List.suffix_append s _)).isInfix

/-- What has no separator in it stands in a joined text if it stands in one of the words. -/
theorem infix_intercalate_iff {stop : Char} {w : List Char} (hw : stop ∉ w)
    {words : List (List Char)} (hne : words ≠ []) :
    w <:+: [stop].intercalate words ↔ ∃ word ∈ words, w <:+: word := by
  induction words with
  | nil => exact absurd rfl hne
  | cons word words ih =>
      cases words with
      | nil => simp
      | cons next words =>
          rw [List.intercalate_cons_cons, List.append_assoc, List.singleton_append,
            infix_append_stop_iff hw, ih (List.cons_ne_nil next words)]
          simp only [List.mem_cons, exists_eq_or_imp]

/-! ## Lower case -/

/-- Whether the rules of case do not look past a character, and leave it as it is. -/
def EndsWords (c : Char) : Prop :=
  isCased c = false ∧ isCaseIgnorable c = false ∧ lowerChar c = [c]

instance (c : Char) : Decidable (EndsWords c) :=
  inferInstanceAs (Decidable (_ ∧ _ ∧ _))

variable {c : Char}

theorem casedAhead_append (h : EndsWords c) (s rest : List Char) :
    casedAhead (s ++ c :: rest) = casedAhead s := by
  induction s with
  | nil => simp [casedAhead, h.1, h.2.1]
  | cons d s ih =>
      cases hd : isCaseIgnorable d with
      | true => simpa [casedAhead, hd] using ih
      | false => simp [casedAhead, hd]

/-- What stands further on the left than the character does not matter. -/
theorem lowerFrom_append_left (h : EndsWords c) (left rest s : List Char) :
    lowerFrom (left ++ c :: rest) s = lowerFrom left s := by
  induction s generalizing left with
  | nil => rfl
  | cons d s ih =>
      have hrest := ih (d :: left)
      rw [List.cons_append] at hrest
      rw [lowerFrom, lowerFrom, casedAhead_append h, hrest]

theorem lowerFrom_append (h : EndsWords c) (left s rest : List Char) :
    lowerFrom left (s ++ c :: rest) = lowerFrom left s ++ c :: lower rest := by
  -- What was passed already matters up to `c` only, so behind it lowering begins anew.
  induction s generalizing left with
  | nil =>
      have hsigma : c ≠ capitalSigma := by
        rintro rfl
        exact absurd h.1 (by decide +kernel)
      have hcut := lowerFrom_append_left h [] left rest
      rw [List.nil_append] at hcut
      simp only [List.nil_append, lowerFrom, beq_eq_false_iff_ne.mpr hsigma, hcut, h.2.2]
      rfl
  | cons d s ih =>
      rw [List.cons_append, lowerFrom, casedAhead_append h, ih, lowerFrom, List.append_assoc]

theorem lower_append (h : EndsWords c) (s rest : List Char) :
    lower (s ++ c :: rest) = lower s ++ c :: lower rest :=
  lowerFrom_append h [] s rest

/-- Words with a character between them that ends words are lowered one by one. -/
theorem lower_intercalate (h : EndsWords c) (words : List (List Char)) :
    lower ([c].intercalate words) = [c].intercalate (words.map lower) := by
  induction words with
  | nil => rfl
  | cons word words ih =>
      cases words with
      | nil => simp
      | cons next words =>
          rw [List.map_cons] at ih ⊢
          rw [List.map_cons, List.intercalate_cons_cons, List.intercalate_cons_cons, ← ih,
            List.append_assoc, List.append_assoc, List.singleton_append, List.singleton_append,
            lower_append h]

end Receipts.Text
