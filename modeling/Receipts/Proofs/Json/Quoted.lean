import Receipts.Json.Print
import Receipts.Proofs.Json.Scanning

/-!
# Texts that are written and read

A character is written as itself or as an escape that names it, so the inside of a written text says
the text. It is read back as that, and passed over as a whole. Stray bytes do not come up here,
since what is written has none.
-/

namespace Receipts.Json

/-- A character below U+0020 is written by its number. -/
theorem spells_control {c : Char} (hc : c.toNat < 0x20) :
    Spells ['0', '0', Text.hexDigit (c.toNat / 16), Text.hexDigit (c.toNat % 16)] c.toNat := by
  have hhigh : c.toNat / 16 < 16 := by omega
  have hlow : c.toNat % 16 < 16 := by omega
  have hzero : Text.hexValue? '0' = some 0 := by decide
  refine ⟨rfl, ?_⟩
  simp only [Text.hexNumber?, List.foldlM_cons, List.foldlM_nil, hzero,
    Text.hexValue?_hexDigit hhigh, Text.hexValue?_hexDigit hlow, Option.map_some,
    Option.bind_eq_bind, Option.bind_some, Option.pure_def, Option.some.injEq]
  omega

theorem plain_or_names_escaped (c : Char) :
    (escaped c = [c] ∧ IsPlain c) ∨ ∃ w, escaped c = '\\' :: w ∧ Names w c := by
  unfold escaped
  split
  case h_6 hquote hslash _ _ _ =>
    split
    · rename_i hcontrol
      split
      · rename_i hbackspace
        refine .inr ⟨['b'], rfl, ?_⟩
        rw [← Char.ofNat_toNat c, hbackspace]
        exact .letter (by decide)
      · split
        · rename_i hfeed
          refine .inr ⟨['f'], rfl, ?_⟩
          rw [← Char.ofNat_toNat c, hfeed]
          exact .letter (by decide)
        · have hleading : Scan.isLeading c.toNat = false := by simp [Scan.isLeading]; omega
          have htrailing : Scan.isTrailing c.toNat = false := by simp [Scan.isTrailing]; omega
          have hnames := Names.number (spells_control hcontrol) hleading htrailing
          rw [Char.ofNat_toNat] at hnames
          exact .inr ⟨_, rfl, hnames⟩
    · rename_i hcontrol
      exact .inl ⟨rfl, hquote, hslash, Nat.le_of_not_lt hcontrol⟩
  all_goals exact .inr ⟨_, rfl, .letter (by decide)⟩

theorem spelt_escaped (s : List Char) : Spelt Names (Input.ofChars (s.flatMap escaped)) s := by
  induction s with
  | nil => exact .nil
  | cons c s ih =>
      rw [List.flatMap_cons, Input.ofChars_append]
      rcases plain_or_names_escaped c with ⟨hc, hplain⟩ | ⟨w, hc, hw⟩
      · rw [hc]
        exact .plain hplain ih
      · rw [hc]
        exact .escape hw ih

/-- The inside of a written text says the text. -/
theorem says_escaped (s : String) : Says (Input.ofChars (s.toList.flatMap escaped)) s :=
  ⟨spelt_escaped s.toList, by simp [Input.ofChars]⟩

namespace Scan

/-- A written text, after its opening quote, is read back. -/
theorem text_escaped (s : String) (rest : Input) :
    text (Input.ofChars (s.toList.flatMap escaped) ++ some '"' :: rest) = .ok (s, rest) :=
  text_eq_ok_iff.mpr ⟨_, says_escaped s, rfl⟩

/-- A written text, after its opening quote, is passed over. -/
theorem skipText_escaped (s : String) (rest : Input) :
    skipText (Input.ofChars (s.toList.flatMap escaped) ++ some '"' :: rest) = .ok rest :=
  skipText_eq_ok_iff.mpr ⟨_, (says_escaped s).isInside, rfl⟩

end Scan

end Receipts.Json
