import Mathlib.Data.List.DropRight
import Receipts.Text.Blank

/-!
# Trimmed texts

A text is its own trim if it has no blanks at its ends. Then it does not begin with a blank, and
a visible character may be put in front of it. Blanks that are put around a text are not seen.
-/

namespace Receipts.Text

theorem length_trimStart_le (s : List Char) : (trimStart s).length ≤ s.length :=
  (List.dropWhile_suffix _).length_le

theorem length_trim_le (s : List Char) : (trim s).length ≤ (trimStart s).length := by
  have h : ((trimStart s).reverse.dropWhile isBlank).length ≤ (trimStart s).reverse.length :=
    (List.dropWhile_suffix _).length_le
  rw [List.length_reverse] at h
  rwa [trim, trimEnd, List.length_reverse]

theorem trimStart_of_trim_eq {s : List Char} (h : trim s = s) : trimStart s = s := by
  refine (List.dropWhile_suffix _).eq_of_length_le ?_
  have hle := length_trim_le s
  rwa [h] at hle

theorem isBlank_head_of_trim_eq {c : Char} {s : List Char} (h : trim (c :: s) = c :: s) :
    isBlank c = false := by
  by_contra hblank
  rw [Bool.not_eq_false] at hblank
  have hsame := congrArg List.length (trimStart_of_trim_eq h)
  rw [trimStart_cons_of_blank s hblank, List.length_cons] at hsame
  have := length_trimStart_le s
  omega

/-- A trimmed text is its own trim. -/
theorem trim_trim (s : List Char) : trim (trim s) = trim s := by
  have hstart : trimStart (trim s) = trim s := by
    refine List.dropWhile_eq_self_iff.mpr fun hl => ?_
    have hstarts : trim s <+: trimStart s := List.reverse_suffix.mp (by
      rw [trim, trimEnd, List.reverse_reverse]
      exact List.dropWhile_suffix _)
    rw [hstarts.getElem hl]
    exact List.dropWhile_get_zero_not isBlank s _
  have hend : trimEnd (trim s) = trim s := by
    rw [trim, trimEnd, trimEnd, List.reverse_reverse, List.dropWhile_idempotent]
  rw [trim, hstart, hend]

theorem trim_infix_self (s : List Char) : trim s <:+: s := by
  have hend : trim s <+: trimStart s := List.reverse_suffix.mp (by
    rw [trim, trimEnd, List.reverse_reverse]
    exact List.dropWhile_suffix _)
  exact hend.isInfix.trans (List.dropWhile_suffix _).isInfix

theorem trim_eq_self_iff {s : List Char} : trim s = s ↔ trimStart s = s ∧ trimEnd s = s := by
  constructor
  · intro h
    have hstart := trimStart_of_trim_eq h
    rw [trim, hstart] at h
    exact ⟨hstart, h⟩
  · rintro ⟨hstart, hend⟩
    rw [trim, hstart, hend]

theorem trim_reverse_eq_self_iff {s : List Char} : trim s.reverse = s.reverse ↔ trim s = s := by
  have hstart : trimStart s.reverse = s.reverse ↔ trimEnd s = s := by
    rw [trimEnd, List.reverse_eq_iff]
    rfl
  have hend : trimEnd s.reverse = s.reverse ↔ trimStart s = s := by
    rw [trimEnd, List.reverse_reverse, List.reverse_inj]
    rfl
  rw [trim_eq_self_iff, trim_eq_self_iff, hstart, hend, and_comm]

theorem trim_eq_nil {s : List Char} (h : s.all isBlank = true) : trim s = [] := by
  have hstart : trimStart s = [] := List.dropWhile_eq_nil_iff.mpr (List.all_eq_true.mp h)
  rw [trim, hstart]
  rfl

theorem trim_cons {c : Char} {s : List Char} (hc : isBlank c = false) (h : trim s = s) :
    trim (c :: s) = c :: s := by
  have hend : s.reverse.dropWhile isBlank = s.reverse := by
    rw [trim, trimStart_of_trim_eq h, trimEnd] at h
    rw [← List.reverse_reverse (s.reverse.dropWhile isBlank), h]
  have hlast : (s.reverse ++ [c]).dropWhile isBlank = s.reverse ++ [c] := by
    rw [List.dropWhile_append, hend]
    split
    · rename_i hnil
      simp [List.isEmpty_iff.mp hnil, hc]
    · rfl
  rw [trim, trimStart_cons_of_visible s hc, trimEnd, List.reverse_cons, hlast]
  simp

/-! ## Blanks around a text -/

section
variable {before after : List Char}

theorem trimStart_append_of_blank (h : before.all isBlank = true) (s : List Char) :
    trimStart (before ++ s) = trimStart s :=
  List.dropWhile_append_of_pos (List.all_eq_true.mp h)

theorem trimEnd_append_of_blank (h : after.all isBlank = true) (s : List Char) :
    trimEnd (s ++ after) = trimEnd s := by
  have hreverse : after.reverse.all isBlank = true := by rwa [List.all_reverse]
  rw [trimEnd, List.reverse_append]
  exact congrArg List.reverse (trimStart_append_of_blank hreverse s.reverse)

theorem trimEnd_append_of_visible {c : Char} (h : isBlank c = false) (s : List Char) :
    trimEnd (s ++ [c]) = s ++ [c] := by
  simp [trimEnd, h]

theorem trim_append_of_blank (h : after.all isBlank = true) (s : List Char) :
    trim (s ++ after) = trim s := by
  by_cases hs : s.all isBlank = true
  · have hwhole : (s ++ after).all isBlank = true := by rw [List.all_append, hs, h, Bool.and_self]
    rw [trim_eq_nil hwhole, trim_eq_nil hs]
  · have hstart : trimStart (s ++ after) = trimStart s ++ after := by
      rw [trimStart, List.dropWhile_append, if_neg, trimStart]
      rwa [List.isEmpty_iff, List.dropWhile_eq_nil_iff, ← List.all_eq_true]
    rw [trim, hstart, trimEnd_append_of_blank h, trim]

/-- Trimming takes away the blanks around a text that begins and ends with visible characters. -/
theorem trim_between (hbefore : before.all isBlank = true) (hafter : after.all isBlank = true)
    {c d : Char} (hc : isBlank c = false) (hd : isBlank d = false) (s : List Char) :
    trim (before ++ (c :: (s ++ [d])) ++ after) = c :: (s ++ [d]) := by
  rw [trim_append_of_blank hafter, trim, trimStart_append_of_blank hbefore,
    trimStart_cons_of_visible _ hc]
  exact trimEnd_append_of_visible hd (c :: s)

end

end Receipts.Text
