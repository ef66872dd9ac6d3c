import Mathlib.Data.List.Basic
import Receipts.Text.Blank
import Receipts.Text.CharSet

/-!
# Membership in sets of characters

A code point up to the greatest is in a set or in one of the gaps between its ranges, so that a set
holds every character that no gap has. The white space of patterns is the white space of trimming.
-/

namespace Receipts

open Text (inRanges)

namespace CharSet

/-- A number outside ascending ranges lies in a gap between them. -/
theorem exists_gap_of_inRanges_eq_false {ranges : List (Nat × Nat)} {n code : Nat}
    (h : inRanges ranges code = false) (hn : n ≤ code) (hcode : code ≤ greatest) :
    ∃ gap ∈ gapsFrom n ranges, gap.1 ≤ code ∧ code ≤ gap.2 := by
  induction ranges generalizing n with
  | nil =>
      have hle : n ≤ greatest := Nat.le_trans hn hcode
      exact ⟨(n, greatest), by simp [gapsFrom, hle], hn, hcode⟩
  | cons range ranges ih =>
      obtain ⟨first, last⟩ := range
      by_cases hfirst : code < first
      · have hlt : n < first := by omega
        exact ⟨(n, first - 1), by simp [gapsFrom, hlt], hn, by omega⟩
      · have hfirst' : first ≤ code := by omega
        simp only [inRanges, hfirst', decide_true, Bool.true_and, Bool.or_eq_false_iff,
          decide_eq_false_iff_not] at h
        obtain ⟨gap, hgap, hin⟩ := ih h.2 (n := last + 1) (by omega)
        refine ⟨gap, ?_, hin⟩
        rw [gapsFrom]
        split
        · exact List.mem_cons_of_mem _ hgap
        · exact hgap

theorem exists_gap_of_holds_eq_false {set : CharSet} {c : Char} (h : set.holds c = false) :
    ∃ gap ∈ gapsFrom 0 set.ranges, gap.1 ≤ c.toNat ∧ c.toNat ≤ gap.2 := by
  have hc : c.toNat ≤ greatest := by
    have := c.valid
    simp only [Nat.isValidChar, UInt32.isValidChar] at this
    simp only [Char.toNat, greatest]
    omega
  exact exists_gap_of_inRanges_eq_false h (Nat.zero_le _) hc

theorem blank_holds (c : Char) : blank.holds c = Text.isBlank c := by
  simp only [holds, holdsCode, blank, inRanges, Text.isBlank]
  rw [Bool.eq_iff_iff]
  simp
  omega

end CharSet

end Receipts
