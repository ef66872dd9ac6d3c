import Mathlib.Data.List.Chain
import Receipts.Proofs.Text.Trim
import Receipts.Proofs.Text.Visible
import Receipts.Proofs.Text.Words

/-!
# Lines

The lines of a text stand between its line ends. Trimming the lines of a text, and then the text,
leaves lines that are trimmed, and a run of line ends in what is left comes from a gap between the
lines, blanks and line ends only, that has as many.
-/

namespace Receipts.Text

/-- The lines of a text, without the line ends between them. -/
def lines (s : List Char) : List (List Char) :=
  List.splitOn '\n' s

theorem lines_of_not_mem {line : List Char} (h : '\n' ∉ line) : lines line = [line] :=
  List.splitOn_eq_singleton h

theorem lines_append (s t : List Char) : lines (s ++ '\n' :: t) = lines s ++ lines t :=
  List.splitOn_append_cons_self s t

theorem lines_line {line : List Char} (h : '\n' ∉ line) (s : List Char) :
    lines (line ++ '\n' :: s) = line :: lines s :=
  List.splitOn_append_cons_self_of_not_mem h s

theorem lines_lineEnd (s : List Char) : lines ('\n' :: s) = [] :: lines s :=
  lines_line List.not_mem_nil s

theorem exists_lines_cons {c : Char} (hc : c ≠ '\n') (s : List Char) :
    ∃ first rest, lines s = first :: rest ∧ lines (c :: s) = (c :: first) :: rest := by
  have hcons : lines (c :: s) = (lines s).modifyHead (List.cons c) := by
    rw [lines, List.splitOn_cons_eq_if_modifyHead, if_neg (by simpa using hc), lines]
  obtain ⟨first, rest, hlines⟩ := List.exists_cons_of_ne_nil (List.splitOn_ne_nil '\n' s)
  refine ⟨first, rest, hlines, ?_⟩
  rw [hcons, lines, hlines, List.modifyHead_cons]

/-- Induction along the lines of a text. -/
theorem lines_induction {motive : List Char → Prop} (last : ∀ line, '\n' ∉ line → motive line)
    (more : ∀ line s, '\n' ∉ line → motive s → motive (line ++ '\n' :: s)) (s : List Char) :
    motive s :=
  words_induction '\n' last more s

theorem lineEnd_not_mem_line {s line : List Char} (h : line ∈ lines s) : '\n' ∉ line := by
  induction s using lines_induction with
  | last only hno =>
      rw [lines_of_not_mem hno, List.mem_singleton] at h
      rwa [h]
  | more first s hno ih =>
      rw [lines_line hno, List.mem_cons] at h
      rcases h with rfl | h
      · exact hno
      · exact ih h

theorem lines_reverse (s : List Char) :
    lines s.reverse = ((lines s).map List.reverse).reverse := by
  induction s using lines_induction with
  | last line hno =>
      have hno' : '\n' ∉ line.reverse := by rwa [List.mem_reverse]
      rw [lines_of_not_mem hno, lines_of_not_mem hno']
      rfl
  | more line s hno ih =>
      have hno' : '\n' ∉ line.reverse := by rwa [List.mem_reverse]
      rw [List.reverse_append, List.reverse_cons, List.append_assoc, List.singleton_append,
        lines_append, ih, lines_of_not_mem hno', lines_line hno, List.map_cons, List.reverse_cons]

/-! ## Trimmed lines -/

/-- Whether no line of a text has blanks at its ends. -/
def HasTrimmedLines (s : List Char) : Prop :=
  ∀ line ∈ lines s, trim line = line

theorem hasTrimmedLines_reverse {s : List Char} (h : HasTrimmedLines s) :
    HasTrimmedLines s.reverse := by
  intro line hline
  rw [lines_reverse, List.mem_reverse, List.mem_map] at hline
  obtain ⟨line, hline, rfl⟩ := hline
  exact trim_reverse_eq_self_iff.mpr (h line hline)

theorem hasTrimmedLines_of_cons {c : Char} {s : List Char} (hc : isBlank c = true)
    (h : HasTrimmedLines (c :: s)) : HasTrimmedLines s := by
  by_cases hend : c = '\n'
  · rw [hend, HasTrimmedLines, lines_lineEnd] at h
    exact fun line hline => h line (List.mem_cons_of_mem _ hline)
  · -- A line that begins with a blank is not trimmed.
    obtain ⟨first, rest, -, hcons⟩ := exists_lines_cons hend s
    rw [HasTrimmedLines, hcons] at h
    have hvisible := isBlank_head_of_trim_eq (h (c :: first) List.mem_cons_self)
    rw [hc] at hvisible
    cases hvisible

theorem hasTrimmedLines_trimStart {s : List Char} (h : HasTrimmedLines s) :
    HasTrimmedLines (trimStart s) := by
  induction s with
  | nil => exact h
  | cons c s ih =>
      cases hc : isBlank c with
      | true =>
          rw [trimStart_cons_of_blank s hc]
          exact ih (hasTrimmedLines_of_cons hc h)
      | false => rwa [trimStart_cons_of_visible s hc]

/-- Trimming a text leaves its lines trimmed. -/
theorem hasTrimmedLines_trim {s : List Char} (h : HasTrimmedLines s) :
    HasTrimmedLines (trim s) := by
  have hstart := hasTrimmedLines_trimStart h
  exact hasTrimmedLines_reverse (hasTrimmedLines_trimStart (hasTrimmedLines_reverse hstart))

/-- The text with each of its lines trimmed. -/
def trimLines (s : List Char) : List Char :=
  ['\n'].intercalate ((lines s).map trim)

theorem lineEnd_not_mem_trim {line : List Char} (h : '\n' ∉ line) : '\n' ∉ trim line :=
  fun hm => h ((trim_infix_self line).subset hm)

theorem trimLines_of_not_mem {line : List Char} (h : '\n' ∉ line) :
    trimLines line = trim line :=
  rejoin_word '\n' trim h

theorem trimLines_line {line : List Char} (h : '\n' ∉ line) (s : List Char) :
    trimLines (line ++ '\n' :: s) = trim line ++ '\n' :: trimLines s :=
  rejoin_append '\n' trim h s

theorem hasTrimmedLines_trimLines (s : List Char) : HasTrimmedLines (trimLines s) := by
  have hlines : lines (trimLines s) = (lines s).map trim := by
    refine List.splitOn_intercalate '\n' ?_ (by simp [lines])
    rw [List.forall_mem_map]
    exact fun line hline => lineEnd_not_mem_trim (lineEnd_not_mem_line hline)
  rw [HasTrimmedLines, hlines]
  exact List.forall_mem_map.mpr fun line _ => trim_trim line

/-- A stretch within a line of the trimmed lines stands in the text. -/
theorem infix_of_infix_trimLines {w s : List Char} (hw : '\n' ∉ w) (h : w <:+: trimLines s) :
    w <:+: s := by
  induction s using lines_induction with
  | last line hno =>
      rw [trimLines_of_not_mem hno] at h
      exact h.trans (trim_infix_self line)
  | more line s hno ih =>
      rw [trimLines_line hno] at h
      rcases infix_of_infix_append_stop hw h with h | h
      · exact (h.trans (trim_infix_self line)).trans (List.prefix_append _ _).isInfix
      · exact (ih h).trans ((List.suffix_cons '\n' s).trans (List.suffix_append _ _)).isInfix

/-! ## Gaps between lines -/

/-- The number of line ends among the blanks at the front of a text. -/
def gapAhead (s : List Char) : Nat :=
  (s.takeWhile isBlank).count '\n'

theorem gapAhead_lineEnd (s : List Char) : gapAhead ('\n' :: s) = gapAhead s + 1 := by
  rw [gapAhead, List.takeWhile_cons_of_pos (by decide), List.count_cons_self, gapAhead]

theorem gapAhead_cons_of_ne {c : Char} (hc : c ≠ '\n') (s : List Char) :
    gapAhead (c :: s) = if isBlank c then gapAhead s else 0 := by
  rw [gapAhead, List.takeWhile_cons]
  split
  · rw [List.count_cons_of_ne hc, gapAhead]
  · rfl

theorem gapAhead_blank_line {line : List Char} (hblank : ∀ c ∈ line, isBlank c = true)
    (hno : '\n' ∉ line) (s : List Char) : gapAhead (line ++ s) = gapAhead s := by
  rw [gapAhead, List.takeWhile_append_of_pos hblank, List.count_append, List.count_eq_zero.mpr hno,
    Nat.zero_add, gapAhead]

/-- Line ends at the front of the trimmed lines come from a gap that is as wide. -/
theorem le_gapAhead_of_prefix_trimLines {n : Nat} {s : List Char}
    (h : List.replicate n '\n' <+: trimLines s) : n ≤ gapAhead s := by
  induction s using lines_induction generalizing n with
  | last line hno =>
      rw [trimLines_of_not_mem hno] at h
      cases n with
      | zero => exact Nat.zero_le _
      | succ n => exact absurd (h.subset (by simp)) (lineEnd_not_mem_trim hno)
  | more line s hno ih =>
      cases n with
      | zero => exact Nat.zero_le _
      | succ n =>
          rw [trimLines_line hno] at h
          cases hline : trim line with
          | nil =>
              rw [hline, List.replicate_succ, List.nil_append, List.cons_prefix_cons] at h
              have hs := ih h.2
              rw [gapAhead_blank_line (all_isBlank_of_trim_eq_nil hline) hno, gapAhead_lineEnd]
              omega
          | cons c rest =>
              rw [hline, List.replicate_succ, List.cons_append, List.cons_prefix_cons] at h
              have hmem : '\n' ∈ trim line := by rw [hline, h.1]; exact List.mem_cons_self
              exact absurd hmem (lineEnd_not_mem_trim hno)

theorem exists_gapAhead_of_infix_trimLines {n : Nat} {s : List Char}
    (h : List.replicate n '\n' <:+: trimLines s) : ∃ t, t <:+ s ∧ n ≤ gapAhead t := by
  induction s using lines_induction with
  | last line hno =>
      cases n with
      | zero => exact ⟨line, List.suffix_rfl, Nat.zero_le _⟩
      | succ n =>
          rw [trimLines_of_not_mem hno] at h
          exact absurd (h.subset (by simp)) (lineEnd_not_mem_trim hno)
  | more line s hno ih =>
      cases n with
      | zero => exact ⟨_, List.suffix_rfl, Nat.zero_le _⟩
      | succ n =>
          rw [trimLines_line hno, List.replicate_succ] at h
          have h := infix_of_infix_append (lineEnd_not_mem_trim hno) h
          rcases List.infix_cons_iff.mp h with h | h
          · refine ⟨'\n' :: s, List.suffix_append _ _, ?_⟩
            have hs := le_gapAhead_of_prefix_trimLines (List.cons_prefix_cons.mp h).2
            rw [gapAhead_lineEnd]
            omega
          · obtain ⟨t, ht, hn⟩ := ih h
            exact ⟨t, (ht.trans (List.suffix_cons '\n' s)).trans (List.suffix_append _ _), hn⟩

/-! ## Blank lines -/

theorem lineEnd_prefix_of_head_lines {s : List Char} (h : (lines s).head? = some []) :
    ['\n'] <+: s ++ ['\n'] := by
  cases s with
  | nil => exact List.prefix_rfl
  | cons c s =>
      by_cases hend : c = '\n'
      · rw [hend]
        exact List.prefix_append ['\n'] _
      · obtain ⟨first, rest, -, hcons⟩ := exists_lines_cons hend s
        rw [hcons] at h
        cases h

/-- Where no three line ends stand side by side, the ends of the text counting as line ends, no two
trimmed lines in a row are blank. -/
theorem isChain_lines {s : List Char} (hlines : HasTrimmedLines s)
    (h : ¬ ['\n', '\n', '\n'] <:+: '\n' :: (s ++ ['\n'])) :
    (lines s).IsChain fun line next => ¬ (line.all isBlank = true ∧ next.all isBlank = true) := by
  have hnil : ∀ line, trim line = line → line.all isBlank = true → line = [] :=
    fun line htrim hblank => htrim.symm.trans (trim_eq_nil hblank)
  induction s using lines_induction with
  | last line hno =>
      rw [lines_of_not_mem hno]
      exact List.isChain_singleton line
  | more line s hno ih =>
      rw [HasTrimmedLines, lines_line hno] at hlines
      obtain ⟨hline, hrest⟩ := List.forall_mem_cons.mp hlines
      rw [lines_line hno, List.isChain_cons]
      refine ⟨?_, ih hrest fun hin => h ?_⟩
      · rintro next hnext ⟨hblank, hblank'⟩
        obtain rfl := hnil line hline hblank
        obtain rfl := hnil next (hrest next (List.mem_of_mem_head? hnext)) hblank'
        obtain ⟨rest, happend⟩ := lineEnd_prefix_of_head_lines hnext
        exact h (List.IsPrefix.isInfix ⟨rest, congrArg (fun t => '\n' :: '\n' :: t) happend⟩)
      · refine hin.trans (List.IsSuffix.isInfix ⟨'\n' :: line, ?_⟩)
        simp

end Receipts.Text
