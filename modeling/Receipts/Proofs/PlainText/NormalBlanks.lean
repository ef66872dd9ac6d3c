import Receipts.Proofs.Mail.Composing
import Receipts.Proofs.PlainText.Blanks
import Receipts.Proofs.Text.Lines

/-!
# The normal form of blanks

The steps that bring the blanks of a text into normal form do not undo each other. Runs of spaces
become single ones, and what comes later puts line ends in or takes blanks away at the ends of
lines, so within a line nothing new stands side by side. Gaps between lines keep at most two line
ends, which is counted over all blanks of a gap, since trimming the lines brings its line ends
together.
-/

namespace Receipts.PlainText

open Text (isBlank lines trim trimLines gapAhead replaceHits HasTrimmedLines)

/-! ## Runs of spaces -/

/-- A character of a run of spaces. -/
def isSpace (c : Char) : Bool :=
  c == ' ' || c == '\t'

theorem spaces_eq (s : List Char) : spaces s =
    if (s.takeWhile isSpace).isEmpty then none else some ((), (s.takeWhile isSpace).length) := rfl

theorem spaces_eq_none_iff {c : Char} {s : List Char} :
    spaces (c :: s) = none ↔ isSpace c = false := by
  rw [spaces_eq, List.takeWhile_cons]
  cases isSpace c <;> simp

/-- A run of spaces goes as far as there are spaces and tabs. -/
theorem drop_of_spaces {c : Char} {s : List Char} {a : Unit} {width : Nat}
    (h : spaces (c :: s) = some (a, width)) : s.drop (width - 1) = s.dropWhile isSpace := by
  have hc : isSpace c = true := by
    by_contra hc
    rw [Bool.not_eq_true, ← spaces_eq_none_iff (s := s)] at hc
    rw [h] at hc
    cases hc
  rw [spaces_eq, List.takeWhile_cons_of_pos hc, if_neg (by simp)] at h
  have hwidth : (s.takeWhile isSpace).length + 1 = width := congrArg Prod.snd (Option.some.inj h)
  have hsplit := List.takeWhile_append_dropWhile (p := isSpace) (l := s)
  calc s.drop (width - 1)
      = (s.takeWhile isSpace ++ s.dropWhile isSpace).drop (s.takeWhile isSpace).length := by
        rw [hsplit, ← hwidth, Nat.add_sub_cancel]
    _ = s.dropWhile isSpace := List.drop_left

/-- The text with each run of spaces as one space. -/
def singleSpaces (s : List Char) : List Char :=
  replaceHits spaces (fun _ => [' ']) s

theorem space_not_prefix_singleSpaces {s : List Char} (h : ∀ c ∈ s.head?, isSpace c = false) :
    ¬ [' '] <+: singleSpaces s := by
  cases s with
  | nil => simp [singleSpaces, Text.replaceHits_nil]
  | cons c s =>
      have hc : isSpace c = false := h c rfl
      rw [singleSpaces, Text.replaceHits_of_plain _ (spaces_eq_none_iff.mpr hc),
        List.cons_prefix_cons]
      rintro ⟨rfl, -⟩
      cases hc

theorem tab_not_mem_singleSpaces (s : List Char) : '\t' ∉ singleSpaces s := by
  induction s using Text.scan_induction spaces with
  | nil => exact List.not_mem_nil
  | plain c s hplain ih =>
      have hc := spaces_eq_none_iff.mp hplain
      rw [singleSpaces, Text.replaceHits_of_plain _ hplain, List.mem_cons, not_or]
      refine ⟨fun htab => ?_, ih⟩
      rw [← htab] at hc
      cases hc
  | hit c s a width hhit ih =>
      rw [singleSpaces, Text.replaceHits_of_hit _ hhit, List.singleton_append, List.mem_cons,
        not_or]
      exact ⟨by decide, ih⟩

theorem two_spaces_not_infix_singleSpaces (s : List Char) : ¬ [' ', ' '] <:+: singleSpaces s := by
  induction s using Text.scan_induction spaces with
  | nil => simp [singleSpaces, Text.replaceHits_nil]
  | plain c s hplain ih =>
      have hc := spaces_eq_none_iff.mp hplain
      rw [singleSpaces, Text.replaceHits_of_plain _ hplain, List.infix_cons_iff, not_or,
        List.cons_prefix_cons]
      refine ⟨fun h => ?_, ih⟩
      rw [← h.1] at hc
      cases hc
  | hit c s a width hhit ih =>
      have hfirst := List.head?_dropWhile_not isSpace s
      rw [← drop_of_spaces hhit] at hfirst
      rw [singleSpaces, Text.replaceHits_of_hit _ hhit, List.singleton_append, List.infix_cons_iff,
        not_or, List.cons_prefix_cons]
      refine ⟨fun h => space_not_prefix_singleSpaces ?_ h.2, ih⟩
      intro d hd
      rw [Option.mem_def.mp hd] at hfirst
      exact hfirst

/-! ## Gaps between lines -/

theorem lineEnd_not_mem_drop (s : List Char) : '\n' ∉ s.drop (throughLastLineEnd s) := by
  have hsplit := congrArg List.reverse
    (List.takeWhile_append_dropWhile (p := (· != '\n')) (l := s.reverse))
  rw [List.reverse_append, List.reverse_reverse] at hsplit
  have hwidth : throughLastLineEnd s = (s.reverse.dropWhile (· != '\n')).reverse.length :=
    List.length_reverse.symm
  have hdrop : s.drop (throughLastLineEnd s) = (s.reverse.takeWhile (· != '\n')).reverse :=
    calc s.drop (throughLastLineEnd s)
        = ((s.reverse.dropWhile (· != '\n')).reverse ++
            (s.reverse.takeWhile (· != '\n')).reverse).drop (throughLastLineEnd s) := by
          rw [hsplit]
      _ = (s.reverse.takeWhile (· != '\n')).reverse := by rw [hwidth, List.drop_left]
  rw [hdrop, List.mem_reverse]
  intro hm
  simpa using List.mem_takeWhile_imp hm

/-- Behind the last line end of a gap there is none up to the next visible character. -/
theorem gapAhead_drop (s : List Char) :
    gapAhead (s.drop (throughLastLineEnd (s.takeWhile isBlank))) = 0 := by
  have hle : throughLastLineEnd (s.takeWhile isBlank) ≤ (s.takeWhile isBlank).length := by
    have hle := (List.dropWhile_suffix (· != '\n') (l := (s.takeWhile isBlank).reverse)).length_le
    rwa [List.length_reverse] at hle
  have hrest : (s.dropWhile isBlank).takeWhile isBlank = [] := by
    rw [List.takeWhile_eq_nil_iff]
    intro hpos
    exact List.dropWhile_get_zero_not isBlank s hpos
  have hblank : ∀ c ∈ (s.takeWhile isBlank).drop (throughLastLineEnd (s.takeWhile isBlank)),
      isBlank c = true := fun c hc => List.mem_takeWhile_imp (List.mem_of_mem_drop hc)
  have hdrop : s.drop (throughLastLineEnd (s.takeWhile isBlank))
      = (s.takeWhile isBlank).drop (throughLastLineEnd (s.takeWhile isBlank))
        ++ s.dropWhile isBlank := by
    rw [← List.drop_append_of_le_length hle, List.takeWhile_append_dropWhile]
  rw [hdrop, gapAhead, List.takeWhile_append_of_pos hblank, hrest, List.append_nil,
    List.count_eq_zero]
  exact lineEnd_not_mem_drop _

theorem blankLines_lineEnd (s : List Char) : blankLines ('\n' :: s) =
    if throughLastLineEnd (s.takeWhile isBlank) = 0 then none
    else some ((), throughLastLineEnd (s.takeWhile isBlank) + 1) := rfl

theorem blankLines_of_ne {c : Char} (hc : c ≠ '\n') (s : List Char) :
    blankLines (c :: s) = none := by
  unfold blankLines
  split
  · rename_i hcs
    exact absurd (List.cons.inj hcs).1 hc
  · rfl

theorem gapAhead_of_blankLines_none {s : List Char} (h : blankLines ('\n' :: s) = none) :
    gapAhead s = 0 := by
  rw [blankLines_lineEnd] at h
  split at h
  · rename_i hzero
    have hgap := gapAhead_drop s
    rwa [hzero, List.drop_zero] at hgap
  · cases h

theorem gapAhead_of_blankLines_some {c : Char} {s : List Char} {a : Unit} {width : Nat}
    (h : blankLines (c :: s) = some (a, width)) : gapAhead (s.drop (width - 1)) = 0 := by
  by_cases hc : c = '\n'
  · rw [hc, blankLines_lineEnd] at h
    split at h
    · cases h
    · obtain rfl : _ = width := congrArg Prod.snd (Option.some.inj h)
      rw [Nat.add_sub_cancel]
      exact gapAhead_drop s
  · rw [blankLines_of_ne hc] at h
    cases h

/-- The text with each gap of more than one line end as two line ends. -/
def narrowGaps (s : List Char) : List Char :=
  replaceHits blankLines (fun _ => ['\n', '\n']) s

theorem gapAhead_narrowGaps {s : List Char} (h : gapAhead s = 0) : gapAhead (narrowGaps s) = 0 := by
  induction s with
  | nil => rfl
  | cons c s ih =>
      have hc : c ≠ '\n' := by
        rintro rfl
        rw [Text.gapAhead_lineEnd] at h
        cases h
      rw [Text.gapAhead_cons_of_ne hc] at h
      rw [narrowGaps, Text.replaceHits_of_plain _ (blankLines_of_ne hc s),
        Text.gapAhead_cons_of_ne hc]
      split
      · rename_i hblank
        rw [if_pos hblank] at h
        exact ih h
      · rfl

/-- No gap of the text is left with more than two line ends. -/
theorem gapAhead_le_of_suffix_narrowGaps {s t : List Char} (h : t <:+ narrowGaps s) :
    gapAhead t ≤ 2 := by
  induction s using Text.scan_induction blankLines generalizing t with
  | nil =>
      rw [narrowGaps, Text.replaceHits_nil, List.suffix_nil] at h
      rw [h]
      exact Nat.zero_le _
  | plain c s hplain ih =>
      rw [narrowGaps, Text.replaceHits_of_plain _ hplain, List.suffix_cons_iff] at h
      rcases h with rfl | h
      · by_cases hc : c = '\n'
        · rw [hc] at hplain ⊢
          have hzero := gapAhead_narrowGaps (gapAhead_of_blankLines_none hplain)
          rw [narrowGaps] at hzero
          rw [Text.gapAhead_lineEnd]
          omega
        · have hle := ih List.suffix_rfl
          rw [Text.gapAhead_cons_of_ne hc]
          split
          · exact hle
          · omega
      · exact ih h
  | hit c s a width hhit ih =>
      have hzero := gapAhead_narrowGaps (gapAhead_of_blankLines_some hhit)
      rw [narrowGaps] at hzero
      rw [narrowGaps, Text.replaceHits_of_hit _ hhit, List.cons_append, List.singleton_append,
        List.suffix_cons_iff, List.suffix_cons_iff] at h
      rcases h with rfl | rfl | h
      · rw [Text.gapAhead_lineEnd, Text.gapAhead_lineEnd]
        omega
      · rw [Text.gapAhead_lineEnd]
        omega
      · exact ih h

/-! ## The normal form -/

/-- A text whose blanks are in normal form. -/
structure HasNormalBlanks (s : List Char) : Prop where
  trimmed : trim s = s
  lines_trimmed : HasTrimmedLines s
  no_tab : '\t' ∉ s
  no_two_spaces : ¬ [' ', ' '] <:+: s
  no_three_line_ends : ¬ ['\n', '\n', '\n'] <:+: s
  no_two_blank_lines :
    (lines s).IsChain fun line next => ¬ (line.all isBlank = true ∧ next.all isBlank = true)

theorem normalBlanks_eq (s : List Char) :
    normalBlanks s = trim (trimLines (narrowGaps (singleSpaces s))) := rfl

/-- A stretch within a line of the result stood in the text with single spaces. -/
theorem infix_of_infix_normalBlanks {w s : List Char} (hw : '\n' ∉ w) (h : w <:+: normalBlanks s) :
    w <:+: singleSpaces s := by
  rw [normalBlanks_eq] at h
  have hlines : w <:+: narrowGaps (singleSpaces s) :=
    Text.infix_of_infix_trimLines hw (h.trans (Text.trim_infix_self _))
  refine Text.infix_of_infix_replaceHits (fun _ => List.cons_ne_nil _ _) ?_ hlines
  intro _ c hc
  obtain rfl : c = '\n' := by simpa using hc
  exact hw

theorem lineEnds_not_infix_normalBlanks (s : List Char) :
    ¬ ['\n', '\n', '\n'] <:+: normalBlanks s := by
  intro h
  have hlines : List.replicate 3 '\n' <:+: trimLines (narrowGaps (singleSpaces s)) :=
    h.trans (Text.trim_infix_self _)
  obtain ⟨t, ht, hthree⟩ := Text.exists_gapAhead_of_infix_trimLines hlines
  have htwo := gapAhead_le_of_suffix_narrowGaps ht
  omega

/-- The ends of a trimmed text make no run of line ends longer. -/
theorem lineEnds_not_infix_around {s : List Char} (htrim : trim s = s)
    (h : ¬ ['\n', '\n', '\n'] <:+: s) : ¬ ['\n', '\n', '\n'] <:+: '\n' :: (s ++ ['\n']) := by
  cases s with
  | nil => decide
  | cons c s =>
      have hfirst : '\n' ≠ c := by
        rintro rfl
        cases Text.isBlank_head_of_trim_eq htrim
      have hlast : ¬ ['\n', '\n'] <:+ c :: s := by
        intro hsuffix
        obtain ⟨rest, hrest⟩ := List.reverse_prefix.mpr hsuffix
        have hreverse := Text.trim_reverse_eq_self_iff.mpr htrim
        rw [← hrest] at hreverse
        cases Text.isBlank_head_of_trim_eq hreverse
      intro hin
      rcases List.infix_cons_iff.mp hin with hin | hin
      · exact hfirst (List.cons_prefix_cons.mp (List.cons_prefix_cons.mp hin).2).1
      · rcases List.infix_concat_iff.mp hin with hin | hin
        · rcases List.suffix_concat_iff.mp hin with hnil | ⟨t, ht, hsuffix⟩
          · cases hnil
          · obtain rfl : ['\n', '\n'] = t := List.append_cancel_right ht
            exact hlast hsuffix
        · exact h hin

/-- Whatever a text is, its blanks come out in normal form. -/
theorem hasNormalBlanks_normalBlanks (s : List Char) : HasNormalBlanks (normalBlanks s) := by
  have htrim : trim (normalBlanks s) = normalBlanks s := by
    rw [normalBlanks_eq, Text.trim_trim]
  have hlines : HasTrimmedLines (normalBlanks s) :=
    Text.hasTrimmedLines_trim (Text.hasTrimmedLines_trimLines _)
  have hthree := lineEnds_not_infix_normalBlanks s
  constructor
  · exact htrim
  · exact hlines
  · intro htab
    have hin : ['\t'] <:+: singleSpaces s := infix_of_infix_normalBlanks (by decide)
      ((List.singleton_infix_iff _ _).mpr htab)
    exact tab_not_mem_singleSpaces s ((List.singleton_infix_iff _ _).mp hin)
  · intro htwo
    exact two_spaces_not_infix_singleSpaces s (infix_of_infix_normalBlanks (by decide) htwo)
  · exact hthree
  · exact Text.isChain_lines hlines (lineEnds_not_infix_around htrim hthree)

/-! ## The text part of an email -/

theorem HasNormalBlanks.blank_iff {s : String} (h : HasNormalBlanks s.toList) :
    Text.blank s = true ↔ s = "" := by
  rw [Text.blank, ← String.toList_eq_nil_iff]
  constructor
  · intro hblank
    exact h.trimmed.symm.trans (Text.trim_eq_nil hblank)
  · intro hnil
    rw [hnil, List.all_nil]

/-- The text alternative of a document has its blanks in normal form, and an email has just this
text, as far as there is any. -/
theorem hasNormalBlanks_ofHtml (html : String) : HasNormalBlanks (ofHtml html).toList ∧
    ∀ (request : SendRequest) (configured : Sender) (email : Email), request.html = html →
      request.email configured = .ok email →
      email.text = if ofHtml html = "" then none else some (ofHtml html) := by
  have hnormal : HasNormalBlanks (ofHtml html).toList := by
    rw [ofHtml, String.toList_ofList]
    exact hasNormalBlanks_normalBlanks _
  refine ⟨hnormal, ?_⟩
  rintro request configured email rfl hemail
  obtain ⟨-, -, rfl⟩ := SendRequest.email_eq_ok_iff.mp hemail
  simp only [SendRequest.composed, hnormal.blank_iff]

/-- A request whose document is full of blanks: decoded ones, tabs, carriage returns and lines that
become blank when their tags go. -/
def spacedRequest : SendRequest where
  recipient := "ana@example.com"
  subject := "Your receipt"
  html := "&nbsp;<p>Fish&nbsp; \t&amp;  Chips </p>\r\n \u2003<br>\n<td></td>\n$5\n<p></p>"

theorem hasNormalBlanks_ofHtml_spacedRequest :
    ∃ email, spacedRequest.email ⟨"receipts@example.com", none⟩ = .ok email ∧
      HasNormalBlanks (ofHtml spacedRequest.html).toList ∧
      ofHtml spacedRequest.html = "Fish & Chips\n\n$5" ∧
      email.text = some "Fish & Chips\n\n$5" := by
  obtain ⟨hnormal, hpart⟩ := hasNormalBlanks_ofHtml spacedRequest.html
  have hemail : spacedRequest.email ⟨"receipts@example.com", none⟩
      = .ok (spacedRequest.composed ⟨"receipts@example.com", none⟩) :=
    SendRequest.email_eq_ok_iff.mpr ⟨by decide +kernel, by decide +kernel, rfl⟩
  have htext : ofHtml spacedRequest.html = "Fish & Chips\n\n$5" := by decide +kernel
  have hnonempty : ofHtml spacedRequest.html ≠ "" := by rw [htext]; decide
  refine ⟨_, hemail, hnormal, htext, ?_⟩
  rw [hpart _ _ _ rfl hemail, if_neg hnonempty, htext]

end Receipts.PlainText
