import Receipts.PlainText
import Receipts.Proofs.Text.Visible

/-!
# Normal blanks and visible characters

Bringing the blanks of a text into normal form replaces runs of blanks by blanks and drops blanks at
the ends of lines, so the visible characters stay, in their order. What the blanks become is not
said here.
-/

namespace Receipts.PlainText

open Text (isBlank visibleChars)

theorem holds_of_mem_take {p : Char → Bool} {s : List Char} {n : Nat}
    (hn : n ≤ (s.takeWhile p).length) {c : Char} (hc : c ∈ s.take n) : p c = true := by
  have hin : s.take n <+: s.takeWhile p :=
    List.prefix_of_prefix_length_le (List.take_prefix n s) (List.takeWhile_prefix p)
      ((List.length_take_le n s).trans hn)
  exact List.mem_takeWhile_imp (hin.subset hc)

theorem isBlank_of_spaces {c : Char} {s : List Char} {a : Unit} {width : Nat}
    (h : spaces (c :: s) = some (a, width)) :
    isBlank c = true ∧ ∀ d ∈ s.take (width - 1), isBlank d = true := by
  have hspace : ∀ d : Char, (d == ' ' || d == '\t') = true → isBlank d = true := by
    intro d hd
    rcases (by simpa using hd : d = ' ' ∨ d = '\t') with rfl | rfl <;> decide
  rw [spaces] at h
  split at h
  · cases h
  · rename_i hrun
    obtain rfl : _ = width := congrArg Prod.snd (Option.some.inj h)
    cases hc : (c == ' ' || c == '\t') with
    | false => simp [hc] at hrun
    | true =>
        have hlength : ((c :: s).takeWhile fun d => d == ' ' || d == '\t').length
            = (s.takeWhile fun d => d == ' ' || d == '\t').length + 1 := by
          simp [hc]
        refine ⟨hspace c hc, fun d hd => hspace d ?_⟩
        rw [hlength, Nat.add_sub_cancel] at hd
        exact holds_of_mem_take (Nat.le_refl _) hd

theorem isBlank_of_blankLines {c : Char} {s : List Char} {a : Unit} {width : Nat}
    (h : blankLines (c :: s) = some (a, width)) :
    isBlank c = true ∧ ∀ d ∈ s.take (width - 1), isBlank d = true := by
  unfold blankLines at h
  split at h
  · rename_i s hcs
    obtain ⟨rfl, rfl⟩ : c = '\n' ∧ _ = s := by simpa using hcs
    simp only at h
    split at h
    · cases h
    · obtain rfl : _ = width := congrArg Prod.snd (Option.some.inj h)
      refine ⟨by decide, fun d hd => ?_⟩
      -- What is taken ends at the last line end of the blanks, if not before.
      have hle := (List.dropWhile_suffix (· != '\n') (l := (s.takeWhile isBlank).reverse)).length_le
      rw [Nat.add_sub_cancel, throughLastLineEnd] at hd
      rw [List.length_reverse] at hle
      exact holds_of_mem_take hle hd
  · cases h

theorem visibleChars_intercalate (lines : List (List Char)) :
    visibleChars (['\n'].intercalate lines) = lines.flatMap visibleChars := by
  induction lines with
  | nil => rfl
  | cons line lines ih =>
      cases lines with
      | nil => rw [List.intercalate_singleton, List.flatMap_singleton]
      | cons next lines =>
          have hlineEnd : visibleChars ['\n'] = [] := rfl
          rw [List.intercalate_cons_cons, Text.visibleChars_append, Text.visibleChars_append,
            hlineEnd, List.append_nil, ih]
          rfl

theorem visibleChars_normalBlanks (s : List Char) :
    visibleChars (normalBlanks s) = visibleChars s := by
  have hlines : ∀ joined : List Char,
      ((List.splitOn '\n' joined).map Text.trim).flatMap visibleChars = visibleChars joined := by
    intro joined
    rw [List.flatMap_map]
    simp only [Text.visibleChars_trim]
    rw [← visibleChars_intercalate, List.intercalate_splitOn]
  have hlineEnds : ∀ c ∈ ['\n', '\n'], isBlank c = true := List.all_eq_true.mp (by decide)
  have hspace : ∀ c ∈ [' '], isBlank c = true := List.all_eq_true.mp (by decide)
  rw [normalBlanks, Text.visibleChars_trim, visibleChars_intercalate, hlines,
    Text.visibleChars_replaceHits (fun _ _ _ _ => isBlank_of_blankLines) fun _ => hlineEnds,
    Text.visibleChars_replaceHits (fun _ _ _ _ => isBlank_of_spaces) fun _ => hspace]

end Receipts.PlainText
