import Mathlib.Data.List.TakeWhile
import Receipts.Proofs.Text.Scan
import Receipts.Text.Blank

/-!
# Visible characters

The visible characters of a text are those that are not blank, in their order. Trimming leaves them,
and so does a scan that replaces blanks by blanks.
-/

namespace Receipts.Text

/-- The characters of a text that are not blank. -/
def visibleChars (s : List Char) : List Char :=
  s.filter fun c => !isBlank c

theorem visibleChars_append (s t : List Char) :
    visibleChars (s ++ t) = visibleChars s ++ visibleChars t :=
  List.filter_append s t

theorem visibleChars_of_blank {s : List Char} (h : ∀ c ∈ s, isBlank c = true) :
    visibleChars s = [] := by
  rw [visibleChars, List.filter_eq_nil_iff]
  intro c hc
  simp [h c hc]

theorem visibleChars_dropWhile (s : List Char) :
    visibleChars (s.dropWhile isBlank) = visibleChars s := by
  have hblank : ∀ c ∈ s.takeWhile isBlank, isBlank c = true := fun c hc => by
    simpa using List.mem_takeWhile_imp hc
  have hsplit := congrArg visibleChars (List.takeWhile_append_dropWhile (p := isBlank) (l := s))
  rwa [visibleChars_append, visibleChars_of_blank hblank, List.nil_append] at hsplit

theorem visibleChars_reverse (s : List Char) :
    visibleChars s.reverse = (visibleChars s).reverse :=
  List.filter_reverse

theorem visibleChars_trim (s : List Char) : visibleChars (trim s) = visibleChars s := by
  rw [trim, trimEnd, visibleChars_reverse, visibleChars_dropWhile, visibleChars_reverse,
    List.reverse_reverse, trimStart, visibleChars_dropWhile]

theorem all_isBlank_of_trim_eq_nil {s : List Char} (h : trim s = []) :
    ∀ c ∈ s, isBlank c = true := by
  have hnone := visibleChars_trim s
  rw [h, visibleChars, List.filter_nil, eq_comm, visibleChars, List.filter_eq_nil_iff] at hnone
  simpa using hnone

/-- A scan that replaces blanks by blanks leaves the visible characters. -/
theorem visibleChars_replaceHits {α : Type} {recognise : Recogniser α} {image : α → List Char}
    (hspan : ∀ c s a width, recognise (c :: s) = some (a, width) →
      isBlank c = true ∧ ∀ d ∈ s.take (width - 1), isBlank d = true)
    (himage : ∀ a, ∀ c ∈ image a, isBlank c = true) (s : List Char) :
    visibleChars (replaceHits recognise image s) = visibleChars s := by
  induction s using scan_induction recognise with
  | nil => rfl
  | plain c s hplain ih =>
      rw [replaceHits_of_plain image hplain, ← List.singleton_append, visibleChars_append, ih,
        ← visibleChars_append, List.singleton_append]
  | hit c s a width hhit ih =>
      obtain ⟨hc, hskipped⟩ := hspan c s a width hhit
      have hcovered : ∀ d ∈ c :: s.take (width - 1), isBlank d = true :=
        List.forall_mem_cons.mpr ⟨hc, hskipped⟩
      rw [replaceHits_of_hit image hhit, visibleChars_append, visibleChars_of_blank (himage a), ih,
        ← visibleChars_of_blank hcovered, ← visibleChars_append, List.cons_append,
        List.take_append_drop]

end Receipts.Text
