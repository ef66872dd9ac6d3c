import Receipts.Text.Pieces

/-!
# Literal search and replacement

Occurrences are taken from the left and never overlap. Inserted text is not
searched again. An empty pattern occurs before every character and at the end.
-/

namespace Receipts.Text

/-- Recognises a fixed text. -/
def literal (p : List Char) : Recogniser Unit := fun s =>
  if p.isPrefixOf s then some ((), p.length) else none

/-- Whether `p` stands somewhere in `s`. -/
def occurs (p : List Char) : List Char → Bool
  | [] => p.isEmpty
  | c :: s => p.isPrefixOf (c :: s) || occurs p s

/-- Every occurrence of `old` gives way to `new`. -/
def replaceAll (old new s : List Char) : List Char :=
  if old.isEmpty then new ++ s.flatMap (fun c => c :: new)
  else replaceHits (literal old) (fun _ => new) s

/-- Every occurrence of `old` in a text gives way to `new`. -/
def replaced (s old new : String) : String :=
  String.ofList (replaceAll old.toList new.toList s.toList)

theorem erase_length_le (p : List Char) (n : Nat) :
    ∀ s : List Char, s.length ≤ n →
      (replaceHits (literal p) (fun _ => []) s).length ≤ s.length := by
  induction n with
  | zero =>
      intro s hs
      have : s = [] := List.length_eq_zero_iff.mp (Nat.le_zero.mp hs)
      simp [this, replaceHits_nil]
  | succ n ih =>
      intro s hs
      cases s with
      | nil => simp [replaceHits_nil]
      | cons c s =>
          have hs' : s.length ≤ n := Nat.le_of_succ_le_succ hs
          cases hr : literal p (c :: s) with
          | none =>
              rw [replaceHits_of_plain _ hr]
              exact Nat.succ_le_succ (ih s hs')
          | some hit =>
              obtain ⟨a, width⟩ := hit
              rw [replaceHits_of_hit _ hr]
              have hdrop : (s.drop (width - 1)).length ≤ s.length := by simp
              have := ih (s.drop (width - 1)) (Nat.le_trans hdrop hs')
              simp only [List.nil_append, List.length_cons]
              omega

theorem erase_length_add_le {p : List Char} (s : List Char) (hne : p ≠ []) :
    occurs p s = true →
      (replaceHits (literal p) (fun _ => []) s).length + p.length ≤ s.length := by
  induction s with
  | nil =>
      intro h
      cases p with
      | nil => exact absurd rfl hne
      | cons c p => simp [occurs] at h
  | cons c s ih =>
      intro h
      by_cases hp : p.isPrefixOf (c :: s) = true
      · have hr : literal p (c :: s) = some ((), p.length) := by simp only [literal, hp, ↓reduceIte]
        have hlength := (List.isPrefixOf_iff_prefix.mp hp).length_le
        have hpos := List.length_pos_iff.mpr hne
        have := erase_length_le p _ (s.drop (p.length - 1)) (Nat.le_refl _)
        rw [replaceHits_of_hit _ hr]
        simp only [List.nil_append, List.length_cons, List.length_drop] at hlength this ⊢
        omega
      · have hr : literal p (c :: s) = none := by simp only [literal, hp]; rfl
        have hrest : occurs p s = true := by
          simp only [occurs, Bool.or_eq_true] at h
          exact h.resolve_left hp
        have := ih hrest
        rw [replaceHits_of_plain _ hr, List.length_cons, List.length_cons]
        omega

/-- Removing something that occurs makes a text shorter by its length at least. -/
theorem length_replaceAll_nil_add_le {old s : List Char} (hne : old ≠ [])
    (h : occurs old s = true) : (replaceAll old [] s).length + old.length ≤ s.length := by
  have hfalse : old.isEmpty = false := by simp [hne]
  simpa [replaceAll, hfalse] using erase_length_add_le s hne h

theorem replaceAll_nil_length_lt {old s : List Char} (hne : old ≠ []) (h : occurs old s = true) :
    (replaceAll old [] s).length < s.length := by
  have hlength := length_replaceAll_nil_add_le hne h
  have hpos := List.length_pos_iff.mpr hne
  omega

end Receipts.Text
