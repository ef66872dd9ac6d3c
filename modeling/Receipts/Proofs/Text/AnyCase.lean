import Mathlib.Data.List.Forall2
import Mathlib.Data.List.Infix
import Receipts.Text.AnyCase

/-!
# Spellings of a word

A lower-case word is matched by its spellings, which are the texts of its length that have each
letter in one of its cases: a word is read off exactly where a spelling of it stands in front.
-/

namespace Receipts.Text

/-- Whether a text is a lower-case word in some letter case. -/
def Spells (word s : List Char) : Prop :=
  List.Forall₂ (fun letter c => isCaseOf letter c = true) word s

theorem spells_self (word : List Char) : Spells word word :=
  List.forall₂_same.mpr fun letter _ => by simp [isCaseOf]

theorem afterWord?_append {word spelled : List Char} (h : Spells word spelled) (rest : List Char) :
    afterWord? word (spelled ++ rest) = some rest := by
  induction h with
  | nil => rfl
  | cons hcase _ ih => rw [List.cons_append, afterWord?, if_pos hcase, ih]

theorem exists_spelled {word s rest : List Char} (h : afterWord? word s = some rest) :
    ∃ spelled, Spells word spelled ∧ s = spelled ++ rest := by
  induction word generalizing s with
  | nil => exact ⟨[], .nil, Option.some.inj h⟩
  | cons letter word ih =>
      cases s with
      | nil => cases h
      | cons c s =>
          rw [afterWord?] at h
          split at h
          · rename_i hcase
            obtain ⟨spelled, hspelled, rfl⟩ := ih h
            exact ⟨c :: spelled, .cons hcase hspelled, rfl⟩
          · cases h

theorem afterWord?_eq_some_iff {word s rest : List Char} :
    afterWord? word s = some rest ↔ ∃ spelled, Spells word spelled ∧ s = spelled ++ rest := by
  constructor
  · exact exists_spelled
  · rintro ⟨spelled, hspelled, rfl⟩
    exact afterWord?_append hspelled rest

theorem not_mem_of_spells {word spelled : List Char} {c : Char} (h : Spells word spelled)
    (hword : ∀ letter ∈ word, isCaseOf letter c = false) : c ∉ spelled := by
  induction h with
  | nil => exact List.not_mem_nil
  | cons hcase _ ih =>
      obtain ⟨hhere, hrest⟩ := List.forall_mem_cons.mp hword
      rw [List.mem_cons, not_or]
      refine ⟨?_, ih hrest⟩
      rintro rfl
      rw [hhere] at hcase
      cases hcase

/-- Whether a lower-case word stands somewhere in a text, in some letter case. -/
def OccursInAnyCase (word s : List Char) : Prop :=
  ∃ spelled, Spells word spelled ∧ spelled <:+: s

theorem OccursInAnyCase.of_infix {word s t : List Char} (h : OccursInAnyCase word s)
    (hin : s <:+: t) : OccursInAnyCase word t := by
  obtain ⟨spelled, hspelled, hs⟩ := h
  exact ⟨spelled, hspelled, hs.trans hin⟩

instance (word s : List Char) : Decidable (OccursInAnyCase word s) :=
  decidable_of_iff (s.tails.any fun t => (afterWord? word t).isSome) (by
    simp only [List.any_eq_true, List.mem_tails, Option.isSome_iff_exists, afterWord?_eq_some_iff]
    constructor
    · rintro ⟨t, hsuffix, rest, spelled, hspelled, rfl⟩
      exact ⟨spelled, hspelled, (List.prefix_append _ _).isInfix.trans hsuffix.isInfix⟩
    · rintro ⟨spelled, hspelled, before, after, rfl⟩
      exact ⟨spelled ++ after, ⟨before, by simp⟩, after, spelled, hspelled, rfl⟩)

end Receipts.Text
