import Receipts.Field
import Receipts.Proofs.Text.Words

/-!
# The kind of a joined name

A name suggests every kind that one of its clues stands for, and is of the one among them that comes
first. Clues have no underscores, so what a name of several words suggests, one of its words does.
The kind of the name is then the one that comes first among the kinds of its words.
-/

namespace Receipts.FieldType

open Text (lower)

/-! ## Precedence -/

/-- The place of a kind in the order of precedence. -/
def rank : FieldType → Nat
  | email => 0
  | date => 1
  | number => 2
  | file => 3
  | text => 4

theorem eq_of_rank_eq {a b : FieldType} (h : a.rank = b.rank) : a = b := by
  cases a <;> cases b <;> first | rfl | cases h

theorem rank_le_rank_text (type : FieldType) : type.rank ≤ text.rank := by
  cases type <;> decide

/-- Whether a kind is the one of highest precedence among several. -/
structure IsLeading (type : FieldType) (types : List FieldType) : Prop where
  mem : type ∈ types
  le : ∀ other ∈ types, type.rank ≤ other.rank

theorem IsLeading.unique {a b : FieldType} {types : List FieldType} (ha : IsLeading a types)
    (hb : IsLeading b types) : a = b :=
  eq_of_rank_eq (Nat.le_antisymm (ha.le b hb.mem) (hb.le a ha.mem))

/-! ## Clues -/

/-- Whether a lowered name suggests a kind. A text needs no clue. -/
def IsSuggestedBy (type : FieldType) (lowered : List Char) : Prop :=
  type = text ∨ ∃ clue ∈ clues, clue.2 = type ∧ ∃ word ∈ clue.1, word.toList <:+: lowered

theorem clues_pairwise : clues.Pairwise fun a b => a.2.rank ≤ b.2.rank := by
  decide

theorem underscore_not_mem_clue : ∀ clue ∈ clues, ∀ word ∈ clue.1, '_' ∉ word.toList := by
  decide

theorem any_occurs_iff {words : List String} {lowered : List Char} :
    (words.any fun word => Text.occurs word.toList lowered) = true
      ↔ ∃ word ∈ words, word.toList <:+: lowered := by
  simp only [List.any_eq_true, Text.occurs_iff]

theorem isSuggestedBy_ofLowered (lowered : List Char) :
    IsSuggestedBy (ofLowered lowered) lowered := by
  rw [ofLowered]
  split
  · rename_i clue hfound
    obtain ⟨hword, -⟩ := List.find?_eq_some_iff_append.mp hfound
    exact .inr ⟨clue, List.mem_of_find?_eq_some hfound, rfl, any_occurs_iff.mp hword⟩
  · exact .inl rfl

/-- The first clue is the one of highest precedence. -/
theorem rank_ofLowered_le {type : FieldType} {lowered : List Char}
    (h : IsSuggestedBy type lowered) : (ofLowered lowered).rank ≤ type.rank := by
  rcases h with rfl | ⟨clue, hclue, rfl, hword⟩
  · exact rank_le_rank_text _
  rw [ofLowered]
  split
  · rename_i first hfound
    obtain ⟨-, before, after, hclues, hbefore⟩ := List.find?_eq_some_iff_append.mp hfound
    -- Clues in front of the first one that occurs do not occur, and those behind it give way to it.
    have hsorted := clues_pairwise
    rw [hclues] at hclue hsorted
    rcases List.mem_append.mp hclue with hm | hm
    · exact absurd (any_occurs_iff.mpr hword) (by simpa using hbefore clue hm)
    · rcases List.mem_cons.mp hm with rfl | hm
      · exact Nat.le_refl _
      · exact (List.pairwise_cons.mp (List.pairwise_append.mp hsorted).2.1).1 clue hm
  · rename_i hnone
    exact absurd (any_occurs_iff.mpr hword) (List.find?_eq_none.mp hnone clue hclue)

theorem isSuggestedBy_classify (name : String) :
    IsSuggestedBy (classify name) (lower name.toList) :=
  isSuggestedBy_ofLowered _

theorem rank_classify_le {type : FieldType} {name : String}
    (h : IsSuggestedBy type (lower name.toList)) : (classify name).rank ≤ type.rank :=
  rank_ofLowered_le h

/-! ## Joined names -/

/-- Names with underscores between them. -/
def joined (names : List String) : String :=
  "_".intercalate names

theorem lower_joined (names : List String) :
    lower (joined names).toList = ['_'].intercalate (names.map fun name => lower name.toList) := by
  rw [joined, String.toList_intercalate]
  exact (Text.lower_intercalate (by decide) _).trans (by rw [List.map_map]; rfl)

/-- A joined name suggests what its parts do. -/
theorem isSuggestedBy_joined_iff {type : FieldType} {names : List String} (hne : names ≠ []) :
    IsSuggestedBy type (lower (joined names).toList)
      ↔ ∃ name ∈ names, IsSuggestedBy type (lower name.toList) := by
  have hstands : ∀ clue ∈ clues, ∀ word ∈ clue.1,
      (word.toList <:+: lower (joined names).toList
        ↔ ∃ name ∈ names, word.toList <:+: lower name.toList) := by
    intro clue hclue word hword
    rw [lower_joined, Text.infix_intercalate_iff (underscore_not_mem_clue clue hclue word hword)
      (by simpa using hne)]
    simp only [List.mem_map, exists_exists_and_eq_and]
  constructor
  · rintro (rfl | ⟨clue, hclue, rfl, word, hword, hin⟩)
    · obtain ⟨name, hname⟩ := List.exists_mem_of_ne_nil names hne
      exact ⟨name, hname, .inl rfl⟩
    · obtain ⟨name, hname, hin⟩ := (hstands clue hclue word hword).mp hin
      exact ⟨name, hname, .inr ⟨clue, hclue, rfl, word, hword, hin⟩⟩
  · rintro ⟨name, hname, rfl | ⟨clue, hclue, rfl, word, hword, hin⟩⟩
    · exact .inl rfl
    · exact .inr ⟨clue, hclue, rfl, word, hword,
        (hstands clue hclue word hword).mpr ⟨name, hname, hin⟩⟩

theorem isLeading_classify_joined {names : List String} (hne : names ≠ []) :
    IsLeading (classify (joined names)) (names.map classify) := by
  have hle : ∀ name ∈ names, (classify (joined names)).rank ≤ (classify name).rank :=
    fun name hname => rank_classify_le
      ((isSuggestedBy_joined_iff hne).mpr ⟨name, hname, isSuggestedBy_classify name⟩)
  obtain ⟨name, hname, hsuggests⟩ :=
    (isSuggestedBy_joined_iff hne).mp (isSuggestedBy_classify (joined names))
  have hsame : classify (joined names) = classify name :=
    eq_of_rank_eq (Nat.le_antisymm (hle name hname) (rank_classify_le hsuggests))
  exact ⟨List.mem_map.mpr ⟨name, hname, hsame.symm⟩, List.forall_mem_map.mpr hle⟩

/-- The kind of names that are joined by underscores is the one of highest precedence among their
kinds. So names joined from other parts are of the same kind just if the same kind leads there. -/
theorem classify_joined {names : List String} (hne : names ≠ []) :
    IsLeading (classify (joined names)) (names.map classify) ∧
    ∀ others : List String, others ≠ [] →
      (classify (joined others) = classify (joined names)
        ↔ IsLeading (classify (joined names)) (others.map classify)) := by
  refine ⟨isLeading_classify_joined hne, fun others hothers => ⟨fun hsame => ?_, fun hleads => ?_⟩⟩
  · rw [← hsame]
    exact isLeading_classify_joined hothers
  · exact (isLeading_classify_joined hothers).unique hleads

/-- Names of different kinds, one of them in Greek capitals and one with an underscore of its
own. -/
def wordNames : List String := ["total", "ΟΔΌΣ", "Updated", "MY_photo"]

theorem classify_joined_wordNames :
    wordNames ≠ [] ∧ IsLeading date (wordNames.map classify) ∧
    classify "total_ΟΔΌΣ_Updated_MY_photo" = date ∧ classify "PHOTO_DATE" = date := by
  have hne : wordNames ≠ [] := by decide
  have hkinds : wordNames.map classify = [number, text, date, file] := by decide +kernel
  have hdate : IsLeading date (wordNames.map classify) := by
    rw [hkinds]
    exact ⟨by decide, by decide⟩
  obtain ⟨hleads, hothers⟩ := classify_joined hne
  have hjoined : classify (joined wordNames) = date := hleads.unique hdate
  have hother : IsLeading date (["PHOTO", "DATE"].map classify) := by
    rw [show ["PHOTO", "DATE"].map classify = [file, date] by decide +kernel]
    exact ⟨by decide, by decide⟩
  have hsame := (hothers ["PHOTO", "DATE"] (by decide)).mpr (hjoined ▸ hother)
  exact ⟨hne, hdate, hjoined, hsame.trans hjoined⟩

end Receipts.FieldType
