import Mathlib.Data.List.Basic
import Receipts.Proofs.FormValues.Saving

/-!
# Filling in and reporting gaps

Merging takes over a value for a key that has no entry, while a form reports a field whose value is
blank as missing too. The two agree on every field but one that has a blank value here and a visible
one in the values that are merged in: it is not filled in and stays reported. Such an entry is what
an empty input leaves, and what null is loaded as.
-/

namespace Receipts

/-- What is left out of a selection shows, whatever is read off the items: the selection without it
is shorter. -/
theorem map_filter_or_eq_iff {α β : Type} (f : α → β) {p r : α → Bool} {items : List α}
    (h : ∀ a, r a = true → p a = false) :
    (items.filter fun a => p a || r a).map f = (items.filter p).map f
      ↔ ∀ a ∈ items, r a = false := by
  constructor
  · intro hsame a ha
    by_contra hr
    rw [Bool.not_eq_false] at hr
    have hsub : (items.filter p).Sublist (items.filter fun a => p a || r a) :=
      List.monotone_filter_right items fun a hp => by simp [hp]
    have hlength := congrArg List.length hsame
    rw [List.length_map, List.length_map] at hlength
    have hleft : a ∈ items.filter fun a => p a || r a := by simp [ha, hr]
    rw [← hsub.eq_of_length hlength.symm, List.mem_filter, h a hr] at hleft
    exact Bool.false_ne_true hleft.2
  · intro hnone
    rw [List.filter_congr fun a ha => by rw [hnone a ha, Bool.or_false]]

namespace FormValues

theorem get?_mergeMissing (values other : FormValues) (key : String) :
    (values.mergeMissing other).get? key = (values.get? key).or (other.get? key) := by
  -- Each entry is offered to what the entries before it have made of the values.
  have hfold : ∀ (entries : List (String × String)) (merged : FormValues),
      (entries.foldl (fun merged pair =>
          if merged.contains pair.1 then merged else merged.insert pair.1 pair.2) merged).get? key
        = (merged.get? key).or (entries.lookup key) := by
    intro entries
    induction entries with
    | nil => exact fun merged => Option.or_none.symm
    | cons entry entries ih =>
        intro merged
        rw [List.foldl_cons, ih, get?_takeOver, Option.or_assoc, lookup_cons_eq_ite]
        by_cases hkey : entry.1 = key
        · rw [if_pos hkey, if_pos hkey.symm, Option.some_or]
        · rw [if_neg hkey, if_neg fun h => hkey h.symm, Option.none_or]
  exact hfold other.entries values

theorem lacks_eq (values : FormValues) (field : Field) :
    values.lacks field = (values.get? field.key).all Text.blank := by
  rw [lacks]
  cases values.get? field.key <;> rfl

theorem lacks_mergeMissing (values other : FormValues) (field : Field) :
    (values.mergeMissing other).lacks field
      = (values.lacks field && (values.contains field.key || other.lacks field)) := by
  rw [lacks_eq, lacks_eq, lacks_eq, get?_mergeMissing, contains]
  cases values.get? field.key <;> simp

/-- The required keys of a form that two sets of values both lack, in field order. -/
def missingFromBoth (values other : FormValues) (form : Form) : List String :=
  (form.fields.filter fun field =>
    field.required && (values.lacks field && other.lacks field)).map Field.key

/-- Whether merging leaves a required field open that it could fill in: the field has a blank value
here and a visible one in the other values. -/
def leavesOpen (values other : FormValues) (field : Field) : Bool :=
  field.required && (values.contains field.key && values.lacks field && !other.lacks field)

theorem reported_mergeMissing (values other : FormValues) (field : Field) :
    (field.required && (values.mergeMissing other).lacks field)
      = (field.required && (values.lacks field && other.lacks field)
          || values.leavesOpen other field) := by
  rw [lacks_mergeMissing, leavesOpen]
  cases field.required <;> cases values.lacks field <;> cases values.contains field.key <;> simp

theorem missing_mergeMissing_eq_iff (values other : FormValues) (form : Form) :
    (values.mergeMissing other).missing form = values.missingFromBoth other form
      ↔ ∀ field ∈ form.fields, values.leavesOpen other field = false := by
  rw [missing, missingFromBoth, funext (reported_mergeMissing values other)]
  refine map_filter_or_eq_iff Field.key fun field hopen => ?_
  simp only [leavesOpen, Bool.and_eq_true, Bool.not_eq_true'] at hopen
  simp [hopen.2.2]

/-- A required field is reported after merging if it was before and either has a blank value here,
which merging keeps, or has no visible value in the other values. So what is reported is what both
lack, unless a field has a blank value here and a visible one there. -/
theorem missing_mergeMissing (values other : FormValues) (form : Form) :
    ((values.mergeMissing other).missing form
      = (form.fields.filter fun field => field.required &&
          (values.lacks field && (values.contains field.key || other.lacks field))).map Field.key) ∧
    ((values.mergeMissing other).missing form = values.missingFromBoth other form
      ↔ ∀ field ∈ form.fields, values.leavesOpen other field = false) := by
  refine ⟨?_, missing_mergeMissing_eq_iff values other form⟩
  simp only [missing, lacks_mergeMissing]

/-- Values of which null was loaded. -/
def nulledValues : FormValues where
  entries := [("A", "")]

/-- What a field is loaded with from null is kept by merging, so the field stays reported though
the other values have a value for it. -/
theorem not_forall_missing_mergeMissing :
    format.ofText "\x7b\"A\":null\x7d" = .ok nulledValues ∧
    ¬ ∀ (values other : FormValues) (form : Form),
      (values.mergeMissing other).missing form = values.missingFromBoth other form := by
  refine ⟨?_, fun h => ?_⟩
  · have hparse : Json.parse (.ofString "\x7b\"A\":null\x7d") = .ok (.object [("A", .null)]) := by
      rfl
    exact ofText_of_parse hparse
  · have hsame := h nulledValues ⟨[("A", "Ana")], by simp⟩ ⟨[Field.ofPlaceholder "A"], []⟩
    exact absurd hsame (by decide +kernel)

end FormValues

end Receipts
