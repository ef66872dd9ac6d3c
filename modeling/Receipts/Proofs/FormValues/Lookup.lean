import Receipts.FormValues
import Receipts.Proofs.KeyOrder

/-!
# Looking values up

The entries of a set of values are told by what lookup finds: a key has at most one entry, and two
sets of values in which every key has the same value are equal.
-/

namespace Receipts

namespace FormValues

variable {values other : FormValues} {key value : String}

theorem get?_eq_some_iff : values.get? key = some value ↔ (key, value) ∈ values.entries :=
  lookup_eq_some_iff_mem values.ascending

theorem forall_get?_iff {P : String → String → Prop} :
    (∀ key value, values.get? key = some value → P key value)
      ↔ ∀ entry ∈ values.entries, P entry.1 entry.2 :=
  ⟨fun h entry hm => h entry.1 entry.2 (get?_eq_some_iff.mpr hm),
    fun h key value hget => h (key, value) (get?_eq_some_iff.mp hget)⟩

theorem get?_empty (key : String) : empty.get? key = none := rfl

theorem get?_insert (values : FormValues) (key value k : String) :
    (values.insert key value).get? k = if k = key then some value else values.get? k :=
  lookup_place key value values.entries k

theorem contains_iff_exists :
    values.contains key = true ↔ ∃ value, values.get? key = some value := by
  rw [contains, Option.isSome_iff_exists]

theorem contains_iff_mem_keys : values.contains key = true ↔ key ∈ values.keys := by
  rw [contains_iff_exists, keys, List.mem_map]
  constructor
  · rintro ⟨value, h⟩
    exact ⟨(key, value), get?_eq_some_iff.mp h, rfl⟩
  · rintro ⟨⟨k, value⟩, hm, rfl⟩
    exact ⟨value, get?_eq_some_iff.mpr hm⟩

/-- A value that is taken over for a new key only. -/
theorem get?_takeOver (values : FormValues) (key value k : String) :
    (if values.contains key then values else values.insert key value).get? k
      = (values.get? k).or (if key = k then some value else none) := by
  by_cases hcontains : values.contains key = true
  · obtain ⟨old, hold⟩ := contains_iff_exists.mp hcontains
    rw [if_pos hcontains]
    by_cases hkey : key = k
    · rw [← hkey, hold, Option.some_or]
    · rw [if_neg hkey, Option.or_none]
  · rw [if_neg hcontains, get?_insert]
    by_cases hkey : key = k
    · have hnone : values.get? k = none := by
        rwa [contains, Bool.not_eq_true, Option.isSome_eq_false_iff, Option.isNone_iff_eq_none,
          hkey] at hcontains
      rw [if_pos hkey.symm, if_pos hkey, hnone, Option.none_or]
    · rw [if_neg fun h => hkey h.symm, if_neg hkey, Option.or_none]

theorem entries_insert_of_new {key : String} (value : String) (h : values.contains key = false) :
    ∃ before after, values.entries = before ++ after ∧
      (values.insert key value).entries = before ++ (key, value) :: after := by
  refine place_eq_append value ?_
  rintro ⟨k, v⟩ hm rfl
  have hfound := contains_iff_exists.mpr ⟨v, get?_eq_some_iff.mpr hm⟩
  rw [h] at hfound
  cases hfound

/-- The characters of the value of a name, none if it has no value. -/
def image (values : FormValues) (name : List Char) : List Char :=
  ((values.get? (String.ofList name)).getD "").toList

theorem image_eq (h : values.get? key = some value) : values.image key.toList = value.toList := by
  rw [image, String.ofList_toList, h, Option.getD_some]

theorem image_of_none (h : values.get? key = none) : values.image key.toList = [] := by
  rw [image, String.ofList_toList, h]
  rfl

/-- Values are equal if every key has the same value. -/
theorem ext_get? (h : ∀ key, values.get? key = other.get? key) : values = other := by
  have hentries := Ascending.eq_of_lookup values.ascending other.ascending h
  cases values
  cases other
  cases hentries
  rfl

end FormValues

end Receipts
