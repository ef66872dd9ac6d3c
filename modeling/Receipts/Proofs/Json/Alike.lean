import Receipts.Json.Value
import Receipts.Proofs.KeyOrder

/-!
# Documents that say the same

The order of members with different keys says nothing, and neither does a member that a later one
with its key stands in for. Documents that differ in nothing else, at whatever depth, have the same
canonical form.
-/

namespace Receipts

namespace Json

/-- Documents that differ in the order of members with different keys and in members that a later
one stands in for, somewhere in them. -/
inductive Alike : Json → Json → Prop
  | refl (json : Json) : Alike json json
  | symm {json other : Json} : Alike json other → Alike other json
  | trans {json other third : Json} : Alike json other → Alike other third → Alike json third
  | swapped (before after : List (String × Json)) {a b : String × Json} : a.1 ≠ b.1 →
      Alike (.object (before ++ a :: b :: after)) (.object (before ++ b :: a :: after))
  | overruled (before between after : List (String × Json)) {a b : String × Json} : a.1 = b.1 →
      Alike (.object (before ++ a :: (between ++ b :: after)))
        (.object (before ++ (between ++ b :: after)))
  | member (before after : List (String × Json)) (key : String) {json other : Json} :
      Alike json other →
      Alike (.object (before ++ (key, json) :: after)) (.object (before ++ (key, other) :: after))
  | item (before after : List Json) {json other : Json} : Alike json other →
      Alike (.list (before ++ json :: after)) (.list (before ++ other :: after))

theorem canonicalMembers_eq_map (members : List (String × Json)) :
    canonicalMembers members = members.map fun member => (member.1, member.2.canonical) := by
  induction members with
  | nil => rw [canonicalMembers, List.map_nil]
  | cons member members ih => rw [canonicalMembers, ih, List.map_cons]

theorem canonicalItems_eq_map (items : List Json) :
    canonicalItems items = items.map canonical := by
  induction items with
  | nil => rw [canonicalItems, List.map_nil]
  | cons json items ih => rw [canonicalItems, ih, List.map_cons]

theorem canonical_object (members : List (String × Json)) : (object members).canonical
    = .object (placeAll (members.map fun member => (member.1, member.2.canonical))) := by
  rw [canonical, canonicalMembers_eq_map]

theorem exists_members_of_canonical {json : Json} {placed : List (String × Json)}
    (h : json.canonical = .object placed) : ∃ members, json = .object members := by
  cases json with
  | object members => exact ⟨members, rfl⟩
  | _ => simp [canonical] at h

theorem canonical_list (items : List Json) :
    (list items).canonical = .list (items.map canonical) := by
  rw [canonical, canonicalItems_eq_map]

theorem canonical_object_congr {members others : List (String × Json)}
    (h : ∀ key, members.reverse.lookup key = others.reverse.lookup key) :
    (object members).canonical = (object others).canonical := by
  rw [canonical_object, canonical_object]
  refine congrArg object (placeAll_congr fun key => ?_)
  rw [← List.map_reverse, ← List.map_reverse, lookup_map, lookup_map, h key]

/-- Documents that say the same have the same canonical form. -/
theorem Alike.canonical_eq {json other : Json} (h : Alike json other) :
    json.canonical = other.canonical := by
  induction h with
  | refl json => rfl
  | symm _ ih => exact ih.symm
  | trans _ _ ih ih' => exact ih.trans ih'
  | swapped before after hne =>
      exact canonical_object_congr (lookup_reverse_swap before after hne)
  | overruled before between after heq =>
      exact canonical_object_congr (lookup_reverse_overruled before between after heq)
  | member before after key _ ih =>
      simp only [canonical_object, List.map_append, List.map_cons, ih]
  | item before after _ ih =>
      simp only [canonical_list, List.map_append, List.map_cons, ih]

end Json

end Receipts
