import Receipts.Proofs.Json.Records

/-!
# Objects read as maps

A map is read from the documents that are objects, all of whose members are kept. The reader of maps
and the reader of any value agree on them, so what a map gives is told by the members of the object
in the document.
-/

namespace Receipts.Json

theorem here_map_eq_ok_iff {α β : Type} {f : α → β} {result : Except Cause α} {b : β} :
    here (result.map f) = .ok b ↔ ∃ a, result = .ok a ∧ f a = b := by
  cases result <;> simp [here, fault, Except.map]

theorem here_map_ne_ok {α β : Type} {f : α → β} {b : β} (h : ∀ a, f a ≠ b)
    (result : Except Cause α) : here (result.map f) ≠ .ok b := by
  intro hok
  obtain ⟨a, -, heq⟩ := here_map_eq_ok_iff.mp hok
  exact h a heq

theorem Read.mismatch_ne_ok {α : Type} (expected : String) (s : Input) (a : α) :
    Read.mismatch expected s ≠ .ok a := by
  rw [Read.mismatch]
  split <;> nofun

theorem Read.value_of_brace (depth : Nat) {s rest : Input}
    (h : Scan.skipSpace s = some '{' :: rest) : Read.value (depth + 1) s
      = (Read.membersOf (Read.value depth) rest).map fun (members, s) => (.object members, s) := by
  rw [Read.value.eq_def, h]
  rfl

/-- An object is read at an opening brace only. -/
theorem Read.exists_brace_of_value {depth : Nat} {s rest : Input}
    {members : List (String × Json)} (h : Read.value depth s = .ok (.object members, rest)) :
    ∃ inside, Scan.skipSpace s = some '{' :: inside := by
  rw [Read.value.eq_def] at h
  -- whatever else a value begins with makes it something else than an object
  split at h
  · split at h
    · cases h
    · obtain ⟨⟨items, after⟩, -, heq⟩ := map_eq_ok_iff.mp h
      cases heq
  · exact ⟨_, ‹_›⟩
  · cases h
  · exact absurd h (here_map_ne_ok (fun _ => by simp) _)
  · exact absurd h (here_map_ne_ok (fun _ => by simp) _)
  · exact absurd h (here_map_ne_ok (fun _ => by simp) _)
  · exact absurd h (here_map_ne_ok (fun _ => by simp) _)
  · exact absurd h (here_map_ne_ok (fun _ => by simp) _)
  · split at h
    · exact absurd h (here_map_ne_ok (fun _ => by simp) _)
    · cases h

theorem readAt_map_iff {depth : Nat} {s rest : Input} {json : Json} :
    Shape.map.readAt (depth + 1) s = .ok (json, rest) ↔
      Read.value (depth + 1) s = .ok (json, rest) ∧ ∃ members, json = .object members := by
  constructor
  · intro h
    rw [Shape.readAt.eq_def] at h
    simp only at h
    split at h
    · cases h
    · rename_i inside hbrace
      obtain ⟨⟨members, after⟩, -, heq⟩ := map_eq_ok_iff.mp h
      obtain ⟨rfl, rfl⟩ := heq
      exact ⟨(Read.value_of_brace depth hbrace).trans h, members, rfl⟩
    · exact absurd h (Read.mismatch_ne_ok _ _ _)
  · rintro ⟨h, members, rfl⟩
    obtain ⟨inside, hbrace⟩ := Read.exists_brace_of_value h
    rw [Shape.readAt.eq_def]
    simp only [hbrace]
    exact (Read.value_of_brace depth hbrace).symm.trans h

theorem Read.complete_eq_ok_iff {α : Type} {outcome : Outcome α} {a : α} :
    Read.complete outcome = .ok a ↔
      ∃ rest, outcome = .ok (a, rest) ∧ (Scan.skipSpace rest).isEmpty = true := by
  constructor
  · intro h
    unfold Read.complete at h
    split at h
    · cases h
    · split at h
      · cases h
        exact ⟨_, rfl, ‹_›⟩
      · cases h
  · rintro ⟨rest, rfl, hrest⟩
    rw [Read.complete, if_pos hrest]

/-- A document is a map if it is an object. -/
theorem parse_map_iff {s : Input} {json : Json} : Shape.map.parse s = .ok json ↔
    parse s = .ok json ∧ ∃ members, json = .object members := by
  rw [Shape.parse, parse, Read.complete_eq_ok_iff, Read.complete_eq_ok_iff]
  simp only [Read.maxDepth, readAt_map_iff]
  constructor
  · rintro ⟨rest, ⟨hread, hobject⟩, hrest⟩
    exact ⟨⟨rest, hread, hrest⟩, hobject⟩
  · rintro ⟨⟨rest, hread, hrest⟩, hobject⟩
    exact ⟨rest, ⟨hread, hobject⟩, hrest⟩

theorem Read.value_list_texts (depth : Nat) (texts : List String) (rest : Input) :
    Read.value (depth + 1) (written (.list (texts.map .text)) ++ rest)
      = .ok (.list (texts.map .text), rest) := by
  rw [Read.value.eq_def, written_list, Read.skipSpace_of_visible (by decide)]
  simp [Read.items_texts (Read.value_text depth), Except.map]

/-- A written object is read back if the values of its members are. -/
theorem parse_object {given : List (String × Json)} (h : ∀ member ∈ given, ∀ rest,
      Read.value 126 (written member.2 ++ rest) = .ok (member.2, rest)) :
    parse (Input.ofString (Json.object given).render) = .ok (.object given) := by
  have hbrace : Scan.skipSpace (written (Json.object given))
      = some '{' :: (Input.ofChars (compactMembers given) ++ [some '}']) := by
    rw [← List.append_nil (written _), written_object, Read.skipSpace_of_visible (by decide)]
  rw [parse, Input.ofString_render, Read.maxDepth, Read.value_of_brace 126 hbrace]
  simp only [Read.membersOf_written h, Except.map]
  rfl

/-- A written object of texts is read back as a map. -/
theorem parse_map_texts {given : List (String × Json)}
    (htexts : ∀ member ∈ given, ∃ s, member.2 = .text s) :
    Shape.map.parse (Input.ofString (Json.object given).render) = .ok (.object given) := by
  refine parse_map_iff.mpr ⟨parse_object fun member hm rest => ?_, given, rfl⟩
  obtain ⟨s, hs⟩ := htexts member hm
  rw [hs, Read.value_text]

end Receipts.Json
