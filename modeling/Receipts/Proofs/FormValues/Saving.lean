import Receipts.FormValues.Document
import Receipts.Proofs.FormValues.Lookup
import Receipts.Proofs.Json.Alike
import Receipts.Proofs.Json.Objects

/-!
# Values that are saved and loaded

Values are loaded from objects, and a key gets what its last member is loaded as. What is loaded of
a value is told by its canonical form, so documents that say the same are loaded as the same values.
Saving writes texts only, which are loaded as they are; the texts that other values become on
loading are therefore made once and kept.
-/

namespace Receipts

namespace FormValues

theorem entries_ofList (pairs : List (String × String)) :
    (ofList pairs).entries = placeAll pairs := by
  have hfrom : ∀ values : FormValues,
      (pairs.foldl (fun values pair => values.insert pair.1 pair.2) values).entries
        = pairs.foldl (fun placed pair => place pair.1 pair.2 placed) values.entries := by
    induction pairs with
    | nil => exact fun _ => rfl
    | cons pair pairs ih => exact fun values => ih (values.insert pair.1 pair.2)
  exact hfrom empty

theorem get?_ofMembers (members : List (String × Json)) (key : String) :
    (ofMembers members).get? key = (members.reverse.lookup key).map loaded := by
  rw [get?, ofMembers, entries_ofList, lookup_placeAll, ← List.map_reverse, lookup_map]

/-- What is loaded of a value in canonical form. -/
def loadedCanonical : Json → String
  | .null => ""
  | .text s => s
  | json => json.render

theorem loaded_eq (json : Json) : loaded json = loadedCanonical json.canonical := by
  cases json <;> simp [loaded, loadedCanonical, Json.canonical]

theorem ofText_of_parse {s : String} {members : List (String × Json)}
    (h : Json.parse (.ofString s) = .ok (.object members)) :
    format.ofText s = .ok (ofMembers members) := by
  have hmap := Json.parse_map_iff.mpr ⟨h, members, rfl⟩
  rw [Json.Format.ofText, Json.Format.parse]
  exact Json.map_eq_ok_iff.mpr ⟨_, hmap, rfl⟩

/-- Values are loaded from objects only. -/
theorem exists_members_of_ofText {s : String} {values : FormValues}
    (h : format.ofText s = .ok values) :
    ∃ members, Json.parse (.ofString s) = .ok (.object members) ∧ ofMembers members = values := by
  rw [Json.Format.ofText, Json.Format.parse] at h
  obtain ⟨json, hmap, hvalues⟩ := Json.map_eq_ok_iff.mp h
  obtain ⟨hparse, members, rfl⟩ := Json.parse_map_iff.mp hmap
  exact ⟨members, hparse, hvalues⟩

theorem ofMembers_texts (values : FormValues) :
    ofMembers (values.entries.map fun entry => (entry.1, .text entry.2)) = values := by
  refine ext_get? fun key => ?_
  rw [get?_ofMembers, ← List.map_reverse, lookup_map,
    lookup_reverse_of_ascending values.ascending, get?]
  cases values.entries.lookup key <;> rfl

/-- Saved values are loaded unchanged. -/
theorem ofText_text (values : FormValues) : format.ofText (format.text values) = .ok values := by
  have htexts : ∀ member ∈ values.entries.map fun entry => (entry.1, Json.text entry.2),
      ∃ s, member.2 = .text s := by
    intro member hm
    obtain ⟨entry, -, rfl⟩ := List.mem_map.mp hm
    exact ⟨entry.2, rfl⟩
  have hparse := (Json.parse_map_iff.mp (Json.parse_map_texts htexts)).1
  exact (ofText_of_parse hparse).trans (congrArg Except.ok values.ofMembers_texts)

/-- Documents that say the same are loaded as the same values. -/
theorem ofMembers_congr {members others : List (String × Json)}
    (h : (Json.object members).canonical = (Json.object others).canonical) :
    ofMembers members = ofMembers others := by
  rw [Json.canonical_object, Json.canonical_object] at h
  have hplaced := Json.object.inj h
  refine ext_get? fun key => ?_
  have hkey := congrArg (fun entries => (entries.lookup key).map loadedCanonical) hplaced
  simp only [lookup_placeAll, ← List.map_reverse, lookup_map, Option.map_map] at hkey
  rw [get?_ofMembers, get?_ofMembers]
  simpa only [Function.comp_def, ← loaded_eq] using hkey

end FormValues

/-- Saved values are loaded unchanged. Every object is loaded, each key with what its last member
is loaded as, and what is loaded is unchanged when it is saved and loaded again. Nothing else is
loaded. Documents that differ in the order of members with different keys and in members that a
later one stands in for, anywhere in them, are loaded as the same values. -/
theorem load_saved :
    (∀ values : FormValues, FormValues.format.ofText (FormValues.format.text values) = .ok values) ∧
    (∀ (s : String) (members : List (String × Json)),
      Json.parse (.ofString s) = .ok (.object members) →
      ∃ values : FormValues, FormValues.format.ofText s = .ok values ∧
        (∀ key, values.get? key = (members.reverse.lookup key).map FormValues.loaded) ∧
        FormValues.format.ofText (FormValues.format.text values) = .ok values) ∧
    (∀ (s : String) (values : FormValues), FormValues.format.ofText s = .ok values →
      ∃ members, Json.parse (.ofString s) = .ok (.object members)) ∧
    (∀ (s other : String) (json alike : Json) (values : FormValues),
      Json.parse (.ofString s) = .ok json → Json.parse (.ofString other) = .ok alike →
      json.Alike alike → FormValues.format.ofText s = .ok values →
      FormValues.format.ofText other = .ok values) := by
  refine ⟨FormValues.ofText_text, ?_, ?_, ?_⟩
  · intro s members h
    exact ⟨_, FormValues.ofText_of_parse h, FormValues.get?_ofMembers members,
      FormValues.ofText_text _⟩
  · intro s values h
    obtain ⟨members, hparse, -⟩ := FormValues.exists_members_of_ofText h
    exact ⟨members, hparse⟩
  · intro s other json alike values hjson halike hsame h
    obtain ⟨members, hparse, rfl⟩ := FormValues.exists_members_of_ofText h
    obtain rfl := Except.ok.inj (hjson.symm.trans hparse)
    -- both documents have one canonical form, and only objects have that of an object
    have hcanonical := hsame.canonical_eq
    obtain ⟨others, rfl⟩ := Json.exists_members_of_canonical
      (hcanonical.symm.trans (Json.canonical_object members))
    rw [FormValues.ofText_of_parse halike, FormValues.ofMembers_congr hcanonical]

/-- An object with a key that comes twice, in which nothing is in order. -/
def scattered : List (String × Json) :=
  [("b", .bool false), ("a", .object [("y", .bool true), ("x", .null)]), ("b", .list [.text "A"])]

/-- The object that says the same in order. -/
def gathered : List (String × Json) :=
  [("a", .object [("x", .null), ("y", .bool true)]), ("b", .list [.text "A"])]

theorem alike_scattered : (Json.object scattered).Alike (.object gathered) :=
  .trans (.overruled [] [("a", .object [("y", .bool true), ("x", .null)])] [] rfl)
    (.member [] [("b", .list [.text "A"])] "a" (.swapped [] [] (by decide)))

theorem load_saved_scattered :
    Json.parse (.ofString
        "\x7b\"b\": false, \"a\": \x7b\"y\": true, \"x\": null\x7d, \"b\": [\"\\u0041\"]\x7d")
      = .ok (.object scattered) ∧
    Json.parse (.ofString "\x7b\"a\":\x7b\"x\":null,\"y\":true\x7d,\"b\":[\"A\"]\x7d")
      = .ok (.object gathered) ∧
    (Json.object scattered).Alike (.object gathered) ∧
    ∃ values : FormValues,
      FormValues.format.ofText
          "\x7b\"b\": false, \"a\": \x7b\"y\": true, \"x\": null\x7d, \"b\": [\"\\u0041\"]\x7d"
        = .ok values ∧
      FormValues.format.ofText
          "\x7b\"a\":\x7b\"x\":null,\"y\":true\x7d,\"b\":[\"A\"]\x7d" = .ok values ∧
      FormValues.format.ofText (FormValues.format.text values) = .ok values ∧
      values.get? "a" = some "\x7b\"x\":null,\"y\":true\x7d" ∧
      values.get? "b" = some "[\"A\"]" := by
  have hscattered : Json.parse (.ofString
      "\x7b\"b\": false, \"a\": \x7b\"y\": true, \"x\": null\x7d, \"b\": [\"\\u0041\"]\x7d")
        = .ok (.object scattered) := by rfl
  have hgathered : Json.parse (.ofString
      "\x7b\"a\":\x7b\"x\":null,\"y\":true\x7d,\"b\":[\"A\"]\x7d") = .ok (.object gathered) := by
    rfl
  obtain ⟨-, hload, -, halike⟩ := load_saved
  obtain ⟨values, hvalues, hget, hsaved⟩ := hload _ _ hscattered
  refine ⟨hscattered, hgathered, alike_scattered, values, hvalues, ?_, hsaved, ?_, ?_⟩
  · exact halike _ _ _ _ values hscattered hgathered alike_scattered hvalues
  · rw [hget]
    decide +kernel
  · rw [hget]
    decide +kernel

end Receipts
