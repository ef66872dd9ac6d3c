/-!
# Entries in key order

An association list whose keys ascend strictly holds each key once, and two such
lists with the same entries are equal. Placing an entry keeps the order; it
takes the position of the entry that had its key, if there was one.
-/

namespace Receipts

/-- Keys in strictly ascending order. -/
abbrev Ascending {α : Type} (entries : List (String × α)) : Prop :=
  entries.Pairwise fun a b => a.1 < b.1

/-- Puts an entry in its place, over the one with its key. -/
def place {α : Type} (key : String) (value : α) : List (String × α) → List (String × α)
  | [] => [(key, value)]
  | entry :: entries =>
      if key < entry.1 then (key, value) :: entry :: entries
      else if entry.1 < key then entry :: place key value entries
      else (key, value) :: entries

theorem mem_place {α : Type} {key : String} {value : α} {entries : List (String × α)}
    {x : String × α} (h : x ∈ place key value entries) : x = (key, value) ∨ x ∈ entries := by
  induction entries with
  | nil => simpa [place] using h
  | cons entry entries ih =>
      simp only [place] at h
      split at h
      · simpa using h
      · split at h
        · rcases List.mem_cons.mp h with h | h
          · exact .inr (by simp [h])
          · exact (ih h).imp id (List.mem_cons_of_mem _)
        · rcases List.mem_cons.mp h with h | h
          · exact .inl h
          · exact .inr (List.mem_cons_of_mem _ h)

theorem ascending_place {α : Type} (key : String) (value : α) {entries : List (String × α)}
    (h : Ascending entries) : Ascending (place key value entries) := by
  induction entries with
  | nil => simp [place, Ascending]
  | cons entry entries ih =>
      obtain ⟨hhead, htail⟩ := List.pairwise_cons.mp h
      simp only [place]
      split
      · rename_i hlt
        refine List.pairwise_cons.mpr ⟨fun x hx => ?_, h⟩
        rcases List.mem_cons.mp hx with hx | hx
        · exact hx ▸ hlt
        · exact String.lt_trans hlt (hhead x hx)
      · split
        · rename_i hgt
          refine List.pairwise_cons.mpr ⟨fun x hx => ?_, ih htail⟩
          rcases mem_place hx with hx | hx
          · exact hx ▸ hgt
          · exact hhead x hx
        · rename_i hge hle
          have heq : key = entry.1 :=
            String.le_antisymm (String.not_lt.mp hle) (String.not_lt.mp hge)
          exact List.pairwise_cons.mpr ⟨fun x hx => heq ▸ hhead x hx, htail⟩

/-- Entries placed one after another; the last of several with one key stays. -/
def placeAll {α : Type} (entries : List (String × α)) : List (String × α) :=
  entries.foldl (fun placed entry => place entry.1 entry.2 placed) []

end Receipts
