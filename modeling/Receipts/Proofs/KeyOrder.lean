import Receipts.KeyOrder

/-!
# Looking entries up

The entries of a list in key order are told by what lookup finds: a key has at most one entry, and
two such lists in which the same is found are equal. Where a list is not in order, the last entry of
a key is the one that counts once its entries are placed.
-/

namespace Receipts

theorem lookup_cons_eq_ite {α : Type} (entry : String × α) (entries : List (String × α))
    (key : String) : (entry :: entries).lookup key
      = if key = entry.1 then some entry.2 else entries.lookup key := by
  rw [List.lookup_cons]
  by_cases h : key = entry.1
  · simp [h]
  · have hne : (key == entry.1) = false := by simpa using h
    simp [hne, h]

theorem mem_of_lookup {α : Type} {entries : List (String × α)} {key : String} {value : α}
    (h : entries.lookup key = some value) : (key, value) ∈ entries := by
  induction entries with
  | nil => cases h
  | cons entry entries ih =>
      rw [lookup_cons_eq_ite] at h
      split at h
      · rename_i hkey
        obtain rfl : entry.2 = value := Option.some.inj h
        exact hkey ▸ List.mem_cons_self
      · exact List.mem_cons_of_mem entry (ih h)

theorem lookup_map {α β : Type} (f : α → β) (entries : List (String × α)) (key : String) :
    (entries.map fun entry => (entry.1, f entry.2)).lookup key = (entries.lookup key).map f := by
  induction entries with
  | nil => rfl
  | cons entry entries ih =>
      rw [List.map_cons, lookup_cons_eq_ite, lookup_cons_eq_ite, ih]
      by_cases hkey : key = entry.1 <;> simp [hkey]

theorem lookup_filter {α : Type} (keep : String → Bool) (entries : List (String × α))
    {key : String} (h : keep key = true) :
    (entries.filter fun entry => keep entry.1).lookup key = entries.lookup key := by
  induction entries with
  | nil => rfl
  | cons entry entries ih =>
      cases hkeep : keep entry.1 with
      | true =>
          rw [List.filter_cons_of_pos (by exact hkeep), List.lookup_cons, List.lookup_cons, ih]
      | false =>
          have hne : (key == entry.1) = false := beq_eq_false_iff_ne.mpr fun he => by
            rw [← he, h] at hkeep
            cases hkeep
          rw [List.filter_cons_of_neg (by simp [hkeep]), List.lookup_cons, hne, ih]

theorem lookup_eq_some_iff_mem {α : Type} {entries : List (String × α)} (h : Ascending entries)
    {key : String} {value : α} : entries.lookup key = some value ↔ (key, value) ∈ entries := by
  induction entries with
  | nil => simp
  | cons entry entries ih =>
      obtain ⟨hhead, htail⟩ := List.pairwise_cons.mp h
      rw [lookup_cons_eq_ite, List.mem_cons]
      by_cases hk : key = entry.1
      · have hnot : (entry.1, value) ∉ entries := fun hm =>
          absurd (hhead (entry.1, value) hm) (String.lt_irrefl entry.1)
        simp [hnot, Prod.ext_iff, hk, eq_comm]
      · simp [ih htail, Prod.ext_iff, hk]

/-- Where a key has one entry at most, its last entry is its first. -/
theorem lookup_reverse_of_nodup {α : Type} {entries : List (String × α)}
    (h : (entries.map (·.1)).Nodup) (key : String) :
    entries.reverse.lookup key = entries.lookup key := by
  induction entries with
  | nil => rfl
  | cons entry entries ih =>
      rw [List.map_cons] at h
      obtain ⟨hhead, htail⟩ := List.nodup_cons.mp h
      rw [List.reverse_cons, List.lookup_append, ih htail, lookup_cons_eq_ite, lookup_cons_eq_ite,
        List.lookup_nil]
      by_cases hkey : key = entry.1
      · have hnone : entries.lookup key = none := by
          refine List.lookup_eq_none_iff.mpr fun other hm => bne_iff_ne.mpr ?_
          rintro rfl
          exact hhead (List.mem_map.mpr ⟨other, hm, hkey⟩)
        simp [hkey ▸ hnone, hkey]
      · simp [hkey]

theorem Ascending.keys_nodup {α : Type} {entries : List (String × α)} (h : Ascending entries) :
    (entries.map (·.1)).Nodup :=
  List.pairwise_map.mpr (h.imp fun hlt => String.ne_of_lt hlt)

theorem lookup_reverse_of_ascending {α : Type} {entries : List (String × α)}
    (h : Ascending entries) (key : String) : entries.reverse.lookup key = entries.lookup key :=
  lookup_reverse_of_nodup h.keys_nodup key

/-- Entries in ascending order are equal if lookup finds the same in them. -/
theorem Ascending.eq_of_lookup {α : Type} {entries others : List (String × α)}
    (h : Ascending entries) (hothers : Ascending others)
    (hlookup : ∀ key, entries.lookup key = others.lookup key) : entries = others := by
  have hmem : ∀ entry, entry ∈ entries ↔ entry ∈ others := by
    rintro ⟨key, value⟩
    rw [← lookup_eq_some_iff_mem h, ← lookup_eq_some_iff_mem hothers, hlookup key]
  have hnodup : ∀ entries : List (String × α), Ascending entries → entries.Nodup := by
    intro entries h
    refine List.Pairwise.imp (fun {a b} hab => ?_) h
    rintro rfl
    exact String.lt_irrefl _ hab
  have hperm := (List.perm_ext_iff_of_nodup (hnodup _ h) (hnodup _ hothers)).mpr hmem
  exact hperm.eq_of_pairwise (fun a b _ _ hab hba => absurd (String.lt_trans hab hba)
    (String.lt_irrefl _)) h hothers

/-! ## Placing entries -/

theorem lookup_place {α : Type} (key : String) (value : α) (entries : List (String × α))
    (other : String) : (place key value entries).lookup other
      = if other = key then some value else entries.lookup other := by
  induction entries with
  | nil => simp [place, lookup_cons_eq_ite]
  | cons entry entries ih =>
      simp only [place]
      split
      · rw [lookup_cons_eq_ite]
      · split
        · rename_i hgt
          rw [lookup_cons_eq_ite, lookup_cons_eq_ite, ih]
          by_cases h : other = key
          · have hne : key ≠ entry.1 := fun he => String.lt_irrefl _ (he ▸ hgt)
            simp [h, hne]
          · simp [h]
        · rename_i hge hle
          have heq : key = entry.1 :=
            String.le_antisymm (String.not_lt.mp hle) (String.not_lt.mp hge)
          rw [lookup_cons_eq_ite, lookup_cons_eq_ite, ← heq]
          by_cases h : other = key <;> simp [h]

/-- A new key is put between two parts of the entries. -/
theorem place_eq_append {α : Type} {key : String} (value : α) {entries : List (String × α)}
    (h : ∀ entry ∈ entries, entry.1 ≠ key) :
    ∃ before after, entries = before ++ after ∧
      place key value entries = before ++ (key, value) :: after := by
  induction entries with
  | nil => exact ⟨[], [], rfl, rfl⟩
  | cons entry entries ih =>
      obtain ⟨before, after, hentries, hplace⟩ := ih fun e hm => h e (List.mem_cons_of_mem entry hm)
      rw [place]
      split
      · exact ⟨[], entry :: entries, rfl, rfl⟩
      · rename_i hge
        have hlt : entry.1 < key := String.not_le.mp fun hle =>
          h entry List.mem_cons_self (String.le_antisymm (String.not_lt.mp hge) hle)
        rw [if_pos hlt, hplace]
        exact ⟨entry :: before, after, by rw [hentries, List.cons_append], rfl⟩

/-! ## The last entry of a key -/

theorem ascending_placeAll {α : Type} (entries : List (String × α)) :
    Ascending (placeAll entries) := by
  rw [placeAll]
  exact List.foldlRecOn entries _ List.Pairwise.nil fun _ h entry _ => ascending_place _ _ h

/-- What is found among entries that were placed is the last entry of the key. -/
theorem lookup_placeAll {α : Type} (entries : List (String × α)) (key : String) :
    (placeAll entries).lookup key = entries.reverse.lookup key := by
  have hfrom : ∀ placed : List (String × α),
      (entries.foldl (fun placed entry => place entry.1 entry.2 placed) placed).lookup key
        = (entries.reverse.lookup key).or (placed.lookup key) := by
    induction entries with
    | nil => exact fun _ => rfl
    | cons entry entries ih =>
        intro placed
        rw [List.foldl_cons, ih, lookup_place, List.reverse_cons, List.lookup_append,
          Option.or_assoc, lookup_cons_eq_ite]
        by_cases hkey : key = entry.1 <;> simp [hkey]
  rw [placeAll, hfrom, List.lookup_nil, Option.or_none]

theorem placeAll_congr {α : Type} {entries others : List (String × α)}
    (h : ∀ key, entries.reverse.lookup key = others.reverse.lookup key) :
    placeAll entries = placeAll others := by
  refine (ascending_placeAll entries).eq_of_lookup (ascending_placeAll others) fun key => ?_
  rw [lookup_placeAll, lookup_placeAll, h key]

theorem lookup_reverse_swap {α : Type} (before after : List (String × α)) {a b : String × α}
    (h : a.1 ≠ b.1) (key : String) : (before ++ a :: b :: after).reverse.lookup key
      = (before ++ b :: a :: after).reverse.lookup key := by
  simp only [List.reverse_append, List.reverse_cons, List.append_assoc, List.lookup_append,
    lookup_cons_eq_ite, List.lookup_nil]
  by_cases ha : key = a.1 <;> simp [ha, h]

theorem lookup_reverse_overruled {α : Type} (before between after : List (String × α))
    {a b : String × α} (h : a.1 = b.1) (key : String) :
    (before ++ a :: (between ++ b :: after)).reverse.lookup key
      = (before ++ (between ++ b :: after)).reverse.lookup key := by
  simp only [List.reverse_append, List.reverse_cons, List.append_assoc, List.lookup_append,
    lookup_cons_eq_ite, List.lookup_nil, h]
  by_cases hb : key = b.1 <;> simp [hb]

end Receipts
