import Receipts.Proofs.Template.Matches
import Receipts.Template.Form

/-!
# The fields of a form

The names of a template are those that the scan finds, each listed where it is found first. The
fields of its form are the fields of these names under one stable sort by label: different names can
share a label, and then they stay in the order of the names.
-/

namespace Receipts

/-! ## First appearances -/

theorem pairwise_idxOf_eraseDups (xs : List String) :
    xs.eraseDups.Pairwise fun a b => xs.idxOf a < xs.idxOf b := by
  induction xs using List.reverseRecOn with
  | nil => simp
  | append_singleton xs x ih =>
      have hfirst : ∀ a ∈ xs.eraseDups, (xs ++ [x]).idxOf a = xs.idxOf a := fun a ha =>
        List.idxOf_append_of_mem (List.mem_eraseDups.mp ha)
      have hkept : xs.eraseDups.Pairwise fun a b => (xs ++ [x]).idxOf a < (xs ++ [x]).idxOf b :=
        ih.imp_of_mem fun ha hb hab => by rwa [hfirst _ ha, hfirst _ hb]
      rw [List.eraseDups_append, List.cons_removeAll]
      by_cases hx : x ∈ xs
      · simpa [hx, List.removeAll] using hkept
      · have hlast : (xs ++ [x]).idxOf x = xs.length := by
          rw [List.idxOf_append_of_notMem hx]
          simp
        have hnew : ([x] : List String).eraseDups = [x] := by simp [List.eraseDups_cons]
        simp only [List.contains_eq_mem, hx, decide_false, ↓reduceIte, List.removeAll,
          List.filter_nil, hnew]
        refine List.pairwise_append.mpr ⟨hkept, List.pairwise_singleton _ _, fun a ha b hb => ?_⟩
        obtain rfl : b = x := by simpa using hb
        rw [hfirst a ha, hlast]
        exact List.idxOf_lt_length_of_mem (List.mem_eraseDups.mp ha)

/-- Names listed once each, in the order in which they are found first. -/
structure ListsFirsts (found names : List String) : Prop where
  nodup : names.Nodup
  mem_iff : ∀ name, name ∈ names ↔ name ∈ found
  ordered : names.Pairwise fun a b => found.idxOf a < found.idxOf b

theorem listsFirsts_eraseDups (found : List String) : ListsFirsts found found.eraseDups where
  nodup := (pairwise_idxOf_eraseDups found).imp fun hlt heq => by simp [heq] at hlt
  mem_iff _ := List.mem_eraseDups
  ordered := pairwise_idxOf_eraseDups found

/-! ## Sorting by label -/

/-- Fields in the order of their labels, and those of one label as they came. -/
structure IsSortOf (fields sorted : List Field) : Prop where
  ordered : sorted.Pairwise fun a b => a.label ≤ b.label
  stable : ∀ label, sorted.filter (·.label == label) = fields.filter (·.label == label)

variable {fields sorted other : List Field}

theorem IsSortOf.mem_iff (h : IsSortOf fields sorted) {field : Field} :
    field ∈ sorted ↔ field ∈ fields := by
  have hlabel : ∀ list : List Field, field ∈ list ↔ field ∈ list.filter (·.label == field.label) :=
    fun list => by simp
  rw [hlabel, h.stable, ← hlabel]

theorem sortByLabel_isSortOf (fields : List Field) : IsSortOf fields (Form.sortByLabel fields) := by
  have htrans : ∀ a b c : Field, decide (a.label ≤ b.label) = true →
      decide (b.label ≤ c.label) = true → decide (a.label ≤ c.label) = true := by
    intro a b c hab hbc
    simp only [decide_eq_true_eq] at hab hbc ⊢
    exact String.le_trans hab hbc
  have htotal : ∀ a b : Field,
      (decide (a.label ≤ b.label) || decide (b.label ≤ a.label)) = true := by
    intro a b
    simpa using String.le_total a.label b.label
  refine ⟨(List.pairwise_mergeSort htrans htotal fields).imp fun h => by simpa using h,
    fun label => ?_⟩
  -- The fields of one label are in order as they come, so sorting keeps them in line.
  have hsame : (fields.filter (·.label == label)).Pairwise fun a b =>
      decide (a.label ≤ b.label) = true := by
    refine List.pairwise_of_forall_mem_list fun a ha b hb => ?_
    have ha : a.label = label := by simpa using (List.mem_filter.mp ha).2
    have hb : b.label = label := by simpa using (List.mem_filter.mp hb).2
    simp [ha, hb]
  have hsub := (List.sublist_mergeSort htrans htotal hsame List.filter_sublist).filter
    (·.label == label)
  rw [List.filter_filter] at hsub
  simp only [Bool.and_self] at hsub
  refine (hsub.eq_of_length ?_).symm
  exact ((List.mergeSort_perm fields _).filter _).length_eq.symm

theorem IsSortOf.unique (h : IsSortOf fields sorted) (h' : IsSortOf fields other) :
    sorted = other := by
  induction sorted generalizing fields other with
  | nil =>
      cases other with
      | nil => rfl
      | cons b other => simpa using h.mem_iff.mpr (h'.mem_iff.mp (List.mem_cons_self (a := b)))
  | cons a sorted ih =>
      cases other with
      | nil => simpa using h'.mem_iff.mpr (h.mem_iff.mp (List.mem_cons_self (a := a)))
      | cons b other =>
          obtain ⟨ha, hsorted⟩ := List.pairwise_cons.mp h.ordered
          obtain ⟨hb, hother⟩ := List.pairwise_cons.mp h'.ordered
          have hleast : ∀ {x y : Field} {rest : List Field},
              (∀ z ∈ rest, x.label ≤ z.label) → y ∈ x :: rest → x.label ≤ y.label := by
            intro x y rest hx hy
            rcases List.mem_cons.mp hy with rfl | hy
            · exact String.le_refl _
            · exact hx y hy
          -- Each head is a least label of the same fields, and the first with that label.
          have hlabel : a.label = b.label := String.le_antisymm
            (hleast ha (h.mem_iff.mpr (h'.mem_iff.mp List.mem_cons_self)))
            (hleast hb (h'.mem_iff.mpr (h.mem_iff.mp List.mem_cons_self)))
          have hsame : ∀ label, (a :: sorted).filter (·.label == label)
              = (b :: other).filter (·.label == label) := fun label =>
            (h.stable label).trans (h'.stable label).symm
          have hhead := hsame a.label
          simp only [List.filter_cons, hlabel, BEq.rfl, ↓reduceIte, List.cons.injEq] at hhead
          obtain ⟨rfl, -⟩ := hhead
          have htail : ∀ label, sorted.filter (·.label == label)
              = other.filter (·.label == label) := by
            intro label
            have hfilter := hsame label
            simp only [List.filter_cons] at hfilter
            split at hfilter
            · exact (List.cons.inj hfilter).2
            · exact hfilter
          rw [ih ⟨hsorted, fun _ => rfl⟩ ⟨hother, fun label => (htail label).symm⟩]

theorem isSortOf_iff : IsSortOf fields sorted ↔ sorted = Form.sortByLabel fields :=
  ⟨fun h => h.unique (sortByLabel_isSortOf fields), fun h => h ▸ sortByLabel_isSortOf fields⟩

/-! ## The form of a template -/

open Template (IsName Scans names placeholder token)
open Text (hits)

theorem mem_names_iff {html name : String} :
    name ∈ names html ↔ name.toList ∈ hits placeholder html.toList := by
  rw [names, List.mem_eraseDups, List.mem_map]
  constructor
  · rintro ⟨found, hmem, rfl⟩
    rwa [String.toList_ofList]
  · intro h
    exact ⟨name.toList, h, String.ofList_toList⟩

/-- Where a token of a proper name stands, a name is found whose token ends there. -/
theorem exists_name_of_token {html : String} {before key after : List Char} (hkey : IsName key)
    (h : html.toList = before ++ (token key ++ after)) :
    ∃ name ∈ names html, key <:+ name.toList ∧ token name.toList <:+ before ++ token key := by
  obtain ⟨name, hmem, hends, hstands⟩ := Template.exists_hit_of_token hkey h
  refine ⟨String.ofList name, ?_, ?_⟩
  · rwa [mem_names_iff, String.toList_ofList]
  · rw [String.toList_ofList]
    exact ⟨hends, hstands⟩

theorem eq_ofPlaceholder_of_mem {html : String} {field : Field}
    (h : field ∈ (Form.ofHtml html).fields) : field = Field.ofPlaceholder field.key := by
  obtain ⟨name, -, rfl⟩ := List.mem_map.mp ((sortByLabel_isSortOf _).mem_iff.mp h)
  rfl

/-- A form has one field for a key. -/
theorem nodup_keys_ofHtml (html : String) : (Form.ofHtml html).keys.Nodup := by
  have hkeys : ((names html).map Field.ofPlaceholder).map Field.key = names html := by
    rw [List.map_map]
    exact List.map_id _
  have hsorted : (Form.ofHtml html).keys.Perm (names html) := by
    rw [← hkeys]
    exact (List.mergeSort_perm _ _).map Field.key
  rw [hsorted.nodup_iff]
  exact (listsFirsts_eraseDups _).nodup

theorem fields_ofHtml_eq_nil_iff {html : String} :
    (Form.ofHtml html).fields = [] ↔ ∀ key, IsName key → ¬ token key <:+: html.toList := by
  constructor
  · rintro h key hkey ⟨before, after, heq⟩
    obtain ⟨name, hmem, -⟩ := exists_name_of_token hkey (by simpa using heq.symm)
    have hfield : Field.ofPlaceholder name ∈ (Form.ofHtml html).fields :=
      (sortByLabel_isSortOf _).mem_iff.mpr (List.mem_map_of_mem hmem)
    rw [h] at hfield
    cases hfield
  · intro h
    simp [Form.ofHtml, Template.names_of_no_token h, Form.sortByLabel]

/-- The placeholders of a text, taken from the left, are what the names list and what the form asks
for. Every name has its token in the text, wherever a token of a proper name ends the token of some
name does, and the fields are the stable sort by label of the fields of the names. -/
theorem scan_determines_form (html : String) :
    ∃ found, (∀ taken, Scans html.toList taken ↔ taken = found) ∧
      ListsFirsts (found.map String.ofList) (names html) ∧
      (∀ name ∈ names html, IsName name.toList ∧ token name.toList <:+: html.toList) ∧
      (∀ before key after, IsName key → html.toList = before ++ (token key ++ after) →
        ∃ name ∈ names html, key <:+ name.toList ∧ token name.toList <:+ before ++ token key) ∧
      (∀ fields, IsSortOf ((names html).map Field.ofPlaceholder) fields
        ↔ fields = (Form.ofHtml html).fields) ∧
      ((Form.ofHtml html).fields = []
        ↔ ∀ key, IsName key → ¬ token key <:+: html.toList) := by
  refine ⟨hits placeholder html.toList, fun taken => Template.scans_iff,
    listsFirsts_eraseDups _, fun name hmem => Template.isName_of_mem_hits (mem_names_iff.mp hmem),
    fun before key after hkey h => exists_name_of_token hkey h, fun fields => isSortOf_iff,
    fields_ofHtml_eq_nil_iff⟩

end Receipts
