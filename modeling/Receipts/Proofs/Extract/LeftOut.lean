import Receipts.Proofs.Catalog.Listing
import Receipts.Proofs.Catalog.PartlyFilled

/-!
# Extraction from receipts with values left out

What is left out of a Stan Store or Fanbasis receipt stays unrecovered, and the values that were put
in are given back. So it is for a Beacons receipt unless one of four things is left out: the name of
the product, the price where there is a total, and the date or the method of payment where the name
of the product ends with the label that belongs to it.
-/

namespace Receipts

/-- What extraction takes for the value of a key of a receipt. -/
def FormValues.found (values : FormValues) (id key : String) : Option String :=
  if id = "beacons" then values.beaconsFound key else values.get? key

variable {values : FormValues}

theorem FormValues.IsPartialFor.get?_of_notMem {template : PlatformTemplate}
    {shape : String → ValueShape} (h : values.IsPartialFor template shape) {key : String}
    (hkey : key ∉ template.placeholders) : values.get? key = none := by
  by_contra hsome
  exact hkey (h.keys key (Option.isSome_iff_ne_none.mpr hsome))

theorem mem_placeholders_of_guessed {key : String} (hkey : key ∈ guessedKeys) :
    key ∈ Catalog.beacons.placeholders :=
  (by decide : ∀ key ∈ guessedKeys, key ∈ Catalog.beacons.placeholders) key hkey

/-- Extraction from a receipt of a catalog template, whatever is left out of it. -/
theorem get?_extract_render {template : PlatformTemplate} (htemplate : template ∈ Catalog.all)
    (hvalues : values.IsPartialFor template (ValueShape.ofKey template.id)) (key : String) :
    ((Dialect.ofPlatform template.id).extract
      (render (Catalog.html template.id) values)).get? key = values.found template.id key := by
  rw [html_eq_of_mem htemplate]
  rcases Catalog.mem_all_iff.mp htemplate with rfl | rfl | rfl
  · obtain ⟨chunks, rules, h, hguessing⟩ := exists_isPartlyRecoverable_beacons
    refine h.get?_extract (fun written hwritten => hguessing.value?_eq h hvalues hwritten)
      (fun other hother => ?_) key
    have hnot : other ∉ guessedKeys := fun hm => hother (mem_placeholders_of_guessed hm)
    exact (beaconsFound_of_notMem hnot).trans (hvalues.get?_of_notMem hother)
  · obtain ⟨chunks, rules, h⟩ := exists_isPartlyRecoverable_stanStore
    exact h.get?_extract (fun written hwritten => h.value?_eq_get? hvalues
      (h.faithful written hwritten List.not_mem_nil)) (fun _ => hvalues.get?_of_notMem) key
  · obtain ⟨chunks, rules, h⟩ := exists_isPartlyRecoverable_fanbasis
    exact h.get?_extract (fun written hwritten => h.value?_eq_get? hvalues
      (h.faithful written hwritten List.not_mem_nil)) (fun _ => hvalues.get?_of_notMem) key

/-! ## When nothing is guessed -/

theorem or_besideLabel_eq_get? {key label : String}
    (h : values.NamesLabel label → values.contains key = true) :
    (values.get? key).or (values.besideLabel label) = values.get? key := by
  cases hget : values.get? key with
  | some value => rfl
  | none =>
      have hnot : ¬ values.NamesLabel label := fun hends => by
        simpa [FormValues.contains, hget] using h hends
      rw [Option.none_or, FormValues.besideLabel, if_neg hnot]

theorem contains_of_or_besideLabel {key label : String}
    (h : ∀ value, (values.get? key).or (values.besideLabel label) = some value →
      values.get? key = some value) (hends : values.NamesLabel label) :
    values.contains key = true := by
  by_contra hnone
  rw [FormValues.contains, Bool.not_eq_true, Option.isSome_eq_false_iff,
    Option.isNone_iff_eq_none] at hnone
  have hguess := h _ (by rw [hnone, Option.none_or, FormValues.besideLabel, if_pos hends])
  rw [hnone] at hguess
  cases hguess

theorem FormValues.LeavesNoGuess.beaconsFound_eq (h : values.LeavesNoGuess) (key : String) :
    values.beaconsFound key = values.get? key := by
  by_cases hkey : key ∈ guessedKeys
  · rcases (by simpa [guessedKeys] using hkey : key = "PRODUCT_NAME" ∨ key = "PRODUCT_PRICE" ∨
      key = "DATE_PAID" ∨ key = "PAYMENT_METHOD") with rfl | rfl | rfl | rfl
    · obtain ⟨name, hname⟩ := FormValues.contains_iff_exists.mp h.name
      rw [FormValues.beaconsFound, hname, Option.some_or]
    · rw [FormValues.beaconsFound, h.name, Bool.true_and]
      split
      · rfl
      · rename_i hprice
        have htotal : values.contains "TOTAL_AMOUNT" ≠ true := fun ht => hprice (h.price ht)
        simp only [FormValues.contains, Option.not_isSome_iff_eq_none, ne_eq] at hprice htotal
        rw [hprice, htotal]
    · exact or_besideLabel_eq_get? h.date
    · exact or_besideLabel_eq_get? h.method
  · exact beaconsFound_of_notMem hkey

/-- A receipt gives its values back, whatever is left out of it, if nothing is guessed. -/
theorem extract_render_of_leavesNoGuess {template : PlatformTemplate}
    (htemplate : template ∈ Catalog.all)
    (hvalues : values.IsPartialFor template (ValueShape.ofKey template.id))
    (hnone : template.id = "beacons" → values.LeavesNoGuess) :
    (Dialect.ofPlatform template.id).extract (render (Catalog.html template.id) values)
      = values := by
  refine FormValues.ext_get? fun key => ?_
  rw [get?_extract_render htemplate hvalues, FormValues.found]
  split
  · rename_i hid
    exact (hnone hid).beaconsFound_eq key
  · rfl

/-- Of a complete Beacons receipt nothing is guessed. -/
theorem FormValues.IsBenignFor.leavesNoGuess {shape : String → ValueShape}
    (h : values.IsBenignFor Catalog.beacons shape) : values.LeavesNoGuess := by
  have hgiven : ∀ key ∈ guessedKeys, values.contains key = true := fun key hkey =>
    (h.keys key).mpr (mem_placeholders_of_guessed hkey)
  exact {
    name := hgiven _ (by decide)
    price := fun _ => hgiven _ (by decide)
    date := fun _ => hgiven _ (by decide)
    method := fun _ => hgiven _ (by decide) }

/-- What is guessed of a Beacons receipt is never a value that was put in. -/
theorem leavesNoGuess_of_forall
    (h : ∀ key value, values.beaconsFound key = some value → values.get? key = some value) :
    values.LeavesNoGuess where
  name := by
    by_contra hnone
    rw [FormValues.contains, Option.not_isSome_iff_eq_none] at hnone
    have hguess := h "PRODUCT_NAME" "Total" (by rw [FormValues.beaconsFound, hnone, Option.none_or])
    rw [hnone] at hguess
    cases hguess
  price htotal := by
    by_contra hnone
    obtain ⟨total, hget⟩ := FormValues.contains_iff_exists.mp htotal
    have hguess := h "PRODUCT_PRICE" total (by
      rw [FormValues.beaconsFound, if_neg (by simp [hnone]), hget])
    exact hnone (FormValues.contains_iff_exists.mpr ⟨total, hguess⟩)
  date := contains_of_or_besideLabel (h "DATE_PAID")
  method := contains_of_or_besideLabel (h "PAYMENT_METHOD")

/-- From a receipt of a catalog template extraction takes just what `FormValues.found` says. It
gives nothing that was not put in exactly if nothing is guessed, and then it gives all values
back. -/
theorem extract_partial (template : PlatformTemplate) (htemplate : template ∈ Catalog.all)
    (values : FormValues)
    (hvalues : values.IsPartialFor template (ValueShape.ofKey template.id)) :
    (∀ key, ((Dialect.ofPlatform template.id).extract
      (render (Catalog.html template.id) values)).get? key = values.found template.id key) ∧
    ((∀ key value, ((Dialect.ofPlatform template.id).extract
        (render (Catalog.html template.id) values)).get? key = some value →
        values.get? key = some value) ↔ (template.id = "beacons" → values.LeavesNoGuess)) ∧
    ((template.id = "beacons" → values.LeavesNoGuess) →
      (Dialect.ofPlatform template.id).extract (render (Catalog.html template.id) values)
        = values) := by
  have hfound := get?_extract_render htemplate hvalues
  have hback := extract_render_of_leavesNoGuess htemplate hvalues
  refine ⟨hfound, ⟨fun h hid => leavesNoGuess_of_forall fun key value hguess => ?_,
    fun hnone key value hget => ?_⟩, hback⟩
  · exact h key value (by rw [hfound, FormValues.found, if_pos hid, hguess])
  · rwa [hback hnone] at hget

/-- The values of a Beacons receipt without a date, for a product whose name ends with its label. -/
def undatedValues : FormValues where
  entries := [("PRODUCT_NAME", "Stamp: Date paid"), ("PRODUCT_PRICE", "12.50")]
  ascending := by decide

theorem extract_partial_undatedValues :
    Catalog.beacons ∈ Catalog.all ∧
    undatedValues.IsPartialFor Catalog.beacons (ValueShape.ofKey Catalog.beacons.id) ∧
    (Dialect.beacons.extract (render (Catalog.html "beacons") undatedValues)).get? "DATE_PAID"
      = some "$12.50" := by
  have hmem : Catalog.beacons ∈ Catalog.all := by simp [Catalog.all]
  have hpartial : undatedValues.IsPartialFor Catalog.beacons
      (ValueShape.ofKey Catalog.beacons.id) :=
    FormValues.isPartialFor_of_entries (by decide +kernel) (by decide +kernel)
  refine ⟨hmem, hpartial, ((extract_partial _ hmem undatedValues hpartial).1 "DATE_PAID").trans ?_⟩
  decide +kernel

/-- The label of the total is taken for the name of a product that is left out. -/
theorem not_forall_get?_extract :
    ¬ ∀ template ∈ Catalog.all, ∀ values : FormValues,
      values.IsPartialFor template (ValueShape.ofKey template.id) →
      ∀ key value, ((Dialect.ofPlatform template.id).extract
        (render (Catalog.html template.id) values)).get? key = some value →
        values.get? key = some value := by
  intro h
  have hmem : Catalog.beacons ∈ Catalog.all := by simp [Catalog.all]
  have hpartial : FormValues.empty.IsPartialFor Catalog.beacons
      (ValueShape.ofKey Catalog.beacons.id) :=
    FormValues.isPartialFor_of_entries (by decide) (by decide)
  have hguess := h _ hmem _ hpartial "PRODUCT_NAME" "Total"
    ((get?_extract_render hmem hpartial "PRODUCT_NAME").trans (by decide +kernel))
  cases hguess

end Receipts
