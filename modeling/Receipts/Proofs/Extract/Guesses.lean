import Receipts.Proofs.Extract.PartialRecovery

/-!
# What a Beacons receipt makes rules guess

Four rules for a Beacons receipt go on where the value of their key is left out, and what they find
then is not a value of that key. The label of the total is taken for the name of a product, the
total for a price, and the price beside the product for what stands under a label that the name of
the product ends with.
-/

namespace Receipts

open Template (Chunk)

/-- The keys whose rules go on to later text. -/
def guessedKeys : List String :=
  ["PRODUCT_NAME", "PRODUCT_PRICE", "DATE_PAID", "PAYMENT_METHOD"]

/-- Whether the name of the product ends with a label. -/
def FormValues.NamesLabel (values : FormValues) (label : String) : Prop :=
  label.toList <:+ values.image "PRODUCT_NAME".toList

instance (values : FormValues) (label : String) : Decidable (values.NamesLabel label) :=
  inferInstanceAs (Decidable (label.toList <:+ values.image "PRODUCT_NAME".toList))

/-- What stands beside the name of the product, if the name ends with a label. -/
def FormValues.besideLabel (values : FormValues) (label : String) : Option String :=
  if values.NamesLabel label then some (String.ofList ('$' :: values.image "PRODUCT_PRICE".toList))
  else none

/-- What extraction takes for the value of a key of a Beacons receipt. -/
def FormValues.beaconsFound (values : FormValues) (key : String) : Option String :=
  match key with
  | "PRODUCT_NAME" => (values.get? "PRODUCT_NAME").or (some "Total")
  | "PRODUCT_PRICE" =>
      if values.contains "PRODUCT_NAME" && values.contains "PRODUCT_PRICE" then
        values.get? "PRODUCT_PRICE"
      else values.get? "TOTAL_AMOUNT"
  | "DATE_PAID" => (values.get? "DATE_PAID").or (values.besideLabel "Date paid")
  | "PAYMENT_METHOD" => (values.get? "PAYMENT_METHOD").or (values.besideLabel "Payment method")
  | _ => values.get? key

/-- Whether nothing that is left out of a Beacons receipt is guessed. -/
structure FormValues.LeavesNoGuess (values : FormValues) : Prop where
  name : values.contains "PRODUCT_NAME" = true
  price : values.contains "TOTAL_AMOUNT" = true → values.contains "PRODUCT_PRICE" = true
  date : values.NamesLabel "Date paid" → values.contains "DATE_PAID" = true
  method : values.NamesLabel "Payment method" → values.contains "PAYMENT_METHOD" = true

/-! ## The check -/

section Check

variable (shape : String → ValueShape) (chunks : List Chunk)

/-- The hole for the name of the product. -/
def productHole : Hole :=
  (shape "PRODUCT_NAME").hole "beacons" "PRODUCT_NAME"

/-- Whether a rule finds the name of the product, and the label of the total if it is left out. -/
def WrittenRule.guessesLabel (written : WrittenRule) : Bool :=
  written.passes fun pattern =>
    keeps "beacons" shape chunks [] "PRODUCT_NAME" pattern &&
      Outline.recovers pattern (shown "beacons" shape chunks [("PRODUCT_NAME", [])])
        ("Total".toList.map .char)

/-- Whether a rule finds the price beside a name, and the total if one of them is left out. -/
def WrittenRule.guessesTotal (written : WrittenRule) : Bool :=
  written.passes fun pattern =>
    keeps "beacons" shape chunks [("PRODUCT_NAME", [.hole (productHole shape)])] "PRODUCT_PRICE"
        pattern &&
      ["PRODUCT_NAME", "PRODUCT_PRICE"].all fun key =>
        keeps "beacons" shape chunks [(key, [])] "TOTAL_AMOUNT" pattern &&
          Outline.misses pattern
            (shown "beacons" shape chunks [("TOTAL_AMOUNT", []), (key, [])])

/-- A key is left out, and the name of the product does not end with a label. -/
def unlabelled (key label : String) : View :=
  [("PRODUCT_NAME", [.hole ((productHole shape).orNone.notEnding label.toList)]), (key, [])]

/-- A key is left out, and the name of the product ends with a label. -/
def labelled (key label : String) : View :=
  [("PRODUCT_NAME", .hole (productHole shape).front :: label.toList.map .char), (key, [])]

/-- Whether a rule finds what stands beside a label, and if that is left out what stands beside a
name that ends with the label. -/
def WrittenRule.guessesBeside (written : WrittenRule) (label : String) : Bool :=
  written.passes fun pattern =>
    keeps "beacons" shape chunks [] written.key pattern &&
      (Outline.misses pattern (shown "beacons" shape chunks (unlabelled shape written.key label)) &&
        Outline.recovers pattern (shown "beacons" shape chunks (labelled shape written.key label))
          (.char '$' :: viewForm "beacons" shape (labelled shape written.key label)
            "PRODUCT_PRICE".toList))

/-- What the rules for a Beacons receipt do that are not faithful. -/
structure IsGuessing (rules : List WrittenRule) : Prop where
  name : ∀ written ∈ rules, written.key = "PRODUCT_NAME" →
    written.guessesLabel shape chunks = true
  price : ∀ written ∈ rules, written.key = "PRODUCT_PRICE" →
    written.guessesTotal shape chunks = true
  date : ∀ written ∈ rules, written.key = "DATE_PAID" →
    written.guessesBeside shape chunks "Date paid" = true
  method : ∀ written ∈ rules, written.key = "PAYMENT_METHOD" →
    written.guessesBeside shape chunks "Payment method" = true

end Check

/-! ## What the four rules find -/

variable {shape : String → ValueShape} {chunks : List Chunk} {rules : List WrittenRule}
  {values : FormValues} {written : WrittenRule}

theorem beaconsFound_of_notMem {key : String} (h : key ∉ guessedKeys) :
    values.beaconsFound key = values.get? key := by
  rw [FormValues.beaconsFound]
  all_goals
    rintro rfl
    exact h (by decide)

theorem key_productHole (shape : String → ValueShape) :
    (productHole shape).key = "PRODUCT_NAME" :=
  ValueShape.key_hole _ _ _

theorem value?_of_guessesLabel
    (h : IsPartlyRecoverable Catalog.beacons shape chunks rules guessedKeys)
    (hvalues : values.IsPartialFor Catalog.beacons shape)
    (hrule : written.guessesLabel shape chunks = true) :
    written.rule.value? (render Catalog.beacons.html values)
      = (values.get? "PRODUCT_NAME").or (some "Total") := by
  obtain ⟨pattern, hpattern, hdirect, hcheck⟩ := WrittenRule.exists_of_passes hrule
  rw [Bool.and_eq_true] at hcheck
  cases hget : values.get? "PRODUCT_NAME" with
  | some value =>
      rw [Option.some_or]
      exact h.value?_of_keeps hpattern hdirect hvalues (View.shows_nil values) hget hcheck.1
  | none =>
      have hview := (View.shows_nil values).cons (readsAs_nil_of_none hget)
      have hfound := h.value?_of_recovers hpattern hdirect hvalues hview hcheck.2
        (fun words _ => Outline.spell_map_char words "Total".toList) (by decide) (by decide)
      rwa [String.ofList_toList] at hfound

theorem value?_of_guessesTotal
    (h : IsPartlyRecoverable Catalog.beacons shape chunks rules guessedKeys)
    (hvalues : values.IsPartialFor Catalog.beacons shape)
    (hrule : written.guessesTotal shape chunks = true) :
    written.rule.value? (render Catalog.beacons.html values)
      = if values.contains "PRODUCT_NAME" && values.contains "PRODUCT_PRICE" then
          values.get? "PRODUCT_PRICE"
        else values.get? "TOTAL_AMOUNT" := by
  obtain ⟨pattern, hpattern, hdirect, hcheck⟩ := WrittenRule.exists_of_passes hrule
  rw [Bool.and_eq_true, List.all_eq_true] at hcheck
  have htotal : ∀ key ∈ ["PRODUCT_NAME", "PRODUCT_PRICE"], values.get? key = none →
      written.rule.value? (render Catalog.beacons.html values) = values.get? "TOTAL_AMOUNT" := by
    intro key hkey hnone
    have hothers := (View.shows_nil values).cons (readsAs_nil_of_none hnone)
    have hcases := hcheck.2 key hkey
    rw [Bool.and_eq_true] at hcases
    cases hget : values.get? "TOTAL_AMOUNT" with
    | some total => exact h.value?_of_keeps hpattern hdirect hvalues hothers hget hcases.1
    | none =>
        exact h.value?_of_misses hpattern hdirect hvalues
          (hothers.cons (readsAs_nil_of_none hget)) hcases.2
  cases hname : values.get? "PRODUCT_NAME" with
  | none => simpa [FormValues.contains, hname] using htotal _ (by simp) hname
  | some name =>
      cases hprice : values.get? "PRODUCT_PRICE" with
      | none => simpa [FormValues.contains, hprice] using htotal _ (by simp) hprice
      | some price =>
          have hreads := readsAs_hole ((hvalues.values _ _ hname).fits_hole "PRODUCT_NAME")
            (ValueShape.key_hole _ _ _)
          rw [← FormValues.image_eq hname] at hreads
          simpa [FormValues.contains, hname, hprice] using h.value?_of_keeps hpattern hdirect
            hvalues ((View.shows_nil values).cons hreads) hprice hcheck.1

theorem value?_of_guessesBeside
    (h : IsPartlyRecoverable Catalog.beacons shape chunks rules guessedKeys)
    (hvalues : values.IsPartialFor Catalog.beacons shape) {label : String}
    (hrule : written.guessesBeside shape chunks label = true) :
    written.rule.value? (render Catalog.beacons.html values)
      = (values.get? written.key).or (values.besideLabel label) := by
  obtain ⟨pattern, hpattern, hdirect, hcheck⟩ := WrittenRule.exists_of_passes hrule
  rw [Bool.and_eq_true, Bool.and_eq_true] at hcheck
  cases hget : values.get? written.key with
  | some value =>
      rw [Option.some_or]
      exact h.value?_of_keeps hpattern hdirect hvalues (View.shows_nil values) hget hcheck.1
  | none =>
      have hleft := (View.shows_nil values).cons (readsAs_nil_of_none hget)
      have hfits : (productHole shape).orNone.Fits (values.image "PRODUCT_NAME".toList) :=
        h.fits_orNone hvalues (by decide)
      rw [Option.none_or, FormValues.besideLabel]
      split
      · -- The name is split into its front and the label, which the rule can take for its own.
        rename_i hends
        obtain ⟨name, hname⟩ := hends
        have hreads := (readsAs_hole (hfits.front ⟨_, hname⟩)
          (key_productHole shape)).append_chars label.toList
        rw [hname] at hreads
        have hview : View.Shows (labelled shape written.key label) values := hleft.cons hreads
        refine h.value?_of_recovers hpattern hdirect hvalues hview hcheck.2.2
          (fun words hspell => ?_) (by simp)
          (Text.trim_cons (by decide) (hvalues.trim_image "PRODUCT_PRICE"))
        rw [Outline.spell_char]
        exact congrArg _ (hspell "PRODUCT_PRICE" (by decide))
      · rename_i hends
        have hview : View.Shows (unlabelled shape written.key label) values :=
          hleft.cons (readsAs_hole (hfits.notEnding hends) (key_productHole shape))
        exact h.value?_of_misses hpattern hdirect hvalues hview hcheck.2.1

theorem IsGuessing.value?_eq (hguessing : IsGuessing shape chunks rules)
    (h : IsPartlyRecoverable Catalog.beacons shape chunks rules guessedKeys)
    (hvalues : values.IsPartialFor Catalog.beacons shape)
    (hwritten : written ∈ rules) :
    written.rule.value? (render Catalog.beacons.html values) = values.beaconsFound written.key := by
  by_cases hkey : written.key ∈ guessedKeys
  · rcases (by simpa [guessedKeys] using hkey : written.key = "PRODUCT_NAME" ∨
      written.key = "PRODUCT_PRICE" ∨ written.key = "DATE_PAID" ∨
      written.key = "PAYMENT_METHOD") with hkey | hkey | hkey | hkey
    · rw [hkey]
      exact value?_of_guessesLabel h hvalues (hguessing.name written hwritten hkey)
    · rw [hkey]
      exact value?_of_guessesTotal h hvalues (hguessing.price written hwritten hkey)
    · have hfound := value?_of_guessesBeside h hvalues (hguessing.date written hwritten hkey)
      rw [hkey] at hfound ⊢
      exact hfound
    · have hfound := value?_of_guessesBeside h hvalues (hguessing.method written hwritten hkey)
      rw [hkey] at hfound ⊢
      exact hfound
  · rw [h.value?_eq_get? hvalues (h.faithful written hwritten hkey), beaconsFound_of_notMem hkey]

end Receipts
