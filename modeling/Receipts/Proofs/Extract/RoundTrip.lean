import Receipts.Proofs.Extract.LeftOut

/-!
# Extraction undoes rendering

The rules for a template give back the values of every complete and benign receipt, as nothing is
guessed where nothing is left out. Two of the conditions on the values of a Beacons receipt are
about wording that is no anchor: a name with an exclamation mark is cut off there, and a product
whose name ends like the label of the total takes its place.
-/

namespace Receipts

/-- The values of a Fanbasis receipt. -/
def membershipValues : FormValues where
  entries :=
    [("AMOUNT", "49.00"), ("BILLING_DATE", "2025-03-03"), ("BUYER_EMAIL", "ana@example.com"),
     ("BUYER_NAME", "Ana, Lima"), ("CARD_LAST4", "4242"),
     ("CREATOR_AVATAR_IMAGE", "https://cdn.example.com/a.png"), ("CREATOR_NAME", "class="),
     ("PLAN_NAME", "Billing date"), ("SUPPORT_EMAIL", "help@example.com"),
     ("TRANSACTION_ID", "Receipt sent to")]
  ascending := by decide +kernel

theorem membershipValues_isBenignFor :
    membershipValues.IsBenignFor Catalog.fanbasis (ValueShape.ofKey "fanbasis") :=
  FormValues.isBenignFor_of_entries (by decide +kernel) (by decide +kernel)

/-- Whether all receipts whose values have the shapes give their values back. -/
def GivesBack (shape : String → String → ValueShape) : Prop :=
  ∀ template ∈ Catalog.all, ∀ values : FormValues,
    values.IsBenignFor template (shape template.id) →
      (Dialect.ofPlatform template.id).extract (render (Catalog.html template.id) values) = values

/-- The shapes with free text for some keys of a Beacons receipt. -/
def ValueShape.relaxed (exempt : List String) (id key : String) : ValueShape :=
  if id = "beacons" ∧ key ∈ exempt then free else ofKey id key

theorem not_givesBack_of_value? {shape : String → String → ValueShape} {values : FormValues}
    (hvalues : values.IsBenignFor Catalog.beacons (shape "beacons")) (rule : Rule)
    (hrule : rule ∈ Dialect.beacons.rules) {found : String}
    (hfound : rule.value? (render Catalog.beacons.html values) = some found)
    (hother : values.get? rule.key ≠ some found) : ¬ GivesBack shape := by
  intro hback
  have hextract : Dialect.beacons.extract (render (Catalog.html "beacons") values) = values :=
    hback Catalog.beacons (by simp [Catalog.all]) values hvalues
  have hkeys : Dialect.beacons.keys.Nodup := by decide +kernel
  have hget := Dialect.get?_extract_of_nodup hkeys (render (Catalog.html "beacons") values) hrule
  rw [hextract] at hget
  exact hother (hget.trans hfound)

/-- The values of a Beacons receipt, with the names of the buyer and of the product. -/
def orderValues (buyer product : String) : FormValues where
  entries :=
    [("BUYER_EMAIL", "ana@example.com"), ("BUYER_NAME", buyer), ("DATE_PAID", "2025-03-03"),
     ("ORDER_ID", "BCN-88213"), ("PAYMENT_METHOD", "Visa 4242"),
     ("PRODUCT_IMAGE_URL", "https://cdn.example.com/a.png"), ("PRODUCT_NAME", product),
     ("PRODUCT_PRICE", "12.50"), ("SELLER_EMAIL", "help@example.com"),
     ("SELLER_LOGO_URL", "https://cdn.example.com/b.png"), ("SELLER_NAME", "Lima Studio"),
     ("TOTAL_AMOUNT", "24")]
  ascending := by
    have hkeys : Catalog.beacons.placeholders.Pairwise (· < ·) := by decide +kernel
    exact List.pairwise_map.mp hkeys

/-- The rule for the name of the buyer. -/
def buyerRule : Rule := ⟨"BUYER_NAME", "Thanks for your order,\\s*([^<!]+)"⟩

/-- The rule for the total. -/
def totalRule : Rule :=
  ⟨"TOTAL_AMOUNT", "Total</td>\\s*<td[^>]*>\\$(\\d+(?:\\.\\d+)?)"⟩

set_option maxRecDepth 100000 in
/-- A name is cut off at an exclamation mark, and the price is taken for the total behind a product
whose name ends like the label of the total. -/
theorem exists_reads_beacons : ∃ chunks buyer total, Spelled Catalog.beacons.segments chunks ∧
    WrittenRule.rule buyer = buyerRule ∧ WrittenRule.rule total = totalRule ∧
    (∀ chunk ∈ chunks, chunk.Proper) ∧
    buyer.reads (orderValues "Ana! Lima" "Course") chunks ['A', 'n', 'a'] = true ∧
    total.reads (orderValues "Ana Lima" "Sum Total") chunks ['1', '2', '.', '5', '0'] = true := by
  apply Exists.intro
  apply Exists.intro
  apply Exists.intro
  refine ⟨?_, WrittenRule.rule_mk _ _, WrittenRule.rule_mk _ _, ?_⟩
  · dsimp only [Catalog.beacons, Catalog.beaconsSegments]
    repeat (first | apply Spelled.nil | apply Spelled.text | apply Spelled.slot)
  · decide +kernel

end Receipts
