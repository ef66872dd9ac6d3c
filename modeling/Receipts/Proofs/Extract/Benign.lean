import Mathlib.Data.List.Infix
import Receipts.Catalog
import Receipts.Proofs.FormValues.Lookup

/-!
# Values that keep to their place

A value keeps to its place in a receipt if it has no character that ends a text, an attribute or a
placeholder, no phrase by which the rules find their way, and the shape that the rule for its key
reads. Nothing is asked of the wording of a value beyond that.
-/

namespace Receipts

/-- What a value looks like: free text, an amount, or the last digits of a card. Free text may be
barred from some characters, from blanks, and from some endings. -/
inductive ValueShape where
  | text (barred : List Char) (blanks : Bool) (endings : List String)
  | amount
  | card
  deriving DecidableEq, Repr

/-- One or more ASCII digits. -/
def IsNumeral (w : List Char) : Prop :=
  w ≠ [] ∧ ∀ c ∈ w, c.isDigit = true

instance (w : List Char) : Decidable (IsNumeral w) :=
  decidable_of_iff (w ≠ [] ∧ w.all Char.isDigit = true) (and_congr_right' List.all_eq_true)

/-- Digits, and more digits after a point if there is one. -/
def IsAmount (w : List Char) : Prop :=
  IsNumeral w ∨
    ∃ whole fraction, w = whole ++ '.' :: fraction ∧ IsNumeral whole ∧ IsNumeral fraction

theorem isAmount_iff {w : List Char} : IsAmount w ↔ IsNumeral w ∨
    ∃ n ∈ List.range w.length,
      w = w.take n ++ '.' :: w.drop (n + 1) ∧ IsNumeral (w.take n) ∧
        IsNumeral (w.drop (n + 1)) := by
  refine or_congr Iff.rfl ⟨?_, ?_⟩
  · rintro ⟨whole, fraction, rfl, hwhole, hfraction⟩
    refine ⟨whole.length, by simp, ?_⟩
    have hdrop : (whole ++ '.' :: fraction).drop (whole.length + 1) = fraction := by
      rw [← List.drop_drop, List.drop_left, List.drop_succ_cons, List.drop_zero]
    rw [List.take_left, hdrop]
    exact ⟨rfl, hwhole, hfraction⟩
  · rintro ⟨n, -, hw, hwhole, hfraction⟩
    exact ⟨_, _, hw, hwhole, hfraction⟩

instance (w : List Char) : Decidable (IsAmount w) :=
  decidable_of_iff _ isAmount_iff.symm

namespace ValueShape

/-- Whether a value has a shape. -/
def Fits : ValueShape → List Char → Prop
  | text barred blanks endings, w =>
      (∀ c ∈ w, c ∉ barred) ∧ (blanks = false → ∀ c ∈ w, Text.isBlank c = false) ∧
        ∀ ending ∈ endings, ¬ ending.toList <:+ w
  | amount, w => IsAmount w
  | card, w => w.length = 4 ∧ ∀ c ∈ w, c.isDigit = true

instance (w : List Char) : (shape : ValueShape) → Decidable (shape.Fits w)
  | text barred blanks endings =>
      decidable_of_iff ((w.all fun c => !barred.contains c) = true ∧
          (blanks = false → (w.all fun c => !Text.isBlank c) = true) ∧
          ∀ ending ∈ endings, ¬ ending.toList <:+ w)
        (by simp [Fits])
  | amount => inferInstanceAs (Decidable (IsAmount w))
  | card =>
      decidable_of_iff (w.length = 4 ∧ w.all Char.isDigit = true)
        (and_congr_right' List.all_eq_true)

/-- Free text without further conditions. -/
def free : ValueShape := text [] true []

/-- An address that a mail link may hold. -/
def address : ValueShape := text ['\x27', '?'] false []

/-- The shapes of the values in a receipt. -/
def ofKey (id key : String) : ValueShape :=
  match id, key with
  | "beacons", "BUYER_NAME" => text ['!'] true []
  | "beacons", "PRODUCT_NAME" => text [] true ["Total"]
  | "beacons", "PRODUCT_PRICE" => amount
  | "beacons", "TOTAL_AMOUNT" => amount
  | "beacons", "BUYER_EMAIL" => text [] false []
  | "beacons", "SELLER_EMAIL" => address
  | "stanstore", "ORDER_ID" => text [] false []
  | "stanstore", "TOTAL_AMOUNT" => amount
  | "stanstore", "CREATOR_EMAIL" => address
  | "fanbasis", "AMOUNT" => amount
  | "fanbasis", "CARD_LAST4" => card
  | "fanbasis", "SUPPORT_EMAIL" => address
  | _, _ => free

end ValueShape

/-- The phrases by which the rules for a receipt find their way. -/
def anchors (id : String) : List String :=
  match id with
  | "beacons" =>
      ["Thanks for your order,", "Here is your receipt from", ". Keep it", "receipt was sent to",
       "mailto:"]
  | "stanstore" => [", your purchase is confirmed", "'s Stan Store", "Receipt #", "mailto:"]
  | "fanbasis" => [", thank you for supporting", "Card ending in", "mailto:"]
  | _ => []

/-- The characters that end a text, an attribute or a placeholder. -/
def markup : List Char := ['<', '>', '"', '{', '}']

/-- A value that keeps to its place in the receipt with this id. -/
structure IsBenign (id : String) (shape : ValueShape) (value : List Char) : Prop where
  nonempty : value ≠ []
  trimmed : Text.trim value = value
  noMarkup : ∀ c ∈ value, c ∉ markup
  noAnchor : ∀ phrase ∈ anchors id, ¬ phrase.toList <:+: value
  fits : shape.Fits value

instance (id : String) (shape : ValueShape) (value : List Char) :
    Decidable (IsBenign id shape value) :=
  decidable_of_iff (value ≠ [] ∧ Text.trim value = value ∧
      (value.all fun c => !markup.contains c) = true ∧
      (∀ phrase ∈ anchors id, ¬ phrase.toList <:+: value) ∧ shape.Fits value)
    ⟨fun ⟨hne, htrim, hmarkup, hanchors, hfits⟩ =>
        ⟨hne, htrim, by simpa using hmarkup, hanchors, hfits⟩,
      fun h => ⟨h.nonempty, h.trimmed, by simpa using h.noMarkup, h.noAnchor, h.fits⟩⟩

/-- Values for exactly the placeholders of a template, each of which keeps to its place. -/
structure FormValues.IsBenignFor (values : FormValues) (template : PlatformTemplate)
    (shape : String → ValueShape) : Prop where
  keys : ∀ key, values.contains key = true ↔ key ∈ template.placeholders
  values : ∀ key value, values.get? key = some value →
    IsBenign template.id (shape key) value.toList

/-- Values for some of the placeholders of a template, each of which keeps to its place. -/
structure FormValues.IsPartialFor (values : FormValues) (template : PlatformTemplate)
    (shape : String → ValueShape) : Prop where
  keys : ∀ key, values.contains key = true → key ∈ template.placeholders
  values : ∀ key value, values.get? key = some value →
    IsBenign template.id (shape key) value.toList

theorem FormValues.IsBenignFor.isPartialFor {values : FormValues} {template : PlatformTemplate}
    {shape : String → ValueShape} (h : values.IsBenignFor template shape) :
    values.IsPartialFor template shape :=
  ⟨fun key => (h.keys key).mp, h.values⟩

theorem FormValues.IsPartialFor.trim_image {values : FormValues} {template : PlatformTemplate}
    {shape : String → ValueShape} (h : values.IsPartialFor template shape) (key : String) :
    Text.trim (values.image key.toList) = values.image key.toList := by
  cases hget : values.get? key with
  | none =>
      rw [FormValues.image_of_none hget]
      rfl
  | some value =>
      rw [FormValues.image_eq hget]
      exact (h.values key value hget).trimmed

theorem FormValues.isPartialFor_of_entries {values : FormValues} {template : PlatformTemplate}
    {shape : String → ValueShape} (hkeys : ∀ key ∈ values.keys, key ∈ template.placeholders)
    (h : ∀ entry ∈ values.entries, IsBenign template.id (shape entry.1) entry.2.toList) :
    values.IsPartialFor template shape where
  keys key hkey := hkeys key (FormValues.contains_iff_mem_keys.mp hkey)
  values key value hget := h (key, value) (FormValues.get?_eq_some_iff.mp hget)

theorem FormValues.isBenignFor_of_entries {values : FormValues} {template : PlatformTemplate}
    {shape : String → ValueShape} (hkeys : values.keys = template.placeholders)
    (h : ∀ entry ∈ values.entries, IsBenign template.id (shape entry.1) entry.2.toList) :
    values.IsBenignFor template shape where
  keys key := by rw [FormValues.contains_iff_mem_keys, hkeys]
  values key value hget := h (key, value) (FormValues.get?_eq_some_iff.mp hget)

end Receipts
