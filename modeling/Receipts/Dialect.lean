/-!
# Dialects

A dialect is a list of patterns written against the wording of one receipt. The
first group of a pattern is the value of its key. A document without that
wording gives no value, which is better than a guess.
-/

namespace Receipts

/-- A key, and the written pattern whose first group is its value. -/
structure Rule where
  key : String
  pattern : String
  deriving DecidableEq, Repr

/-- The patterns for one kind of receipt. -/
structure Dialect where
  name : String
  rules : List Rule
  deriving DecidableEq, Repr

namespace Dialect

/-- The address of a mail link. -/
def mailAddress : String := "mailto:([^\"'?>\\s]+)"

/-- Patterns for the wording that order confirmations share. -/
def generic : Dialect where
  name := "generic"
  rules :=
    [⟨"BUYER_NAME", "Thanks for your order,\\s*([^<!]+)"⟩,
     ⟨"TOTAL_AMOUNT", "\\$(\\d+(?:\\.\\d+)?)"⟩,
     ⟨"ORDER_ID", "#([A-Za-z0-9_-]+)\\s*</"⟩,
     ⟨"SELLER_EMAIL", mailAddress⟩]

/-- Patterns for the Beacons receipt. -/
def beacons : Dialect where
  name := "beacons"
  rules :=
    [⟨"BUYER_NAME", "Thanks for your order,\\s*([^<!]+)"⟩,
     ⟨"SELLER_NAME", "Here is your receipt from ([^<]+?)\\. Keep it"⟩,
     ⟨"SELLER_LOGO_URL", "<img class=\"logo\" src=\"([^\"]*)\""⟩,
     ⟨"ORDER_ID", "Order</td>\\s*<td[^>]*>#([^<]+)</td>"⟩,
     ⟨"DATE_PAID", "Date paid</td>\\s*<td[^>]*>([^<]+)</td>"⟩,
     ⟨"PAYMENT_METHOD", "Payment method</td>\\s*<td[^>]*>([^<]+)</td>"⟩,
     ⟨"PRODUCT_IMAGE_URL", "<img class=\"thumb\" src=\"([^\"]*)\""⟩,
     ⟨"PRODUCT_NAME", "<td>([^<]+)</td>\\s*<td class=\"right\">\\$"⟩,
     ⟨"PRODUCT_PRICE", "<td>[^<]+</td>\\s*<td class=\"right\">\\$(\\d+(?:\\.\\d+)?)</td>"⟩,
     ⟨"TOTAL_AMOUNT", "Total</td>\\s*<td[^>]*>\\$(\\d+(?:\\.\\d+)?)"⟩,
     ⟨"BUYER_EMAIL", "receipt was sent to ([^<\\s]+?)\\.</p>"⟩,
     ⟨"SELLER_EMAIL", mailAddress⟩]

/-- Patterns for the Stan Store receipt. -/
def stanStore : Dialect where
  name := "stanstore"
  rules :=
    [⟨"BUYER_NAME", "Hi ([^<]+?), your purchase is confirmed"⟩,
     ⟨"PRODUCT_NAME", "You just bought <strong>([^<]+)</strong>"⟩,
     ⟨"CREATOR_NAME", "</strong> from ([^<]+?)'s Stan Store"⟩,
     ⟨"CREATOR_PHOTO_URL", "<div class=\"banner\">\\s*<img src=\"([^\"]*)\""⟩,
     ⟨"PRODUCT_IMAGE_URL", "<td width=\"110\"><img src=\"([^\"]*)\""⟩,
     ⟨"ACCESS_LINK", "href=\"([^\"]*)\">Access your purchase"⟩,
     ⟨"ORDER_ID", "Receipt #([^<\\s]+)"⟩,
     ⟨"PURCHASE_DATE", "Purchase date</td>\\s*<td[^>]*>([^<]+)</td>"⟩,
     ⟨"TOTAL_AMOUNT", "Amount paid</td>\\s*<td[^>]*>\\$(\\d+(?:\\.\\d+)?)"⟩,
     ⟨"BUYER_EMAIL", "Billed to</td>\\s*<td[^>]*>([^<]+)</td>"⟩,
     ⟨"CREATOR_EMAIL", mailAddress⟩]

/-- Patterns for the Fanbasis receipt. -/
def fanbasis : Dialect where
  name := "fanbasis"
  rules :=
    [⟨"CREATOR_AVATAR_IMAGE", "<img class=\"avatar\" src=\"([^\"]*)\""⟩,
     ⟨"CREATOR_NAME", "class=\"creator\">([^<]+)</span>"⟩,
     ⟨"AMOUNT", "class=\"amount\">\\$(\\d+(?:\\.\\d+)?)"⟩,
     ⟨"BUYER_NAME", "class=\"caption\">([^<]+?), thank you for supporting"⟩,
     ⟨"PLAN_NAME", "Plan</td>\\s*<td[^>]*>([^<]+)</td>"⟩,
     ⟨"BILLING_DATE", "Billing date</td>\\s*<td[^>]*>([^<]+)</td>"⟩,
     ⟨"CARD_LAST4", "Card ending in (\\d\x7b4\x7d)"⟩,
     ⟨"TRANSACTION_ID", "Transaction ID</td>\\s*<td[^>]*>([^<]+)</td>"⟩,
     ⟨"BUYER_EMAIL", "Receipt sent to</td>\\s*<td[^>]*>([^<]+)</td>"⟩,
     ⟨"SUPPORT_EMAIL", mailAddress⟩]

/-- The dialect of a catalog template, the shared one for any other name. -/
def ofPlatform (id : String) : Dialect :=
  match id with
  | "beacons" => beacons
  | "stanstore" => stanStore
  | "fanbasis" => fanbasis
  | _ => generic

/-- The keys that a dialect can recover, in rule order. -/
def keys (dialect : Dialect) : List String :=
  dialect.rules.map Rule.key

end Dialect

end Receipts
