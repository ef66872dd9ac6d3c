import Receipts.Proofs.Mail.Refusals
import Receipts.Proofs.Photo.Refusals
import Receipts.Proofs.Web.Conversions
import Receipts.Proofs.Web.Delivery

/-!
# Refusals behind the service

A collaborator that refuses is answered with 502 and its words. Those of an email provider are its
own wherever its answer is a document with a reason or no document, and they are blank only if the
reason is. Those of a vision model are also blank if its answer is.
-/

namespace Receipts.Web

open Json (Input IsObjectDocument IsTextOf)
open Mail (Provider)
open Photo (VisionModel)

/-- The answer that tells what a collaborator said. -/
def relayed (words : String) : Answer :=
  .document 502 (.object [("code", Json.ofNat 502), ("error", .text words)])

variable {reply : Http.Reply}

/-! ## The provider's own words -/

/-- A refusal with a message and another member. -/
def quotaRefusal : Http.Reply where
  status := 429
  body := Text.utf8 "\x7b\"code\":[7],\"message\":\"Quota\"\x7d"

/-- The members of a refusal with a message and another member. -/
def quotaMembers : List (String × Input) :=
  [("code", .ofString "[7]"), ("message", .ofString "\"Quota\"")]

theorem isObjectDocument_quotaRefusal :
    IsObjectDocument quotaMembers (Input.ofString quotaRefusal.text) :=
  Json.isObjectDocument_of_recording rfl

/-- A refusal with a message and an error that is no text. -/
def nestedRefusal : Http.Reply where
  status := 429
  body := Text.utf8 "\x7b\"message\":\"Quota\",\"error\":\x7b\"code\":7\x7d\x7d"

/-- A refusal without a word. -/
def silentRefusal : Http.Reply where
  status := 500
  body := []

/-- A refusal whose message is empty. -/
def emptyMessageRefusal : Http.Reply where
  status := 422
  body := Text.utf8 "\x7b\"message\":\"\"\x7d"

end Receipts.Web
