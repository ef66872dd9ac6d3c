import Receipts.Catalog
import Receipts.FormValues
import Receipts.Json.Format
import Receipts.Render

/-!
# Drafts

A draft is what editing hands to sending: the finished HTML, and what is known
of subject, sender and platform. It is kept as a document whose optional members
are left out when they have no value.
-/

namespace Receipts

open Json (present textMember textOrNullMember)

/-- A receipt between editing and sending. -/
structure Draft where
  html : String
  subject : Option String := none
  fromName : Option String := none
  fromEmail : Option String := none
  platform : Option String := none
  deriving DecidableEq, Repr

namespace Draft

/-- The key that a draft is stored under between the two steps. -/
def storageKey : String := "receiptDraft"

/-- The draft of a catalog template, with its default subject. A platform that is not in the catalog
gives a draft without HTML. -/
def ofPlatform (platform : String) (values : FormValues) : Draft where
  html := render (Catalog.html platform) values
  subject := (Catalog.find? platform).map PlatformTemplate.subject
  platform := some platform

/-- A draft can be sent when its HTML is not blank. -/
def validate (draft : Draft) : Except ReceiptError Unit :=
  if Text.blank draft.html then .error .emptyDraft else .ok ()

/-- The shape of a draft. -/
def shape : Json.Shape :=
  .record "ReceiptDraft" (.ofList
    [textMember "html" .required,
     textOrNullMember "subject" .optional,
     textOrNullMember "fromName" .optional,
     textOrNullMember "fromEmail" .optional,
     textOrNullMember "platform" .optional])

/-- The draft that a document describes. -/
def ofJson (json : Json) : Draft where
  html := json.textAt "html"
  subject := json.textAt? "subject"
  fromName := json.textAt? "fromName"
  fromEmail := json.textAt? "fromEmail"
  platform := json.textAt? "platform"

/-- The document of a draft. -/
def toJson (draft : Draft) : Json :=
  .object
    (("html", .text draft.html)
      :: (present "subject" draft.subject ++ present "fromName" draft.fromName
        ++ present "fromEmail" draft.fromEmail ++ present "platform" draft.platform))

/-- The format of a draft. -/
def format : Json.Format Draft := ⟨shape, ofJson, toJson⟩

/-- The draft as it is stored. -/
def stored (draft : Draft) : String :=
  format.text draft

/-- Reads a stored draft. -/
def load (s : String) : Except ReceiptError Draft :=
  match format.ofText s with
  | .ok draft => .ok draft
  | .error fault => .error (.unreadableDraft fault)

end Draft

end Receipts
