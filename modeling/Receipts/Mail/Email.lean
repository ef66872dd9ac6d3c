import Receipts.Json.Format
import Receipts.Mail.Error
import Receipts.Text.Blank

/-!
# Emails

An email is fully addressed and always has an HTML body. A text body is an
alternative to it, and a blank one counts as none.
-/

namespace Receipts

open Json (present textMember textOrNullMember)

/-- An email as it is handed to a transport. -/
structure Email where
  sender : String
  recipients : List String
  subject : String
  html : String
  text : Option String := none
  deriving DecidableEq, Repr

namespace Email

/-- The email with this text body, unless it is blank. -/
def withText (email : Email) (text : String) : Email :=
  { email with text := if Text.blank text then none else some text }

/-- What keeps an email from being sent, if anything does. -/
def defect? (email : Email) : Option Mail.Defect :=
  if email.recipients.isEmpty || email.recipients.any Text.blank then some .recipient
  else if Text.blank email.sender then some .sender
  else if Text.blank email.subject then some .subject
  else if Text.blank email.html then some .body
  else none

/-- An email can be sent when it has no defect. -/
def validate (email : Email) : Except MailError Unit :=
  match email.defect? with
  | some defect => .error (.incomplete defect)
  | none => .ok ()

/-- The shape of an email. -/
def shape : Json.Shape :=
  .record "Email" (.ofList
    [textMember "from" .required,
     ("to", .required, .list (.text "a string")),
     textMember "subject" .required,
     textMember "html" .required,
     textOrNullMember "text" .optional])

/-- The email that a document describes. -/
def ofJson (json : Json) : Email where
  sender := json.textAt "from"
  recipients := json.textsAt "to"
  subject := json.textAt "subject"
  html := json.textAt "html"
  text := json.textAt? "text"

/-- The document of an email. -/
def toJson (email : Email) : Json :=
  .object
    ([("from", .text email.sender),
      ("to", .list (email.recipients.map .text)),
      ("subject", .text email.subject),
      ("html", .text email.html)]
      ++ present "text" email.text)

/-- The format of an email. -/
def format : Json.Format Email := ⟨shape, ofJson, toJson⟩

end Email

end Receipts
