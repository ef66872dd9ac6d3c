import Receipts.Mail.Email
import Receipts.Mail.Sender
import Receipts.PlainText

/-!
# Requests to send a receipt

A request carries a finished receipt and may name its own sender. It becomes an
email with the receipt as its HTML body and the text of the receipt as the
alternative.
-/

namespace Receipts

open Json (present textMember textOrNullMember)

/-- A request to send a receipt. -/
structure SendRequest where
  recipient : String := ""
  subject : String := ""
  fromName : Option String := none
  fromEmail : Option String := none
  html : String := ""
  deriving DecidableEq, Repr

/-- A text without blanks at its ends, nothing if that leaves nothing. -/
def nonBlank (s : String) : Option String :=
  if Text.blank s then none else some (Text.trimmed s)

namespace SendRequest

/-- The names of the members that are blank. -/
def missing (request : SendRequest) : List String :=
  ([("to", request.recipient), ("subject", request.subject), ("html", request.html)].filter
    fun member => Text.blank member.2).map (·.1)

/-- Recipient, subject and HTML have to be there. -/
def validate (request : SendRequest) : Except MailError Unit :=
  if request.missing.isEmpty then .ok ()
  else .error (.incomplete (.missingFields request.missing))

/-- The sender with what the request says instead; blanks say nothing. -/
def sender (request : SendRequest) (configured : Sender) : Sender where
  address := (request.fromEmail.bind nonBlank).getD configured.address
  name := (request.fromName.bind nonBlank).or configured.name

/-- The email that a request asks for. -/
def email (request : SendRequest) (configured : Sender) : Except MailError Email := do
  request.validate
  let unsigned : Email :=
    { sender := (request.sender configured).formatted
      recipients := [Text.trimmed request.recipient]
      subject := Text.trimmed request.subject
      html := request.html }
  let email := unsigned.withText (PlainText.ofHtml request.html)
  email.validate
  return email

/-- The shape of a request. -/
def shape : Json.Shape :=
  .record "SendEmailRequest" (.ofList
    [textMember "to" .optional,
     textMember "subject" .optional,
     textOrNullMember "fromName" .optional,
     textOrNullMember "fromEmail" .optional,
     textMember "html" .optional])

/-- The request that a document describes. -/
def ofJson (json : Json) : SendRequest where
  recipient := json.textAt "to"
  subject := json.textAt "subject"
  fromName := json.textAt? "fromName"
  fromEmail := json.textAt? "fromEmail"
  html := json.textAt "html"

/-- The document of a request. -/
def toJson (request : SendRequest) : Json :=
  .object
    ([("to", .text request.recipient), ("subject", .text request.subject)]
      ++ present "fromName" request.fromName ++ present "fromEmail" request.fromEmail
      ++ [("html", .text request.html)])

/-- The format of a request. -/
def format : Json.Format SendRequest := ⟨shape, ofJson, toJson⟩

end SendRequest

end Receipts
