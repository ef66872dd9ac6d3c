import Receipts.Mail.Email

/-!
# The email provider

A provider takes emails as JSON documents at one address and answers with the id
of the message. When it refuses an email, its own words are the error: the member
`message` of its answer, else the member `error`, else the whole answer, and the
status when the answer is blank.
-/

namespace Receipts.Mail

open Json (present textMember textOrNullMember)

/-- What a provider is given of an email. -/
structure Payload where
  sender : String
  recipients : List String
  subject : String
  html : String
  text : Option String
  deriving DecidableEq, Repr

namespace Payload

/-- All that an email holds. -/
def ofEmail (email : Email) : Payload where
  sender := email.sender
  recipients := email.recipients
  subject := email.subject
  html := email.html
  text := email.text

/-- The document that a provider is sent, without a text if there is none. -/
def toJson (payload : Payload) : Json :=
  .object
    ([("from", .text payload.sender),
      ("to", .list (payload.recipients.map .text)),
      ("subject", .text payload.subject),
      ("html", .text payload.html)]
      ++ present "text" payload.text)

end Payload

/-- Where a provider is reached and under which key. -/
structure Provider where
  address : String
  key : String
  deriving DecidableEq, Repr

/-- The id that a transport gives to a message. -/
abbrev MessageId := String

namespace Provider

/-- The address that is used unless another one is set. -/
def defaultAddress : String := "https://api.resend.com"

/-- An address without the slashes at its end. -/
def withoutSlashes (address : String) : String :=
  String.ofList (address.toList.reverse.dropWhile (· == '/')).reverse

/-- The provider with this key, which must not be blank, at this address. -/
def connect (key : String) (address : String := defaultAddress) : Except MailError Provider :=
  if Text.blank key then .error (.setting .emptyKey)
  else .ok ⟨withoutSlashes address, key⟩

/-- The call that hands an email to a provider. -/
def call (provider : Provider) (email : Email) : Except MailError Http.Call :=
  (Http.call? (provider.address ++ "/emails") provider.key
    (Payload.ofEmail email).toJson.render).mapError .exchange

/-- The shape of a refusal that gives its reason. -/
def refusalShape : Json.Shape :=
  .record "ProviderError" (.ofList
    [textOrNullMember "message" .nullable, textOrNullMember "error" .nullable])

/-- The words in a refusal that is a document with a reason. -/
def statedReason? (body : String) : Option String :=
  match refusalShape.parse (Json.Input.ofString body) with
  | .error _ => none
  | .ok json => (json.textAt? "message").or (json.textAt? "error")

/-- The words of a refusal. -/
def refusalWords (status : Nat) (body : String) : String :=
  match statedReason? body with
  | some words => words
  | none => if Text.blank body then "Email API returned " ++ Http.statusText status else body

/-- The format of an acceptance, which is the id of the message. -/
def acceptance : Json.Format MessageId where
  shape := .record "SendResponse" (.ofList [textMember "id" .required])
  ofJson json := json.textAt "id"
  toJson id := .object [("id", .text id)]

/-- What a reply says about an email. -/
def outcome (reply : Http.Reply) : Except MailError MessageId :=
  if Http.isSuccess reply.status then
    (acceptance.parse (Json.Input.ofBytes reply.content)).mapError fun _ =>
      .exchange .unreadableReply
  else .error (.refused reply.status (refusalWords reply.status reply.text))

/-- Hands an email to a provider. -/
def send {m : Type → Type} [Monad m] (exchange : Http.Exchange m) (provider : Provider)
    (email : Email) : m (Except MailError MessageId) :=
  match provider.call email with
  | .error error => pure (.error error)
  | .ok call => do
      let reply ← exchange call
      return match Http.answered call reply with
        | .ok reply => outcome reply
        | .error failure => .error (.exchange failure)

end Provider

end Receipts.Mail
