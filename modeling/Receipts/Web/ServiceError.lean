import Receipts.Error
import Receipts.Mail.Error
import Receipts.Photo.Basic
import Receipts.Web.Message

/-!
# Errors of the service

An error is the caller's, the service's own, or that of a collaborator: the email
provider or the vision model. The words of a collaborator reach the caller
unchanged; what the service says of its own state stays general.
-/

namespace Receipts.Web

/-- An error that a request ends in. -/
inductive ServiceError where
  | badRequest (reason : String)
  | unscannable
  | unknownTemplate (id : String)
  | collaborator (words : String)
  | notConfigured (feature : String)
  | internal (reason : String)
  deriving DecidableEq, Repr

namespace ServiceError

/-- The status of the answer. -/
def status : ServiceError → Nat
  | badRequest _ | unscannable => 400
  | unknownTemplate _ => 404
  | collaborator _ => 502
  | notConfigured _ => 501
  | internal _ => 500

/-- What the answer says. -/
def words : ServiceError → String
  | badRequest reason => reason
  | unscannable => "failed to parse template"
  | unknownTemplate _ => "Template not found"
  | collaborator words => words
  | notConfigured feature => feature
  | internal reason => reason

/-- The error in words, with its kind. -/
def message : ServiceError → String
  | badRequest reason => "Invalid request: " ++ reason
  | unscannable => "failed to parse template"
  | unknownTemplate id => "Template not found: " ++ id
  | collaborator words => words
  | notConfigured feature => "Feature not configured: " ++ feature
  | internal reason => "Internal server error: " ++ reason

/-- The answer that reports an error. -/
def answer (error : ServiceError) : Answer :=
  .document error.status
    (.object [("code", Json.ofNat error.status), ("error", .text error.words)])

/-- The error that an error of the template engine becomes. -/
def ofReceipt (error : ReceiptError) : ServiceError :=
  match error with
  | .missingSource | .invalidPattern _ => .unscannable
  | .unknownTemplate id => .unknownTemplate id
  | .unreadableDraft _ | .emptyDraft => .badRequest error.reason

/-- The error that an error of mail becomes. -/
def ofMail (error : MailError) : ServiceError :=
  match error with
  | .address _ | .incomplete _ => .badRequest error.message
  | .setting defect => .internal defect.message
  | _ => .collaborator error.message

/-- The error that an error of a conversion becomes. -/
def ofPhoto (error : PhotoError) : ServiceError :=
  match error with
  | .unusable _ => .badRequest error.message
  | .setting reason => .internal reason
  | _ => .collaborator error.message

end ServiceError

end Receipts.Web
