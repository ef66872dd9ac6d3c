import Receipts.Mail.Email
import Receipts.Mail.Mailbox

/-!
# Messages

An email is written as a message of headers and parts. With a text body it has
two parts, text before HTML, of which a reader shows the last one it can. Lines
end in CRLF throughout. Headers are written on one line each.
-/

namespace Receipts.Mail

/-- The parts of a message that are not in the email. -/
structure Envelope where
  boundary : String
  date : Option String := none
  deriving DecidableEq, Repr

/-- A text in which every line ends in CRLF. -/
def crlf : List Char → List Char
  | [] => []
  | '\r' :: '\n' :: s => '\r' :: '\n' :: crlf s
  | '\n' :: s => '\r' :: '\n' :: crlf s
  | c :: s => c :: crlf s

/-- Lines of a message. -/
def messageLines (lines : List String) : String :=
  String.join (lines.map (· ++ "\x0d\n"))

/-- A body with its own headers. -/
def bodyPart (type body : String) : String :=
  let encoding := if body.toList.all fun c => c.toNat < 0x80 then "7bit" else "8bit"
  messageLines
    ["Content-Type: text/" ++ type ++ "; charset=utf-8",
     "Content-Transfer-Encoding: " ++ encoding,
     "",
     String.ofList (crlf body.toList)]

/-- The bodies of an email with their headers. -/
def bodyParts (boundary : String) (email : Email) : String :=
  match email.text with
  | none => bodyPart "html" email.html
  | some text =>
      messageLines
        ["Content-Type: multipart/alternative;",
         " boundary=\"" ++ boundary ++ "\"",
         "",
         "--" ++ boundary]
        ++ bodyPart "plain" text
        ++ messageLines ["--" ++ boundary]
        ++ bodyPart "html" email.html
        ++ messageLines ["--" ++ boundary ++ "--"]

/-- The mailboxes of a header. -/
def mailboxesText (mailboxes : List Mailbox) : String :=
  String.ofList ([',', ' '].intercalate (mailboxes.map Mailbox.shown))

/-- The message of an email, once its addresses are known. -/
def messageText (envelope : Envelope) (sender : Mailbox) (recipients : List Mailbox)
    (email : Email) : String :=
  messageLines
    (["From: " ++ mailboxesText [sender],
      "Subject: " ++ String.ofList (headerText email.subject.toList),
      "To: " ++ mailboxesText recipients]
      ++ (envelope.date.map ("Date: " ++ ·)).toList
      ++ ["MIME-Version: 1.0"])
    ++ bodyParts envelope.boundary email

end Receipts.Mail

namespace Receipts

open Mail (Envelope Mailbox)

/-- The message of an email. The email has to be complete and its addresses readable. -/
def Email.message (email : Email) (envelope : Envelope) : Except MailError String := do
  email.validate
  let sender ← (Mailbox.ofText email.sender).mapError .address
  let recipients ← (email.recipients.mapM Mailbox.ofText).mapError .address
  return Mail.messageText envelope sender recipients email

end Receipts
