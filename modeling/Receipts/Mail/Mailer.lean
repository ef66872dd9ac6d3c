import Receipts.Mail.Provider
import Receipts.Mail.SendRequest

/-!
# Mailers

A mailer sends the receipts of one configured sender. What is asked for is made
into an email first; only an email without defects reaches the transport.
-/

namespace Receipts.Mail

/-- What takes emails and says what became of them. -/
abbrev Transport (m : Type → Type) := Email → m (Except MailError MessageId)

/-- Sends what a request asks for. -/
def deliver {m : Type → Type} [Monad m] (transport : Transport m) (sender : Sender)
    (request : SendRequest) : m (Except MailError MessageId) :=
  match request.email sender with
  | .error error => pure (.error error)
  | .ok email => transport email

end Receipts.Mail
