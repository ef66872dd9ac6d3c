import Receipts.Proofs.Http.Calls
import Receipts.Proofs.Mail.HandOff
import Receipts.Proofs.Text.Utf8
import Receipts.Proofs.Web.Orders

/-!
# Delivery through a provider

An ordered email is one call to the provider, under its key and with the email as the document. The
answer follows from the reply alone: an acceptance gives the id of the message, and whatever else
the provider says is passed on as the failure of a collaborator, its refusals in its own words.
-/

namespace Receipts

namespace Mail.Provider

variable {key address : String} {url : Http.Url}

theorem connect_eq_ok (hkey : Text.blank key = false) :
    connect key address = .ok ⟨withoutSlashes address, key⟩ := by
  rw [connect, hkey]
  rfl

theorem call_eq_ok (provider : Provider) (hkey : provider.key.toList.all Http.isHeaderChar = true)
    (hurl : Http.LeadsTo (provider.address ++ "/emails") url) (email : Email) :
    provider.call email = .ok ⟨url, provider.key, Email.format.text email⟩ := by
  rw [call, Http.call?_eq_ok_iff.mpr ⟨hkey, url, hurl, rfl⟩]
  rfl

/-- What comes of an email, by what comes of the call. -/
def delivered (call : Http.Call) (reply : Option Http.Reply) : Except MailError MessageId :=
  match Http.answered call reply with
  | .ok reply => outcome reply
  | .error failure => .error (.exchange failure)

/-- An email is handed over in one call. -/
theorem send_eq_map {m : Type → Type} [Monad m] [LawfulMonad m] (exchange : Http.Exchange m)
    {provider : Provider} {email : Email} {call : Http.Call}
    (hcall : provider.call email = .ok call) :
    provider.send exchange email = delivered call <$> exchange call := by
  rw [send, hcall]
  exact (map_eq_pure_bind (delivered call) (exchange call)).symm

end Mail.Provider

namespace Web

open Mail (Provider)

/-! ## Answers -/

/-- What a caller is answered about an email, by the provider's reply: the id of an acceptance, and
otherwise 502, with the words of a refusal. -/
structure AnswersDelivery (reply : Http.Reply) (answer : Answer) : Prop where
  accepted : 200 ≤ reply.status → reply.status < 300 → ∀ id,
    Provider.acceptance.parse (Json.Input.ofBytes reply.content) = .ok id →
      answer = .document 200 (.object [("messageId", .text id)])
  unread : 200 ≤ reply.status → reply.status < 300 → ∀ fault,
    Provider.acceptance.parse (Json.Input.ofBytes reply.content) = .error fault →
      answer = .document 502 (.object [("code", Json.ofNat 502),
        ("error", .text "HTTP client error: error decoding response body")])
  refused : ¬ (200 ≤ reply.status ∧ reply.status < 300) →
    answer = .document 502 (.object [("code", Json.ofNat 502),
      ("error", .text (Provider.refusalWords reply.status reply.text))])
  status : answer.status = 200 ∨ answer.status = 502

theorem answersDelivery_outcome (reply : Http.Reply) :
    AnswersDelivery reply (showSent (Provider.outcome reply)) where
  accepted hlow hhigh id hread := by
    rw [Provider.outcome, if_pos (Http.isSuccess_iff.mpr ⟨hlow, hhigh⟩), hread]
    rfl
  unread hlow hhigh fault hread := by
    rw [Provider.outcome, if_pos (Http.isSuccess_iff.mpr ⟨hlow, hhigh⟩), hread]
    rfl
  refused hstatus := by
    rw [Provider.outcome, if_neg (mt Http.isSuccess_iff.mp hstatus)]
    rfl
  status := by
    unfold Provider.outcome
    by_cases hstatus : Http.isSuccess reply.status = true
    · rw [if_pos hstatus]
      cases Provider.acceptance.parse (Json.Input.ofBytes reply.content) with
      | ok id => exact .inl rfl
      | error fault => exact .inr rfl
    · rw [if_neg hstatus]
      exact .inr rfl

/-! ## Requests -/

variable {service : Service} {request : Request} {asked : SendRequest} {email : Email}

/-- A request that is posted with the document of an email that has no defect hands it over. -/
theorem Service.handle_of_order (hbase : service.basePath = []) (hmethod : request.method = "POST")
    (hpath : request.path = "/send-email".toList)
    (hasked : request.document SendRequest.format = .ok asked)
    (hemail : asked.email service.sender = .ok email) :
    service.handle request = .send email showSent := by
  have hsplit : List.splitOn '/' request.path = [[], "send-email".toList] :=
    (splitOn_slash_eq_iff request.path).mpr hpath
  rw [handle_of_root hbase hmethod hsplit .sendEmail (by decide) rfl, visit,
    withDocument, hasked]
  show sendReceipt service.sender asked = _
  rw [sendReceipt, hemail]

/-! ## A provider on this machine -/

/-- Where a provider on this machine takes emails. -/
def localEmails : Http.Url :=
  ⟨"http".toList, [], none, some "[::1]".toList, some 8025, "/emails".toList, none, none⟩

theorem leadsTo_localEmails :
    Http.LeadsTo (Provider.withoutSlashes "http://[::1]:8025/" ++ "/emails") localEmails where
  read := by decide +kernel
  host := by decide +kernel
  web := .inl rfl
  callable := by decide +kernel

/-- A request that orders an email. -/
def ordering (asked : SendRequest) : Request :=
  .post "/send-email" "application/json" (Text.utf8 (SendRequest.format.text asked))

theorem document_ordering {asked : SendRequest}
    (hsize : (Text.utf8 (SendRequest.format.text asked)).length ≤ maxDocumentBytes) :
    (ordering asked).document SendRequest.format = .ok asked := by
  have hjson : (Request.post "" "application/json" []).mediaType?.any MediaType.isJson = true := by
    decide +kernel
  have hread := asked.ofText_text
  rw [Json.Format.ofText] at hread
  unfold ordering
  generalize SendRequest.format.text asked = text at hsize hread
  have hinput : Json.Input.ofBytes (Text.utf8 text) = Json.Input.ofString text :=
    Text.symbols_utf8 text
  rw [Request.document, Request.mediaType?_post, hjson, if_neg (by decide), Request.size_post,
    if_neg (Nat.not_lt.mpr hsize), Request.bytes_post, hinput, hread]
  rfl

/-- A receipt of one word. -/
def shortRequest : SendRequest :=
  { recipient := "ana@example.com", subject := "Receipt", html := "<p>Thanks</p>" }

/-- The email that a receipt of one word becomes. -/
def shortEmail : Email where
  sender := "shop@example.com"
  recipients := ["ana@example.com"]
  subject := "Receipt"
  html := "<p>Thanks</p>"
  text := some "Thanks"

/-- The call that hands over a receipt of one word. -/
def shortCall : Http.Call := ⟨localEmails, "re_1", Email.format.text shortEmail⟩

/-- What comes of the order of a receipt of one word, with the calls that are made. -/
def shortOrder (provider : Provider) (reply : Http.Reply) : Answer × List Http.Call :=
  ((Service.handle { sender := ⟨"shop@example.com", none⟩ } (ordering shortRequest)).run
    (provider.send (Http.noting reply)) fun _ => return .error .emptyReply).run []

/-! ## Orders -/

end Web

end Receipts
