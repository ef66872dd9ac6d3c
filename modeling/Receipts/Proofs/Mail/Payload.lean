import Receipts.Proofs.Json.Objects
import Receipts.Proofs.Web.Delivery

/-!
# What a provider is sent

The payload that a provider is sent is a record of its own. It is written as the email itself is
written, so nothing of the email is lost on the way, and a reader of emails gets it back. Whether
the provider can be reached is not treated here.
-/

namespace Receipts.Mail

theorem Payload.toJson_ofEmail (email : Email) :
    (Payload.ofEmail email).toJson = email.toJson := rfl

namespace Provider

variable {provider : Provider} {email : Email} {call : Http.Call}

theorem body_of_call (h : provider.call email = .ok call) :
    call.body = Email.format.text email := by
  rw [Provider.call, Payload.toJson_ofEmail] at h
  cases hcall : Http.call? (provider.address ++ "/emails") provider.key email.toJson.render with
  | error failure =>
      rw [hcall] at h
      cases h
  | ok made =>
      rw [hcall] at h
      obtain rfl : made = call := Except.ok.inj h
      obtain ⟨-, url, -, rfl⟩ := Http.call?_eq_ok_iff.mp hcall
      rfl

/-- The members of an email's document, in their order. -/
def emailMembers (email : Email) : List (String × Json) :=
  [("from", .text email.sender), ("to", .list (email.recipients.map .text)),
    ("subject", .text email.subject), ("html", .text email.html)]
    ++ Json.present "text" email.text

theorem parse_emailMembers (email : Email) :
    Json.parse (Json.Input.ofString (Email.format.text email))
      = .ok (.object (emailMembers email)) := by
  refine Json.parse_object fun member hm rest => ?_
  simp only [List.mem_append, List.mem_cons, List.not_mem_nil, or_false] at hm
  rcases hm with (rfl | rfl | rfl | rfl) | hm
  · exact Json.Read.value_text 126 _ rest
  · exact Json.Read.value_list_texts 125 _ rest
  · exact Json.Read.value_text 126 _ rest
  · exact Json.Read.value_text 126 _ rest
  · obtain ⟨s, hs⟩ := (Json.AreTexts.present "text" email.text).texts member hm
    rw [hs, Json.Read.value_text]

/-- An email is handed over in one call whose document is the email's own, character for character.
Read as an email it gives the email back, and read as any document it has just the members of the
email: a text if the email has one. -/
theorem send_document (h : provider.call email = .ok call) :
    (∀ (m : Type → Type) [Monad m] [LawfulMonad m] (exchange : Http.Exchange m),
      provider.send exchange email = delivered call <$> exchange call) ∧
    call.body = Email.format.text email ∧
    Email.format.ofText call.body = .ok email ∧
    ∃ members, Json.parse (Json.Input.ofString call.body) = .ok (.object members) ∧
      members.map (·.1)
        = ["from", "to", "subject", "html"] ++ (if email.text.isSome then ["text"] else []) ∧
      members.lookup "from" = some (.text email.sender) ∧
      members.lookup "to" = some (.list (email.recipients.map .text)) ∧
      members.lookup "subject" = some (.text email.subject) ∧
      members.lookup "html" = some (.text email.html) ∧
      members.lookup "text" = email.text.map .text := by
  have hbody := body_of_call h
  refine ⟨fun m _ _ exchange => send_eq_map exchange h, hbody, ?_, emailMembers email, ?_, ?_⟩
  · rw [hbody, Email.ofText_text]
  · rw [hbody, parse_emailMembers]
  · refine ⟨?_, rfl, rfl, rfl, rfl, ?_⟩
    · cases htext : email.text <;> simp [emailMembers, Json.present, htext]
    · simp [emailMembers, List.lookup_cons]

/-- An email to two recipients with quotes, a line end, a control character and no text. -/
def quotedEmail : Email where
  sender := "\"Lima, Ana\" <shop@example.com>"
  recipients := ["ana@example.com", "bo@example.com"]
  subject := "Olá \\ \x01"
  html := "<p class=\"a\">\n</p>"

theorem send_document_quotedEmail : ∃ call,
    Provider.call ⟨withoutSlashes "http://[::1]:8025/", "re_1"⟩ quotedEmail = .ok call ∧
      Email.format.ofText call.body = .ok quotedEmail ∧
      ∃ members, Json.parse (Json.Input.ofString call.body) = .ok (.object members) ∧
        members.lookup "to" = some (.list [.text "ana@example.com", .text "bo@example.com"]) ∧
        members.lookup "text" = none := by
  have hcall := call_eq_ok ⟨withoutSlashes "http://[::1]:8025/", "re_1"⟩ (by decide +kernel)
    Web.leadsTo_localEmails quotedEmail
  obtain ⟨-, -, hread, members, hmembers, -, -, hto, -, -, htext⟩ := send_document hcall
  exact ⟨_, hcall, hread, members, hmembers, hto, htext⟩

end Provider

end Receipts.Mail
