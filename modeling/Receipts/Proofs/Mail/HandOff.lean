import Receipts.Draft
import Receipts.Mail.SendRequest
import Receipts.Proofs.Json.Records

/-!
# Records that are handed on

Drafts, emails and requests are read back from the documents they are written as, whatever texts
they hold and whichever of their optional members have a value. A draft is also the document of a
request: the request has the members that both know, nobody to go to, and the validation that the
draft has, with the subject and the recipient added.
-/

namespace Receipts

open Json (AreTexts)

/-! ## Drafts -/

namespace Draft

/-- The names of the members of a draft. -/
def names : List String := ["html", "subject", "fromName", "fromEmail", "platform"]

theorem exists_areTexts (draft : Draft) : ∃ given, draft.toJson = .object given ∧
    AreTexts names given ∧ given.lookup "html" = some (.text draft.html) := by
  have htexts := (AreTexts.single "html" draft.html).append
    ((((AreTexts.present "subject" draft.subject).append
      (.present "fromName" draft.fromName)).append
      (.present "fromEmail" draft.fromEmail)).append (.present "platform" draft.platform))
  exact ⟨_, rfl, htexts, rfl⟩

theorem format_looksAt : format.LooksAt names := by
  intro json other h
  simp only [names, List.forall_mem_cons] at h
  simp only [format, ofJson, Json.textAt, Json.textAt?, h]

theorem ofJson_toJson (draft : Draft) : ofJson draft.toJson = draft := by
  simp [ofJson, toJson, List.lookup_cons, List.lookup_append]

theorem ofText_text (draft : Draft) : format.ofText (format.text draft) = .ok draft := by
  obtain ⟨given, hgiven, htexts, hhtml⟩ := draft.exists_areTexts
  have hread := Json.Format.ofText_render format rfl format_looksAt (by decide)
    (htexts.accepts (by decide) 126) (by decide)
    (by simp [Json.Members.missing?, Json.Members.ofList, Json.textMember, Json.textOrNullMember,
      hhtml])
  rw [← hgiven] at hread
  exact hread.trans (congrArg Except.ok draft.ofJson_toJson)

end Draft

/-! ## Emails -/

namespace Email

/-- The names of the members of an email. -/
def names : List String := ["from", "to", "subject", "html", "text"]

theorem format_looksAt : format.LooksAt names := by
  intro json other h
  simp only [names, List.forall_mem_cons] at h
  simp only [format, ofJson, Json.textAt, Json.textAt?, Json.textsAt, h]

theorem ofJson_toJson (email : Email) : ofJson email.toJson = email := by
  have hrecipients :
      (email.recipients.map Json.text).filterMap Json.asText? = email.recipients := by
    rw [List.filterMap_map]
    exact List.filterMap_some
  simp [ofJson, toJson, Json.textsAt, Json.items, List.lookup_cons, hrecipients]

theorem ofText_text (email : Email) : format.ofText (format.text email) = .ok email := by
  have hsender := AreTexts.single "from" email.sender
  have hrecipients := Json.Shape.readsBack_list_texts "a string" 125 email.recipients
  have hlater := ((AreTexts.single "subject" email.subject).append
    (.single "html" email.html)).append (.present "text" email.text)
  have hread := Json.Format.ofText_render format rfl format_looksAt (by decide)
    ((hsender.accepts (by decide) 126).append
      ((Json.Members.Accepts.single "to" rfl hrecipients).append
        (hlater.accepts (by decide) 126))) (by decide) rfl
  exact hread.trans (congrArg Except.ok email.ofJson_toJson)

end Email

/-! ## Requests -/

namespace SendRequest

/-- The names of the members of a request. -/
def names : List String := ["to", "subject", "fromName", "fromEmail", "html"]

theorem format_looksAt : format.LooksAt names := by
  intro json other h
  simp only [names, List.forall_mem_cons] at h
  simp only [format, ofJson, Json.textAt, Json.textAt?, h]

theorem ofJson_toJson (request : SendRequest) : ofJson request.toJson = request := by
  simp [ofJson, toJson, List.lookup_cons, List.lookup_append]

theorem exists_areTexts (request : SendRequest) : ∃ given, request.toJson = .object given ∧
    AreTexts names given := by
  have htexts := ((((AreTexts.single "to" request.recipient).append
    (.single "subject" request.subject)).append (.present "fromName" request.fromName)).append
      (.present "fromEmail" request.fromEmail)).append (.single "html" request.html)
  exact ⟨_, rfl, htexts⟩

theorem ofText_text (request : SendRequest) :
    format.ofText (format.text request) = .ok request := by
  obtain ⟨given, hgiven, htexts⟩ := request.exists_areTexts
  have hread := Json.Format.ofText_render format rfl format_looksAt (by decide)
    (htexts.accepts (by decide) 126) (by decide) rfl
  rw [← hgiven] at hread
  exact hread.trans (congrArg Except.ok request.ofJson_toJson)

theorem missing_eq (request : SendRequest) : request.missing
    = (if Text.blank request.recipient then ["to"] else [])
      ++ ((if Text.blank request.subject then ["subject"] else [])
        ++ if Text.blank request.html then ["html"] else []) := by
  simp only [missing, List.filter_cons, List.filter_nil]
  cases Text.blank request.recipient <;> cases Text.blank request.subject <;>
    cases Text.blank request.html <;> rfl

theorem validate_eq_ok_iff (request : SendRequest) : request.validate = .ok () ↔
    Text.blank request.recipient = false ∧ Text.blank request.subject = false ∧
      Text.blank request.html = false := by
  rw [validate, missing_eq]
  cases Text.blank request.recipient <;> cases Text.blank request.subject <;>
    cases Text.blank request.html <;> simp

end SendRequest

/-! ## From one record to the next -/

/-- Drafts, emails and requests are read back from what is written of them. -/
theorem readBack_of_handOff :
    (∀ draft : Draft, Draft.load draft.stored = .ok draft) ∧
    (∀ email : Email, Email.format.ofText (Email.format.text email) = .ok email) ∧
    ∀ request : SendRequest,
      SendRequest.format.ofText (SendRequest.format.text request) = .ok request := by
  refine ⟨fun draft => ?_, Email.ofText_text, SendRequest.ofText_text⟩
  rw [Draft.load, Draft.stored, draft.ofText_text]

namespace Draft

/-- The request that a draft makes, which goes to nobody yet. -/
def request (draft : Draft) : SendRequest where
  subject := draft.subject.getD ""
  fromName := draft.fromName
  fromEmail := draft.fromEmail
  html := draft.html

theorem requestOfJson_toJson (draft : Draft) :
    SendRequest.ofJson draft.toJson = draft.request := by
  simp [SendRequest.ofJson, request, toJson, List.lookup_cons, List.lookup_append]

theorem requestOfText_stored (draft : Draft) :
    SendRequest.format.ofText draft.stored = .ok draft.request := by
  obtain ⟨given, hgiven, htexts, -⟩ := draft.exists_areTexts
  have hread := Json.Format.ofText_render SendRequest.format rfl
    SendRequest.format_looksAt (by decide) (htexts.accepts (by decide) 126) (by decide) rfl
  rw [← hgiven] at hread
  exact hread.trans (congrArg Except.ok draft.requestOfJson_toJson)

theorem validate_eq_ok_iff (draft : Draft) :
    draft.validate = .ok () ↔ Text.blank draft.html = false := by
  rw [validate]
  cases Text.blank draft.html <;> simp

theorem blank_getD_eq_false_iff (subject : Option String) :
    Text.blank (subject.getD "") = false ↔ ∃ s, subject = some s ∧ Text.blank s = false := by
  cases subject <;> simp [Text.blank]

end Draft

/-- The stored draft is the document of a request that has what the draft has and goes to nobody.
The request is refused for want of a recipient, and of subject and HTML as these are blank. Once it
has a recipient, it is valid if the draft is and has a subject that is not blank. -/
theorem ofText_stored (draft : Draft) : ∃ request : SendRequest,
    SendRequest.format.ofText draft.stored = .ok request ∧
    request.recipient = "" ∧ request.subject = draft.subject.getD "" ∧
    request.fromName = draft.fromName ∧ request.fromEmail = draft.fromEmail ∧
    request.html = draft.html ∧
    request.validate = .error (.incomplete (.missingFields
      ("to" :: ((if Text.blank request.subject then ["subject"] else [])
        ++ if Text.blank request.html then ["html"] else [])))) ∧
    ∀ recipient, Text.blank recipient = false →
      ({ request with recipient }.validate = .ok () ↔
        draft.validate = .ok () ∧
          ∃ subject, draft.subject = some subject ∧ Text.blank subject = false) := by
  refine ⟨draft.request, draft.requestOfText_stored, rfl, rfl, rfl, rfl, rfl, ?_, ?_⟩
  · have hnobody : Text.blank draft.request.recipient = true := rfl
    have hmissing := draft.request.missing_eq
    rw [hnobody, if_pos rfl, List.singleton_append] at hmissing
    rw [SendRequest.validate, hmissing]
    rfl
  · intro recipient hrecipient
    rw [SendRequest.validate_eq_ok_iff, Draft.validate_eq_ok_iff, ← Draft.blank_getD_eq_false_iff]
    show Text.blank recipient = false ∧ Text.blank (draft.subject.getD "") = false ∧
      Text.blank draft.html = false ↔ _
    rw [and_comm (a := Text.blank draft.html = false)]
    exact and_iff_right hrecipient

/-- A draft with quotes, a line end and a control character in it. -/
def writtenDraft : Draft where
  html := "<p title=\"a\\b\">Thanks,\nAna\x01</p>"
  subject := some "Your receipt"
  fromName := some ""
  platform := some "beacons"

theorem ofText_stored_writtenDraft : Text.blank "ana@example.com" = false ∧
    ∃ request : SendRequest, SendRequest.format.ofText writtenDraft.stored = .ok request ∧
      request.fromName = some "" ∧ request.fromEmail = none ∧
      { request with recipient := "ana@example.com" }.validate = .ok () := by
  have hrecipient : Text.blank "ana@example.com" = false := by decide +kernel
  obtain ⟨request, hread, -, -, hname, hemail, -, -, hvalid⟩ := ofText_stored writtenDraft
  refine ⟨hrecipient, request, hread, hname, hemail, (hvalid _ hrecipient).mpr ?_⟩
  exact ⟨(Draft.validate_eq_ok_iff _).mpr (by decide +kernel), _, rfl, by decide +kernel⟩

end Receipts
