import Receipts.Mail.SendRequest
import Receipts.Proofs.Mail.HandOff
import Receipts.Proofs.Text.Visible

/-!
# The email that a request makes

A complete request makes an email unless its sender is blank as a whole, text of the name and of the
brackets included. So a blank address is noticed only where no name stands beside it, and a blank
name is never noticed. What a request says of the sender is not blank, so such parts are configured
ones.
-/

namespace Receipts

namespace Text

theorem all_isBlank_iff {s : List Char} : s.all isBlank = true ↔ visibleChars s = [] := by
  rw [List.all_eq_true, visibleChars, List.filter_eq_nil_iff]
  simp

theorem blank_trimmed (s : String) : blank (trimmed s) = blank s := by
  rw [Bool.eq_iff_iff, blank, blank, toList_trimmed, all_isBlank_iff, all_isBlank_iff,
    visibleChars_trim]

end Text

open Text (blank trimmed)

namespace Sender

/-- Only a sender without a name can be blank as a whole. -/
theorem blank_formatted (sender : Sender) :
    blank sender.formatted = (sender.name.isNone && blank sender.address) := by
  cases hname : sender.name with
  | none => simp [formatted, hname]
  | some name =>
      have hbracket : Text.isBlank '<' = false := by decide
      simp [formatted, hname, blank, hbracket]

end Sender

namespace SendRequest

/-- The email that a complete request makes. -/
def composed (request : SendRequest) (configured : Sender) : Email where
  sender := (request.sender configured).formatted
  recipients := [trimmed request.recipient]
  subject := trimmed request.subject
  html := request.html
  text :=
    if blank (PlainText.ofHtml request.html) then none
    else some (PlainText.ofHtml request.html)

theorem email_eq (request : SendRequest) (configured : Sender) : request.email configured =
    (request.validate >>= fun _ => (request.composed configured).validate >>= fun _ =>
      .ok (request.composed configured)) := rfl

/-- Only the sender of a complete request can be missing in its email. -/
theorem email_of_complete {request : SendRequest} (h : request.validate = .ok ())
    (configured : Sender) : request.email configured =
      if (request.sender configured).name.isNone && blank (request.sender configured).address then
        .error (.incomplete .sender)
      else .ok (request.composed configured) := by
  obtain ⟨hrecipient, hsubject, hhtml⟩ := request.validate_eq_ok_iff.mp h
  have hdefect : (request.composed configured).defect? =
      if blank (request.sender configured).formatted then some .sender else none := by
    simp [Email.defect?, composed, Text.blank_trimmed, hrecipient, hsubject, hhtml]
  rw [email_eq, h, Email.validate, hdefect, Sender.blank_formatted]
  cases (request.sender configured).name.isNone && blank (request.sender configured).address <;> rfl

theorem email_of_incomplete {request : SendRequest} (h : request.validate ≠ .ok ())
    (configured : Sender) :
    request.email configured = .error (.incomplete (.missingFields request.missing)) := by
  have hmissing : request.missing.isEmpty = false := by
    rw [← Bool.not_eq_true]
    intro hempty
    exact h (by rw [validate, if_pos hempty])
  have hvalidate : request.validate = .error (.incomplete (.missingFields request.missing)) := by
    rw [validate, hmissing]
    rfl
  rw [email_eq, hvalidate]
  rfl

theorem email_eq_ok_iff {request : SendRequest} {configured : Sender} {email : Email} :
    request.email configured = .ok email ↔
      request.validate = .ok () ∧
      ((request.sender configured).name = none →
        blank (request.sender configured).address = false) ∧
      email = request.composed configured := by
  by_cases h : request.validate = .ok ()
  · rw [email_of_complete h, and_iff_right h]
    cases (request.sender configured).name <;>
      cases blank (request.sender configured).address <;> simp [eq_comm]
  · rw [email_of_incomplete h]
    simp [h]

end SendRequest

/-! ## Whom an email names as its sender -/

/-- What is taken for a part of the sender: what the request says of it, trimmed, unless that is
blank, and otherwise what is configured. -/
inductive Prevails (said configured : Option String) : Option String → Prop where
  | said {s : String} : said = some s → blank s = false →
      Prevails said configured (some (trimmed s))
  | configured : (∀ s, said = some s → blank s = true) → Prevails said configured configured

theorem prevails_iff {said configured part : Option String} :
    Prevails said configured part ↔ part = (said.bind nonBlank).or configured := by
  constructor
  · rintro (⟨rfl, hs⟩ | hblank)
    · rw [Option.bind_some, nonBlank, if_neg (by simp [hs]), Option.some_or]
    · cases said with
      | none => rfl
      | some s => rw [Option.bind_some, nonBlank, if_pos (hblank s rfl), Option.none_or]
  · rintro rfl
    cases said with
    | none => exact .configured fun s hs => by cases hs
    | some s =>
        cases hs : blank s with
        | true =>
            rw [Option.bind_some, nonBlank, if_pos hs, Option.none_or]
            refine .configured fun t ht => ?_
            rwa [← Option.some.inj ht]
        | false =>
            rw [Option.bind_some, nonBlank, if_neg (by simp [hs]), Option.some_or]
            exact .said rfl hs

theorem Prevails.blank_eq_false {said configured : Option String} {s : String}
    (h : Prevails said configured (some s))
    (hconfigured : ∀ t, configured = some t → blank t = false) : blank s = false := by
  cases h with
  | said _ hs => rw [Text.blank_trimmed, hs]
  | configured _ => exact hconfigured s rfl

/-- The sender that a request and the configured sender make together. -/
structure IsEffective (request : SendRequest) (configured sender : Sender) : Prop where
  address : Prevails request.fromEmail (some configured.address) (some sender.address)
  name : Prevails request.fromName configured.name sender.name

theorem isEffective_iff {request : SendRequest} {configured sender : Sender} :
    IsEffective request configured sender ↔ sender = request.sender configured := by
  have haddress : some (request.sender configured).address
      = (request.fromEmail.bind nonBlank).or (some configured.address) := Option.or_some.symm
  constructor
  · rintro ⟨hmail, hname⟩
    have hmail : sender.address = (request.sender configured).address :=
      Option.some.inj ((prevails_iff.mp hmail).trans haddress.symm)
    have hname : sender.name = (request.sender configured).name := prevails_iff.mp hname
    calc sender = ⟨sender.address, sender.name⟩ := rfl
      _ = request.sender configured := by rw [hmail, hname]
  · rintro rfl
    exact ⟨prevails_iff.mpr haddress, prevails_iff.mpr rfl⟩

/-- Whether the email of a request names a usable sender, and a request without an address is
refused. -/
structure NamesUsableSender (request : SendRequest) (configured sender : Sender) : Prop where
  named : ∀ email, request.email configured = .ok email → blank sender.address = false ∧
    ((sender.name = none ∧ email.sender = sender.address) ∨
      ∃ name, sender.name = some name ∧ blank name = false ∧
        email.sender = name ++ " <" ++ sender.address ++ ">")
  refused : blank sender.address = true →
    ∃ defect, request.email configured = .error (.incomplete defect)

theorem namesUsableSender_of_named {request : SendRequest} {configured : Sender}
    (h : request.validate = .ok () → ∀ name, (request.sender configured).name = some name →
      blank name = false ∧ blank (request.sender configured).address = false) :
    NamesUsableSender request configured (request.sender configured) := by
  constructor
  · intro email hemail
    obtain ⟨hcomplete, haddress, rfl⟩ := SendRequest.email_eq_ok_iff.mp hemail
    cases hname : (request.sender configured).name with
    | none =>
        exact ⟨haddress hname, .inl ⟨rfl, by
          simp [SendRequest.composed, Sender.formatted, hname]⟩⟩
    | some name =>
        obtain ⟨hvisible, haddress⟩ := h hcomplete name hname
        exact ⟨haddress, .inr ⟨name, rfl, hvisible, by
          simp [SendRequest.composed, Sender.formatted, hname]⟩⟩
  · intro haddress
    by_cases hcomplete : request.validate = .ok ()
    · cases hname : (request.sender configured).name with
      | none =>
          refine ⟨.sender, ?_⟩
          rw [SendRequest.email_of_complete hcomplete, hname, haddress]
          rfl
      | some name =>
          have hvisible := (h hcomplete name hname).2
          rw [haddress] at hvisible
          cases hvisible
    · exact ⟨_, SendRequest.email_of_incomplete hcomplete configured⟩

/-- An email names its effective sender. With a configured sender of which no part is blank this is
a usable one, and otherwise exactly if no blank part of a sender with a name prevails. -/
theorem namesUsableSender_iff (request : SendRequest) (configured : Sender) :
    ∃ sender, IsEffective request configured sender ∧
      (∀ email, request.email configured = .ok email → email.sender = sender.formatted) ∧
      (NamesUsableSender request configured sender ↔
        (request.validate = .ok () → ∀ name, sender.name = some name →
          blank name = false ∧ blank sender.address = false)) ∧
      (blank configured.address = false →
        (∀ name, configured.name = some name → blank name = false) →
        NamesUsableSender request configured sender) := by
  have heffective := isEffective_iff.mpr (Eq.refl (request.sender configured))
  refine ⟨request.sender configured, heffective, ?_, ⟨?_, namesUsableSender_of_named⟩, ?_⟩
  · intro email hemail
    obtain ⟨-, -, rfl⟩ := SendRequest.email_eq_ok_iff.mp hemail
    rfl
  · intro husable hcomplete name hname
    have hemail : request.email configured = .ok (request.composed configured) :=
      SendRequest.email_eq_ok_iff.mpr ⟨hcomplete, by simp [hname], rfl⟩
    obtain ⟨haddress, ⟨hnone, -⟩ | ⟨shown, hshown, hvisible, -⟩⟩ := husable.named _ hemail
    · rw [hname] at hnone
      cases hnone
    · rw [hname] at hshown
      rw [Option.some.inj hshown]
      exact ⟨hvisible, haddress⟩
  · intro haddress hnames
    refine namesUsableSender_of_named fun _ name hname => ⟨?_, ?_⟩
    · have hprevails := heffective.name
      rw [hname] at hprevails
      exact hprevails.blank_eq_false hnames
    · refine heffective.address.blank_eq_false fun address h => ?_
      rwa [← Option.some.inj h]

/-- A request that says the address with blanks around it and only blanks for the name. -/
def paddedRequest : SendRequest where
  recipient := "ana@example.com"
  subject := "Your receipt"
  fromName := some " \t"
  fromEmail := some " hello@studionorth.co\n"
  html := "<p>Thanks</p>"

theorem namesUsableSender_paddedRequest :
    blank "receipts@example.com" = false ∧ blank "Receipts" = false ∧
    ∃ sender, IsEffective paddedRequest ⟨"receipts@example.com", some "Receipts"⟩ sender ∧
      NamesUsableSender paddedRequest ⟨"receipts@example.com", some "Receipts"⟩ sender ∧
      ∃ email, paddedRequest.email ⟨"receipts@example.com", some "Receipts"⟩ = .ok email ∧
        email.sender = "Receipts <hello@studionorth.co>" := by
  have haddress : blank "receipts@example.com" = false := by decide +kernel
  have hname : blank "Receipts" = false := by decide +kernel
  obtain ⟨sender, heffective, -, -, husable⟩ :=
    namesUsableSender_iff paddedRequest ⟨"receipts@example.com", some "Receipts"⟩
  refine ⟨haddress, hname, sender, heffective, husable haddress fun name h => ?_, ?_⟩
  · rwa [← Option.some.inj h]
  · have hcomplete : paddedRequest.validate = .ok () := by decide +kernel
    have haddress : blank (paddedRequest.sender ⟨"receipts@example.com", some "Receipts"⟩).address
        = false := by decide +kernel
    exact ⟨_, SendRequest.email_eq_ok_iff.mpr ⟨hcomplete, fun _ => haddress, rfl⟩,
      by decide +kernel⟩

/-- Beside a name, a configured address that is blank is not noticed. -/
theorem not_forall_namesUsableSender : ¬ ∀ (request : SendRequest) (configured : Sender),
    ∃ sender, IsEffective request configured sender ∧
      NamesUsableSender request configured sender := by
  intro h
  obtain ⟨sender, heffective, husable⟩ :=
    h ⟨"ana@example.com", "Your receipt", none, none, "<p>Thanks</p>"⟩ ⟨"", some "Studio North"⟩
  obtain rfl := isEffective_iff.mp heffective
  obtain ⟨defect, hrefused⟩ := husable.refused rfl
  rw [SendRequest.email_of_complete (by decide +kernel)] at hrefused
  cases hrefused

end Receipts
