import Receipts.Mail.Provider
import Receipts.Proofs.Json.RecordForms

/-!
# What a provider says when it refuses an email

A refusal states a reason if it is a document in which the members `message` and `error` stand at
most once each and are texts or null where they stand. Its words are then the reason. A refusal that
is anything else is taken as a whole, also one whose `message` is a text but whose `error` is not.
-/

namespace Receipts.Mail.Provider

open Json

/-- Whether a member that may be missing or null says this text. -/
def SaysText : Option Input → Option String → Prop
  | none, value => value = none
  | some v, none => IsNull v
  | some v, some t => IsTextOf t v

theorem saysText_some_iff {v : Input} {value : Option String} :
    SaysText (some v) value ↔ IsTextOrNull v (Json.ofText? value) := by
  cases value with
  | none => simp [SaysText, IsTextOrNull, IsText, Json.ofText?]
  | some t => simp [SaysText, IsTextOrNull, IsText, Json.ofText?]

theorem SaysText.unique {found : Option Input} {value other : Option String}
    (h : SaysText found value) (h' : SaysText found other) : value = other := by
  cases found with
  | none => exact h.trans h'.symm
  | some v =>
      have heq := (reads_textOrNull "a string" 0).unique (saysText_some_iff.mp h)
        (saysText_some_iff.mp h')
      cases value <;> cases other <;> simp_all [Json.ofText?]

theorem saysText_of_rel {found : Option Input} {json : Option Json}
    (h : Option.Rel IsTextOrNull found json) : SaysText found (json.bind asText?) := by
  cases h with
  | none => rfl
  | some hvalue =>
      rcases hvalue with ⟨hnull, rfl⟩ | ⟨t, ht, rfl⟩
      · exact hnull
      · exact ht

/-- The members that a refusal is looked at for. -/
def reasonNames : List String := ["message", "error"]

/-- Whether an input is a refusal that states this reason: its `message`, or its `error` if it has
no `message` or a null there. -/
def StatesReason (s : Input) (reason : String) : Prop :=
  ∃ v after given message error, AreBlanks after ∧ s = v ++ after ∧
    GivesMembers reasonNames v given ∧ GivesOnce reasonNames given ∧
    SaysText (given.lookup "message") message ∧ SaysText (given.lookup "error") error ∧
    message.or error = some reason

/-- The members of a refusal as a record. -/
def refusalMembers : Members :=
  .ofList [textOrNullMember "message" .nullable, textOrNullMember "error" .nullable]

theorem readEach_refusalMembers : refusalMembers.ReadEach (fun _ => IsTextOrNull) 126 :=
  ⟨by decide, reads_textOrNull "a string" 126, readAt_option_skipSpace 126 _, by decide,
    reads_textOrNull "a string" 126, readAt_option_skipSpace 126 _, trivial⟩

theorem parse_refusalShape_iff {s : Input} {json : Json} : refusalShape.parse s = .ok json ↔
    ∃ v after, IsRecord refusalMembers (fun _ => IsTextOrNull) v json ∧ AreBlanks after ∧
      s = v ++ after :=
  (reads_record readEach_refusalMembers (by decide) "ProviderError").parse_eq_ok_iff

/-- The words that are found in a refusal are the reason that it states. -/
theorem statedReason?_eq_some_iff {body reason : String} :
    statedReason? body = some reason ↔ StatesReason (Input.ofString body) reason := by
  constructor
  · intro h
    unfold statedReason? at h
    split at h
    · cases h
    · rename_i json hparse
      obtain ⟨v, after, hrecord, hafter, hs⟩ := parse_refusalShape_iff.mp hparse
      obtain ⟨given, hgiven, honce, -, hrel⟩ := hrecord.exists_given
      exact ⟨v, after, given, _, _, hafter, hs, hgiven, honce,
        saysText_of_rel (hrel "message" (by decide)), saysText_of_rel (hrel "error" (by decide)), h⟩
  · rintro ⟨v, after, given, message, error, hafter, hs, hgiven, honce, hmessage, herror, hreason⟩
    obtain ⟨json, hrecord, hrel⟩ : ∃ json, IsRecord refusalMembers (fun _ => IsTextOrNull) v json ∧
        ∀ name ∈ reasonNames, Option.Rel IsTextOrNull (given.lookup name) (json.member? name) := by
      refine exists_isRecord hgiven honce ?_ ?_
      · simp [refusalMembers, Members.ofList, textOrNullMember, Members.requires]
      · intro name hname w hw
        have hname : name ∈ reasonNames := hname
        simp only [reasonNames, List.mem_cons, List.not_mem_nil, or_false] at hname
        rcases hname with rfl | rfl
        · rw [hw] at hmessage
          exact ⟨_, saysText_some_iff.mp hmessage⟩
        · rw [hw] at herror
          exact ⟨_, saysText_some_iff.mp herror⟩
    have hfirst : json.textAt? "message" = message :=
      (saysText_of_rel (hrel "message" (by decide))).unique hmessage
    have hsecond : json.textAt? "error" = error :=
      (saysText_of_rel (hrel "error" (by decide))).unique herror
    rw [statedReason?, parse_refusalShape_iff.mpr ⟨v, after, hrecord, hafter, hs⟩]
    simp only [hfirst, hsecond, hreason]

/-! ## Refusals that are objects -/

/-- Among objects the reason is looked for in the members as they are. -/
theorem statesReason_object_iff {s : Input} {members : List (String × Input)}
    (hobject : IsObjectDocument members s) (honce : GivesOnce reasonNames members)
    (reason : String) : StatesReason s reason ↔ ∃ message error,
      SaysText (members.lookup "message") message ∧ SaysText (members.lookup "error") error ∧
        message.or error = some reason := by
  obtain ⟨v, after, hv, hafter, hs⟩ := hobject
  constructor
  · rintro ⟨v', after', given, message, error, -, hs', hgiven, -, hmessage, herror, hreason⟩
    have heq := hs.symm.trans hs'
    cases hgiven with
    | object hother =>
        obtain rfl := hv.unique hother heq
        exact ⟨message, error, hmessage, herror, hreason⟩
    | list hlist _ => exact absurd hlist (hv.not_isListOf heq)
  · rintro ⟨message, error, hmessage, herror, hreason⟩
    exact ⟨v, after, members, message, error, hafter, hs, .object hv, honce, hmessage, herror,
      hreason⟩

theorem givesOnce_of_nodup {names : List String} {members : List (String × Input)}
    (h : (members.map (·.1)).Nodup) : GivesOnce names members :=
  h.filter _

/-- A text is shorter than an object that it is in. -/
theorem length_lt_of_member {body t : String} {members : List (String × Input)} {name : String}
    {m : Input} (h : IsObjectDocument members (Input.ofString body))
    (hm : members.lookup name = some m) (ht : IsTextOf t m) :
    t.toList.length < body.toList.length := by
  obtain ⟨v, after, ⟨before, inside, -, hinside, rfl⟩, -, hs⟩ := h
  have hvalue := hinside.length_value_lt (name, m) (mem_of_lookup hm)
  have hlength := congrArg List.length hs
  have htext := ht.length_lt
  simp only [Input.ofString, List.length_map, List.length_append, List.length_cons] at hlength
  simp only at hvalue
  omega

/-! ## The words of a refusal -/

theorem refusalWords_of_statesReason {body reason : String}
    (h : StatesReason (Input.ofString body) reason) (status : Nat) :
    refusalWords status body = reason := by
  rw [refusalWords, statedReason?_eq_some_iff.mpr h]

theorem refusalWords_of_not_statesReason {body : String}
    (h : ∀ reason, ¬ StatesReason (Input.ofString body) reason) (status : Nat) :
    refusalWords status body =
      if Text.blank body then "Email API returned " ++ Http.statusText status else body := by
  have hnone : statedReason? body = none := by
    refine Option.eq_none_iff_forall_ne_some.mpr fun reason hreason => ?_
    exact h reason (statedReason?_eq_some_iff.mp hreason)
  rw [refusalWords, hnone]

theorem StatesReason.isDocument {s : Input} {reason : String} (h : StatesReason s reason) :
    IsDocument s := by
  obtain ⟨v, after, given, -, -, hafter, hs, hgiven, -⟩ := h
  exact ⟨v, after, hgiven.isPart, hafter, hs⟩

theorem StatesReason.not_blank {body reason : String}
    (h : StatesReason (Input.ofString body) reason) : Text.blank body = false := by
  obtain ⟨v, after, given, -, -, -, hs, hgiven, -⟩ := h
  exact hgiven.not_blank hs

/-- Whether the words of a refusal are the provider's own. Those of an object whose `message` is a
text are this text just if `error` is a text, null or missing, and else the whole object. Without a
`message` they are the `error`, and what is no document is told as a whole, unless it is blank. -/
structure TellsOwnWords (status : Nat) (body words : String) : Prop where
  message : ∀ members m t, IsObjectDocument members (Input.ofString body) →
    (members.map (·.1)).Nodup → members.lookup "message" = some m → IsTextOf t m →
      (words = t ↔ ∃ error, SaysText (members.lookup "error") error) ∧
      ((¬ ∃ error, SaysText (members.lookup "error") error) → words = body)
  error : ∀ members e t, IsObjectDocument members (Input.ofString body) →
    (members.map (·.1)).Nodup → SaysText (members.lookup "message") none →
    members.lookup "error" = some e → IsTextOf t e → words = t
  whole : ¬ IsDocument (Input.ofString body) → Text.blank body = false → words = body
  blank : Text.blank body = true → words = "Email API returned " ++ Http.statusText status

theorem tellsOwnWords (status : Nat) (body : String) :
    TellsOwnWords status body (refusalWords status body) where
  message members m t hobject hkeys hm ht := by
    have hstates := statesReason_object_iff hobject (givesOnce_of_nodup hkeys)
    have hmessage : SaysText (members.lookup "message") (some t) := by
      rw [hm]
      exact ht
    have hwhole : (¬ ∃ error, SaysText (members.lookup "error") error) →
        refusalWords status body = body := by
      intro herror
      obtain ⟨v, after, hv, -, hs⟩ := id hobject
      have hgives : GivesMembers reasonNames v members := .object hv
      rw [refusalWords_of_not_statesReason fun reason hreason => ?_,
        hgives.not_blank hs]
      · rfl
      · obtain ⟨-, error, -, hsays, -⟩ := (hstates reason).mp hreason
        exact herror ⟨error, hsays⟩
    refine ⟨⟨fun hwords => ?_, ?_⟩, hwhole⟩
    · refine Classical.byContradiction fun herror => ?_
      have hshort := length_lt_of_member hobject hm ht
      rw [← hwords, hwhole herror] at hshort
      exact absurd hshort (Nat.lt_irrefl _)
    · rintro ⟨error, hsays⟩
      exact refusalWords_of_statesReason ((hstates t).mpr ⟨some t, error, hmessage, hsays, rfl⟩) _
  error members e t hobject hkeys hmessage he ht := by
    refine refusalWords_of_statesReason ((statesReason_object_iff hobject
      (givesOnce_of_nodup hkeys) t).mpr ⟨none, some t, hmessage, ?_, rfl⟩) status
    rw [he]
    exact ht
  whole hdocument hblank := by
    rw [refusalWords_of_not_statesReason fun reason h => hdocument h.isDocument, hblank]
    rfl
  blank hblank := by
    rw [refusalWords_of_not_statesReason fun reason h => ?_, hblank]
    · rfl
    · rw [h.not_blank] at hblank
      cases hblank

/-- The words of a refusal are blank just if it states a blank reason. -/
theorem blank_refusalWords_iff (status : Nat) (body : String) :
    Text.blank (refusalWords status body) = true ↔
      ∃ reason, StatesReason (Input.ofString body) reason ∧ Text.blank reason = true := by
  have hothers : Text.blank (if Text.blank body then
      "Email API returned " ++ Http.statusText status else body) = false := by
    split
    · simp [Text.blank, Text.isBlank]
    · rename_i hvisible
      exact Bool.eq_false_iff.mpr hvisible
  rw [blank_stated_iff (fun reason h => refusalWords_of_statesReason h status)
    (fun h => refusalWords_of_not_statesReason h status), hothers]
  simp

end Receipts.Mail.Provider
