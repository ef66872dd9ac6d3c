import Receipts.Photo.VisionModel
import Receipts.Proofs.Json.RecordForms

/-!
# What a vision model says when it refuses a photo

A refusal states a reason if it is a document with one `error`, which in turn has one `message` that
is a text. Its words are then the reason, and else the whole refusal, also if that is blank.
-/

namespace Receipts.Photo.VisionModel

open Json

/-- Whether a value is the error of a refusal, with this message. -/
def IsDetail (v : Input) (reason : String) : Prop :=
  ∃ given m, GivesMembers ["message"] v given ∧ GivesOnce ["message"] given ∧
    given.lookup "message" = some m ∧ IsTextOf reason m

/-- Whether an input is a refusal that states this reason. -/
def StatesReason (s : Input) (reason : String) : Prop :=
  ∃ v after given detail, AreBlanks after ∧ s = v ++ after ∧ GivesMembers ["error"] v given ∧
    GivesOnce ["error"] given ∧ given.lookup "error" = some detail ∧ IsDetail detail reason

/-- The members of an error as a record. -/
def detailMembers : Members := .ofList [textMember "message" .required]

/-- The members of a refusal as a record. -/
def refusalMembers : Members :=
  .ofList [("error", .required, .record "ApiErrorDetail" detailMembers)]

/-- Whether a value is read as an error. -/
def IsReadDetail (v : Input) (json : Json) : Prop := IsRecord detailMembers (fun _ => IsText) v json

theorem readEach_detailMembers : detailMembers.ReadEach (fun _ => IsText) 125 :=
  ⟨by decide, reads_text "a string" 125, readAt_text_skipSpace "a string" 125, trivial⟩

theorem reads_detail : Reads
    (fun s => (Shape.record "ApiErrorDetail" detailMembers).readAt 126 s) IsReadDetail :=
  reads_record readEach_detailMembers (by decide) "ApiErrorDetail"

theorem readEach_refusalMembers : refusalMembers.ReadEach (fun _ => IsReadDetail) 126 :=
  ⟨by decide, reads_detail, readAt_record_skipSpace "ApiErrorDetail" _ 125, trivial⟩

theorem parse_refusalShape_iff {s : Input} {json : Json} : refusalShape.parse s = .ok json ↔
    ∃ v after, IsRecord refusalMembers (fun _ => IsReadDetail) v json ∧ AreBlanks after ∧
      s = v ++ after :=
  (reads_record readEach_refusalMembers (by decide) "ApiErrorBody").parse_eq_ok_iff

theorem isDetail_of_isReadDetail {v : Input} {json : Json} (h : IsReadDetail v json) :
    IsDetail v (json.textAt "message") := by
  obtain ⟨given, m, value, hgiven, honce, hm, ⟨t, ht, rfl⟩, hmember⟩ := IsRecord.exists_member h
  refine ⟨given, m, hgiven, honce, hm, ?_⟩
  rw [Json.textAt, Json.textAt?, hmember]
  exact ht

theorem exists_isReadDetail {v : Input} {reason : String} (h : IsDetail v reason) :
    ∃ json, IsReadDetail v json ∧ json.textAt "message" = reason := by
  obtain ⟨given, m, hgiven, honce, hm, ht⟩ := h
  obtain ⟨json, value, hrecord, hvalue, hmember⟩ :=
    exists_isRecord_of_member (R := fun _ => IsText) (.text "a string") hgiven honce hm
      ⟨reason, ht, rfl⟩
  obtain rfl := (reads_text "a string" 0).unique hvalue ⟨reason, ht, rfl⟩
  refine ⟨json, hrecord, ?_⟩
  rw [Json.textAt, Json.textAt?, hmember]
  rfl

/-- The words that are found in a refusal are the reason that it states. -/
theorem parse_refusalShape_reason_iff {s : Input} {reason : String} :
    (∃ json, refusalShape.parse s = .ok json ∧
      ((json.member? "error").getD .null).textAt "message" = reason) ↔ StatesReason s reason := by
  constructor
  · rintro ⟨json, hparse, rfl⟩
    obtain ⟨v, after, hrecord, hafter, hs⟩ := parse_refusalShape_iff.mp hparse
    obtain ⟨given, detail, value, hgiven, honce, hdetail, hvalue, hmember⟩ :=
      IsRecord.exists_member hrecord
    refine ⟨v, after, given, detail, hafter, hs, hgiven, honce, hdetail, ?_⟩
    rw [hmember]
    exact isDetail_of_isReadDetail hvalue
  · rintro ⟨v, after, given, detail, hafter, hs, hgiven, honce, hdetail, hreason⟩
    obtain ⟨value, hvalue, hmessage⟩ := exists_isReadDetail hreason
    obtain ⟨json, other, hrecord, hother, hmember⟩ :=
      exists_isRecord_of_member (R := fun _ => IsReadDetail)
        (.record "ApiErrorDetail" detailMembers) hgiven honce hdetail hvalue
    obtain rfl := reads_detail.unique hvalue hother
    refine ⟨json, parse_refusalShape_iff.mpr ⟨v, after, hrecord, hafter, hs⟩, ?_⟩
    rw [hmember]
    exact hmessage

theorem refusalWords_of_statesReason {body reason : String}
    (h : StatesReason (Input.ofString body) reason) : refusalWords body = reason := by
  obtain ⟨json, hparse, hreason⟩ := parse_refusalShape_reason_iff.mpr h
  rw [refusalWords, hparse]
  exact hreason

theorem refusalWords_of_not_statesReason {body : String}
    (h : ∀ reason, ¬ StatesReason (Input.ofString body) reason) : refusalWords body = body := by
  unfold refusalWords
  split
  · rename_i json hparse
    exact absurd (parse_refusalShape_reason_iff.mp ⟨json, hparse, rfl⟩) (h _)
  · rfl

theorem StatesReason.not_blank {body reason : String}
    (h : StatesReason (Input.ofString body) reason) : Text.blank body = false := by
  obtain ⟨v, after, given, -, -, hs, hgiven, -⟩ := h
  exact hgiven.not_blank hs

/-- The words of a refusal are blank if it is, or if it states a blank reason. -/
theorem blank_refusalWords_iff (body : String) : Text.blank (refusalWords body) = true ↔
    Text.blank body = true ∨
      ∃ reason, StatesReason (Input.ofString body) reason ∧ Text.blank reason = true := by
  rw [blank_stated_iff (fun reason h => refusalWords_of_statesReason h)
    fun h => refusalWords_of_not_statesReason h]
  constructor
  · rintro (hstated | ⟨-, hblank⟩)
    · exact .inr hstated
    · exact .inl hblank
  · rintro (hblank | hstated)
    · refine .inr ⟨fun reason hreason => ?_, hblank⟩
      rw [hreason.not_blank] at hblank
      cases hblank
    · exact .inl hstated

end Receipts.Photo.VisionModel
