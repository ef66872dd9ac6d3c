import Receipts.Mail.Provider
import Receipts.Photo.VisionModel
import Receipts.Proofs.Http.Calls
import Receipts.Proofs.FileReference
import Receipts.Proofs.Text.Trim

/-!
# Conversions

A photo with a defect is not sent. Any other photo is one call, and the only image in its question
is the photo itself. What the model answers is out of its fence and has no blanks at its ends.
-/

namespace Receipts.Photo

theorem trim_unfenced (content : List Char) : Text.trim (unfenced content) = unfenced content := by
  unfold unfenced
  split
  · exact Text.trim_trim _
  · exact Text.trim_trim content

theorem defect?_eq_none_iff {photo : Photo} : photo.defect? = none ↔
    photo.bytes ≠ [] ∧ "image/".toList <+: photo.mediaType.toList := by
  rw [defect?, ← List.isPrefixOf_iff_prefix]
  cases photo.bytes with
  | nil => simp
  | cons byte bytes =>
      cases "image/".toList.isPrefixOf photo.mediaType.toList with
      | false => simp
      | true => simp

namespace VisionModel

variable {settings : Settings} {model : VisionModel} {photo : Photo} {url : Http.Url}

/-! ## Questions -/

/-- The URLs of the images in a question. -/
def imageUrls (question : Json) : List String :=
  ((question.member? "messages").getD .null).items.flatMap fun message =>
    ((message.member? "content").getD .null).items.filterMap fun part =>
      (part.member? "image_url").bind (Json.textAt? "url")

theorem imageUrls_question (model : VisionModel) (photo : Photo) :
    imageUrls (model.question photo) = [dataUrl photo.mediaType photo.bytes] := by
  rfl

/-! ## Calls -/

theorem connect_eq_ok (hkey : Text.blank settings.key = false) : connect settings =
    .ok ⟨{ settings with address := Mail.Provider.withoutSlashes settings.address }⟩ := by
  rw [connect, hkey]
  rfl

theorem call_of_defect {defect : Defect} (h : photo.defect? = some defect) :
    model.call photo = .error (.unusable defect) := by
  rw [call, validate, h]
  rfl

theorem call_eq_ok (h : photo.defect? = none)
    (hkey : model.settings.key.toList.all Http.isHeaderChar = true)
    (hurl : Http.LeadsTo (model.settings.address ++ "/chat/completions") url) :
    model.call photo = .ok ⟨url, model.settings.key, (model.question photo).render⟩ := by
  rw [call, validate, h, Http.call?_eq_ok_iff.mpr ⟨hkey, url, hurl, rfl⟩]
  rfl

/-- What comes of a photo, by what comes of the call. -/
def converted (call : Http.Call) (reply : Option Http.Reply) : Except PhotoError String :=
  match Http.answered call reply with
  | .ok reply => outcome reply
  | .error failure => .error (.exchange failure)

/-- A photo is sent in one call. -/
theorem convert_eq_map {m : Type → Type} [Monad m] [LawfulMonad m] (exchange : Http.Exchange m)
    {call : Http.Call} (hcall : model.call photo = .ok call) :
    model.convert exchange photo = converted call <$> exchange call := by
  rw [convert, hcall]
  exact (map_eq_pure_bind (converted call) (exchange call)).symm

/-! ## Answers of a model -/

/-- The choices in an answer. -/
def choices (answer : Json) : List Json := ((answer.member? "choices").getD .null).items

/-- The content of a choice. -/
def content? (choice : Json) : Option String :=
  (choice.member? "message").bind (Json.textAt? "content")

theorem firstContent_eq (answer : Json) :
    firstContent answer = ((choices answer).head?.bind content?).getD "" := by
  unfold firstContent
  dsimp only
  rw [Option.bind_assoc]
  rfl

section
variable {reply : Http.Reply} {answer : Json}

theorem outcome_refused (hstatus : ¬ Http.isSuccess reply.status = true) :
    outcome reply = .error (.refused reply.status (refusalWords reply.text)) := by
  rw [outcome, if_neg hstatus]

theorem outcome_unread (hstatus : Http.isSuccess reply.status = true) {fault : Json.Fault}
    (hread : answerShape.parse (Json.Input.ofBytes reply.content) = .error fault) :
    outcome reply = .error (.exchange .unreadableReply) := by
  rw [outcome, if_pos hstatus, hread]

theorem outcome_read (hstatus : Http.isSuccess reply.status = true)
    (hread : answerShape.parse (Json.Input.ofBytes reply.content) = .ok answer) :
    outcome reply =
      if unfenced (firstContent answer).toList = [] then .error .emptyReply
      else .ok (String.ofList (unfenced (firstContent answer).toList)) := by
  rw [outcome, if_pos hstatus, hread]
  simp only [List.isEmpty_iff]

/-- Without a choice or a content there is nothing to convert. -/
theorem unfenced_firstContent_eq_nil
    (h : choices answer = [] ∨ ∃ choice later, choices answer = choice :: later ∧
      (content? choice = none ∨
        ∃ content, content? choice = some content ∧ unfenced content.toList = [])) :
    unfenced (firstContent answer).toList = [] := by
  have hnothing : unfenced "".toList = [] := by decide
  rw [firstContent_eq]
  rcases h with hnone | ⟨choice, later, hchoices, hcontent | ⟨content, hcontent, hempty⟩⟩
  · rwa [hnone]
  · rw [hchoices, List.head?_cons, Option.bind_some, hcontent]
    exact hnothing
  · rw [hchoices, List.head?_cons, Option.bind_some, hcontent]
    exact hempty

end

end VisionModel

end Receipts.Photo
