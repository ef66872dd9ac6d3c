import Receipts.FileReference
import Receipts.Json.Format
import Receipts.Photo.Basic
import Receipts.Photo.CodeFence

/-!
# The vision model

A model turns a photo into an HTML template. It is asked over an address with
instructions and the photo as a `data:` URL, and its first choice is the answer,
out of its code fence. A photo with a defect is not sent.
-/

namespace Receipts.Photo

open Json (textMember textOrNullMember)

/-- Where a vision model is reached, under which key, and its name. -/
structure Settings where
  address : String
  key : String
  model : String
  deriving DecidableEq, Repr

namespace Settings

/-- The settings in variables, none without a key. -/
def ofVariables? (environment : String → Option String) : Option Settings :=
  match environment "RECEIPT_VISION_API_KEY" with
  | none => none
  | some key =>
      if Text.blank key then none
      else
        some
          { address := (environment "RECEIPT_VISION_API_URL").getD "https://api.openai.com/v1"
            key
            model := (environment "RECEIPT_VISION_MODEL").getD "gpt-4o" }

/-- The format of settings. -/
def format : Json.Format Settings where
  shape :=
    .record "VisionConfig" (.ofList
      [textMember "api_url" .required,
       textMember "api_key" .required,
       textMember "model" .required])
  ofJson json := ⟨json.textAt "api_url", json.textAt "api_key", json.textAt "model"⟩
  toJson settings :=
    .object
      [("api_url", .text settings.address),
       ("api_key", .text settings.key),
       ("model", .text settings.model)]

end Settings

/-- A model that can be asked. -/
structure VisionModel where
  settings : Settings
  deriving DecidableEq, Repr

namespace VisionModel

/-- The model with these settings, whose key must not be blank. Slashes at the end of the address
do not count. -/
def connect (settings : Settings) : Except PhotoError VisionModel :=
  if Text.blank settings.key then .error .emptyKey
  else
    let address := (settings.address.toList.reverse.dropWhile (· == '/')).reverse
    .ok ⟨{ settings with address := String.ofList address }⟩

/-- What a model is told to do. -/
def instructions : String :=
  "You convert photos and screenshots of purchase receipts into reusable HTML "
    ++ "email templates. "
    ++ "Reproduce the layout, colors and wording as a single self-contained HTML "
    ++ "document with inline-friendly CSS in a <style> tag. "
    ++ "Replace every customer-, order- or seller-specific value with a placeholder of "
    ++ "the form \x7b\x7bUPPER_SNAKE_CASE\x7d\x7d, "
    ++ "for example \x7b\x7bBUYER_NAME\x7d\x7d, \x7b\x7bORDER_ID\x7d\x7d, "
    ++ "\x7b\x7bDATE_PAID\x7d\x7d, \x7b\x7bTOTAL_AMOUNT\x7d\x7d, "
    ++ "\x7b\x7bSELLER_EMAIL\x7d\x7d or \x7b\x7bSELLER_LOGO_URL\x7d\x7d. "
    ++ "Use image placeholders as <img> src values. Never use double braces for "
    ++ "anything else. "
    ++ "Reply with the HTML document only."

/-- A text in a message to a model. -/
def textPart (s : String) : Json := .object [("type", .text "text"), ("text", .text s)]

/-- An image in a message to a model. -/
def imagePart (url : String) : Json :=
  .object [("type", .text "image_url"), ("image_url", .object [("url", .text url)])]

/-- A message to a model. -/
def chatMessage (role : String) (parts : List Json) : Json :=
  .object [("role", .text role), ("content", .list parts)]

/-- The question that a photo is sent with. -/
def question (model : VisionModel) (photo : Photo) : Json :=
  .object
    [("model", .text model.settings.model),
     ("messages", .list
       [chatMessage "system" [textPart instructions],
        chatMessage "user"
          [textPart "Convert this receipt into an HTML email template.",
           imagePart (dataUrl photo.mediaType photo.bytes)]]),
     ("max_tokens", Json.ofNat 4096)]

/-- The call that sends a photo. -/
def call (model : VisionModel) (photo : Photo) : Except PhotoError Http.Call := do
  photo.validate
  (Http.call? (model.settings.address ++ "/chat/completions") model.settings.key
    (model.question photo).render).mapError .exchange

/-- The shape of an answer. -/
def answerShape : Json.Shape :=
  .record "ChatResponse" (.ofList
    [("choices", .required, .list (.record "ChatChoice" (.ofList
      [("message", .required, .record "ChatReply" (.ofList
        [textOrNullMember "content" .nullable]))])))])

/-- The content of the first choice, empty without one. -/
def firstContent (answer : Json) : String :=
  let choice := ((answer.member? "choices").getD .null).items.head?
  ((choice.bind (Json.member? "message")).bind (Json.textAt? "content")).getD ""

/-- The shape of a refusal that gives its reason. -/
def refusalShape : Json.Shape :=
  .record "ApiErrorBody" (.ofList
    [("error", .required, .record "ApiErrorDetail" (.ofList [textMember "message" .required]))])

/-- The words of a refusal: its reason, or all of it. -/
def refusalWords (body : String) : String :=
  match refusalShape.parse (Json.Input.ofString body) with
  | .ok json => ((json.member? "error").getD .null).textAt "message"
  | .error _ => body

/-- The template in a reply. -/
def outcome (reply : Http.Reply) : Except PhotoError String :=
  if Http.isSuccess reply.status then
    match answerShape.parse (Json.Input.ofBytes reply.content) with
    | .error _ => .error (.exchange .unreadableReply)
    | .ok answer =>
        let html := unfenced (firstContent answer).toList
        if html.isEmpty then .error .emptyReply else .ok (String.ofList html)
  else .error (.refused reply.status (refusalWords reply.text))

/-- Turns a photo into a template. -/
def convert {m : Type → Type} [Monad m] (exchange : Http.Exchange m) (model : VisionModel)
    (photo : Photo) : m (Except PhotoError String) :=
  match model.call photo with
  | .error error => pure (.error error)
  | .ok call => do
      let reply ← exchange call
      return match Http.answered call reply with
        | .ok reply => outcome reply
        | .error failure => .error (.exchange failure)

end VisionModel

end Receipts.Photo
