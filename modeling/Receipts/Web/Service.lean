import Receipts.Extract
import Receipts.Http.Percent
import Receipts.Mail.Mailer
import Receipts.Render
import Receipts.Web.BasePath
import Receipts.Web.Documents
import Receipts.Web.Multipart
import Receipts.Web.ServiceError

/-!
# The service

A request is answered at once, or it first needs a collaborator: a transport for
one email, or a converter for one photo. A step says which, and how the answer
follows from what the collaborator does. No request depends on an earlier one.
-/

namespace Receipts.Web

/-- What a request leads to. -/
inductive Step where
  | done (answer : Answer)
  | send (email : Email) (andThen : Except MailError Mail.MessageId → Answer)
  | convert (photo : Photo) (andThen : Except PhotoError String → Answer)

/-- Places of the service. -/
inductive Endpoint where
  | health
  | templates
  | template (segment : List Char)
  | parse
  | render
  | extract
  | sendEmail
  | imageToHtml
  deriving DecidableEq, Repr

namespace Endpoint

/-- The place that the segments of a path lead to. -/
def ofSegments? : List (List Char) → Option Endpoint
  | [segment] =>
      match String.ofList segment with
      | "health" => some health
      | "templates" => some templates
      | "render" => some render
      | "extract" => some extract
      | "send-email" => some sendEmail
      | "image-to-html" => some imageToHtml
      | _ => none
  | [first, segment] =>
      if first != "templates".toList || segment.isEmpty then none
      else if segment = "parse".toList then some parse
      else some (template segment)
  | _ => none

/-- Whether a place is read rather than posted to. -/
def isRead : Endpoint → Bool
  | health | templates | template _ => true
  | _ => false

end Endpoint

/-- The most bytes that a document may have. -/
def maxDocumentBytes : Nat := 2 * 1024 * 1024

/-- The most bytes that a form with a photo may have. -/
def maxImageBytes : Nat := 20 * 1024 * 1024

/-- The media type of a request. -/
def Request.mediaType? (request : Request) : Option MediaType :=
  (request.header? "content-type").bind MediaType.ofText?

/-- The answer to a body that is no document of the wanted shape. -/
def refusal (fault : Json.Fault) : Answer :=
  match fault.category with
  | .mismatched =>
      .plain 422
        ("Failed to deserialize the JSON body into the target type: " ++ fault.placedMessage)
  | _ => .plain 400 ("Failed to parse the request body as JSON: " ++ fault.placedMessage)

/-- Reads the document in the body of a request. -/
def Request.document {α : Type} (request : Request) (format : Json.Format α) :
    Except Answer α :=
  if !request.mediaType?.any MediaType.isJson then
    .error (.plain 415 "Expected request with `Content-Type: application/json`")
  else if maxDocumentBytes < request.body.size then
    .error (.plain 413 "Failed to buffer the request body: length limit exceeded")
  else (format.parse (Json.Input.ofBytes request.bytes)).mapError refusal

/-- The answer to a request with a document, given what to do with the document. -/
def withDocument {α : Type} (request : Request) (format : Json.Format α) (use : α → Step) : Step :=
  match request.document format with
  | .ok a => use a
  | .error answer => .done answer

/-- An answer with a document, or one that reports an error. -/
def settled (result : Except ServiceError Json) : Answer :=
  match result with
  | .ok json => .document 200 json
  | .error error => error.answer

/-- The texts of the named parts of a path, or the answer to a part that is no text. -/
def captured (captures : List Capture) : Except Answer (List String) :=
  captures.mapM fun capture =>
    match Text.ofUtf8? (Http.percentDecode capture.written) with
    | some text => .ok text
    | none =>
        .error (.plain 400
          ("Invalid URL: Invalid UTF-8 in `" ++ String.ofList capture.name ++ "`"))

/-- The template of a catalog id, which has to be the only named part of its path. -/
def showTemplate (captures : List Capture) : Answer :=
  match captured captures with
  | .error answer => answer
  | .ok [id] => settled (((Catalog.require id).map templateDocument).mapError .ofReceipt)
  | .ok texts =>
      .plain 500
        ("Wrong number of path arguments for `Path`. Expected 1 but got "
          ++ toString texts.length
          ++ ". Note that multiple parameters must be extracted with a tuple "
          ++ "`Path<(_, _)>` or a struct `Path<YourParams>`")

/-- The form of the template in a request. -/
def showForm (request : ParseRequest) : Answer :=
  settled (((Form.ofSource request.html).map Form.format.toJson).mapError .ofReceipt)

/-- The HTML that a request wants rendered. -/
def RenderRequest.template (request : RenderRequest) : Except ServiceError String :=
  match request.html, request.templateId with
  | some html, _ => .ok html
  | none, some id => ((Catalog.require id).map PlatformTemplate.html).mapError .ofReceipt
  | none, none => .error (.badRequest "Provide either html or templateId")

/-- The rendered template of a request. -/
def showRendered (request : RenderRequest) : Answer :=
  settled (request.template.map fun html =>
    rendered.toJson (Receipts.render html request.values))

/-- The values in the receipt of a request. -/
def showExtracted (request : ExtractRequest) : Answer :=
  let dialect := (request.platform.map Dialect.ofPlatform).getD .generic
  .document 200 (extracted.toJson (dialect.extract request.html))

/-- The answer to what became of an email. -/
def showSent (result : Except MailError Mail.MessageId) : Answer :=
  settled ((result.map sent.toJson).mapError .ofMail)

/-- Sends the receipt of a request. -/
def sendReceipt (sender : Sender) (request : SendRequest) : Step :=
  match request.email sender with
  | .ok email => .send email showSent
  | .error error => .done (showSent (.error error))

/-- The answer to what became of a photo. -/
def showConverted (result : Except PhotoError String) : Answer :=
  settled ((result.map conversionDocument).mapError .ofPhoto)

/-- The photo in an uploaded part. -/
def Part.photo (part : Part) : Photo :=
  ⟨part.mediaType.getD "application/octet-stream", part.fileName, part.content⟩

/-- The photo in a form. A form that is too large counts as malformed. -/
def uploadedPhoto (boundary : String) (request : Request) : Except ServiceError Photo :=
  let detail := "Error parsing `multipart/form-data` request"
  let upload :=
    if maxImageBytes < request.body.size then .malformed
    else Multipart.upload boundary "image" request.bytes
  match upload with
  | .found part => .ok part.photo
  | .absent => .error (.badRequest "No image field found")
  | .malformed => .error (.badRequest ("Multipart error: " ++ detail))
  | .cutShort => .error (.badRequest ("Failed to read image: " ++ detail))

/-- Converts the photo in a request. -/
def convertPhoto (hasConverter : Bool) (request : Request) : Step :=
  match request.mediaType?.bind MediaType.boundary? with
  | none => .done (.plain 400 "Invalid `boundary` for `multipart/form-data` request")
  | some boundary =>
      if !hasConverter then .done (ServiceError.notConfigured "image conversion").answer
      else
        match uploadedPhoto boundary request with
        | .ok photo => .convert photo showConverted
        | .error error => .done error.answer

/-- The service of one sender, at a base path, with or without a converter of photos. -/
structure Service where
  sender : Sender
  hasConverter : Bool := false
  basePath : BasePath := []
  deriving DecidableEq, Repr

namespace Service

/-- What a request to a place leads to, its method aside. -/
def visit (service : Service) (request : Request) (before : List Capture) : Endpoint → Step
  | .health => .done (.document 200 (Health.format.toJson {}))
  | .templates => .done (.document 200 (.list (Catalog.all.map fun t => .object (listing t))))
  | .template segment => .done (showTemplate (before ++ [⟨"id".toList, segment⟩]))
  | .parse => withDocument request ParseRequest.format fun body => .done (showForm body)
  | .render => withDocument request RenderRequest.format fun body => .done (showRendered body)
  | .extract => withDocument request ExtractRequest.format fun body => .done (showExtracted body)
  | .sendEmail => withDocument request SendRequest.format (sendReceipt service.sender)
  | .imageToHtml => convertPhoto service.hasConverter request

/-- The place that a request goes to, with what the base path captures. -/
def endpoint? (service : Service) (request : Request) : Option (List Capture × Endpoint) :=
  match List.splitOn '/' request.path with
  | [] :: segments =>
      match service.basePath.strip? segments with
      | some (before, rest) => (Endpoint.ofSegments? rest).map fun endpoint => (before, endpoint)
      | none => none
  | _ => none

/-- What a request leads to. A place that is read also answers requests for its head. -/
def handle (service : Service) (request : Request) : Step :=
  match service.endpoint? request with
  | none => .done (.bare 404)
  | some (before, endpoint) =>
      if endpoint.isRead then
        if request.method == "GET" then service.visit request before endpoint
        else if request.method == "HEAD" then
          match service.visit request before endpoint with
          | .done answer => .done answer.headOnly
          | step => step
        else .done (.notAllowed "GET,HEAD")
      else if request.method == "POST" then service.visit request before endpoint
      else .done (.notAllowed "POST")

end Service

/-- What converts photos. -/
abbrev Converter (m : Type → Type) := Photo → m (Except PhotoError String)

/-- Takes a step with the collaborators it needs. -/
def Step.run {m : Type → Type} [Monad m] (transport : Mail.Transport m) (convert : Converter m) :
    Step → m Answer
  | .done answer => pure answer
  | .send email andThen => andThen <$> transport email
  | .convert photo andThen => andThen <$> convert photo

/-- Answers requests in their order. -/
def Service.serve {m : Type → Type} [Monad m] (service : Service) (transport : Mail.Transport m)
    (convert : Converter m) (requests : List Request) : m (List Answer) :=
  requests.mapM fun request => (service.handle request).run transport convert

end Receipts.Web
