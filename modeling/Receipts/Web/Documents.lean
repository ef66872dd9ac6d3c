import Receipts.Catalog
import Receipts.FormValues.Document
import Receipts.Mail.Provider
import Receipts.Template.Document

/-!
# Documents of the service

What requests carry and what answers hold.
-/

namespace Receipts.Web

open Json (textMember textOrNullMember)

/-- The state of the service. -/
structure Health where
  status : String := "healthy"
  version : String := "0.1.0"
  deriving DecidableEq, Repr

/-- The format of the state. -/
def Health.format : Json.Format Health where
  shape :=
    .record "HealthResponse" (.ofList
      [textMember "status" .required, textMember "version" .required])
  ofJson json := ⟨json.textAt "status", json.textAt "version"⟩
  toJson health := .object [("status", .text health.status), ("version", .text health.version)]

/-- A request for the form of a template. -/
structure ParseRequest where
  html : Option String
  deriving DecidableEq, Repr

/-- The format of a request for a form. -/
def ParseRequest.format : Json.Format ParseRequest where
  shape := .record "ParseRequest" (.ofList [textOrNullMember "html" .optional])
  ofJson json := ⟨json.textAt? "html"⟩
  toJson request := .object [("html", Json.ofText? request.html)]

/-- A request for a rendered template, given as HTML or by its id. -/
structure RenderRequest where
  html : Option String
  templateId : Option String
  values : FormValues
  deriving DecidableEq

/-- The format of a request to render. -/
def RenderRequest.format : Json.Format RenderRequest where
  shape :=
    .record "RenderRequest" (.ofList
      [textOrNullMember "html" .optional,
       textOrNullMember "templateId" .optional,
       ("values", .optional, .map)])
  ofJson json :=
    ⟨json.textAt? "html", json.textAt? "templateId",
      FormValues.ofJson ((json.member? "values").getD .null)⟩
  toJson request :=
    .object
      [("html", Json.ofText? request.html),
       ("templateId", Json.ofText? request.templateId),
       ("values", request.values.toJson)]

/-- A request for the values in a rendered receipt. -/
structure ExtractRequest where
  html : String
  platform : Option String
  deriving DecidableEq, Repr

/-- The format of a request to extract. -/
def ExtractRequest.format : Json.Format ExtractRequest where
  shape :=
    .record "ExtractRequest" (.ofList
      [textMember "html" .required, textOrNullMember "platform" .optional])
  ofJson json := ⟨json.textAt "html", json.textAt? "platform"⟩
  toJson request :=
    .object [("html", .text request.html), ("platform", Json.ofText? request.platform)]

/-- A record of one text. -/
def single (title member : String) : Json.Format String where
  shape := .record title (.ofList [textMember member .required])
  ofJson json := json.textAt member
  toJson s := .object [(member, .text s)]

/-- The format of a rendered template. -/
def rendered : Json.Format String := single "RenderResponse" "html"

/-- The format of a template made from a photo. -/
def converted : Json.Format String := single "ConvertedTemplate" "html"

/-- The format of the id of a sent message. -/
def sent : Json.Format Mail.MessageId := single "SendEmailResponse" "messageId"

/-- The format of extracted values. -/
def extracted : Json.Format FormValues where
  shape := .record "ExtractResponse" (.ofList [("values", .required, .map)])
  ofJson json := FormValues.ofJson ((json.member? "values").getD .null)
  toJson values := .object [("values", values.toJson)]

/-- The members of a template's listing. -/
def listing (template : PlatformTemplate) : List (String × Json) :=
  [("id", .text template.id), ("name", .text template.name), ("subject", .text template.subject)]

/-- A template with its form. -/
def templateDocument (template : PlatformTemplate) : Json :=
  .object
    (listing template ++ ("html", .text template.html) :: (Form.ofHtml template.html).members)

/-- A template made from a photo, with its form. -/
def conversionDocument (html : String) : Json :=
  .object (("html", .text html) :: (Form.ofHtml html).members)

end Receipts.Web
