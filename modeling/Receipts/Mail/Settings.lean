import Receipts.Mail.Provider
import Receipts.Mail.Sender

/-!
# Settings of a mailer

Mail goes to a provider when there is a key for it, and into a directory
otherwise. Settings come from variables or from a document.
-/

namespace Receipts.Mail

open Json (textMember textOrNullMember)

/-- Where mail goes. -/
inductive Destination where
  | provider (address key : String)
  | directory (path : String)
  deriving DecidableEq, Repr

/-- Where mail goes and whom it comes from. -/
structure Settings where
  destination : Destination := .directory "./emails"
  fromAddress : String := "receipts@example.com"
  fromName : Option String := none
  deriving DecidableEq, Repr

/-- A source of variables. -/
abbrev Variables := String → Option String

namespace Settings

/-- Where mail goes according to variables. -/
def destinationOf (environment : Variables) : Except MailError Destination :=
  match environment "RECEIPT_MAILER_API_KEY" with
  | some key =>
      if Text.blank key then .error (.setting .emptyKeyVariable)
      else
        .ok (.provider ((environment "RECEIPT_MAILER_API_URL").getD Provider.defaultAddress) key)
  | none => .ok (.directory ((environment "RECEIPT_MAILER_FILE_OUTPUT_DIR").getD "./emails"))

/-- The settings in variables. -/
def ofVariables (environment : Variables) : Except MailError Settings := do
  let destination ← destinationOf environment
  return {
    destination
    fromAddress := (environment "RECEIPT_MAILER_FROM_ADDRESS").getD "receipts@example.com"
    fromName := environment "RECEIPT_MAILER_FROM_NAME" }

/-- The sender that the settings name. -/
def sender (settings : Settings) : Sender := ⟨settings.fromAddress, settings.fromName⟩

end Settings

namespace Destination

/-- The shape of a destination. -/
def shape : Json.Shape :=
  .tagged "TransportConfig" "type"
    [⟨"http", "TransportConfig::Http", [("api_url", "a string"), ("api_key", "a string")]⟩,
     ⟨"file", "TransportConfig::File", [("output_dir", "path string")]⟩]

/-- The destination that a document describes. -/
def ofJson (json : Json) : Destination :=
  match json.textAt "type" with
  | "http" => .provider (json.textAt "api_url") (json.textAt "api_key")
  | _ => .directory (json.textAt "output_dir")

/-- The document of a destination. -/
def toJson : Destination → Json
  | provider address key =>
      .object [("type", .text "http"), ("api_url", .text address), ("api_key", .text key)]
  | directory path => .object [("type", .text "file"), ("output_dir", .text path)]

/-- The format of a destination. -/
def format : Json.Format Destination := ⟨shape, ofJson, toJson⟩

end Destination

namespace Settings

/-- The format of settings. -/
def format : Json.Format Settings where
  shape :=
    .record "MailerConfig" (.ofList
      [("transport", .required, Destination.shape),
       textMember "from_address" .required,
       textOrNullMember "from_name" .nullable])
  ofJson json :=
    { destination := Destination.ofJson ((json.member? "transport").getD .null)
      fromAddress := json.textAt "from_address"
      fromName := json.textAt? "from_name" }
  toJson settings :=
    .object
      [("transport", settings.destination.toJson),
       ("from_address", .text settings.fromAddress),
       ("from_name", Json.ofText? settings.fromName)]

end Settings

end Receipts.Mail
