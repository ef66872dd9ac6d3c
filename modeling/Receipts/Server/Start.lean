import Receipts.Mail.Outbox
import Receipts.Mail.Settings
import Receipts.Photo.VisionModel
import Receipts.Server.Arguments
import Receipts.Server.ListenAddress
import Receipts.Web.Service

/-!
# Starting the server

A start goes through fixed stages: the arguments, the mailer, the converter, the
base path, and the address to listen on. The first that fails ends the start.
-/

namespace Receipts.Server

open Mail (StorageDefect)

/-- What a start leads to: the program stops with a code and perhaps a message, or it serves. -/
inductive Start where
  | stop (code : Nat) (message : Option String)
  | serve (address : ListenAddress) (service : Web.Service) (mail : Mail.Destination)
      (model : Option Photo.VisionModel)
  deriving DecidableEq, Repr

/-- An answer of the file system, in the words of a failed start. -/
def storageText : StorageDefect → String
  | .notADirectory =>
      "Os \x7b code: 20, kind: NotADirectory, message: \"Not a directory\" \x7d"
  | .alreadyThere => "Os \x7b code: 17, kind: AlreadyExists, message: \"File exists\" \x7d"
  | .nameTooLong =>
      "Os \x7b code: 36, kind: InvalidFilename, message: \"File name too long\" \x7d"
  | .zeroByte =>
      "Error \x7b kind: InvalidInput, message: \"" ++ StorageDefect.zeroByte.message ++ "\" \x7d"
  | .stated reason => "Custom \x7b kind: Other, error: \"" ++ reason ++ "\" \x7d"

/-- An error of the mailer, in the words of a failed start. -/
def mailText : MailError → String
  | .setting defect => "Config(\"" ++ defect.message ++ "\")"
  | .storage defect => "Io(" ++ storageText defect ++ ")"
  | error => error.message

/-- A start that fails. -/
def failed (text : String) : Start := .stop 1 (some ("Error: " ++ text))

/-- What makes an outbox, and says what is in the way when it cannot be made. -/
abbrev OutboxMaker (m : Type → Type) := String → m (Option StorageDefect)

/-- Gets ready to deliver mail. -/
def openDestination {m : Type → Type} [Monad m] (outbox : OutboxMaker m) :
    Mail.Destination → m (Option MailError)
  | .provider address key =>
      match Mail.Provider.connect key address with
      | .ok _ => pure none
      | .error error => pure (some error)
  | .directory path => return (← outbox path).map .storage

/-- The model that variables name, if they name one. -/
def modelOf (environment : Mail.Variables) : Option Photo.VisionModel :=
  (Photo.Settings.ofVariables? environment).bind fun settings =>
    (Photo.VisionModel.connect settings).toOption

/-- The start once mail can be delivered. -/
def listen (options : Options) (settings : Mail.Settings) (model : Option Photo.VisionModel) :
    Start :=
  match Web.BasePath.ofText? (options.basePath.getD "") with
  | none => .stop 101 none
  | some basePath =>
      match ListenAddress.ofText options.bind with
      | .error defect =>
          failed ("Error \x7b kind: InvalidInput, message: \"" ++ defect.message ++ "\" \x7d")
      | .ok address =>
          .serve address ⟨settings.sender, model.isSome, basePath⟩ settings.destination model

/-- The start with options and variables. -/
def start {m : Type → Type} [Monad m] (options : Options) (environment : Mail.Variables)
    (outbox : OutboxMaker m) : m Start :=
  match Mail.Settings.ofVariables environment with
  | .error error => pure (failed (mailText error))
  | .ok settings => do
      match ← openDestination outbox settings.destination with
      | some error => return failed (mailText error)
      | none => return listen options settings (modelOf environment)

/-- The start with a command line. -/
def startWith {m : Type → Type} [Monad m] (arguments : List String) (environment : Mail.Variables)
    (outbox : OutboxMaker m) : m Start :=
  match Options.ofArguments arguments environment with
  | .error .misuse => pure (.stop 2 none)
  | .error _ => pure (.stop 0 none)
  | .ok options => start options environment outbox

end Receipts.Server
