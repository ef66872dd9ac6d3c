import Receipts.Http.Wire
import Receipts.Mail.Message
import Receipts.Server.Start
import Std.Http.Server

/-!
# The server program

Reads the arguments and the variables, and serves until it is stopped. Mail goes
into files or to a provider. Only services that are reached without encryption
can be called; any other counts as not reached.
-/

namespace Receipts.Main

open Std.Async (Async)
open Std.Net (IPAddr SocketAddress)

/-- The variables that the program reads. -/
def variableNames : List String :=
  ["RECEIPT_BIND", "RECEIPT_BASE_PATH", "RECEIPT_MAILER_API_KEY", "RECEIPT_MAILER_API_URL",
   "RECEIPT_MAILER_FILE_OUTPUT_DIR", "RECEIPT_MAILER_FROM_ADDRESS", "RECEIPT_MAILER_FROM_NAME",
   "RECEIPT_VISION_API_KEY", "RECEIPT_VISION_API_URL", "RECEIPT_VISION_MODEL"]

/-- Reads the variables. -/
def readVariables : IO Mail.Variables := do
  let found ← variableNames.filterMapM fun name => return (← IO.getEnv name).map (name, ·)
  return fun name => found.lookup name

/-- What an answer of the file system says. -/
def storageDefect : IO.Error → Mail.StorageDefect
  | .alreadyExists .. => .alreadyThere
  | .inappropriateType .. => .notADirectory
  | .invalidArgument _ 36 _ => .nameTooLong
  | error => .stated (toString error)

/-- Whether something is at a path. -/
def isThere (path : String) : IO Bool := do
  try
    discard (IO.FS.realPath path)
    return true
  catch _ => return false

/-- Makes the directory of a path unless something is there. -/
def makeOutbox : Server.OutboxMaker IO := fun path => do
  if path.toList.contains '\x00' then return some .zeroByte
  try
    unless ← isThere path do IO.FS.createDirAll path
    return none
  catch error => return some (storageDefect error)

/-- Hexadecimal digits drawn at random, two for each byte. -/
def randomDigits (bytes : USize) : IO (List Char) := do
  let drawn ← IO.getRandomBytes bytes
  return drawn.toList.flatMap fun b => [Text.hexDigit (b.toNat / 16), Text.hexDigit (b.toNat % 16)]

/-- A new id of a message. -/
def newId : IO Mail.MessageId := do
  let digits ← randomDigits 16
  let part := fun start size => String.ofList ((digits.drop start).take size)
  return "-".intercalate [part 0 8, part 8 4, "4" ++ part 13 3, "8" ++ part 17 3, part 20 12]

/-- The date and time, as a message gives them. -/
def now : IO String :=
  return (Std.Time.DateTime.ofTimestamp (← Std.Time.Timestamp.now) .UTC).toRFC822String

/-- Writes mail into a directory, one file a mail. -/
def fileTransport (directory : String) : Mail.Transport IO := fun email => do
  let boundary := String.ofList (← randomDigits 20)
  match email.message { boundary, date := some (← now) } with
  | .error error => return .error error
  | .ok message =>
      let id ← newId
      try
        IO.FS.writeFile (directory ++ "/" ++ id ++ ".eml") message
        return .ok id
      catch error => return .error (.unwritten (storageDefect error))

/-- An address with a port. -/
def socketAddress (port : Nat) : IPAddr → SocketAddress
  | .v4 address => .v4 ⟨address, port.toUInt16⟩
  | .v6 address => .v6 ⟨address, port.toUInt16⟩

/-- The addresses of a host. -/
def lookUp (host : String) (port : Nat) : Async (List SocketAddress) := do
  let found ← Std.Async.DNS.getAddrInfo host (toString port) none
  return found.toList.map (socketAddress port)

/-- Sends bytes to an address, and takes what comes until the connection is closed. -/
def converse (address : SocketAddress) (bytes : ByteArray) : Async ByteArray := do
  let client ← Std.Async.TCP.Socket.Client.mk
  client.connect address
  client.send bytes
  let mut received := ByteArray.empty
  repeat
    match ← client.recv? 65536 with
    | some more => received := received ++ more
    | none => break
  return received

/-- Makes a call, over the first address of its host. -/
def exchange : Http.Exchange Async := fun call => do
  if call.url.scheme != "http".toList then return none
  try
    match ← lookUp call.url.plainHost call.url.servicePort with
    | [] => return none
    | address :: _ =>
        let received ← converse address call.written.toUTF8
        return Http.Reply.ofBytes? received.data.toList
  catch _ => return none

/-- The transport to a destination. -/
def transport : Mail.Destination → Mail.Transport Async
  | .provider address key =>
      match Mail.Provider.connect key address with
      | .ok provider => provider.send exchange
      | .error error => fun _ => pure (.error error)
  | .directory path => fun email => (fileTransport path email : IO _)

/-- The converter of a model. -/
def converter : Option Photo.VisionModel → Web.Converter Async
  | some model => model.convert exchange
  | none => fun _ => pure (.error .emptyKey)

/-- The service's view of a request. -/
def readRequest (request : Std.Http.Request Std.Http.Body.Stream) : Async Web.Request := do
  let body : ByteArray ← request.body.readAll
  return {
    method := toString request.line.method
    target := toString request.line.uri
    headers := request.line.headers.toList.map fun (name, value) => (toString name, toString value)
    body }

/-- The response that carries an answer. -/
def writeAnswer (answer : Web.Answer) : Async (Std.Http.Response Std.Http.Body.Any) := do
  let status := (Std.Http.Status.ofCode none answer.status.toUInt16).getD .internalServerError
  let text :=
    match answer.body with
    | .none => ""
    | .document json => json.render
    | .text s => s
  let fields := (answer.contentType.map (("content-type", ·))).toList
    ++ (answer.allow.map (("allow", ·))).toList
  let builder := fields.foldl
    (fun builder (name, value) => (builder.header? name value).getD builder)
    (Std.Http.Response.withStatus status)
  return builder.body (Std.Http.Body.Any.ofBody (← Std.Http.Body.Full.ofString text))

/-- Answers a request with the collaborators of a service. -/
def respond (service : Web.Service) (transport : Mail.Transport Async)
    (convert : Web.Converter Async) (request : Std.Http.Request Std.Http.Body.Stream) :
    Async (Std.Http.Response Std.Http.Body.Any) := do
  let answer ← (service.handle (← readRequest request)).run transport convert
  writeAnswer answer

/-- Serves at an address until the program is stopped. -/
def serve (address : Server.ListenAddress)
    (respond : Std.Http.Request Std.Http.Body.Stream →
      Async (Std.Http.Response Std.Http.Body.Any)) : Async Unit := do
  match ← lookUp address.host address.port with
  | [] => throw (.userError ("no address for " ++ address.host))
  | socket :: _ =>
      let server ← Std.Http.Server.serve socket
        (Std.Http.Server.Handler.ofFn fun request => respond request)
      server.waitShutdown

end Receipts.Main

open Receipts Receipts.Main in
/-- Starts the server, or reports why it cannot start. -/
def main (arguments : List String) : IO UInt32 := do
  match ← Server.startWith arguments (← readVariables) makeOutbox with
  | .stop code message =>
      for message in message do IO.eprintln message
      return code.toUInt32
  | .serve address service mail model =>
      (serve address (respond service (transport mail) (converter model))).block
      return 0
