import Receipts.Http.Exchange
import Receipts.Text.Blank

/-!
# Exchanges as bytes

A call is written as a request that asks for the connection to be closed, so a
reply is all that comes until then. The body of a reply comes in chunks, or has a
stated length, or goes on to the end; a reply that is cut short is none.
-/

namespace Receipts.Http

/-- The port of a URL, or the usual one of its scheme. -/
def Url.servicePort (url : Url) : Nat :=
  (url.port.or (Url.usualPorts.lookup url.scheme)).getD 80

/-- The host of a URL without the brackets around an address of groups. -/
def Url.plainHost (url : Url) : String :=
  String.ofList ((url.host.getD []).filter fun c => c != '[' && c != ']')

namespace Call

/-- The host and port that a request names. -/
def place (call : Call) : String :=
  String.ofList (call.url.host.getD [])
    ++ (call.url.port.map fun n => ":" ++ toString n).getD ""

/-- A call as it is sent. -/
def written (call : Call) : String :=
  "\x0d\n".intercalate
    [call.requestLine ++ " HTTP/1.1",
     "host: " ++ call.place,
     "accept: */*",
     "content-type: application/json",
     "authorization: " ++ call.authorization,
     "content-length: " ++ toString call.body.utf8ByteSize,
     "connection: close",
     "",
     call.body]

end Call

namespace Reply

/-- The bytes before the first empty line, of which `head` holds some, and those after it. -/
def atBody? : List UInt8 → List UInt8 → Option (List UInt8 × List UInt8)
  | _, [] => none
  | head, 13 :: 10 :: 13 :: 10 :: rest => some (head.reverse, rest)
  | head, b :: rest => atBody? (b :: head) rest

/-- The name and value of a header line. The name is given in lower case. -/
def header? (line : List Char) : Option (String × String) :=
  match Url.cut ':' line with
  | (name, some value) =>
      some (String.ofList (name.map Char.toLower), String.ofList (Text.trim value))
  | _ => none

/-- The status in the first line of a reply. -/
def status? (line : List Char) : Option Nat :=
  match List.splitOn ' ' line with
  | version :: digits :: _ =>
      if "HTTP/".toList.isPrefixOf version && digits.length = 3 then Host.number? 10 digits
      else none
  | _ => none

/-- A body out of its chunks, with at most `fuel` of them. -/
def unchunked? : Nat → List UInt8 → Option (List UInt8)
  | 0, _ => none
  | fuel + 1, bytes =>
      let line := bytes.takeWhile (· != 10)
      let digits := (line.map fun b => Char.ofNat b.toNat).takeWhile Char.isAlphanum
      let rest := bytes.drop (line.length + 1)
      match if digits.isEmpty then none else Host.number? 16 digits with
      | none => none
      | some 0 => some []
      | some n =>
          if rest.length < n then none
          else (unchunked? fuel (rest.drop (n + 2))).map (rest.take n ++ ·)

/-- The body after the head of a reply. -/
def body? (headers : List (String × String)) (bytes : List UInt8) : Option (List UInt8) :=
  if headers.lookup "transfer-encoding" = some "chunked" then unchunked? bytes.length bytes
  else
    match headers.lookup "content-length" with
    | none => some bytes
    | some digits =>
        match Host.number? 10 digits.toList with
        | some n => if bytes.length < n then none else some (bytes.take n)
        | none => none

/-- Reads a reply. -/
def ofBytes? (bytes : List UInt8) : Option Reply := do
  let (head, rest) ← atBody? [] bytes
  match List.splitOn '\n' (Text.ofUtf8Lossy head).toList with
  | [] => none
  | first :: lines =>
      let status ← status? (Text.trim first)
      let body ← body? (lines.filterMap header?) rest
      some ⟨status, body⟩

end Reply

end Receipts.Http
