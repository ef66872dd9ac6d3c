import Receipts.Http.Status
import Receipts.Http.Url

/-!
# Exchanges with a service

A call posts a JSON document to a service under a bearer key. It can only be
made when the address is a web address and the key may stand in a header. The
service answers with a reply, or it is not reached.
-/

namespace Receipts.Http

/-- Why an exchange came to nothing. -/
inductive Failure where
  | noCall
  | notWeb (url : String)
  | unreachable (url : String)
  | unreadableReply
  deriving DecidableEq, Repr

namespace Failure

/-- The failure in words. -/
def reason : Failure → String
  | noCall => "builder error"
  | notWeb url => "builder error for url (" ++ url ++ ")"
  | unreachable url => "error sending request for url (" ++ url ++ ")"
  | unreadableReply => "error decoding response body"

/-- The failure with what it is a failure of. -/
def message (failure : Failure) : String := "HTTP client error: " ++ failure.reason

end Failure

/-- A document to post. -/
structure Call where
  url : Url
  key : String
  body : String
  deriving DecidableEq, Repr

/-- The answer of a service. -/
structure Reply where
  status : Nat
  body : List UInt8
  deriving DecidableEq, Repr

/-- What comes of a call: a reply, or nothing when the service is not reached. -/
abbrev Exchange (m : Type → Type) := Call → m (Option Reply)

/-- Whether a character may stand in a header. -/
def isHeaderChar (c : Char) : Bool :=
  c == '\t' || (0x20 ≤ c.toNat && c.toNat != 0x7F)

/-- A call to an address, if it can be made. -/
def call? (address key body : String) : Except Failure Call :=
  match (Url.ofWritten? address).map Url.withoutUser with
  | none => .error .noCall
  | some url =>
      let isWeb := url.scheme == "http".toList || url.scheme == "https".toList
      if !url.hasHost then .error (.notWeb url.text)
      else if !key.toList.all isHeaderChar then .error .noCall
      else if isWeb && url.isCallable then .ok ⟨url, key, body⟩
      else .error (.notWeb url.text)

namespace Call

/-- The request line of a call, without its version. -/
def requestLine (call : Call) : String := "POST " ++ call.url.target

/-- The value of the header that carries the key, without the spaces at its end. -/
def authorization (call : Call) : String :=
  let isSpace := fun c => c == ' ' || c == '\t'
  String.ofList (("Bearer " ++ call.key).toList.reverse.dropWhile isSpace).reverse

end Call

namespace Reply

/-- The bytes of a reply. Some statuses come without any. -/
def content (reply : Reply) : List UInt8 :=
  if reply.status == 204 || reply.status == 304 then [] else reply.body

/-- The text of a reply, without a byte order mark. -/
def text (reply : Reply) : String :=
  match reply.content with
  | 0xEF :: 0xBB :: 0xBF :: bytes => Text.ofUtf8Lossy bytes
  | bytes => Text.ofUtf8Lossy bytes

end Reply

/-- The reply to a call that has to be answered. -/
def answered (call : Call) : Option Reply → Except Failure Reply
  | some reply => .ok reply
  | none => .error (.unreachable call.url.text)

end Receipts.Http
