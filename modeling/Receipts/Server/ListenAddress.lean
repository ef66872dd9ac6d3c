import Receipts.Http.Host

/-!
# Addresses to listen on

An address is a host and a port with a colon between them. The port is the part
after the last colon, and may have a plus sign before it.
-/

namespace Receipts.Server

/-- Where a server listens. -/
structure ListenAddress where
  host : String
  port : Nat
  deriving DecidableEq, Repr

/-- Why a text is no address to listen on. -/
inductive ListenDefect where
  | noColon
  | port
  deriving DecidableEq, Repr

/-- The defect in words. -/
def ListenDefect.message : ListenDefect → String
  | noColon => "invalid socket address"
  | port => "invalid port value"

namespace ListenAddress

/-- The port that digits spell. -/
def port? (digits : List Char) : Option Nat :=
  let digits :=
    match digits with
    | '+' :: digits => digits
    | digits => digits
  if digits.isEmpty then none else (Http.Host.number? 10 digits).filter (· < 65536)

/-- Reads an address. -/
def ofText (s : String) : Except ListenDefect ListenAddress :=
  let reversed := s.toList.reverse
  match reversed.dropWhile (· != ':') with
  | [] => .error .noColon
  | _ :: host =>
      match port? (reversed.takeWhile (· != ':')).reverse with
      | none => .error .port
      | some port => .ok ⟨String.ofList host.reverse, port⟩

end ListenAddress

end Receipts.Server
