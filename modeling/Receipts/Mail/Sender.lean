import Receipts.Json.Format

/-!
# Senders

Whom a receipt comes from: an address, and perhaps a name that is shown beside
it.
-/

namespace Receipts

open Json (textMember textOrNullMember)

/-- Whom a receipt comes from. -/
structure Sender where
  address : String
  name : Option String := none
  deriving DecidableEq, Repr

namespace Sender

/-- The name with the address in angle brackets, or the address alone. -/
def formatted (sender : Sender) : String :=
  match sender.name with
  | some name => name ++ " <" ++ sender.address ++ ">"
  | none => sender.address

/-- The format of a sender. -/
def format : Json.Format Sender where
  shape :=
    .record "Sender" (.ofList
      [textMember "address" .required, textOrNullMember "name" .nullable])
  ofJson json := ⟨json.textAt "address", json.textAt? "name"⟩
  toJson sender :=
    .object [("address", .text sender.address), ("name", Json.ofText? sender.name)]

end Sender

end Receipts
