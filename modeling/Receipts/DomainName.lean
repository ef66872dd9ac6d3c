import Receipts.DomainName.Direction
import Receipts.DomainName.Punycode

/-!
# Domain names

A domain name consists of labels with points between them. It is brought into the
form in which it is looked up: in the usual spelling, and labels with characters
beyond ASCII in Punycode, which such labels may also be given in.
-/

namespace Receipts.DomainName

/-- What a label in Punycode starts with. -/
def punycodeMark : List Char := ['x', 'n', '-', '-']

/-- Whether a character is an ASCII character. -/
def isAscii (c : Char) : Bool := c.toNat < 0x80

/-- The longest label that is written in Punycode, and the longest that is read from it. -/
def lengthLimits : Nat × Nat := (1000, 2000)

/-- Whether a label may stand in a name. It does not start with a mark. -/
def isLabel (label : List Char) : Bool :=
  !label.head?.any marks.holds && joinersFit [] label &&
    (label.all isAscii || label.length ≤ lengthLimits.1)

/-- Whether a label is in the usual spelling. -/
def isUsual (label : List Char) : Bool :=
  label.all (fun c => mapChar? c == some [c]) && composed label == label

/-- The characters of a label in the usual spelling. One in Punycode has to have characters that it
is needed for. -/
def label? (written : List Char) : Option (List Char) :=
  if punycodeMark.isPrefixOf written then
    if lengthLimits.2 < written.length then none
    else
      (Punycode.decode? (written.drop 4)).filter fun label =>
        !label.all isAscii && !punycodeMark.isPrefixOf label && isUsual label && isLabel label
  else if isLabel written then some written
  else none

/-- A label in ASCII. -/
def labelText (label : List Char) : List Char :=
  if label.all isAscii then label else punycodeMark ++ Punycode.encode label

/-- The form in which a name is looked up, if it is a name without forbidden characters. -/
def lookupForm? (isForbidden : Char → Bool) (name : List Char) : Option (List Char) := do
  let spelled := composed (← name.mapM mapChar?).flatten
  let labels ← (List.splitOn '.' spelled).mapM label?
  if spelled.any isForbidden || (labels.any (·.any isFromRight) && !labels.all keepsDirection) then
    none
  else some (['.'].intercalate (labels.map labelText))

end Receipts.DomainName
