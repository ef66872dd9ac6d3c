/-!
# Words in any letter case

Fixed lower-case words of Latin letters that a text may spell in any letter
case. The long s is another form of the letter s.
-/

namespace Receipts.Text

/-- Whether a character is the given lower-case letter in either case, with the long s among the
forms of `s`. -/
def isCaseOf (letter c : Char) : Bool :=
  c == letter || c == letter.toUpper || (letter == 's' && c.toNat == 0x17F)

/-- The rest of `s` after a lower-case word in any letter case. -/
def afterWord? : List Char → List Char → Option (List Char)
  | [], s => some s
  | letter :: word, c :: s => if isCaseOf letter c then afterWord? word s else none
  | _ :: _, [] => none

end Receipts.Text
