import Receipts.Http.Exchange

/-!
# Photos

An uploaded photo of a receipt, and what can go wrong with turning it into a
template. A photo has to hold bytes and to call itself an image, in lower case.
-/

namespace Receipts

/-- An uploaded photo. -/
structure Photo where
  mediaType : String
  fileName : Option String
  bytes : List UInt8
  deriving DecidableEq, Repr

/-- What is wrong with a photo. -/
inductive Photo.Defect where
  | empty
  | notAnImage (mediaType : String)
  | stated (reason : String)
  deriving DecidableEq, Repr

/-- A defect in words. -/
def Photo.Defect.message : Photo.Defect → String
  | empty => "the upload is empty"
  | notAnImage mediaType => "expected an image, got " ++ mediaType
  | stated reason => reason

/-- An error of converting a photo. -/
inductive PhotoError where
  | unusable (defect : Photo.Defect)
  | refused (status : Nat) (words : String)
  | exchange (failure : Http.Failure)
  | emptyReply
  | setting (reason : String)
  deriving DecidableEq, Repr

namespace PhotoError

/-- The error of a converter without a key. -/
def emptyKey : PhotoError := .setting "vision API key is empty"

/-- The error in words. -/
def message : PhotoError → String
  | unusable defect => "Invalid image: " ++ defect.message
  | refused _ words => words
  | exchange failure => failure.message
  | emptyReply => "The vision model returned no HTML"
  | setting reason => "Configuration error: " ++ reason

end PhotoError

namespace Photo

/-- What keeps a photo from being converted, if anything does. -/
def defect? (photo : Photo) : Option Defect :=
  if photo.bytes.isEmpty then some .empty
  else if !"image/".toList.isPrefixOf photo.mediaType.toList then
    some (.notAnImage photo.mediaType)
  else none

/-- A photo can be converted when it has no defect. -/
def validate (photo : Photo) : Except PhotoError Unit :=
  match photo.defect? with
  | some defect => .error (.unusable defect)
  | none => .ok ()

end Photo

end Receipts
