import Receipts.Base64
import Receipts.FormValues

/-!
# File references

A field for a file holds a URL. Uploaded bytes become a `data:` URL, which
carries them in Base64.
-/

namespace Receipts

/-- The URL that carries bytes of a media type. -/
def dataUrl (mediaType : String) (bytes : List UInt8) : String :=
  "data:" ++ mediaType ++ ";base64," ++ String.ofList (Base64.encode bytes)

/-- Whether a value is a URL that an image can be loaded from. -/
def isFileReference (value : String) : Bool :=
  ["data:", "http://", "https://", "blob:"].any fun scheme =>
    scheme.toList.isPrefixOf value.toList

/-- Sets the value of a key to uploaded bytes. -/
def FormValues.insertFile (values : FormValues) (key mediaType : String) (bytes : List UInt8) :
    FormValues :=
  values.insert key (dataUrl mediaType bytes)

end Receipts
