import Mathlib.Data.List.TakeWhile
import Receipts.FileReference
import Receipts.Http.Url
import Receipts.Proofs.Base64
import Receipts.Proofs.Text.Scan

/-!
# File references that are read

A reader of URLs takes what follows a hash sign for a fragment, and the first comma of a `data:` URL
for the end of its media type. Read so, the URL that carries bytes gives these bytes back whenever
its media type has neither of the two characters in it.
-/

namespace Receipts

open Http.Url (cut)

/-! ## Cuts -/

section
variable {c : Char} {s : List Char}

theorem cut_of_not_mem (hc : c ∉ s) : cut c s = (s, none) := by
  have hrest : s.dropWhile (· != c) = [] :=
    List.dropWhile_eq_nil_iff.mpr fun d hd => bne_iff_ne.mpr fun h => hc (h ▸ hd)
  rw [cut, hrest]

theorem cut_append (hc : c ∉ s) (rest : List Char) : cut c (s ++ c :: rest) = (s, some rest) := by
  rw [cut, Text.dropWhile_stop hc, Text.takeWhile_stop hc]

end

/-! ## Data -/

/-- The bytes that a `data:` URL carries. A media type that ends in the word for it says that they
are written in Base64; otherwise they are written with percent signs. -/
def dataBytes? (url : String) : Option (List UInt8) :=
  let (whole, _) := cut '#' url.toList
  if "data:".toList.isPrefixOf whole then
    match cut ',' (whole.drop "data:".length) with
    | (_, none) => none
    | (type, some data) =>
        if ";base64".toList.isSuffixOf type then Base64.decode? data
        else some (Http.percentDecode data)
  else none

theorem toList_dataUrl (mediaType : String) (bytes : List UInt8) :
    (dataUrl mediaType bytes).toList =
      "data:".toList ++ (mediaType.toList ++ ";base64".toList ++ ',' :: Base64.encode bytes) := by
  simp [dataUrl]

theorem scheme_isPrefixOf_dataUrl (mediaType : String) (bytes : List UInt8) :
    "data:".toList.isPrefixOf (dataUrl mediaType bytes).toList = true := by
  rw [toList_dataUrl, List.isPrefixOf_iff_prefix]
  exact List.prefix_append _ _

/-- The bytes in the URL of a media type without commas and hash signs are read back. -/
theorem dataBytes?_dataUrl {mediaType : String} (hcomma : ',' ∉ mediaType.toList)
    (hhash : '#' ∉ mediaType.toList) (bytes : List UInt8) :
    dataBytes? (dataUrl mediaType bytes) = some bytes := by
  have hnoHash : '#' ∉ (dataUrl mediaType bytes).toList := by
    simp [toList_dataUrl, hhash, Base64.not_mem_encode (c := '#') (by decide)]
  have htype : ',' ∉ mediaType.toList ++ ";base64".toList := by
    simp [hcomma]
  have hdata : (dataUrl mediaType bytes).toList.drop "data:".length =
      mediaType.toList ++ ";base64".toList ++ ',' :: Base64.encode bytes := by
    rw [toList_dataUrl]
    exact List.drop_left
  have hbase64 : ";base64".toList.isSuffixOf (mediaType.toList ++ ";base64".toList) = true := by
    rw [List.isSuffixOf_iff_suffix]
    exact List.suffix_append _ _
  rw [dataBytes?, cut_of_not_mem hnoHash]
  simp only [scheme_isPrefixOf_dataUrl, if_true, hdata, cut_append htype, hbase64,
    Base64.decode?_encode]

end Receipts
