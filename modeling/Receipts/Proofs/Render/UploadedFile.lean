import Receipts.Proofs.FileReference
import Receipts.Proofs.Render.Filling

/-!
# Uploaded files in a rendered document

The URL that an uploaded file is kept as goes through rendering as it is: it has no braces, so it
neither holds a token nor is part of one. The bytes of the file are read back from the rendered
document.
-/

namespace Receipts

open Http.Url (cut)
open Template (token)

/-- The bytes that are written in Base64 behind the first comma of a text. -/
def bytesBehindComma? (s : String) : Option (List UInt8) :=
  (cut ',' s.toList).2.bind Base64.decode?

/-! ## The URL of a file -/

section
variable {mediaType : String} (bytes : List UInt8)

theorem isFileReference_dataUrl : isFileReference (dataUrl mediaType bytes) = true := by
  rw [isFileReference, List.any_cons, scheme_isPrefixOf_dataUrl, Bool.true_or]

theorem bytesBehindComma?_dataUrl (h : ',' ∉ mediaType.toList) :
    bytesBehindComma? (dataUrl mediaType bytes) = some bytes := by
  have hfront : ',' ∉ "data:".toList ++ (mediaType.toList ++ ";base64".toList) := by simp [h]
  rw [bytesBehindComma?, toList_dataUrl, ← List.append_assoc, cut_append hfront, Option.bind_some,
    Base64.decode?_encode]

theorem isBraceless_dataUrl (h : IsBraceless mediaType.toList) :
    IsBraceless (dataUrl mediaType bytes).toList := by
  have hpayload : IsBraceless (Base64.encode bytes) :=
    ⟨Base64.not_mem_encode (by decide) bytes, Base64.not_mem_encode (by decide) bytes⟩
  rw [toList_dataUrl]
  exact ⟨by simp [h.1, hpayload.1], by simp [h.2, hpayload.2]⟩

end

/-! ## Templates of one token -/

theorem not_token_infix_of_isBraceless {s : List Char} (h : IsBraceless s) (name : List Char) :
    ¬ token name <:+: s :=
  fun hin => h.1 (hin.subset (by simp [token]))

theorem replaceAll_token (key value : List Char) :
    Text.replaceAll (token key) value (token key) = value := by
  have hne := Template.token_ne_nil key
  have hput := Text.replaceAll_append_left value hne []
  rwa [Text.replaceAll_nil value hne, List.append_nil, List.append_nil] at hput

/-- A value without braces comes out of the token of its key as it is. -/
theorem render_token (key : String) {value : String} (h : IsBraceless value.toList) :
    render (String.ofList (token key.toList)) (FormValues.empty.insert key value) = value := by
  -- One pass puts the value in. No token is left then, so nothing is removed and nothing blanked.
  have hsupplies : (FormValues.empty.insert key value).supplies
      = [(key.toList, value.toList)] := rfl
  have hpass : substitute (FormValues.empty.insert key value).supplies
      (String.ofList (token key.toList)).toList = value.toList := by
    rw [hsupplies, String.toList_ofList]
    exact replaceAll_token key.toList value.toList
  have hnone : presentToken? (FormValues.empty.insert key value).supplies value.toList = none :=
    presentToken?_eq_none_iff.mpr fun supply _ => not_token_infix_of_isBraceless h supply.1
  refine String.toList_injective ?_
  rw [toList_render_of_pass value.toList hpass hnone]
  exact Template.fill_of_no_token _ fun name _ => not_token_infix_of_isBraceless h name

/-- Bytes that are uploaded for a key are kept as a URL that carries them, in the one way that they
are written in Base64. A template that is the token of the key renders as this URL, and the bytes
are read back from it. -/
theorem render_insertFile (values : FormValues) (key : String) {mediaType : String}
    (hcomma : ',' ∉ mediaType.toList) (hbraces : IsBraceless mediaType.toList)
    (bytes : List UInt8) :
    ∃ url payload, url = "data:" ++ mediaType ++ ";base64," ++ String.ofList payload ∧
      (∀ s, Base64.decode? s = some bytes ↔ s = payload) ∧
      (values.insertFile key mediaType bytes).get? key = some url ∧
      isFileReference url = true ∧
      render (String.ofList (token key.toList)) (FormValues.empty.insertFile key mediaType bytes)
        = url ∧
      bytesBehindComma? (render (String.ofList (token key.toList))
        (FormValues.empty.insertFile key mediaType bytes)) = some bytes := by
  have hrender := render_token key (isBraceless_dataUrl bytes hbraces)
  refine ⟨dataUrl mediaType bytes, Base64.encode bytes, rfl,
    fun _ => Base64.decode?_eq_some_iff, ?_, isFileReference_dataUrl bytes, hrender, ?_⟩
  · rw [FormValues.insertFile, FormValues.get?_insert, if_pos rfl]
  · rw [FormValues.insertFile, hrender, bytesBehindComma?_dataUrl bytes hcomma]

/-- Values that have a logo already. -/
def logoValues : FormValues where
  entries := [("LOGO", "https://cdn.example.com/logo.png"), ("NAME", "Ana")]
  ascending := by decide

theorem render_insertFile_logoValues :
    ',' ∉ "image/svg+xml#x".toList ∧ IsBraceless "image/svg+xml#x".toList ∧
    (logoValues.insertFile "LOGO" "image/svg+xml#x" [251, 255, 0, 1]).get? "LOGO"
      = some "data:image/svg+xml#x;base64,+/8AAQ==" ∧
    render "\x7b\x7bLOGO\x7d\x7d"
      (FormValues.empty.insertFile "LOGO" "image/svg+xml#x" [251, 255, 0, 1])
      = "data:image/svg+xml#x;base64,+/8AAQ==" ∧
    bytesBehindComma? "data:image/svg+xml#x;base64,+/8AAQ==" = some [251, 255, 0, 1] := by
  have hcomma : ',' ∉ "image/svg+xml#x".toList := by decide
  have hbraces : IsBraceless "image/svg+xml#x".toList := by decide
  obtain ⟨url, payload, hurl, hpayload, hget, -, hrender, hbytes⟩ :=
    render_insertFile logoValues "LOGO" hcomma hbraces [251, 255, 0, 1]
  obtain rfl : "+/8AAQ==".toList = payload := (hpayload _).mp (by decide)
  subst hurl
  rw [hrender] at hbytes
  exact ⟨hcomma, hbraces, hget, hrender, hbytes⟩

end Receipts
