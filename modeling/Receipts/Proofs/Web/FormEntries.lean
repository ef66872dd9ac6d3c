import Receipts.Proofs.Web.FormHeads

/-!
# Entries of forms

An entry is what is entered in a form under a name. It is written with a head that has its
disposition and perhaps its media type, and its content behind that. The head is read as the name,
the file name and the media type of the entry.
-/

namespace Receipts.Web.Multipart

open Text (utf8)

/-- What is entered in a form under a name: bytes, perhaps with a file name and a media type. -/
structure Entry where
  name : String
  fileName : Option String := none
  mediaType : Option String := none
  content : List UInt8
  deriving DecidableEq

namespace Entry

/-- The part that an entry is read as. -/
def part (entry : Entry) : Part :=
  ⟨some entry.name, entry.fileName, entry.mediaType, entry.content⟩

/-- The file name in a disposition. -/
def fileNameText (entry : Entry) : String :=
  match entry.fileName with
  | none => ""
  | some fileName => "; filename=\"" ++ fileName ++ "\""

/-- The disposition of an entry. -/
def disposition (entry : Entry) : String :=
  "form-data; name=\"" ++ entry.name ++ "\"" ++ entry.fileNameText

/-- The fields in the head of an entry. -/
def fields (entry : Entry) : List Field :=
  ("Content-Disposition", entry.disposition) ::
    (entry.mediaType.map fun type => ("Content-Type", type)).toList

/-- An entry whose names can stand between quotes and whose media type is in normal form. -/
structure HasPlainHead (entry : Entry) : Prop where
  name : ∀ c ∈ entry.name.toList, isPlain c = true
  fileName : ∀ fileName ∈ entry.fileName, ∀ c ∈ fileName.toList, isPlain c = true
  mediaType : ∀ type ∈ entry.mediaType, IsLowerType type

variable {entry : Entry}

theorem utf8_disposition (entry : Entry) : utf8 entry.disposition = utf8 "form-data; " ++
    (utf8 "name" ++ 61 :: 34 :: (utf8 entry.name ++ 34 :: utf8 entry.fileNameText)) := by
  have hstart : utf8 "form-data; name=\"" = utf8 "form-data; " ++ (utf8 "name" ++ [61, 34]) := by
    decide +kernel
  have hquote : utf8 "\"" = [34] := by decide
  unfold disposition
  rw [Text.utf8_append, Text.utf8_append, Text.utf8_append, hstart, hquote]
  generalize utf8 "form-data; " = opening, utf8 "name" = word
  simp

theorem attributeFrom?_name (hname : ∀ c ∈ entry.name.toList, isPlain c = true) :
    attributeFrom? (utf8 "name") ((utf8 entry.disposition).length + 1) none
      (utf8 entry.disposition) = some entry.name := by
  have hn : (110 : UInt8) ∉ utf8 "form-data; " := by decide
  have hword : utf8 "name" = 110 :: [97, 109, 101] := by decide
  have hlast : (utf8 "form-data; ").getLast?.or none = some 32 := by decide
  rw [utf8_disposition, hword]
  exact attributeFrom?_quoted hname hn hlast (by decide) _

/-- The bytes of a disposition with this name and a file name. Its first letter is that of the
attribute for the file name. -/
theorem utf8_fileDisposition (fileName : String) :
    utf8 ("form-data; name=\"" ++ "image" ++ "\"" ++ ("; filename=\"" ++ fileName ++ "\"")) =
      102 :: (utf8 "orm-data; name=\"image\"; " ++
        (utf8 "filename" ++ 61 :: 34 :: (utf8 fileName ++ [34]))) := by
  have hstart : utf8 ("form-data; name=\"" ++ "image" ++ "\"") ++ utf8 "; filename=\"" =
      102 :: (utf8 "orm-data; name=\"image\"; " ++ (utf8 "filename" ++ [61, 34])) := by
    decide +kernel
  have hquote : utf8 "\"" = [34] := by decide
  rw [Text.utf8_append _ (_ ++ _), Text.utf8_append (_ ++ fileName),
    Text.utf8_append _ fileName, hquote, ← List.append_assoc, ← List.append_assoc, hstart]
  generalize utf8 "orm-data; name=\"image\"; " = opening, utf8 "filename" = word
  simp

/-- The file name of an entry of this name is read back; another name might itself hold what looks
like a file name. -/
theorem attributeFrom?_fileName (hname : entry.name = "image")
    (hfile : ∀ fileName ∈ entry.fileName, ∀ c ∈ fileName.toList, isPlain c = true) :
    attributeFrom? (utf8 "filename") ((utf8 entry.disposition).length + 1) none
      (utf8 entry.disposition) = entry.fileName := by
  unfold disposition fileNameText
  rw [hname]
  cases hcase : entry.fileName with
  | none => decide +kernel
  | some fileName =>
      have hplain := hfile fileName hcase
      have hf : (102 : UInt8) ∉ utf8 "orm-data; name=\"image\"; " := by decide +kernel
      have hword : utf8 "filename" = 102 :: [105, 108, 101, 110, 97, 109, 101] := by decide
      have hlast : (utf8 "orm-data; name=\"image\"; ").getLast?.or (some 102) = some 32 := by
        decide +kernel
      -- the first word begins with the same letter, and differs in the next one
      have hother : ∀ s, ¬ utf8 "filename" <+: 102 :: (utf8 "orm-data; name=\"image\"; " ++ s) := by
        intro s hstarts
        have ho : utf8 "orm-data; name=\"image\"; " = 111 :: utf8 "rm-data; name=\"image\"; " := by
          decide +kernel
        rw [hword, ho, List.cons_prefix_cons, List.cons_append, List.cons_prefix_cons] at hstarts
        exact absurd hstarts.2.1 (by decide)
      rw [utf8_fileDisposition, attributeFrom?_cons (hother _), List.length_cons, hword]
      exact attributeFrom?_quoted hplain hf hlast (by decide) []

/-! ## The head of an entry -/

theorem exists_utf8_disposition (entry : Entry) : ∃ s, utf8 entry.disposition = s ++ [34] := by
  have hquote : utf8 "\"" = [34] := by decide
  unfold disposition fileNameText
  cases entry.fileName with
  | none =>
      refine ⟨utf8 ("form-data; name=\"" ++ entry.name), ?_⟩
      rw [String.append_empty, Text.utf8_append _ "\"", hquote]
  | some fileName =>
      refine ⟨utf8 ("form-data; name=\"" ++ entry.name ++ "\"" ++
        ("; filename=\"" ++ fileName)), ?_⟩
      rw [← hquote, ← Text.utf8_append, ← String.append_assoc, ← String.append_assoc]

theorem HasPlainHead.isQuotable_disposition (h : entry.HasPlainHead) :
    ∀ c ∈ entry.disposition.toList, MediaType.isQuotable c = true := by
  have hopening : ∀ c ∈ "form-data; name=\"".toList, MediaType.isQuotable c = true :=
    List.all_eq_true.mp (by decide)
  have hfile : ∀ c ∈ "; filename=\"".toList, MediaType.isQuotable c = true :=
    List.all_eq_true.mp (by decide)
  have hquote : ∀ c ∈ "\"".toList, MediaType.isQuotable c = true :=
    List.all_eq_true.mp (by decide)
  have hplain : ∀ s : String, (∀ c ∈ s.toList, isPlain c = true) →
      ∀ c ∈ s.toList, MediaType.isQuotable c = true := by
    intro s hs c hc
    have hchar := hs c hc
    simp only [isPlain, Bool.and_eq_true] at hchar
    exact hchar.1.1
  have hname := hplain _ h.name
  unfold disposition fileNameText
  cases hcase : entry.fileName with
  | none =>
      simp only [String.toList_append, List.forall_mem_append]
      exact ⟨⟨⟨hopening, hname⟩, hquote⟩, List.forall_mem_nil _⟩
  | some fileName =>
      have hfileName := hplain _ (h.fileName fileName hcase)
      simp only [String.toList_append, List.forall_mem_append]
      exact ⟨⟨⟨hopening, hname⟩, hquote⟩, ⟨hfile, hfileName⟩, hquote⟩

theorem HasPlainHead.isReadable_disposition (h : entry.HasPlainHead) :
    Field.IsReadable ("Content-Disposition", entry.disposition) where
  name_ne_nil := by
    show utf8 "Content-Disposition" ≠ []
    decide
  name_bytes := by
    show ∀ b ∈ utf8 "Content-Disposition", isNameByte b = true
    exact List.all_eq_true.mp (by decide)
  value_bytes := isValueByte_of_mem_utf8 h.isQuotable_disposition
  value_start := by
    show (utf8 entry.disposition).dropWhile isSpace = utf8 entry.disposition
    rw [utf8_disposition]
    rfl
  value_end := by
    obtain ⟨s, hs⟩ := entry.exists_utf8_disposition
    show (utf8 entry.disposition).reverse.dropWhile isSpace = (utf8 entry.disposition).reverse
    rw [hs, List.reverse_append]
    rfl

theorem isReadable_mediaType {type : String} (h : IsLowerType type) :
    Field.IsReadable ("Content-Type", type) where
  name_ne_nil := by
    show utf8 "Content-Type" ≠ []
    decide
  name_bytes := by
    show ∀ b ∈ utf8 "Content-Type", isNameByte b = true
    exact List.all_eq_true.mp (by decide)
  value_bytes := by
    refine isValueByte_of_mem_utf8 fun c hc => ?_
    have hrange := h.printable c hc
    exact isQuotable_iff.mpr (by omega)
  value_start :=
    List.dropWhile_eq_self_iff.mpr fun _ => h.not_isSpace _ (List.getElem_mem _)
  value_end :=
    List.dropWhile_eq_self_iff.mpr fun _ =>
      h.not_isSpace _ (List.mem_reverse.mp (List.getElem_mem _))

theorem HasPlainHead.isReadable (h : entry.HasPlainHead) : ∀ f ∈ entry.fields, f.IsReadable := by
  intro f hf
  rw [fields, List.mem_cons, Option.mem_toList, Option.map_eq_some_iff] at hf
  rcases hf with rfl | ⟨type, htype, rfl⟩
  · exact h.isReadable_disposition
  · exact isReadable_mediaType (h.mediaType type htype)

theorem lookup_disposition (entry : Entry) :
    (headersOf entry.fields).lookup (utf8 "content-disposition") =
      some (utf8 entry.disposition) := by
  have hname : (utf8 "Content-Disposition").map lowered = utf8 "content-disposition" := by decide
  have hother : (utf8 "content-disposition" == (utf8 "Content-Type").map lowered) = false := by
    decide
  cases hcase : entry.mediaType <;>
    simp [headersOf, fields, hcase, List.lookup_cons, hname, hother]

theorem lookup_mediaType (entry : Entry) :
    (headersOf entry.fields).lookup (utf8 "content-type") = entry.mediaType.map utf8 := by
  have hname : (utf8 "Content-Type").map lowered = utf8 "content-type" := by decide
  have hother : (utf8 "content-type" == (utf8 "Content-Disposition").map lowered) = false := by
    decide
  cases hcase : entry.mediaType <;>
    simp [headersOf, fields, hcase, List.lookup_cons, hname, hother]

/-- The name of an entry is read back. -/
theorem HasPlainHead.attribute?_name (h : entry.HasPlainHead) :
    attribute? "name" (headersOf entry.fields) = some entry.name := by
  rw [attribute?, lookup_disposition]
  exact attributeFrom?_name h.name

theorem HasPlainHead.attribute?_fileName (h : entry.HasPlainHead) (hname : entry.name = "image") :
    attribute? "filename" (headersOf entry.fields) = entry.fileName := by
  rw [attribute?, lookup_disposition]
  exact attributeFrom?_fileName hname h.fileName

/-- The media type of an entry is read back. -/
theorem HasPlainHead.mediaType?_headersOf (h : entry.HasPlainHead) :
    mediaType? (headersOf entry.fields) = entry.mediaType := by
  rw [mediaType?, lookup_mediaType]
  cases hcase : entry.mediaType with
  | none => rfl
  | some written =>
      have hlower := h.mediaType written hcase
      obtain ⟨type, htype, htext⟩ := ofText?_of_isLowerType hlower
      rw [Option.map_some, Option.bind_some, plainChars?_utf8 hlower.printable, Option.bind_some,
        htype, Option.map_some, htext, String.ofList_toList]

/-- What stands after a boundary and before the content of an entry is read as its head. -/
theorem HasPlainHead.opening?_written (h : entry.HasPlainHead) (rest : List UInt8) :
    opening? (lineEnd ++ (writtenFields entry.fields ++ (lineEnd ++ rest))) =
      some (some (headersOf entry.fields, rest)) := by
  have hreadable := h.isReadable
  obtain ⟨head, hhead, hsplit⟩ : ∃ head, head ++ lineEnd = writtenFields entry.fields ∧
      splitAt? (lineEnd ++ lineEnd) [] (writtenFields entry.fields ++ (lineEnd ++ rest)) =
        some (head, rest) := splitAt?_writtenFields hreadable [] rest
  have hfields : entry.fields.length ≤ 2 := by
    rw [fields, List.length_cons]
    cases entry.mediaType <;> simp
  have hlength : (headersOf entry.fields).length ≤ 2 := by simpa [headersOf] using hfields
  have hheaders : headers? (head.length + 4) [] (head ++ lineEnd ++ lineEnd) =
      some (headersOf entry.fields) := by
    have hread : headers? (head.length + 4) [] (writtenFields entry.fields ++ (lineEnd ++ [])) =
        some (headersOf entry.fields ++ []) := headers?_writtenFields hreadable (by omega) [] []
    rwa [List.append_nil, List.append_nil, ← hhead] at hread
  have hstart : ∀ s, (lineEnd ++ s).dropWhile isSpace = lineEnd ++ s := fun _ => rfl
  have hline : ∀ s, lineEnd.isPrefixOf (lineEnd ++ s) = true := fun s =>
    List.isPrefixOf_iff_prefix.mpr (List.prefix_append _ _)
  have hdashes : ∀ s, ¬ dashes.isPrefixOf (lineEnd ++ s) = true := fun s => by
    simp [dashes, lineEnd, List.isPrefixOf]
  rw [opening?, if_neg (hdashes _)]
  simp only [hstart, hline, List.drop_left, Bool.not_true, Bool.false_eq_true, if_false, hsplit,
    Option.bind_eq_bind, Option.bind_some, hheaders]
  rw [if_neg (by omega)]

end Entry

end Receipts.Web.Multipart
