import Receipts.Proofs.Text.AsciiCase
import Receipts.Proofs.Web.Forms
import Receipts.Proofs.Web.Orders

/-!
# Uploads

A photo is uploaded in a form that is posted to one place of the service. The first entry named
`image` is what the converter gets, once, with its media type, its file name and its exact bytes.
-/

namespace Receipts.Web

open Text (utf8)

/-! ## Boundaries -/

namespace MediaType

/-- Whether every parameter has a value that stays on its line. -/
def OneLine (parameters : List (List Char × List Char)) : Prop :=
  ∀ parameter ∈ parameters, '\r' ∉ parameter.2

theorem not_mem_quotedValue? {s value blanks rest : List Char}
    (h : quotedValue? s = some (value, blanks, rest)) : '\r' ∉ value := by
  intro hmem
  cases s with
  | nil => cases h
  | cons first s =>
      simp only [quotedValue?] at h
      split at h
      · cases h
      · split at h
        · cases h
        · rename_i hall
          split at h
          · cases h
            rw [Bool.not_eq_true, Bool.not_eq_false', List.all_eq_true] at hall
            exact absurd (hall _ hmem) (by decide)
          · cases h

theorem not_mem_bareValue? {s value rest : List Char} (h : bareValue? s = some (value, rest)) :
    '\r' ∉ value := by
  intro hmem
  have htoken : value = s.takeWhile isToken := by
    simp only [bareValue?] at h
    split at h
    · cases h
      rfl
    · split at h
      · cases h
      · cases h
        rfl
    · cases h
  rw [htoken] at hmem
  exact absurd (List.mem_takeWhile_imp hmem) (by decide)

theorem not_mem_normalValue (name : List Char) {value : List Char} (h : '\r' ∉ value) :
    '\r' ∉ normalValue name value := by
  unfold normalValue
  split
  · exact Text.not_mem_map_toLower (by decide) h
  · exact h

/-- Parameters are read with values that stay on their lines. -/
theorem oneLine_parametersFrom {fuel : Nat} {written s text : List Char}
    {found parameters : List (List Char × List Char)}
    (h : parametersFrom fuel written found s = some (text, parameters)) (hfound : OneLine found) :
    OneLine parameters := by
  induction fuel generalizing written found s with
  | zero => cases h
  | succ fuel ih =>
      have hdone : ∀ {found}, OneLine found → OneLine found.reverse := fun h parameter hp =>
        h parameter (List.mem_reverse.mp hp)
      have hmore : ∀ {name value}, '\r' ∉ value →
          OneLine ((name, normalValue name value) :: found) :=
        fun hvalue => List.forall_mem_cons.mpr ⟨not_mem_normalValue _ hvalue, hfound⟩
      unfold parametersFrom at h
      dsimp only at h
      split at h
      · cases h
        exact hdone hfound
      · exact ih h hfound
      · split at h
        · cases h
        · -- a quoted value or a bare one, each with more parameters behind a semicolon
          split at h
          · split at h
            · cases h
            · rename_i hquoted
              have hvalue := not_mem_quotedValue? hquoted
              split at h
              · exact ih h (hmore hvalue)
              · cases h
                exact hdone (hmore hvalue)
          · split at h
            · cases h
            · rename_i hbare
              have hvalue := not_mem_bareValue? hbare
              split at h
              · exact ih h (hmore hvalue)
              · cases h
                exact hdone (hmore hvalue)
          · cases h

theorem oneLine_ofText? {s : List Char} {type : MediaType} (h : ofText? s = some type) :
    OneLine type.parameters := by
  have hnone : OneLine [] := List.forall_mem_nil _
  simp only [ofText?] at h
  split at h
  · split at h
    · cases h
    · split at h
      · cases h
        exact hnone
      · split at h
        · cases h
        · split at h
          · cases h
          · cases h
            exact hnone
          · rename_i hread
            cases h
            exact oneLine_parametersFrom hread hnone
      · cases h
  · cases h

theorem not_mem_boundary? {type : MediaType} (h : OneLine type.parameters) {boundary : String}
    (hboundary : type.boundary? = some boundary) : '\r' ∉ boundary.toList := by
  unfold boundary? at hboundary
  split at hboundary
  · obtain ⟨value, hvalue, rfl⟩ := Option.map_eq_some_iff.mp hboundary
    obtain ⟨before, after, hparameters, -⟩ := List.lookup_eq_some_iff.mp hvalue
    rw [String.toList_ofList]
    refine h ("boundary".toList, value) ?_
    rw [hparameters]
    simp
  · cases hboundary

end MediaType

/-- A boundary stays on its line. -/
theorem Request.not_mem_boundary {request : Request} {boundary : String}
    (h : request.mediaType?.bind MediaType.boundary? = some boundary) :
    (13 : UInt8) ∉ utf8 boundary := by
  obtain ⟨type, htype, hboundary⟩ := Option.bind_eq_some_iff.mp h
  obtain ⟨s, -, hs⟩ := Option.bind_eq_some_iff.mp htype
  exact Text.not_mem_utf8 (by decide)
    (MediaType.not_mem_boundary? (MediaType.oneLine_ofText? hs) hboundary)

/-! ## The place that photos are uploaded to -/

namespace Service

variable {service : Service} {request : Request}

/-- Without a base path, photos are uploaded to one path. -/
theorem handle_of_upload (hbase : service.basePath = []) (hmethod : request.method = "POST")
    (hpath : request.path = "/image-to-html".toList) :
    service.handle request = convertPhoto service.hasConverter request := by
  have hsplit : List.splitOn '/' request.path = [[], "image-to-html".toList] := by
    rw [hpath]
    decide
  exact handle_of_root hbase hmethod hsplit .imageToHtml (by decide) rfl

/-- With a converter, what follows is decided by the photo in the form. -/
theorem handle_of_form (hbase : service.basePath = []) (hconverter : service.hasConverter = true)
    (hmethod : request.method = "POST") (hpath : request.path = "/image-to-html".toList)
    {boundary : String} (hboundary : request.mediaType?.bind MediaType.boundary? = some boundary) :
    service.handle request =
      match uploadedPhoto boundary request with
      | .ok photo => .convert photo showConverted
      | .error error => .done error.answer := by
  rw [handle_of_upload hbase hmethod hpath, convertPhoto, hboundary, hconverter]
  rfl

end Service

/-! ## Forms -/

/-- A converter that keeps the photos it is given. -/
def keepPhoto : Converter (StateM (List Photo)) := fun photo => do
  modify (· ++ [photo])
  return .ok "<p></p>"

/-- A transport that takes no email. -/
def noTransport : Mail.Transport (StateM (List Photo)) := fun _ =>
  return .error (.setting .emptyKey)

/-- A service with a converter and without a base path. -/
def convertingService : Service := { sender := ⟨"shop@example.com", none⟩, hasConverter := true }

/-- A request that uploads entries in a form. -/
def posted (boundary : String) (entries : List Multipart.Entry) : Request :=
  .post "/image-to-html" ("multipart/form-data; boundary=" ++ boundary)
    (Multipart.written boundary entries)

theorem size_posted (boundary : String) (entries : List Multipart.Entry) :
    (posted boundary entries).body.size = (Multipart.written boundary entries).length :=
  Request.size_post _ _ _

theorem boundary?_posted (entries : List Multipart.Entry) :
    (posted "B" entries).mediaType?.bind MediaType.boundary? = some "B" := by
  rw [posted, Request.mediaType?_post]
  decide +kernel

/-- Of a form that is not too large, the first entry named `image` goes to the converter, once, with
its exact bytes. If there is none, the converter is left alone. -/
theorem run_written_form {m : Type → Type} [Monad m] (transport : Mail.Transport m)
    (convert : Converter m) (service : Service) (request : Request) (boundary : String)
    (entries : List Multipart.Entry) (hbase : service.basePath = [])
    (hconverter : service.hasConverter = true) (hmethod : request.method = "POST")
    (hpath : request.path = "/image-to-html".toList)
    (hboundary : request.mediaType?.bind MediaType.boundary? = some boundary)
    (hentries : ∀ entry ∈ entries, entry.Fits boundary)
    (hform : request.bytes = Multipart.written boundary entries)
    (hsize : request.body.size ≤ maxImageBytes) :
    (service.handle request).run transport convert =
      match entries.find? (·.name == "image") with
      | some entry =>
          showConverted <$> convert
            ⟨entry.mediaType.getD "application/octet-stream", entry.fileName, entry.content⟩
      | none =>
          pure (.document 400
            (.object [("code", Json.ofNat 400), ("error", .text "No image field found")])) := by
  have hupload := Multipart.upload_written (Request.not_mem_boundary hboundary) hentries
  rw [Service.handle_of_form hbase hconverter hmethod hpath hboundary, uploadedPhoto,
    if_neg (Nat.not_lt.mpr hsize), hform, hupload]
  cases entries.find? (·.name == "image") <;> rfl

/-- Two photos behind a note, with line ends, dashes and most of a delimiter in their contents. -/
def crowdedEntries : List Multipart.Entry :=
  [{ name := "note", content := utf8 "\x0d\n--A\x0d\n\x0d\nname=image" },
   { name := "image", fileName := some "receipt 1.png", mediaType := some "image/svg+xml",
     content := [0, 255, 13, 10, 45, 45, 13, 10, 45, 45, 65] },
   { name := "image", fileName := some "other.png", mediaType := some "image/png",
     content := utf8 "x" }]

theorem run_written_form_crowdedEntries :
    (∀ entry ∈ crowdedEntries, entry.Fits "B") ∧
      ((convertingService.handle (posted "B" crowdedEntries)).run noTransport keepPhoto).run [] =
        (showConverted (.ok "<p></p>"),
          [⟨"image/svg+xml", some "receipt 1.png",
            [0, 255, 13, 10, 45, 45, 13, 10, 45, 45, 65]⟩]) := by
  have hfits : ∀ entry ∈ crowdedEntries, entry.Fits "B" := by
    simp only [crowdedEntries, List.forall_mem_cons]
    refine ⟨⟨⟨List.all_eq_true.mp (by decide), by decide, ?_⟩, by decide⟩,
      ⟨⟨List.all_eq_true.mp (by decide), ?_, ?_⟩, by decide⟩,
      ⟨⟨List.all_eq_true.mp (by decide), ?_, ?_⟩, by decide⟩, List.forall_mem_nil _⟩
    · rintro type ⟨⟩
    · rintro fileName ⟨⟩
      exact List.all_eq_true.mp (by decide)
    · rintro type ⟨⟩
      exact ⟨"image".toList, "svg+xml".toList, by decide, by decide,
        List.all_iff_forall_prop.mp (by decide)⟩
    · rintro fileName ⟨⟩
      exact List.all_eq_true.mp (by decide)
    · rintro type ⟨⟩
      exact ⟨"image".toList, "png".toList, by decide, by decide,
        List.all_iff_forall_prop.mp (by decide)⟩
  have hsize : (posted "B" crowdedEntries).body.size ≤ maxImageBytes := by
    rw [size_posted]
    decide +kernel
  refine ⟨hfits, ?_⟩
  rw [run_written_form noTransport keepPhoto convertingService _ "B" crowdedEntries rfl rfl rfl rfl
    (boundary?_posted crowdedEntries) hfits rfl hsize]
  rfl

end Receipts.Web
