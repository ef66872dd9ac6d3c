import Receipts.Proofs.Web.Uploads

/-!
# Sizes of uploads

The limit on a form counts all of its bytes. A photo is therefore smaller than the limit whenever it
is converted, and how much smaller it has to be depends on the boundary and on the head of its part.
-/

namespace Receipts.Web

open Text (utf8)

namespace Multipart

/-! ## What is read is part of the form -/

theorem length_splitAt? {pattern before s a b : List UInt8}
    (h : splitAt? pattern before s = some (a, b)) :
    a.length + pattern.length + b.length = before.length + s.length := by
  induction s generalizing before with
  | nil =>
      rw [splitAt?] at h
      split at h
      · rename_i hempty
        cases h
        simp [List.isEmpty_iff.mp hempty]
      · cases h
  | cons c s ih =>
      rw [splitAt?] at h
      split at h
      · rename_i hstarts
        cases h
        have hle := (List.isPrefixOf_iff_prefix.mp hstarts).length_le
        rw [List.length_reverse, List.length_drop]
        omega
      · have hrest := ih h
        simp only [List.length_cons] at hrest ⊢
        omega

theorem length_opening? {s rest : List UInt8} {headers : Headers}
    (h : opening? s = some (some (headers, rest))) : rest.length < s.length := by
  rw [opening?] at h
  split at h
  · cases h
  · simp only [Option.bind_eq_bind] at h
    split at h
    · cases h
    · rename_i hline
      rw [Bool.not_eq_true, Bool.not_eq_false', List.isPrefixOf_iff_prefix] at hline
      obtain ⟨⟨head, content⟩, hsplit, h⟩ := Option.bind_eq_some_iff.mp h
      obtain ⟨found, -, h⟩ := Option.bind_eq_some_iff.mp h
      have hspaces := (List.dropWhile_suffix isSpace (l := s)).length_le
      have hlength := length_splitAt? hsplit
      have hle := hline.length_le
      split at h
      · cases h
      · cases h
        show content.length < s.length
        simp only [lineEnd, List.length_drop, List.length_cons, List.length_nil,
          List.length_append] at hlength hle
        omega

/-- The content of a part is smaller than what it is read from. -/
theorem length_uploadFrom {delimiter : List UInt8} {name : String} {fuel : Nat} {s : List UInt8}
    {part : Part} (h : uploadFrom delimiter name fuel s = .found part) :
    part.content.length < s.length := by
  induction fuel generalizing s with
  | zero => cases h
  | succ fuel ih =>
      rw [uploadFrom] at h
      split at h
      · cases h
      · cases h
      · rename_i hopening
        have hrest := length_opening? hopening
        dsimp only at h
        split at h
        · split at h <;> cases h
        · rename_i hsplit
          have hlength := length_splitAt? hsplit
          simp only [List.length_nil] at hlength
          split at h
          · cases h
            dsimp only
            omega
          · have hpart := ih h
            omega

theorem length_upload {boundary name : String} {form : List UInt8} {part : Part}
    (h : upload boundary name form = .found part) : part.content.length < form.length := by
  simp only [upload] at h
  split at h
  · cases h
  · rename_i hsplit
    have hrest := length_splitAt? hsplit
    have hpart := length_uploadFrom h
    simp only [List.length_nil] at hrest
    omega

/-- The bytes in a form of one entry that are not its content. -/
def overhead (boundary : String) (entry : Entry) : Nat :=
  (written boundary [{ entry with content := [] }]).length

theorem length_written_single (boundary : String) (entry : Entry) :
    (written boundary [entry]).length = entry.content.length + overhead boundary entry := by
  have hfields : { entry with content := [] : Entry }.fields = entry.fields := rfl
  simp only [overhead, written, writtenAfter, List.length_append, hfields, List.length_nil]
  omega

theorem overhead_pos (boundary : String) (entry : Entry) : 0 < overhead boundary entry := by
  simp only [overhead, written, delimiterOf, dashes, List.length_append, List.length_cons]
  omega

end Multipart

/-! ## The limit -/

/-- A form is refused as soon as its bytes are more than the limit, whatever its photo is. -/
theorem uploadedPhoto_of_found {request : Request} {boundary : String} {part : Part}
    (hpart : Multipart.upload boundary "image" request.bytes = .found part) :
    uploadedPhoto boundary request =
      if request.body.size ≤ maxImageBytes then .ok part.photo
      else .error (.badRequest "Multipart error: Error parsing `multipart/form-data` request") := by
  by_cases hsize : request.body.size ≤ maxImageBytes
  · rw [uploadedPhoto, if_neg (Nat.not_lt.mpr hsize), hpart, if_pos hsize]
  · rw [uploadedPhoto, if_pos (Nat.lt_of_not_le hsize), if_neg hsize]
    rfl

/-- A photo of as many bytes as a form may have. -/
def greatestEntry : Multipart.Entry where
  name := "image"
  mediaType := some "image/png"
  content := List.replicate maxImageBytes 32

theorem greatestEntry_fits : greatestEntry.Fits "B" where
  name := List.all_eq_true.mp (by decide)
  fileName := by decide
  mediaType := by
    rintro type ⟨⟩
    exact ⟨"image".toList, "png".toList, by decide, by decide,
      List.all_iff_forall_prop.mp (by decide)⟩
  content hdelimiter := by
    have hmem := hdelimiter.subset List.mem_cons_self
    exact absurd (List.eq_of_mem_replicate hmem) (by decide)

theorem upload_greatestEntry : Multipart.upload "B" "image" (posted "B" [greatestEntry]).bytes =
    .found greatestEntry.part :=
  Multipart.upload_written (Request.not_mem_boundary (boundary?_posted []))
    (List.forall_mem_singleton.mpr greatestEntry_fits)

theorem length_greatestEntry : greatestEntry.content.length = maxImageBytes :=
  List.length_replicate

theorem not_size_posted_greatestEntry :
    ¬ (posted "B" [greatestEntry]).body.size ≤ maxImageBytes := by
  have hoverhead := Multipart.overhead_pos "B" greatestEntry
  rw [size_posted, Multipart.length_written_single, length_greatestEntry]
  omega

/-- The photo in a form goes to the converter, once, if the whole form is within the limit, and
otherwise the form is refused. A photo of the size of the limit is never converted: it is smaller
than its form, by the bytes that stand around it. -/
theorem run_form_by_size {m : Type → Type} [Monad m] (transport : Mail.Transport m)
    (convert : Converter m) (service : Service) (request : Request) (boundary : String)
    (part : Part) (hbase : service.basePath = []) (hconverter : service.hasConverter = true)
    (hmethod : request.method = "POST") (hpath : request.path = "/image-to-html".toList)
    (hboundary : request.mediaType?.bind MediaType.boundary? = some boundary)
    (hpart : Multipart.upload boundary "image" request.bytes = .found part) :
    (service.handle request).run transport convert =
        (if request.body.size ≤ maxImageBytes then showConverted <$> convert part.photo
        else pure (.document 400 (.object [("code", Json.ofNat 400),
          ("error", .text "Multipart error: Error parsing `multipart/form-data` request")]))) ∧
      part.content.length < request.body.size ∧
      ∀ entry : Multipart.Entry, entry.Fits boundary → entry.name = "image" →
        request.bytes = Multipart.written boundary [entry] →
          part = entry.part ∧
            request.body.size = entry.content.length + Multipart.overhead boundary entry := by
  have hbytes : request.bytes.length = request.body.size := by
    rw [Request.bytes, Array.length_toList]
    rfl
  refine ⟨?_, ?_, fun entry hentry hname hform => ⟨?_, ?_⟩⟩
  · rw [Service.handle_of_form hbase hconverter hmethod hpath hboundary,
      uploadedPhoto_of_found hpart]
    by_cases hsize : request.body.size ≤ maxImageBytes
    · simp only [if_pos hsize]
      rfl
    · simp only [if_neg hsize]
      rfl
  · rw [← hbytes]
    exact Multipart.length_upload hpart
  · have hupload := Multipart.upload_written (Request.not_mem_boundary hboundary)
      (List.forall_mem_singleton.mpr hentry)
    rw [← hform, hpart, List.find?_cons_of_pos (by simp [hname])] at hupload
    exact Upload.found.inj hupload
  · rw [← hbytes, hform, Multipart.length_written_single]

theorem run_form_by_size_greatestEntry :
    greatestEntry.content.length = maxImageBytes ∧
      ((convertingService.handle (posted "B" [greatestEntry])).run noTransport keepPhoto).run [] =
        (.document 400 (.object [("code", Json.ofNat 400),
          ("error", .text "Multipart error: Error parsing `multipart/form-data` request")]),
          []) := by
  have hrun := (run_form_by_size noTransport keepPhoto convertingService
    (posted "B" [greatestEntry]) "B" greatestEntry.part rfl rfl rfl rfl (boundary?_posted _)
    upload_greatestEntry).1
  refine ⟨length_greatestEntry, ?_⟩
  rw [hrun, if_neg not_size_posted_greatestEntry]
  rfl

/-- A photo within the limit may be refused because of the bytes around it. -/
theorem not_forall_converted : ¬ ∀ (service : Service) (request : Request) (boundary : String)
    (entry : Multipart.Entry), service.basePath = [] → service.hasConverter = true →
      request.method = "POST" → request.path = "/image-to-html".toList →
      request.mediaType?.bind MediaType.boundary? = some boundary → entry.Fits boundary →
      entry.name = "image" → (∃ subtype, entry.mediaType = some ("image/" ++ subtype)) →
      entry.content ≠ [] → request.bytes = Multipart.written boundary [entry] →
      entry.content.length ≤ maxImageBytes →
        service.handle request = .convert entry.part.photo showConverted := by
  intro h
  have hboundary := boundary?_posted [greatestEntry]
  have hempty : greatestEntry.content ≠ [] := by
    intro hnil
    have hlength := length_greatestEntry
    rw [hnil] at hlength
    exact absurd hlength (by decide)
  have hconverted := h convertingService (posted "B" [greatestEntry]) "B" greatestEntry rfl rfl rfl
    rfl hboundary greatestEntry_fits rfl ⟨"png", rfl⟩ hempty rfl (Nat.le_of_eq length_greatestEntry)
  rw [Service.handle_of_form rfl rfl rfl rfl hboundary,
    uploadedPhoto_of_found upload_greatestEntry, if_neg not_size_posted_greatestEntry] at hconverted
  cases hconverted

end Receipts.Web
