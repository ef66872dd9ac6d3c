import Receipts.Proofs.Photo.Conversion
import Receipts.Proofs.Web.Uploads

/-!
# Conversions behind the service

An uploaded photo with a defect is refused without a call. Any other is one call to the vision
model, and the answer follows from the reply alone: the template in it with its form, or 502.
-/

namespace Receipts.Web

open Photo (VisionModel unfenced)
open Photo.VisionModel (answerShape choices content? imageUrls outcome)

/-! ## Answers -/

/-- What a caller is answered about a photo, by the model's reply: the template in the content of
its first choice, with its form, and otherwise 502. -/
structure AnswersConversion (reply : Http.Reply) (answer : Answer) : Prop where
  refused : ¬ (200 ≤ reply.status ∧ reply.status < 300) →
    answer = .document 502 (.object [("code", Json.ofNat 502),
      ("error", .text (VisionModel.refusalWords reply.text))])
  unread : 200 ≤ reply.status → reply.status < 300 → ∀ fault,
    answerShape.parse (Json.Input.ofBytes reply.content) = .error fault →
      answer = .document 502 (.object [("code", Json.ofNat 502),
        ("error", .text "HTTP client error: error decoding response body")])
  silent : 200 ≤ reply.status → reply.status < 300 → ∀ json,
    answerShape.parse (Json.Input.ofBytes reply.content) = .ok json →
      (choices json = [] ∨ ∃ choice later, choices json = choice :: later ∧
        (content? choice = none ∨
          ∃ content, content? choice = some content ∧ unfenced content.toList = [])) →
      answer = .document 502 (.object [("code", Json.ofNat 502),
        ("error", .text "The vision model returned no HTML")])
  converted : 200 ≤ reply.status → reply.status < 300 → ∀ json,
    answerShape.parse (Json.Input.ofBytes reply.content) = .ok json →
      ∀ choice later content, choices json = choice :: later → content? choice = some content →
      unfenced content.toList ≠ [] →
      ∃ html : String, html.toList = unfenced content.toList ∧ html ≠ "" ∧
        Text.trim html.toList = html.toList ∧
        answer = .document 200 (.object (("html", .text html) :: (Form.ofHtml html).members))

theorem answersConversion_outcome (reply : Http.Reply) :
    AnswersConversion reply (showConverted (outcome reply)) where
  refused hstatus := by
    rw [VisionModel.outcome_refused (mt Http.isSuccess_iff.mp hstatus)]
    rfl
  unread hlow hhigh fault hread := by
    rw [VisionModel.outcome_unread (Http.isSuccess_iff.mpr ⟨hlow, hhigh⟩) hread]
    rfl
  silent hlow hhigh json hread hsilent := by
    rw [VisionModel.outcome_read (Http.isSuccess_iff.mpr ⟨hlow, hhigh⟩) hread,
      if_pos (VisionModel.unfenced_firstContent_eq_nil hsilent)]
    rfl
  converted hlow hhigh json hread choice later content hchoices hcontent hne := by
    have hfirst : VisionModel.firstContent json = content := by
      rw [VisionModel.firstContent_eq, hchoices, List.head?_cons, Option.bind_some, hcontent]
      rfl
    refine ⟨String.ofList (unfenced content.toList), String.toList_ofList, fun hempty => hne ?_,
      ?_, ?_⟩
    · rw [← String.toList_ofList (l := unfenced content.toList), hempty]
      rfl
    · rw [String.toList_ofList, Photo.trim_unfenced]
    · rw [VisionModel.outcome_read (Http.isSuccess_iff.mpr ⟨hlow, hhigh⟩) hread, hfirst,
        if_neg hne]
      rfl

/-! ## Photos -/

/-- A photo with a defect is refused without a call. Any other photo is one call, whose only image
is a URL that carries the bytes of the photo, and the answer follows from the reply. -/
structure Converts (model : VisionModel) (url : Http.Url) (key : String) (photo : Photo) :
    Prop where
  unusable : photo.bytes = [] ∨ ¬ "image/".toList <+: photo.mediaType.toList →
    ∃ defect : Photo.Defect,
      (∀ (m : Type → Type) [Monad m] (exchange : Http.Exchange m),
        model.convert exchange photo = pure (.error (.unusable defect))) ∧
      showConverted (.error (.unusable defect)) =
        .document 400 (.object [("code", Json.ofNat 400),
          ("error", .text ("Invalid image: " ++ defect.message))])
  asked : photo.bytes ≠ [] → "image/".toList <+: photo.mediaType.toList →
    ∃ (question : Json) (result : Option Http.Reply → Except PhotoError String),
      (∀ (m : Type → Type) [Monad m] [LawfulMonad m] (exchange : Http.Exchange m),
        model.convert exchange photo = result <$> exchange ⟨url, key, question.render⟩) ∧
      imageUrls question = [dataUrl photo.mediaType photo.bytes] ∧
      ∀ reply, AnswersConversion reply (showConverted (result (some reply)))

theorem converts {settings : Photo.Settings} {url : Http.Url}
    (hheader : settings.key.toList.all Http.isHeaderChar = true)
    (hurl : Http.LeadsTo (settings.address ++ "/chat/completions") url) (photo : Photo) :
    Converts ⟨settings⟩ url settings.key photo where
  unusable hdefect := by
    cases hcase : photo.defect? with
    | none =>
        obtain ⟨hbytes, htype⟩ := Photo.defect?_eq_none_iff.mp hcase
        exact (hdefect.elim hbytes fun h => h htype).elim
    | some defect =>
        refine ⟨defect, fun m _ exchange => ?_, rfl⟩
        rw [VisionModel.convert, VisionModel.call_of_defect hcase]
  asked hbytes htype := by
    have hnone := Photo.defect?_eq_none_iff.mpr ⟨hbytes, htype⟩
    have hcall : VisionModel.call ⟨settings⟩ photo = .ok ⟨url, settings.key, _⟩ :=
      VisionModel.call_eq_ok hnone hheader hurl
    exact ⟨_, VisionModel.converted _,
      fun m _ _ exchange => VisionModel.convert_eq_map exchange hcall,
      VisionModel.imageUrls_question _ photo, answersConversion_outcome⟩

/-! ## A model on this machine -/

/-- Where a model on this machine takes questions. -/
def localChat : Http.Url :=
  ⟨"http".toList, [], none, some "[::1]".toList, some 8025, "/chat/completions".toList, none, none⟩

theorem leadsTo_localChat : Http.LeadsTo
    (Mail.Provider.withoutSlashes "http://[::1]:8025/" ++ "/chat/completions") localChat where
  read := by decide +kernel
  host := by decide +kernel
  web := .inl rfl
  callable := by decide +kernel

/-- A photo of two bytes. -/
def smallEntry : Multipart.Entry where
  name := "image"
  mediaType := some "image/png"
  content := [137, 80]

theorem uploadedPhoto_smallEntry :
    uploadedPhoto "B" (posted "B" [smallEntry]) = .ok ⟨"image/png", none, [137, 80]⟩ := by
  rfl

/-- A reply with a template in a code fence. -/
def fencedReply : Http.Reply where
  status := 200
  body := Text.utf8
    "\x7b\"choices\":[\x7b\"message\":\x7b\"content\":\"```html\\n<p>Hi</p>```\"\x7d\x7d]\x7d"

/-! ## Requests -/

/-- With a key that is not blank and may stand in a header, and an address of a web service, every
photo is converted by the model at that address, also one that is uploaded to the service. The URL
of a photo gives its bytes back when its media type has no comma and no hash sign in it. -/
theorem run_conversion (settings : Photo.Settings) {url : Http.Url}
    (hkey : Text.blank settings.key = false)
    (hheader : settings.key.toList.all Http.isHeaderChar = true)
    (hurl : Http.LeadsTo
      (Mail.Provider.withoutSlashes settings.address ++ "/chat/completions") url) :
    ∃ model, VisionModel.connect settings = .ok model ∧
      (∀ photo, Converts model url settings.key photo) ∧
      (∀ photo : Photo, ∃ payload : List Char,
        dataUrl photo.mediaType photo.bytes =
          "data:" ++ photo.mediaType ++ ";base64," ++ String.ofList payload ∧
        Base64.decode? payload = some photo.bytes ∧
        (',' ∉ photo.mediaType.toList → '#' ∉ photo.mediaType.toList →
          dataBytes? (dataUrl photo.mediaType photo.bytes) = some photo.bytes)) ∧
      ∀ (service : Service) (request : Request) (boundary : String) (photo : Photo),
        service.basePath = [] → service.hasConverter = true → request.method = "POST" →
        request.path = "/image-to-html".toList →
        request.mediaType?.bind MediaType.boundary? = some boundary →
        uploadedPhoto boundary request = .ok photo →
        ∀ (m : Type → Type) [Monad m] (transport : Mail.Transport m) (exchange : Http.Exchange m),
          (service.handle request).run transport (model.convert exchange) =
            showConverted <$> model.convert exchange photo := by
  refine ⟨_, VisionModel.connect_eq_ok hkey, converts hheader hurl, fun photo =>
    ⟨Base64.encode photo.bytes, rfl, Base64.decode?_encode photo.bytes,
      fun hcomma hhash => dataBytes?_dataUrl hcomma hhash photo.bytes⟩, ?_⟩
  intro service request boundary photo hbase hconverter hmethod hpath hboundary hphoto m _ transport
    exchange
  rw [Service.handle_of_form hbase hconverter hmethod hpath hboundary, hphoto]
  rfl

theorem run_conversion_smallEntry :
    ∃ model question, VisionModel.connect ⟨"http://[::1]:8025/", "sk", "gpt-4o"⟩ = .ok model ∧
      imageUrls question = [dataUrl "image/png" [137, 80]] ∧
      dataBytes? (dataUrl "image/png" [137, 80]) = some [137, 80] ∧
      ∀ transport : Mail.Transport (StateM (List Http.Call)),
        ((convertingService.handle (posted "B" [smallEntry])).run transport
            (model.convert (Http.noting fencedReply))).run [] =
          (.document 200
            (.object (("html", .text "<p>Hi</p>") :: (Form.ofHtml "<p>Hi</p>").members)),
            [⟨localChat, "sk", question.render⟩]) := by
  obtain ⟨model, hconnect, hconverts, hread, hrequest⟩ := run_conversion
    ⟨"http://[::1]:8025/", "sk", "gpt-4o"⟩ (by decide +kernel) (by decide +kernel)
    leadsTo_localChat
  obtain ⟨question, result, hcall, himages, hanswer⟩ :=
    (hconverts ⟨"image/png", none, [137, 80]⟩).asked (by decide) (by decide)
  obtain ⟨-, -, -, hbytes⟩ := hread ⟨"image/png", none, [137, 80]⟩
  refine ⟨model, question, hconnect, himages, hbytes (by decide) (by decide), fun transport => ?_⟩
  obtain ⟨html, hhtml, -, -, hdocument⟩ := (hanswer fencedReply).converted (by decide) (by decide) _
    rfl _ [] "```html\n<p>Hi</p>```" rfl rfl (by decide)
  have hfence : Photo.unfenced "```html\n<p>Hi</p>```".toList = "<p>Hi</p>".toList := by decide
  rw [hfence, String.toList_inj] at hhtml
  rw [hhtml] at hdocument
  rw [hrequest convertingService (posted "B" [smallEntry]) "B" _ rfl rfl rfl rfl
    (boundary?_posted _) uploadedPhoto_smallEntry, hcall]
  exact congrArg (·, _) hdocument

/-- A photo with a comma in the media type. -/
def commaEntry : Multipart.Entry where
  name := "image"
  mediaType := some "image/png;a=\",\""
  content := [120]

theorem uploadedPhoto_commaEntry : uploadedPhoto "B" (posted "B" [commaEntry]) =
    .ok ⟨"image/png;a=\",\"", none, [120]⟩ := by
  rfl

/-- A comma in the media type of an uploaded photo ends it too early in the URL of the photo. -/
theorem not_forall_dataBytes?_imageUrls : ¬ ∀ (model : VisionModel) (request : Request)
    (boundary : String) (photo : Photo),
      request.mediaType?.bind MediaType.boundary? = some boundary →
      uploadedPhoto boundary request = .ok photo → photo.bytes ≠ [] →
      "image/".toList <+: photo.mediaType.toList →
      ∀ imageUrl ∈ imageUrls (model.question photo), dataBytes? imageUrl = some photo.bytes := by
  intro h
  have hread := h ⟨"http://[::1]:8025", "sk", "gpt-4o"⟩ (posted "B" [commaEntry]) "B" _
    (boundary?_posted _) uploadedPhoto_commaEntry (by decide) (by decide)
    (dataUrl "image/png;a=\",\"" [120])
    (by rw [VisionModel.imageUrls_question]; exact List.mem_singleton_self _)
  exact absurd hread (by decide +kernel)

end Receipts.Web
