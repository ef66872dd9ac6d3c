import Receipts.Web.Service

/-!
# Orders for emails

One place of the service sends emails. A request hands over the email that it asks for when it is
posted to that place, its body is the document of what is to be sent and the email has no defect.
No other request hands over an email, whatever its method, its place, its headers and its body.
-/

namespace Receipts.Web

/-- The email that a step hands over. -/
def Step.email? : Step → Option Email
  | .send email _ => some email
  | _ => none

/-- The email that the document of a request asks for. -/
def Request.emailAsked? (request : Request) (sender : Sender) : Option Email :=
  (request.document SendRequest.format).toOption.bind fun asked => (asked.email sender).toOption

/-- The email that a request orders of a service without a base path. -/
def Request.order? (request : Request) (sender : Sender) : Option Email :=
  if request.method = "POST" ∧ request.path = "/send-email".toList then request.emailAsked? sender
  else none

/-- A request that is posted with a body of a media type. -/
def Request.post (target type : String) (bytes : List UInt8) : Request where
  method := "POST"
  target := target
  headers := [("content-type", type)]
  body := ⟨bytes.toArray⟩

namespace Request

variable (target type : String) (bytes : List UInt8)

theorem bytes_post : (post target type bytes).bytes = bytes := rfl

theorem size_post : (post target type bytes).body.size = bytes.length := List.size_toArray

theorem mediaType?_post : (post target type bytes).mediaType? = (post "" type []).mediaType? := rfl

end Request

/-! ## What each handler hands over -/

theorem email?_withDocument {α : Type} (request : Request) (format : Json.Format α)
    (use : α → Step) : (withDocument request format use).email? =
      (request.document format).toOption.bind fun a => (use a).email? := by
  unfold withDocument
  cases request.document format <;> rfl

theorem email?_withDocument_done {α : Type} (request : Request) (format : Json.Format α)
    (shown : α → Answer) :
    (withDocument request format fun a => .done (shown a)).email? = none := by
  rw [email?_withDocument]
  cases (request.document format).toOption <;> rfl

theorem email?_sendReceipt (sender : Sender) (asked : SendRequest) :
    (sendReceipt sender asked).email? = (asked.email sender).toOption := by
  unfold sendReceipt
  cases asked.email sender <;> rfl

/-- The service sends through the mailer. -/
theorem run_sendReceipt {m : Type → Type} [Monad m] [LawfulMonad m] (transport : Mail.Transport m)
    (convert : Converter m) (sender : Sender) (asked : SendRequest) :
    (sendReceipt sender asked).run transport convert =
      showSent <$> Mail.deliver transport sender asked := by
  unfold sendReceipt Mail.deliver
  cases asked.email sender with
  | ok email => rfl
  | error error => exact (map_pure showSent (.error error)).symm

theorem email?_convertPhoto (hasConverter : Bool) (request : Request) :
    (convertPhoto hasConverter request).email? = none := by
  unfold convertPhoto
  split
  · rfl
  · split
    · rfl
    · split <;> rfl

theorem Endpoint.ne_sendEmail_of_isRead {endpoint : Endpoint} (h : endpoint.isRead = true) :
    endpoint ≠ .sendEmail := by
  rintro rfl
  exact Bool.false_ne_true h

namespace Service

theorem email?_visit (service : Service) (request : Request) (before : List Capture)
    (endpoint : Endpoint) : (service.visit request before endpoint).email? =
      if endpoint = .sendEmail then request.emailAsked? service.sender else none := by
  cases endpoint with
  | health | templates | template => rfl
  | parse | render | extract => exact email?_withDocument_done request _ _
  | imageToHtml => exact email?_convertPhoto service.hasConverter request
  | sendEmail =>
      simp only [visit, email?_withDocument, email?_sendReceipt, if_true, Request.emailAsked?]

theorem email?_visit_of_isRead (service : Service) (request : Request) (before : List Capture)
    {endpoint : Endpoint} (hread : endpoint.isRead = true) :
    (service.visit request before endpoint).email? = none := by
  rw [email?_visit, if_neg (Endpoint.ne_sendEmail_of_isRead hread)]

/-- A request hands over an email only if it is posted to the place that sends emails. -/
theorem email?_handle (service : Service) (request : Request) :
    (service.handle request).email? =
      if request.method = "POST" ∧ (service.endpoint? request).map Prod.snd = some .sendEmail then
        request.emailAsked? service.sender
      else none := by
  unfold handle
  cases service.endpoint? request with
  | none => simp [Step.email?]
  | some place =>
      obtain ⟨before, endpoint⟩ := place
      by_cases hread : endpoint.isRead = true
      · have hother := Endpoint.ne_sendEmail_of_isRead hread
        have hvisit := service.email?_visit_of_isRead request before hread
        simp only [hread, if_true, Option.map_some, Option.some.injEq, hother, and_false, if_false]
        split
        · exact hvisit
        · split
          -- taking the body off an answer hands over nothing more
          · generalize service.visit request before endpoint = step at hvisit
            cases step with
            | done | convert => rfl
            | send => exact hvisit
          · rfl
      · by_cases hpost : request.method = "POST"
        · simp only [hread, hpost, beq_self_eq_true, if_true, Bool.false_eq_true, if_false,
            email?_visit, Option.map_some, Option.some.injEq, true_and]
        · simp only [hread, hpost, beq_iff_eq, if_false, Bool.false_eq_true, false_and, Step.email?]

end Service

/-! ## The place that sends emails -/

theorem Endpoint.ofSegments?_eq_sendEmail_iff (segments : List (List Char)) :
    ofSegments? segments = some sendEmail ↔ segments = ["send-email".toList] := by
  constructor
  · intro h
    match segments with
    | [] => cases h
    | [segment] =>
        simp only [ofSegments?] at h
        split at h <;> cases h
        · rename_i hsegment
          rw [← hsegment, String.toList_ofList]
    | [first, segment] =>
        simp only [ofSegments?] at h
        split at h
        · cases h
        · split at h <;> cases h
    | _ :: _ :: _ :: _ => cases h
  · rintro rfl
    rfl

theorem splitOn_slash_eq_iff (path : List Char) :
    List.splitOn '/' path = [[], "send-email".toList] ↔ path = "/send-email".toList := by
  constructor
  · intro h
    have hjoin : ['/'].intercalate (List.splitOn '/' path) = path := List.intercalate_splitOn '/'
    rw [h] at hjoin
    exact hjoin.symm
  · rintro rfl
    decide

namespace Service

theorem map_endpoint?_of_root {service : Service} (hbase : service.basePath = [])
    {request : Request} {first : List Char} {segments : List (List Char)}
    (hsplit : List.splitOn '/' request.path = first :: segments) :
    (service.endpoint? request).map Prod.snd =
      if first = [] then Endpoint.ofSegments? segments else none := by
  cases first with
  | nil => simp [endpoint?, hsplit, hbase, BasePath.strip?, Function.comp_def]
  | cons => simp [endpoint?, hsplit]

/-- Without a base path, a request that is posted to a place leads to what the place does. -/
theorem handle_of_root {service : Service} (hbase : service.basePath = []) {request : Request}
    (hmethod : request.method = "POST") {segments : List (List Char)}
    (hsplit : List.splitOn '/' request.path = [] :: segments) (endpoint : Endpoint)
    (hplace : Endpoint.ofSegments? segments = some endpoint) (hread : endpoint.isRead = false) :
    service.handle request = service.visit request [] endpoint := by
  have hendpoint : service.endpoint? request = some ([], endpoint) := by
    simp only [endpoint?, hsplit, hbase, BasePath.strip?, hplace, Option.map_some]
  rw [handle, hendpoint]
  simp [hread, hmethod]

/-- Without a base path, emails are sent from one path only. -/
theorem endpoint?_eq_sendEmail_iff {service : Service} (hbase : service.basePath = [])
    (request : Request) :
    (service.endpoint? request).map Prod.snd = some .sendEmail ↔
      request.path = "/send-email".toList := by
  rw [← splitOn_slash_eq_iff]
  cases hsplit : List.splitOn '/' request.path with
  | nil => simp [endpoint?, hsplit]
  | cons first segments =>
      rw [map_endpoint?_of_root hbase hsplit, List.cons.injEq,
        ← Endpoint.ofSegments?_eq_sendEmail_iff]
      simp

/-- Without a base path, what a request hands over is what it orders. -/
theorem email?_handle_of_root {service : Service} (hbase : service.basePath = [])
    (request : Request) : (service.handle request).email? = request.order? service.sender := by
  simp only [email?_handle, endpoint?_eq_sendEmail_iff hbase, Request.order?]

end Service

end Receipts.Web
