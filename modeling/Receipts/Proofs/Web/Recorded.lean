import Receipts.Proofs.Web.Orders

/-!
# Recorded runs

The collaborators of a service are any two machines over a state that they share. A collaborator
can be made to record, after each call, what it was handed and what it replied. Recording changes
nothing else in a run. The record of a run holds exactly what its requests hand over, once each and
in their order, and each answer follows from its request and from the reply that the request got.
-/

namespace Receipts.Web

/-- What a collaborator was handed, with what it replied. -/
inductive Dealing where
  | mail (email : Email) (reply : Except MailError Mail.MessageId)
  | conversion (photo : Photo) (reply : Except PhotoError String)

/-- The email that a collaborator was handed. -/
def Dealing.email? : Dealing → Option Email
  | .mail email _ => some email
  | .conversion _ _ => none

/-- A collaborator that also records its dealings. -/
def recorded {m : Type → Type} [Monad m] {α β : Type} (dealing : α → β → Dealing)
    (collaborator : α → m β) : α → StateT (List Dealing) m β := fun a => do
  let reply ← collaborator a
  modify (· ++ [dealing a reply])
  return reply

section
variable {σ ρ α β : Type} {s t : σ} {log log' : ρ} {a : α}

theorem run_bind_of_run {x : StateM σ α} (h : x.run s = (a, t)) (f : α → StateM σ β) :
    (x >>= f).run s = (f a).run t := by
  rw [StateT.run_bind, h]
  rfl

theorem run_run_bind_of_run {x : StateT ρ (StateM σ) α} (h : (x.run log).run s = ((a, log'), t))
    (f : α → StateT ρ (StateM σ) β) :
    ((x >>= f).run log).run s = ((f a).run log').run t := by
  rw [StateT.run_bind]
  exact run_bind_of_run h _

end

/-! ## One step -/

namespace Step

/-- What a step may be told by the collaborator that it needs. -/
def Reply : Step → Type
  | .done _ => Unit
  | .send _ _ => Except MailError Mail.MessageId
  | .convert _ _ => Except PhotoError String

/-- The answer of a step that gets a reply. -/
def answer : (step : Step) → step.Reply → Answer
  | .done answer, _ => answer
  | .send _ andThen, reply => andThen reply
  | .convert _ andThen, reply => andThen reply

/-- The dealing of a step that gets a reply. -/
def dealing? : (step : Step) → step.Reply → Option Dealing
  | .done _, _ => none
  | .send email _, reply => some (.mail email reply)
  | .convert photo _, reply => some (.conversion photo reply)

theorem bind_dealing?_email? (step : Step) (reply : step.Reply) :
    (step.dealing? reply).bind Dealing.email? = step.email? := by
  cases step <;> rfl

variable {σ : Type} (transport : Mail.Transport (StateM σ)) (convert : Converter (StateM σ))

/-- A step takes one reply, which is what it records. -/
theorem exists_reply (step : Step) (start : σ) : ∃ (reply : step.Reply) (finish : σ),
    (step.run transport convert).run start = (step.answer reply, finish) ∧
      ∀ log, ((step.run (recorded .mail transport) (recorded .conversion convert)).run
          log).run start =
        ((step.answer reply, log ++ (step.dealing? reply).toList), finish) := by
  cases step with
  | done answer =>
      refine ⟨(), start, rfl, fun log => ?_⟩
      rw [show (done answer).dealing? () = none from rfl, Option.toList_none, List.append_nil]
      rfl
  | send email andThen =>
      exact ⟨(transport email start).1, (transport email start).2, rfl, fun _ => rfl⟩
  | convert photo andThen =>
      exact ⟨(convert photo start).1, (convert photo start).2, rfl, fun _ => rfl⟩

end Step

/-! ## Runs -/

namespace Service

/-- A request, with the reply that it gets. -/
structure Exchange (service : Service) where
  request : Request
  reply : (service.handle request).Reply

namespace Exchange

variable {service : Service}

/-- The answer to the request. -/
def answer (exchange : service.Exchange) : Answer :=
  (service.handle exchange.request).answer exchange.reply

/-- The dealing that the request leads to. -/
def dealing? (exchange : service.Exchange) : Option Dealing :=
  (service.handle exchange.request).dealing? exchange.reply

theorem bind_dealing?_email? (exchange : service.Exchange) :
    exchange.dealing?.bind Dealing.email? = (service.handle exchange.request).email? :=
  Step.bind_dealing?_email? _ _

theorem filterMap_dealing?_cons (exchange : service.Exchange) (later : List service.Exchange) :
    (exchange :: later).filterMap dealing? =
      exchange.dealing?.toList ++ later.filterMap dealing? := by
  rw [List.filterMap_cons]
  cases exchange.dealing? <;> rfl

end Exchange

theorem serve_cons {m : Type → Type} [Monad m] [LawfulMonad m] (service : Service)
    (transport : Mail.Transport m) (convert : Converter m) (request : Request)
    (requests : List Request) : service.serve transport convert (request :: requests) = (do
      let answer ← (service.handle request).run transport convert
      let answers ← service.serve transport convert requests
      return answer :: answers) :=
  List.mapM_cons

variable {σ : Type} (service : Service) (transport : Mail.Transport (StateM σ))
  (convert : Converter (StateM σ))

/-- A run is a list of exchanges, and the record of a run is the list of their dealings. -/
theorem exists_exchanges (requests : List Request) (start : σ) :
    ∃ (exchanges : List service.Exchange) (finish : σ),
      exchanges.map Exchange.request = requests ∧
      (service.serve transport convert requests).run start =
        (exchanges.map Exchange.answer, finish) ∧
      ∀ log, ((service.serve (recorded .mail transport) (recorded .conversion convert)
          requests).run log).run start =
        ((exchanges.map Exchange.answer, log ++ exchanges.filterMap Exchange.dealing?),
          finish) := by
  -- a request starts where the ones before it left the collaborators, with what they recorded
  induction requests generalizing start with
  | nil =>
      refine ⟨[], start, rfl, rfl, fun log => ?_⟩
      rw [List.filterMap_nil, List.append_nil]
      rfl
  | cons request requests ih =>
      obtain ⟨reply, next, hplain, hrecorded⟩ :=
        (service.handle request).exists_reply transport convert start
      obtain ⟨exchanges, finish, hrequests, hlater, hlaterRecorded⟩ := ih next
      refine ⟨⟨request, reply⟩ :: exchanges, finish, ?_, ?_, fun log => ?_⟩
      · rw [List.map_cons, hrequests]
      · rw [serve_cons, run_bind_of_run hplain, run_bind_of_run hlater]
        rfl
      · rw [serve_cons, run_run_bind_of_run (hrecorded log),
          run_run_bind_of_run (hlaterRecorded _), List.append_assoc,
          Exchange.filterMap_dealing?_cons]
        rfl

end Service

/-- Whatever the collaborators do, a run hands over the emails that its requests order and no other,
once each and in their order, and each answer follows from its request and the reply to it. -/
theorem dealings_of_serve (sender : Sender) (hasConverter : Bool) {σ : Type}
    (transport : Mail.Transport (StateM σ)) (convert : Converter (StateM σ))
    (requests : List Request) (start : σ) :
    let service : Service := { sender, hasConverter }
    ∃ (exchanges : List service.Exchange) (finish : σ),
      exchanges.map Service.Exchange.request = requests ∧
      (service.serve transport convert requests).run start =
        (exchanges.map Service.Exchange.answer, finish) ∧
      ((service.serve (recorded .mail transport) (recorded .conversion convert)
          requests).run []).run start =
        ((exchanges.map Service.Exchange.answer, exchanges.filterMap Service.Exchange.dealing?),
          finish) ∧
      (∀ exchange ∈ exchanges,
        exchange.dealing?.bind Dealing.email? = exchange.request.order? sender) ∧
      (exchanges.filterMap Service.Exchange.dealing?).filterMap Dealing.email? =
        requests.filterMap (·.order? sender) := by
  intro service
  obtain ⟨exchanges, finish, hrequests, hplain, hrecorded⟩ :=
    service.exists_exchanges transport convert requests start
  have horder : ∀ exchange : service.Exchange,
      exchange.dealing?.bind Dealing.email? = exchange.request.order? sender := fun exchange =>
    exchange.bind_dealing?_email?.trans (Service.email?_handle_of_root rfl exchange.request)
  refine ⟨exchanges, finish, hrequests, hplain, hrecorded [], fun exchange _ => horder exchange, ?_⟩
  rw [← hrequests, List.filterMap_map, List.filterMap_filterMap]
  exact congrArg (exchanges.filterMap ·) (funext horder)

end Receipts.Web
