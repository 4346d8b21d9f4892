import SmppGateway.Foundation.Table
import SmppGateway.Gateway.BindLimit
import SmppGateway.Net.Calling
import SmppGateway.Smpp.Session

/-!
# The gate in front of the external clients

A connection to `pa::smpp::server` is handed to an external client once its bind is answered `rok`, by
exchanging the function that its `request_handler` holds.

## The model

A `Connection` is the session with the function that its `request_handler` holds when it is not empty, and
the server that it is a connection to. A function of the server runs when the session calls it, before the
session goes on. The peer, the socket, the timers and the client that the session was handed to are any events
of the session; only the server assigns its handlers. The configuration may change between events. An
exception that leaves a handler ends the process.

## What is proved

* `gate_run` — in every run: what reaches a client does so after a bind that names it was answered `rok`,
  which the client then permitted; and after a refused bind the session calls no request handler any more.
-/

namespace SmppGateway.Gateway

open Foundation Net Smpp

/-- The functions that `request_handler` may hold. -/
inductive RequestHandler where
  /-- `server::on_binding_session_request`. -/
  | bindingSession
  /-- `sgw_external_client::on_session_request` of the client with a `system_id`. -/
  | client (system_id : Bytes)
  deriving DecidableEq

/-- An answered bind, with what it was judged by. -/
structure BindAnswer where
  request : BindRequest
  sequenceNumber : UInt32
  ip : Bytes
  clients : Table Bytes SgwExternalClient
  status : CommandStatus

/-- The client that it named permitted it. -/
def BindAnswer.Permitted (a : BindAnswer) : Prop :=
  ∃ ext_client, a.clients.lookup a.request.systemId = some ext_client ∧ ext_client.Permits a.request a.ip

/-- A request that a client was given. -/
structure Delivered where
  client : Bytes
  request : Pdu
  sequenceNumber : UInt32

/-- A connection to the server. -/
structure Connection where
  /-- The number by which the clients know the session. -/
  id : ℕ
  session : Session CommandId CommandStatus Pdu
  /-- What `request_handler` holds when it is not empty. -/
  request_handler : RequestHandler
  /-- The `system_id_` of the server. -/
  system_id_ : Bytes
  /-- The `ext_clients_map_` of the server. -/
  ext_clients_map_ : Table Bytes SgwExternalClient
  /-- The address that `remote_endpoint` finds, if it does not throw. -/
  endpoint : Option Bytes
  /-- The binds that were answered. -/
  answers : List BindAnswer
  /-- The calls of `on_session_request`. -/
  delivered : List Delivered
  /-- An exception has left a handler. -/
  terminated : Bool

/-- What may happen to a connection. -/
inductive ConnectionEvent where
  /-- An event of the session. -/
  | session (e : Event dialect)
  /-- A change of the configuration, or of the sessions of the clients. -/
  | configure (clients : Table Bytes SgwExternalClient)
  /-- A change of what `remote_endpoint` finds. -/
  | endpoint (ip : Option Bytes)

/-- `on_authenticate_request`. -/
def onAuthenticateRequest (clients : Table Bytes SgwExternalClient) (request : BindRequest) (ip : Bytes) :
    CommandStatus :=
  match clients.lookup request.systemId with
  | none => CommandStatus.rinvsysid
  | some ext_client =>
    ext_client.checkPermision request.systemType request.password ip request.bindType

namespace Connection

/-- `on_accept`. -/
def onAccept (id : ℕ) (system_id : Bytes) (clients : Table Bytes SgwExternalClient) (endpoint : Option Bytes) :
    Connection where
  id := id
  session := Session.call dialect (.fresh fun h => h = .request) .start
  request_handler := .bindingSession
  system_id_ := system_id
  ext_clients_map_ := clients
  endpoint := endpoint
  answers := []
  delivered := []
  terminated := false

/-- `on_bind`. -/
def onBind (c : Connection) (request : BindRequest) : Connection :=
  match c.ext_clients_map_.lookup request.systemId with
  | none => c
  | some ext_client =>
    { c with
      ext_clients_map_ := c.ext_clients_map_.insert request.systemId (ext_client.setSession c.id)
      request_handler := .client request.systemId
      session := { c.session with handlers := fun _ => true } }

/-- `server::on_binding_session_request` with a bind request. -/
def onBindingSessionRequest (c : Connection) (request : BindRequest) (sequenceNumber : UInt32) : Connection :=
  match c.endpoint with
  | none => { c with terminated := true }
  | some ip =>
    let status := onAuthenticateRequest c.ext_clients_map_ request ip
    let bind_resp : Pdu := ⟨.bindResp, BindResp.mk request.bindType c.system_id_ OParam.empty⟩
    match Session.sendImpl dialect c.session bind_resp sequenceNumber status with
    | (session, .error _) => { c with session := session, terminated := true }
    | (session, .ok ()) =>
      -- `async_write`, if the send has come to it
      let session := Session.internal dialect session
      let session := Session.call dialect session (.assign .request false)
      let c := { c with
        session := Session.call dialect session .bind
        answers := c.answers ++ [⟨request, sequenceNumber, ip, c.ext_clients_map_, status⟩] }
      if status = CommandStatus.rok then c.onBind request else c

/-- The call of `request_handler`. -/
def onRequest (c : Connection) (req : Pdu) (sequenceNumber : UInt32) : Connection :=
  match c.request_handler with
  | .client system_id => { c with delivered := c.delivered ++ [⟨system_id, req, sequenceNumber⟩] }
  | .bindingSession =>
    let c :=
      match req with
      | ⟨.bindRequest, request⟩ => c.onBindingSessionRequest request sequenceNumber
      | _ => c
    { c with session := Session.handle dialect c.session .returned }

/-- What an event makes of a connection. -/
def step (c : Connection) (e : ConnectionEvent) : Connection :=
  if c.terminated then c
  else
    match e with
    | .session e =>
      if e.assigns then c
      else
        let session := Session.step dialect c.session e
        match session.called.drop c.session.called.length with
        | [.request req sequenceNumber] => { c with session := session }.onRequest req sequenceNumber
        | _ => { c with session := session }
    | .configure clients => { c with ext_clients_map_ := clients }
    | .endpoint ip => { c with endpoint := ip }

/-- The calls of `process_submit_req`: `on_session_request` passes on what is a `submit_sm`. -/
def submits (c : Connection) : List Delivered := c.delivered.filter fun d => d.request.1 = .submitSm

/-- The requests that the session has called its `request_handler` with. -/
def requests (c : Connection) : List (Pdu × UInt32) :=
  c.session.called.filterMap fun call =>
    match call with
    | .request req sequenceNumber => some (req, sequenceNumber)
    | _ => none

/-! ### The gate -/

/-- A client has taken the bind over. -/
def Answered (c : Connection) (a : BindAnswer) : Prop :=
  c.answers = [a] ∧
  (c.session.handlers .request = true →
    a.status = CommandStatus.rok ∧ c.request_handler = .client a.request.systemId) ∧
  ∀ d ∈ c.delivered, a.status = CommandStatus.rok ∧ d.client = a.request.systemId

/-- No bind was answered, or one was, and what it permits. -/
structure Gate (c : Connection) : Prop where
  permitted : ∀ a ∈ c.answers, a.status = CommandStatus.rok → a.Permitted
  phase : (c.answers = [] ∧ c.request_handler = .bindingSession ∧ c.delivered = []) ∨ ∃ a, c.Answered a

variable {c : Connection}

theorem gate_onAccept (id : ℕ) (system_id : Bytes) (clients : Table Bytes SgwExternalClient)
    (endpoint : Option Bytes) : (onAccept id system_id clients endpoint).Gate :=
  ⟨fun _ ha => (nomatch ha), .inl ⟨rfl, rfl, rfl⟩⟩

theorem Gate.of_session (h : c.Gate) {session : Session CommandId CommandStatus Pdu}
    (hhandlers : session.handlers .request = true → c.session.handlers .request = true) :
    Gate { c with session := session } := by
  refine ⟨h.permitted, h.phase.imp_right ?_⟩
  rintro ⟨a, hanswers, hhandler, hdelivered⟩
  exact ⟨a, hanswers, fun hpresent => hhandler (hhandlers hpresent), hdelivered⟩

theorem permitted_of_rok {clients : Table Bytes SgwExternalClient} {request : BindRequest} {ip : Bytes}
    (h : onAuthenticateRequest clients request ip = CommandStatus.rok) :
    ∃ ext_client, clients.lookup request.systemId = some ext_client ∧ ext_client.Permits request ip := by
  rw [onAuthenticateRequest] at h
  split at h
  · exact absurd h (by decide)
  · rename_i ext_client hclient
    exact ⟨ext_client, hclient, (SgwExternalClient.checkPermision_eq_rok_iff.mp h).2⟩

/-- `on_bind` gives the session to the client that the bind named. -/
theorem gate_onBind {a : BindAnswer} (hanswers : c.answers = [a]) (hdelivered : c.delivered = [])
    (hhandlers : c.session.handlers .request = false) (hpermitted : a.status = CommandStatus.rok → a.Permitted) :
    Gate (if a.status = CommandStatus.rok then c.onBind a.request else c) := by
  have hanswered : ∀ b ∈ c.answers, b.status = CommandStatus.rok → b.Permitted := by
    simpa [hanswers] using hpermitted
  have hwithout : c.Answered a := ⟨hanswers, by simp [hhandlers], by simp [hdelivered]⟩
  by_cases hrok : a.status = CommandStatus.rok
  · rw [if_pos hrok, onBind]
    split
    · exact ⟨hanswered, .inr ⟨a, hwithout⟩⟩
    · exact ⟨hanswered, .inr ⟨a, hanswers, fun _ => ⟨hrok, rfl⟩, by simp [hdelivered]⟩⟩
  · rw [if_neg hrok]
    exact ⟨hanswered, .inr ⟨a, hwithout⟩⟩

/-- The first bind is refused, and the session has no request handler, or it is permitted. -/
theorem gate_onBindingSessionRequest (h : c.Gate) (hfirst : c.answers = []) (request : BindRequest)
    (sequenceNumber : UInt32) : (c.onBindingSessionRequest request sequenceNumber).Gate := by
  have hphase : c.request_handler = .bindingSession ∧ c.delivered = [] := by
    rcases h.phase with ⟨-, hhandler, hdelivered⟩ | ⟨a, hanswers, -⟩
    · exact ⟨hhandler, hdelivered⟩
    · rw [hfirst] at hanswers
      cases hanswers
  rw [onBindingSessionRequest]
  split
  · exact ⟨h.permitted, h.phase⟩
  rename_i ip _
  simp only
  split
  · exact ⟨by simp [hfirst], .inl ⟨hfirst, hphase.1, hphase.2⟩⟩
  rename_i session hsend
  -- The handler is taken away before `on_bind`, and `bind` does not bring it back.
  have hhandlers : (Session.call dialect (Session.call dialect (Session.internal dialect session)
      (.assign .request false)) .bind).handlers .request = false := by
    refine Bool.eq_false_iff.mpr fun hpresent => ?_
    have := (Session.calls_call (D := dialect) _ .bind rfl).handlers _ hpresent
    simp [Session.call] at this
  refine gate_onBind (a := ⟨request, sequenceNumber, ip, c.ext_clients_map_,
    onAuthenticateRequest c.ext_clients_map_ request ip⟩) ?_ hphase.2 hhandlers permitted_of_rok
  rw [hfirst]
  rfl

theorem gate_returned (h : c.Gate) :
    Gate { c with session := Session.handle dialect c.session .returned } := by
  refine h.of_session fun hpresent => ?_
  simp only [Session.handle] at hpresent
  split at hpresent <;> exact hpresent

/-- A call of the request handler reaches a client only after its bind. -/
theorem gate_onRequest (h : c.Gate) (hpresent : c.session.handlers .request = true)
    {session : Session CommandId CommandStatus Pdu}
    (hhandlers : session.handlers .request = true → c.session.handlers .request = true) (req : Pdu)
    (sequenceNumber : UInt32) : ({ c with session := session }.onRequest req sequenceNumber).Gate := by
  have hsession := h.of_session hhandlers
  unfold onRequest
  rcases h.phase with ⟨hfirst, hhandler, -⟩ | ⟨a, hanswers, hrequest, hdelivered⟩
  · simp only [hhandler] at hsession ⊢
    split
    · exact gate_returned (gate_onBindingSessionRequest hsession hfirst _ _)
    · exact gate_returned hsession
  · obtain ⟨hrok, hhandler⟩ := hrequest hpresent
    simp only [hhandler]
    refine ⟨h.permitted, .inr ⟨a, hanswers, fun _ => ⟨hrok, rfl⟩, ?_⟩⟩
    intro d hd
    rcases List.mem_append.mp hd with hd | hd
    · exact hdelivered d hd
    · rw [List.mem_singleton.mp hd]
      exact ⟨hrok, rfl⟩

/-- What an event of the session is to the server: a call of the request handler, or no concern of it. -/
theorem step_session_cases {e : Event dialect} (hrunning : c.terminated = false) (hassigns : e.assigns = false) :
    ∃ session, (session.handlers .request = true → c.session.handlers .request = true) ∧
      ((∃ req sequenceNumber, c.session.handlers .request = true ∧
        session.called = c.session.called ++ [.request req sequenceNumber] ∧
        c.step (.session e) = { c with session := session }.onRequest req sequenceNumber) ∨
      ({ c with session := session }.requests = c.requests ∧
        c.step (.session e) = { c with session := session })) := by
  have hcalls := Session.calls_step c.session hassigns
  refine ⟨Session.step dialect c.session e, hcalls.handlers _, ?_⟩
  simp only [step, hrunning, hassigns, Bool.false_eq_true, if_false]
  rcases hcalls.called with hsame | ⟨call, hcall, hpresent⟩
  · exact .inr ⟨by simp [requests, hsame], by simp [hsame]⟩
  · rw [hcall, List.drop_left]
    cases call with
    | request req sequenceNumber => exact .inl ⟨req, sequenceNumber, hpresent, rfl, rfl⟩
    | response => exact .inr ⟨by simp [requests, hcall], rfl⟩
    | sendBufAvailable => exact .inr ⟨by simp [requests, hcall], rfl⟩
    | deserializationError => exact .inr ⟨by simp [requests, hcall], rfl⟩
    | close => exact .inr ⟨by simp [requests, hcall], rfl⟩

/-- **Every event** leaves the gate closed, or opens it for a bind that was permitted. -/
theorem gate_step (h : c.Gate) (e : ConnectionEvent) : (c.step e).Gate := by
  by_cases hrunning : c.terminated = true
  · unfold step
    rwa [if_pos hrunning]
  rw [Bool.not_eq_true] at hrunning
  cases e with
  | session e =>
    by_cases hassigns : e.assigns = true
    · simpa [step, hrunning, hassigns] using h
    rw [Bool.not_eq_true] at hassigns
    obtain ⟨session, hhandlers, ⟨req, sequenceNumber, hpresent, -, hstep⟩ | ⟨-, hstep⟩⟩ :=
      step_session_cases hrunning hassigns
    · rw [hstep]
      exact gate_onRequest h hpresent hhandlers req sequenceNumber
    · rw [hstep]
      exact h.of_session hhandlers
  | configure clients =>
    simp only [step, hrunning]
    exact ⟨h.permitted, h.phase⟩
  | endpoint ip =>
    simp only [step, hrunning]
    exact ⟨h.permitted, h.phase⟩

/-- What reaches a client does so after its bind. -/
theorem Gate.bound_of_delivered (h : c.Gate) {d : Delivered} (hd : d ∈ c.delivered) :
    ∃ a ∈ c.answers, a.status = CommandStatus.rok ∧ a.request.systemId = d.client := by
  rcases h.phase with ⟨-, -, hnone⟩ | ⟨a, hanswers, -, hdelivered⟩
  · rw [hnone] at hd
    cases hd
  · obtain ⟨hrok, hclient⟩ := hdelivered d hd
    exact ⟨a, by simp [hanswers], hrok, hclient.symm⟩

theorem Gate.delivered_of_unanswered (h : c.Gate) (hanswers : c.answers = []) : c.delivered = [] := by
  rcases h.phase with ⟨-, -, hnone⟩ | ⟨a, hone, -⟩
  · exact hnone
  · rw [hanswers] at hone
    cases hone

/-- After a refusal the session has no request handler. -/
theorem Gate.absent_of_refused (h : c.Gate) (hrefused : ∃ a ∈ c.answers, a.status ≠ CommandStatus.rok) :
    c.session.handlers .request = false := by
  obtain ⟨a, ha, hstatus⟩ := hrefused
  rcases h.phase with ⟨hnone, -⟩ | ⟨b, hanswers, hhandler, -⟩
  · rw [hnone] at ha
    cases ha
  · rw [hanswers, List.mem_singleton] at ha
    exact Bool.eq_false_iff.mpr fun hpresent => hstatus (ha ▸ (hhandler hpresent).1)

/-- A session without a request handler gets none, and calls none. -/
theorem requests_step (h : c.session.handlers .request = false) (e : ConnectionEvent) :
    (c.step e).session.handlers .request = false ∧ (c.step e).requests = c.requests := by
  by_cases hrunning : c.terminated = true
  · unfold step
    rw [if_pos hrunning]
    exact ⟨h, rfl⟩
  rw [Bool.not_eq_true] at hrunning
  cases e with
  | session e =>
    by_cases hassigns : e.assigns = true
    · simpa [step, hrunning, hassigns] using h
    rw [Bool.not_eq_true] at hassigns
    obtain ⟨session, hhandlers, ⟨req, sequenceNumber, hpresent, -⟩ | ⟨hrequests, hstep⟩⟩ :=
      step_session_cases hrunning hassigns
    · rw [h] at hpresent
      cases hpresent
    · rw [hstep]
      refine ⟨Bool.eq_false_iff.mpr ?_, hrequests⟩
      intro hpresent
      have := hhandlers hpresent
      rw [h] at this
      cases this
  | configure clients => simpa [step, hrunning, requests] using h
  | endpoint ip => simpa [step, hrunning, requests] using h

theorem requests_run (h : c.session.handlers .request = false) (events : List ConnectionEvent) :
    (run step c events).requests = c.requests := by
  have hadmissible : Along step (fun _ _ => True) c events := along_true fun _ _ => trivial
  refine (hadmissible.invariant (I := fun d => d.session.handlers .request = false ∧ d.requests = c.requests)
    (fun d e hd _ => ?_) ⟨h, rfl⟩).2
  obtain ⟨hhandlers, hrequests⟩ := requests_step hd.1 e
  exact ⟨hhandlers, hrequests.trans hd.2⟩

/-- **The gate, in every run** of a connection: a `submit_sm` that reaches a client follows a bind of that
client that was answered `rok`, and `rok` was permitted at that moment; after a refusal no request is
dispatched any more, and before an answered bind no client gets any. -/
theorem gate_run (id : ℕ) (system_id : Bytes) (clients : Table Bytes SgwExternalClient)
    (endpoint : Option Bytes) (events : List ConnectionEvent) :
    let c := run step (onAccept id system_id clients endpoint) events
    (∀ d ∈ c.submits, ∃ a ∈ c.answers, a.status = CommandStatus.rok ∧ a.request.systemId = d.client) ∧
    (∀ a ∈ c.answers, a.status = CommandStatus.rok → a.Permitted) ∧
    (∀ more, (∃ a ∈ c.answers, a.status ≠ CommandStatus.rok) → (run step c more).requests = c.requests) ∧
    (c.answers = [] → c.delivered = []) := by
  intro c
  have hadmissible : Along step (fun _ _ => True) (onAccept id system_id clients endpoint) events :=
    along_true fun _ _ => trivial
  have h : c.Gate := hadmissible.invariant (fun _ e hd _ => gate_step hd e) (gate_onAccept _ _ _ _)
  refine ⟨fun d hd => h.bound_of_delivered (List.mem_of_mem_filter hd), h.permitted, ?_,
    h.delivered_of_unanswered⟩
  intro more hrefused
  exact requests_run (h.absent_of_refused hrefused) more

end Connection

end SmppGateway.Gateway
