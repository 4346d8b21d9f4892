import SmppGateway.Gateway.BindGate
import SmppGateway.Net.HandOver
import SmppGateway.Smpp.LifeCycle

/-!
# What an event of a session is to the server

A session of `pa::smpp::server` calls the server or the client that it was handed to, and they call it back.

## The model

The functions of the server are those of `Connection`: here each of them is a run of the session, begun while the
handler has control of it.

## What is proved

* `Session.step_of_passes` — what an event does that calls the request or the response handler.
* `Connection.concerns_step` — an event of a session is nothing to the server, a bind that it answers, or the only
  call of the close handler.
-/

namespace SmppGateway.Net.Session

open Foundation

variable {Id Status Pdu : Type} {D : Dialect Id Status Pdu} {s : Session Id Status Pdu}

/-- **A call of the request or of the response handler** is all that an event does which makes one. -/
theorem step_of_passes (hsourced : Sourced D s) {e : Event D} {call : Callback Id Status Pdu}
    (hcalled : (step D s e).called = s.called ++ [call]) (hneeds : call.needsOpen = true) :
    s.fault = none ∧ s.state_ = .opened ∧
      ∃ tasks, step D s e = { s with tasks := .user :: tasks, called := s.called ++ [call] } := by
  have hfault : s.fault = none := by
    by_contra hfault
    rw [step, if_pos (Option.isSome_iff_ne_none.mpr hfault)] at hcalled
    simp at hcalled
  have hpassed : (step D s e).passedOn = s.passedOn ++ [call] := by simp [passedOn, hcalled, hneeds]
  have hmoves := moves_step hsourced e
  generalize step D s e = t at hcalled hpassed hmoves ⊢
  cases hmoves with
  | works h =>
    rw [h.passedOn] at hpassed
    simp at hpassed
  | goesOn htasks htask h =>
    have hsame : t.passedOn = s.passedOn := h.passedOn
    rw [hsame] at hpassed
    simp at hpassed
  | @passes due tasks htasks hdue =>
    unfold invoke at hcalled ⊢
    split
    · rename_i hpresent
      rw [if_pos hpresent] at hcalled
      obtain rfl : due = call := by simpa using hcalled
      simp only [hneeds, Bool.not_true, Bool.false_or, Bool.and_eq_true, decide_eq_true_eq] at hpresent
      exact ⟨hfault, hpresent.2, tasks, rfl⟩
    · rename_i hpresent
      rw [if_neg hpresent] at hcalled
      simp at hcalled
  | takes htasks header body => simp [passedOn, dispatch] at hpassed
  | arrives htasks he region receives => simp [passedOn, received] at hpassed

theorem sourced_run (hsourced : Sourced D s) (events : List (Event D)) : Sourced D (run (step D) s events) :=
  (along_true fun _ _ => trivial : Along (step D) (fun _ _ => True) s events).invariant
    (fun _ e hs _ => (moves_step hs e).sourced hs) hsourced

/-- A handler has control of a session that is open. -/
structure Controlled (s : Session Id Status Pdu) : Prop where
  fault : s.fault = none
  state : s.state_ = .opened
  tasks : ∃ rest, s.tasks = .user :: rest

/-- A handler asks for something. -/
theorem Controlled.step_call (h : s.Controlled) (c : Call D) : step D s (.call c) = call D s c := by
  obtain ⟨rest, htasks⟩ := h.tasks
  simp [step, handle, h.fault, callable, htasks]

/-- A handler returns. -/
theorem Controlled.step_returned (h : s.Controlled) : step D s .returned = handle D s .returned := by
  simp [step, h.fault]

theorem Controlled.state_returned (h : s.Controlled) : (handle D s .returned).state_ = .opened := by
  obtain ⟨rest, htasks⟩ := h.tasks
  simp [handle, htasks, h.state]

theorem Controlled.assign (h : s.Controlled) (handler : Handler) (present : Bool) :
    (call D s (.assign handler present)).Controlled := ⟨h.fault, h.state, h.tasks⟩

theorem Controlled.bind (h : s.Controlled) : (call D s .bind).Controlled := by
  simp only [call]
  split
  · exact ⟨h.fault, h.state, h.tasks⟩
  · exact h

/-- A handler sends something, and `do_send` goes on to its end. -/
theorem Controlled.internal_doSend (h : s.Controlled) :
    s.doSend.fault = none ∧ (internal D s.doSend).Controlled := by
  obtain ⟨rest, htasks⟩ := h.tasks
  unfold doSend
  split
  · exact ⟨h.fault, by simpa [internal, htasks] using h⟩
  · simp only
    split
    · unfold invoke
      split
      · exact ⟨h.fault, h.fault, h.state, _, rfl⟩
      · exact ⟨h.fault, h.fault, h.state, rest, htasks⟩
    · exact ⟨h.fault, h.fault, h.state, rest, htasks⟩

/-- All handlers are assigned. -/
def assignments (D : Dialect Id Status Pdu) : List (Event D) :=
  [.call (.assign .request true), .call (.assign .response true), .call (.assign .sendBufAvailable true),
    .call (.assign .deserializationError true)]

theorem Controlled.run_assignments (h : s.Controlled) :
    run (step D) s (assignments D) = { s with handlers := fun _ => true } := by
  have hone := h.assign (D := D) .request true
  have htwo := hone.assign (D := D) .response true
  have hthree := htwo.assign (D := D) .sendBufAvailable true
  simp only [assignments, run_cons, run_nil, h.step_call, hone.step_call, htwo.step_call, hthree.step_call]
  simp only [call]
  congr 1
  funext handler
  cases handler <;> simp

end SmppGateway.Net.Session

namespace SmppGateway.Gateway

open Foundation Net Smpp

namespace Connection

variable {c : Connection}

/-- What leads from one session to another is a run, and a handler has control of it. -/
structure Leads (s t : Session CommandId CommandStatus Pdu) : Prop where
  reached : ∃ events, t = run (Session.step dialect) s events
  controlled : t.Controlled

theorem leads_refl {s : Session CommandId CommandStatus Pdu} (h : s.Controlled) : Leads s s := ⟨⟨[], rfl⟩, h⟩

/-- The answer to a bind, and what the server does to the session with it. -/
theorem leads_answer (h : c.session.Controlled) {bind_resp : Pdu} (hresponse : bind_resp.1.isResponse = true)
    {sequenceNumber : UInt32} {status : CommandStatus} {session : Session CommandId CommandStatus Pdu}
    (hsend : Session.sendImpl dialect c.session bind_resp sequenceNumber status = (session, .ok ())) :
    Leads c.session (Session.call dialect (Session.call dialect (Session.internal dialect session)
      (.assign .request false)) .bind) := by
  obtain ⟨hfault, hsent⟩ : session.fault = none ∧ (Session.internal dialect session).Controlled := by
    rcases Session.sendImpl_cases (D := dialect) c.session bind_resp sequenceNumber status with
      ⟨e, hthrown⟩ | ⟨-, -, hqueued⟩
    · rw [hthrown] at hsend
      cases hsend
    · rw [hqueued] at hsend
      cases hsend
      exact Session.Controlled.internal_doSend ⟨h.fault, h.state, h.tasks⟩
  have hassigned := hsent.assign (D := dialect) .request false
  refine ⟨⟨[.call (.sendResponse bind_resp hresponse sequenceNumber status), .internal,
    .call (.assign .request false), .call .bind], ?_⟩, hassigned.bind⟩
  have hstep : Session.step dialect c.session (.call (.sendResponse bind_resp hresponse sequenceNumber status)) =
      session := by
    rw [h.step_call]
    simp only [Session.call, hsend]
  have hinternal : Session.step dialect session .internal = Session.internal dialect session := by
    simp [Session.step, Session.handle, hfault]
  rw [run_cons, hstep, run_cons, hinternal, run_cons, hsent.step_call, run_cons, hassigned.step_call, run_nil]

theorem leads_onBind {request : BindRequest} {s : Session CommandId CommandStatus Pdu} (h : Leads s c.session) :
    Leads s (c.onBind request).session := by
  obtain ⟨⟨events, hevents⟩, hcontrolled⟩ := h
  unfold onBind
  split
  · exact ⟨⟨events, hevents⟩, hcontrolled⟩
  · refine ⟨⟨events ++ Session.assignments dialect, ?_⟩, ⟨hcontrolled.fault, hcontrolled.state, hcontrolled.tasks⟩⟩
    rw [run_append, ← hevents, hcontrolled.run_assignments]

/-- **A request of a session that is not bound** leads to a run of it. -/
theorem leads_onBindingSessionRequest (h : c.session.Controlled) (request : BindRequest)
    (sequenceNumber : UInt32) : Leads c.session (c.onBindingSessionRequest request sequenceNumber).session := by
  unfold onBindingSessionRequest
  split
  · exact leads_refl h
  rename_i ip _
  simp only
  generalize onAuthenticateRequest c.ext_clients_map_ request ip = status
  split
  · rename_i session e hsend
    rcases Session.sendImpl_cases (D := dialect) c.session
      ⟨.bindResp, BindResp.mk request.bindType c.system_id_ OParam.empty⟩ sequenceNumber status with
      ⟨e', hthrown⟩ | ⟨-, -, hsent⟩
    · rw [hthrown] at hsend
      cases hsend
      exact leads_refl h
    · rw [hsent] at hsend
      cases hsend
  · rename_i session hsend
    have hanswered := leads_answer h rfl hsend
    split
    · exact leads_onBind hanswered
    · exact hanswered

/-- **What the server does with a request** is a run of the session, which stays open. -/
theorem session_onRequest (h : c.session.Controlled) (req : Pdu) (sequenceNumber : UInt32) :
    (∃ events, (c.onRequest req sequenceNumber).session = run (Session.step dialect) c.session events) ∧
      (c.onRequest req sequenceNumber).session.state_ = .opened := by
  have hreturned {t : Session CommandId CommandStatus Pdu} (ht : Leads c.session t) :
      (∃ events, Session.handle dialect t .returned = run (Session.step dialect) c.session events) ∧
        (Session.handle dialect t .returned).state_ = .opened := by
    obtain ⟨⟨events, hevents⟩, hcontrolled⟩ := ht
    refine ⟨⟨events ++ [.returned], ?_⟩, hcontrolled.state_returned⟩
    rw [run_concat, ← hevents, hcontrolled.step_returned]
  unfold onRequest
  split
  · exact ⟨⟨[], rfl⟩, h.state⟩
  · simp only
    split
    · exact hreturned (leads_onBindingSessionRequest h _ _)
    · exact hreturned (leads_refl h)

/-- What the close handler of a connection has been told. -/
def closings (c : Connection) : List (Option Bytes) := c.session.called.filterMap Callback.notification

/-- The connection is in order. -/
structure Sound (c : Connection) : Prop where
  gate : c.Gate
  orderly : c.session.Orderly
  sourced : Session.Sourced dialect c.session
  notified : c.session.Notified

/-- While the state is not closed, the close handler is not called. -/
theorem Sound.closings_eq_nil (h : c.Sound) (hopen : c.session.state_ ≠ .closed) : c.closings = [] := by
  have hnone := h.notified
  rw [Session.Notified, if_neg hopen, List.length_eq_zero_iff, Session.notifications] at hnone
  exact (List.append_eq_nil_iff.mp hnone).1

/-- The close handler is called once, of a session that is closed. -/
theorem Sound.closed_of_closings (h : c.Sound) {before : List (Option Bytes)} {error : Option Bytes}
    (hclosings : c.closings = before ++ [error]) : before = [] ∧ c.session.state_ = .closed := by
  have hclosed : c.session.state_ = .closed := by
    by_contra hopen
    rw [h.closings_eq_nil hopen] at hclosings
    simp at hclosings
  have honce := h.notified
  rw [Session.Notified, if_pos hclosed, Session.notifications, ← closings, hclosings] at honce
  refine ⟨List.length_eq_zero_iff.mp ?_, hclosed⟩
  simp only [List.length_append, List.length_singleton] at honce
  omega

/-- The connection is in order after what has happened to it, and has not opened again. -/
structure Follows (c c' : Connection) : Prop where
  id : c'.id = c.id
  sound : c'.Sound
  closed : c.session.state_ = .closed → c'.session.state_ = .closed

theorem Sound.of_run {c' : Connection} (h : c.Sound) (events : List (Event dialect)) (hgate : c'.Gate)
    (hsession : c'.session = run (Session.step dialect) c.session events) (hid : c'.id = c.id) :
    Follows c c' := by
  obtain ⟨hforward, -, hnotified⟩ := Session.advances_run orderly_dialect h.orderly events
  rw [← hsession] at hforward hnotified
  refine ⟨hid, ⟨hgate, ?_, ?_, hnotified h.notified⟩, fun hclosed => ?_⟩
  · rw [hsession]
    exact Session.orderly_run orderly_dialect h.orderly events
  · rw [hsession]
    exact Session.sourced_run h.sourced events
  · rw [hclosed] at hforward
    cases hstate : c'.session.state_ with
    | closed => rfl
    | opened => exact absurd hforward (by rw [hstate]; decide)
    | unbinding => exact absurd hforward (by rw [hstate]; decide)

theorem sound_onAccept (id : ℕ) (system_id : Bytes) (clients : Table Bytes SgwExternalClient)
    (endpoint : Option Bytes) : (onAccept id system_id clients endpoint).Sound where
  gate := gate_onAccept id system_id clients endpoint
  orderly := Session.orderly_run orderly_dialect (Session.orderly_fresh _) [.call .start]
  sourced := Session.sourced_run (s := .fresh fun h => h = .request) (fun _ h => nomatch h) [.call .start]
  notified := rfl

/-- `on_bind` gives the session to a client of the map, if there is one of the name. -/
theorem onBind_eq (c : Connection) (request : BindRequest) :
    (c.onBind request).id = c.id ∧ (c.onBind request).answers = c.answers ∧
      ∀ ext_client, c.ext_clients_map_.lookup request.systemId = some ext_client →
        (c.onBind request).ext_clients_map_ =
          c.ext_clients_map_.insert request.systemId (ext_client.setSession c.id) := by
  unfold onBind
  split
  · rename_i hnone
    exact ⟨rfl, rfl, fun ext_client hclient => by simp [hnone] at hclient⟩
  · rename_i ext_client hclient
    refine ⟨rfl, rfl, fun other hother => ?_⟩
    rw [hclient] at hother
    cases hother
    rfl

/-- The client that an answer `rok` names has the session now. -/
def Gives (c : Connection) (a : BindAnswer) (c' : Connection) : Prop :=
  a.status = CommandStatus.rok → ∃ ext_client, c.ext_clients_map_.lookup a.request.systemId = some ext_client ∧
    c'.ext_clients_map_ = c.ext_clients_map_.insert a.request.systemId (ext_client.setSession c.id)

/-- What the server does with a request, beside what it does to the session. -/
theorem answers_onRequest (c : Connection) (req : Pdu) (sequenceNumber : UInt32) :
    (c.onRequest req sequenceNumber).id = c.id ∧
      ((c.onRequest req sequenceNumber).answers = c.answers ∨
        c.request_handler = .bindingSession ∧ ∃ a, (c.onRequest req sequenceNumber).answers = c.answers ++ [a] ∧
          c.Gives a (c.onRequest req sequenceNumber)) := by
  unfold onRequest
  split
  · exact ⟨rfl, .inl rfl⟩
  rename_i hhandler
  simp only
  split
  · rename_i request
    unfold onBindingSessionRequest
    split
    · exact ⟨rfl, .inl rfl⟩
    rename_i ip _
    simp only
    split
    · exact ⟨rfl, .inl rfl⟩
    split
    · rename_i _ session hsend hrok
      obtain ⟨ext_client, hclient, -⟩ := permitted_of_rok hrok
      obtain ⟨hid, hanswers, hgiven⟩ := onBind_eq { c with
        session := Session.call dialect (Session.call dialect (Session.internal dialect session)
          (.assign .request false)) .bind
        answers := c.answers ++ [⟨request, sequenceNumber, ip, c.ext_clients_map_,
          onAuthenticateRequest c.ext_clients_map_ request ip⟩] } request
      refine ⟨hid, .inr ⟨hhandler, _, hanswers, fun _ => ⟨ext_client, ?_, hgiven ext_client hclient⟩⟩⟩
      exact hclient
    · rename_i hrefused
      exact ⟨rfl, .inr ⟨hhandler, _, rfl, fun hrok => absurd hrok hrefused⟩⟩
  · exact ⟨rfl, .inl rfl⟩

/-- **What an event of a session is to the server.** -/
inductive Concerns (c c' : Connection) : Prop where
  /-- Nothing. -/
  | nothing (hanswers : c'.answers = c.answers) (hclosings : c'.closings = c.closings)
      (hcalled : ∀ error, c'.session.called.drop c.session.called.length ≠ [.close error])
  /-- A bind, which the server answers. -/
  | bind (hfirst : c.answers = []) (a : BindAnswer) (hanswers : c'.answers = [a])
      (hgives : c.Gives a c') (hopen : c'.session.state_ = .opened)
      (hcalled : ∀ error, c'.session.called.drop c.session.called.length ≠ [.close error])
  /-- The close handler is called, for the first time. -/
  | close (hanswers : c'.answers = c.answers) (hfirst : c.closings = []) (error : Option Bytes)
      (hcalled : c'.session.called.drop c.session.called.length = [.close error])
      (hclosings : c'.closings = [error]) (hclosed : c'.session.state_ = .closed)

theorem not_closing {c' : Connection} (h : c'.closings = []) (n : ℕ) (error : Option Bytes) :
    c'.session.called.drop n ≠ [.close error] := by
  intro hdrop
  have hmem : Callback.close error ∈ c'.session.called :=
    List.mem_of_mem_drop (hdrop ▸ List.mem_singleton_self _)
  have hclosing : error ∈ c'.closings := List.mem_filterMap.mpr ⟨_, hmem, rfl⟩
  rw [h] at hclosing
  cases hclosing

/-- A request that the session passes on. -/
theorem concerns_onRequest (h : c.Sound) {e : Event dialect} {req : Pdu} {sequenceNumber : UInt32}
    (hpresent : c.session.handlers .request = true)
    (hcalled : (Session.step dialect c.session e).called = c.session.called ++ [.request req sequenceNumber])
    (hgate : ({ c with session := Session.step dialect c.session e }.onRequest req sequenceNumber).Gate) :
    let c' := { c with session := Session.step dialect c.session e }.onRequest req sequenceNumber
    Follows c c' ∧ Concerns c c' := by
  intro c'
  obtain ⟨hfault, hopen, tasks, hstep⟩ := Session.step_of_passes h.sourced hcalled rfl
  have hcontrolled : (Session.step dialect c.session e).Controlled := by
    rw [hstep]
    exact ⟨hfault, hopen, tasks, rfl⟩
  obtain ⟨⟨events, hevents⟩, hopen'⟩ :=
    session_onRequest (c := { c with session := Session.step dialect c.session e }) hcontrolled req sequenceNumber
  obtain ⟨hid, hrequest⟩ :=
    answers_onRequest { c with session := Session.step dialect c.session e } req sequenceNumber
  have hfollows : Follows c c' := h.of_run (e :: events) hgate hevents hid
  have hclosings : c'.closings = [] := hfollows.sound.closings_eq_nil (by rw [hopen']; decide)
  have hclosings_before : c.closings = [] := h.closings_eq_nil (by rw [hopen]; decide)
  refine ⟨hfollows, ?_⟩
  rcases hrequest with hsame | ⟨hhandler, a, hanswers, hgives⟩
  · exact .nothing hsame (hclosings.trans hclosings_before.symm) (not_closing hclosings _)
  · have hfirst : c.answers = [] := by
      rcases h.gate.phase with ⟨hnone, -, -⟩ | ⟨b, -, hclient, -⟩
      · exact hnone
      · rw [hhandler] at hclient
        cases (hclient hpresent).2
    refine .bind hfirst a ?_ hgives hopen' (not_closing hclosings _)
    rw [hanswers, hfirst]
    rfl

/-- **An event of a session** keeps the connection in order, and concerns the server in one of these ways. -/
theorem concerns_step (h : c.Sound) (e : Event dialect) :
    Follows c (c.step (.session e)) ∧ Concerns c (c.step (.session e)) := by
  have hidle : Follows c c ∧ Concerns c c := ⟨⟨rfl, h, fun hclosed => hclosed⟩, .nothing rfl rfl fun error => by simp⟩
  have hgate := gate_step h.gate (.session e)
  unfold step at hgate ⊢
  split
  · exact hidle
  rename_i hrunning
  rw [if_neg hrunning] at hgate
  simp only at hgate ⊢
  split
  · exact hidle
  rename_i hassigns
  rw [if_neg hassigns] at hgate
  rw [Bool.not_eq_true] at hassigns
  have hcalls := Session.calls_step c.session hassigns
  rcases hcalls.called with hsame | ⟨call, hcall, hpresent⟩
  · simp only [hsame, List.drop_length] at hgate ⊢
    refine ⟨h.of_run [e] hgate rfl rfl, .nothing rfl ?_ fun error => ?_⟩
    · simp [closings, hsame]
    · simp [hsame]
  simp only [hcall, List.drop_left] at hgate ⊢
  cases call with
  | request req sequenceNumber => exact concerns_onRequest h hpresent hcall hgate
  | close error =>
    have hfollows := h.of_run [e] hgate rfl rfl
    have hclosings : closings { c with session := Session.step dialect c.session e } = c.closings ++ [error] := by
      simp [closings, hcall, Callback.notification]
    obtain ⟨hfirst, hclosed⟩ := hfollows.sound.closed_of_closings hclosings
    rw [hfirst] at hclosings
    exact ⟨hfollows, .close rfl hfirst error (by simp [hcall]) hclosings hclosed⟩
  | response resp sequenceNumber commandStatus =>
    exact ⟨h.of_run [e] hgate rfl rfl, .nothing rfl (by simp [closings, hcall, Callback.notification])
      fun error => by simp [hcall]⟩
  | sendBufAvailable =>
    exact ⟨h.of_run [e] hgate rfl rfl, .nothing rfl (by simp [closings, hcall, Callback.notification])
      fun error => by simp [hcall]⟩
  | deserializationError what commandId buf =>
    exact ⟨h.of_run [e] hgate rfl rfl, .nothing rfl (by simp [closings, hcall, Callback.notification])
      fun error => by simp [hcall]⟩

end Connection

end SmppGateway.Gateway
