import SmppGateway.Net.Calling
import SmppGateway.Net.LifeCycle
import SmppGateway.Net.Receiving

/-!
# What is handed over

The calls of the request and of the response handler, against the PDUs that were consumed. A call is due from the
moment its PDU is handed to `consume_request_pdu` or `consume_response_pdu`; it is made, or it is dropped because there
is no handler or the session is not open.

## What is proved

* `Session.moves_step` — what one event may do: it takes at most one PDU, makes or drops at most one call, and
  sends nothing of its own accord but commands.
* `Session.handsOver_run` — in every run, whatever arrives, the calls are those of the PDUs that were consumed, in their
  order and each once.
-/

namespace SmppGateway.Net

open Foundation Relation

variable {Id Status Pdu : Type}

/-! ### Calls that are due -/

/-- The call of the request or of the response handler that is to be made. -/
def Reaction.passes : Reaction Id Status Pdu → Option (Callback Id Status Pdu)
  | .callback call => if call.needsOpen then some call else none
  | _ => none

/-- What a PDU is to lead to. -/
def Task.reaction : Task Id Status Pdu → Option (Reaction Id Status Pdu)
  | .react reaction => some reaction
  | _ => none

/-- The calls of the request and of the response handler for a PDU. -/
def Dialect.callsOf (D : Dialect Id Status Pdu) (pdu : Header Id Status × Bytes) : List (Callback Id Status Pdu) :=
  (D.reactionsTo pdu).filterMap Reaction.passes

/-- What a session sends without being asked: a command of its timers or of `unbind`, or one that answers a PDU. -/
def Dialect.Command (D : Dialect Id Status Pdu) (x : Sent Id Status) : Prop :=
  x.body = [] ∧ ((x.commandStatus = D.rok ∧ (x.commandId = D.unbind ∨ x.commandId = D.enquireLink)) ∨
    ∃ pdu, .sendCommand x.commandId x.sequenceNumber x.commandStatus ∈ D.reactionsTo pdu)

/-- What is sent of a PDU, under a number and a status. -/
def Dialect.sentOf (D : Dialect Id Status Pdu) (asked : Pdu × UInt32 × Status) : Sent Id Status :=
  ⟨D.commandIdOf asked.1, asked.2.2, asked.2.1, (D.serializeTo [] asked.1).1⟩

/-- Every reaction stands above the rest of the `do_receive` that it belongs to. -/
def Nested : List (Task Id Status Pdu) → Prop
  | [] => True
  | .react _ :: tasks => (∃ commandLength, .consume commandLength ∈ tasks) ∧ Nested tasks
  | _ :: tasks => Nested tasks

/-- One `do_receive` at most is active, and then no `async_receive` is outstanding. -/
def ReceiveSide.Single (r : ReceiveSide Id Status) : Prop :=
  (r.loops = [] ∧ r.rx.receives.length ≤ 1 ∧ (r.rx.receives ≠ [] → r.rx.receiving_state_ ≠ .paused)) ∨
    (r.loops.length = 1 ∧ r.rx.receives = [] ∧ r.rx.receiving_state_ ≠ .paused)

section Tasks

variable {tasks : List (Task Id Status Pdu)}

theorem Nested.tail {task : Task Id Status Pdu} (h : Nested (task :: tasks)) : Nested tasks := by
  cases task with
  | react => exact h.2
  | _ => exact h

theorem Nested.push {pushed : List (Task Id Status Pdu)} (hpushed : pushed.filterMap Task.reaction = [])
    (h : Nested tasks) : Nested (pushed ++ tasks) := by
  induction pushed with
  | nil => exact h
  | cons task pushed ih =>
    cases task with
    | react => simp [Task.reaction] at hpushed
    | _ => exact ih hpushed

/-- The reactions to a PDU stand above the rest of its `do_receive`. -/
theorem Nested.take (h : Nested tasks) (reactions : List (Reaction Id Status Pdu)) (commandLength : ℕ) :
    Nested (reactions.map .react ++ .consume commandLength :: tasks) := by
  induction reactions with
  | nil => exact h
  | cons reaction reactions ih => exact ⟨⟨commandLength, by simp⟩, ih⟩

/-- Where no `do_receive` is active there is no reaction. -/
theorem Nested.reaction_eq_nil (h : Nested tasks) (hloops : tasks.filterMap Task.loop = []) :
    tasks.filterMap Task.reaction = [] := by
  induction tasks with
  | nil => rfl
  | cons task tasks ih =>
    cases task with
    | react reaction =>
      obtain ⟨⟨commandLength, hmem⟩, -⟩ := h
      have hloop : some commandLength ∈ tasks.filterMap Task.loop := List.mem_filterMap.mpr ⟨_, hmem, rfl⟩
      rw [show tasks.filterMap Task.loop = [] from hloops] at hloop
      cases hloop
    | receive => cases hloops
    | consume => cases hloops
    | _ => exact ih h hloops

end Tasks

/-- **A receive step** leaves one `do_receive` at most. -/
theorem single_receiveStep {F : Framing Id Status} {r r' : ReceiveSide Id Status} (h : ReceiveStep F r r')
    (hr : r.Single) : r'.Single := by
  have hlast {loop : Option ℕ} {loops : List (Option ℕ)} (hloops : r.loops = loop :: loops) :
      loops = [] ∧ r.rx.receives = [] ∧ r.rx.receiving_state_ ≠ .paused := by
    rcases hr with ⟨hnil, -⟩ | ⟨hone, hreceives, hstate⟩
    · rw [hloops] at hnil
      cases hnil
    · rw [hloops, List.length_cons] at hone
      exact ⟨List.eq_nil_of_length_eq_zero (by omega), hreceives, hstate⟩
  cases h with
  | pause hstate =>
    rcases hr with ⟨hloops, hlen, -⟩ | ⟨hone, hreceives, -⟩
    · exact .inl ⟨hloops, hlen, by simp⟩
    · exact .inr ⟨hone, hreceives, by simp⟩
  | resume hstate =>
    rcases hr with ⟨hloops, hlen, -⟩ | ⟨hone, hreceives, -⟩
    · exact .inl ⟨hloops, hlen, by simp⟩
    · exact .inr ⟨hone, hreceives, by simp⟩
  | restart hstate =>
    rcases hr with ⟨hloops, -, hreceives⟩ | ⟨-, -, hnot⟩
    · refine .inr ⟨by simp [hloops], ?_, by simp⟩
      by_contra hne
      exact hreceives hne hstate
    · exact absurd hstate hnot
  | dispatch hloops hturn =>
    obtain ⟨rfl, hreceives, hstate⟩ := hlast hloops
    exact .inr ⟨rfl, hreceives, hstate⟩
  | overrun hfault hloops hturn =>
    obtain ⟨rfl, hreceives, hstate⟩ := hlast hloops
    exact .inl ⟨rfl, by simp [hreceives], fun _ => hstate⟩
  | stop hloops hpending =>
    obtain ⟨rfl, hreceives, -⟩ := hlast hloops
    exact .inl ⟨rfl, by simp [hreceives], fun hne => absurd hreceives hne⟩
  | prepare hloops hturn hpending hprepare =>
    obtain ⟨rfl, hreceives, hstate⟩ := hlast hloops
    exact .inl ⟨rfl, by simp [hreceives], fun _ => hstate⟩
  | overflow hfault hloops hturn hpending hprepare =>
    obtain ⟨rfl, hreceives, hstate⟩ := hlast hloops
    exact .inl ⟨rfl, by simp [hreceives], fun _ => hstate⟩
  | consume hloops =>
    obtain ⟨rfl, hreceives, hstate⟩ := hlast hloops
    exact .inr ⟨rfl, hreceives, hstate⟩
  | @received data region receives hloops hreceives hdata =>
    rcases hr with ⟨-, hlen, hstate⟩ | ⟨-, hnone, -⟩
    · rw [hreceives, List.length_cons] at hlen
      have hnil : receives = [] := List.eq_nil_of_length_eq_zero (by omega)
      exact .inr ⟨rfl, hnil, hstate (by simp [hreceives])⟩
    · rw [hreceives] at hnone
      cases hnone
  | failed hloops hreceives =>
    rcases hr with ⟨-, hlen, hstate⟩ | ⟨-, hnone, -⟩
    · rw [hreceives, List.length_cons] at hlen
      exact .inl ⟨hloops, by simp only; omega, fun _ => hstate (by simp [hreceives])⟩
    · rw [hreceives] at hnone
      cases hnone

namespace Session

variable {D : Dialect Id Status Pdu} {s t u : Session Id Status Pdu}

/-- The calls that are due. -/
def due (s : Session Id Status Pdu) : List (Callback Id Status Pdu) :=
  (s.tasks.filterMap Task.reaction).filterMap Reaction.passes

/-- The session is open and has both handlers. -/
def Serving (s : Session Id Status Pdu) : Prop :=
  s.state_ = .opened ∧ s.handlers .request = true ∧ s.handlers .response = true

/-- What the active functions are about to do with a PDU is what is done with one. -/
def Sourced (D : Dialect Id Status Pdu) (s : Session Id Status Pdu) : Prop :=
  ∀ reaction ∈ s.tasks.filterMap Task.reaction, ∃ pdu, reaction ∈ D.reactionsTo pdu

/-- A function of the session works without handing anything over; what it sends has a property. -/
structure Works (P : Sent Id Status → Prop) (s t : Session Id Status Pdu) : Prop where
  passedOn : t.passedOn = s.passedOn
  tasks : ∃ pushed, t.tasks = pushed ++ s.tasks ∧ pushed.filterMap Task.reaction = []
  dispatched : t.rx.dispatched = s.rx.dispatched
  arrived : t.rx.arrived = s.rx.arrived
  sent : ∃ xs, t.tx.sent = s.tx.sent ++ xs ∧ ∀ x ∈ xs, P x

/-! ### What the functions do -/

section Functions

variable {P : Sent Id Status → Prop}

theorem Works.of_eq (hcalled : t.called = s.called) (htasks : t.tasks = s.tasks)
    (hdispatched : t.rx.dispatched = s.rx.dispatched) (harrived : t.rx.arrived = s.rx.arrived)
    (hsent : t.tx.sent = s.tx.sent) : Works P s t :=
  ⟨congrArg (List.filter Callback.needsOpen) hcalled, ⟨[], htasks, rfl⟩, hdispatched, harrived,
    ⟨[], by simp [hsent], by simp⟩⟩

theorem Works.refl (s : Session Id Status Pdu) : Works P s s := .of_eq rfl rfl rfl rfl rfl

theorem Works.trans (h : Works P s t) (h' : Works P t u) : Works P s u := by
  obtain ⟨hpassed, ⟨pushed, htasks, hpushed⟩, hdispatched, harrived, xs, hsent, hxs⟩ := h
  obtain ⟨hpassed', ⟨pushed', htasks', hpushed'⟩, hdispatched', harrived', ys, hsent', hys⟩ := h'
  refine ⟨hpassed'.trans hpassed, ⟨pushed' ++ pushed, ?_, ?_⟩, hdispatched'.trans hdispatched,
    harrived'.trans harrived, ⟨xs ++ ys, ?_, ?_⟩⟩
  · rw [htasks', htasks, List.append_assoc]
  · rw [List.filterMap_append, hpushed, hpushed']
    rfl
  · rw [hsent', hsent, List.append_assoc]
  · exact fun x hx => (List.mem_append.mp hx).elim (hxs x) (hys x)

theorem Works.of_start (h : Works P t u) (hcalled : t.called = s.called) (htasks : t.tasks = s.tasks)
    (hdispatched : t.rx.dispatched = s.rx.dispatched) (harrived : t.rx.arrived = s.rx.arrived)
    (hsent : t.tx.sent = s.tx.sent) : Works P s u :=
  (Works.of_eq hcalled htasks hdispatched harrived hsent).trans h

theorem Works.imp {Q : Sent Id Status → Prop} (h : Works P s t) (hPQ : ∀ x, P x → Q x) : Works Q s t := by
  obtain ⟨hpassed, htasks, hdispatched, harrived, xs, hsent, hxs⟩ := h
  exact ⟨hpassed, htasks, hdispatched, harrived, xs, hsent, fun x hx => hPQ x (hxs x hx)⟩

/-- A task that is no reaction is pushed. -/
theorem Works.push {task : Task Id Status Pdu} (htask : task.reaction = none) (s : Session Id Status Pdu) :
    Works P s { s with tasks := task :: s.tasks } :=
  ⟨rfl, ⟨[task], rfl, by simp [htask]⟩, rfl, rfl, ⟨[], by simp, by simp⟩⟩

/-- A handler other than that of requests or responses is called. -/
theorem works_invoke {call : Callback Id Status Pdu} (hcall : call.needsOpen = false) (s : Session Id Status Pdu) :
    Works P s (s.invoke call) := by
  unfold invoke
  split
  · exact ⟨by simp [passedOn, hcall], ⟨[.user], rfl, rfl⟩, rfl, rfl, ⟨[], by simp, by simp⟩⟩
  · exact .refl s

theorem works_doSend (s : Session Id Status Pdu) : Works P s s.doSend := by
  unfold doSend
  split
  · exact .refl s
  · simp only
    have hpushed : Works P s { s with
        tx := { s.tx with writing_send_buf_ := s.tx.pending_send_buf_, pending_send_buf_ := s.tx.writing_send_buf_ }
        tasks := .asyncWrite :: s.tasks } := (Works.push rfl s).trans (.of_eq rfl rfl rfl rfl rfl)
    split
    · exact hpushed.trans (works_invoke rfl _)
    · exact hpushed

/-- What is sent has the property. -/
theorem works_queue {x : Sent Id Status} (hx : P x) (s : Session Id Status Pdu) :
    Works P s (doSend (s.queue D x)) :=
  have hqueued : Works P s (s.queue D x) := ⟨rfl, ⟨[], rfl, rfl⟩, rfl, rfl, ⟨[x], rfl, by simpa using hx⟩⟩
  hqueued.trans (works_doSend _)

theorem works_sendCommand {commandId : Id} {sequenceNumber : UInt32} {commandStatus : Status}
    (hP : P ⟨commandId, commandStatus, sequenceNumber, []⟩) (s : Session Id Status Pdu) :
    Works P s (sendCommand D s commandId sequenceNumber commandStatus) := by
  rw [sendCommand_eq]
  exact works_queue hP s

theorem works_sendNewCommand {commandId : Id} (hcommand : commandId = D.unbind ∨ commandId = D.enquireLink)
    (s : Session Id Status Pdu) : Works D.Command s (sendNewCommand D s commandId) :=
  have hP (sequenceNumber : UInt32) : D.Command ⟨commandId, D.rok, sequenceNumber, []⟩ := ⟨rfl, .inl ⟨rfl, hcommand⟩⟩
  .of_start (works_sendCommand (hP _) _) rfl rfl rfl rfl rfl

theorem works_pauseReceiving (s : Session Id Status Pdu) : Works P s s.pauseReceiving := by
  unfold pauseReceiving
  split
  · exact .of_eq rfl rfl rfl rfl rfl
  · exact .refl s

theorem works_resumeReceiving (s : Session Id Status Pdu) : Works P s s.resumeReceiving := by
  unfold resumeReceiving
  simp only
  split
  · exact (Works.push rfl s).trans (.of_eq rfl rfl rfl rfl rfl)
  · exact .of_eq rfl rfl rfl rfl rfl

theorem works_close (s : Session Id Status Pdu) (reason : Bytes) : Works P s (close D s reason) := by
  unfold close
  split
  · exact .refl s
  · simp only
    split
    · exact (works_pauseReceiving s).trans (.of_eq rfl rfl rfl rfl rfl)
    · exact .of_eq rfl rfl rfl rfl rfl

theorem works_written (s : Session Id Status Pdu) : Works P s s.written := by
  unfold written
  simp only
  split
  · exact .of_start (works_doSend _) rfl rfl rfl rfl rfl
  · exact .of_eq rfl rfl rfl rfl rfl

theorem works_inactivityTimer (s : Session Id Status Pdu) (error : Option Bytes) :
    Works P s (inactivityTimer D s error) := by
  rcases inactivityTimer_cases D s error with ⟨what, hclose⟩ | hagain
  · rw [hclose]
    exact works_close s what
  · rw [hagain]
    exact .of_eq rfl rfl rfl rfl rfl

theorem works_enquirelinkTimer (s : Session Id Status Pdu) (error : Option Bytes) :
    Works D.Command s (enquirelinkTimer D s error) := by
  rcases enquirelinkTimer_cases D s error with ⟨what, hclose⟩ | ⟨s', rfl, hsend | hagain⟩
  · rw [hclose]
    exact works_close s what
  · rw [hsend]
    exact .of_start (works_sendNewCommand (.inr rfl) _) rfl rfl rfl rfl rfl
  · rw [hagain]
    exact .of_eq rfl rfl rfl rfl rfl

/-- What is done with a PDU, but for the calls of the request and of the response handler. -/
theorem works_react {reaction : Reaction Id Status Pdu} (hpasses : reaction.passes = none)
    (hsourced : ∃ pdu, reaction ∈ D.reactionsTo pdu) (s : Session Id Status Pdu) :
    Works D.Command s (react D s reaction) := by
  cases reaction with
  | sendCommand => exact works_sendCommand ⟨rfl, .inr hsourced⟩ s
  | startUnbinding =>
    simp only [react]
    split
    · exact .of_eq rfl rfl rfl rfl rfl
    · exact .refl s
  | close reason => exact works_close s reason
  | callback call =>
    refine works_invoke ?_ s
    by_contra hneeds
    rw [Bool.not_eq_false] at hneeds
    rw [Reaction.passes, if_pos hneeds] at hpasses
    cases hpasses

end Functions

/-! ### What an event does -/

variable (D) in
/-- The PDUs that an event asks to be sent, and that can be: each with its number and its status. -/
def asks (s : Session Id Status Pdu) : Event D → List (Pdu × UInt32 × Status)
  | .call (.sendResponse pdu _ sequenceNumber commandStatus) =>
    if s.fault.isNone && s.callable && (sendImpl D s pdu sequenceNumber commandStatus).2.isOk then
      [(pdu, sequenceNumber, commandStatus)]
    else []
  | .call (.sendRequest pdu _) =>
    if s.fault.isNone && s.callable && (sendRequest D s pdu).2.isOk then
      [(pdu, D.nextSequenceNumber s.sequence_number_, D.rok)]
    else []
  | _ => []

variable (D) in
/-- What an event does with the calls that are due; what is sent has a property. -/
inductive Moves (P : Sent Id Status → Prop) (s : Session Id Status Pdu) (e : Event D) :
    Session Id Status Pdu → Prop where
  /-- A function works. -/
  | works {t : Session Id Status Pdu} (h : Works P s t) : Moves P s e t
  /-- A function that was active works. -/
  | goesOn {t : Session Id Status Pdu} {task : Task Id Status Pdu} {tasks : List (Task Id Status Pdu)}
      (htasks : s.tasks = task :: tasks) (htask : task.reaction.bind Reaction.passes = none)
      (h : Works P { s with tasks := tasks } t) : Moves P s e t
  /-- A call that is due is made or dropped. -/
  | passes {call : Callback Id Status Pdu} {tasks : List (Task Id Status Pdu)}
      (htasks : s.tasks = .react (.callback call) :: tasks) (hcall : call.needsOpen = true) :
      Moves P s e (invoke { s with tasks := tasks } call)
  /-- A PDU is taken. -/
  | takes {tasks : List (Task Id Status Pdu)} (htasks : s.tasks = .receive :: tasks) (header : Header Id Status)
      (body : Bytes) : Moves P s e (dispatch D { s with tasks := tasks } header body)
  /-- Bytes arrive. -/
  | arrives (htasks : s.tasks = []) {data : Bytes} (he : e = .received data) (region : Region)
      (receives : List Region) : Moves P s e (received s data region receives)

theorem Moves.imp {P Q : Sent Id Status → Prop} {e : Event D} (h : Moves D P s e t) (hPQ : ∀ x, P x → Q x) :
    Moves D Q s e t := by
  cases h with
  | works h => exact .works (h.imp hPQ)
  | goesOn htasks htask h => exact .goesOn htasks htask (h.imp hPQ)
  | passes htasks hcall => exact .passes htasks hcall
  | takes htasks header body => exact .takes htasks header body
  | arrives htasks he region receives => exact .arrives htasks he region receives

theorem moves_doReceive {P : Sent Id Status → Prop} {tasks : List (Task Id Status Pdu)}
    (htasks : s.tasks = .receive :: tasks) (e : Event D) : Moves D P s e (doReceive D { s with tasks := tasks }) := by
  unfold doReceive
  simp only
  split
  · split
    · exact .goesOn htasks rfl (.of_eq rfl rfl rfl rfl rfl)
    · exact .takes htasks _ _
  · split
    · exact .goesOn htasks rfl (.of_eq rfl rfl rfl rfl rfl)
    · split
      · exact .goesOn htasks rfl (.of_eq rfl rfl rfl rfl rfl)
      · exact .goesOn htasks rfl (.of_eq rfl rfl rfl rfl rfl)

theorem moves_internal (hsourced : Sourced D s) : Moves D D.Command s .internal (internal D s) := by
  unfold internal
  split
  case h_1 => exact .works (.refl s)
  case h_2 => exact .works (.refl s)
  case h_3 reaction tasks htasks =>
    cases hpasses : reaction.passes with
    | none =>
      have hsource := hsourced reaction (by rw [htasks]; exact List.mem_cons_self)
      exact .goesOn htasks hpasses (works_react hpasses hsource _)
    | some call =>
      cases reaction with
      | sendCommand => cases hpasses
      | startUnbinding => cases hpasses
      | close => cases hpasses
      | callback due =>
        refine .passes htasks ?_
        by_contra hneeds
        rw [Reaction.passes, if_neg hneeds] at hpasses
        cases hpasses
  case h_4 tasks htasks => exact moves_doReceive htasks _
  case h_5 htasks =>
    exact .goesOn htasks rfl ⟨rfl, ⟨[.receive], rfl, rfl⟩, rfl, rfl, ⟨[], (List.append_nil _).symm, by simp⟩⟩
  case h_6 htasks => exact .goesOn htasks rfl (.of_eq rfl rfl rfl rfl rfl)
  case h_7 htasks => exact .goesOn htasks rfl (.of_eq rfl rfl rfl rfl rfl)

/-- A send that can be done is asked for. -/
theorem works_sendImpl {P : Sent Id Status → Prop} {pdu : Pdu} {sequenceNumber : UInt32} {commandStatus : Status}
    (hP : (sendImpl D s pdu sequenceNumber commandStatus).2.isOk = true →
      P ⟨D.commandIdOf pdu, commandStatus, sequenceNumber, (D.serializeTo [] pdu).1⟩) :
    Works P s (sendImpl D s pdu sequenceNumber commandStatus).1 := by
  rcases sendImpl_cases (D := D) s pdu sequenceNumber commandStatus with ⟨e, h⟩ | ⟨-, -, h⟩
  · rw [h]
    exact .refl s
  · rw [h] at hP ⊢
    exact works_queue (hP rfl) s

theorem isOk_sendRequest (s : Session Id Status Pdu) (pdu : Pdu) : (sendRequest D s pdu).2.isOk =
    (sendImpl D { s with sequence_number_ := D.nextSequenceNumber s.sequence_number_ } pdu
      (D.nextSequenceNumber s.sequence_number_) D.rok).2.isOk := by
  simp only [sendRequest]
  split
  · rename_i h
    rw [h]
    rfl
  · rename_i h
    rw [h]
    rfl

theorem works_call (hfault : s.fault = none) (hcallable : s.callable = true) (c : Call D) :
    Works (fun x => asks D s (.call c) = [] → D.Command x) s (call D s c) := by
  cases c with
  | start => exact .of_start (works_resumeReceiving _) rfl rfl rfl rfl rfl
  | unbind force =>
    simp only [call]
    split
    · split
      · exact .of_eq rfl rfl rfl rfl rfl
      · have hworks := works_sendNewCommand (D := D) (.inl rfl) { s with state_ := .unbinding }
        exact .of_start (hworks.imp fun x hx _ => hx) rfl rfl rfl rfl rfl
    · exact .refl s
  | bind =>
    simp only [call]
    split
    · exact .of_eq rfl rfl rfl rfl rfl
    · exact .refl s
  | sendResponse pdu h sequenceNumber commandStatus =>
    refine works_sendImpl fun hok hnone => ?_
    simp [asks, hfault, hcallable, hok] at hnone
  | sendRequest pdu h =>
    rw [call, sendRequest_fst]
    refine .of_start (works_sendImpl fun hok hnone => ?_) rfl rfl rfl rfl rfl
    rw [← isOk_sendRequest] at hok
    simp [asks, hfault, hcallable, hok] at hnone
  | setSendBufThreshold size => exact .of_eq rfl rfl rfl rfl rfl
  | pauseReceiving => exact works_pauseReceiving s
  | resumeReceiving => exact works_resumeReceiving s
  | assign => exact .of_eq rfl rfl rfl rfl rfl

/-- **What an event does** is one thing at most; a session sends what it is asked to, or commands. -/
theorem moves_step (hsourced : Sourced D s) (e : Event D) :
    Moves D (fun x => asks D s e = [] → D.Command x) s e (step D s e) := by
  unfold step
  split
  · exact .works (.refl s)
  rename_i hfault
  rw [Option.not_isSome_iff_eq_none] at hfault
  have hstep := step_takes D s e
  rw [step, if_neg (by simp [hfault])] at hstep
  rcases hstep with hsame | htakes
  · rw [hsame]
    exact .works (.refl s)
  generalize handle D s e = t at htakes ⊢
  cases htakes with
  | internal => exact (moves_internal hsourced).imp fun x hx _ => hx
  | call c hcallable => exact .works (works_call hfault hcallable c)
  | returned htasks => exact .goesOn htasks rfl (.of_eq rfl rfl rfl rfl rfl)
  | received htasks hreceives hdata => exact .arrives htasks rfl _ _
  | receiveFailed error htasks hreceives =>
    exact .works (.of_start (works_close _ error) rfl rfl rfl rfl rfl)
  | written htasks hwrites => exact .works (works_written s)
  | writeFailed error htasks hwrites => exact .works (.of_start (works_close _ error) rfl rfl rfl rfl rfl)
  | inactivityTimer error htasks hwaits =>
    exact .works (.of_start (works_inactivityTimer _ error) rfl rfl rfl rfl rfl)
  | @enquirelinkTimer error waits htasks hwaits =>
    have hworks := works_enquirelinkTimer (D := D) { s with enquirelinkWaits := waits } error
    exact .works (.of_start (hworks.imp fun x hx _ => hx) rfl rfl rfl rfl rfl)
  | closeNotified htasks hposted =>
    refine .works ⟨by simp [passedOn, Callback.needsOpen], ⟨[.user, .release], by simp [htasks], rfl⟩, rfl, rfl,
      ⟨[], by simp, by simp⟩⟩

/-! ### What is kept -/

section Kept

variable {P : Sent Id Status → Prop} {e : Event D}

theorem Moves.nested (h : Moves D P s e t) (hs : Nested s.tasks) : Nested t.tasks := by
  cases h with
  | works h =>
    obtain ⟨pushed, htasks, hpushed⟩ := h.tasks
    rw [htasks]
    exact hs.push hpushed
  | goesOn hcons htask h =>
    obtain ⟨pushed, htasks, hpushed⟩ := h.tasks
    rw [htasks]
    rw [hcons] at hs
    exact hs.tail.push hpushed
  | passes htasks hcall =>
    rw [htasks] at hs
    unfold invoke
    split
    · exact hs.2
    · exact hs.2
  | takes htasks header body =>
    rw [htasks] at hs
    exact Nested.take hs.tail _ _
  | arrives htasks he region receives => exact hs

theorem Moves.sourced (h : Moves D P s e t) (hs : Sourced D s) : Sourced D t := by
  have htail {task : Task Id Status Pdu} {tasks : List (Task Id Status Pdu)} (htasks : s.tasks = task :: tasks) :
      ∀ reaction ∈ tasks.filterMap Task.reaction, ∃ pdu, reaction ∈ D.reactionsTo pdu := by
    intro reaction hmem
    refine hs reaction ?_
    obtain ⟨x, hx, hreaction⟩ := List.mem_filterMap.mp hmem
    exact List.mem_filterMap.mpr ⟨x, htasks ▸ List.mem_cons_of_mem _ hx, hreaction⟩
  cases h with
  | works h =>
    obtain ⟨pushed, htasks, hpushed⟩ := h.tasks
    rw [Sourced, htasks, List.filterMap_append, hpushed]
    exact hs
  | goesOn hcons htask h =>
    obtain ⟨pushed, htasks, hpushed⟩ := h.tasks
    rw [Sourced, htasks, List.filterMap_append, hpushed]
    exact htail hcons
  | passes htasks hcall =>
    have hkept := htail htasks
    unfold invoke
    split
    · exact hkept
    · exact hkept
  | takes htasks header body =>
    intro reaction hmem
    rw [dispatch, List.filterMap_append] at hmem
    rcases List.mem_append.mp hmem with hnew | hold
    · rw [List.filterMap_map] at hnew
      obtain ⟨x, hx, hreaction⟩ := List.mem_filterMap.mp hnew
      cases hreaction
      exact ⟨(header, body), hx⟩
    · exact htail htasks reaction hold
  | arrives htasks he region receives => exact hs

theorem single_step (hs : s.receiveSide.Single) (e : Event D) : (step D s e).receiveSide.Single := by
  have hreceives := receiveSide_step s e
  unfold Receives at hreceives
  generalize (step D s e).receiveSide = r at hreceives ⊢
  induction hreceives with
  | refl => exact hs
  | tail _ hstep ih => exact single_receiveStep hstep ih

/-! ### The calls -/

variable (D) in
/-- The PDUs that have been taken lead to the calls that are made or due, or dropped; none is dropped while the
session serves. -/
def Hands (s t : Session Id Status Pdu) : Prop :=
  ∃ pdus, t.rx.dispatched = s.rx.dispatched ++ pdus ∧
    (t.passedOn ++ t.due).Sublist (s.passedOn ++ s.due ++ pdus.flatMap D.callsOf) ∧
    (s.Serving → t.passedOn ++ t.due = s.passedOn ++ s.due ++ pdus.flatMap D.callsOf)

theorem Hands.of_eq (hpassed : t.passedOn = s.passedOn) (hdue : t.due = s.due)
    (hdispatched : t.rx.dispatched = s.rx.dispatched) : Hands D s t := by
  refine ⟨[], by simp [hdispatched], ?_, fun _ => ?_⟩
  · rw [hpassed, hdue, List.flatMap_nil, List.append_nil]
  · rw [hpassed, hdue, List.flatMap_nil, List.append_nil]

/-- A call that is due is made, unless there is no handler or the session is not open. -/
theorem hands_passes {call : Callback Id Status Pdu} {tasks : List (Task Id Status Pdu)}
    (htasks : s.tasks = .react (.callback call) :: tasks) (hcall : call.needsOpen = true) :
    Hands D s (invoke { s with tasks := tasks } call) := by
  have hdue : s.due = call :: due { s with tasks := tasks } := by
    simp [due, htasks, Task.reaction, Reaction.passes, hcall]
  unfold invoke
  split
  · have hmade : (s.passedOn ++ [call]) ++ due { s with tasks := tasks } = s.passedOn ++ s.due := by
      rw [hdue, List.append_assoc, List.singleton_append]
    have hpassed : (s.called ++ [call]).filter Callback.needsOpen = s.passedOn ++ [call] := by
      rw [List.filter_append, List.filter_cons_of_pos hcall]
      rfl
    refine ⟨[], by simp, ?_, fun _ => ?_⟩
    · rw [List.flatMap_nil, List.append_nil, ← hmade, ← hpassed]
      exact List.Sublist.refl _
    · rw [List.flatMap_nil, List.append_nil, ← hmade, ← hpassed]
      rfl
  · rename_i hnot
    refine ⟨[], by simp, ?_, fun hserving => absurd ?_ hnot⟩
    · rw [hdue, List.flatMap_nil, List.append_nil]
      exact List.Sublist.append_left (List.sublist_cons_self _ _) _
    · obtain ⟨hopen, hrequest, hresponse⟩ := hserving
      cases call with
      | request => simp [Callback.handler, hopen, hrequest]
      | response => simp [Callback.handler, hopen, hresponse]
      | _ => cases hcall

theorem Moves.hands (h : Moves D P s e t) (hnested : Nested s.tasks) (hsingle : s.receiveSide.Single) :
    Hands D s t := by
  cases h with
  | works h =>
    obtain ⟨pushed, htasks, hpushed⟩ := h.tasks
    refine .of_eq h.passedOn ?_ h.dispatched
    rw [due, htasks, List.filterMap_append, hpushed]
    rfl
  | @goesOn t task tasks hcons htask h =>
    obtain ⟨pushed, htasks, hpushed⟩ := h.tasks
    refine .of_eq h.passedOn ?_ h.dispatched
    rw [due, due, htasks, hcons, List.filterMap_append, hpushed, List.nil_append]
    cases hreaction : task.reaction with
    | none => rw [List.filterMap_cons_none hreaction]
    | some reaction =>
      have hnone : reaction.passes = none := by rwa [hreaction] at htask
      rw [List.filterMap_cons_some hreaction, List.filterMap_cons_none hnone]
  | passes htasks hcall => exact hands_passes htasks hcall
  | @takes tasks htasks header body =>
    -- No reaction is left below the `do_receive` that takes the PDU.
    have hloops : tasks.filterMap Task.loop = [] := by
      rcases hsingle with ⟨hnil, -⟩ | ⟨hone, -⟩
      · rw [receiveSide, htasks] at hnil
        cases hnil
      · rw [receiveSide, htasks] at hone
        exact List.eq_nil_of_length_eq_zero (Nat.succ.inj hone)
    have hreactions := (htasks ▸ hnested).tail.reaction_eq_nil hloops
    have hnone : s.due = [] := by
      rw [due, htasks, List.filterMap_cons_none rfl, hreactions]
      rfl
    have hdue : (dispatch D { s with tasks := tasks } header body).due = D.callsOf (header, body) := by
      rw [due, dispatch, List.filterMap_append, List.filterMap_cons_none rfl, hreactions, List.append_nil,
        List.filterMap_map]
      exact congrArg (List.filterMap Reaction.passes) (List.filterMap_some ..)
    refine ⟨[(header, body)], rfl, ?_, fun _ => ?_⟩
    · rw [hdue, hnone]
      simp [passedOn, dispatch]
    · rw [hdue, hnone]
      simp [passedOn, dispatch]
  | arrives htasks he region receives =>
    refine .of_eq rfl ?_ rfl
    simp only [due, received, htasks]
    rfl

/-! ### What arrives and what is sent -/

theorem Moves.arrived (h : Moves D P s e t) :
    t.rx.arrived = s.rx.arrived ∨ ∃ data, e = .received data ∧ t.rx.arrived = s.rx.arrived ++ data := by
  cases h with
  | works h => exact .inl h.arrived
  | goesOn htasks htask h => exact .inl h.arrived
  | passes htasks hcall =>
    unfold invoke
    split
    · exact .inl rfl
    · exact .inl rfl
  | takes htasks header body => exact .inl rfl
  | arrives htasks he region receives => exact .inr ⟨_, he, rfl⟩

theorem Moves.sent (h : Moves D P s e t) : ∃ xs, t.tx.sent = s.tx.sent ++ xs ∧ ∀ x ∈ xs, P x := by
  have hnone {u : Session Id Status Pdu} (hu : u.tx.sent = s.tx.sent) :
      ∃ xs, u.tx.sent = s.tx.sent ++ xs ∧ ∀ x ∈ xs, P x := ⟨[], by simp [hu], by simp⟩
  cases h with
  | works h => exact h.sent
  | goesOn htasks htask h => exact h.sent
  | passes htasks hcall =>
    unfold invoke
    split
    · exact hnone rfl
    · exact hnone rfl
  | takes htasks header body => exact hnone rfl
  | arrives htasks he region receives => exact hnone rfl

/-- A PDU that can be sent is the last that was sent. -/
theorem sent_sendImpl_of_isOk {pdu : Pdu} {sequenceNumber : UInt32} {commandStatus : Status}
    (hok : (sendImpl D s pdu sequenceNumber commandStatus).2.isOk = true) :
    (sendImpl D s pdu sequenceNumber commandStatus).1.tx.sent =
      s.tx.sent ++ [D.sentOf (pdu, sequenceNumber, commandStatus)] := by
  rcases sendImpl_cases (D := D) s pdu sequenceNumber commandStatus with ⟨e, h⟩ | ⟨-, -, h⟩
  · rw [h] at hok
    cases hok
  · rw [h]
    exact sent_doSend _

theorem sent_of_asks (hasks : asks D s e ≠ []) :
    (step D s e).tx.sent = s.tx.sent ++ (asks D s e).map D.sentOf := by
  cases e with
  | call c =>
    cases c with
    | sendResponse pdu h sequenceNumber commandStatus =>
      simp only [asks] at hasks ⊢
      split at hasks
      · rename_i hready
        rw [if_pos hready]
        simp only [Bool.and_eq_true, Option.isNone_iff_eq_none] at hready
        obtain ⟨⟨hfault, hcallable⟩, hok⟩ := hready
        rw [step, hfault]
        simp only [Option.isSome_none, Bool.false_eq_true, if_false, handle, hcallable, if_true, call]
        exact sent_sendImpl_of_isOk hok
      · exact absurd rfl hasks
    | sendRequest pdu h =>
      simp only [asks] at hasks ⊢
      split at hasks
      · rename_i hready
        rw [if_pos hready]
        simp only [Bool.and_eq_true, Option.isNone_iff_eq_none] at hready
        obtain ⟨⟨hfault, hcallable⟩, hok⟩ := hready
        rw [step, hfault]
        simp only [Option.isSome_none, Bool.false_eq_true, if_false, handle, hcallable, if_true, call]
        rw [sendRequest_fst]
        exact sent_sendImpl_of_isOk (isOk_sendRequest s pdu ▸ hok)
      · exact absurd rfl hasks
    | _ => exact absurd rfl hasks
  | _ => exact absurd rfl hasks

/-- **What is sent** at an event is what it asks for, or commands. -/
theorem sent_step (hsourced : Sourced D s) (e : Event D) : ∃ xs, (step D s e).tx.sent = s.tx.sent ++ xs ∧
    (xs = (asks D s e).map D.sentOf ∨ asks D s e = [] ∧ ∀ x ∈ xs, D.Command x) := by
  by_cases hasks : asks D s e = []
  · obtain ⟨xs, hsent, hxs⟩ := (moves_step hsourced e).sent
    exact ⟨xs, hsent, .inr ⟨hasks, fun x hx => hxs x hx hasks⟩⟩
  · exact ⟨_, sent_of_asks hasks, .inl rfl⟩

end Kept

/-! ### Runs -/

variable (D) in
/-- The calls that were made and are due are those of the PDUs that were consumed, in their order. -/
structure HandsOver (s : Session Id Status Pdu) : Prop where
  calls : (s.passedOn ++ s.due).Sublist (s.rx.dispatched.flatMap D.callsOf)
  nested : Nested s.tasks
  sourced : Sourced D s
  single : s.receiveSide.Single

theorem handsOver_step (hs : HandsOver D s) (e : Event D) : HandsOver D (step D s e) := by
  have hmoves := moves_step hs.sourced e
  obtain ⟨pdus, hdispatched, hcalls, -⟩ := hmoves.hands hs.nested hs.single
  refine ⟨?_, hmoves.nested hs.nested, hmoves.sourced hs.sourced, single_step hs.single e⟩
  rw [hdispatched, List.flatMap_append]
  exact hcalls.trans (hs.calls.append_right _)

theorem handsOver_fresh (handlers : Handler → Bool) : HandsOver D (fresh handlers) where
  calls := List.Sublist.refl []
  nested := trivial
  sourced := by simp [Sourced, fresh]
  single := .inl ⟨rfl, Nat.zero_le 1, fun h => absurd rfl h⟩

/-- **Calls are made in order and once**, in every run and whatever arrives. -/
theorem handsOver_run (handlers : Handler → Bool) (events : List (Event D)) :
    HandsOver D (run (step D) (fresh handlers) events) :=
  (along_true fun _ _ => trivial).invariant (G := fun _ _ => True) (fun _ e h _ => handsOver_step h e)
    (handsOver_fresh handlers)

/-- A session that serves has served before. -/
theorem serving_of_step (hD : D.Orderly) (hs : s.Orderly) {e : Event D} (he : e.assigns = false)
    (h : (step D s e).Serving) : s.Serving := by
  obtain ⟨hopen, hrequest, hresponse⟩ := h
  have hcalls := calls_step s he
  have hforward := (advances_step hD hs e).forward
  refine ⟨?_, hcalls.handlers _ hrequest, hcalls.handlers _ hresponse⟩
  rw [hopen] at hforward
  cases hstate : s.state_ with
  | opened => rfl
  | unbinding => rw [hstate] at hforward; exact absurd hforward (by decide)
  | closed => rw [hstate] at hforward; exact absurd hforward (by decide)

/-- **All calls are made** by a session that serves to the end. -/
theorem handsAll_run (hD : D.Orderly) (handlers : Handler → Bool) {events : List (Event D)}
    (hassigns : ∀ e ∈ events, e.assigns = false) :
    let s := run (step D) (fresh handlers) events
    s.Serving → s.passedOn ++ s.due = s.rx.dispatched.flatMap D.callsOf := by
  have h : Along (step D) (fun _ e => e.assigns = false) (fresh handlers) events := along_of_forall hassigns
  refine (h.invariant (I := fun s => HandsOver D s ∧ s.Orderly ∧
    (s.Serving → s.passedOn ++ s.due = s.rx.dispatched.flatMap D.callsOf)) (fun s e hs he => ?_) ?_).2.2
  · obtain ⟨hhands, horderly, hall⟩ := hs
    refine ⟨handsOver_step hhands e, (advances_step hD horderly e).orderly horderly, fun hserving => ?_⟩
    obtain ⟨pdus, hdispatched, -, hcalls⟩ := (moves_step hhands.sourced e).hands hhands.nested hhands.single
    have hbefore := serving_of_step hD horderly he hserving
    rw [hcalls hbefore, hall hbefore, hdispatched, List.flatMap_append]
  · exact ⟨handsOver_fresh handlers, orderly_fresh handlers, fun _ => rfl⟩

end Session

end SmppGateway.Net
