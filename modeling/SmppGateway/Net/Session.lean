import SmppGateway.Foundation.Run
import SmppGateway.Net.Framing

/-!
# Sessions

## The model

`pa::smpp::session` and `pa::pinex::session` are one text with different headers, PDUs and commands. A
`Dialect` is what they differ in; everything else is here, member by member under the source's names.

A session runs on one executor, so only one of its functions is active at a time, but that function may
call a handler, and the handler may call the session again. `tasks` is what is left to do of the
functions that are active, innermost first: a task `user` is a handler that is running, and what it calls
goes on top of it. An event is one step of the topmost task (`internal`), a call or the return of
whoever has control, or, when no function is active, the completion of an operation. Events that
cannot come in a state leave it as it is. Handlers do not throw.

* `rx` and `tx` hold the members that receiving and sending work on, the operations outstanding on the
  socket, and the history: the bytes that arrived and the PDUs that were consumed, the bytes handed to
  `async_write` and the PDUs that were sent.
* A region given to `async_receive` is kept until the completion, which writes into that region.
* A wait on a timer may complete with or without an error whenever it is outstanding, so a cancellation
  needs no event of its own.
* A handler member is present or not. A `std::length_error` from `flat_buffer::prepare` leaves
  `do_receive` uncaught, which stops the session with a `fault`. The size of a span that ends before it
  begins wraps around. Where the PDU has fields, they are read from outside the buffered bytes, and this is a
  fault too; where it has none, nothing looks at the span, and the loop goes on. The history has such a
  span as one without bytes.
* The text of an error code is a parameter of the event that carries it.

## What is proved

* `Session.sendImpl_cases`, `Session.sendCommand_eq` — a send throws and leaves the session as it was, or
  puts one frame behind what is pending.
-/

namespace SmppGateway.Net

open Foundation

/-- `state`. -/
inductive State where
  /-- `open`. -/
  | opened
  /-- `unbinding`. -/
  | unbinding
  /-- `close`. -/
  | closed
  deriving DecidableEq, Repr

/-- The handler members that may be empty. -/
inductive Handler where
  /-- `request_handler`. -/
  | request
  /-- `response_handler`. -/
  | response
  /-- `send_buf_available_handler`. -/
  | sendBufAvailable
  /-- `deserialization_error_handler`. -/
  | deserializationError
  deriving DecidableEq, Repr

/-- A call of a handler. -/
inductive Callback (Id Status Pdu : Type) where
  /-- `request_handler`. -/
  | request (req : Pdu) (sequenceNumber : UInt32)
  /-- `response_handler`. -/
  | response (resp : Pdu) (sequenceNumber : UInt32) (commandStatus : Status)
  /-- `send_buf_available_handler`. -/
  | sendBufAvailable
  /-- `deserialization_error_handler`. -/
  | deserializationError (error : Fault) (commandId : Id) (buf : Bytes)
  /-- `close_handler`. -/
  | close (error : Option Bytes)

/-- What `consume_request_pdu` and `consume_response_pdu` do after they have read the PDU. -/
inductive Reaction (Id Status Pdu : Type) where
  /-- `send_command`. -/
  | sendCommand (commandId : Id) (sequenceNumber : UInt32) (commandStatus : Status)
  /-- `if (state_ == state::open) state_ = state::unbinding`. -/
  | startUnbinding
  /-- `close`. -/
  | close (reason : Bytes)
  /-- The handler is called, when there is one; for a request or a response, when the state is open. -/
  | callback (call : Callback Id Status Pdu)

/-- What is left to do of an active function. -/
inductive Task (Id Status Pdu : Type) where
  /-- Of `consume_request_pdu` or `consume_response_pdu`. -/
  | react (reaction : Reaction Id Status Pdu)
  /-- Of `do_receive`, at the head of its loop. -/
  | receive
  /-- Of `do_receive`, from `receive_buf_.consume` on. -/
  | consume (commandLength : ℕ)
  /-- Of `do_send`, from `async_write` on. -/
  | asyncWrite
  /-- Of a handler. -/
  | user
  /-- Of the function that `close` posts, once the close handler has returned. -/
  | release

/-- What the two sessions differ in. -/
structure Dialect (Id Status Pdu : Type) where
  framing : Framing Id Status
  /-- `serialize_header`. -/
  serializeHeader : UInt32 → Id → UInt32 → Status → Bytes
  length_serializeHeader (commandLength : UInt32) (commandId : Id) (sequenceNumber : UInt32)
    (commandStatus : Status) :
    (serializeHeader commandLength commandId sequenceNumber commandStatus).length = framing.headerLength
  /-- `deserialize_header` undoes `serialize_header`. -/
  deserializeHeader_serializeHeader (commandLength : UInt32) (commandId : Id) (sequenceNumber : UInt32)
    (commandStatus : Status) :
    framing.deserializeHeader (serializeHeader commandLength commandId sequenceNumber commandStatus) =
      ⟨commandLength, commandId, commandStatus, sequenceNumber⟩
  /-- `next_sequence_number`. -/
  nextSequenceNumber : UInt32 → UInt32
  /-- `command_status::rok`. -/
  rok : Status
  /-- The command that `unbind` sends. -/
  unbind : Id
  /-- The command that the enquire-link timer sends. -/
  enquireLink : Id
  /-- `is_response` of a command. -/
  isResponse : Id → Bool
  /-- `is_response` of a type of PDU. -/
  isResponsePdu : Pdu → Bool
  /-- `command_id_of`. -/
  commandIdOf : Pdu → Id
  /-- `serialize_to`. -/
  serializeTo : Bytes → Pdu → Bytes × Except Fault Unit
  /-- `serialize_to` only appends, and does not look at what it appends to. -/
  serializeTo_eq (vec : Bytes) (pdu : Pdu) :
    serializeTo vec pdu = (vec ++ (serializeTo [] pdu).1, (serializeTo [] pdu).2)
  /-- What `send_impl` says when the session is unbinding. -/
  unbindingText : Bytes
  /-- `consume_request_pdu`. -/
  consumeRequestPdu : Id → Status → UInt32 → Bytes → List (Reaction Id Status Pdu)
  /-- `consume_response_pdu`. -/
  consumeResponsePdu : Id → Status → UInt32 → Bytes → List (Reaction Id Status Pdu)
  /-- The two have a `deserialize` for the command, so that they read the body. -/
  readsBody : Id → Bool
  /-- `close` begins with `pause_receiving`. -/
  closePauses : Bool
  /-- `start` sets the inactivity timer. -/
  hasTimers : Bool

/-- The receiving side of a session. -/
structure Receiver (Id Status : Type) where
  receiving_state_ : ReceivingState
  receive_buf_ : ReceiveBuffer
  /-- The regions of the outstanding `async_receive`s. -/
  receives : List Region
  /-- An `async_receive` has failed. -/
  failed : Bool
  /-- The bytes that have arrived. -/
  arrived : Bytes
  /-- The PDUs that have been handed to `consume_request_pdu` and `consume_response_pdu`. -/
  dispatched : List (Header Id Status × Bytes)

/-- What was sent: a PDU or a command, which has no body. -/
structure Sent (Id Status : Type) where
  commandId : Id
  commandStatus : Status
  sequenceNumber : UInt32
  body : Bytes

/-- The sending side of a session. -/
structure Sender (Id Status : Type) where
  writing_send_buf_ : Bytes
  pending_send_buf_ : Bytes
  send_buf_threshold_ : ℕ
  /-- The number of outstanding `async_write`s. -/
  writes : ℕ
  /-- The bytes that were handed to `async_write`. -/
  handed : Bytes
  /-- What was sent, in the order of the calls. -/
  sent : List (Sent Id Status)

/-- A session, and what is going on in it. -/
structure Session (Id Status Pdu : Type) where
  state_ : State
  sequence_number_ : UInt32
  inactivity_counter_ : UInt32
  enquirelink_counter_ : UInt32
  /-- The handler members that are not empty. -/
  handlers : Handler → Bool
  rx : Receiver Id Status
  tx : Sender Id Status
  tasks : List (Task Id Status Pdu)
  /-- The outstanding waits on `inactivity_timer_`. -/
  inactivityWaits : ℕ
  /-- The outstanding waits on `enquirelink_timer_`. -/
  enquirelinkWaits : ℕ
  /-- The close notifications that are posted and have not run. -/
  posted : List (Option Bytes)
  /-- The handlers that were called. -/
  called : List (Callback Id Status Pdu)
  /-- What stopped the session. -/
  fault : Option Fault

/-- What its owner may ask of a session. -/
inductive Call {Id Status Pdu : Type} (D : Dialect Id Status Pdu) where
  /-- `start`. -/
  | start
  /-- `unbind`. -/
  | unbind (force : Bool)
  /-- `bind`. -/
  | bind
  /-- `send` of a response. -/
  | sendResponse (pdu : Pdu) (h : D.isResponsePdu pdu = true) (sequenceNumber : UInt32) (commandStatus : Status)
  /-- `send` of a request. -/
  | sendRequest (pdu : Pdu) (h : D.isResponsePdu pdu = false)
  /-- `set_send_buf_threshold`. -/
  | setSendBufThreshold (size : ℕ)
  /-- `pause_receiving`. -/
  | pauseReceiving
  /-- `resume_receiving`. -/
  | resumeReceiving
  /-- A handler member is assigned a function, or nothing. -/
  | assign (handler : Handler) (present : Bool)

/-- What may happen to a session. -/
inductive Event {Id Status Pdu : Type} (D : Dialect Id Status Pdu) where
  /-- The topmost task goes on. -/
  | internal
  /-- Whoever has control calls the session. -/
  | call (call : Call D)
  /-- The handler returns. -/
  | returned
  /-- An `async_receive` completes. -/
  | received (data : Bytes)
  /-- An `async_receive` fails. -/
  | receiveFailed (error : Bytes)
  /-- An `async_write` completes. -/
  | written
  /-- An `async_write` fails. -/
  | writeFailed (error : Bytes)
  /-- A wait on `inactivity_timer_` completes. -/
  | inactivityTimer (error : Option Bytes)
  /-- A wait on `enquirelink_timer_` completes. -/
  | enquirelinkTimer (error : Option Bytes)
  /-- The function that `close` has posted runs. -/
  | closeNotified

/-- What `do_receive` does with a PDU. -/
def Dialect.reactionsTo {Id Status Pdu : Type} (D : Dialect Id Status Pdu) (pdu : Header Id Status × Bytes) :
    List (Reaction Id Status Pdu) :=
  if D.isResponse pdu.1.commandId then
    D.consumeResponsePdu pdu.1.commandId pdu.1.commandStatus pdu.1.sequenceNumber pdu.2
  else D.consumeRequestPdu pdu.1.commandId pdu.1.commandStatus pdu.1.sequenceNumber pdu.2

namespace Callback

variable {Id Status Pdu : Type}

/-- The handler that is called; the close handler is always there. -/
def handler : Callback Id Status Pdu → Option Handler
  | .request .. => some .request
  | .response .. => some .response
  | .sendBufAvailable => some .sendBufAvailable
  | .deserializationError .. => some .deserializationError
  | .close _ => none

/-- Requests and responses are passed on only while the state is open. -/
def needsOpen : Callback Id Status Pdu → Bool
  | .request .. => true
  | .response .. => true
  | _ => false

end Callback

namespace Session

variable {Id Status Pdu : Type}

/-- A session as it is constructed, with the handlers its owner then assigns. -/
def fresh (handlers : Handler → Bool) : Session Id Status Pdu where
  state_ := .opened
  sequence_number_ := 0
  inactivity_counter_ := 0
  enquirelink_counter_ := 0
  handlers := handlers
  rx := ⟨.paused, .empty, [], false, [], []⟩
  tx := ⟨[], [], 1024 * 1024, 0, [], []⟩
  tasks := []
  inactivityWaits := 0
  enquirelinkWaits := 0
  posted := []
  called := []
  fault := none

/-- A handler is called, when it is there and may be called. -/
def invoke (s : Session Id Status Pdu) (call : Callback Id Status Pdu) : Session Id Status Pdu :=
  if (call.handler.all s.handlers && (!call.needsOpen || s.state_ = .opened)) then
    { s with tasks := .user :: s.tasks, called := s.called ++ [call] }
  else s

/-! ### Sending -/

/-- `do_send`, up to `async_write`. -/
def doSend (s : Session Id Status Pdu) : Session Id Status Pdu :=
  if s.tx.writing_send_buf_ ≠ [] then s
  else
    let tx := { s.tx with
      writing_send_buf_ := s.tx.pending_send_buf_
      pending_send_buf_ := s.tx.writing_send_buf_ }
    let s := { s with tx := tx, tasks := .asyncWrite :: s.tasks }
    if tx.writing_send_buf_.length > tx.send_buf_threshold_ then s.invoke .sendBufAvailable else s

/-- `async_write`. -/
def asyncWrite (s : Session Id Status Pdu) : Session Id Status Pdu :=
  { s with tx := { s.tx with
      writes := s.tx.writes + 1
      handed := s.tx.handed ++ s.tx.writing_send_buf_ } }

variable (D : Dialect Id Status Pdu)

/-- `send_command`. -/
def sendCommand (s : Session Id Status Pdu) (commandId : Id) (sequenceNumber : UInt32)
    (commandStatus : Status) : Session Id Status Pdu :=
  let header := D.serializeHeader (UInt32.ofNat D.framing.headerLength) commandId sequenceNumber commandStatus
  doSend { s with tx := { s.tx with
    pending_send_buf_ := s.tx.pending_send_buf_ ++ header
    sent := s.tx.sent ++ [⟨commandId, commandStatus, sequenceNumber, []⟩] } }

/-- `send_command` under the next sequence number. -/
def sendNewCommand (s : Session Id Status Pdu) (commandId : Id) : Session Id Status Pdu :=
  let sequenceNumber := D.nextSequenceNumber s.sequence_number_
  sendCommand D { s with sequence_number_ := sequenceNumber } commandId sequenceNumber D.rok

/-- `send_impl`. -/
def sendImpl (s : Session Id Status Pdu) (pdu : Pdu) (sequenceNumber : UInt32) (commandStatus : Status) :
    Session Id Status Pdu × Except Fault Unit :=
  match s.state_ with
  | .closed => (s, .error (.exception (ascii "Send on closed session")))
  | .unbinding => (s, .error (.exception D.unbindingText))
  | .opened =>
    let prevSize := s.tx.pending_send_buf_.length
    let vec := s.tx.pending_send_buf_ ++ List.replicate D.framing.headerLength 0
    match D.serializeTo vec pdu with
    | (vec, .error e) => ({ s with tx := { s.tx with pending_send_buf_ := vec.take prevSize } }, .error e)
    | (vec, .ok ()) =>
      let header := D.serializeHeader (UInt32.ofNat (vec.length - prevSize)) (D.commandIdOf pdu) sequenceNumber
        commandStatus
      let body := (D.serializeTo [] pdu).1
      (doSend { s with tx := { s.tx with
        pending_send_buf_ := vec.take prevSize ++ header ++ vec.drop (prevSize + header.length)
        sent := s.tx.sent ++ [⟨D.commandIdOf pdu, commandStatus, sequenceNumber, body⟩] } }, .ok ())

/-- `send` of a request. -/
def sendRequest (s : Session Id Status Pdu) (pdu : Pdu) : Session Id Status Pdu × Except Fault UInt32 :=
  let sequenceNumber := D.nextSequenceNumber s.sequence_number_
  match sendImpl D { s with sequence_number_ := sequenceNumber } pdu sequenceNumber D.rok with
  | (s, .ok ()) => (s, .ok sequenceNumber)
  | (s, .error e) => (s, .error e)

/-! ### Receiving -/

/-- `pause_receiving`. -/
def pauseReceiving (s : Session Id Status Pdu) : Session Id Status Pdu :=
  if s.rx.receiving_state_ = .receiving then { s with rx := { s.rx with receiving_state_ := .pendingPause } }
  else s

/-- `resume_receiving`. -/
def resumeReceiving (s : Session Id Status Pdu) : Session Id Status Pdu :=
  let prev := s.rx.receiving_state_
  let s := { s with rx := { s.rx with receiving_state_ := .receiving } }
  if prev = .paused then { s with tasks := .receive :: s.tasks } else s

/-- `close`. -/
def close (s : Session Id Status Pdu) (reason : Bytes) : Session Id Status Pdu :=
  if s.state_ = .closed then s
  else
    let s := if D.closePauses then s.pauseReceiving else s
    { s with
      state_ := .closed
      posted := s.posted ++ [if s.state_ = .opened then some reason else none] }

/-- What the consumption of a PDU goes on to do. -/
def react (s : Session Id Status Pdu) : Reaction Id Status Pdu → Session Id Status Pdu
  | .sendCommand commandId sequenceNumber commandStatus =>
    sendCommand D s commandId sequenceNumber commandStatus
  | .startUnbinding => if s.state_ = .opened then { s with state_ := .unbinding } else s
  | .close reason => close D s reason
  | .callback call => s.invoke call

/-- A PDU is handed to `consume_response_pdu` or `consume_request_pdu`. -/
def dispatch (s : Session Id Status Pdu) (header : Header Id Status) (body : Bytes) : Session Id Status Pdu :=
  { s with
    rx := { s.rx with dispatched := s.rx.dispatched ++ [(header, body)] }
    tasks := (D.reactionsTo (header, body)).map .react ++ .consume header.commandLength.toNat :: s.tasks }

/-- `do_receive` at the head of its loop. -/
def doReceive (s : Session Id Status Pdu) : Session Id Status Pdu :=
  match D.framing.turn s.rx.receiving_state_ s.rx.receive_buf_ with
  | some t =>
    if t.last < t.first && D.readsBody t.header.commandId then { s with fault := some .outOfBounds }
    else dispatch D s t.header (span s.rx.receive_buf_.buf_ t.first t.last)
  | none =>
    if s.rx.receiving_state_ = .pendingPause then
      { s with rx := { s.rx with receiving_state_ := .paused } }
    else
      match s.rx.receive_buf_.prepare (64 * 1024) with
      | .error e => { s with fault := some e }
      | .ok (buf, region) =>
        { s with rx := { s.rx with receive_buf_ := buf, receives := s.rx.receives ++ [region] } }

/-- `do_receive` after a PDU has been consumed. -/
def consume (s : Session Id Status Pdu) (commandLength : ℕ) : Session Id Status Pdu :=
  { s with
    rx := { s.rx with receive_buf_ := s.rx.receive_buf_.consume commandLength }
    tasks := .receive :: s.tasks }

/-! ### Events -/

/-- The topmost task goes on. -/
def internal (s : Session Id Status Pdu) : Session Id Status Pdu :=
  match s.tasks with
  | [] => s
  | .user :: _ => s
  | .react reaction :: tasks => react D { s with tasks := tasks } reaction
  | .receive :: tasks => doReceive D { s with tasks := tasks }
  | .consume commandLength :: tasks => consume { s with tasks := tasks } commandLength
  | .asyncWrite :: tasks => asyncWrite { s with tasks := tasks }
  | .release :: tasks => { s with tasks := tasks, handlers := fun _ => false }

/-- A call of the session. -/
def call (s : Session Id Status Pdu) : Call D → Session Id Status Pdu
  | .start =>
    resumeReceiving { s with inactivityWaits := if D.hasTimers then s.inactivityWaits + 1 else s.inactivityWaits }
  | .unbind force =>
    if s.state_ = .opened then
      let s := { s with state_ := .unbinding }
      if force then s else sendNewCommand D s D.unbind
    else s
  | .bind =>
    if D.hasTimers && s.state_ = .opened then { s with enquirelinkWaits := s.enquirelinkWaits + 1 } else s
  | .sendResponse pdu _ sequenceNumber commandStatus => (sendImpl D s pdu sequenceNumber commandStatus).1
  | .sendRequest pdu _ => (sendRequest D s pdu).1
  | .setSendBufThreshold size => { s with tx := { s.tx with send_buf_threshold_ := size } }
  | .pauseReceiving => s.pauseReceiving
  | .resumeReceiving => s.resumeReceiving
  | .assign handler present => { s with handlers := fun h => if h = handler then present else s.handlers h }

/-- The completion of an `async_receive` into a region. -/
def received (s : Session Id Status Pdu) (data : Bytes) (region : Region) (receives : List Region) :
    Session Id Status Pdu :=
  { s with
    rx := { s.rx with
      receive_buf_ := (s.rx.receive_buf_.write region.first data).commit data.length
      receives := receives
      arrived := s.rx.arrived ++ data }
    inactivity_counter_ := 0
    enquirelink_counter_ := if s.state_ = .opened then 0 else s.enquirelink_counter_
    tasks := .receive :: s.tasks }

/-- The completion of an `async_write`. -/
def written (s : Session Id Status Pdu) : Session Id Status Pdu :=
  let s := { s with tx := { s.tx with writing_send_buf_ := [], writes := s.tx.writes - 1 } }
  if s.tx.pending_send_buf_ ≠ [] then s.doSend else s

/-- The completion of a wait on `inactivity_timer_`. -/
def inactivityTimer (s : Session Id Status Pdu) : Option Bytes → Session Id Status Pdu
  | some error => close D s error
  | none =>
    if s.inactivity_counter_ ≥ 1 then close D s (ascii "Inactivity timer is reached")
    else
      { s with
        inactivity_counter_ := s.inactivity_counter_ + 1
        inactivityWaits := s.inactivityWaits + 1 }

/-- The completion of a wait on `enquirelink_timer_`. Nothing that `send_command` runs looks at the
counter or at the timer, so they are set first. -/
def enquirelinkTimer (s : Session Id Status Pdu) : Option Bytes → Session Id Status Pdu
  | some error => close D s error
  | none =>
    let s' := { s with
      enquirelink_counter_ := s.enquirelink_counter_ + 1
      enquirelinkWaits := s.enquirelinkWaits + 1 }
    if s.enquirelink_counter_ ≥ 1 && s.state_ = .opened then sendNewCommand D s' D.enquireLink else s'

/-- Whoever calls a session is a handler that it runs, or somebody else while it does not run. -/
def callable (s : Session Id Status Pdu) : Bool :=
  match s.tasks with
  | [] => true
  | .user :: _ => true
  | _ => false

/-- What an event makes of a session that no fault has stopped. -/
def handle (s : Session Id Status Pdu) (e : Event D) : Session Id Status Pdu :=
  match e with
  | .internal => internal D s
  | .call c => if s.callable then call D s c else s
  | .returned =>
    match s.tasks with
    | .user :: tasks => { s with tasks := tasks }
    | _ => s
  | .received data =>
    match s.tasks, s.rx.receives with
    | [], region :: receives => if data.length ≤ region.length then received s data region receives else s
    | _, _ => s
  | .receiveFailed error =>
    match s.tasks, s.rx.receives with
    | [], _ :: receives => close D { s with rx := { s.rx with receives := receives, failed := true } } error
    | _, _ => s
  | .written =>
    match s.tasks, s.tx.writes with
    | [], _ + 1 => written s
    | _, _ => s
  | .writeFailed error =>
    match s.tasks, s.tx.writes with
    | [], writes + 1 => close D { s with tx := { s.tx with writes := writes } } error
    | _, _ => s
  | .inactivityTimer error =>
    match s.tasks, s.inactivityWaits with
    | [], waits + 1 => inactivityTimer D { s with inactivityWaits := waits } error
    | _, _ => s
  | .enquirelinkTimer error =>
    match s.tasks, s.enquirelinkWaits with
    | [], waits + 1 => enquirelinkTimer D { s with enquirelinkWaits := waits } error
    | _, _ => s
  | .closeNotified =>
    match s.tasks, s.posted with
    | [], error :: posted =>
      { s with posted := posted, tasks := [.user, .release], called := s.called ++ [.close error] }
    | _, _ => s

/-- What an event makes of a session. -/
def step (s : Session Id Status Pdu) (e : Event D) : Session Id Status Pdu :=
  if s.fault.isSome then s else handle D s e

/-! ### What an event finds -/

/-- An event that is taken, with what it finds and what it makes of the session. -/
inductive Takes (s : Session Id Status Pdu) : Event D → Session Id Status Pdu → Prop where
  | internal : Takes s .internal (internal D s)
  | call (c : Call D) (hcallable : s.callable = true) : Takes s (.call c) (call D s c)
  | returned {tasks : List (Task Id Status Pdu)} (htasks : s.tasks = .user :: tasks) :
      Takes s .returned { s with tasks := tasks }
  | received {data : Bytes} {region : Region} {receives : List Region} (htasks : s.tasks = [])
      (hreceives : s.rx.receives = region :: receives) (hdata : data.length ≤ region.length) :
      Takes s (.received data) (received s data region receives)
  | receiveFailed (error : Bytes) {region : Region} {receives : List Region} (htasks : s.tasks = [])
      (hreceives : s.rx.receives = region :: receives) :
      Takes s (.receiveFailed error)
        (close D { s with rx := { s.rx with receives := receives, failed := true } } error)
  | written {writes : ℕ} (htasks : s.tasks = []) (hwrites : s.tx.writes = writes + 1) :
      Takes s .written (written s)
  | writeFailed (error : Bytes) {writes : ℕ} (htasks : s.tasks = []) (hwrites : s.tx.writes = writes + 1) :
      Takes s (.writeFailed error) (close D { s with tx := { s.tx with writes := writes } } error)
  | inactivityTimer (error : Option Bytes) {waits : ℕ} (htasks : s.tasks = [])
      (hwaits : s.inactivityWaits = waits + 1) :
      Takes s (.inactivityTimer error) (inactivityTimer D { s with inactivityWaits := waits } error)
  | enquirelinkTimer (error : Option Bytes) {waits : ℕ} (htasks : s.tasks = [])
      (hwaits : s.enquirelinkWaits = waits + 1) :
      Takes s (.enquirelinkTimer error) (enquirelinkTimer D { s with enquirelinkWaits := waits } error)
  | closeNotified {error : Option Bytes} {posted : List (Option Bytes)} (htasks : s.tasks = [])
      (hposted : s.posted = error :: posted) :
      Takes s .closeNotified
        { s with posted := posted, tasks := [.user, .release], called := s.called ++ [.close error] }

/-- **An event** is taken, or leaves the session as it is. -/
theorem step_takes (s : Session Id Status Pdu) (e : Event D) : step D s e = s ∨ Takes D s e (step D s e) := by
  unfold step
  split
  · exact .inl rfl
  · cases e with
    | internal => exact .inr .internal
    | call c =>
      simp only [handle]
      split
      · exact .inr (.call c ‹_›)
      · exact .inl rfl
    | returned =>
      simp only [handle]
      split
      · exact .inr (.returned ‹_›)
      · exact .inl rfl
    | received data =>
      simp only [handle]
      split
      · split
        · exact .inr (.received ‹_› ‹_› ‹_›)
        · exact .inl rfl
      · exact .inl rfl
    | receiveFailed error =>
      simp only [handle]
      split
      · exact .inr (.receiveFailed error ‹_› ‹_›)
      · exact .inl rfl
    | written =>
      simp only [handle]
      split
      · exact .inr (.written ‹_› ‹_›)
      · exact .inl rfl
    | writeFailed error =>
      simp only [handle]
      split
      · exact .inr (.writeFailed error ‹_› ‹_›)
      · exact .inl rfl
    | inactivityTimer error =>
      simp only [handle]
      split
      · exact .inr (.inactivityTimer error ‹_› ‹_›)
      · exact .inl rfl
    | enquirelinkTimer error =>
      simp only [handle]
      split
      · exact .inr (.enquirelinkTimer error ‹_› ‹_›)
      · exact .inl rfl
    | closeNotified =>
      simp only [handle]
      split
      · exact .inr (.closeNotified ‹_› ‹_›)
      · exact .inl rfl

/-- A wait on `inactivity_timer_` that completes closes the session or begins again. -/
theorem inactivityTimer_cases (s : Session Id Status Pdu) (error : Option Bytes) :
    (∃ what, inactivityTimer D s error = close D s what) ∨
      inactivityTimer D s error = { s with
        inactivity_counter_ := s.inactivity_counter_ + 1
        inactivityWaits := s.inactivityWaits + 1 } := by
  unfold inactivityTimer
  split
  · exact .inl ⟨_, rfl⟩
  · split
    · exact .inl ⟨_, rfl⟩
    · exact .inr rfl

/-- A wait on `enquirelink_timer_` that completes closes the session or begins again, and may send a command. -/
theorem enquirelinkTimer_cases (s : Session Id Status Pdu) (error : Option Bytes) :
    (∃ what, enquirelinkTimer D s error = close D s what) ∨
      ∃ s' : Session Id Status Pdu, s' = { s with
          enquirelink_counter_ := s.enquirelink_counter_ + 1
          enquirelinkWaits := s.enquirelinkWaits + 1 } ∧
        (enquirelinkTimer D s error = sendNewCommand D s' D.enquireLink ∨ enquirelinkTimer D s error = s') := by
  unfold enquirelinkTimer
  split
  · exact .inl ⟨_, rfl⟩
  · refine .inr ⟨_, rfl, ?_⟩
    simp only
    split
    · exact .inl rfl
    · exact .inr rfl

end Session

/-! ### What a send does -/

/-- The bytes of what was sent: a header with the length of the whole, and the body. -/
def Sent.frame {Id Status Pdu : Type} (D : Dialect Id Status Pdu) (x : Sent Id Status) : Bytes :=
  D.serializeHeader (UInt32.ofNat (D.framing.headerLength + x.body.length)) x.commandId x.sequenceNumber
    x.commandStatus ++ x.body

namespace Session

variable {Id Status Pdu : Type} (D : Dialect Id Status Pdu)

/-- The frame is in `pending_send_buf_`. -/
def queue (s : Session Id Status Pdu) (x : Sent Id Status) : Session Id Status Pdu :=
  { s with tx := { s.tx with
      pending_send_buf_ := s.tx.pending_send_buf_ ++ x.frame D
      sent := s.tx.sent ++ [x] } }

variable {D}

theorem sendCommand_eq (s : Session Id Status Pdu) (commandId : Id) (sequenceNumber : UInt32)
    (commandStatus : Status) :
    sendCommand D s commandId sequenceNumber commandStatus =
      doSend (s.queue D ⟨commandId, commandStatus, sequenceNumber, []⟩) := by
  simp [sendCommand, queue, Sent.frame]

/-- What is written out was given to be sent before. -/
theorem sent_doSend (s : Session Id Status Pdu) : s.doSend.tx.sent = s.tx.sent := by
  unfold doSend
  split
  · rfl
  · simp only
    split
    · unfold invoke
      split <;> rfl
    · rfl

/-- A send that can be done puts the frame of the PDU behind what is pending. -/
theorem sendImpl_of_ok {s : Session Id Status Pdu} {pdu : Pdu} (hopen : s.state_ = .opened)
    (hok : (D.serializeTo [] pdu).2 = .ok ()) (sequenceNumber : UInt32) (commandStatus : Status) :
    sendImpl D s pdu sequenceNumber commandStatus =
      (doSend (s.queue D ⟨D.commandIdOf pdu, commandStatus, sequenceNumber, (D.serializeTo [] pdu).1⟩),
        .ok ()) := by
  have hlen (body : Bytes) :
      (s.tx.pending_send_buf_ ++ List.replicate D.framing.headerLength 0 ++ body).length -
        s.tx.pending_send_buf_.length = D.framing.headerLength + body.length := by
    simp only [List.length_append, List.length_replicate]
    omega
  simp only [sendImpl, hopen]
  rw [D.serializeTo_eq, hok]
  simp only [hlen]
  simp [queue, Sent.frame, D.length_serializeHeader, List.append_assoc, ← List.drop_drop, hopen]

theorem sendImpl_of_not_opened {s : Session Id Status Pdu} (hopen : s.state_ ≠ .opened) (pdu : Pdu)
    (sequenceNumber : UInt32) (commandStatus : Status) :
    ∃ what, sendImpl D s pdu sequenceNumber commandStatus = (s, .error (.exception what)) := by
  unfold sendImpl
  split
  · exact ⟨_, rfl⟩
  · exact ⟨_, rfl⟩
  · rename_i hstate
    exact absurd hstate hopen

/-- **A send throws and leaves the session as it was, or puts the frame of the PDU into the buffer.** -/
theorem sendImpl_cases (s : Session Id Status Pdu) (pdu : Pdu) (sequenceNumber : UInt32)
    (commandStatus : Status) :
    (∃ e, sendImpl D s pdu sequenceNumber commandStatus = (s, .error e)) ∨
    (s.state_ = .opened ∧ (D.serializeTo [] pdu).2 = .ok () ∧
      sendImpl D s pdu sequenceNumber commandStatus =
        (doSend (s.queue D ⟨D.commandIdOf pdu, commandStatus, sequenceNumber, (D.serializeTo [] pdu).1⟩),
          .ok ())) := by
  by_cases hopen : s.state_ = .opened
  · cases hresult : (D.serializeTo [] pdu).2 with
    | ok => exact .inr ⟨hopen, rfl, sendImpl_of_ok hopen hresult _ _⟩
    | error e =>
      refine .inl ⟨e, ?_⟩
      simp only [sendImpl, hopen]
      rw [D.serializeTo_eq, hresult]
      simp [List.append_assoc, ← hopen]
  · refine .inl ?_
    simp only [sendImpl]
    split
    · exact ⟨_, rfl⟩
    · exact ⟨_, rfl⟩
    · rename_i h
      exact absurd h hopen

theorem sendRequest_fst (s : Session Id Status Pdu) (pdu : Pdu) :
    (sendRequest D s pdu).1 =
      (sendImpl D { s with sequence_number_ := D.nextSequenceNumber s.sequence_number_ } pdu
        (D.nextSequenceNumber s.sequence_number_) D.rok).1 := by
  simp only [sendRequest]
  split
  · rename_i h
    rw [h]
  · rename_i h
    rw [h]

/-- A request that can be sent gets the next number. -/
theorem sendRequest_snd_of_ok {s : Session Id Status Pdu} {pdu : Pdu} (hopen : s.state_ = .opened)
    (hok : (D.serializeTo [] pdu).2 = .ok ()) :
    (sendRequest D s pdu).2 = .ok (D.nextSequenceNumber s.sequence_number_) := by
  have hsent := sendImpl_of_ok
    (s := { s with sequence_number_ := D.nextSequenceNumber s.sequence_number_ }) hopen hok
    (D.nextSequenceNumber s.sequence_number_) D.rok
  simp only [sendRequest]
  rw [hsent]

theorem of_sendRequest_snd {s : Session Id Status Pdu} {pdu : Pdu} {number : UInt32}
    (h : (sendRequest D s pdu).2 = .ok number) :
    s.state_ = .opened ∧ (D.serializeTo [] pdu).2 = .ok () ∧ number = D.nextSequenceNumber s.sequence_number_ := by
  rcases sendImpl_cases (D := D) { s with sequence_number_ := D.nextSequenceNumber s.sequence_number_ } pdu
    (D.nextSequenceNumber s.sequence_number_) D.rok with ⟨e, hthrown⟩ | ⟨hopen, hok, -⟩
  · simp only [sendRequest, hthrown] at h
    cases h
  · refine ⟨hopen, hok, ?_⟩
    have hnumber := sendRequest_snd_of_ok (s := s) hopen hok
    exact Except.ok.inj (h.symm.trans hnumber)

theorem sendRequest_of_not_opened {s : Session Id Status Pdu} (hopen : s.state_ ≠ .opened) (pdu : Pdu) :
    ∃ what, sendRequest D s pdu =
      ({ s with sequence_number_ := D.nextSequenceNumber s.sequence_number_ }, .error (.exception what)) := by
  obtain ⟨what, hthrown⟩ := sendImpl_of_not_opened (D := D)
    (s := { s with sequence_number_ := D.nextSequenceNumber s.sequence_number_ }) hopen pdu
    (D.nextSequenceNumber s.sequence_number_) D.rok
  exact ⟨what, by simp only [sendRequest, hthrown]⟩

end Session

end SmppGateway.Net
