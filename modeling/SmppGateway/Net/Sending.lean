import Mathlib.Logic.Relation
import SmppGateway.Net.Session

/-!
# The sending side of a session

## The model

`SendStep` is all that any event of a session can do to its two send buffers, as long as no `async_write`
fails: a frame is queued, the buffers are swapped, what was swapped is handed to `async_write`, the write
completes, or the threshold is set.

## What is proved

* `Session.sendSide_step` — an event makes send steps only, and what it queues is what it was asked to send.
* `Session.sent_step_adds` — which PDU or command each call, reaction and timer adds to what was sent.
* `transmitted_sendSteps` — at any time, what was handed to `async_write`, then what was swapped and is to be
  handed to it, then what is pending, are the frames of what was sent, in the order of the calls.
* `streams_run` — where no write fails, one `async_write` at most is outstanding, and one is or is about to be
  exactly when something is being written.
* `Sent.header_frame` — the header of a frame that is shorter than `2 ^ 32` bytes says what was sent.
-/

namespace SmppGateway.Net

open Foundation Relation

variable {Id Status Pdu : Type} {D : Dialect Id Status Pdu}

/-! ### Send steps -/

/-- A `do_send` that is active, and has swapped the buffers. -/
def Task.isWrite : Task Id Status Pdu → Bool
  | .asyncWrite => true
  | _ => false

/-- The sending side of a session and its active `do_send`s. -/
structure SendSide (Id Status : Type) where
  tx : Sender Id Status
  swaps : ℕ

/-- The sending side of a session. -/
def Session.sendSide (s : Session Id Status Pdu) : SendSide Id Status where
  tx := s.tx
  swaps := (s.tasks.filter Task.isWrite).length

/-- What can happen to the sending side, when everything that is sent has a property. -/
inductive SendStep (D : Dialect Id Status Pdu) (P : Sent Id Status → Prop) :
    SendSide Id Status → SendSide Id Status → Prop where
  /-- A frame is appended to `pending_send_buf_`. -/
  | queue {t : SendSide Id Status} (x : Sent Id Status) (hx : P x) :
      SendStep D P t { t with tx := { t.tx with
        pending_send_buf_ := t.tx.pending_send_buf_ ++ x.frame D
        sent := t.tx.sent ++ [x] } }
  /-- The buffers are swapped. -/
  | swap {t : SendSide Id Status} (hwriting : t.tx.writing_send_buf_ = [])
      (hpending : t.tx.pending_send_buf_ ≠ []) :
      SendStep D P t {
        tx := { t.tx with
          writing_send_buf_ := t.tx.pending_send_buf_
          pending_send_buf_ := t.tx.writing_send_buf_ }
        swaps := t.swaps + 1 }
  /-- `async_write`. -/
  | write {t : SendSide Id Status} {swaps : ℕ} (hswaps : t.swaps = swaps + 1) :
      SendStep D P t {
        tx := { t.tx with
          writes := t.tx.writes + 1
          handed := t.tx.handed ++ t.tx.writing_send_buf_ }
        swaps := swaps }
  /-- An `async_write` completes. -/
  | written {t : SendSide Id Status} {writes : ℕ} (hswaps : t.swaps = 0) (hwrites : t.tx.writes = writes + 1) :
      SendStep D P t { t with tx := { t.tx with writing_send_buf_ := [], writes := writes } }
  /-- `set_send_buf_threshold`. -/
  | threshold {t : SendSide Id Status} (size : ℕ) :
      SendStep D P t { t with tx := { t.tx with send_buf_threshold_ := size } }

/-! ### What is sent -/

theorem Sent.length_frame (x : Sent Id Status) :
    (x.frame D).length = D.framing.headerLength + x.body.length := by
  rw [frame, List.length_append, D.length_serializeHeader]

theorem Sent.frame_ne_nil (x : Sent Id Status) : x.frame D ≠ [] := by
  intro h
  have hlen := congrArg List.length h
  rw [length_frame, List.length_nil] at hlen
  exact absurd D.framing.headerLength_pos (by omega)

/-- The header of a frame names the frame's own length, and what was sent. -/
def Sent.HeaderOk (D : Dialect Id Status Pdu) (x : Sent Id Status) : Prop :=
  let header := D.framing.deserializeHeader ((x.frame D).take D.framing.headerLength)
  header.commandLength.toNat = (x.frame D).length ∧ header.commandId = x.commandId ∧
    header.commandStatus = x.commandStatus ∧ header.sequenceNumber = x.sequenceNumber

/-- **The header of a frame**, which holds a length of 32 bits. -/
theorem Sent.headerOk_iff (x : Sent Id Status) :
    x.HeaderOk D ↔ D.framing.headerLength + x.body.length < 2 ^ 32 := by
  have hhead : (x.frame D).take D.framing.headerLength =
      D.serializeHeader (UInt32.ofNat (D.framing.headerLength + x.body.length)) x.commandId x.sequenceNumber
        x.commandStatus := by
    rw [frame, List.take_left' (D.length_serializeHeader ..)]
  rw [HeaderOk, hhead, D.deserializeHeader_serializeHeader, length_frame]
  simp only [UInt32.toNat_ofNat', and_true]
  constructor
  · intro h
    rw [← h]
    exact Nat.mod_lt _ (by decide)
  · exact Nat.mod_eq_of_lt

/-- What waits in the send buffers. -/
def Session.buffered (s : Session Id Status Pdu) : Bytes := s.tx.writing_send_buf_ ++ s.tx.pending_send_buf_

theorem Session.buffered_doSend (s : Session Id Status Pdu) : s.doSend.buffered = s.buffered := by
  unfold doSend
  split
  · rfl
  rename_i hidle
  have hidle : s.tx.writing_send_buf_ = [] := not_not.mp hidle
  have hswapped : s.tx.pending_send_buf_ ++ s.tx.writing_send_buf_ = s.buffered := by
    rw [buffered, hidle, List.append_nil, List.nil_append]
  simp only
  split
  · unfold invoke
    split <;> exact hswapped
  · exact hswapped

/-- A send puts its frame behind what waits. -/
theorem Session.buffered_queue (s : Session Id Status Pdu) (x : Sent Id Status) :
    (doSend (s.queue D x)).buffered = s.buffered ++ x.frame D := by
  rw [buffered_doSend]
  exact (List.append_assoc _ _ _).symm

/-! ### Events -/

/-- No `async_write` fails. -/
def WritesSucceed : Event D → Prop
  | .writeFailed _ => False
  | _ => True

/-- What is asked to be sent has a property, if it can be sent. -/
def Sends (P : Sent Id Status → Prop) (s : Session Id Status Pdu) : Event D → Prop
  | .call (.sendRequest pdu _) => s.state_ = .opened → (D.serializeTo [] pdu).2 = .ok () →
      P ⟨D.commandIdOf pdu, D.rok, D.nextSequenceNumber s.sequence_number_, (D.serializeTo [] pdu).1⟩
  | .call (.sendResponse pdu _ sequenceNumber commandStatus) => s.state_ = .opened →
      (D.serializeTo [] pdu).2 = .ok () →
      P ⟨D.commandIdOf pdu, commandStatus, sequenceNumber, (D.serializeTo [] pdu).1⟩
  | _ => True

namespace Session

variable {P : Sent Id Status → Prop} {s t u : Session Id Status Pdu}

/-- The send steps that lead from one session to another. -/
abbrev Transmits (D : Dialect Id Status Pdu) (P : Sent Id Status → Prop) (s t : Session Id Status Pdu) : Prop :=
  ReflTransGen (SendStep D P) s.sendSide t.sendSide

theorem transmits_of_eq (h : t.sendSide = s.sendSide) : Transmits D P s t := by
  rw [Transmits, h]

theorem transmits_of_start (h : Transmits D P t u) (hs : t.sendSide = s.sendSide) : Transmits D P s u := by
  rwa [Transmits, hs] at h

@[simp]
theorem sendSide_invoke (s : Session Id Status Pdu) (call : Callback Id Status Pdu) :
    (s.invoke call).sendSide = s.sendSide := by
  unfold invoke
  split <;> rfl

@[simp]
theorem sendSide_pauseReceiving (s : Session Id Status Pdu) : s.pauseReceiving.sendSide = s.sendSide := by
  unfold pauseReceiving
  split <;> rfl

@[simp]
theorem sendSide_resumeReceiving (s : Session Id Status Pdu) : s.resumeReceiving.sendSide = s.sendSide := by
  unfold resumeReceiving
  simp only
  split <;> rfl

@[simp]
theorem sendSide_close (s : Session Id Status Pdu) (reason : Bytes) :
    (close D s reason).sendSide = s.sendSide := by
  unfold close
  split
  · rfl
  · simp only
    split
    · exact sendSide_pauseReceiving s
    · rfl

/-- A task that is no `do_send` is done. -/
theorem sendSide_tail {task : Task Id Status Pdu} {tasks : List (Task Id Status Pdu)}
    (htasks : s.tasks = task :: tasks) (htask : task.isWrite = false) :
    ({ s with tasks := tasks } : Session Id Status Pdu).sendSide = s.sendSide := by
  rw [sendSide, sendSide, htasks, List.filter_cons_of_neg (by simp [htask])]

theorem transmits_doSend (hpending : s.tx.pending_send_buf_ ≠ []) : Transmits D P s s.doSend := by
  unfold doSend
  split
  · exact .refl
  · rename_i hwriting
    have hswap : ReflTransGen (SendStep D P) s.sendSide
        { tx := { s.tx with
            writing_send_buf_ := s.tx.pending_send_buf_
            pending_send_buf_ := s.tx.writing_send_buf_ }
          swaps := s.sendSide.swaps + 1 } := .single (.swap (not_not.mp hwriting) hpending)
    simp only
    split
    · rw [Transmits, sendSide_invoke]
      exact hswap
    · exact hswap

theorem transmits_queue (x : Sent Id Status) (hx : P x) : Transmits D P s (doSend (s.queue D x)) := by
  refine .head (SendStep.queue x hx) (transmits_of_start (transmits_doSend (s := s.queue D x) ?_) rfl)
  simp [queue, x.frame_ne_nil]

theorem transmits_sendCommand (hP : ∀ x : Sent Id Status, x.body = [] → P x) (commandId : Id)
    (sequenceNumber : UInt32) (commandStatus : Status) :
    Transmits D P s (sendCommand D s commandId sequenceNumber commandStatus) := by
  rw [sendCommand_eq]
  exact transmits_queue _ (hP _ rfl)

theorem transmits_sendNewCommand (hP : ∀ x : Sent Id Status, x.body = [] → P x) (commandId : Id) :
    Transmits D P s (sendNewCommand D s commandId) :=
  transmits_of_start (transmits_sendCommand hP _ _ _) rfl

theorem transmits_sendImpl {pdu : Pdu} {sequenceNumber : UInt32} {commandStatus : Status}
    (hP : s.state_ = .opened → (D.serializeTo [] pdu).2 = .ok () →
      P ⟨D.commandIdOf pdu, commandStatus, sequenceNumber, (D.serializeTo [] pdu).1⟩) :
    Transmits D P s (sendImpl D s pdu sequenceNumber commandStatus).1 := by
  rcases sendImpl_cases (D := D) s pdu sequenceNumber commandStatus with ⟨e, h⟩ | ⟨hopen, hok, h⟩
  · rw [h]
  · rw [h]
    exact transmits_queue _ (hP hopen hok)

theorem transmits_react (hP : ∀ x : Sent Id Status, x.body = [] → P x) (reaction : Reaction Id Status Pdu) :
    Transmits D P s (react D s reaction) := by
  cases reaction with
  | sendCommand => exact transmits_sendCommand hP _ _ _
  | startUnbinding =>
    simp only [react]
    split <;> exact .refl
  | close reason => exact transmits_of_eq (sendSide_close s reason)
  | callback => exact transmits_of_eq (sendSide_invoke _ _)

theorem swaps_dispatch (reactions : List (Reaction Id Status Pdu)) (commandLength : ℕ)
    (tasks : List (Task Id Status Pdu)) :
    (reactions.map Task.react ++ Task.consume commandLength :: tasks).filter Task.isWrite =
      tasks.filter Task.isWrite := by
  have hnone : ((reactions.map Task.react : List (Task Id Status Pdu)).filter Task.isWrite) = [] := by
    simp [List.filter_eq_nil_iff, Task.isWrite]
  rw [List.filter_append, hnone]
  rfl

theorem sendSide_doReceive (s : Session Id Status Pdu) : (doReceive D s).sendSide = s.sendSide := by
  unfold doReceive
  split
  · split
    · rfl
    · simp only [sendSide, dispatch, swaps_dispatch]
  · split
    · rfl
    · split <;> rfl

theorem transmits_internal (hP : ∀ x : Sent Id Status, x.body = [] → P x) : Transmits D P s (internal D s) := by
  unfold internal
  split
  case h_1 => exact .refl
  case h_2 => exact .refl
  case h_3 htasks => exact transmits_of_start (transmits_react hP _) (sendSide_tail htasks rfl)
  case h_4 htasks => exact transmits_of_eq ((sendSide_doReceive _).trans (sendSide_tail htasks rfl))
  case h_5 htasks =>
    exact transmits_of_start (transmits_of_eq (t := consume _ _) rfl) (sendSide_tail htasks rfl)
  case h_6 tasks htasks =>
    have hswaps : s.sendSide.swaps = (tasks.filter Task.isWrite).length + 1 := by
      rw [sendSide, htasks]
      rfl
    exact .single (.write hswaps)
  case h_7 htasks => exact transmits_of_start .refl (sendSide_tail htasks rfl)

theorem transmits_call (hP : ∀ x : Sent Id Status, x.body = [] → P x) (c : Call D)
    (hsends : Sends P s (.call c)) : Transmits D P s (call D s c) := by
  cases c with
  | start => exact transmits_of_start (transmits_of_eq (sendSide_resumeReceiving _)) rfl
  | unbind force =>
    simp only [call]
    split
    · split
      · exact .refl
      · exact transmits_of_start (transmits_sendNewCommand hP _) rfl
    · exact .refl
  | bind =>
    simp only [call]
    split <;> exact .refl
  | sendResponse => exact transmits_sendImpl hsends
  | sendRequest pdu =>
    rw [call, sendRequest_fst]
    exact transmits_of_start (transmits_sendImpl hsends) rfl
  | setSendBufThreshold size => exact .single (.threshold size)
  | pauseReceiving => exact transmits_of_eq (sendSide_pauseReceiving s)
  | resumeReceiving => exact transmits_of_eq (sendSide_resumeReceiving s)
  | assign => exact .refl

theorem transmits_written {writes : ℕ} (htasks : s.tasks = []) (hwrites : s.tx.writes = writes + 1) :
    Transmits D P s s.written := by
  have hdone : SendStep D P s.sendSide
      { s.sendSide with tx := { s.tx with writing_send_buf_ := [], writes := s.tx.writes - 1 } } := by
    have h := SendStep.written (D := D) (P := P) (t := s.sendSide) (by rw [sendSide, htasks]; rfl) hwrites
    rwa [show writes = s.tx.writes - 1 by omega] at h
  unfold written
  simp only
  split
  · rename_i hpending
    exact .head hdone (transmits_doSend
      (s := { s with tx := { s.tx with writing_send_buf_ := [], writes := s.tx.writes - 1 } }) hpending)
  · exact .single hdone

theorem transmits_inactivityTimer (s : Session Id Status Pdu) (error : Option Bytes) :
    Transmits D P s (inactivityTimer D s error) := by
  rcases inactivityTimer_cases D s error with ⟨what, hclose⟩ | hagain
  · rw [hclose]
    exact transmits_of_eq (sendSide_close s what)
  · rw [hagain]
    exact .refl

theorem transmits_enquirelinkTimer (hP : ∀ x : Sent Id Status, x.body = [] → P x) (s : Session Id Status Pdu)
    (error : Option Bytes) : Transmits D P s (enquirelinkTimer D s error) := by
  rcases enquirelinkTimer_cases D s error with ⟨what, hclose⟩ | ⟨s', rfl, hsend | hagain⟩
  · rw [hclose]
    exact transmits_of_eq (sendSide_close s what)
  · rw [hsend]
    exact transmits_of_start (transmits_sendNewCommand hP _) rfl
  · rw [hagain]
    exact .refl

/-- **What an event does to the sending side**, when commands have the property, and PDUs that
are asked to be sent. -/
theorem sendSide_step (hP : ∀ x : Sent Id Status, x.body = [] → P x) {e : Event D} (hwrites : WritesSucceed e)
    (hsends : Sends P s e) : Transmits D P s (step D s e) := by
  rcases step_takes D s e with hsame | htakes
  · rw [hsame]
  generalize step D s e = t at htakes ⊢
  cases htakes with
  | internal => exact transmits_internal hP
  | call c hcallable => exact transmits_call hP c hsends
  | returned htasks => exact transmits_of_eq (sendSide_tail htasks rfl)
  | received htasks hreceives hdata => exact .refl
  | receiveFailed error htasks hreceives => exact transmits_of_start (transmits_of_eq (sendSide_close _ _)) rfl
  | written htasks hcount => exact transmits_written htasks hcount
  | writeFailed error htasks hcount => exact hwrites.elim
  | inactivityTimer error htasks hwaits => exact transmits_of_start (transmits_inactivityTimer _ error) rfl
  | enquirelinkTimer error htasks hwaits => exact transmits_of_start (transmits_enquirelinkTimer hP _ error) rfl
  | closeNotified htasks hposted => exact transmits_of_eq (by rw [sendSide, sendSide, htasks]; rfl)

end Session

/-! ### What an event adds -/

namespace Session

section Adding

variable (D) in
/-- What a send of a PDU adds to what was sent: the PDU, if the session is open and every field of it can be
written. -/
def addsPdu (s : Session Id Status Pdu) (pdu : Pdu) (sequenceNumber : UInt32) (commandStatus : Status) :
    List (Sent Id Status) :=
  if s.state_ = .opened && (D.serializeTo [] pdu).2.isOk then
    [⟨D.commandIdOf pdu, commandStatus, sequenceNumber, (D.serializeTo [] pdu).1⟩]
  else []

variable (D) in
/-- What a call adds to what was sent. -/
def addsCall (s : Session Id Status Pdu) : Call D → List (Sent Id Status)
  | .unbind force =>
    if s.state_ = .opened && !force then [⟨D.unbind, D.rok, D.nextSequenceNumber s.sequence_number_, []⟩] else []
  | .sendResponse pdu _ sequenceNumber commandStatus => addsPdu D s pdu sequenceNumber commandStatus
  | .sendRequest pdu _ => addsPdu D s pdu (D.nextSequenceNumber s.sequence_number_) D.rok
  | _ => []

/-- What the consumption of a PDU adds to what was sent. -/
def addsReaction : Reaction Id Status Pdu → List (Sent Id Status)
  | .sendCommand commandId sequenceNumber commandStatus => [⟨commandId, commandStatus, sequenceNumber, []⟩]
  | _ => []

/-- What the topmost task adds to what was sent. -/
def addsInternal (s : Session Id Status Pdu) : List (Sent Id Status) :=
  match s.tasks with
  | .react reaction :: _ => addsReaction reaction
  | _ => []

variable (D) in
/-- What a wait on the enquire-link timer adds to what was sent. -/
def addsEnquirelinkTimer (s : Session Id Status Pdu) (error : Option Bytes) : List (Sent Id Status) :=
  match error with
  | some _ => []
  | none =>
    if s.enquirelink_counter_ ≥ 1 && s.state_ = .opened then
      [⟨D.enquireLink, D.rok, D.nextSequenceNumber s.sequence_number_, []⟩]
    else []

variable (D) in
/-- **What an event adds to what was sent**: the PDU of a call, if it can be sent, and the commands of an unbind,
of the consumption of a PDU and of the enquire-link timer. -/
def adds (s : Session Id Status Pdu) (e : Event D) : List (Sent Id Status) :=
  if s.fault.isSome then []
  else
    match e with
    | .internal => addsInternal s
    | .call c => if s.callable then addsCall D s c else []
    | .enquirelinkTimer error =>
      match s.tasks, s.enquirelinkWaits with
      | [], _ + 1 => addsEnquirelinkTimer D s error
      | _, _ => []
    | _ => []

variable {s t : Session Id Status Pdu}

theorem sent_sendCommand (s : Session Id Status Pdu) (commandId : Id) (sequenceNumber : UInt32)
    (commandStatus : Status) : (sendCommand D s commandId sequenceNumber commandStatus).tx.sent =
      s.tx.sent ++ [⟨commandId, commandStatus, sequenceNumber, []⟩] := by
  rw [sendCommand_eq, sent_doSend]
  rfl

theorem sent_sendImpl (s : Session Id Status Pdu) (pdu : Pdu) (sequenceNumber : UInt32) (commandStatus : Status) :
    (sendImpl D s pdu sequenceNumber commandStatus).1.tx.sent =
      s.tx.sent ++ addsPdu D s pdu sequenceNumber commandStatus := by
  unfold addsPdu
  split
  · rename_i hready
    simp only [Bool.and_eq_true, decide_eq_true_eq] at hready
    have hok : (D.serializeTo [] pdu).2 = .ok () := by
      cases hresult : (D.serializeTo [] pdu).2 with
      | ok => rfl
      | error e =>
        rw [hresult] at hready
        cases hready.2
    rw [sendImpl_of_ok hready.1 hok, sent_doSend]
    rfl
  · rename_i hnot
    rw [List.append_nil]
    rcases sendImpl_cases (D := D) s pdu sequenceNumber commandStatus with ⟨e, h⟩ | ⟨hopen, hok, -⟩
    · rw [h]
    · exact absurd (by simp [hopen, hok, Except.isOk, Except.toBool]) hnot

theorem sent_of_sendSide (h : t.sendSide = s.sendSide) : t.tx.sent = s.tx.sent ++ [] := by
  rw [List.append_nil]
  exact congrArg (fun side : SendSide Id Status => side.tx.sent) h

theorem sent_call (s : Session Id Status Pdu) (c : Call D) : (call D s c).tx.sent = s.tx.sent ++ addsCall D s c := by
  cases c with
  | start => exact sent_of_sendSide (sendSide_resumeReceiving _)
  | unbind force =>
    simp only [call, addsCall]
    by_cases hopen : s.state_ = .opened
    · cases force with
      | true => simp [hopen]
      | false =>
        rw [if_pos hopen, if_neg Bool.false_ne_true, if_pos (by simp [hopen]), sendNewCommand, sent_sendCommand]
    · simp [hopen]
  | bind =>
    simp only [call]
    split <;> exact (List.append_nil _).symm
  | sendResponse => exact sent_sendImpl s _ _ _
  | sendRequest pdu =>
    rw [call, sendRequest_fst]
    exact sent_sendImpl _ _ _ _
  | setSendBufThreshold => exact (List.append_nil _).symm
  | pauseReceiving => exact sent_of_sendSide (sendSide_pauseReceiving s)
  | resumeReceiving => exact sent_of_sendSide (sendSide_resumeReceiving s)
  | assign => exact (List.append_nil _).symm

theorem sent_react (s : Session Id Status Pdu) (reaction : Reaction Id Status Pdu) :
    (react D s reaction).tx.sent = s.tx.sent ++ addsReaction reaction := by
  cases reaction with
  | sendCommand => exact sent_sendCommand _ _ _ _
  | startUnbinding =>
    simp only [react]
    split <;> exact (List.append_nil _).symm
  | close reason => exact sent_of_sendSide (sendSide_close s reason)
  | callback call => exact sent_of_sendSide (sendSide_invoke s call)

theorem sent_internal (s : Session Id Status Pdu) :
    (internal D s).tx.sent = s.tx.sent ++ addsInternal s := by
  unfold internal addsInternal
  cases htasks : s.tasks with
  | nil => exact (List.append_nil _).symm
  | cons task tasks =>
    cases task with
    | react reaction => exact sent_react { s with tasks := tasks } reaction
    | receive => exact sent_of_sendSide ((sendSide_doReceive _).trans (sendSide_tail htasks rfl))
    | _ => exact (List.append_nil _).symm

theorem sent_written (s : Session Id Status Pdu) : s.written.tx.sent = s.tx.sent := by
  unfold written
  simp only
  split
  · exact sent_doSend _
  · rfl

theorem sent_enquirelinkTimer (s : Session Id Status Pdu) (error : Option Bytes) :
    (enquirelinkTimer D s error).tx.sent = s.tx.sent ++ addsEnquirelinkTimer D s error := by
  cases error with
  | some error => exact sent_of_sendSide (sendSide_close s error)
  | none =>
    simp only [enquirelinkTimer, addsEnquirelinkTimer]
    split
    · rw [sendNewCommand, sent_sendCommand]
    · exact (List.append_nil _).symm

/-- **An event adds to what was sent** what it is to add, and nothing else. -/
theorem sent_step_adds (s : Session Id Status Pdu) (e : Event D) :
    (step D s e).tx.sent = s.tx.sent ++ adds D s e := by
  unfold step adds
  split
  · exact (List.append_nil _).symm
  · cases e with
    | internal => exact sent_internal s
    | call c =>
      simp only [handle]
      split
      · exact sent_call s c
      · exact (List.append_nil _).symm
    | enquirelinkTimer error =>
      cases htasks : s.tasks with
      | cons => simp [handle, htasks]
      | nil =>
        cases hwaits : s.enquirelinkWaits with
        | zero => simp [handle, htasks, hwaits]
        | succ waits =>
          simp only [handle, htasks, hwaits]
          exact sent_enquirelinkTimer { s with tasks := [], enquirelinkWaits := waits } error
    | returned =>
      simp only [handle]
      split <;> exact (List.append_nil _).symm
    | received data =>
      simp only [handle]
      split
      · split <;> exact (List.append_nil _).symm
      · exact (List.append_nil _).symm
    | receiveFailed error =>
      simp only [handle]
      split
      · exact sent_of_sendSide (sendSide_close _ error)
      · exact (List.append_nil _).symm
    | written =>
      simp only [handle]
      split
      · exact (sent_written s).trans (List.append_nil _).symm
      · exact (List.append_nil _).symm
    | writeFailed error =>
      simp only [handle]
      split
      · rename_i writes _ _
        have hclosed := sendSide_close (D := D) { s with tx := { s.tx with writes := writes } } error
        exact (congrArg (fun side : SendSide Id Status => side.tx.sent) hclosed).trans (List.append_nil _).symm
      · exact (List.append_nil _).symm
    | inactivityTimer error =>
      simp only [handle]
      split
      · rename_i waits _ _
        rcases inactivityTimer_cases D { s with inactivityWaits := waits } error with ⟨what, hclose⟩ | hagain
        · rw [hclose]
          exact sent_of_sendSide (sendSide_close _ what)
        · rw [hagain]
          exact (List.append_nil _).symm
      · exact (List.append_nil _).symm
    | closeNotified =>
      simp only [handle]
      split <;> exact (List.append_nil _).symm

end Adding

end Session

/-! ### The byte stream -/

/-- What has been handed to `async_write`, swapped and is pending are the frames of what was sent; nothing is
swapped while something is being written, whether or not it can be. -/
structure Transmitted (D : Dialect Id Status Pdu) (P : Sent Id Status → Prop) (t : SendSide Id Status) : Prop where
  bytes : t.tx.handed ++ (if t.swaps = 0 then [] else t.tx.writing_send_buf_) ++ t.tx.pending_send_buf_ =
    (t.tx.sent.map (Sent.frame D)).flatten
  writing : t.tx.writes + t.swaps ≤ if t.tx.writing_send_buf_ = [] then 0 else 1
  sent : ∀ x ∈ t.tx.sent, P x

/-- **The sending side** of a session whose writes succeed: one `async_write` is outstanding or about to begin as
long as something is being written. -/
structure Streams (D : Dialect Id Status Pdu) (P : Sent Id Status → Prop) (t : SendSide Id Status) : Prop extends
    Transmitted D P t where
  busy : t.tx.writing_send_buf_ ≠ [] → 1 ≤ t.tx.writes + t.swaps

section Stream

variable {P : Sent Id Status → Prop} {t t' : SendSide Id Status}

theorem Transmitted.le_one (ht : Transmitted D P t) : t.tx.writes + t.swaps ≤ 1 := by
  refine Nat.le_trans ht.writing ?_
  split
  · exact Nat.zero_le 1
  · exact Nat.le_refl 1

theorem Transmitted.idle (ht : Transmitted D P t) (hempty : t.tx.writing_send_buf_ = []) :
    t.tx.writes = 0 ∧ t.swaps = 0 := by
  have hwriting := ht.writing
  rw [if_pos hempty] at hwriting
  omega

/-- What is swapped is written next. -/
theorem Transmitted.of_swaps (ht : Transmitted D P t) {swaps : ℕ} (hswaps : t.swaps = swaps + 1) :
    t.tx.writing_send_buf_ ≠ [] ∧ t.tx.writes = 0 ∧ swaps = 0 := by
  have hone := ht.le_one
  refine ⟨fun hempty => ?_, by omega, by omega⟩
  have hidle := (ht.idle hempty).2
  omega

/-- **A send step** hands over the beginning of the frames of what was sent. -/
theorem transmitted_sendStep (h : SendStep D P t t') (ht : Transmitted D P t) : Transmitted D P t' := by
  have hbytes := ht.bytes
  have hsent := ht.sent
  cases h with
  | queue x hx =>
    refine ⟨?_, ht.writing, ?_⟩
    · simp [← hbytes, List.append_assoc]
    · simpa [or_imp, forall_and] using ⟨hsent, hx⟩
  | swap hempty hpending =>
    obtain ⟨hwrites, hswaps⟩ := ht.idle hempty
    refine ⟨?_, ?_, hsent⟩
    · simp [← hbytes, hempty, hswaps]
    · simp [hwrites, hswaps, hpending]
  | @write swaps hswaps =>
    obtain ⟨hnot, hwrites, rfl⟩ := ht.of_swaps hswaps
    refine ⟨?_, ?_, hsent⟩
    · simp [← hbytes, hswaps]
    · simp [hwrites, hnot]
  | written hswaps hwrites =>
    have hone := ht.le_one
    refine ⟨?_, ?_, hsent⟩
    · simp [← hbytes, hswaps]
    · simp only [↓reduceIte]
      omega
  | threshold => exact ⟨hbytes, ht.writing, hsent⟩

theorem transmitted_sendSteps (h : ReflTransGen (SendStep D P) t t') (ht : Transmitted D P t) :
    Transmitted D P t' := by
  induction h with
  | refl => exact ht
  | tail _ hstep ih => exact transmitted_sendStep hstep ih

/-- **A send step keeps the stream.** -/
theorem streams_step (h : SendStep D P t t') (ht : Streams D P t) : Streams D P t' := by
  refine ⟨transmitted_sendStep h ht.toTransmitted, ?_⟩
  have hbusy := ht.busy
  cases h with
  | queue => exact hbusy
  | swap => exact fun _ => Nat.le_add_left _ _
  | write => exact fun _ => Nat.le_add_right_of_le (Nat.le_add_left _ _)
  | written => exact fun hnot => absurd rfl hnot
  | threshold => exact hbusy

theorem streams_steps (h : ReflTransGen (SendStep D P) t t') (ht : Streams D P t) : Streams D P t' := by
  induction h with
  | refl => exact ht
  | tail _ hstep ih => exact streams_step hstep ih

theorem Streams.writes_eq (ht : Streams D P t) :
    t.tx.writes + t.swaps = if t.tx.writing_send_buf_ = [] then 0 else 1 := by
  refine Nat.le_antisymm ht.writing ?_
  split
  · exact Nat.zero_le _
  · rename_i hnot
    exact ht.busy hnot

/-- **The stream in a run.** -/
theorem streams_run (hP : ∀ x : Sent Id Status, x.body = [] → P x) (handlers : Handler → Bool)
    {events : List (Event D)}
    (h : Along (Session.step D) (fun s e => WritesSucceed e ∧ Sends P s e) (.fresh handlers) events) :
    Streams D P (run (Session.step D) (.fresh handlers) events).sendSide :=
  h.invariant (I := fun s : Session Id Status Pdu => Streams D P s.sendSide)
    (fun _ _ hs hG => streams_steps (Session.sendSide_step hP hG.1 hG.2) hs)
    ⟨⟨rfl, Nat.le_refl 0, by simp [Session.fresh, Session.sendSide]⟩, fun hnot => absurd rfl hnot⟩

end Stream

end SmppGateway.Net
