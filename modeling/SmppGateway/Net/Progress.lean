import SmppGateway.Net.Delivery
import SmppGateway.Net.HandOver
import SmppGateway.Net.Pausing
import SmppGateway.Pinex.Session
import SmppGateway.Smpp.Session

/-!
# Progress of the two receive loops

`do_receive` of `libs/smpp/net/session.hpp` and of `libs/pinex/net/session.hpp` checks `command_length`
against what is buffered, and not against the length of the header it has just read.

## The model

A `do_receive` is looked at from the head of its loop on, in a session in any state and with any handlers,
on any buffer (`receivingOn`), for as long as a function is active: the session goes on, its handlers
call it and return.

## What is proved

* `doReceive_progress_iff` — either loop makes progress exactly on the buffers in which no header that it
  comes to announces less than its own length. The loop of a pinex session does not come to what is
  behind a PDU that closes it, since `close` pauses the receiving.
* `not_doReceive_progress` — a header of zero bytes is one that does: the span of its body ends before it
  begins and nothing is consumed. The loop of an SMPP session does not end there, nor does that of a
  pinex session at such a header of an `enquire_link_req`.
-/

namespace SmppGateway.Net

open Foundation

variable {Id Status Pdu : Type}

/-- The loop goes on behind a PDU: it does not close a session that `close` would pause. -/
def Dialect.GoesOn (D : Dialect Id Status Pdu) (state : State) (frame : Bytes) : Prop :=
  D.closePauses = true → state ≠ .closed → ∀ reason, .close reason ∉ D.reactionsTo (D.framing.pduOf frame)

/-- What closes and pauses a session is the last that is done with a PDU. -/
def Dialect.ClosesLast (D : Dialect Id Status Pdu) : Prop :=
  D.closePauses = true → ∀ pdu reason, .close reason ∈ D.reactionsTo pdu →
    ∃ before, D.reactionsTo pdu = before ++ [.close reason] ∧ ∀ reason', .close reason' ∉ before

namespace Session

/-- A session that receives, with a `do_receive` at the head of its loop. -/
def receivingOn (s : Session Id Status Pdu) (buf : ReceiveBuffer) : Session Id Status Pdu :=
  { s with
    rx := { s.rx with receiving_state_ := .receiving, receive_buf_ := buf }
    tasks := [.receive]
    fault := none }

variable (D : Dialect Id Status Pdu)

/-- Events that come while a function is active. -/
abbrev Active (s : Session Id Status Pdu) (events : List (Event D)) : Prop :=
  Along (step D) (fun t _ => t.tasks ≠ []) s events

/-- **Progress of the loop**: whatever comes while it is active, every PDU that it takes has a span in order
and inside the buffered bytes, and consumes a header's length; and there are no more of them than the
buffer has room for. -/
structure Progress (s : Session Id Status Pdu) : Prop where
  sound : ∀ events, Active D s events → ∀ t, run (step D) s events = t → t.tasks = [.receive] →
    ∀ pass, D.framing.turn t.rx.receiving_state_ t.rx.receive_buf_ = some pass →
      D.framing.Sound (t.rx.receive_buf_, pass)
  bounded : ∀ events, Active D s events → (run (step D) s events).rx.dispatched.length ≤
    s.rx.dispatched.length + s.rx.receive_buf_.size / D.framing.headerLength

/-! ### What leaves the loop alone -/

/-- A function of the session leaves the loop alone: it pushes tasks that neither receive nor react, and
changes of the receiver at most whether it is to pause. -/
structure Aside (s t : Session Id Status Pdu) : Prop where
  tasks : ∃ pushed, t.tasks = pushed ++ s.tasks ∧ ∀ task ∈ pushed, task.reaction = none ∧ task.loop = none
  buffer : t.rx.receive_buf_ = s.rx.receive_buf_
  dispatched : t.rx.dispatched = s.rx.dispatched
  paused : t.rx.receiving_state_ ≠ .paused
  closed : t.state_ = .closed ↔ s.state_ = .closed
  fault : t.fault = s.fault

section Functions

variable {D} {s t u : Session Id Status Pdu}

theorem aside_of_eq (hpaused : s.rx.receiving_state_ ≠ .paused) (htasks : t.tasks = s.tasks) (hrx : t.rx = s.rx)
    (hstate : t.state_ = .closed ↔ s.state_ = .closed) (hfault : t.fault = s.fault) : Aside s t :=
  ⟨⟨[], htasks, by simp⟩, by rw [hrx], by rw [hrx], by rwa [hrx], hstate, hfault⟩

theorem Aside.trans (h : Aside s t) (h' : Aside t u) : Aside s u := by
  obtain ⟨⟨pushed, htasks, hpushed⟩, hbuffer, hdispatched, -, hclosed, hfault⟩ := h
  obtain ⟨⟨pushed', htasks', hpushed'⟩, hbuffer', hdispatched', hpaused, hclosed', hfault'⟩ := h'
  refine ⟨⟨pushed' ++ pushed, by rw [htasks', htasks, List.append_assoc], fun task hmem => ?_⟩,
    hbuffer'.trans hbuffer, hdispatched'.trans hdispatched, hpaused, hclosed'.trans hclosed, hfault'.trans hfault⟩
  exact (List.mem_append.mp hmem).elim (hpushed' task) (hpushed task)

theorem aside_push (hpaused : s.rx.receiving_state_ ≠ .paused) {task : Task Id Status Pdu}
    (htask : task.reaction = none ∧ task.loop = none) : Aside s { s with tasks := task :: s.tasks } :=
  ⟨⟨[task], rfl, by simpa using htask⟩, rfl, rfl, hpaused, Iff.rfl, rfl⟩

theorem aside_invoke (hpaused : s.rx.receiving_state_ ≠ .paused) (call : Callback Id Status Pdu) :
    Aside s (s.invoke call) := by
  unfold invoke
  split
  · exact (aside_push hpaused ⟨rfl, rfl⟩).trans (aside_of_eq hpaused rfl rfl Iff.rfl rfl)
  · exact aside_of_eq hpaused rfl rfl Iff.rfl rfl

theorem aside_doSend (hpaused : s.rx.receiving_state_ ≠ .paused) : Aside s s.doSend := by
  unfold doSend
  split
  · exact aside_of_eq hpaused rfl rfl Iff.rfl rfl
  have hpushed : Aside s { s with
      tx := { s.tx with writing_send_buf_ := s.tx.pending_send_buf_, pending_send_buf_ := s.tx.writing_send_buf_ }
      tasks := .asyncWrite :: s.tasks } :=
    (aside_push hpaused ⟨rfl, rfl⟩).trans (aside_of_eq hpaused rfl rfl Iff.rfl rfl)
  simp only
  split
  · exact hpushed.trans (aside_invoke hpushed.paused _)
  · exact hpushed

theorem aside_queue (hpaused : s.rx.receiving_state_ ≠ .paused) (x : Sent Id Status) :
    Aside s (doSend (s.queue D x)) :=
  have hqueued : Aside s (s.queue D x) := aside_of_eq hpaused rfl rfl Iff.rfl rfl
  hqueued.trans (aside_doSend hqueued.paused)

theorem aside_sendCommand (hpaused : s.rx.receiving_state_ ≠ .paused) (commandId : Id) (sequenceNumber : UInt32)
    (commandStatus : Status) : Aside s (sendCommand D s commandId sequenceNumber commandStatus) := by
  rw [sendCommand_eq]
  exact aside_queue hpaused _

theorem aside_sendImpl (hpaused : s.rx.receiving_state_ ≠ .paused) (pdu : Pdu) (sequenceNumber : UInt32)
    (commandStatus : Status) : Aside s (sendImpl D s pdu sequenceNumber commandStatus).1 := by
  rcases sendImpl_cases (D := D) s pdu sequenceNumber commandStatus with ⟨e, h⟩ | ⟨-, -, h⟩
  · rw [h]
    exact aside_of_eq hpaused rfl rfl Iff.rfl rfl
  · rw [h]
    exact aside_queue hpaused _

theorem aside_pauseReceiving (hpaused : s.rx.receiving_state_ ≠ .paused) : Aside s s.pauseReceiving := by
  unfold pauseReceiving
  split
  · exact ⟨⟨[], rfl, by simp⟩, rfl, rfl, by simp, Iff.rfl, rfl⟩
  · exact aside_of_eq hpaused rfl rfl Iff.rfl rfl

theorem aside_resumeReceiving (hpaused : s.rx.receiving_state_ ≠ .paused) : Aside s s.resumeReceiving := by
  unfold resumeReceiving
  rw [if_neg hpaused]
  exact ⟨⟨[], rfl, by simp⟩, rfl, rfl, by simp, Iff.rfl, rfl⟩

theorem aside_unbinding (hpaused : s.rx.receiving_state_ ≠ .paused) (hopen : s.state_ = .opened) :
    Aside s { s with state_ := .unbinding } :=
  aside_of_eq hpaused rfl rfl (by simp [hopen]) rfl

/-- What the owner of a session asks of it closes no session. -/
theorem aside_call (hpaused : s.rx.receiving_state_ ≠ .paused) (c : Call D) : Aside s (call D s c) := by
  cases c with
  | start =>
    have hwaits (waits : ℕ) : Aside s { s with inactivityWaits := waits } := aside_of_eq hpaused rfl rfl Iff.rfl rfl
    exact (hwaits _).trans (aside_resumeReceiving (hwaits _).paused)
  | unbind force =>
    simp only [call]
    split
    · rename_i hopen
      have hunbinding := aside_unbinding hpaused hopen
      split
      · exact hunbinding
      · have hnumber : Aside { s with state_ := .unbinding } { s with
            state_ := .unbinding
            sequence_number_ := D.nextSequenceNumber s.sequence_number_ } :=
          aside_of_eq hpaused rfl rfl Iff.rfl rfl
        exact hunbinding.trans (hnumber.trans (aside_sendCommand hnumber.paused _ _ _))
    · exact aside_of_eq hpaused rfl rfl Iff.rfl rfl
  | bind =>
    simp only [call]
    split <;> exact aside_of_eq hpaused rfl rfl Iff.rfl rfl
  | sendResponse => exact aside_sendImpl hpaused _ _ _
  | sendRequest pdu =>
    rw [call, sendRequest_fst]
    have hnumber (number : UInt32) : Aside s { s with sequence_number_ := number } :=
      aside_of_eq hpaused rfl rfl Iff.rfl rfl
    exact (hnumber _).trans (aside_sendImpl (hnumber _).paused _ _ _)
  | setSendBufThreshold size => exact aside_of_eq hpaused rfl rfl Iff.rfl rfl
  | pauseReceiving => exact aside_pauseReceiving hpaused
  | resumeReceiving => exact aside_resumeReceiving hpaused
  | assign => exact aside_of_eq hpaused rfl rfl Iff.rfl rfl

end Functions

/-! ### A loop over headers that announce enough -/

/-- What is left to do with a PDU: the loop goes on behind it, or the last of it closes and pauses the session. -/
inductive Consuming (state : State) (left : List (Task Id Status Pdu)) (rest : Bytes) : Prop where
  /-- The loop goes on. -/
  | goesOn (hstays : D.closePauses = true → state ≠ .closed → ∀ reason, .react (.close reason) ∉ left)
      (hlong : ¬ D.framing.ShortHeader (D.GoesOn state) rest) : Consuming state left rest
  /-- It does not. -/
  | closes (hpauses : D.closePauses = true) (hopen : state ≠ .closed) {before : List (Task Id Status Pdu)}
      {reason : Bytes} (hleft : left = before ++ [.react (.close reason)])
      (hbefore : ∀ reason', .react (.close reason') ∉ before) : Consuming state left rest

/-- Where an active `do_receive` is, and what it has done so far: with each header's length that it has
consumed, what is behind is no longer than the buffer was. -/
inductive Phase (total : ℕ) (t : Session Id Status Pdu) : Prop where
  /-- It has ended. -/
  | ended (htasks : t.tasks = []) (hcount : t.rx.dispatched.length * D.framing.headerLength ≤ total) : Phase total t
  /-- It is at the head of its loop. -/
  | head (htasks : t.tasks = [.receive]) (hstate : t.rx.receiving_state_ ≠ .paused)
      (hlong : t.rx.receiving_state_ = .receiving →
        ¬ D.framing.ShortHeader (D.GoesOn t.state_) t.rx.receive_buf_.contents)
      (hcount : t.rx.dispatched.length * D.framing.headerLength + t.rx.receive_buf_.contents.length ≤ total) :
      Phase total t
  /-- A PDU is being consumed. -/
  | pdu {left : List (Task Id Status Pdu)} {commandLength : ℕ} (htasks : t.tasks = left ++ [.consume commandLength])
      (hleft : ∀ task ∈ left, task.loop = none) (hstate : t.rx.receiving_state_ ≠ .paused)
      (hconsuming : Consuming D t.state_ left (t.rx.receive_buf_.contents.drop commandLength))
      (hcount : t.rx.dispatched.length * D.framing.headerLength +
        (t.rx.receive_buf_.contents.drop commandLength).length ≤ total) : Phase total t
  /-- A PDU has paused the session. -/
  | pausing {commandLength : ℕ} (htasks : t.tasks = [.consume commandLength])
      (hstate : t.rx.receiving_state_ = .pendingPause)
      (hcount : t.rx.dispatched.length * D.framing.headerLength +
        (t.rx.receive_buf_.contents.drop commandLength).length ≤ total) : Phase total t

section Steps

variable {D} {s t u : Session Id Status Pdu} {state state' : State} {left : List (Task Id Status Pdu)}
  {rest : Bytes} {total : ℕ}

theorem goesOn_congr (h : state' = .closed ↔ state = .closed) :
    D.GoesOn state' = D.GoesOn state := by
  funext frame
  simp only [Dialect.GoesOn, ne_eq, h]

/-- Where `close` does not pause, the loop goes on behind every PDU. -/
theorem goesOn_of_not_pauses (hD : D.closePauses = false) (state : State) :
    D.GoesOn state = fun _ => True := by
  funext frame
  simp [Dialect.GoesOn, hD]

theorem Consuming.pop {task : Task Id Status Pdu} (htask : ∀ reason, task ≠ .react (.close reason))
    (h : Consuming D state (task :: left) rest) : Consuming D state left rest := by
  cases h with
  | goesOn hstays hlong =>
    exact .goesOn (fun hpauses hopen reason hmem => hstays hpauses hopen reason (List.mem_cons_of_mem _ hmem)) hlong
  | @closes hpauses hopen before reason hleft hbefore =>
    cases before with
    | nil => exact absurd (List.cons.inj hleft).1 (htask reason)
    | cons first before =>
      refine .closes hpauses hopen (List.cons.inj hleft).2 fun reason' hmem => ?_
      exact hbefore reason' (List.mem_cons_of_mem _ hmem)

theorem Consuming.push {pushed : List (Task Id Status Pdu)} (hclosed : state' = .closed ↔ state = .closed)
    (hpushed : ∀ task ∈ pushed, task.reaction = none) (h : Consuming D state left rest) :
    Consuming D state' (pushed ++ left) rest := by
  have hnone {before : List (Task Id Status Pdu)} {reason : Bytes}
      (hbefore : .react (.close reason) ∉ before) : .react (.close reason) ∉ pushed ++ before := fun hmem => by
    rcases List.mem_append.mp hmem with hmem | hmem
    · exact absurd (hpushed _ hmem) (by simp [Task.reaction])
    · exact hbefore hmem
  cases h with
  | goesOn hstays hlong =>
    refine .goesOn (fun hpauses hopen reason => hnone (hstays hpauses (mt hclosed.mpr hopen) reason)) ?_
    rwa [goesOn_congr hclosed]
  | @closes hpauses hopen before reason hleft hbefore =>
    refine .closes hpauses (mt hclosed.mp hopen) (by rw [hleft, List.append_assoc]) fun reason' => ?_
    exact hnone (hbefore reason')

/-- A function that leaves the loop alone, on top of what is left to do with a PDU. -/
theorem phase_aside {commandLength : ℕ} (htasks : t.tasks = left ++ [.consume commandLength])
    (hleft : ∀ task ∈ left, task.loop = none)
    (hconsuming : Consuming D t.state_ left (t.rx.receive_buf_.contents.drop commandLength))
    (hcount : t.rx.dispatched.length * D.framing.headerLength +
      (t.rx.receive_buf_.contents.drop commandLength).length ≤ total) (h : Aside t u) : Phase D total u := by
  obtain ⟨⟨pushed, hpushes, hpushed⟩, hbuffer, hdispatched, hpaused, hclosed, -⟩ := h
  rw [htasks, ← List.append_assoc] at hpushes
  rw [← hbuffer] at hconsuming
  rw [← hbuffer, ← hdispatched] at hcount
  refine .pdu hpushes (fun task hmem => ?_) hpaused ?_ hcount
  · exact (List.mem_append.mp hmem).elim (fun hmem => (hpushed task hmem).2) (hleft task)
  · exact hconsuming.push hclosed fun task hmem => (hpushed task hmem).1

/-- A PDU that the loop takes announces enough, and what is left to do with it is all that is done with one. -/
theorem phase_doReceive (hD : D.ClosesLast) (hstate : t.rx.receiving_state_ ≠ .paused)
    (hlong : t.rx.receiving_state_ = .receiving →
      ¬ D.framing.ShortHeader (D.GoesOn t.state_) t.rx.receive_buf_.contents)
    (hcount : t.rx.dispatched.length * D.framing.headerLength + t.rx.receive_buf_.contents.length ≤ total) :
    Phase D total (doReceive D { t with tasks := [] }) := by
  have hle : t.rx.dispatched.length * D.framing.headerLength ≤ total := Nat.le_trans (Nat.le_add_right _ _) hcount
  unfold doReceive
  simp only
  split
  case h_1 pass hturn =>
    split
    · exact .ended rfl hle
    obtain ⟨hreceiving, hlen, hwhole, hpass⟩ := Framing.turn_some hturn
    have hlong := hlong hreceiving
    rw [← FlatBuffer.length_contents] at hlen hwhole
    have hannounced : D.framing.headerLength ≤ D.framing.announced t.rx.receive_buf_.contents := by
      by_contra hshort
      exact hlong (.here hlen (Nat.not_le.mp hshort))
    have hpdu := turn_pduOf hturn hannounced
    have hcommand : pass.header.commandLength.toNat = D.framing.announced t.rx.receive_buf_.contents := by
      rw [hpass]
      rfl
    generalize hframe : t.rx.receive_buf_.contents.take (D.framing.announced t.rx.receive_buf_.contents) = frame
      at hpdu
    have htaken : (dispatch D { t with tasks := [] } pass.header
        (span t.rx.receive_buf_.buf_ pass.first pass.last)).tasks =
          (D.reactionsTo (D.framing.pduOf frame)).map .react ++
            [.consume (D.framing.announced t.rx.receive_buf_.contents)] := by
      rw [dispatch, hpdu, hcommand]
    refine .pdu htaken ?_ hstate ?_ ?_
    · intro task hmem
      obtain ⟨reaction, -, rfl⟩ := List.mem_map.mp hmem
      rfl
    · by_cases hgoes : D.GoesOn t.state_ frame
      · refine .goesOn (fun hpauses hopen reason hmem => ?_) fun hshort => ?_
        · obtain ⟨reaction, hreaction, heq⟩ := List.mem_map.mp hmem
          cases heq
          exact hgoes hpauses hopen reason hreaction
        · exact hlong (.later hlen hannounced hwhole (hframe ▸ hgoes) hshort)
      · simp only [Dialect.GoesOn, not_forall, not_not] at hgoes
        obtain ⟨hpauses, hopen, reason, hreaction⟩ := hgoes
        obtain ⟨before, heq, hbefore⟩ := hD hpauses _ _ hreaction
        have hlast : (D.reactionsTo (D.framing.pduOf frame)).map Task.react =
            before.map .react ++ [.react (.close reason)] := by rw [heq, List.map_append]; rfl
        refine .closes hpauses hopen hlast fun reason' hmem => ?_
        obtain ⟨reaction, hmem, heq⟩ := List.mem_map.mp hmem
        cases heq
        exact hbefore reason' hmem
    · simp only [dispatch, List.length_append, List.length_singleton, List.length_drop, Nat.add_mul, Nat.one_mul]
      omega
  case h_2 =>
    split
    · exact .ended rfl hle
    · split <;> exact .ended rfl hle

/-- A session is closed in the middle of a PDU. -/
theorem phase_close {commandLength : ℕ} {reason : Bytes}
    (htasks : t.tasks = .react (.close reason) :: (left ++ [.consume commandLength]))
    (hleft : ∀ task ∈ left, task.loop = none) (hstate : t.rx.receiving_state_ ≠ .paused)
    (hconsuming : Consuming D t.state_ (.react (.close reason) :: left) (t.rx.receive_buf_.contents.drop commandLength))
    (hcount : t.rx.dispatched.length * D.framing.headerLength +
      (t.rx.receive_buf_.contents.drop commandLength).length ≤ total) :
    Phase D total (close D { t with tasks := left ++ [.consume commandLength] } reason) := by
  unfold close
  cases hconsuming with
  | goesOn hstays hlong =>
    have hrest (hpauses : D.closePauses = true) (hopen : t.state_ ≠ .closed) (reason : Bytes) :
        .react (.close reason) ∉ left :=
      fun hmem => hstays hpauses hopen reason (List.mem_cons_of_mem _ hmem)
    split
    · exact .pdu rfl hleft hstate (.goesOn hrest hlong) hcount
    · rename_i hopen
      have hpauses : D.closePauses = false := by
        by_contra hpauses
        exact hstays (by simpa using hpauses) hopen reason List.mem_cons_self
      rw [goesOn_of_not_pauses hpauses] at hlong
      rw [hpauses]
      refine .pdu rfl hleft hstate (.goesOn (fun h => ?_) ?_) hcount
      · rw [hpauses] at h
        cases h
      · rwa [goesOn_of_not_pauses hpauses]
  | @closes hpauses hopen before reason' hlast hbefore =>
    cases before with
    | nil =>
      obtain rfl : left = [] := (List.cons.inj hlast).2
      rw [if_neg hopen, hpauses]
      simp only [↓reduceIte, pauseReceiving]
      split
      · exact .pausing rfl rfl hcount
      · rename_i hnot
        refine .pausing rfl ?_ hcount
        cases hs : t.rx.receiving_state_ with
        | receiving => exact absurd hs hnot
        | pendingPause => rfl
        | paused => exact absurd hs hstate
    | cons first before =>
      obtain rfl : _ = first := (List.cons.inj hlast).1
      exact absurd List.mem_cons_self (hbefore reason)

/-- The topmost task goes on in the middle of a PDU. -/
theorem phase_internal_pdu {task : Task Id Status Pdu} {commandLength : ℕ}
    (htasks : t.tasks = task :: (left ++ [.consume commandLength]))
    (hleft : ∀ x ∈ task :: left, x.loop = none) (hstate : t.rx.receiving_state_ ≠ .paused)
    (hconsuming : Consuming D t.state_ (task :: left) (t.rx.receive_buf_.contents.drop commandLength))
    (hcount : t.rx.dispatched.length * D.framing.headerLength +
      (t.rx.receive_buf_.contents.drop commandLength).length ≤ total) : Phase D total (internal D t) := by
  obtain ⟨htask, hrest⟩ := List.forall_mem_cons.mp hleft
  have hpop (hother : ∀ reason, task ≠ .react (.close reason)) {u : Session Id Status Pdu}
      (h : Aside { t with tasks := left ++ [.consume commandLength] } u) : Phase D total u :=
    phase_aside (t := { t with tasks := left ++ [.consume commandLength] }) rfl hrest (hconsuming.pop hother) hcount h
  unfold internal
  rw [htasks]
  cases task with
  | user => exact .pdu htasks hleft hstate hconsuming hcount
  | receive => cases htask
  | consume => cases htask
  | asyncWrite => exact hpop (by simp) (aside_of_eq hstate rfl rfl Iff.rfl rfl)
  | release => exact hpop (by simp) (aside_of_eq hstate rfl rfl Iff.rfl rfl)
  | react reaction =>
    cases reaction with
    | sendCommand commandId sequenceNumber commandStatus =>
      have hsent := aside_sendCommand (D := D) (s := { t with tasks := left ++ [.consume commandLength] }) hstate
        commandId sequenceNumber commandStatus
      exact hpop (by simp) hsent
    | startUnbinding =>
      refine hpop (by simp) ?_
      simp only [react]
      split
      · rename_i hopen
        exact aside_unbinding hstate hopen
      · exact aside_of_eq hstate rfl rfl Iff.rfl rfl
    | close reason => exact phase_close htasks hrest hstate hconsuming hcount
    | callback call =>
      have hcalled := aside_invoke (s := { t with tasks := left ++ [.consume commandLength] }) hstate call
      exact hpop (by simp) hcalled

theorem phase_internal (hD : D.ClosesLast) (h : Phase D total t) : Phase D total (internal D t) := by
  cases h with
  | ended htasks hcount =>
    simp only [internal, htasks]
    exact .ended htasks hcount
  | head htasks hstate hlong hcount =>
    simp only [internal, htasks]
    exact phase_doReceive hD hstate hlong hcount
  | @pdu left commandLength htasks hleft hstate hconsuming hcount =>
    cases left with
    | nil =>
      simp only [internal, htasks, List.nil_append]
      cases hconsuming with
      | goesOn hstays hlong =>
        refine .head rfl hstate (fun _ => ?_) ?_
        · simpa only [consume, FlatBuffer.contents_consume] using hlong
        · simpa only [consume, FlatBuffer.contents_consume] using hcount
      | closes hpauses hopen hlast hbefore => simp at hlast
    | cons task left => exact phase_internal_pdu htasks hleft hstate hconsuming hcount
  | pausing htasks hstate hcount =>
    simp only [internal, htasks]
    refine .head rfl (by simp [consume, hstate]) (fun hreceiving => ?_) ?_
    · have hpending : t.rx.receiving_state_ = .receiving := hreceiving
      rw [hstate] at hpending
      cases hpending
    · simpa only [consume, FlatBuffer.contents_consume] using hcount

/-- **An event of an active `do_receive`** leaves it in one of its phases. -/
theorem phase_step (hD : D.ClosesLast) (h : Phase D total t) (hactive : t.tasks ≠ []) (e : Event D) :
    Phase D total (step D t e) := by
  rcases step_takes D t e with hsame | htakes
  · rwa [hsame]
  generalize step D t e = u at htakes ⊢
  cases htakes with
  | internal => exact phase_internal hD h
  | call c hcallable =>
    cases h with
    | ended htasks => exact absurd htasks hactive
    | head htasks =>
      rw [callable, htasks] at hcallable
      cases hcallable
    | pausing htasks =>
      rw [callable, htasks] at hcallable
      cases hcallable
    | pdu htasks hleft hstate hconsuming hcount =>
      exact phase_aside htasks hleft hconsuming hcount (aside_call hstate c)
  | @returned tasks huser =>
    cases h with
    | ended htasks => exact absurd htasks hactive
    | head htasks =>
      rw [htasks] at huser
      cases huser
    | pausing htasks =>
      rw [htasks] at huser
      cases huser
    | @pdu left commandLength htasks hleft hstate hconsuming hcount =>
      rw [htasks] at huser
      cases left with
      | nil => cases huser
      | cons task left =>
        obtain ⟨rfl, rfl⟩ := List.cons.inj huser
        exact .pdu rfl (List.forall_mem_cons.mp hleft).2 hstate (hconsuming.pop (by simp)) hcount
  | received htasks => exact absurd htasks hactive
  | receiveFailed _ htasks => exact absurd htasks hactive
  | written htasks => exact absurd htasks hactive
  | writeFailed _ htasks => exact absurd htasks hactive
  | inactivityTimer _ htasks => exact absurd htasks hactive
  | enquirelinkTimer _ htasks => exact absurd htasks hactive
  | closeNotified htasks => exact absurd htasks hactive

/-- Enough announced everywhere: the loop makes progress. -/
theorem progress_of_long (hD : D.ClosesLast) {buf : ReceiveBuffer}
    (hlong : ¬ D.framing.ShortHeader (D.GoesOn s.state_) buf.contents) : Progress D (s.receivingOn buf) := by
  have hphase {events : List (Event D)} (h : Active D (s.receivingOn buf) events) :
      Phase D (s.rx.dispatched.length * D.framing.headerLength + buf.size)
        (run (step D) (s.receivingOn buf) events) :=
    h.invariant (fun t e ht hactive => phase_step hD ht hactive e)
      (.head rfl (by simp [receivingOn]) (fun _ => hlong) (by simp [receivingOn]))
  refine ⟨fun events h t ht htasks pass hturn => ?_, fun events h => ?_⟩
  · have ht := ht ▸ hphase h
    obtain ⟨hreceiving, hlen, -⟩ := Framing.turn_some hturn
    rw [Framing.sound_iff hturn]
    cases ht with
    | ended hnone =>
      rw [htasks] at hnone
      cases hnone
    | head _ _ hlong =>
      by_contra hshort
      exact hlong hreceiving (.here (by rwa [FlatBuffer.length_contents]) (Nat.not_le.mp hshort))
    | @pdu left _ hpdu =>
      rw [htasks] at hpdu
      cases left <;> simp at hpdu
    | pausing hpausing =>
      rw [htasks] at hpausing
      cases hpausing
  · have hcount : (run (step D) (s.receivingOn buf) events).rx.dispatched.length * D.framing.headerLength ≤
        s.rx.dispatched.length * D.framing.headerLength + buf.size := by
      cases hphase h with
      | ended _ hcount => exact hcount
      | head _ _ _ hcount => exact Nat.le_trans (Nat.le_add_right _ _) hcount
      | pdu _ _ _ _ hcount => exact Nat.le_trans (Nat.le_add_right _ _) hcount
      | pausing _ _ hcount => exact Nat.le_trans (Nat.le_add_right _ _) hcount
    have hpos := D.framing.headerLength_pos
    show _ ≤ s.rx.dispatched.length + buf.size / D.framing.headerLength
    generalize hsize : buf.size = size at hcount ⊢
    have hsplit : s.rx.dispatched.length + size / D.framing.headerLength =
        (size + D.framing.headerLength * s.rx.dispatched.length) / D.framing.headerLength := by
      rw [Nat.add_mul_div_left _ _ hpos, Nat.add_comm]
    rw [hsplit, Nat.le_div_iff_mul_le hpos, Nat.mul_comm D.framing.headerLength]
    omega

end Steps

/-! ### A loop that comes to a short header -/

/-- A loop that receives is at its head. -/
structure AtHead (s : Session Id Status Pdu) : Prop where
  tasks : s.tasks = [.receive]
  receiving : s.rx.receiving_state_ = .receiving
  fault : s.fault = none

/-- Events of an active function that lead from one session to another. -/
def Leads (s t : Session Id Status Pdu) : Prop := ∃ events, Active D s events ∧ run (step D) s events = t

/-- The receiver is left as it is, and so is what `close` looks at before it pauses it. -/
structure Undisturbed (s t : Session Id Status Pdu) : Prop where
  rx : t.rx = s.rx
  closed : D.closePauses = true → (t.state_ = .closed ↔ s.state_ = .closed)
  fault : t.fault = s.fault

section Stalling

variable {D} {s t u : Session Id Status Pdu}

theorem Leads.refl (s : Session Id Status Pdu) : Leads D s s := ⟨[], trivial, rfl⟩

theorem Leads.trans (h : Leads D s t) (h' : Leads D t u) : Leads D s u := by
  obtain ⟨events, hactive, rfl⟩ := h
  obtain ⟨events', hactive', rfl⟩ := h'
  exact ⟨events ++ events', along_append.mpr ⟨hactive, hactive'⟩, run_append _ _ _ _⟩

theorem leads_step (hactive : s.tasks ≠ []) (e : Event D) : Leads D s (step D s e) :=
  ⟨[e], ⟨hactive, trivial⟩, rfl⟩

theorem Undisturbed.trans (h : Undisturbed D s t) (h' : Undisturbed D t u) : Undisturbed D s u :=
  ⟨h'.rx.trans h.rx, fun hD => (h'.closed hD).trans (h.closed hD), h'.fault.trans h.fault⟩

theorem step_of_fault_none (hfault : s.fault = none) (e : Event D) : step D s e = handle D s e := by
  simp [step, hfault]

/-- What a function has pushed ends: handlers return. -/
theorem leads_pushed {pushed rest : List (Task Id Status Pdu)}
    (hpushed : ∀ task ∈ pushed, task.reaction = none ∧ task.loop = none) (htasks : s.tasks = pushed ++ rest)
    (hfault : s.fault = none) : ∃ t, Leads D s t ∧ t.tasks = rest ∧ Undisturbed D s t := by
  induction pushed generalizing s with
  | nil => exact ⟨s, .refl s, htasks, rfl, fun _ => Iff.rfl, rfl⟩
  | cons task pushed ih =>
    obtain ⟨⟨hreaction, hloop⟩, hrest⟩ := List.forall_mem_cons.mp hpushed
    have hpop : ∃ e, (step D s e).tasks = pushed ++ rest ∧ Undisturbed D s (step D s e) := by
      simp only [step_of_fault_none hfault]
      cases task with
      | react => cases hreaction
      | receive => cases hloop
      | consume => cases hloop
      | user =>
        refine ⟨.returned, ?_⟩
        simp only [handle, htasks]
        exact ⟨rfl, rfl, fun _ => Iff.rfl, rfl⟩
      | asyncWrite =>
        refine ⟨.internal, ?_⟩
        simp only [handle, internal, htasks]
        exact ⟨rfl, rfl, fun _ => Iff.rfl, rfl⟩
      | release =>
        refine ⟨.internal, ?_⟩
        simp only [handle, internal, htasks]
        exact ⟨rfl, rfl, fun _ => Iff.rfl, rfl⟩
    obtain ⟨e, hpopped, hundisturbed⟩ := hpop
    obtain ⟨t, hleads, htasks', hundisturbed'⟩ := ih hrest hpopped (hundisturbed.fault.trans hfault)
    have hactive : s.tasks ≠ [] := by simp [htasks]
    exact ⟨t, (leads_step hactive e).trans hleads, htasks', hundisturbed.trans hundisturbed'⟩

/-- What is done with a PDU, unless it closes a session that `close` would pause. -/
theorem react_undisturbed {reaction : Reaction Id Status Pdu} (hpaused : s.rx.receiving_state_ ≠ .paused)
    (hstays : D.closePauses = true → s.state_ ≠ .closed → ∀ reason, .close reason ≠ reaction) :
    (∃ pushed, (react D s reaction).tasks = pushed ++ s.tasks ∧
      ∀ task ∈ pushed, task.reaction = none ∧ task.loop = none) ∧ Undisturbed D s (react D s reaction) := by
  have hof (h : Aside s (react D s reaction)) (hrx : (react D s reaction).rx = s.rx) :
      (∃ pushed, (react D s reaction).tasks = pushed ++ s.tasks ∧
        ∀ task ∈ pushed, task.reaction = none ∧ task.loop = none) ∧ Undisturbed D s (react D s reaction) :=
    ⟨h.tasks, hrx, fun _ => h.closed, h.fault⟩
  cases reaction with
  | sendCommand commandId sequenceNumber commandStatus =>
    exact hof (aside_sendCommand hpaused _ _ _) (rx_of_receiveSide (receiveSide_sendCommand _ _ _ _))
  | callback call => exact hof (aside_invoke hpaused _) (rx_of_receiveSide (receiveSide_invoke _ _))
  | startUnbinding =>
    unfold react at hof ⊢
    by_cases hopen : s.state_ = .opened
    · rw [if_pos hopen] at hof ⊢
      exact hof (aside_unbinding hpaused hopen) rfl
    · rw [if_neg hopen] at hof ⊢
      exact hof (aside_of_eq hpaused rfl rfl Iff.rfl rfl) rfl
  | close reason =>
    simp only [react, close]
    split
    · exact ⟨⟨[], rfl, by simp⟩, rfl, fun _ => Iff.rfl, rfl⟩
    · rename_i hopen
      have hD : D.closePauses = false := by
        by_contra hpauses
        exact hstays (by simpa using hpauses) hopen reason rfl
      rw [hD]
      refine ⟨⟨[], rfl, by simp⟩, rfl, fun h => ?_, rfl⟩
      rw [hD] at h
      cases h

/-- All that is done with a PDU. -/
theorem leads_reactions {reactions : List (Reaction Id Status Pdu)} {rest : List (Task Id Status Pdu)}
    (htasks : s.tasks = reactions.map .react ++ rest) (hfault : s.fault = none)
    (hreceiving : s.rx.receiving_state_ = .receiving)
    (hstays : D.closePauses = true → s.state_ ≠ .closed → ∀ reason, .close reason ∉ reactions) :
    ∃ t, Leads D s t ∧ t.tasks = rest ∧ Undisturbed D s t := by
  induction reactions generalizing s with
  | nil => exact ⟨s, .refl s, htasks, rfl, fun _ => Iff.rfl, rfl⟩
  | cons reaction reactions ih =>
    have hstep : step D s .internal = react D { s with tasks := reactions.map .react ++ rest } reaction := by
      rw [step_of_fault_none hfault, handle, internal, htasks]
      rfl
    obtain ⟨⟨pushed, htasks', hpushed⟩, hreacted⟩ :=
      react_undisturbed (s := { s with tasks := reactions.map .react ++ rest }) (by simp [hreceiving])
        fun hD hopen reason heq => hstays hD hopen reason (heq ▸ List.mem_cons_self)
    rw [← hstep] at htasks' hreacted
    obtain ⟨t, hdone, hleft, ht⟩ := leads_pushed hpushed htasks' (hreacted.fault.trans hfault)
    have ht : Undisturbed D s t := Undisturbed.trans ⟨hreacted.rx, hreacted.closed, hreacted.fault⟩ ht
    have hrest : D.closePauses = true → t.state_ ≠ .closed → ∀ reason, .close reason ∉ reactions :=
      fun hD hopen reason hmem => hstays hD (mt (ht.closed hD).mpr hopen) reason (List.mem_cons_of_mem _ hmem)
    obtain ⟨u, hleads, htasks, hu⟩ := ih hleft (ht.fault.trans hfault) (by rw [ht.rx, hreceiving]) hrest
    have hactive : s.tasks ≠ [] := by simp [‹s.tasks = _›]
    exact ⟨u, ((leads_step hactive .internal).trans hdone).trans hleads, htasks, ht.trans hu⟩

/-- **A pass of the loop**: handlers return at once, and the loop is at its head again. -/
theorem leads_dispatch (hs : AtHead s) {header : Header Id Status} {body : Bytes}
    (hdispatch : doReceive D { s with tasks := [] } = dispatch D { s with tasks := [] } header body)
    (hstays : D.closePauses = true → s.state_ ≠ .closed → ∀ reason, .close reason ∉ D.reactionsTo (header, body)) :
    ∃ t, Leads D s t ∧ AtHead t ∧ D.GoesOn t.state_ = D.GoesOn s.state_ ∧
      t.rx.receive_buf_.contents = s.rx.receive_buf_.contents.drop header.commandLength.toNat ∧
      t.rx.dispatched.length = s.rx.dispatched.length + 1 := by
  have hstep : step D s .internal = dispatch D { s with tasks := [] } header body := by
    rw [step_of_fault_none hs.fault, handle, internal, hs.tasks, ← hdispatch]
  have hactive : s.tasks ≠ [] := by simp [hs.tasks]
  have hfirst := leads_step (D := D) hactive .internal
  rw [hstep] at hfirst
  obtain ⟨t, hdone, htasks, ht⟩ := leads_reactions
    (s := dispatch D { s with tasks := [] } header body) rfl hs.fault hs.receiving hstays
  have hlast : step D t .internal = consume { t with tasks := [] } header.commandLength.toNat := by
    rw [step_of_fault_none (ht.fault.trans hs.fault), handle, internal, htasks]
  have hconsumed := leads_step (D := D) (s := t) (by simp [htasks]) .internal
  rw [hlast] at hconsumed
  refine ⟨_, (hfirst.trans hdone).trans hconsumed, ⟨rfl, ?_, ht.fault.trans hs.fault⟩, ?_, ?_, ?_⟩
  · exact (congrArg Receiver.receiving_state_ ht.rx).trans hs.receiving
  · funext frame
    refine propext (forall_congr' fun hD => ?_)
    have hclosed : t.state_ = .closed ↔ s.state_ = .closed := ht.closed hD
    simp only [consume, ne_eq, hclosed]
  · simp only [consume, FlatBuffer.contents_consume, ht.rx]
    rfl
  · simp only [consume, ht.rx, dispatch, List.length_append, List.length_singleton]

/-- A loop that comes to a short header takes it. -/
theorem exists_unsound {state : State} {bytes : Bytes} (h : D.framing.ShortHeader (D.GoesOn state) bytes)
    (hs : AtHead s) (hstate : D.GoesOn s.state_ = D.GoesOn state) (hcontents : s.rx.receive_buf_.contents = bytes) :
    ∃ t pass, Leads D s t ∧ AtHead t ∧ D.framing.turn .receiving t.rx.receive_buf_ = some pass ∧
      ¬ D.framing.Sound (t.rx.receive_buf_, pass) := by
  induction h generalizing s with
  | here hlen hshort =>
    subst hcontents
    rw [FlatBuffer.length_contents] at hlen
    have hturn := Framing.turn_pdu hlen (Nat.le_trans (Nat.le_of_lt hshort) hlen)
    exact ⟨s, _, .refl s, hs, hturn, fun h => Nat.not_le.mpr hshort ((Framing.sound_iff hturn).mp h)⟩
  | later hlen hannounced hwhole hgoes hrest ih =>
    subst hcontents
    rw [FlatBuffer.length_contents] at hlen hwhole
    have hturn := Framing.turn_pdu hlen hwhole
    have hpdu := turn_pduOf hturn hannounced
    have hdispatch : doReceive D { s with tasks := [] } = dispatch D { s with tasks := [] }
        (D.framing.deserializeHeader (s.rx.receive_buf_.contents.take D.framing.headerLength))
        (span s.rx.receive_buf_.buf_ (s.rx.receive_buf_.in_ + D.framing.headerLength)
          (s.rx.receive_buf_.in_ + D.framing.announced s.rx.receive_buf_.contents)) := by
      have horder : ¬ s.rx.receive_buf_.in_ + D.framing.announced s.rx.receive_buf_.contents <
          s.rx.receive_buf_.in_ + D.framing.headerLength := by omega
      simp only [doReceive, hs.receiving, hturn, horder, decide_false, Bool.false_and, Bool.false_eq_true,
        ↓reduceIte]
    rw [← hstate] at hgoes
    obtain ⟨t, hleads, ht, hsame, hcontents, -⟩ := leads_dispatch hs hdispatch
      fun hD hopen reason hmem => hgoes hD hopen reason (hpdu ▸ hmem)
    obtain ⟨u, pass, hleads', hu⟩ := ih ht (hsame.trans hstate) hcontents
    exact ⟨u, pass, hleads.trans hleads', hu⟩

/-- **The loop makes progress** exactly where it comes to no short header. -/
theorem progress_iff (hD : D.ClosesLast) (s : Session Id Status Pdu) (buf : ReceiveBuffer) :
    Progress D (s.receivingOn buf) ↔ ¬ D.framing.ShortHeader (D.GoesOn s.state_) buf.contents := by
  refine ⟨fun hprogress hshort => ?_, progress_of_long hD⟩
  obtain ⟨t, pass, ⟨events, hactive, hrun⟩, ht, hturn, hunsound⟩ :=
    exists_unsound (s := s.receivingOn buf) hshort ⟨rfl, rfl, rfl⟩ rfl rfl
  rw [← ht.receiving] at hturn
  exact hunsound (hprogress.sound events hactive t hrun ht.tasks pass hturn)

/-- A header that announces nothing and has no body to read is taken without end. -/
theorem exists_passes_of_zero {buf : ReceiveBuffer} (hlen : D.framing.headerLength ≤ buf.size)
    (hannounced : D.framing.announced buf.contents = 0) {header : Header Id Status}
    (hheader : D.framing.deserializeHeader (buf.contents.take D.framing.headerLength) = header)
    (hreads : D.readsBody header.commandId = false) (hstays : ∀ reason, .close reason ∉ D.reactionsTo (header, []))
    (s : Session Id Status Pdu) (n : ℕ) :
    ∃ t, Leads D (s.receivingOn buf) t ∧ AtHead t ∧ t.rx.receive_buf_.contents = buf.contents ∧
      t.rx.dispatched.length = s.rx.dispatched.length + n := by
  induction n with
  | zero => exact ⟨_, .refl _, ⟨rfl, rfl, rfl⟩, rfl, rfl⟩
  | succ n ih =>
    obtain ⟨t, hleads, ht, hcontents, hcount⟩ := ih
    have hsize : D.framing.headerLength ≤ t.rx.receive_buf_.size := by
      rwa [← FlatBuffer.length_contents, hcontents, FlatBuffer.length_contents]
    have hturn := Framing.turn_pdu hsize (by rw [hcontents, hannounced]; exact Nat.zero_le _)
    rw [hcontents, hheader, hannounced] at hturn
    have hempty : span t.rx.receive_buf_.buf_ (t.rx.receive_buf_.in_ + D.framing.headerLength)
        (t.rx.receive_buf_.in_ + 0) = [] := List.eq_nil_of_length_eq_zero (by simp)
    have hdispatch : doReceive D { t with tasks := [] } = dispatch D { t with tasks := [] } header [] := by
      simp only [doReceive, ht.receiving, hturn, hreads, Bool.and_false, Bool.false_eq_true, ↓reduceIte, hempty]
    obtain ⟨u, hleads', hu, -, hcontents', hcount'⟩ := leads_dispatch ht hdispatch fun _ _ => hstays
    have hlength : header.commandLength.toNat = 0 := by
      rw [← hannounced, Framing.announced, hheader]
    refine ⟨u, hleads.trans hleads', hu, ?_, by rw [hcount', hcount, Nat.add_assoc]⟩
    rw [hcontents', hlength, List.drop_zero, hcontents]

end Stalling

end Session

/-! ### The two sessions -/

open Session

theorem smpp_closesLast : Smpp.dialect.ClosesLast := fun h => by cases h

theorem pinex_closesLast : Pinex.dialect.ClosesLast := by
  have hconsumed {commandId : Pinex.CommandId} {buf : Bytes}
      {callback : Pinex.Pdu → Callback Pinex.CommandId Pinex.CommandStatus Pinex.Pdu} {result : Except Fault Pinex.Pdu}
      {reason : Bytes} (hmem : .close reason ∈ Pinex.consumed commandId buf callback result) :
      ∃ before, Pinex.consumed commandId buf callback result = before ++ [.close reason] ∧
        ∀ reason', .close reason' ∉ before := by
    cases result with
    | ok pdu => simp [Pinex.consumed] at hmem
    | error ex =>
      obtain rfl : reason = Pinex.exceptionReason := by simpa [Pinex.consumed] using hmem
      exact ⟨[.callback (.deserializationError ex commandId buf)], rfl, by simp⟩
  have hresponse (pdu : Header Pinex.CommandId Pinex.CommandStatus × Bytes) (reason : Bytes)
      (hmem : .close reason ∈
        Pinex.consumeResponsePdu pdu.1.commandId pdu.1.commandStatus pdu.1.sequenceNumber pdu.2) :
      ∃ before, Pinex.consumeResponsePdu pdu.1.commandId pdu.1.commandStatus pdu.1.sequenceNumber pdu.2 =
        before ++ [.close reason] ∧ ∀ reason', .close reason' ∉ before := by
    unfold Pinex.consumeResponsePdu at hmem ⊢
    split_ifs at hmem ⊢
    · simp at hmem
    · obtain rfl : reason = ascii "unbind_resp received" := by simpa using hmem
      exact ⟨[], rfl, by simp⟩
    all_goals exact hconsumed hmem
  have hrequest (pdu : Header Pinex.CommandId Pinex.CommandStatus × Bytes) (reason : Bytes)
      (hmem : .close reason ∈
        Pinex.consumeRequestPdu pdu.1.commandId pdu.1.commandStatus pdu.1.sequenceNumber pdu.2) :
      ∃ before, Pinex.consumeRequestPdu pdu.1.commandId pdu.1.commandStatus pdu.1.sequenceNumber pdu.2 =
        before ++ [.close reason] ∧ ∀ reason', .close reason' ∉ before := by
    unfold Pinex.consumeRequestPdu at hmem ⊢
    split_ifs at hmem ⊢
    · simp at hmem
    · simp at hmem
    all_goals exact hconsumed hmem
  intro _ pdu reason
  unfold Dialect.reactionsTo
  split
  · exact hresponse pdu reason
  · exact hrequest pdu reason

/-- **Progress**: for as long as a `do_receive` that receives is active, it gives away well-ordered spans
inside the buffered bytes, consumes a header's length at least each time and has no more passes than there
is room for, exactly when no header that it comes to announces less than its own length. -/
theorem doReceive_progress_iff (s : Session Smpp.CommandId Smpp.CommandStatus Smpp.Pdu)
    (p : Session Pinex.CommandId Pinex.CommandStatus Pinex.Pdu) (buf : ReceiveBuffer) :
    (Progress Smpp.dialect (s.receivingOn buf) ↔
      ¬ Smpp.framing.ShortHeader (fun _ => True) buf.contents) ∧
    (Progress Pinex.dialect (p.receivingOn buf) ↔
      ¬ Pinex.framing.ShortHeader (Pinex.dialect.GoesOn p.state_) buf.contents) := by
  refine ⟨?_, progress_iff pinex_closesLast p buf⟩
  have hsmpp := progress_iff smpp_closesLast s buf
  rwa [goesOn_of_not_pauses rfl] at hsmpp

/-- A buffer that holds `size` bytes, all of them zero but for the fifth. -/
def zeroLength (fifth : UInt8) (size : ℕ) (h : size ≤ 64 * 1024) : ReceiveBuffer where
  buf_ := fun i => if i = 4 then fifth else 0
  in_ := 0
  out_ := size
  last_ := 64 * 1024
  in_le_out := Nat.zero_le size
  out_le_last := h
  last_le := by decide

/-- Neither loop makes progress on a header of zero bytes. That of an SMPP session never ends on it, and that of
a pinex session never ends where the header is an `enquire_link_req`. -/
theorem not_doReceive_progress :
    (¬ ∀ (s : Session Smpp.CommandId Smpp.CommandStatus Smpp.Pdu) (buf : ReceiveBuffer),
      Progress Smpp.dialect (s.receivingOn buf)) ∧
    (¬ ∀ (p : Session Pinex.CommandId Pinex.CommandStatus Pinex.Pdu) (buf : ReceiveBuffer),
      Progress Pinex.dialect (p.receivingOn buf)) ∧
    (∀ n, ∃ t, Leads Smpp.dialect
      ((fresh fun _ => true).receivingOn (zeroLength 0 16 (by decide))) t ∧ t.rx.dispatched.length = n) ∧
    ∀ n, ∃ t, Leads Pinex.dialect
      ((fresh fun _ => true).receivingOn (zeroLength 4 10 (by decide))) t ∧ t.rx.dispatched.length = n := by
  refine ⟨fun h => ?_, fun h => ?_, fun n => ?_, fun n => ?_⟩
  · have hprogress := h (fresh fun _ => true) (zeroLength 0 16 (by decide))
    exact (progress_iff smpp_closesLast _ _).mp hprogress (.here (by decide) (by decide))
  · have hprogress := h (fresh fun _ => true) (zeroLength 0 10 (by decide))
    exact (progress_iff pinex_closesLast _ _).mp hprogress (.here (by decide) (by decide))
  · have hreactions : Smpp.dialect.reactionsTo (⟨0, 0, 0, 0⟩, []) =
        [.sendCommand Smpp.CommandId.genericNack 0 Smpp.CommandStatus.rinvcmdid,
          .callback (.deserializationError Smpp.unknownPdu 0 [])] := rfl
    have hnever : ∀ reason, .close reason ∉ Smpp.dialect.reactionsTo (⟨0, 0, 0, 0⟩, []) := by simp [hreactions]
    have hbuf : Smpp.framing.announced (zeroLength 0 16 (by decide)).contents = 0 := by decide
    obtain ⟨t, hleads, -, -, hcount⟩ := exists_passes_of_zero (D := Smpp.dialect) (by decide) hbuf rfl rfl hnever
      (fresh fun _ => true) n
    exact ⟨t, hleads, hcount.trans (Nat.zero_add n)⟩
  · have hreactions : Pinex.dialect.reactionsTo (⟨0, 4, 0, 0⟩, []) =
        [.sendCommand Pinex.CommandId.enquireLinkResp 0 Pinex.CommandStatus.rok] := rfl
    have hnever : ∀ reason, .close reason ∉ Pinex.dialect.reactionsTo (⟨0, 4, 0, 0⟩, []) := by simp [hreactions]
    have hbuf : Pinex.framing.announced (zeroLength 4 10 (by decide)).contents = 0 := by decide
    obtain ⟨t, hleads, -, -, hcount⟩ := exists_passes_of_zero (D := Pinex.dialect) (by decide) hbuf rfl rfl hnever
      (fresh fun _ => true) n
    exact ⟨t, hleads, hcount.trans (Nat.zero_add n)⟩

end SmppGateway.Net
