import SmppGateway.Net.Delivery
import SmppGateway.Net.Sending
import SmppGateway.Smpp.Session

/-!
# The byte streams of an SMPP session

## What is proved

* `dispatched_run` — what a peer's frames hold is handed over in order, however the bytes are split and
  whenever the session is paused, and all of it once it has arrived.
* `stream_run` — what is handed to `async_write`, and what is pending behind it, are the frames of what
  was sent, each with a header that says so, in every run in which every PDU sent is shorter than
  `2 ^ 32` bytes.
* `not_stream` — an `alert_notification` with all 65536 optional parameters is longer, and its header
  announces less than its length.
-/

namespace SmppGateway.Smpp

open Foundation Net

/-- A session of the gateway. -/
abbrev SmppSession := Session CommandId CommandStatus Pdu

/-- A run of a new session. -/
abbrev runOf (handlers : Handler → Bool) (events : List (Event dialect)) : SmppSession :=
  run (Session.step dialect) (.fresh handlers) events

/-! ### Receiving -/

/-- **Framing does not depend on chunking or on pausing**: of frames of 16 to `2 ^ 20 - 2 ^ 16` bytes that arrive
in any pieces, the PDUs handed over are the first ones in order; all of them when every byte has arrived, no
function is active and the session is not paused; one `async_receive` at most is outstanding, one is while
the session waits, and nothing stops it. -/
theorem dispatched_run {frames : List Bytes}
    (hframes : ∀ frame ∈ frames, framing.IsFrame frame ∧ frame.length ≤ 2 ^ 20 - 2 ^ 16)
    (handlers : Handler → Bool) (events : List (Event dialect))
    (harrived : (runOf handlers events).rx.arrived <+: frames.flatten) :
    let s := runOf handlers events
    s.rx.dispatched <+: frames.map framing.pduOf ∧
    (s.tasks = [] → s.rx.receiving_state_ ≠ .paused → s.rx.arrived = frames.flatten →
      s.rx.dispatched = frames.map framing.pduOf) ∧
    s.rx.receives.length ≤ 1 ∧
    (s.tasks = [] → s.rx.receiving_state_ ≠ .paused → s.rx.failed = false → s.rx.receives.length = 1) ∧
    s.fault = none := by
  have hfit : dialect.framing.AllFit frames := hframes
  have hs := delivers_run hfit handlers events harrived
  exact ⟨hs.dispatched_prefix hfit harrived,
    fun htasks hstate hall => hs.dispatched_eq hfit hall htasks hstate, hs.receives_le,
    fun htasks hstate hfailed => hs.receives_eq htasks hstate hfailed, hs.fault⟩

/-- An `enquire_link` with sequence number 1, in two pieces between which the session is paused and
resumed. -/
def enquireLinkInPieces : List (Event dialect) :=
  let frame := serializeHeader 16 CommandId.enquireLink 1 CommandStatus.rok
  [.call .start, .internal, .received (frame.take 10), .internal, .call .pauseReceiving, .call .resumeReceiving,
    .received (frame.drop 10), .internal, .internal, .internal, .internal, .internal]

theorem dispatched_run_enquireLink :
    let s := runOf (fun _ => true) enquireLinkInPieces
    let frames := [serializeHeader 16 CommandId.enquireLink 1 CommandStatus.rok]
    s.rx.dispatched <+: frames.map framing.pduOf ∧
    (s.tasks = [] → s.rx.receiving_state_ ≠ .paused → s.rx.arrived = frames.flatten →
      s.rx.dispatched = frames.map framing.pduOf) ∧
    s.rx.receives.length ≤ 1 ∧
    (s.tasks = [] → s.rx.receiving_state_ ≠ .paused → s.rx.failed = false → s.rx.receives.length = 1) ∧
    s.fault = none :=
  dispatched_run (by decide) (fun _ => true) enquireLinkInPieces ⟨[], by decide⟩

/-! ### Sending -/

/-- A PDU or command and its header take less than `2 ^ 32` bytes. -/
def Short (x : Sent CommandId CommandStatus) : Prop := framing.headerLength + x.body.length < 2 ^ 32

/-- What the events of a run of a new session are to send, in their order. -/
abbrev sentBy (handlers : Handler → Bool) (events : List (Event dialect)) : List (Sent CommandId CommandStatus) :=
  outputs (Session.step dialect) (Session.adds dialect) (.fresh handlers) events

/-- What the sending side of a session is to do, when it is to have sent a list of PDUs and commands. Between
events: the bytes handed to `async_write` and then `pending_send_buf_` are the frames of the list, and
`writing_send_buf_` is not empty exactly while a write is outstanding. At any time: the list is what was sent, the
header of each frame says what was sent, one write at most is outstanding, a send that succeeds adds its PDU to what
was sent, and a send that throws leaves both buffers and what was sent as they were. -/
structure StreamOk (s : SmppSession) (asked : List (Sent CommandId CommandStatus)) : Prop where
  sent : s.tx.sent = asked
  bytes : s.tasks = [] → s.tx.handed ++ s.tx.pending_send_buf_ = (asked.map (Sent.frame dialect)).flatten
  writing : s.tasks = [] → (s.tx.writing_send_buf_ ≠ [] ↔ s.tx.writes = 1)
  header : ∀ x ∈ asked, x.HeaderOk dialect
  writes : s.tx.writes ≤ 1
  succeeds : ∀ (pdu : Pdu) (sequenceNumber : UInt32) (commandStatus : CommandStatus),
    (Session.sendImpl dialect s pdu sequenceNumber commandStatus).2 = .ok () →
    (Session.sendImpl dialect s pdu sequenceNumber commandStatus).1.tx.sent = s.tx.sent ++
      [⟨pdu.1.commandIdOf pdu.2, commandStatus, sequenceNumber, (pdu.1.serializeTo [] pdu.2).1⟩]
  throws : ∀ (pdu : Pdu) (sequenceNumber : UInt32) (commandStatus : CommandStatus),
    (Session.sendImpl dialect s pdu sequenceNumber commandStatus).2 ≠ .ok () →
    (Session.sendImpl dialect s pdu sequenceNumber commandStatus).1.tx = s.tx

theorem sent_sendImpl_of_ok {s : SmppSession} {pdu : Pdu} {sequenceNumber : UInt32} {commandStatus : CommandStatus}
    (h : (Session.sendImpl dialect s pdu sequenceNumber commandStatus).2 = .ok ()) :
    (Session.sendImpl dialect s pdu sequenceNumber commandStatus).1.tx.sent = s.tx.sent ++
      [⟨pdu.1.commandIdOf pdu.2, commandStatus, sequenceNumber, (pdu.1.serializeTo [] pdu.2).1⟩] := by
  rcases Session.sendImpl_cases (D := dialect) s pdu sequenceNumber commandStatus with ⟨e, hs⟩ | ⟨-, -, hs⟩
  · rw [hs] at h
    cases h
  · rw [hs]
    exact Session.sent_doSend _

theorem tx_sendImpl_of_throws {s : SmppSession} {pdu : Pdu} {sequenceNumber : UInt32}
    {commandStatus : CommandStatus}
    (h : (Session.sendImpl dialect s pdu sequenceNumber commandStatus).2 ≠ .ok ()) :
    (Session.sendImpl dialect s pdu sequenceNumber commandStatus).1.tx = s.tx := by
  rcases Session.sendImpl_cases (D := dialect) s pdu sequenceNumber commandStatus with ⟨e, hs⟩ | ⟨-, -, hs⟩
  · rw [hs]
  · rw [hs] at h
    exact absurd rfl h

/-- What was sent is what the calls, the consumption of PDUs and the timers were to send. -/
theorem sent_runOf (handlers : Handler → Bool) (events : List (Event dialect)) :
    (runOf handlers events).tx.sent = sentBy handlers events :=
  history_run (fun s : SmppSession => s.tx.sent) Session.sent_step_adds (.fresh handlers) events

/-- **The outgoing byte stream** of a run in which no write fails and each PDU that is sent is short. -/
theorem stream_run (handlers : Handler → Bool) {events : List (Event dialect)}
    (h : Along (Session.step dialect) (fun s e => WritesSucceed e ∧ Sends Short s e) (.fresh handlers) events) :
    StreamOk (runOf handlers events) (sentBy handlers events) := by
  have hcommand : ∀ x : Sent CommandId CommandStatus, x.body = [] → Short x := fun x hx => by
    rw [Short, hx]
    decide
  have hstreams := streams_run hcommand handlers h
  have hswaps (htasks : (runOf handlers events).tasks = []) : (runOf handlers events).sendSide.swaps = 0 := by
    rw [Session.sendSide, htasks]
    rfl
  have hsent := sent_runOf handlers events
  refine ⟨hsent, fun htasks => ?_, fun htasks => ?_, fun x hx => ?_, ?_, fun _ _ _ => sent_sendImpl_of_ok,
    fun _ _ _ => tx_sendImpl_of_throws⟩
  · have hbytes := hstreams.bytes
    rw [hswaps htasks, if_pos rfl, List.append_nil] at hbytes
    rw [← hsent]
    exact hbytes
  · have hwrites := hstreams.writes_eq
    rw [hswaps htasks] at hwrites
    have hwrites : (runOf handlers events).tx.writes =
      if (runOf handlers events).tx.writing_send_buf_ = [] then 0 else 1 := hwrites
    rw [hwrites]
    split <;> simp_all
  · rw [← hsent] at hx
    exact x.headerOk_iff.mpr (hstreams.sent x hx)
  · exact Nat.le_trans (Nat.le_add_right _ _) hstreams.le_one

/-- A notification with these parameters and nothing else. -/
def notification (o : OParam) : AlertNotification := ⟨0, 0, [], 0, 0, [], o⟩

/-- A session that answers an `enquire_link`, sends a notification and unbinds, and the completion of two writes. -/
def answerAndUnbind : List (Event dialect) :=
  [.call .start, .internal, .received (serializeHeader 16 CommandId.enquireLink 7 CommandStatus.rok), .internal,
    .internal, .internal, .internal, .internal,
    .call (.sendRequest ⟨.alertNotification, notification .empty⟩ rfl), .call (.unbind false), .written,
    .internal, .written]

theorem stream_run_answerAndUnbind :
    StreamOk (runOf (fun _ => true) answerAndUnbind) (sentBy (fun _ => true) answerAndUnbind) := by
  refine stream_run (fun _ => true) ?_
  have hshort : framing.headerLength +
      (dialect.serializeTo [] ⟨.alertNotification, notification .empty⟩).1.length < 2 ^ 32 := by decide
  simp only [answerAndUnbind, Along, WritesSucceed, Sends, true_and, and_true]
  exact fun _ _ => hshort

namespace OParam

/-- Parameters under the first tags, each with the longest text there is. -/
theorem exists_full (n : ℕ) (hn : n ≤ 65536) : ∃ o : OParam, o.params.size = n ∧
    (∀ tag ∈ o.params, tag.toNat < n) ∧ ∀ e ∈ o.params.toList, e.2.length = 65535 := by
  induction n with
  | zero => exact ⟨OParam.empty, by simp [OParam.empty], by simp [OParam.empty], by simp [OParam.empty]⟩
  | succ n ih =>
    obtain ⟨o, hsize, htags, hlength⟩ := ih (by omega)
    have htag : (UInt16.ofNat n).toNat = n := by
      rw [UInt16.toNat_ofNat']
      exact Nat.mod_eq_of_lt (by omega)
    have hnew : UInt16.ofNat n ∉ o.params := fun hmem => by
      have := htags _ hmem
      omega
    refine ⟨o.emplace (UInt16.ofNat n) (List.replicate 65535 0) (by rw [List.length_replicate]; decide), ?_, ?_, ?_⟩
    · rw [OParam.emplace, Std.ExtTreeMap.size_insertIfNew, if_neg hnew, hsize]
    · intro tag hmem
      rw [OParam.emplace, Std.ExtTreeMap.mem_insertIfNew] at hmem
      rcases hmem with hcmp | hmem
      · obtain rfl : UInt16.ofNat n = tag := Std.LawfulEqCmp.eq_of_compare hcmp
        omega
      · exact Nat.lt_succ_of_lt (htags tag hmem)
    · rintro ⟨tag, val⟩ hmem
      rw [Std.ExtTreeMap.mem_toList_iff_getElem?_eq_some, OParam.emplace,
        Std.ExtTreeMap.getElem?_insertIfNew] at hmem
      split at hmem
      · obtain rfl := Option.some.inj hmem
        exact List.length_replicate
      · exact hlength (tag, val) (Std.ExtTreeMap.mem_toList_iff_getElem?_eq_some.mpr hmem)

/-- All of them take more than `2 ^ 32` bytes. -/
theorem exists_long : ∃ o : OParam, 2 ^ 32 ≤ o.wire.length := by
  obtain ⟨o, hsize, -, hlength⟩ := exists_full 65536 (Nat.le_refl _)
  refine ⟨o, ?_⟩
  have hwire (l : List (UInt16 × Bytes)) (h : ∀ e ∈ l, e.2.length = 65535) :
      (l.flatMap entryWire).length = l.length * 65539 := by
    induction l with
    | nil => rfl
    | cons e l ih =>
      have he := h e List.mem_cons_self
      rw [List.flatMap_cons, List.length_append, ih fun e he => h e (List.mem_cons_of_mem _ he), entryWire,
        List.length_append, List.length_append, length_serializeU16, length_serializeU16, he, List.length_cons]
      omega
  rw [OParam.wire, hwire _ hlength, Std.ExtTreeMap.length_toList, hsize]
  decide

end OParam

/-- It can be written. -/
theorem fits_notification (o : OParam) : AlertNotification.layout.Fits (notification o) :=
  ⟨trivial, trivial, show 0 < 65 by decide, trivial, trivial, show 0 < 65 by decide, trivial⟩

theorem length_wire_notification (o : OParam) :
    o.wire.length ≤ (AlertNotification.layout.wire (notification o)).length := by
  simp only [Layout.wire, AlertNotification.layout, Members.wire, List.length_append, smart, notification]
  omega

/-- A run of a new session in which it sends that notification. -/
def sendNotification (o : OParam) : List (Event dialect) :=
  [.call (.sendRequest ⟨.alertNotification, notification o⟩ rfl)]

/-- A notification whose parameters are too long is sent under a header that announces less. -/
theorem not_stream : ¬ ∀ (handlers : Handler → Bool) (events : List (Event dialect)),
    (∀ e ∈ events, WritesSucceed e) → StreamOk (runOf handlers events) (sentBy handlers events) := by
  intro h
  obtain ⟨o, ho⟩ := OParam.exists_long
  have hok := h (fun _ => false) (sendNotification o) (by simp [sendNotification, WritesSucceed])
  have hbody : dialect.serializeTo [] ⟨.alertNotification, notification o⟩ =
      (AlertNotification.layout.wire (notification o), .ok ()) :=
    Layout.serializeTo_of_fits (fits_notification o)
  have hrun : (runOf (fun _ => false) (sendNotification o)).tx.sent =
      [⟨CommandId.alertNotification, CommandStatus.rok, 1, AlertNotification.layout.wire (notification o)⟩] := by
    show (Session.sendRequest dialect (.fresh _) ⟨.alertNotification, notification o⟩).1.tx.sent = _
    rw [Session.sendRequest_fst, Session.sendImpl_of_ok rfl (congrArg Prod.snd hbody), Session.sent_doSend, hbody]
    rfl
  rw [hok.sent] at hrun
  have hheader := hok.header _ (hrun ▸ List.mem_singleton_self _)
  rw [Sent.headerOk_iff] at hheader
  have hlong := length_wire_notification o
  simp only at hheader
  omega

end SmppGateway.Smpp
