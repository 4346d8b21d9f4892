import SmppGateway.Net.Link
import SmppGateway.Pinex.Session

/-!
# The exchange of pinex messages

The session of a `p_client` and that of the server it is bound to. Unlike SMPP, pinex has no command of its own that
would look like an answer to the other side.

## What is proved

* `conveys_dialect` — every message, and every bind that is a `bi_direction` and whose name has no zero byte, is read as
  it was written.
* `messages_run` — over every run of two sessions and the connection between them, the handlers of each side are called
  with what the other was asked to send, in order and once.
-/

namespace SmppGateway.Pinex

open Foundation Net

/-- A message, or a bind that can be read as it was written. -/
def Readable : Pdu → Prop
  | .bindRequest bind | .bindResponse bind => bind.bindType = .biDirection ∧ 0 ∉ bind.systemId
  | .streamRequest _ | .streamResponse _ => True

instance (pdu : Pdu) : Decidable (Readable pdu) := by
  cases pdu <;> unfold Readable <;> infer_instance

/-! ### The PDUs -/

theorem deserialize_bind {bind : Bind} (hreadable : bind.bindType = .biDirection ∧ 0 ∉ bind.systemId)
    (hok : (Bind.layout.serializeTo [] bind).2 = .ok ()) :
    Bind.layout.deserialize (Bind.layout.serializeTo [] bind).1 .biDirection = .ok bind := by
  have hfits := Layout.fits_of_serializeTo hok
  have hwire : (Bind.layout.serializeTo [] bind).1 = _ := congrArg Prod.fst (Layout.serializeTo_of_fits hfits)
  have hclean : ∀ s ∈ Bind.layout.terminated bind, 0 ∉ s := by
    intro s hs
    rw [show Bind.layout.terminated bind = [bind.systemId] from rfl, List.mem_singleton] at hs
    exact hs ▸ hreadable.2
  rw [hwire, List.nil_append, ← hreadable.1]
  exact Layout.deserialize_wire hfits hclean

theorem serializeTo_bind_ne_nil {bind : Bind} (hok : (Bind.layout.serializeTo [] bind).2 = .ok ()) :
    (Bind.layout.serializeTo [] bind).1 ≠ [] := by
  have hfits := Layout.fits_of_serializeTo hok
  have hwire : (Bind.layout.serializeTo [] bind).1 = _ := congrArg Prod.fst (Layout.serializeTo_of_fits hfits)
  rw [hwire]
  exact List.append_ne_nil_of_right_ne_nil _ (by simp [Layout.wire, Bind.layout, Members.wire, Smpp.cOctetStr])

section Consume

variable {bind : Bind} {body : Bytes} (commandStatus : CommandStatus) (sequenceNumber : UInt32)

/-- A PDU that is read leads to one call. -/
theorem consumeRequestPdu_bind (hread : Bind.layout.deserialize body .biDirection = .ok bind) :
    consumeRequestPdu CommandId.bindReq commandStatus sequenceNumber body =
      [.callback (.request (.bindRequest bind) sequenceNumber)] := by
  simp only [consumeRequestPdu, hread]
  rfl

theorem consumeResponsePdu_bind (hbody : body ≠ [])
    (hread : Bind.layout.deserialize body .biDirection = .ok bind) :
    consumeResponsePdu CommandId.bindResp commandStatus sequenceNumber body =
      [.callback (.response (.bindResponse bind) sequenceNumber commandStatus)] := by
  have homitted : deserializeOmitted Bind.layout ⟨.biDirection, []⟩ body .biDirection = .ok bind := by
    rw [deserializeOmitted, if_neg (by simpa using hbody)]
    exact hread
  simp only [consumeResponsePdu, homitted]
  rfl

/-- An empty body is the message that an omitted one stands for. -/
theorem consumeResponsePdu_stream (stream : Stream) :
    consumeResponsePdu CommandId.streamResp commandStatus sequenceNumber (Stream.layout.serializeTo [] stream).1 =
      [.callback (.response (.streamResponse stream) sequenceNumber commandStatus)] := by
  obtain ⟨messageBody⟩ := stream
  cases messageBody with
  | nil => rfl
  | cons => rfl

end Consume

/-- The commands that answer a PDU. -/
theorem sendCommand_mem_reactionsTo {pdu : Header CommandId CommandStatus × Bytes} {commandId : CommandId}
    {sequenceNumber : UInt32} {commandStatus : CommandStatus}
    (h : .sendCommand commandId sequenceNumber commandStatus ∈ dialect.reactionsTo pdu) :
    commandId = CommandId.enquireLinkResp ∨ commandId = CommandId.unbindResp := by
  have hconsumed {id : CommandId} {buf : Bytes} {callback : Pdu → Callback CommandId CommandStatus Pdu}
      {result : Except Fault Pdu} :
      .sendCommand commandId sequenceNumber commandStatus ∉ consumed id buf callback result := by
    cases result <;> simp [consumed]
  unfold Dialect.reactionsTo at h
  split at h
  · change _ ∈ consumeResponsePdu _ _ _ _ at h
    simp only [consumeResponsePdu] at h
    split at h
    · cases h
    split at h
    · simp at h
    split at h
    · exact absurd h hconsumed
    split at h
    · exact absurd h hconsumed
    · exact absurd h hconsumed
  · change _ ∈ consumeRequestPdu _ pdu.1.commandStatus _ _ at h
    simp only [consumeRequestPdu] at h
    split at h
    · simp only [List.mem_singleton, Reaction.sendCommand.injEq] at h
      exact .inl h.1
    split at h
    · simp at h
      exact .inr h.1
    split at h
    · exact absurd h hconsumed
    split at h
    · exact absurd h hconsumed
    · exact absurd h hconsumed

theorem orderly_dialect : dialect.Orderly := by
  have hconsumed {id : CommandId} {buf : Bytes} {callback : Pdu → Callback CommandId CommandStatus Pdu}
      {result : Except Fault Pdu} (hcallback : ∀ pdu, (callback pdu).notification = none) :
      ∀ r ∈ consumed id buf callback result, r.orderly = true := by
    cases result with
    | ok pdu => exact List.forall_mem_singleton.mpr (Option.isNone_iff_eq_none.mpr (hcallback pdu))
    | error => exact List.forall_mem_cons.mpr ⟨rfl, List.forall_mem_singleton.mpr rfl⟩
  constructor
  · intro commandId commandStatus sequenceNumber buf
    change ∀ r ∈ consumeRequestPdu commandId commandStatus sequenceNumber buf, r.orderly = true
    simp only [consumeRequestPdu]
    split
    · exact List.forall_mem_singleton.mpr rfl
    split
    · exact List.forall_mem_cons.mpr ⟨rfl, List.forall_mem_singleton.mpr rfl⟩
    split
    · exact hconsumed fun _ => rfl
    split
    · exact hconsumed fun _ => rfl
    · exact hconsumed fun _ => rfl
  · intro commandId commandStatus sequenceNumber buf
    change ∀ r ∈ consumeResponsePdu commandId commandStatus sequenceNumber buf, r.orderly = true
    simp only [consumeResponsePdu]
    split
    · exact List.forall_mem_nil _
    split
    · exact List.forall_mem_singleton.mpr rfl
    split
    · exact hconsumed fun _ => rfl
    split
    · exact hconsumed fun _ => rfl
    · exact hconsumed fun _ => rfl

theorem callsOf_command {x : Sent CommandId CommandStatus} (hbody : x.body = [])
    (hcommand : x.commandId = CommandId.unbindReq ∨ x.commandId = CommandId.enquireLinkReq ∨
      x.commandId = CommandId.enquireLinkResp ∨ x.commandId = CommandId.unbindResp) :
    dialect.callsOf (x.pdu dialect) = [] := by
  rcases hcommand with h | h | h | h
  · rw [Sent.callsOf_request (by rw [h]; decide), h, hbody]
    rfl
  · rw [Sent.callsOf_request (by rw [h]; decide), h, hbody]
    rfl
  · rw [Sent.callsOf_response (by rw [h]; decide), h, hbody]
    rfl
  · rw [Sent.callsOf_response (by rw [h]; decide), h, hbody]
    rfl

/-- What was written leads to one call with it. -/
theorem callsOf_sentOf {asked : Pdu × UInt32 × CommandStatus} (hreadable : Readable asked.1)
    (hok : (dialect.serializeTo [] asked.1).2 = .ok ()) :
    dialect.callsOf ((dialect.sentOf asked).pdu dialect) = [dialect.callOf asked] := by
  obtain ⟨pdu, sequenceNumber, commandStatus⟩ := asked
  cases pdu with
  | bindRequest bind =>
    have hread := deserialize_bind hreadable hok
    refine (Sent.callsOf_request (show dialect.isResponse CommandId.bindReq = false by decide)).trans ?_
    refine (congrArg (List.filterMap Reaction.passes) (consumeRequestPdu_bind commandStatus _ hread)).trans rfl
  | bindResponse bind =>
    have hread := deserialize_bind hreadable hok
    refine (Sent.callsOf_response (show dialect.isResponse CommandId.bindResp = true by decide)).trans ?_
    refine (congrArg (List.filterMap Reaction.passes)
      (consumeResponsePdu_bind _ _ (serializeTo_bind_ne_nil hok) hread)).trans rfl
  | streamRequest stream =>
    exact (Sent.callsOf_request (show dialect.isResponse CommandId.streamReq = false by decide)).trans rfl
  | streamResponse stream =>
    refine (Sent.callsOf_response (show dialect.isResponse CommandId.streamResp = true by decide)).trans ?_
    refine (congrArg (List.filterMap Reaction.passes) (consumeResponsePdu_stream _ _ stream)).trans rfl

/-! ### The exchange -/

theorem conveys_dialect : dialect.Conveys Readable fun _ => true where
  pdu _ hreadable hok := callsOf_sentOf hreadable hok
  command x hx := by
    obtain ⟨hbody, ⟨-, hunbind | henquire⟩ | ⟨pdu, hmem⟩⟩ := hx
    · rw [callsOf_command hbody (.inl hunbind), List.filter_nil]
    · rw [callsOf_command hbody (.inr (.inl henquire)), List.filter_nil]
    · rw [callsOf_command hbody (.inr (.inr (sendCommand_mem_reactionsTo hmem))), List.filter_nil]
  orderly := orderly_dialect
  header := by decide

/-- Two sessions on one connection. -/
abbrev Link := Side → Peer dialect

/-- Two new sessions. -/
def Link.start (handlers : Side → Handler → Bool) : Link := fun side => Peer.start (handlers side)

/-- **The exchange of messages between two pinex sessions**: in every run in which the connection brings what was handed
over, and what is asked to be sent leaves 64 KiB of the receive buffer free, the handlers of each side are called with
what the other was asked to send, in order and once; and with all of it, once everything has arrived at a session that
has been open with both handlers throughout. -/
theorem messages_run (handlers : Side → Handler → Bool) {events : List (Side × Event dialect)}
    (h : Along (family Peer.step) (fun link e => Carried link e ∧ Session.Asks dialect Readable (link e.1).session e.2)
      (Link.start handlers) events) (side : Side) :
    let link : Link := run (family Peer.step) (Link.start handlers) events
    (link side).session.fault = none ∧
      (link side).session.rx.dispatched <+: (link side.other).session.tx.sent.map (Sent.pdu dialect) ∧
      (link side).session.passedOn.Sublist ((link side.other).asked.map dialect.callOf) ∧
      ((∀ e ∈ addressed side events, e.assigns = false) → Quiet (link side.other) (link side) →
        (link side).session.Serving → (link side).session.passedOn = (link side.other).asked.map dialect.callOf) := by
  intro link
  obtain ⟨⟨hfault, hdispatched, hcalls⟩, hall⟩ := exchanged_link conveys_dialect handlers h side
  simp only [List.filter_true] at hcalls hall
  exact ⟨hfault, hdispatched, hcalls, hall⟩

/-- A client sends a message, which arrives in two pieces. -/
def messageInPieces : List (Side × Event dialect) :=
  let frame := serializeHeader 12 CommandId.streamReq 1 CommandStatus.rok ++ [104, 105]
  [(.client, .call .start), (.client, .internal), (.server, .call .start), (.server, .internal),
    (.client, .call (.sendRequest (.streamRequest ⟨[104, 105]⟩) rfl)), (.client, .internal),
    (.server, .received (frame.take 5)), (.server, .internal), (.client, .written),
    (.server, .received (frame.drop 5)), (.server, .internal), (.server, .internal), (.server, .returned),
    (.server, .internal), (.server, .internal)]

theorem messages_run_pieces :
    let link : Link := run (family Peer.step) (Link.start fun _ _ => true) messageInPieces
    (link .server).session.passedOn = (link .client).asked.map dialect.callOf := by
  intro link
  refine (messages_run (fun _ _ => true) ?_ .server).2.2.2 (by decide) ?_ ?_
  · refine ⟨⟨?_, ?_⟩, ⟨?_, ?_⟩, ⟨?_, ?_⟩, ⟨?_, ?_⟩, ⟨?_, List.forall_mem_singleton.mpr ?_⟩, ⟨?_, ?_⟩, ⟨?_, ?_⟩,
      ⟨?_, ?_⟩, ⟨?_, ?_⟩, ⟨?_, ?_⟩, ⟨?_, ?_⟩, ⟨?_, ?_⟩, ⟨?_, ?_⟩, ⟨?_, ?_⟩, ⟨?_, ?_⟩, trivial⟩
    all_goals first
      | exact List.forall_mem_nil _
      | exact ⟨by decide, by decide⟩
      | rintro data ⟨⟩
    · decide
    · decide
  · exact ⟨rfl, rfl, by decide, rfl, by decide⟩
  · exact ⟨rfl, rfl, rfl⟩

end SmppGateway.Pinex
