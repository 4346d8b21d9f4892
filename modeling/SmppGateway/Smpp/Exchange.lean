import SmppGateway.Net.Link
import SmppGateway.Smpp.LifeCycle

/-!
# The exchange of SMPP PDUs

Two SMPP sessions on one connection. A PDU without a zero byte in its C-octet strings is read as it was written, so
that the request and the response handler of one side are called with the PDUs that the other side was asked to send.

## The model

* A session answers a command that it does not know with a `generic_nack` that nobody asked for. The calls of the
  response handler for these are left out of the account.

## What is proved

* `conveys_dialect` — the codecs and the switches of the session convey every such PDU.
* `exchange_run` — over every run of two sessions and the connection between them, nothing is lost, doubled, made
  up or reordered.
-/

namespace SmppGateway.Smpp

open Foundation Net

/-- No C-octet string of the PDU has a zero byte. -/
def Clean (pdu : Pdu) : Prop := ∀ s ∈ pdu.1.cOctetStrings pdu.2, 0 ∉ s

instance (pdu : Pdu) : Decidable (Clean pdu) :=
  inferInstanceAs (Decidable (∀ s ∈ pdu.1.cOctetStrings pdu.2, 0 ∉ s))

/-- Any call but that of the response handler for a `generic_nack`. -/
def notNack : Callback CommandId CommandStatus Pdu → Bool
  | .response ⟨.genericNack, _⟩ _ _ => false
  | _ => true

/-! ### The switches -/

theorem isResponse_commandIdOf (k : PduKind) (pdu : k.Value) : isResponse (k.commandIdOf pdu) = k.isResponse := by
  cases k with
  | bindRequest =>
    obtain ⟨bindType, systemId, password, systemType, interfaceVersion, addrTon, addrNpi, addressRange⟩ := pdu
    cases bindType with
    | transmitter => exact show isResponse CommandId.bindTransmitter = false by decide
    | receiver => exact show isResponse CommandId.bindReceiver = false by decide
    | transceiver => exact show isResponse CommandId.bindTransceiver = false by decide
  | bindResp =>
    obtain ⟨bindType, systemId, oparam⟩ := pdu
    cases bindType with
    | transmitter => exact show isResponse CommandId.bindTransmitterResp = true by decide
    | receiver => exact show isResponse CommandId.bindReceiverResp = true by decide
    | transceiver => exact show isResponse CommandId.bindTransceiverResp = true by decide
  | _ =>
    simp only [PduKind.commandIdOf, PduKind.isResponse]
    decide

theorem ne_of_pduOf {commandId own : CommandId} {kind : Σ k : PduKind, k.Args} (h : pduOf commandId = some kind)
    (hown : pduOf own = none) : commandId ≠ own := by
  rintro rfl
  rw [h] at hown
  cases hown

/-- A PDU that is read leads to one call. -/
theorem consumeResponsePdu_of_deserialize {commandId : CommandId} {k : PduKind} {args : k.Args} {body : Bytes}
    {pdu : k.Value} (hkind : pduOf commandId = some ⟨k, args⟩) (hresponse : k.isResponse = true)
    (hread : k.deserialize body args = .ok pdu) (commandStatus : CommandStatus) (sequenceNumber : UInt32) :
    consumeResponsePdu commandId commandStatus sequenceNumber body =
      [.callback (.response ⟨k, pdu⟩ sequenceNumber commandStatus)] := by
  rw [consumeResponsePdu, if_neg (ne_of_pduOf hkind rfl), if_neg (ne_of_pduOf hkind rfl), hkind]
  simp [Option.filter, hresponse, hread]

theorem consumeRequestPdu_of_deserialize {commandId : CommandId} {k : PduKind} {args : k.Args} {body : Bytes}
    {pdu : k.Value} (hkind : pduOf commandId = some ⟨k, args⟩) (hresponse : k.isResponse = false)
    (hread : k.deserialize body args = .ok pdu) (commandStatus : CommandStatus) (sequenceNumber : UInt32) :
    consumeRequestPdu commandId commandStatus sequenceNumber body =
      [.callback (.request ⟨k, pdu⟩ sequenceNumber)] := by
  rw [consumeRequestPdu, if_neg (ne_of_pduOf hkind rfl), if_neg (ne_of_pduOf hkind rfl), hkind]
  simp [Option.filter, hresponse, hread]

/-- The commands that answer a PDU. -/
theorem sendCommand_mem_reactionsTo {pdu : Header CommandId CommandStatus × Bytes} {commandId : CommandId}
    {sequenceNumber : UInt32} {commandStatus : CommandStatus}
    (h : .sendCommand commandId sequenceNumber commandStatus ∈ dialect.reactionsTo pdu) :
    commandId = CommandId.enquireLinkResp ∨ commandId = CommandId.unbindResp ∨ commandId = CommandId.genericNack := by
  unfold Dialect.reactionsTo at h
  split at h
  · change _ ∈ consumeResponsePdu _ _ _ _ at h
    unfold consumeResponsePdu at h
    split at h
    · cases h
    split at h
    · simp at h
    split at h
    · split at h <;> simp at h
    · simp at h
  · change _ ∈ consumeRequestPdu _ pdu.1.commandStatus _ _ at h
    unfold consumeRequestPdu at h
    split at h
    · simp only [List.mem_singleton, Reaction.sendCommand.injEq] at h
      exact .inl h.1
    split at h
    · simp at h
      exact .inr (.inl h.1)
    split at h
    · split at h <;> simp at h
    · simp at h
      exact .inr (.inr h.1)

theorem callsOf_command {x : Sent CommandId CommandStatus} (hbody : x.body = [])
    (hcommand : x.commandId = CommandId.unbind ∨ x.commandId = CommandId.enquireLink ∨
      x.commandId = CommandId.enquireLinkResp ∨ x.commandId = CommandId.unbindResp ∨
      x.commandId = CommandId.genericNack) : (dialect.callsOf (x.pdu dialect)).filter notNack = [] := by
  rcases hcommand with h | h | h | h | h
  · rw [Sent.callsOf_request (by rw [h]; decide), h, hbody]
    rfl
  · rw [Sent.callsOf_request (by rw [h]; decide), h, hbody]
    rfl
  · rw [Sent.callsOf_response (by rw [h]; decide), h, hbody]
    rfl
  · rw [Sent.callsOf_response (by rw [h]; decide), h, hbody]
    rfl
  · rw [Sent.callsOf_response (by rw [h]; decide), h, hbody]
    rfl

/-- What was written of a PDU without a zero byte leads to one call with it. -/
theorem callsOf_sentOf {asked : Pdu × UInt32 × CommandStatus} (hclean : Clean asked.1)
    (hok : (dialect.serializeTo [] asked.1).2 = .ok ()) :
    dialect.callsOf ((dialect.sentOf asked).pdu dialect) = [dialect.callOf asked] := by
  obtain ⟨⟨k, pdu⟩, sequenceNumber, commandStatus⟩ := asked
  have hfits : k.layout.Fits pdu := Layout.fits_of_serializeTo hok
  have hkind := pduOf_commandIdOf k pdu
  have hread : k.deserialize (dialect.serializeTo [] ⟨k, pdu⟩).1 (k.layout.args pdu) = .ok pdu := by
    rw [show (dialect.serializeTo [] ⟨k, pdu⟩).1 = k.layout.wire pdu from
      congrArg Prod.fst (Layout.serializeTo_of_fits hfits)]
    exact PduKind.deserialize_wire hfits hclean
  have htop : isResponse (k.commandIdOf pdu) = k.isResponse := isResponse_commandIdOf k pdu
  cases hresponse : k.isResponse with
  | true =>
    rw [Sent.callsOf_response (htop.trans hresponse)]
    refine (congrArg (List.filterMap Reaction.passes)
      (consumeResponsePdu_of_deserialize hkind hresponse hread commandStatus sequenceNumber)).trans ?_
    exact congrArg (fun call => [call]) (if_pos hresponse).symm
  | false =>
    rw [Sent.callsOf_request (htop.trans hresponse)]
    refine (congrArg (List.filterMap Reaction.passes)
      (consumeRequestPdu_of_deserialize hkind hresponse hread commandStatus sequenceNumber)).trans ?_
    refine congrArg (fun call => [call]) (if_neg fun h => ?_).symm
    exact absurd (hresponse.symm.trans h) Bool.false_ne_true

/-! ### The exchange -/

theorem conveys_dialect : dialect.Conveys Clean notNack where
  pdu _ hclean hok := callsOf_sentOf hclean hok
  command x hx := by
    obtain ⟨hbody, ⟨-, hunbind | henquire⟩ | ⟨pdu, hmem⟩⟩ := hx
    · exact callsOf_command hbody (.inl hunbind)
    · exact callsOf_command hbody (.inr (.inl henquire))
    · exact callsOf_command hbody (.inr (.inr (sendCommand_mem_reactionsTo hmem)))
  orderly := orderly_dialect
  header := by decide

/-- Two sessions on one connection. -/
abbrev Link := Side → Peer dialect

/-- Two new sessions. -/
def Link.start (handlers : Side → Handler → Bool) : Link := fun side => Peer.start (handlers side)

/-- **The exchange between two SMPP sessions**: in every run in which the connection brings what was handed over, and
the PDUs that are asked to be sent have no zero byte in a C-octet string and leave 64 KiB of the receive buffer free,
the handlers of each side are called with what the other was asked to send, in order and each PDU once; and with all of
it, once everything has arrived at a session that has been open with both handlers throughout. -/
theorem exchange_run (handlers : Side → Handler → Bool) {events : List (Side × Event dialect)}
    (h : Along (family Peer.step) (fun link e => Carried link e ∧ Session.Asks dialect Clean (link e.1).session e.2)
      (Link.start handlers) events) (side : Side) :
    let link : Link := run (family Peer.step) (Link.start handlers) events
    Exchanged notNack (link side.other) (link side) ∧
      ((∀ e ∈ addressed side events, e.assigns = false) → Quiet (link side.other) (link side) →
        (link side).session.Serving → (link side).session.passedOn.filter notNack =
          ((link side.other).asked.map dialect.callOf).filter notNack) :=
  exchanged_link conveys_dialect handlers h side

/-- A client sends a `deliver_sm_resp` with number 7, which arrives in two pieces. -/
def exchangeInPieces : List (Side × Event dialect) :=
  let resp : Pdu := ⟨.deliverSmResp, DeliverSmResp.mk []⟩
  let frame := serializeHeader 17 CommandId.deliverSmResp 7 CommandStatus.rok ++ [0]
  [(.client, .call .start), (.client, .internal), (.server, .call .start), (.server, .internal),
    (.client, .call (.sendResponse resp rfl 7 CommandStatus.rok)), (.client, .internal),
    (.server, .received (frame.take 5)), (.server, .internal), (.client, .written),
    (.server, .received (frame.drop 5)), (.server, .internal), (.server, .internal), (.server, .returned),
    (.server, .internal), (.server, .internal)]

theorem exchange_run_pieces :
    let link : Link := run (family Peer.step) (Link.start fun _ _ => true) exchangeInPieces
    (link .server).session.passedOn.filter notNack =
      ((link .client).asked.map dialect.callOf).filter notNack := by
  intro link
  refine (exchange_run (fun _ _ => true) ?_ .server).2 (by decide) ?_ ?_
  · refine ⟨⟨?_, ?_⟩, ⟨?_, ?_⟩, ⟨?_, ?_⟩, ⟨?_, ?_⟩, ⟨?_, List.forall_mem_singleton.mpr ?_⟩, ⟨?_, ?_⟩, ⟨?_, ?_⟩,
      ⟨?_, ?_⟩, ⟨?_, ?_⟩, ⟨?_, ?_⟩, ⟨?_, ?_⟩, ⟨?_, ?_⟩, ⟨?_, ?_⟩, ⟨?_, ?_⟩, ⟨?_, ?_⟩, trivial⟩
    all_goals first
      | exact List.forall_mem_nil _
      | exact ⟨by decide, by decide⟩
      | rintro data ⟨⟩
    · decide
    · decide
  · exact ⟨rfl, rfl, by decide, rfl, by decide⟩
  · exact ⟨rfl, rfl, rfl⟩

end SmppGateway.Smpp
