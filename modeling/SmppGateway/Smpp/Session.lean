import SmppGateway.Net.Session
import SmppGateway.Smpp.Header
import SmppGateway.Smpp.Pdu

/-!
# The SMPP session

`consume_request_pdu` and `consume_response_pdu` of `libs/smpp/net/session.hpp`, and the session they
are part of.
-/

namespace SmppGateway.Smpp

open Foundation Net

/-- A PDU, the alternatives of `request` and of `response`. -/
abbrev Pdu := Σ k : PduKind, k.Value

/-- The exception for a command that is in neither switch. -/
def unknownPdu : Fault := .exception (ascii "Unknown pdu")

/-- `consume_response_pdu`. -/
def consumeResponsePdu (commandId : CommandId) (commandStatus : CommandStatus) (sequenceNumber : UInt32)
    (buf : Bytes) : List (Reaction CommandId CommandStatus Pdu) :=
  if commandId = CommandId.enquireLinkResp then []
  else if commandId = CommandId.unbindResp then [.close (ascii "unbind_resp received")]
  else
    match (pduOf commandId).filter fun kind => kind.1.isResponse with
    | some ⟨k, args⟩ =>
      match k.deserialize buf args with
      | .ok resp => [.callback (.response ⟨k, resp⟩ sequenceNumber commandStatus)]
      | .error ex => [.callback (.deserializationError ex commandId buf)]
    | none => [.callback (.deserializationError unknownPdu commandId buf)]

/-- `consume_request_pdu`. -/
def consumeRequestPdu (commandId : CommandId) (_ : CommandStatus) (sequenceNumber : UInt32) (buf : Bytes) :
    List (Reaction CommandId CommandStatus Pdu) :=
  if commandId = CommandId.enquireLink then
    [.sendCommand CommandId.enquireLinkResp sequenceNumber CommandStatus.rok]
  else if commandId = CommandId.unbind then
    [.startUnbinding, .sendCommand CommandId.unbindResp sequenceNumber CommandStatus.rok]
  else
    match (pduOf commandId).filter fun kind => !kind.1.isResponse with
    | some ⟨k, args⟩ =>
      match k.deserialize buf args with
      | .ok req => [.callback (.request ⟨k, req⟩ sequenceNumber)]
      | .error ex => [.callback (.deserializationError ex commandId buf)]
    | none =>
      [.sendCommand CommandId.genericNack sequenceNumber CommandStatus.rinvcmdid,
        .callback (.deserializationError unknownPdu commandId buf)]

/-- `pa::smpp::session`. -/
def dialect : Dialect CommandId CommandStatus Pdu where
  framing := framing
  serializeHeader := serializeHeader
  length_serializeHeader := length_serializeHeader
  deserializeHeader_serializeHeader := deserializeHeader_serializeHeader
  nextSequenceNumber := nextSequenceNumber
  rok := CommandStatus.rok
  unbind := CommandId.unbind
  enquireLink := CommandId.enquireLink
  isResponse := isResponse
  isResponsePdu pdu := pdu.1.isResponse
  commandIdOf pdu := pdu.1.commandIdOf pdu.2
  serializeTo vec pdu := pdu.1.serializeTo vec pdu.2
  serializeTo_eq vec pdu := Layout.serializeTo_eq vec pdu.2
  unbindingText := ascii "Send on unbinding session"
  consumeRequestPdu := consumeRequestPdu
  consumeResponsePdu := consumeResponsePdu
  readsBody commandId := (pduOf commandId).any fun kind => kind.1.isResponse == isResponse commandId
  closePauses := false
  hasTimers := true

end SmppGateway.Smpp
