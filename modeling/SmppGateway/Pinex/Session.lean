import SmppGateway.Net.Session
import SmppGateway.Pinex.Header
import SmppGateway.Smpp.Serialization

/-!
# The pinex session

The PDUs of `libs/pinex/pdu` with their tables, and `consume_request_pdu` and `consume_response_pdu` of
`libs/pinex/net/session.hpp`. The field codecs of `libs/pinex/common/serialization.hpp` that the tables
use are those of the SMPP library, and `octet_str`.
-/

namespace SmppGateway.Pinex

open Foundation Net

/-- `octet_str`, which takes the rest of the body. -/
def octetStr : FieldCodec Bytes Nothing where
  deserialize _ buf := .ok (buf, [])
  serializeTo _ vec val := (vec ++ val, .ok ())
  Fits _ := True
  wire val := val
  terminated _ := []
  serializeTo_of_fits _ _ _ _ := rfl
  serializeTo_of_not_fits _ _ h := absurd trivial h
  deserialize_wire _ val rest _ _ h := by rw [show rest = [] from h, List.append_nil]
  deserialize_sound _ _ _ _ _ := ⟨trivial, by simp⟩

/-- `bind_type`. -/
inductive BindType where
  /-- `uni_direction`. -/
  | uniDirection
  /-- `bi_direction`. -/
  | biDirection
  deriving DecidableEq, Repr

/-- `bind_request` and `bind_response`, which have the same members. -/
structure Bind where
  /-- `bind_type`. -/
  bindType : BindType
  /-- `system_id`. -/
  systemId : Bytes

/-- `stream_request` and `stream_response`, which have the same member. -/
structure Stream where
  /-- `message_body`. -/
  messageBody : Bytes

/-- `members<bind_request>` and `members<bind_response>`. -/
def Bind.layout : Layout Bind BindType where
  C := Bytes → Bind
  make bindType systemId := ⟨bindType, systemId⟩
  members := .field ⟨Smpp.cOctetStr 20, Bind.systemId, ascii "system_id"⟩ .done
  args := Bind.bindType
  rebuild_make _ := rfl
  projects_make _ := fun _ => ⟨rfl, trivial⟩
  args_make _ := fun _ => rfl

/-- `members<stream_request>` and `members<stream_response>`. -/
def Stream.layout : Layout Stream Unit where
  C := Bytes → Stream
  make _ messageBody := ⟨messageBody⟩
  members := .tail ⟨octetStr, Stream.messageBody, ascii "message_body"⟩
  args _ := ()
  rebuild_make _ := rfl
  projects_make _ := fun _ => rfl
  args_make _ := fun _ => rfl

/-- The alternatives of `request` and of `response`. -/
inductive Pdu where
  /-- `bind_request`. -/
  | bindRequest (pdu : Bind)
  /-- `bind_response`. -/
  | bindResponse (pdu : Bind)
  /-- `stream_request`. -/
  | streamRequest (pdu : Stream)
  /-- `stream_response`. -/
  | streamResponse (pdu : Stream)

namespace Pdu

/-- `is_response`. -/
def isResponse : Pdu → Bool
  | .bindRequest _ | .streamRequest _ => false
  | .bindResponse _ | .streamResponse _ => true

/-- `command_id_of`. -/
def commandIdOf : Pdu → CommandId
  | .bindRequest _ => CommandId.bindReq
  | .bindResponse _ => CommandId.bindResp
  | .streamRequest _ => CommandId.streamReq
  | .streamResponse _ => CommandId.streamResp

/-- `serialize_to`. -/
def serializeTo (vec : Bytes) : Pdu → Bytes × Except Fault Unit
  | .bindRequest pdu | .bindResponse pdu => Bind.layout.serializeTo vec pdu
  | .streamRequest pdu | .streamResponse pdu => Stream.layout.serializeTo vec pdu

theorem serializeTo_eq (vec : Bytes) (pdu : Pdu) :
    serializeTo vec pdu = (vec ++ (serializeTo [] pdu).1, (serializeTo [] pdu).2) := by
  cases pdu with
  | bindRequest pdu => exact Bind.layout.serializeTo_eq vec pdu
  | bindResponse pdu => exact Bind.layout.serializeTo_eq vec pdu
  | streamRequest pdu => exact Stream.layout.serializeTo_eq vec pdu
  | streamResponse pdu => exact Stream.layout.serializeTo_eq vec pdu

end Pdu

/-- `deserialize` of a type that can be omitted: no bytes are the PDU with its defaults. -/
def deserializeOmitted {S A : Type} (layout : Layout S A) (default : S) (buf : Bytes) (args : A) :
    Except Fault S :=
  if buf.isEmpty then .ok default else layout.deserialize buf args

/-- The exception for a command that is in neither switch. -/
def unknownPdu : Fault := .exception (ascii "Unknown pdu")

/-- The reason `close` is given by the catch blocks. -/
def exceptionReason : Bytes := ascii "an exeception is occured"

/-- What follows a PDU that is read, or an exception. -/
def consumed (commandId : CommandId) (buf : Bytes)
    (callback : Pdu → Callback CommandId CommandStatus Pdu) :
    Except Fault Pdu → List (Reaction CommandId CommandStatus Pdu)
  | .ok pdu => [.callback (callback pdu)]
  | .error ex => [.callback (.deserializationError ex commandId buf), .close exceptionReason]

/-- `consume_response_pdu`. -/
def consumeResponsePdu (commandId : CommandId) (commandStatus : CommandStatus) (sequenceNumber : UInt32)
    (buf : Bytes) : List (Reaction CommandId CommandStatus Pdu) :=
  let consumed := consumed commandId buf (.response · sequenceNumber commandStatus)
  if commandId = CommandId.enquireLinkResp then []
  else if commandId = CommandId.unbindResp then [.close (ascii "unbind_resp received")]
  else if commandId = CommandId.bindResp then
    consumed ((deserializeOmitted Bind.layout ⟨.biDirection, []⟩ buf .biDirection).map .bindResponse)
  else if commandId = CommandId.streamResp then
    consumed ((deserializeOmitted Stream.layout ⟨[]⟩ buf ()).map .streamResponse)
  else consumed (.error unknownPdu)

/-- `consume_request_pdu`. -/
def consumeRequestPdu (commandId : CommandId) (_ : CommandStatus) (sequenceNumber : UInt32) (buf : Bytes) :
    List (Reaction CommandId CommandStatus Pdu) :=
  let consumed := consumed commandId buf (.request · sequenceNumber)
  if commandId = CommandId.enquireLinkReq then
    [.sendCommand CommandId.enquireLinkResp sequenceNumber CommandStatus.rok]
  else if commandId = CommandId.unbindReq then
    [.startUnbinding, .sendCommand CommandId.unbindResp sequenceNumber CommandStatus.rok]
  else if commandId = CommandId.bindReq then
    consumed ((Bind.layout.deserialize buf .biDirection).map .bindRequest)
  else if commandId = CommandId.streamReq then
    consumed ((Stream.layout.deserialize buf ()).map .streamRequest)
  else consumed (.error unknownPdu)

/-- `pa::pinex::session`. -/
def dialect : Dialect CommandId CommandStatus Pdu where
  framing := framing
  serializeHeader := serializeHeader
  length_serializeHeader := length_serializeHeader
  deserializeHeader_serializeHeader := deserializeHeader_serializeHeader
  nextSequenceNumber := nextSequenceNumber
  rok := CommandStatus.rok
  unbind := CommandId.unbindReq
  enquireLink := CommandId.enquireLinkReq
  isResponse := isResponse
  isResponsePdu := Pdu.isResponse
  commandIdOf := Pdu.commandIdOf
  serializeTo := Pdu.serializeTo
  serializeTo_eq := Pdu.serializeTo_eq
  unbindingText := ascii "Send on unbinded session"
  consumeRequestPdu := consumeRequestPdu
  consumeResponsePdu := consumeResponsePdu
  readsBody commandId :=
    commandId = CommandId.bindReq || commandId = CommandId.bindResp || commandId = CommandId.streamReq ||
      commandId = CommandId.streamResp
  closePauses := true
  hasTimers := false

end SmppGateway.Pinex
