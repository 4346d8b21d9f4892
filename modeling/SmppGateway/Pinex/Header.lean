import SmppGateway.Foundation.BigEndian
import SmppGateway.Net.Framing

/-!
# The pinex header

The enumerations of `libs/pinex/common` and `serialize_header`, `deserialize_header`, `is_response` and
`next_sequence_number` of `libs/pinex/net/session.hpp`. Both enumerations have the underlying type
`uint8_t` and are cast from the wire, so every byte is a value of them.

## What is proved

* `deserializeHeader_serializeHeader` — a header is read back as it was written.
* `nextSequenceNumber_eq` — the numbers wrap around: the test against `0xFFFFFFFF` is never true.
-/

namespace SmppGateway.Pinex

open Foundation Net

/-- `command_id`. -/
abbrev CommandId := UInt8

namespace CommandId

/-- `bind_req`. -/
def bindReq : CommandId := 0x01
/-- `bind_resp`. -/
def bindResp : CommandId := 0x81
/-- `stream_req`. -/
def streamReq : CommandId := 0x02
/-- `stream_resp`. -/
def streamResp : CommandId := 0x82
/-- `unbind_req`. -/
def unbindReq : CommandId := 0x03
/-- `unbind_resp`. -/
def unbindResp : CommandId := 0x83
/-- `enquire_link_req`. -/
def enquireLinkReq : CommandId := 0x04
/-- `enquire_link_resp`. -/
def enquireLinkResp : CommandId := 0x84

end CommandId

/-- `command_status`. -/
abbrev CommandStatus := UInt8

/-- `command_status::rok`. -/
def CommandStatus.rok : CommandStatus := 0x00

/-- `serialize_header`. -/
def serializeHeader (commandLength : UInt32) (commandId : CommandId) (sequenceNumber : UInt32)
    (commandStatus : CommandStatus) : Bytes :=
  serializeU32 commandLength ++ [commandId] ++ [commandStatus] ++ serializeU32 sequenceNumber

/-- `deserialize_header`. -/
def deserializeHeader (buf : Bytes) : Header CommandId CommandStatus where
  commandLength := deserializeU32 (buf.getD 0 0) (buf.getD 1 0) (buf.getD 2 0) (buf.getD 3 0)
  commandId := buf.getD 4 0
  commandStatus := buf.getD 5 0
  sequenceNumber := deserializeU32 (buf.getD 6 0) (buf.getD 7 0) (buf.getD 8 0) (buf.getD 9 0)

/-- The frames of `pa::pinex::session`. -/
def framing : Framing CommandId CommandStatus where
  headerLength := 10
  headerLength_pos := by decide
  deserializeHeader := deserializeHeader

/-- `is_response`. -/
def isResponse (commandId : CommandId) : Bool := commandId &&& 0x80 ≠ 0

/-- `next_sequence_number`, from the number given out last. -/
def nextSequenceNumber (sequenceNumber : UInt32) : UInt32 :=
  if sequenceNumber + 1 > 0xFFFFFFFF then 1 else sequenceNumber + 1

@[simp]
theorem length_serializeHeader (commandLength : UInt32) (commandId : CommandId) (sequenceNumber : UInt32)
    (commandStatus : CommandStatus) :
    (serializeHeader commandLength commandId sequenceNumber commandStatus).length = 10 := rfl

/-- **A header is read back.** -/
@[simp]
theorem deserializeHeader_serializeHeader (commandLength : UInt32) (commandId : CommandId)
    (sequenceNumber : UInt32) (commandStatus : CommandStatus) :
    deserializeHeader (serializeHeader commandLength commandId sequenceNumber commandStatus) =
      ⟨commandLength, commandId, commandStatus, sequenceNumber⟩ := by
  simp [serializeHeader, deserializeHeader, serializeU32]

/-- The numbers wrap around to zero. -/
theorem nextSequenceNumber_eq (sequenceNumber : UInt32) :
    nextSequenceNumber sequenceNumber = sequenceNumber + 1 := by
  refine if_neg fun h => ?_
  have hlt := (sequenceNumber + 1).toNat_lt
  simp only [gt_iff_lt, UInt32.lt_iff_toNat_lt, UInt32.reduceToNat] at h
  omega

end SmppGateway.Pinex
