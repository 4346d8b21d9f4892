import SmppGateway.Foundation.BigEndian
import SmppGateway.Net.Framing
import SmppGateway.Smpp.Param

/-!
# The SMPP header

`serialize_header`, `deserialize_header`, `is_response` and `next_sequence_number` of
`libs/smpp/net/session.hpp`.

## What is proved

* `deserializeHeader_serializeHeader` — a header is read back as it was written.
* `nextSequenceNumber_bounds` — sequence numbers stay between 1 and `0x7FFFFFFF`.
-/

namespace SmppGateway.Smpp

open Foundation Net

/-- `serialize_header`. -/
def serializeHeader (commandLength : UInt32) (commandId : CommandId) (sequenceNumber : UInt32)
    (commandStatus : CommandStatus) : Bytes :=
  serializeU32 commandLength ++ serializeU32 commandId ++ serializeU32 commandStatus ++
    serializeU32 sequenceNumber

/-- `deserialize_header`. -/
def deserializeHeader (buf : Bytes) : Header CommandId CommandStatus where
  commandLength := deserializeU32 (buf.getD 0 0) (buf.getD 1 0) (buf.getD 2 0) (buf.getD 3 0)
  commandId := deserializeU32 (buf.getD 4 0) (buf.getD 5 0) (buf.getD 6 0) (buf.getD 7 0)
  commandStatus := deserializeU32 (buf.getD 8 0) (buf.getD 9 0) (buf.getD 10 0) (buf.getD 11 0)
  sequenceNumber := deserializeU32 (buf.getD 12 0) (buf.getD 13 0) (buf.getD 14 0) (buf.getD 15 0)

/-- The frames of `pa::smpp::session`. -/
def framing : Framing CommandId CommandStatus where
  headerLength := 16
  headerLength_pos := by decide
  deserializeHeader := deserializeHeader

/-- `is_response`. -/
def isResponse (commandId : CommandId) : Bool := commandId &&& 0x80000000 ≠ 0

/-- `next_sequence_number`, from the number given out last. -/
def nextSequenceNumber (sequenceNumber : UInt32) : UInt32 :=
  if sequenceNumber + 1 > 0x7FFFFFFF then 1 else sequenceNumber + 1

@[simp]
theorem length_serializeHeader (commandLength : UInt32) (commandId : CommandId) (sequenceNumber : UInt32)
    (commandStatus : CommandStatus) :
    (serializeHeader commandLength commandId sequenceNumber commandStatus).length = 16 := rfl

/-- **A header is read back.** -/
@[simp]
theorem deserializeHeader_serializeHeader (commandLength : UInt32) (commandId : CommandId)
    (sequenceNumber : UInt32) (commandStatus : CommandStatus) :
    deserializeHeader (serializeHeader commandLength commandId sequenceNumber commandStatus) =
      ⟨commandLength, commandId, commandStatus, sequenceNumber⟩ := by
  simp [serializeHeader, deserializeHeader, serializeU32]

/-- **Sequence numbers** are between 1 and `0x7FFFFFFF`, if the one before was no greater. -/
theorem nextSequenceNumber_bounds {sequenceNumber : UInt32} (h : sequenceNumber.toNat ≤ 0x7FFFFFFF) :
    1 ≤ (nextSequenceNumber sequenceNumber).toNat ∧ (nextSequenceNumber sequenceNumber).toNat ≤ 0x7FFFFFFF := by
  have hadd : (sequenceNumber + 1).toNat = sequenceNumber.toNat + 1 := by
    rw [UInt32.toNat_add]
    exact Nat.mod_eq_of_lt (by simpa using by omega)
  rw [nextSequenceNumber]
  split
  case isTrue => decide
  case isFalse hle =>
    simp only [gt_iff_lt, UInt32.lt_iff_toNat_lt, UInt32.reduceToNat] at hle
    omega

end SmppGateway.Smpp
