import SmppGateway.Foundation.PrefixCode
import SmppGateway.Net.FlatBuffer

/-!
# The receive loop

## The model

The loops of `pa::smpp::session::do_receive` and `pa::pinex::session::do_receive` are the same text up
to `header_length`, `deserialize_header` and what is done with a PDU. A `Framing` is the first two.
`turn` is what one pass of the loop finds, up to the call of `consume_request_pdu` or
`consume_response_pdu`. The span of the body is kept as its two ends, since nothing keeps it from ending
before it begins.

## What is proved

* `Framing.turn_some`, `Framing.turn_none` — what a pass finds, by the bytes that are buffered.
* `Framing.sound_iff` — the span is in order and a header's length is consumed, exactly when the header
  announces as much.
* `Framing.isPrefixCode` — whole frames can be cut out of a stream in one way only.
-/

namespace SmppGateway.Net

open Foundation

/-- The type of `receive_buf_`. -/
abbrev ReceiveBuffer := FlatBuffer UInt8 (1024 * 1024)

/-- `receiving_state`. -/
inductive ReceivingState where
  /-- `receiving`. -/
  | receiving
  /-- `pending_pause`. -/
  | pendingPause
  /-- `paused`. -/
  | paused
  deriving DecidableEq, Repr

/-- What `deserialize_header` gives. -/
structure Header (Id Status : Type) where
  commandLength : UInt32
  commandId : Id
  commandStatus : Status
  sequenceNumber : UInt32
  deriving DecidableEq, Repr

/-- How a session finds the PDUs in its receive buffer. -/
structure Framing (Id Status : Type) where
  /-- `header_length`. -/
  headerLength : ℕ
  headerLength_pos : 0 < headerLength
  /-- `deserialize_header`, on a span of `header_length` bytes. -/
  deserializeHeader : Bytes → Header Id Status

/-- `header_buf` read, and the two ends of `body_buf`. -/
structure Turn (Id Status : Type) where
  header : Header Id Status
  /-- `receive_buf_.begin() + header_length`. -/
  first : ℕ
  /-- `receive_buf_.begin() + command_length`. -/
  last : ℕ

namespace Framing

variable {Id Status : Type} {N : ℕ} (F : Framing Id Status)

/-- One pass of the loop in `do_receive`: nothing when it breaks, and otherwise what it is about to
consume. -/
def turn (receivingState : ReceivingState) (buf : FlatBuffer UInt8 N) : Option (Turn Id Status) :=
  if receivingState ≠ .receiving then none
  else if buf.size < F.headerLength then none
  else
    let header := F.deserializeHeader (span buf.buf_ buf.in_ (buf.in_ + F.headerLength))
    if buf.size < header.commandLength.toNat then none
    else some ⟨header, buf.in_ + F.headerLength, buf.in_ + header.commandLength.toNat⟩

/-- A pass gives away a span in order and inside the buffered bytes, and consumes a header's length. -/
def Sound (pass : FlatBuffer UInt8 N × Turn Id Status) : Prop :=
  pass.1.in_ ≤ pass.2.first ∧ pass.2.first ≤ pass.2.last ∧ pass.2.last ≤ pass.1.out_ ∧
    (pass.1.consume pass.2.header.commandLength.toNat).size + F.headerLength ≤ pass.1.size

/-- The `command_length` that bytes begin with. -/
def announced (bytes : Bytes) : ℕ :=
  (F.deserializeHeader (bytes.take F.headerLength)).commandLength.toNat

/-- Cutting the bytes at the announced lengths, behind frames that a loop goes on over, one comes to a
whole header that announces less than its own length. -/
inductive ShortHeader (GoesOn : Bytes → Prop) : Bytes → Prop where
  /-- It is the first one. -/
  | here {bytes : Bytes} (hlen : F.headerLength ≤ bytes.length) (hshort : F.announced bytes < F.headerLength) :
      ShortHeader GoesOn bytes
  /-- It comes after a whole PDU. -/
  | later {bytes : Bytes} (hlen : F.headerLength ≤ bytes.length)
      (hannounced : F.headerLength ≤ F.announced bytes) (hwhole : F.announced bytes ≤ bytes.length)
      (hgoes : GoesOn (bytes.take (F.announced bytes)))
      (hrest : ShortHeader GoesOn (bytes.drop (F.announced bytes))) : ShortHeader GoesOn bytes

/-- A whole PDU, header and body. -/
def IsFrame (frame : Bytes) : Prop := F.headerLength ≤ frame.length ∧ F.announced frame = frame.length

instance (frame : Bytes) : Decidable (F.IsFrame frame) := by unfold IsFrame; infer_instance

/-- The bytes do not begin with a whole PDU. -/
def Incomplete (bytes : Bytes) : Prop :=
  bytes.length < F.headerLength ∨ bytes.length < F.announced bytes

variable {F}

/-! ### Cutting a stream into frames -/

theorem announced_append {bytes more : Bytes} (h : F.headerLength ≤ bytes.length) :
    F.announced (bytes ++ more) = F.announced bytes := by
  rw [announced, announced, List.take_append_of_le_length h]

/-- **Frames are a prefix code.** -/
theorem isPrefixCode (F : Framing Id Status) : PrefixCode F.IsFrame where
  ne_nil := by
    rintro _ ⟨hlen, -⟩ rfl
    exact absurd F.headerLength_pos (Nat.not_lt.mpr hlen)
  eq_of_prefix := by
    rintro v _ ⟨hv, hvlen⟩ ⟨-, hwlen⟩ ⟨t, rfl⟩
    rw [announced_append hv, hvlen, List.length_append] at hwlen
    have ht : t = [] := List.eq_nil_of_length_eq_zero (by omega)
    rw [ht, List.append_nil]

/-- Frames to come begin with a whole one. -/
theorem not_incomplete_of_frame {frame more : Bytes} (h : F.IsFrame frame) :
    ¬ F.Incomplete (frame ++ more) := by
  obtain ⟨hlen, hannounced⟩ := h
  rw [Incomplete, announced_append hlen, hannounced, List.length_append]
  omega

/-! ### One pass -/

section Pass

variable {receivingState : ReceivingState} {buf : FlatBuffer UInt8 N} {t : Turn Id Status}

theorem span_header (h : F.headerLength ≤ buf.size) :
    span buf.buf_ buf.in_ (buf.in_ + F.headerLength) = buf.contents.take F.headerLength := by
  simpa using buf.span_begin (i := 0) h

theorem turn_pdu (hlen : F.headerLength ≤ buf.size) (hwhole : F.announced buf.contents ≤ buf.size) :
    F.turn .receiving buf = some ⟨F.deserializeHeader (buf.contents.take F.headerLength),
      buf.in_ + F.headerLength, buf.in_ + F.announced buf.contents⟩ := by
  rw [turn, if_neg (by simp), if_neg (Nat.not_lt.mpr hlen), span_header hlen]
  exact if_neg (Nat.not_lt.mpr hwhole)

/-- What a pass finds, when it finds something. -/
theorem turn_some (h : F.turn receivingState buf = some t) :
    receivingState = .receiving ∧ F.headerLength ≤ buf.size ∧ F.announced buf.contents ≤ buf.size ∧
      t = ⟨F.deserializeHeader (buf.contents.take F.headerLength), buf.in_ + F.headerLength,
        buf.in_ + F.announced buf.contents⟩ := by
  rw [turn] at h
  split at h
  · cases h
  · rename_i hreceiving
    split at h
    · cases h
    · rename_i hlen
      rw [span_header (Nat.not_lt.mp hlen)] at h
      simp only at h
      split at h
      · cases h
      · rename_i hwhole
        exact ⟨by simpa using hreceiving, Nat.not_lt.mp hlen, Nat.not_lt.mp hwhole, (Option.some.inj h).symm⟩

/-- When it finds nothing, the session does not receive or has no whole PDU. -/
theorem turn_none (h : F.turn receivingState buf = none) :
    receivingState ≠ .receiving ∨ F.Incomplete buf.contents := by
  by_cases hreceiving : receivingState = .receiving
  · subst hreceiving
    refine .inr (by_contra fun hwhole => ?_)
    rw [Incomplete, FlatBuffer.length_contents, not_or] at hwhole
    rw [turn_pdu (Nat.not_lt.mp hwhole.1) (Nat.not_lt.mp hwhole.2)] at h
    cases h
  · exact .inl hreceiving

/-- **A pass is sound** exactly when the header announces its own length at least. -/
theorem sound_iff (h : F.turn receivingState buf = some t) :
    F.Sound (buf, t) ↔ F.headerLength ≤ F.announced buf.contents := by
  obtain ⟨-, hlen, hwhole, rfl⟩ := turn_some h
  have hend := buf.in_add_size
  have hcommand : (F.deserializeHeader (buf.contents.take F.headerLength)).commandLength.toNat =
      F.announced buf.contents := rfl
  simp only [Sound, FlatBuffer.size_consume, hcommand]
  omega

end Pass

end Framing

end SmppGateway.Net
