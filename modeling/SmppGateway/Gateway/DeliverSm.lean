import SmppGateway.Smpp.Pdu
import SmppGateway.Smpp.ShortMessage

/-!
# The `deliver_sm` of a request

`sgw_external_client::send_deliver_sm` makes a `deliver_sm` from a `Deliver_Sm_Req` of the backend: the text
gets a user data header if it is one of several parts, and `esm_class` is copied.

## The model

The messages have the fields that the function reads; an `int32` is converted to a narrower unsigned type by
its low bits.

## What is proved

* `DeliverSmReq.agrees_iff` — the message that is sent is unpacked into the text and the data of the part
  exactly when `esm_class` says what the number of parts says, and the data of the part fits its fields.
-/

namespace SmppGateway.Gateway

open Foundation Smpp

/-- The conversion of an `int32` to `uint8_t`. -/
def u8 (x : Int32) : UInt8 := x.toUInt32.toUInt8

/-- The conversion of an `int32` to `uint16_t`. -/
def u16 (x : Int32) : UInt16 := x.toUInt32.toUInt16

/-- `SMSC::Protobuf::SMPP_SM`. -/
structure SmppSm where
  serviceType : Bytes
  sourceAddrTon : Int32
  sourceAddrNpi : Int32
  sourceAddr : Bytes
  destAddrTon : Int32
  destAddrNpi : Int32
  destAddr : Bytes
  esmClass : Int32
  protocolId : Int32
  priorityFlag : Int32
  registeredDelivery : Int32
  replaceIfPresentFlag : Int32
  smDefaultMsgId : Int32

/-- `SMSC::Protobuf::Message_Body`. -/
structure MessageBody where
  dataCoding : Int32
  sarMsgRefNum : Int32
  sarTotalSegments : Int32
  sarSegmentSeqnum : Int32
  shortMessage : Bytes

/-- `SMSC::Protobuf::SMPP::Deliver_Sm_Req`. -/
structure DeliverSmReq where
  smpp : SmppSm
  body : MessageBody

/-- The loop that takes every second byte; behind the last byte of a string there is a zero. -/
def latin1 : Bytes → Bytes
  | [] => []
  | [c] => [if c = 0 then 0 else 0x20]
  | c :: d :: rest => (if c = 0 then d else 0x20) :: latin1 rest

namespace DeliverSmReq

/-- `mpd`. -/
def multiPartData (request : DeliverSmReq) : MultiPartData where
  concat_sm_ref_num_ := u16 request.body.sarMsgRefNum
  number_of_parts_ := u8 request.body.sarTotalSegments
  sequence_number_ := u8 request.body.sarSegmentSeqnum

/-- `udh`. -/
def udh (request : DeliverSmReq) : UserDataHeader :=
  if request.body.sarTotalSegments > 1 then UserDataHeader.empty.setMultiPartData request.multiPartData
  else .empty

/-- `body`, after its conversion. -/
def convertedBody (request : DeliverSmReq) : Bytes :=
  let dct := extractUnicode (u8 request.body.dataCoding)
  if dct = .ascii8Bit ∨ dct = .ascii7Bit then latin1 request.body.shortMessage else request.body.shortMessage

/-- What `send_deliver_sm` passes to `session->send`, if nothing throws before. -/
def deliverSm (request : DeliverSmReq) : Except Fault DeliverSm :=
  match packShortMessage request.udh request.convertedBody (u8 request.body.dataCoding) with
  | .error e => .error e
  | .ok msgBody =>
    .ok {
      serviceType := request.smpp.serviceType
      sourceAddrTon := u8 request.smpp.sourceAddrTon
      sourceAddrNpi := u8 request.smpp.sourceAddrNpi
      sourceAddr := request.smpp.sourceAddr
      destAddrTon := u8 request.smpp.destAddrTon
      destAddrNpi := u8 request.smpp.destAddrNpi
      destAddr := request.smpp.destAddr
      esmClass := EsmClass.fromU8 (u8 request.smpp.esmClass)
      protocolId := u8 request.smpp.protocolId
      priorityFlag := u8 request.smpp.priorityFlag
      scheduleDeliveryTime := []
      validityPeriod := []
      registeredDelivery := RegisteredDelivery.fromU8 (u8 request.smpp.registeredDelivery)
      replaceIfPresentFlag := u8 request.smpp.replaceIfPresentFlag
      dataCoding := u8 request.body.dataCoding
      smDefaultMsgId := u8 request.smpp.smDefaultMsgId
      shortMessage := msgBody
      oparam := OParam.empty }

/-- The header carries the data of the part. -/
def Carries (header : UserDataHeader) (body : MessageBody) : Prop :=
  ∃ mpd : MultiPartData, header = UserDataHeader.empty.setMultiPartData mpd ∧
    (mpd.concat_sm_ref_num_.toNat : ℤ) = body.sarMsgRefNum.toInt ∧
    (mpd.number_of_parts_.toNat : ℤ) = body.sarTotalSegments.toInt ∧
    (mpd.sequence_number_.toNat : ℤ) = body.sarSegmentSeqnum.toInt

/-- The flag says whether a header was put in front of the text, and unpacking the message gives the text and
the data of the part. -/
structure Agrees (request : DeliverSmReq) (pdu : DeliverSm) : Prop where
  flag : pdu.esmClass.udhi = true ↔ request.udh.serialize ≠ []
  unpacked : ∃ header, unpackShortMessage pdu.esmClass pdu.dataCoding pdu.shortMessage =
      .ok (header, request.convertedBody) ∧
    (request.body.sarTotalSegments > 1 → Carries header request.body)

/-- The UDHI bit is set exactly in the requests of several parts, and the data of the part fits its fields. -/
structure Consistent (request : DeliverSmReq) : Prop where
  udhi : u8 request.smpp.esmClass &&& 0x40 ≠ 0 ↔ request.body.sarTotalSegments > 1
  fits : request.body.sarTotalSegments > 1 →
    (0 ≤ request.body.sarMsgRefNum.toInt ∧ request.body.sarMsgRefNum.toInt < 2 ^ 16) ∧
    request.body.sarTotalSegments.toInt < 2 ^ 8 ∧
    0 ≤ request.body.sarSegmentSeqnum.toInt ∧ request.body.sarSegmentSeqnum.toInt < 2 ^ 8

end DeliverSmReq

/-! ### Conversions -/

theorem toInt_eq (x : Int32) :
    x.toInt = if x.toUInt32.toNat < 2 ^ 31 then (x.toUInt32.toNat : ℤ) else x.toUInt32.toNat - 2 ^ 32 := by
  have htoInt : x.toInt = x.toUInt32.toBitVec.toInt := rfl
  rw [htoInt, BitVec.toInt_eq_toNat_cond, UInt32.toNat_toBitVec]
  split <;> split <;> omega

theorem toNat_u8_eq_iff (x : Int32) : ((u8 x).toNat : ℤ) = x.toInt ↔ 0 ≤ x.toInt ∧ x.toInt < 2 ^ 8 := by
  have hlt := x.toUInt32.toNat_lt
  rw [toInt_eq, u8, UInt32.toNat_toUInt8]
  split <;> omega

theorem toNat_u16_eq_iff (x : Int32) : ((u16 x).toNat : ℤ) = x.toInt ↔ 0 ≤ x.toInt ∧ x.toInt < 2 ^ 16 := by
  have hlt := x.toUInt32.toNat_lt
  rw [toInt_eq, u16, UInt32.toNat_toUInt16]
  split <;> omega

theorem udhi_fromU8 (value : UInt8) : (EsmClass.fromU8 value).udhi = true ↔ value &&& 0x40 ≠ 0 := by
  have hall : ∀ b : Fin 256, (EsmClass.fromU8 (UInt8.ofFin b)).udhi = true ↔ UInt8.ofFin b &&& 0x40 ≠ 0 := by
    decide +kernel
  exact hall value.toFin

namespace DeliverSmReq

variable {request : DeliverSmReq} {pdu : DeliverSm}

/-- There is a header exactly if there are several parts. -/
theorem serialize_udh_ne_nil_iff : request.udh.serialize ≠ [] ↔ request.body.sarTotalSegments > 1 := by
  rw [Ne, UserDataHeader.serialize_eq_nil_iff, udh]
  split
  · rename_i hmulti
    simp only [hmulti, iff_true]
    unfold UserDataHeader.setMultiPartData
    split <;> simp [UserDataHeader.empty]
  · rename_i hsingle
    simp [hsingle]

/-- What is copied into the message, and how its text is packed. -/
theorem deliverSm_eq_ok (h : request.deliverSm = .ok pdu) :
    pdu.esmClass = EsmClass.fromU8 (u8 request.smpp.esmClass) ∧ pdu.dataCoding = u8 request.body.dataCoding ∧
      packShortMessage request.udh request.convertedBody pdu.dataCoding = .ok pdu.shortMessage := by
  unfold deliverSm at h
  split at h
  · cases h
  · rename_i msgBody hpack
    cases h
    exact ⟨rfl, rfl, hpack⟩

/-- **The text is unpacked** exactly when the bit says what the number of parts says. -/
theorem unpack_iff (h : request.deliverSm = .ok pdu) :
    unpackShortMessage pdu.esmClass pdu.dataCoding pdu.shortMessage = .ok (request.udh, request.convertedBody) ↔
      (u8 request.smpp.esmClass &&& 0x40 ≠ 0 ↔ request.body.sarTotalSegments > 1) := by
  obtain ⟨hesm, -, hpack⟩ := deliverSm_eq_ok h
  rw [unpackShortMessage_packShortMessage_iff hpack, serialize_udh_ne_nil_iff, hesm, udhi_fromU8]

/-- The header of a part carries its data exactly when the data fits. -/
theorem carries_udh_iff (hmulti : request.body.sarTotalSegments > 1) :
    Carries request.udh request.body ↔
      (0 ≤ request.body.sarMsgRefNum.toInt ∧ request.body.sarMsgRefNum.toInt < 2 ^ 16) ∧
      request.body.sarTotalSegments.toInt < 2 ^ 8 ∧
      0 ≤ request.body.sarSegmentSeqnum.toInt ∧ request.body.sarSegmentSeqnum.toInt < 2 ^ 8 := by
  have hpositive : (1 : ℤ) < request.body.sarTotalSegments.toInt := Int32.lt_iff_toInt_lt.mp hmulti
  have hcarries : Carries request.udh request.body ↔
      ((request.multiPartData.concat_sm_ref_num_.toNat : ℤ) = request.body.sarMsgRefNum.toInt ∧
        (request.multiPartData.number_of_parts_.toNat : ℤ) = request.body.sarTotalSegments.toInt ∧
        (request.multiPartData.sequence_number_.toNat : ℤ) = request.body.sarSegmentSeqnum.toInt) := by
    rw [Carries, udh, if_pos hmulti]
    simp [UserDataHeader.setMultiPartData_inj]
  rw [hcarries]
  simp only [multiPartData, toNat_u8_eq_iff, toNat_u16_eq_iff]
  omega

/-- **The flag and the header agree**, and unpacking gives back the text and the data of the part, exactly
for the consistent requests. -/
theorem agrees_iff (h : request.deliverSm = .ok pdu) : request.Agrees pdu ↔ request.Consistent := by
  obtain ⟨hesm, -, hpack⟩ := deliverSm_eq_ok h
  have hflag : pdu.esmClass.udhi = true ↔ u8 request.smpp.esmClass &&& 0x40 ≠ 0 := by rw [hesm, udhi_fromU8]
  constructor
  · rintro ⟨hagree, header, hunpack, hcarries⟩
    have hconsistent : u8 request.smpp.esmClass &&& 0x40 ≠ 0 ↔ request.body.sarTotalSegments > 1 := by
      rw [← hflag, hagree, serialize_udh_ne_nil_iff]
    have hread := (unpack_iff h).mpr hconsistent
    rw [hread] at hunpack
    cases hunpack
    exact ⟨hconsistent, fun hmulti => (carries_udh_iff hmulti).mp (hcarries hmulti)⟩
  · rintro ⟨hudhi, hfits⟩
    refine ⟨by rw [hflag, hudhi, serialize_udh_ne_nil_iff], request.udh, (unpack_iff h).mpr hudhi, ?_⟩
    intro hmulti
    exact (carries_udh_iff hmulti).mpr (hfits hmulti)

/-- A request with the text `hi` as one of several parts, or alone. -/
def hiRequest (esmClass sarTotalSegments : Int32) : DeliverSmReq where
  smpp := ⟨[], 1, 1, [57, 56], 1, 1, [57, 57], esmClass, 0, 0, 0, 0, 0⟩
  body := ⟨0, 7, sarTotalSegments, 1, [0, 104, 0, 105]⟩

theorem agrees_iff_hiRequest :
    ∃ pdu, (hiRequest 0x40 2).deliverSm = .ok pdu ∧ (hiRequest 0x40 2).Agrees pdu :=
  ⟨_, rfl, (agrees_iff rfl).mpr ⟨by decide, fun _ => by decide⟩⟩

/-- The first of two parts is sent without the flag. -/
theorem not_agrees : ¬ ∀ (request : DeliverSmReq) (pdu : DeliverSm),
    request.deliverSm = .ok pdu → request.Agrees pdu := by
  intro h
  have hagrees := h (hiRequest 0 2) _ rfl
  have hconsistent := (agrees_iff rfl).mp hagrees
  exact absurd hconsistent.udhi (by decide)

end DeliverSmReq

end SmppGateway.Gateway
