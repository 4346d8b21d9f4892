import SmppGateway.Foundation.StringStream
import SmppGateway.Gateway.DeliverSm
import SmppGateway.Gateway.SubmitPath

/-!
# The encoding of a submit

`submit_sm::encode_to_protobuf` (`src/smpp/submit_sm.cpp`): the message a submit is sent to the backend in. Both
times of the request are strings and both fields of the message are numbers; one `std::stringstream` converts
the one and then the other.

## The model

The messages are those of a `deliver_sm` with the further fields that this function sets. What
`SerializeToString` makes of the message is not modelled.

## What is proved

* `validityPeriod_eq` — what the message gets for a validity period.
* `validityPeriod_iff` — it gets the number of the request exactly if the delivery time lets it `Through`.
* `through_nil_iff`, `through_numeral_iff` — without a delivery time that is only the number zero, and with a
  number for a delivery time only this number.
-/

namespace SmppGateway.Gateway

open SmppGateway.Foundation SmppGateway.Smpp

/-- `SMPP_SM` with its times. -/
structure SubmitSmppSm extends SmppSm where
  scheduleDeliveryTime : Int32
  validityPeriod : Int32

/-- `DataCodingType`. -/
inductive DataCodingType where
  /-- `UNKNOWN`. -/
  | unknown
  /-- `DEFAULT_ALPHABET`. -/
  | defaultAlphabet
  /-- `EIGTH_BIT_DATA`. -/
  | eigthBitData
  /-- `EIGTH_BIT_ASCII`. -/
  | eigthBitAscii
  /-- `SIXTEEN_BIT_DATA`. -/
  | sixteenBitData
  /-- `RESERVED`. -/
  | reserved
  deriving DecidableEq

/-- The cast of a `data_coding_unicode`, which is by its number. -/
def DataCodingType.ofUnicode : DataCodingUnicode → DataCodingType
  | .ascii7Bit => .unknown
  | .ascii8Bit => .defaultAlphabet
  | .binary => .eigthBitData
  | .ucs2 => .eigthBitAscii

/-- `Message_Body` with all of its fields. -/
structure SubmitMessageBody extends MessageBody where
  moreMessagesToSend : Int32
  dataCodingType : DataCodingType
  header : Bytes

/-- `SMPP_MESSAGE_ID_TYPE`. -/
inductive SmppMessageIdType where
  /-- `DEC`. -/
  | dec
  /-- `HEX`. -/
  | hex
  deriving DecidableEq

/-- What the function reads of the client. -/
structure SubmitterSettings where
  system_id_ : Bytes
  ignore_user_validity_period_ : Bool
  max_submit_validity_period_ : Int32
  max_delivery_report_validity_period_ : Int32
  submit_resp_msg_id_base_ : SmppMessageIdType
  delivery_report_msg_id_base_ : SmppMessageIdType

/-- `Submit_Sm_Req`. -/
structure SubmitSmReq where
  smscUniqueId : Bytes
  cpSystemId : Bytes
  smpp : SubmitSmppSm
  body : SubmitMessageBody
  ignoreUserValidityPeriod : Bool
  maxSubmitValidityPeriod : Int32
  maxDeliveryReportValidityPeriod : Int32
  submitRespMessageIdType : SmppMessageIdType
  deliveryReportMessageIdType : SmppMessageIdType

/-- The conversion of a `uint8_t` to `int32`. -/
def i32 (x : UInt8) : Int32 := x.toUInt32.toInt32

/-- The message of `encode_to_protobuf`. -/
def encodeToProtobuf (client : SubmitterSettings) (user_data : SubmitInfo) : SubmitSmReq :=
  let mystr := StringStream.ofText user_data.request.scheduleDeliveryTime
  let (mystr, intSdt) := mystr.extractInt 0
  let scheduleDeliveryTime := Int32.ofInt intSdt
  let mystr := mystr.flush
  let mystr := mystr.insert user_data.request.validityPeriod
  let (_, intSdt) := mystr.extractInt intSdt
  { smscUniqueId := user_data.smsc_unique_id_
    cpSystemId := client.system_id_
    smpp :=
      { serviceType := user_data.request.serviceType
        sourceAddrTon := i32 user_data.request.sourceAddrTon
        sourceAddrNpi := i32 user_data.request.sourceAddrNpi
        sourceAddr := user_data.request.sourceAddr
        destAddrTon := i32 user_data.request.destAddrTon
        destAddrNpi := i32 user_data.request.destAddrNpi
        destAddr := user_data.request.destAddr
        esmClass := i32 user_data.request.esmClass.toU8
        protocolId := i32 user_data.request.protocolId
        priorityFlag := i32 user_data.request.priorityFlag
        scheduleDeliveryTime
        validityPeriod := Int32.ofInt intSdt
        registeredDelivery := i32 user_data.request.registeredDelivery.toU8
        replaceIfPresentFlag := i32 user_data.request.replaceIfPresentFlag
        smDefaultMsgId := i32 user_data.request.smDefaultMsgId }
    body :=
      { moreMessagesToSend := 0
        dataCoding := i32 user_data.request.dataCoding
        dataCodingType := .ofUnicode user_data.data_coding_type_
        sarMsgRefNum := user_data.concat_ref_num_.toUInt32.toInt32
        sarTotalSegments := i32 user_data.number_of_parts_
        sarSegmentSeqnum := i32 user_data.part_number_
        header := user_data.header
        shortMessage := user_data.body }
    ignoreUserValidityPeriod := client.ignore_user_validity_period_
    maxSubmitValidityPeriod := client.max_submit_validity_period_
    maxDeliveryReportValidityPeriod := client.max_delivery_report_validity_period_
    submitRespMessageIdType := client.submit_resp_msg_id_base_
    deliveryReportMessageIdType := client.delivery_report_msg_id_base_ }

/-- **The delivery time lets a number through**: the message gets it for a validity period with this numeral.
Where the delivery time ends the stream, the number is its own; where text follows a number, the validity
period is written over the delivery time, and what is read begins behind that number. -/
def Through (schedule validity : Bytes) (n : ℤ) : Prop :=
  let number := scan schedule
  let consumed := schedule.length - number.rest.length
  if number.digits = [] then n = 0
  else if number.rest = [] ∨ ¬ IsInt number.value then n = nearestInt number.value
  else if consumed < validity.length then
    n = nearestInt (digitsValue (validity.drop consumed ++ (schedule.drop validity.length).takeWhile isDigit))
  else if number.rest.dropWhile isSpace = [] then n = number.value
  else if (scan number.rest).digits = [] then n = 0
  else n = nearestInt (scan number.rest).value

/-! ### The two extractions -/

/-- What the message gets for a validity period: a second number only if the stream is still good. -/
theorem validityPeriod_eq (client : SubmitterSettings) (user_data : SubmitInfo) :
    (encodeToProtobuf client user_data).smpp.validityPeriod.toInt =
      let schedule := user_data.request.scheduleDeliveryTime
      let validity := user_data.request.validityPeriod
      if GoesOn schedule then
        readInt (scan schedule).value
          ((validity ++ schedule.drop validity.length).drop (schedule.length - (scan schedule).rest.length))
      else readInt 0 schedule := by
  rw [encodeToProtobuf]
  dsimp only
  generalize user_data.request.scheduleDeliveryTime = schedule
  generalize user_data.request.validityPeriod = validity
  have hfirst : ((StringStream.ofText schedule).extractInt 0).2 = readInt 0 schedule := by
    rw [StringStream.extractInt_snd, if_pos (StringStream.good_ofText schedule), StringStream.text_ofText]
  have hgood := StringStream.good_extractInt (StringStream.good_ofText schedule) 0
  rw [StringStream.text_ofText] at hgood
  have hrange : IsInt ((((StringStream.ofText schedule).extractInt 0).1.flush.insert validity).extractInt
      ((StringStream.ofText schedule).extractInt 0).2).2 :=
    StringStream.isInt_extractInt (StringStream.isInt_extractInt (show IsInt 0 by decide))
  rw [Int32.toInt_ofInt_of_le hrange.1 hrange.2, StringStream.extractInt_snd, StringStream.flush,
    StringStream.good_insert, hgood, hfirst]
  simp only [decide_eq_true_eq]
  split
  next hon => rw [StringStream.text_insert_extractInt hon, readInt_of_digits hon.1, nearestInt_eq hon.2.2]
  next => rfl

/-- **The validity period** reaches the message exactly if the delivery time lets it through. -/
theorem validityPeriod_iff (client : SubmitterSettings) (user_data : SubmitInfo) {n : ℤ}
    (h : Numeral user_data.request.validityPeriod n) :
    (encodeToProtobuf client user_data).smpp.validityPeriod.toInt = n ↔
      Through user_data.request.scheduleDeliveryTime user_data.request.validityPeriod n := by
  rw [validityPeriod_eq, Through, eq_comm]
  generalize user_data.request.scheduleDeliveryTime = schedule
  generalize user_data.request.validityPeriod = validity at h ⊢
  dsimp only
  by_cases hdigits : (scan schedule).digits = []
  · rw [if_pos hdigits, if_neg fun hon => hon.1 hdigits, readInt_of_no_digits hdigits]
  rw [if_neg hdigits]
  by_cases hends : (scan schedule).rest = [] ∨ ¬ IsInt (scan schedule).value
  · have hnot : ¬ GoesOn schedule := fun hon => hends.elim hon.2.1 fun hint => hint hon.2.2
    rw [if_pos hends, if_neg hnot, readInt_of_digits hdigits]
  rw [if_neg hends]
  rw [not_or, not_not] at hends
  rw [if_pos ⟨hdigits, hends.1, hends.2⟩]
  -- Behind the number there are only digits of the validity period.
  have hpos := length_scan_rest_lt hdigits
  generalize hconsumed : schedule.length - (scan schedule).rest.length = consumed
  split
  next hlt =>
    have hne : validity.drop consumed ≠ [] := by
      rw [← List.length_pos_iff, List.length_drop]
      omega
    have hscan := scan_digits_append hne (h.isDigit_of_mem_drop (by omega)) (schedule.drop validity.length)
    have hdigits' : (scan (validity.drop consumed ++ schedule.drop validity.length)).digits ≠ [] := by
      rw [hscan]
      exact List.append_ne_nil_of_left_ne_nil hne _
    rw [List.drop_append_of_le_length hlt.le, readInt_of_digits hdigits', hscan]
    rfl
  next hge =>
    have hrest : schedule.drop consumed = (scan schedule).rest := by
      rw [← hconsumed]
      exact (List.suffix_iff_eq_drop.mp (scan_rest_suffix schedule)).symm
    rw [List.drop_append, List.drop_eq_nil_of_le (by omega), List.nil_append, List.drop_drop,
      show validity.length + (consumed - validity.length) = consumed by omega, hrest, readInt_eq]
    split_ifs <;> rfl

/-- A client without limits of its own. -/
def plainSettings : SubmitterSettings := ⟨ascii "c", false, 0, 0, .dec, .dec⟩

/-- A submit with these two times. -/
def timedSubmit (schedule validity : Bytes) : SubmitInfo where
  id := 0
  originating_sequence_number_ := 1
  originating_ext_client_ := 0
  originating_session_ := 0
  error_ := CommandStatus.rok
  message_id_ := []
  smsc_unique_id_ := ascii "1"
  data_coding_type_ := .ascii8Bit
  body := ascii "hi"
  header := []
  concat_ref_num_ := 0
  number_of_parts_ := 1
  part_number_ := 1
  international_source_address_ := ascii "9812"
  international_dest_address_ := ascii "9813"
  request := ⟨[], 1, 1, ascii "9812", 1, 1, ascii "9813", EsmClass.fromU8 0, 0, 0, schedule, validity,
    RegisteredDelivery.fromU8 0, 0, 0, 0, ascii "hi", OParam.empty⟩

theorem validityPeriod_iff_goesOn : Through (ascii "9x") (ascii "05") 5 ∧
    (encodeToProtobuf plainSettings (timedSubmit (ascii "9x") (ascii "05"))).smpp.validityPeriod.toInt = 5 :=
  have hread : (encodeToProtobuf plainSettings
      (timedSubmit (ascii "9x") (ascii "05"))).smpp.validityPeriod.toInt = 5 := by decide
  ⟨(validityPeriod_iff plainSettings (timedSubmit (ascii "9x") (ascii "05"))
    (Numeral.plain (by decide) (List.all_eq_true.mp (by decide)))).mp hread, hread⟩

/-- Without a delivery time a validity period of five becomes zero. -/
theorem not_validityPeriod : ¬ ∀ (client : SubmitterSettings) (user_data : SubmitInfo) (n : ℤ),
    Numeral user_data.request.validityPeriod n → IsInt n →
      (encodeToProtobuf client user_data).smpp.validityPeriod.toInt = n := by
  intro h
  have hnumeral : Numeral (ascii "5") 5 := Numeral.plain (by decide) (List.all_eq_true.mp (by decide))
  have hfive := h plainSettings (timedSubmit [] (ascii "5")) 5 hnumeral (by decide)
  revert hfive
  decide

/-! ### Two kinds of delivery time -/

/-- Without a delivery time only zero comes through. -/
theorem through_nil_iff (validity : Bytes) (n : ℤ) : Through [] validity n ↔ n = 0 := Iff.rfl

/-- With a number for a delivery time only this number comes through. -/
theorem through_numeral_iff {schedule : Bytes} {m : ℤ} (h : Numeral schedule m) (hm : IsInt m) (validity : Bytes)
    (n : ℤ) : Through schedule validity n ↔ n = m := by
  obtain ⟨hdigits, hrest, hvalue⟩ := h.scan
  rw [Through, if_neg hdigits, if_pos (Or.inl hrest), hvalue, nearestInt_eq hm]

end SmppGateway.Gateway
