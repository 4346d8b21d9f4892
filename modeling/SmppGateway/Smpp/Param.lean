import SmppGateway.Foundation.Text

/-!
# Commands and flags

The enumerations of `src/libs/smpp/common` and the two flag bytes of `src/libs/smpp/param`.

## The model

`command_id` and `command_status` have the underlying type `uint32_t` and are cast from the wire, so
every 32-bit number is a value of them; the named ones are constants. `bind_type` is never cast. The
members of `esm_class` and `registered_delivery` are enumerations that `from_u8` fills with masked bytes
and that the program fills with enumerators inside the same masks, so each member is a byte
inside its mask, and the structures say so.

## What is proved

* `EsmClass.fromU8_toU8`, `RegisteredDelivery.fromU8_toU8` — joining the members into a byte and masking
  them out again gives them back.
-/

namespace SmppGateway.Smpp

/-- `command_id`. -/
abbrev CommandId := UInt32

namespace CommandId

/-- `generic_nack`. -/
def genericNack : CommandId := 0x80000000
/-- `bind_receiver`. -/
def bindReceiver : CommandId := 0x00000001
/-- `bind_receiver_resp`. -/
def bindReceiverResp : CommandId := 0x80000001
/-- `bind_transmitter`. -/
def bindTransmitter : CommandId := 0x00000002
/-- `bind_transmitter_resp`. -/
def bindTransmitterResp : CommandId := 0x80000002
/-- `query_sm`. -/
def querySm : CommandId := 0x00000003
/-- `query_sm_resp`. -/
def querySmResp : CommandId := 0x80000003
/-- `submit_sm`. -/
def submitSm : CommandId := 0x00000004
/-- `submit_sm_resp`. -/
def submitSmResp : CommandId := 0x80000004
/-- `deliver_sm`. -/
def deliverSm : CommandId := 0x00000005
/-- `deliver_sm_resp`. -/
def deliverSmResp : CommandId := 0x80000005
/-- `unbind`. -/
def unbind : CommandId := 0x00000006
/-- `unbind_resp`. -/
def unbindResp : CommandId := 0x80000006
/-- `replace_sm`. -/
def replaceSm : CommandId := 0x00000007
/-- `replace_sm_resp`. -/
def replaceSmResp : CommandId := 0x80000007
/-- `cancel_sm`. -/
def cancelSm : CommandId := 0x00000008
/-- `cancel_sm_resp`. -/
def cancelSmResp : CommandId := 0x80000008
/-- `bind_transceiver`. -/
def bindTransceiver : CommandId := 0x00000009
/-- `bind_transceiver_resp`. -/
def bindTransceiverResp : CommandId := 0x80000009
/-- `enquire_link`. -/
def enquireLink : CommandId := 0x00000015
/-- `enquire_link_resp`. -/
def enquireLinkResp : CommandId := 0x80000015
/-- `alert_notification`. -/
def alertNotification : CommandId := 0x00000102
/-- `data_sm`. -/
def dataSm : CommandId := 0x00000103
/-- `data_sm_resp`. -/
def dataSmResp : CommandId := 0x80000103

end CommandId

/-- `command_status`. -/
abbrev CommandStatus := UInt32

/-- `command_status::rok`. -/
def CommandStatus.rok : CommandStatus := 0x00000000

/-- `command_status::rinvcmdid`. -/
def CommandStatus.rinvcmdid : CommandStatus := 0x00000003

/-- `command_status::rinvbndsts`. -/
def CommandStatus.rinvbndsts : CommandStatus := 0x00000004

/-- `command_status::rsyserr`. -/
def CommandStatus.rsyserr : CommandStatus := 0x00000008

/-- `command_status::rinvsrcadr`. -/
def CommandStatus.rinvsrcadr : CommandStatus := 0x0000000a

/-- `command_status::rinvdstadr`. -/
def CommandStatus.rinvdstadr : CommandStatus := 0x0000000b

/-- `command_status::rbindfail`. -/
def CommandStatus.rbindfail : CommandStatus := 0x0000000d

/-- `command_status::rinvpaswd`. -/
def CommandStatus.rinvpaswd : CommandStatus := 0x0000000e

/-- `command_status::rinvsysid`. -/
def CommandStatus.rinvsysid : CommandStatus := 0x0000000f

/-- `command_status::rinvsrcton`. -/
def CommandStatus.rinvsrcton : CommandStatus := 0x00000048

/-- `command_status::rinvsrcnpi`. -/
def CommandStatus.rinvsrcnpi : CommandStatus := 0x00000049

/-- `command_status::rinvdstton`. -/
def CommandStatus.rinvdstton : CommandStatus := 0x00000050

/-- `command_status::rinvdstnpi`. -/
def CommandStatus.rinvdstnpi : CommandStatus := 0x00000051

/-- `command_status::rinvsystyp`. -/
def CommandStatus.rinvsystyp : CommandStatus := 0x00000053

/-- `command_status::rthrottled`. -/
def CommandStatus.rthrottled : CommandStatus := 0x00000058

/-- `command_status::rinvdcs`. -/
def CommandStatus.rinvdcs : CommandStatus := 0x00000104

/-- `command_status::rtimeout`. -/
def CommandStatus.rtimeout : CommandStatus := 0x00000401

/-- `command_status::dst_esme_not_bound`. -/
def CommandStatus.dstEsmeNotBound : CommandStatus := 0x00000403

/-- `command_status::src_has_no_credit`. -/
def CommandStatus.srcHasNoCredit : CommandStatus := 0x00000405

/-- `command_status::src_in_black_list`. -/
def CommandStatus.srcInBlackList : CommandStatus := 0x00000407

/-- `command_status::dst_in_black_list`. -/
def CommandStatus.dstInBlackList : CommandStatus := 0x00000408

/-- `command_status::src_not_in_white_list`. -/
def CommandStatus.srcNotInWhiteList : CommandStatus := 0x00000409

/-- `command_status::rinvip`. -/
def CommandStatus.rinvip : CommandStatus := 0x0000040b

/-- `bind_type`. -/
inductive BindType where
  /-- `receiver`. -/
  | receiver
  /-- `transmitter`. -/
  | transmitter
  /-- `transceiver`. -/
  | transceiver
  deriving DecidableEq, Repr

/-- A byte inside a mask. -/
abbrev Masked (mask : UInt8) := { b : UInt8 // b &&& mask = b }

/-- The bits of a byte inside a mask. -/
def masked (mask b : UInt8) : Masked mask := ⟨b &&& mask, by rw [UInt8.and_assoc, UInt8.and_self]⟩

theorem masked_val (mask b : UInt8) : (masked mask b).1 = b &&& mask := rfl

theorem or_and (a b mask : UInt8) : (a ||| b) &&& mask = a &&& mask ||| b &&& mask :=
  UInt8.toBitVec_inj.mp BitVec.and_or_distrib_right

/-- A mask takes nothing from a byte inside a mask that has no bit in common with it. -/
theorem and_eq_zero {mask mask' : UInt8} (h : mask &&& mask' = 0) (b : Masked mask) :
    b.1 &&& mask' = 0 := by
  rw [← b.2, UInt8.and_assoc, h, UInt8.and_zero]

section Joined

variable {m1 m2 m3 : UInt8} (b1 : Masked m1) (b2 : Masked m2) (b3 : Masked m3)

/-- Masking the first of three joined bytes out of the byte they make. -/
theorem masked_first (h2 : m2 &&& m1 = 0) (h3 : m3 &&& m1 = 0) :
    masked m1 (b1.1 ||| b2.1 ||| b3.1) = b1 := by
  refine Subtype.ext ?_
  rw [masked_val, or_and, or_and, b1.2, and_eq_zero h2, and_eq_zero h3, UInt8.or_zero, UInt8.or_zero]

theorem masked_second (h1 : m1 &&& m2 = 0) (h3 : m3 &&& m2 = 0) :
    masked m2 (b1.1 ||| b2.1 ||| b3.1) = b2 := by
  refine Subtype.ext ?_
  rw [masked_val, or_and, or_and, b2.2, and_eq_zero h1, and_eq_zero h3, UInt8.or_zero, UInt8.zero_or]

theorem masked_third (h1 : m1 &&& m3 = 0) (h2 : m2 &&& m3 = 0) :
    masked m3 (b1.1 ||| b2.1 ||| b3.1) = b3 := by
  refine Subtype.ext ?_
  rw [masked_val, or_and, or_and, b3.2, and_eq_zero h1, and_eq_zero h2, UInt8.or_zero, UInt8.zero_or]

end Joined

/-- `esm_class`. -/
structure EsmClass where
  /-- `messaging_mode`. -/
  messagingMode : Masked 0x03
  /-- `message_type`. -/
  messageType : Masked 0x3C
  /-- `gsm_network_features`. -/
  gsmNetworkFeatures : Masked 0xC0
  deriving DecidableEq

namespace EsmClass

/-- `from_u8`. -/
def fromU8 (value : UInt8) : EsmClass := ⟨masked 0x03 value, masked 0x3C value, masked 0xC0 value⟩

/-- `operator uint8_t`. -/
def toU8 (e : EsmClass) : UInt8 := e.messagingMode.1 ||| e.messageType.1 ||| e.gsmNetworkFeatures.1

theorem fromU8_toU8 (e : EsmClass) : fromU8 e.toU8 = e := by
  rw [fromU8, toU8, masked_first _ _ _ (by decide) (by decide), masked_second _ _ _ (by decide) (by decide),
    masked_third _ _ _ (by decide) (by decide)]

end EsmClass

/-- `registered_delivery`. -/
structure RegisteredDelivery where
  /-- `smsc_delivery_receipt`. -/
  smscDeliveryReceipt : Masked 0x03
  /-- `sme_originated_ack`. -/
  smeOriginatedAck : Masked 0x0C
  /-- `intermediate_notification`. -/
  intermediateNotification : Masked 0x10
  deriving DecidableEq

namespace RegisteredDelivery

/-- `from_u8`. -/
def fromU8 (value : UInt8) : RegisteredDelivery :=
  ⟨masked 0x03 value, masked 0x0C value, masked 0x10 value⟩

/-- `operator uint8_t`. -/
def toU8 (r : RegisteredDelivery) : UInt8 :=
  r.smscDeliveryReceipt.1 ||| r.smeOriginatedAck.1 ||| r.intermediateNotification.1

theorem fromU8_toU8 (r : RegisteredDelivery) : fromU8 r.toU8 = r := by
  rw [fromU8, toU8, masked_first _ _ _ (by decide) (by decide), masked_second _ _ _ (by decide) (by decide),
    masked_third _ _ _ (by decide) (by decide)]

end RegisteredDelivery

end SmppGateway.Smpp
