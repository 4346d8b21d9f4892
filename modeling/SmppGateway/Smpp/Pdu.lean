import SmppGateway.Smpp.Serialization
import SmppGateway.Smpp.Param

/-!
# The PDUs

The PDUs of `src/libs/smpp/pdu`, each with its table `members<PDU>`, and the functions
`serialize_to` and `deserialize` that go through the table of a PDU.

## The model

A PDU is a structure with the fields of the source in their order, and its table is a `Layout`: the
fields of the table, the function that builds the PDU from them, and the proof that the two belong
together. The type of a bind is no field of the body; `deserialize` is given it. `PduKind` names the
types of PDUs, and what the source writes as a specialisation for a type is a function of the kind.

## What is proved

* `deserialize_serializeTo` — a PDU that was read from any bytes can be written, and reading what was
  written, as the type its `command_id_of` says, gives the PDU.
* `deserialize_serializeTo_iff` — a PDU that can be written is read back exactly when none of its
  C-octet strings has a zero byte.
-/

namespace SmppGateway.Smpp

open SmppGateway.Foundation

/-- `ton`. -/
abbrev Ton := UInt8

/-- `npi`. -/
abbrev Npi := UInt8

/-- `enum_flag` for `esm_class`. -/
def esmClassFlag : FieldCodec EsmClass Anything :=
  enumFlag EsmClass.fromU8 EsmClass.toU8 EsmClass.fromU8_toU8

/-- `enum_flag` for `registered_delivery`. -/
def registeredDeliveryFlag : FieldCodec RegisteredDelivery Anything :=
  enumFlag RegisteredDelivery.fromU8 RegisteredDelivery.toU8 RegisteredDelivery.fromU8_toU8

/-! ### The PDUs and their tables -/

/-- `bind_request`. -/
structure BindRequest where
  /-- `bind_type`. -/
  bindType : BindType
  /-- `system_id`. -/
  systemId : Bytes
  /-- `password`. -/
  password : Bytes
  /-- `system_type`. -/
  systemType : Bytes
  /-- `interface_version`. -/
  interfaceVersion : UInt8
  /-- `addr_ton`. -/
  addrTon : Ton
  /-- `addr_npi`. -/
  addrNpi : Npi
  /-- `address_range`. -/
  addressRange : Bytes

/-- `bind_resp`. -/
structure BindResp where
  /-- `bind_type`. -/
  bindType : BindType
  /-- `system_id`. -/
  systemId : Bytes
  /-- `oparam`. -/
  oparam : OParam

/-- `submit_sm`. -/
structure SubmitSm where
  /-- `service_type`. -/
  serviceType : Bytes
  /-- `source_addr_ton`. -/
  sourceAddrTon : Ton
  /-- `source_addr_npi`. -/
  sourceAddrNpi : Npi
  /-- `source_addr`. -/
  sourceAddr : Bytes
  /-- `dest_addr_ton`. -/
  destAddrTon : Ton
  /-- `dest_addr_npi`. -/
  destAddrNpi : Npi
  /-- `dest_addr`. -/
  destAddr : Bytes
  /-- `esm_class`. -/
  esmClass : EsmClass
  /-- `protocol_id`. -/
  protocolId : UInt8
  /-- `priority_flag`. -/
  priorityFlag : UInt8
  /-- `schedule_delivery_time`. -/
  scheduleDeliveryTime : Bytes
  /-- `validity_period`. -/
  validityPeriod : Bytes
  /-- `registered_delivery`. -/
  registeredDelivery : RegisteredDelivery
  /-- `replace_if_present_flag`. -/
  replaceIfPresentFlag : UInt8
  /-- `data_coding`. -/
  dataCoding : UInt8
  /-- `sm_default_msg_id`. -/
  smDefaultMsgId : UInt8
  /-- `short_message`. -/
  shortMessage : Bytes
  /-- `oparam`. -/
  oparam : OParam

/-- `submit_sm_resp`. -/
structure SubmitSmResp where
  /-- `message_id`. -/
  messageId : Bytes

/-- `deliver_sm`. -/
structure DeliverSm where
  /-- `service_type`. -/
  serviceType : Bytes
  /-- `source_addr_ton`. -/
  sourceAddrTon : Ton
  /-- `source_addr_npi`. -/
  sourceAddrNpi : Npi
  /-- `source_addr`. -/
  sourceAddr : Bytes
  /-- `dest_addr_ton`. -/
  destAddrTon : Ton
  /-- `dest_addr_npi`. -/
  destAddrNpi : Npi
  /-- `dest_addr`. -/
  destAddr : Bytes
  /-- `esm_class`. -/
  esmClass : EsmClass
  /-- `protocol_id`. -/
  protocolId : UInt8
  /-- `priority_flag`. -/
  priorityFlag : UInt8
  /-- `schedule_delivery_time`. -/
  scheduleDeliveryTime : Bytes
  /-- `validity_period`. -/
  validityPeriod : Bytes
  /-- `registered_delivery`. -/
  registeredDelivery : RegisteredDelivery
  /-- `replace_if_present_flag`. -/
  replaceIfPresentFlag : UInt8
  /-- `data_coding`. -/
  dataCoding : UInt8
  /-- `sm_default_msg_id`. -/
  smDefaultMsgId : UInt8
  /-- `short_message`. -/
  shortMessage : Bytes
  /-- `oparam`. -/
  oparam : OParam

/-- `deliver_sm_resp`. -/
structure DeliverSmResp where
  /-- `message_id`. -/
  messageId : Bytes

/-- `data_sm`. -/
structure DataSm where
  /-- `service_type`. -/
  serviceType : Bytes
  /-- `source_addr_ton`. -/
  sourceAddrTon : Ton
  /-- `source_addr_npi`. -/
  sourceAddrNpi : Npi
  /-- `source_addr`. -/
  sourceAddr : Bytes
  /-- `dest_addr_ton`. -/
  destAddrTon : Ton
  /-- `dest_addr_npi`. -/
  destAddrNpi : Npi
  /-- `dest_addr`. -/
  destAddr : Bytes
  /-- `esm_class`. -/
  esmClass : EsmClass
  /-- `registered_delivery`. -/
  registeredDelivery : RegisteredDelivery
  /-- `data_coding`. -/
  dataCoding : UInt8
  /-- `oparam`. -/
  oparam : OParam

/-- `data_sm_resp`. -/
structure DataSmResp where
  /-- `message_id`. -/
  messageId : Bytes
  /-- `oparam`. -/
  oparam : OParam

/-- `query_sm`. -/
structure QuerySm where
  /-- `message_id`. -/
  messageId : Bytes
  /-- `source_addr_ton`. -/
  sourceAddrTon : Ton
  /-- `source_addr_npi`. -/
  sourceAddrNpi : Npi
  /-- `source_addr`. -/
  sourceAddr : Bytes

/-- `query_sm_resp`. -/
structure QuerySmResp where
  /-- `message_id`. -/
  messageId : Bytes
  /-- `final_date`. -/
  finalDate : Bytes
  /-- `message_state`. -/
  messageState : UInt8
  /-- `error_code`. -/
  errorCode : UInt8

/-- `replace_sm`. -/
structure ReplaceSm where
  /-- `message_id`. -/
  messageId : Bytes
  /-- `source_addr_ton`. -/
  sourceAddrTon : Ton
  /-- `source_addr_npi`. -/
  sourceAddrNpi : Npi
  /-- `source_addr`. -/
  sourceAddr : Bytes
  /-- `schedule_delivery_time`. -/
  scheduleDeliveryTime : Bytes
  /-- `validity_period`. -/
  validityPeriod : Bytes
  /-- `registered_delivery`. -/
  registeredDelivery : RegisteredDelivery
  /-- `sm_default_msg_id`. -/
  smDefaultMsgId : UInt8
  /-- `short_message`. -/
  shortMessage : Bytes

/-- `replace_sm_resp`. -/
structure ReplaceSmResp where

/-- `cancel_sm`. -/
structure CancelSm where
  /-- `service_type`. -/
  serviceType : Bytes
  /-- `message_id`. -/
  messageId : Bytes
  /-- `source_addr_ton`. -/
  sourceAddrTon : Ton
  /-- `source_addr_npi`. -/
  sourceAddrNpi : Npi
  /-- `source_addr`. -/
  sourceAddr : Bytes
  /-- `dest_addr_ton`. -/
  destAddrTon : Ton
  /-- `dest_addr_npi`. -/
  destAddrNpi : Npi
  /-- `dest_addr`. -/
  destAddr : Bytes

/-- `cancel_sm_resp`. -/
structure CancelSmResp where

/-- `alert_notification`. -/
structure AlertNotification where
  /-- `source_addr_ton`. -/
  sourceAddrTon : Ton
  /-- `source_addr_npi`. -/
  sourceAddrNpi : Npi
  /-- `source_addr`. -/
  sourceAddr : Bytes
  /-- `esme_addr_ton`. -/
  esmeAddrTon : Ton
  /-- `esme_addr_npi`. -/
  esmeAddrNpi : Npi
  /-- `esme_addr`. -/
  esmeAddr : Bytes
  /-- `oparam`. -/
  oparam : OParam

/-- `generic_nack`. -/
structure GenericNack where

/-- `members<bind_request>`. -/
def BindRequest.layout : Layout BindRequest BindType where
  C := _
  make bindType := BindRequest.mk bindType
  members :=
    .field ⟨cOctetStr 31, (·.systemId), ascii "system_id"⟩ <|
    .field ⟨cOctetStr 31, (·.password), ascii "password"⟩ <|
    .field ⟨cOctetStr 13, (·.systemType), ascii "system_type"⟩ <|
    .field ⟨enumU8, (·.interfaceVersion), ascii "interface_version"⟩ <|
    .field ⟨enumU8, (·.addrTon), ascii "addr_ton"⟩ <|
    .field ⟨enumU8, (·.addrNpi), ascii "addr_npi"⟩ <|
    .field ⟨cOctetStr 41, (·.addressRange), ascii "address_range"⟩ .done
  args pdu := pdu.bindType
  rebuild_make _ := rfl
  projects_make _ := by simp [Members.Projects, Members.ForAll]
  args_make _ := by simp [Members.ForAll]

/-- `members<bind_resp>`. -/
def BindResp.layout : Layout BindResp BindType where
  C := _
  make bindType := BindResp.mk bindType
  members :=
    .field ⟨cOctetStr 31, (·.systemId), ascii "system_id"⟩ <|
    .tail ⟨smart, (·.oparam), ascii "oparam"⟩
  args pdu := pdu.bindType
  rebuild_make _ := rfl
  projects_make _ := by simp [Members.Projects, Members.ForAll]
  args_make _ := by simp [Members.ForAll]

/-- `members<submit_sm>`. -/
def SubmitSm.layout : Layout SubmitSm Unit where
  C := _
  make _ := SubmitSm.mk
  members :=
    .field ⟨cOctetStr 6, (·.serviceType), ascii "service_type"⟩ <|
    .field ⟨enumU8, (·.sourceAddrTon), ascii "source_addr_ton"⟩ <|
    .field ⟨enumU8, (·.sourceAddrNpi), ascii "source_addr_npi"⟩ <|
    .field ⟨cOctetStr 21, (·.sourceAddr), ascii "source_addr"⟩ <|
    .field ⟨enumU8, (·.destAddrTon), ascii "dest_addr_ton"⟩ <|
    .field ⟨enumU8, (·.destAddrNpi), ascii "dest_addr_npi"⟩ <|
    .field ⟨cOctetStr 21, (·.destAddr), ascii "dest_addr"⟩ <|
    .field ⟨esmClassFlag, (·.esmClass), ascii "esm_class"⟩ <|
    .field ⟨u8, (·.protocolId), ascii "protocol_id"⟩ <|
    .field ⟨enumU8, (·.priorityFlag), ascii "priority_flag"⟩ <|
    .field ⟨cOctetStr 17, (·.scheduleDeliveryTime), ascii "schedule_delivery_time"⟩ <|
    .field ⟨cOctetStr 17, (·.validityPeriod), ascii "validity_period"⟩ <|
    .field ⟨registeredDeliveryFlag, (·.registeredDelivery), ascii "registered_delivery"⟩ <|
    .field ⟨enumU8, (·.replaceIfPresentFlag), ascii "replace_if_present_flag"⟩ <|
    .field ⟨enumU8, (·.dataCoding), ascii "data_coding"⟩ <|
    .field ⟨u8, (·.smDefaultMsgId), ascii "sm_default_msg_id"⟩ <|
    .field ⟨u8OctetStr 254 (by decide), (·.shortMessage), ascii "short_message"⟩ <|
    .tail ⟨smart, (·.oparam), ascii "oparam"⟩
  args _ := ()
  rebuild_make _ := rfl
  projects_make _ := by simp [Members.Projects, Members.ForAll]
  args_make _ := by simp [Members.ForAll]

/-- `members<submit_sm_resp>`. -/
def SubmitSmResp.layout : Layout SubmitSmResp Unit where
  C := _
  make _ := SubmitSmResp.mk
  members :=
    .field ⟨cOctetStr 65, (·.messageId), ascii "message_id"⟩ .done
  args _ := ()
  rebuild_make _ := rfl
  projects_make _ := by simp [Members.Projects, Members.ForAll]
  args_make _ := by simp [Members.ForAll]

/-- `members<deliver_sm>`. -/
def DeliverSm.layout : Layout DeliverSm Unit where
  C := _
  make _ := DeliverSm.mk
  members :=
    .field ⟨cOctetStr 6, (·.serviceType), ascii "service_type"⟩ <|
    .field ⟨enumU8, (·.sourceAddrTon), ascii "source_addr_ton"⟩ <|
    .field ⟨enumU8, (·.sourceAddrNpi), ascii "source_addr_npi"⟩ <|
    .field ⟨cOctetStr 21, (·.sourceAddr), ascii "source_addr"⟩ <|
    .field ⟨enumU8, (·.destAddrTon), ascii "dest_addr_ton"⟩ <|
    .field ⟨enumU8, (·.destAddrNpi), ascii "dest_addr_npi"⟩ <|
    .field ⟨cOctetStr 21, (·.destAddr), ascii "dest_addr"⟩ <|
    .field ⟨esmClassFlag, (·.esmClass), ascii "esm_class"⟩ <|
    .field ⟨u8, (·.protocolId), ascii "protocol_id"⟩ <|
    .field ⟨enumU8, (·.priorityFlag), ascii "priority_flag"⟩ <|
    .field ⟨cOctetStr 1, (·.scheduleDeliveryTime), ascii "schedule_delivery_time"⟩ <|
    .field ⟨cOctetStr 1, (·.validityPeriod), ascii "validity_period"⟩ <|
    .field ⟨registeredDeliveryFlag, (·.registeredDelivery), ascii "registered_delivery"⟩ <|
    .field ⟨enumU8, (·.replaceIfPresentFlag), ascii "replace_if_present_flag"⟩ <|
    .field ⟨enumU8, (·.dataCoding), ascii "data_coding"⟩ <|
    .field ⟨u8, (·.smDefaultMsgId), ascii "sm_default_msg_id"⟩ <|
    .field ⟨u8OctetStr 254 (by decide), (·.shortMessage), ascii "short_message"⟩ <|
    .tail ⟨smart, (·.oparam), ascii "oparam"⟩
  args _ := ()
  rebuild_make _ := rfl
  projects_make _ := by simp [Members.Projects, Members.ForAll]
  args_make _ := by simp [Members.ForAll]

/-- `members<deliver_sm_resp>`. -/
def DeliverSmResp.layout : Layout DeliverSmResp Unit where
  C := _
  make _ := DeliverSmResp.mk
  members :=
    .field ⟨cOctetStr 1, (·.messageId), ascii "message_id"⟩ .done
  args _ := ()
  rebuild_make _ := rfl
  projects_make _ := by simp [Members.Projects, Members.ForAll]
  args_make _ := by simp [Members.ForAll]

/-- `members<data_sm>`. -/
def DataSm.layout : Layout DataSm Unit where
  C := _
  make _ := DataSm.mk
  members :=
    .field ⟨cOctetStr 6, (·.serviceType), ascii "service_type"⟩ <|
    .field ⟨enumU8, (·.sourceAddrTon), ascii "source_addr_ton"⟩ <|
    .field ⟨enumU8, (·.sourceAddrNpi), ascii "source_addr_npi"⟩ <|
    .field ⟨cOctetStr 65, (·.sourceAddr), ascii "source_addr"⟩ <|
    .field ⟨enumU8, (·.destAddrTon), ascii "dest_addr_ton"⟩ <|
    .field ⟨enumU8, (·.destAddrNpi), ascii "dest_addr_npi"⟩ <|
    .field ⟨cOctetStr 65, (·.destAddr), ascii "dest_addr"⟩ <|
    .field ⟨esmClassFlag, (·.esmClass), ascii "esm_class"⟩ <|
    .field ⟨registeredDeliveryFlag, (·.registeredDelivery), ascii "registered_delivery"⟩ <|
    .field ⟨enumU8, (·.dataCoding), ascii "data_coding"⟩ <|
    .tail ⟨smart, (·.oparam), ascii "oparam"⟩
  args _ := ()
  rebuild_make _ := rfl
  projects_make _ := by simp [Members.Projects, Members.ForAll]
  args_make _ := by simp [Members.ForAll]

/-- `members<data_sm_resp>`. -/
def DataSmResp.layout : Layout DataSmResp Unit where
  C := _
  make _ := DataSmResp.mk
  members :=
    .field ⟨cOctetStr 65, (·.messageId), ascii "message_id"⟩ <|
    .tail ⟨smart, (·.oparam), ascii "oparam"⟩
  args _ := ()
  rebuild_make _ := rfl
  projects_make _ := by simp [Members.Projects, Members.ForAll]
  args_make _ := by simp [Members.ForAll]

/-- `members<query_sm>`. -/
def QuerySm.layout : Layout QuerySm Unit where
  C := _
  make _ := QuerySm.mk
  members :=
    .field ⟨cOctetStr 65, (·.messageId), ascii "message_id"⟩ <|
    .field ⟨enumU8, (·.sourceAddrTon), ascii "source_addr_ton"⟩ <|
    .field ⟨enumU8, (·.sourceAddrNpi), ascii "source_addr_npi"⟩ <|
    .field ⟨cOctetStr 21, (·.sourceAddr), ascii "source_addr"⟩ .done
  args _ := ()
  rebuild_make _ := rfl
  projects_make _ := by simp [Members.Projects, Members.ForAll]
  args_make _ := by simp [Members.ForAll]

/-- `members<query_sm_resp>`. -/
def QuerySmResp.layout : Layout QuerySmResp Unit where
  C := _
  make _ := QuerySmResp.mk
  members :=
    .field ⟨cOctetStr 65, (·.messageId), ascii "message_id"⟩ <|
    .field ⟨cOctetStr 17, (·.finalDate), ascii "final_date"⟩ <|
    .field ⟨enumU8, (·.messageState), ascii "message_state"⟩ <|
    .field ⟨u8, (·.errorCode), ascii "error_code"⟩ .done
  args _ := ()
  rebuild_make _ := rfl
  projects_make _ := by simp [Members.Projects, Members.ForAll]
  args_make _ := by simp [Members.ForAll]

/-- `members<replace_sm>`. -/
def ReplaceSm.layout : Layout ReplaceSm Unit where
  C := _
  make _ := ReplaceSm.mk
  members :=
    .field ⟨cOctetStr 65, (·.messageId), ascii "message_id"⟩ <|
    .field ⟨enumU8, (·.sourceAddrTon), ascii "source_addr_ton"⟩ <|
    .field ⟨enumU8, (·.sourceAddrNpi), ascii "source_addr_npi"⟩ <|
    .field ⟨cOctetStr 21, (·.sourceAddr), ascii "source_addr"⟩ <|
    .field ⟨cOctetStr 17, (·.scheduleDeliveryTime), ascii "schedule_delivery_time"⟩ <|
    .field ⟨cOctetStr 17, (·.validityPeriod), ascii "validity_period"⟩ <|
    .field ⟨registeredDeliveryFlag, (·.registeredDelivery), ascii "registered_delivery"⟩ <|
    .field ⟨u8, (·.smDefaultMsgId), ascii "sm_default_msg_id"⟩ <|
    .field ⟨u8OctetStr 254 (by decide), (·.shortMessage), ascii "short_message"⟩ .done
  args _ := ()
  rebuild_make _ := rfl
  projects_make _ := by simp [Members.Projects, Members.ForAll]
  args_make _ := by simp [Members.ForAll]

/-- `members<replace_sm_resp>`. -/
def ReplaceSmResp.layout : Layout ReplaceSmResp Unit where
  C := _
  make _ := ReplaceSmResp.mk
  members := .done
  args _ := ()
  rebuild_make _ := rfl
  projects_make _ := trivial
  args_make _ := by simp [Members.ForAll]

/-- `members<cancel_sm>`. -/
def CancelSm.layout : Layout CancelSm Unit where
  C := _
  make _ := CancelSm.mk
  members :=
    .field ⟨cOctetStr 6, (·.serviceType), ascii "service_type"⟩ <|
    .field ⟨cOctetStr 65, (·.messageId), ascii "message_id"⟩ <|
    .field ⟨enumU8, (·.sourceAddrTon), ascii "source_addr_ton"⟩ <|
    .field ⟨enumU8, (·.sourceAddrNpi), ascii "source_addr_npi"⟩ <|
    .field ⟨cOctetStr 21, (·.sourceAddr), ascii "source_addr"⟩ <|
    .field ⟨enumU8, (·.destAddrTon), ascii "dest_addr_ton"⟩ <|
    .field ⟨enumU8, (·.destAddrNpi), ascii "dest_addr_npi"⟩ <|
    .field ⟨cOctetStr 21, (·.destAddr), ascii "dest_addr"⟩ .done
  args _ := ()
  rebuild_make _ := rfl
  projects_make _ := by simp [Members.Projects, Members.ForAll]
  args_make _ := by simp [Members.ForAll]

/-- `members<cancel_sm_resp>`. -/
def CancelSmResp.layout : Layout CancelSmResp Unit where
  C := _
  make _ := CancelSmResp.mk
  members := .done
  args _ := ()
  rebuild_make _ := rfl
  projects_make _ := trivial
  args_make _ := by simp [Members.ForAll]

/-- `members<alert_notification>`. -/
def AlertNotification.layout : Layout AlertNotification Unit where
  C := _
  make _ := AlertNotification.mk
  members :=
    .field ⟨enumU8, (·.sourceAddrTon), ascii "source_addr_ton"⟩ <|
    .field ⟨enumU8, (·.sourceAddrNpi), ascii "source_addr_npi"⟩ <|
    .field ⟨cOctetStr 65, (·.sourceAddr), ascii "source_addr"⟩ <|
    .field ⟨enumU8, (·.esmeAddrTon), ascii "esme_addr_ton"⟩ <|
    .field ⟨enumU8, (·.esmeAddrNpi), ascii "esme_addr_npi"⟩ <|
    .field ⟨cOctetStr 65, (·.esmeAddr), ascii "esme_addr"⟩ <|
    .tail ⟨smart, (·.oparam), ascii "oparam"⟩
  args _ := ()
  rebuild_make _ := rfl
  projects_make _ := by simp [Members.Projects, Members.ForAll]
  args_make _ := by simp [Members.ForAll]

/-- `members<generic_nack>`. -/
def GenericNack.layout : Layout GenericNack Unit where
  C := _
  make _ := GenericNack.mk
  members := .done
  args _ := ()
  rebuild_make _ := rfl
  projects_make _ := trivial
  args_make _ := by simp [Members.ForAll]
/-! ### The kinds of PDU -/

/-- The types of PDUs. -/
inductive PduKind where
  /-- `bind_request`. -/
  | bindRequest
  /-- `bind_resp`. -/
  | bindResp
  /-- `submit_sm`. -/
  | submitSm
  /-- `submit_sm_resp`. -/
  | submitSmResp
  /-- `deliver_sm`. -/
  | deliverSm
  /-- `deliver_sm_resp`. -/
  | deliverSmResp
  /-- `data_sm`. -/
  | dataSm
  /-- `data_sm_resp`. -/
  | dataSmResp
  /-- `query_sm`. -/
  | querySm
  /-- `query_sm_resp`. -/
  | querySmResp
  /-- `replace_sm`. -/
  | replaceSm
  /-- `replace_sm_resp`. -/
  | replaceSmResp
  /-- `cancel_sm`. -/
  | cancelSm
  /-- `cancel_sm_resp`. -/
  | cancelSmResp
  /-- `alert_notification`. -/
  | alertNotification
  /-- `generic_nack`. -/
  | genericNack
  deriving DecidableEq, Repr

namespace PduKind

/-- The PDUs of a type. -/
def Value : PduKind → Type
  | .bindRequest => BindRequest
  | .bindResp => BindResp
  | .submitSm => SubmitSm
  | .submitSmResp => SubmitSmResp
  | .deliverSm => DeliverSm
  | .deliverSmResp => DeliverSmResp
  | .dataSm => DataSm
  | .dataSmResp => DataSmResp
  | .querySm => QuerySm
  | .querySmResp => QuerySmResp
  | .replaceSm => ReplaceSm
  | .replaceSmResp => ReplaceSmResp
  | .cancelSm => CancelSm
  | .cancelSmResp => CancelSmResp
  | .alertNotification => AlertNotification
  | .genericNack => GenericNack

/-- What `deserialize` is given besides the bytes. -/
def Args : PduKind → Type
  | .bindRequest | .bindResp => BindType
  | _ => Unit

/-- `meta_holder<PDU>`. -/
def layout : (k : PduKind) → Layout k.Value k.Args
  | .bindRequest => BindRequest.layout
  | .bindResp => BindResp.layout
  | .submitSm => SubmitSm.layout
  | .submitSmResp => SubmitSmResp.layout
  | .deliverSm => DeliverSm.layout
  | .deliverSmResp => DeliverSmResp.layout
  | .dataSm => DataSm.layout
  | .dataSmResp => DataSmResp.layout
  | .querySm => QuerySm.layout
  | .querySmResp => QuerySmResp.layout
  | .replaceSm => ReplaceSm.layout
  | .replaceSmResp => ReplaceSmResp.layout
  | .cancelSm => CancelSm.layout
  | .cancelSmResp => CancelSmResp.layout
  | .alertNotification => AlertNotification.layout
  | .genericNack => GenericNack.layout

/-- `is_response<PDU>`. -/
def isResponse : PduKind → Bool
  | .bindResp | .submitSmResp | .deliverSmResp | .dataSmResp | .querySmResp | .replaceSmResp
  | .cancelSmResp | .genericNack => true
  | _ => false

/-- `can_be_omitted<PDU>`, with the PDU that an empty body stands for. -/
def omitted : (k : PduKind) → Option (k.Args → k.Value)
  | .bindResp => some fun bindType : BindType => BindResp.mk bindType [] OParam.empty
  | .submitSmResp => some fun _ => SubmitSmResp.mk []
  | .deliverSmResp => some fun _ => DeliverSmResp.mk []
  | _ => none

/-- `command_id_of`. -/
def commandIdOf : (k : PduKind) → k.Value → CommandId
  | .bindRequest, pdu =>
    match BindRequest.bindType pdu with
    | .transmitter => CommandId.bindTransmitter
    | .receiver => CommandId.bindReceiver
    | .transceiver => CommandId.bindTransceiver
  | .bindResp, pdu =>
    match BindResp.bindType pdu with
    | .transmitter => CommandId.bindTransmitterResp
    | .receiver => CommandId.bindReceiverResp
    | .transceiver => CommandId.bindTransceiverResp
  | .submitSm, _ => CommandId.submitSm
  | .submitSmResp, _ => CommandId.submitSmResp
  | .deliverSm, _ => CommandId.deliverSm
  | .deliverSmResp, _ => CommandId.deliverSmResp
  | .dataSm, _ => CommandId.dataSm
  | .dataSmResp, _ => CommandId.dataSmResp
  | .querySm, _ => CommandId.querySm
  | .querySmResp, _ => CommandId.querySmResp
  | .replaceSm, _ => CommandId.replaceSm
  | .replaceSmResp, _ => CommandId.replaceSmResp
  | .cancelSm, _ => CommandId.cancelSm
  | .cancelSmResp, _ => CommandId.cancelSmResp
  | .alertNotification, _ => CommandId.alertNotification
  | .genericNack, _ => CommandId.genericNack

/-- `serialize_to<PDU>`. -/
def serializeTo (k : PduKind) (vec : Bytes) (pdu : k.Value) : Bytes × Except Fault Unit :=
  k.layout.serializeTo vec pdu

/-- `deserialize<PDU>`. -/
def deserialize (k : PduKind) (buf : Bytes) (args : k.Args) : Except Fault k.Value :=
  match k.omitted with
  | some make => if buf.isEmpty then .ok (make args) else k.layout.deserialize buf args
  | none => k.layout.deserialize buf args

/-- The C-octet strings of a PDU. -/
def cOctetStrings (k : PduKind) (pdu : k.Value) : List Bytes := k.layout.terminated pdu

end PduKind

/-- The type of PDU that the switches over the command id in `consume_request_pdu` and
`consume_response_pdu` deserialize, with what they give to `deserialize`. -/
def pduOf (id : CommandId) : Option (Σ k : PduKind, k.Args) :=
  if id = CommandId.bindTransmitter then some ⟨.bindRequest, BindType.transmitter⟩
  else if id = CommandId.bindReceiver then some ⟨.bindRequest, BindType.receiver⟩
  else if id = CommandId.bindTransceiver then some ⟨.bindRequest, BindType.transceiver⟩
  else if id = CommandId.querySm then some ⟨.querySm, ()⟩
  else if id = CommandId.submitSm then some ⟨.submitSm, ()⟩
  else if id = CommandId.deliverSm then some ⟨.deliverSm, ()⟩
  else if id = CommandId.replaceSm then some ⟨.replaceSm, ()⟩
  else if id = CommandId.cancelSm then some ⟨.cancelSm, ()⟩
  else if id = CommandId.alertNotification then some ⟨.alertNotification, ()⟩
  else if id = CommandId.dataSm then some ⟨.dataSm, ()⟩
  else if id = CommandId.genericNack then some ⟨.genericNack, ()⟩
  else if id = CommandId.bindTransmitterResp then some ⟨.bindResp, BindType.transmitter⟩
  else if id = CommandId.bindReceiverResp then some ⟨.bindResp, BindType.receiver⟩
  else if id = CommandId.bindTransceiverResp then some ⟨.bindResp, BindType.transceiver⟩
  else if id = CommandId.querySmResp then some ⟨.querySmResp, ()⟩
  else if id = CommandId.submitSmResp then some ⟨.submitSmResp, ()⟩
  else if id = CommandId.deliverSmResp then some ⟨.deliverSmResp, ()⟩
  else if id = CommandId.replaceSmResp then some ⟨.replaceSmResp, ()⟩
  else if id = CommandId.cancelSmResp then some ⟨.cancelSmResp, ()⟩
  else if id = CommandId.dataSmResp then some ⟨.dataSmResp, ()⟩
  else none

/-- The switches undo `command_id_of`, the type of a bind included. -/
theorem pduOf_commandIdOf (k : PduKind) (pdu : k.Value) :
    pduOf (k.commandIdOf pdu) = some ⟨k, k.layout.args pdu⟩ := by
  cases k
  case bindRequest =>
    obtain ⟨bindType, systemId, password, systemType, interfaceVersion, addrTon, addrNpi, addressRange⟩ := pdu
    cases bindType <;> rfl
  case bindResp =>
    obtain ⟨bindType, systemId, oparam⟩ := pdu
    cases bindType <;> rfl
  all_goals rfl

namespace PduKind

variable {k : PduKind}

/-- What an empty body stands for can be written, is clean, and has what was given. -/
theorem omitted_sound {make : k.Args → k.Value} (h : k.omitted = some make) (args : k.Args) :
    k.layout.Fits (make args) ∧ (∀ s ∈ k.cOctetStrings (make args), 0 ∉ s) ∧
      k.layout.args (make args) = args := by
  cases k <;> try cases h
  case bindResp =>
    exact ⟨⟨show 0 < 31 by decide, trivial⟩, by
      simp [cOctetStrings, layout, BindResp.layout, Layout.terminated, Members.terminated, cOctetStr, smart], rfl⟩
  case submitSmResp =>
    exact ⟨⟨show 0 < 65 by decide, trivial⟩, by
      simp [cOctetStrings, layout, SubmitSmResp.layout, Layout.terminated, Members.terminated, cOctetStr], rfl⟩
  case deliverSmResp =>
    exact ⟨⟨show 0 < 1 by decide, trivial⟩, by
      simp [cOctetStrings, layout, DeliverSmResp.layout, Layout.terminated, Members.terminated, cOctetStr], rfl⟩

theorem wire_ne_nil {make : k.Args → k.Value} (h : k.omitted = some make) (pdu : k.Value) :
    k.layout.wire pdu ≠ [] := by
  cases k <;> try cases h
  all_goals exact List.append_ne_nil_of_left_ne_nil (List.append_ne_nil_of_right_ne_nil _ (by simp)) _

/-- **What is read** can be written, is clean, and has what was given. -/
theorem deserialize_sound {buf : Bytes} {args : k.Args} {pdu : k.Value}
    (h : k.deserialize buf args = .ok pdu) :
    k.layout.Fits pdu ∧ (∀ s ∈ k.cOctetStrings pdu, 0 ∉ s) ∧ k.layout.args pdu = args := by
  rw [deserialize] at h
  split at h
  · rename_i make hmake
    split at h
    · cases h
      exact omitted_sound hmake args
    · exact Layout.deserialize_sound h
  · exact Layout.deserialize_sound h

/-- **Reading back** a clean PDU. -/
theorem deserialize_wire {pdu : k.Value} (hfits : k.layout.Fits pdu)
    (hclean : ∀ s ∈ k.cOctetStrings pdu, 0 ∉ s) :
    k.deserialize (k.layout.wire pdu) (k.layout.args pdu) = .ok pdu := by
  rw [deserialize]
  split
  · rename_i make hmake
    rw [if_neg (by simpa using wire_ne_nil hmake pdu)]
    exact Layout.deserialize_wire hfits hclean
  · exact Layout.deserialize_wire hfits hclean

end PduKind

/-! ### Round trips -/

/-- **Decoding, encoding and decoding**: whatever bytes a PDU was read from, it can be written, and the
bytes written, read as what its command id says, give the PDU again. -/
theorem deserialize_serializeTo {k : PduKind} {buf : Bytes} {args : k.Args} {pdu : k.Value}
    (h : k.deserialize buf args = .ok pdu) (vec : Bytes) :
    ∃ body, k.serializeTo vec pdu = (vec ++ body, .ok ()) ∧
      ∃ args', pduOf (k.commandIdOf pdu) = some ⟨k, args'⟩ ∧ k.deserialize body args' = .ok pdu := by
  obtain ⟨hfits, hclean, -⟩ := PduKind.deserialize_sound h
  exact ⟨k.layout.wire pdu, Layout.serializeTo_of_fits hfits, k.layout.args pdu, pduOf_commandIdOf k pdu,
    PduKind.deserialize_wire hfits hclean⟩

theorem deserialize_serializeTo_bindRequest :
    ∃ body, PduKind.serializeTo .bindRequest [1] (BindRequest.mk .receiver [97] [] [] 0x34 0 0 []) =
        ([1] ++ body, .ok ()) ∧
      ∃ args', pduOf (PduKind.commandIdOf .bindRequest (BindRequest.mk .receiver [97] [] [] 0x34 0 0 [])) =
          some ⟨.bindRequest, args'⟩ ∧
        PduKind.deserialize .bindRequest body args' = .ok (BindRequest.mk .receiver [97] [] [] 0x34 0 0 []) :=
  @deserialize_serializeTo .bindRequest [97, 0, 0, 0, 0x34, 0, 0, 0, 0xFF] BindType.receiver _ rfl [1]

/-- **Encoding and decoding**: a PDU that can be written is read back, as what its command id says,
exactly when none of its C-octet strings has a zero byte. -/
theorem deserialize_serializeTo_iff {k : PduKind} {vec : Bytes} {pdu : k.Value}
    (h : (k.serializeTo vec pdu).2 = .ok ()) :
    (∃ body args, (k.serializeTo vec pdu).1 = vec ++ body ∧ pduOf (k.commandIdOf pdu) = some ⟨k, args⟩ ∧
        k.deserialize body args = .ok pdu) ↔
      ∀ s ∈ k.cOctetStrings pdu, 0 ∉ s := by
  have hfits : k.layout.Fits pdu := Layout.fits_of_serializeTo h
  constructor
  · rintro ⟨body, args, -, -, hread⟩
    exact (PduKind.deserialize_sound hread).2.1
  · intro hclean
    exact ⟨k.layout.wire pdu, k.layout.args pdu, congrArg Prod.fst (Layout.serializeTo_of_fits hfits),
      pduOf_commandIdOf k pdu, PduKind.deserialize_wire hfits hclean⟩

/-- A report from a number whose text has a zero byte in it, as it may come from the backend. -/
def zeroSource : DeliverSm where
  serviceType := []
  sourceAddrTon := 1
  sourceAddrNpi := 1
  sourceAddr := [57, 0, 56]
  destAddrTon := 1
  destAddrNpi := 1
  destAddr := [57, 56]
  esmClass := EsmClass.fromU8 0
  protocolId := 0
  priorityFlag := 0
  scheduleDeliveryTime := []
  validityPeriod := []
  registeredDelivery := RegisteredDelivery.fromU8 0
  replaceIfPresentFlag := 0
  dataCoding := 0
  smDefaultMsgId := 0
  shortMessage := []
  oparam := OParam.empty

/-- A report from a number of digits, with a text. -/
def digitSource : DeliverSm := { zeroSource with sourceAddr := [57, 56], shortMessage := [105, 100, 0] }

theorem deserialize_serializeTo_iff_digitSource :
    ∃ body args, (PduKind.serializeTo .deliverSm [] digitSource).1 = [] ++ body ∧
      pduOf (PduKind.commandIdOf .deliverSm digitSource) = some ⟨.deliverSm, args⟩ ∧
        PduKind.deserialize .deliverSm body args = .ok digitSource :=
  (deserialize_serializeTo_iff rfl).mpr (by decide)

/-- The report is written, and what is written is not read back as the report. -/
theorem not_deserialize_serializeTo : ¬ ∀ (k : PduKind) (vec : Bytes) (pdu : k.Value),
    (k.serializeTo vec pdu).2 = .ok () →
      ∃ body args, (k.serializeTo vec pdu).1 = vec ++ body ∧ pduOf (k.commandIdOf pdu) = some ⟨k, args⟩ ∧
        k.deserialize body args = .ok pdu := by
  intro h
  obtain ⟨body, args, -, -, hread⟩ := h .deliverSm [] zeroSource rfl
  have hclean := (PduKind.deserialize_sound hread).2.1
  exact hclean [57, 0, 56] (by decide) (by decide)

end SmppGateway.Smpp
