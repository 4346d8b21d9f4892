import Mathlib.Data.Finset.Filter
import Mathlib.Data.Finset.Insert
import SmppGateway.Gateway.SubmitPath

/-!
# The question to the policy server

`paper_client::check_policies` makes a `Request` of a submit and of the commands that are enabled for the
client.

## The model

* A `std::set` of commands is passed through in the order of their numbers.
* The fields of the message that `check_policies` does not set have their defaults and are left out.

## What is proved

* `determined_iff` — for which two submits the question tells them apart wherever a policy looks.
-/

namespace SmppGateway.Gateway

open Foundation Smpp

/-- `Request::Type`. -/
inductive RequestType where
  /-- `CREDIT_CONTROL`. -/
  | creditControl
  /-- `REFUND`. -/
  | refund
  /-- `ANTI_SPOOFING`. -/
  | antiSpoofing
  /-- `SOURCE_ADDRESS_CHECK`. -/
  | sourceAddressCheck
  /-- `DESTINATION_ADDRESS_CHECK`. -/
  | destinationAddressCheck
  /-- `SOURCE_TON_NPI_CHECK`. -/
  | sourceTonNpiCheck
  /-- `DESTINATION_TON_NPI_CHECK`. -/
  | destinationTonNpiCheck
  /-- `DCS_CHECK`. -/
  | dcsCheck
  /-- `BLACK_WHITE_CHECK`. -/
  | blackWhiteCheck
  /-- `FIREWALL_CHECK`. -/
  | firewallCheck
  /-- `CRA_CHECK`. -/
  | craCheck
  /-- `LIF`. -/
  | lif
  /-- `FILTER_RULE`. -/
  | filterRule
  /-- `FILTERING_WHITE_LIST`. -/
  | filteringWhiteList
  /-- `OPERATOR_WHITE_LIST`. -/
  | operatorWhiteList
  /-- `RESTRICTED_LIST`. -/
  | restrictedList
  /-- `ONLINE_MONITORING_LIST`. -/
  | onlineMonitoringList
  deriving DecidableEq

namespace RequestType

/-- The types, in the order of their numbers. -/
def all : List RequestType :=
  [creditControl, refund, antiSpoofing, sourceAddressCheck, destinationAddressCheck, sourceTonNpiCheck,
    destinationTonNpiCheck, dcsCheck, blackWhiteCheck, firewallCheck, craCheck, lif, filterRule,
    filteringWhiteList, operatorWhiteList, restrictedList, onlineMonitoringList]

/-- The cases of the `switch` in `check_policies`. -/
def supported : RequestType → Bool
  | sourceAddressCheck | sourceTonNpiCheck | destinationAddressCheck | destinationTonNpiCheck | dcsCheck
  | blackWhiteCheck => true
  | _ => false

theorem mem_all (t : RequestType) : t ∈ all := by cases t <;> decide

end RequestType

/-- `Request`, as far as `check_policies` sets it. -/
@[ext]
structure PolicyRequest where
  /-- `cmd_type`. -/
  cmdType : List RequestType
  /-- `src_ton`. -/
  srcTon : UInt32
  /-- `src_npi`. -/
  srcNpi : UInt32
  /-- `src_address`. -/
  srcAddress : Bytes
  /-- `dst_ton`. -/
  dstTon : UInt32
  /-- `dst_npi`. -/
  dstNpi : UInt32
  /-- `dst_address`. -/
  dstAddress : Bytes
  /-- `dcs`. -/
  dcs : Int32
  /-- `cp_system_id`. -/
  cpSystemId : Bytes
  deriving DecidableEq

/-- What `check_policies` is called with. -/
structure PolicyCheck where
  rcv_clnt_sys_id : Bytes
  /-- `user_data->request`. -/
  request : SubmitSm
  commands : Finset RequestType

namespace PolicyCheck

/-- The message of `check_policies`. -/
def cmd (c : PolicyCheck) : PolicyRequest where
  cmdType := (RequestType.all.filter fun itr => itr ∈ c.commands).filter RequestType.supported
  srcTon := c.request.destAddrTon.toUInt32
  srcNpi := c.request.sourceAddrNpi.toUInt32
  srcAddress := convertToInternational c.request.sourceAddrTon c.request.sourceAddr
  dstTon := c.request.destAddrTon.toUInt32
  dstNpi := c.request.destAddrTon.toUInt32
  dstAddress := convertToInternational c.request.destAddrTon c.request.destAddr
  dcs := c.request.dataCoding.toUInt32.toInt32
  cpSystemId := c.rcv_clnt_sys_id

/-- Two checks agree wherever a policy looks. -/
structure Agree (c d : PolicyCheck) : Prop where
  sourceAddrTon : c.request.sourceAddrTon = d.request.sourceAddrTon
  sourceAddrNpi : c.request.sourceAddrNpi = d.request.sourceAddrNpi
  destAddrTon : c.request.destAddrTon = d.request.destAddrTon
  destAddrNpi : c.request.destAddrNpi = d.request.destAddrNpi
  dataCoding : c.request.dataCoding = d.request.dataCoding
  sourceAddr : convertToInternational c.request.sourceAddrTon c.request.sourceAddr =
    convertToInternational d.request.sourceAddrTon d.request.sourceAddr
  destAddr : convertToInternational c.request.destAddrTon c.request.destAddr =
    convertToInternational d.request.destAddrTon d.request.destAddr
  commands : c.commands.filter (fun t => t.supported) = d.commands.filter fun t => t.supported

/-- Two checks agree in all that the message carries. -/
structure Alike (c d : PolicyCheck) : Prop where
  rcv_clnt_sys_id : c.rcv_clnt_sys_id = d.rcv_clnt_sys_id
  sourceAddrNpi : c.request.sourceAddrNpi = d.request.sourceAddrNpi
  destAddrTon : c.request.destAddrTon = d.request.destAddrTon
  dataCoding : c.request.dataCoding = d.request.dataCoding
  sourceAddr : convertToInternational c.request.sourceAddrTon c.request.sourceAddr =
    convertToInternational d.request.sourceAddrTon d.request.sourceAddr
  destAddr : convertToInternational c.request.destAddrTon c.request.destAddr =
    convertToInternational d.request.destAddrTon d.request.destAddr
  commands : ∀ t : RequestType, t.supported = true → (t ∈ c.commands ↔ t ∈ d.commands)

variable {c d : PolicyCheck}

theorem mem_cmdType {t : RequestType} : t ∈ c.cmd.cmdType ↔ t ∈ c.commands ∧ t.supported = true := by
  simp [cmd, RequestType.mem_all, and_comm]

/-- The commands of two messages are the same exactly if the supported commands are. -/
theorem cmdType_eq_iff :
    c.cmd.cmdType = d.cmd.cmdType ↔
      ∀ t : RequestType, t.supported = true → (t ∈ c.commands ↔ t ∈ d.commands) := by
  constructor
  · intro h t ht
    have hmem : t ∈ c.cmd.cmdType ↔ t ∈ d.cmd.cmdType := by rw [h]
    simpa only [mem_cmdType, ht, and_true] using hmem
  · intro h
    simp only [cmd, List.filter_filter]
    refine List.filter_congr fun t _ => ?_
    by_cases ht : t.supported = true
    · simp only [ht, Bool.true_and, h t ht]
    · simp only [ht, Bool.false_and]

theorem filter_supported_eq_iff :
    c.commands.filter (fun t => t.supported) = d.commands.filter (fun t => t.supported) ↔
      ∀ t : RequestType, t.supported = true → (t ∈ c.commands ↔ t ∈ d.commands) := by
  simp only [Finset.ext_iff, Finset.mem_filter, and_congr_left_iff]

/-- **Two messages are equal** exactly if the checks agree in what the message carries. -/
theorem cmd_eq_iff : c.cmd = d.cmd ↔ Alike c d := by
  constructor
  · intro h
    refine ⟨congrArg PolicyRequest.cpSystemId h, ?_, ?_, ?_, congrArg PolicyRequest.srcAddress h,
      congrArg PolicyRequest.dstAddress h, cmdType_eq_iff.mp (congrArg PolicyRequest.cmdType h)⟩
    · exact UInt8.toUInt32_inj.mp (congrArg PolicyRequest.srcNpi h)
    · exact UInt8.toUInt32_inj.mp (congrArg PolicyRequest.dstTon h)
    · exact UInt8.toUInt32_inj.mp (congrArg (fun m => m.dcs.toUInt32) h)
  · intro h
    exact PolicyRequest.ext (cmdType_eq_iff.mpr h.commands) (congrArg UInt8.toUInt32 h.destAddrTon)
      (congrArg UInt8.toUInt32 h.sourceAddrNpi) h.sourceAddr (congrArg UInt8.toUInt32 h.destAddrTon)
      (congrArg UInt8.toUInt32 h.destAddrTon) h.destAddr
      (congrArg (fun dcs : UInt8 => dcs.toUInt32.toInt32) h.dataCoding) h.rcv_clnt_sys_id

/-- **The question determines the submit** that it is about exactly if the message tells the checks apart anyway,
or they have the same `source_addr_ton` and the same `dest_addr_npi`, which it does not carry. -/
theorem determined_iff (c d : PolicyCheck) :
    (c.cmd = d.cmd → Agree c d) ↔
      (Alike c d → c.request.sourceAddrTon = d.request.sourceAddrTon ∧
        c.request.destAddrNpi = d.request.destAddrNpi) := by
  rw [cmd_eq_iff]
  refine forall_congr' fun h => ?_
  constructor
  · intro hagree
    exact ⟨hagree.sourceAddrTon, hagree.destAddrNpi⟩
  · rintro ⟨hton, hnpi⟩
    exact ⟨hton, h.sourceAddrNpi, h.destAddrTon, hnpi, h.dataCoding, h.sourceAddr, h.destAddr,
      filter_supported_eq_iff.mpr h.commands⟩

/-- A check of the type of number of a source. -/
def tonCheck (sourceAddrTon : Ton) : PolicyCheck where
  rcv_clnt_sys_id := ascii "esme"
  request := ⟨[], sourceAddrTon, 1, ascii "9812", 1, 1, ascii "9813", EsmClass.fromU8 0, 0, 0, [], [],
    RegisteredDelivery.fromU8 0, 0, 0, 0, [], OParam.empty⟩
  commands := {.sourceTonNpiCheck}

/-- Two checks of the type of number of the source ask the same question, whatever it is. -/
theorem not_determined : (tonCheck 1).cmd = (tonCheck 5).cmd ∧ ¬Agree (tonCheck 1) (tonCheck 5) := by
  refine ⟨rfl, ?_⟩
  intro h
  exact absurd h.sourceAddrTon (by decide)

end PolicyCheck

end SmppGateway.Gateway
