import Mathlib.Data.List.Forall2
import SmppGateway.Foundation.Delimited
import SmppGateway.Foundation.Numeral
import SmppGateway.Gateway.DeliverSm
import SmppGateway.Gateway.SubmitEncoding
import SmppGateway.Gateway.SubmitPath
import SmppGateway.Logging.SgwLogger

/-!
# The call-detail records

`sgw_logger` writes a record for every submit, delivery and delivery report that was answered, and another one for a
submit that was rejected: a line of `sprintf`, whose fields are separated by commas, in the text files of a
`segmented_logger`.

## The model

* `log_ao`, `log_ao_rejected`, `log_at` and `log_dr` are a `RecordFormat` each: what a packet is printed as, and the
  names that stand in the header that `load_config` sets, one for every field.
* `sprintf` writes the text and a zero into the 2000 bytes of `log_str`, however long the text is. A longer one is
  written behind the end, which stops the run with a `fault`: a deliver request whose address was too long to be sent
  is recorded too. A text ends at its first zero. A `%d` that is given a `uint32_t` takes it for an `int`; a `ton` or
  `npi` is printed as its number.
* A `std::shared_ptr` may be null, and following it is a fault. What is thrown on the way to a record goes to the
  caller, and nothing is recorded.

## What is proved

* `recorded_step` — an event of a logger keeps its files those of the packets that were recorded.
* `callRecords_run` — in every run, there is a fault exactly if a line of 2000 bytes or a null pointer comes, every
  packet before it has its record, and the files are read back exactly if no text has a comma or a line feed in it.
* `not_fits_of_long` — a text of 2000 bytes is enough to overrun it.
-/

namespace SmppGateway.Gateway

open Foundation Logging Smpp

/-! ### What is printed -/

/-- An argument of `sprintf`, with its conversion. -/
inductive Printed where
  /-- `%s`, of a `c_str()`. -/
  | text (s : Bytes)
  /-- `%u` and `%llu`. -/
  | unsigned (n : ℕ)
  /-- `%d`. -/
  | signed (n : ℤ)
  deriving DecidableEq

/-- The text up to its first zero. -/
def cStr (s : Bytes) : Bytes := s.takeWhile (· ≠ 0)

/-- What is written for an argument. -/
def Printed.chars : Printed → Bytes
  | .text s => cStr s
  | .unsigned n => decimal n
  | .signed n => signedDecimal n

/-- What is written for an argument reads as it. -/
def Printed.ReadFrom : Printed → Bytes → Prop
  | .text s, field => field = cStr s
  | .unsigned n, field => Numeral field n
  | .signed n, field => Numeral field n

theorem Printed.readFrom_chars (x : Printed) : x.ReadFrom x.chars := by
  cases x with
  | text s => rfl
  | unsigned n => exact numeral_decimal n
  | signed n => exact numeral_signedDecimal n

/-- `,`. -/
def comma : UInt8 := 44

/-- The line of a record. -/
def row (fields : List Printed) : Bytes := [comma].intercalate (fields.map Printed.chars)

/-- The `%d` of a `uint32_t`. -/
def printInt (n : UInt32) : Printed := .signed n.toInt32.toInt

/-- The number of a `data_coding_unicode`. -/
def dataCodingNumber : DataCodingUnicode → ℕ
  | .ascii7Bit => 0
  | .ascii8Bit => 1
  | .binary => 2
  | .ucs2 => 3

/-! ### The packets -/

/-- `submit_info`, with what only its records read. -/
structure SubmitRecord extends SubmitInfo where
  submit_req_received_time_ : UInt64
  submit_resp_sent_time_ : UInt64
  source_connection_ : Bytes
  dest_connection_ : Bytes
  source_ip_ : Bytes
  destination_ip_ : Bytes
  system_type_ : Bytes

/-- `SMSC::Protobuf::SMPP::DeliveryReport_Req`, as far as its record reads it. -/
structure ReportReq where
  smpp : SubmitSmppSm
  body : MessageBody
  mdMessageId : Bytes

/-- `deliver_info`, as far as its records read it. -/
structure DeliverRecord where
  deliver_req_received_time_ : UInt64
  deliver_resp_sent_time_ : UInt64
  source_connection_ : Bytes
  dest_connection_ : Bytes
  source_ip_ : Bytes
  destination_ip_ : Bytes
  system_type_ : Bytes
  error_ : CommandStatus
  dr_status_ : Bytes
  smsc_unique_id_ : Bytes
  /-- Null, or the request of a delivery. -/
  request : Option DeliverSmReq
  /-- Null, or the request of a report. -/
  dr_request : Option ReportReq

/-! ### The formats -/

/-- The fields that `log_ao` prints. -/
def aoFields (packet : SubmitRecord) : Except Fault (List Printed) :=
  let data_coding := extractUnicode packet.request.dataCoding
  let src_address := convertToInternational packet.request.sourceAddrTon packet.request.sourceAddr
  let dest_address := convertToInternational packet.request.destAddrTon packet.request.destAddr
  match unpackShortMessage packet.request.esmClass packet.request.dataCoding packet.request.shortMessage with
  | .error e => .error e
  | .ok (header, body) => .ok
    [.unsigned packet.submit_req_received_time_.toNat,
      .unsigned packet.submit_resp_sent_time_.toNat,
      .text packet.message_id_,
      .text packet.smsc_unique_id_,
      .text packet.source_connection_,
      .text packet.dest_connection_,
      .text packet.source_ip_,
      .text packet.destination_ip_,
      .text src_address,
      .text dest_address,
      .unsigned (dataCodingNumber data_coding),
      .unsigned (UInt32.ofNat body.length).toNat,
      .signed header.getMultiPartData.number_of_parts_.toNat,
      printInt packet.originating_sequence_number_,
      .text packet.request.validityPeriod,
      .signed packet.request.registeredDelivery.smscDeliveryReceipt.1.toNat,
      printInt packet.error_,
      .text packet.system_type_,
      .text (ascii "AO")]

/-- The fields that `log_ao_rejected` prints. -/
def aoRejectedFields (packet : SubmitRecord) : Except Fault (List Printed) :=
  let data_coding := extractUnicode packet.request.dataCoding
  let src_address := convertToInternational packet.request.sourceAddrTon packet.request.sourceAddr
  let dest_address := convertToInternational packet.request.destAddrTon packet.request.destAddr
  match unpackShortMessage packet.request.esmClass packet.request.dataCoding packet.request.shortMessage with
  | .error e => .error e
  | .ok (header, body) => .ok
    [.unsigned packet.submit_req_received_time_.toNat,
      .unsigned packet.submit_resp_sent_time_.toNat,
      .text packet.message_id_,
      .text packet.smsc_unique_id_,
      .text packet.source_connection_,
      .text packet.dest_connection_,
      .text packet.source_ip_,
      .text packet.destination_ip_,
      .text src_address,
      .signed packet.request.sourceAddrTon.toNat,
      .signed packet.request.sourceAddrNpi.toNat,
      .text dest_address,
      .signed packet.request.destAddrTon.toNat,
      .signed packet.request.destAddrNpi.toNat,
      .unsigned (dataCodingNumber data_coding),
      .unsigned (UInt32.ofNat body.length).toNat,
      .signed header.getMultiPartData.number_of_parts_.toNat,
      printInt packet.originating_sequence_number_,
      .text packet.request.validityPeriod,
      .signed packet.request.registeredDelivery.smscDeliveryReceipt.1.toNat,
      printInt packet.error_,
      .text packet.system_type_,
      .text (ascii "AO")]

/-- The fields that `log_at` prints. -/
def atFields (packet : DeliverRecord) : Except Fault (List Printed) :=
  match packet.request with
  | none => .error .outOfBounds
  | some request =>
    let data_coding := extractUnicode (u8 request.body.dataCoding)
    let src_address := convertToInternational (u8 request.smpp.sourceAddrTon) request.smpp.sourceAddr
    let dest_address := convertToInternational (u8 request.smpp.destAddrTon) request.smpp.destAddr
    .ok
      [.unsigned packet.deliver_req_received_time_.toNat,
        .unsigned packet.deliver_resp_sent_time_.toNat,
        .text packet.source_connection_,
        .text packet.dest_connection_,
        .text packet.source_ip_,
        .text packet.destination_ip_,
        .text src_address,
        .text dest_address,
        .signed (dataCodingNumber data_coding),
        printInt (UInt32.ofNat request.body.shortMessage.length),
        .signed request.body.sarTotalSegments.toInt,
        .signed request.body.sarSegmentSeqnum.toInt,
        printInt packet.error_,
        .text packet.system_type_,
        .text (ascii "AT")]

/-- The fields that `log_dr` prints. -/
def drFields (packet : DeliverRecord) : Except Fault (List Printed) :=
  match packet.dr_request with
  | none => .error .outOfBounds
  | some dr_request =>
    let data_coding := extractUnicode (u8 dr_request.body.dataCoding)
    let src_address := convertToInternational (u8 dr_request.smpp.sourceAddrTon) dr_request.smpp.sourceAddr
    let dest_address := convertToInternational (u8 dr_request.smpp.destAddrTon) dr_request.smpp.destAddr
    .ok
      [.unsigned packet.deliver_req_received_time_.toNat,
        .unsigned packet.deliver_resp_sent_time_.toNat,
        .text dr_request.mdMessageId,
        .text packet.smsc_unique_id_,
        .text packet.source_connection_,
        .text packet.dest_connection_,
        .text packet.source_ip_,
        .text packet.destination_ip_,
        .text src_address,
        .text dest_address,
        .signed (dataCodingNumber data_coding),
        printInt (UInt32.ofNat dr_request.body.shortMessage.length),
        .signed dr_request.smpp.validityPeriod.toInt,
        .text packet.dr_status_,
        printInt packet.error_,
        .text packet.system_type_,
        .text (ascii "DR")]

/-- What the records of a logger are of, and the names of their fields. -/
structure RecordFormat (Packet : Type) where
  /-- What is printed for a packet, or what happens on the way to it. -/
  fields : Packet → Except Fault (List Printed)
  /-- The names in the header. -/
  names : List Bytes
  names_clean : ∀ name ∈ names, Undelimited comma SegmentedLogger.lineFeed name
  header_ne_nil : [comma].intercalate names ≠ []
  /-- Every field has a name. -/
  width : ∀ {packet : Packet} {printed : List Printed}, fields packet = .ok printed → printed.length = names.length

section Header

variable {Packet : Type} (format : RecordFormat Packet)

/-- The header that `load_config` sets. -/
def RecordFormat.header : Bytes := [comma].intercalate format.names

theorem RecordFormat.names_ne_nil : format.names ≠ [] := by
  intro h
  have hheader := format.header_ne_nil
  rw [h] at hheader
  exact hheader rfl

/-- The header is one line, and its fields are the names. -/
theorem RecordFormat.header_line :
    SegmentedLogger.lineFeed ∉ format.header ∧ format.header.splitOn comma = format.names := by
  constructor
  · intro hmem
    rcases mem_intercalate hmem with hcomma | ⟨name, hname, hc⟩
    · exact absurd hcomma (by decide)
    · exact (format.names_clean name hname).2 hc
  · exact (splitOn_intercalate_iff format.names_ne_nil).mpr fun name hname => (format.names_clean name hname).1

end Header

/-- `log_ao`. -/
def logAo : RecordFormat SubmitRecord where
  fields := aoFields
  names := ["ReceivedSubmitTime", "SentRespTime", "SMPPGWMessageId", "SMSCMessageId", "SourceConnection",
    "DestConnection", "SourceIP", "DestinationIP", "SourceAddress", "DestinationAddress", "DataCoding", "BodyLen",
    "NumberOfParts", "PartNumber", "ValidityPeriod", "SRR", "Error", "SystemType", "PacketType"].map ascii
  names_clean := by decide +kernel
  header_ne_nil := by decide +kernel
  width := by
    intro packet printed h
    unfold aoFields at h
    simp only at h
    split at h
    · cases h
    · cases h
      rfl

/-- `log_ao_rejected`. -/
def logAoRejected : RecordFormat SubmitRecord where
  fields := aoRejectedFields
  names := ["ReceivedSubmitTime", "SentRespTime", "SMPPGWMessageId", "SMSCMessageId", "SourceConnection",
    "DestConnection", "SourceIP", "DestinationIP", "SourceAddress", "SourceAddressTON", "SourceAddressNPI",
    "DestinationAddress", "DestinationAddressTON", "DestinationAddressNPI", "DataCoding", "BodyLen", "NumberOfParts",
    "PartNumber", "ValidityPeriod", "SRR", "Error", "SystemType", "PacketType"].map ascii
  names_clean := by decide +kernel
  header_ne_nil := by decide +kernel
  width := by
    intro packet printed h
    unfold aoRejectedFields at h
    simp only at h
    split at h
    · cases h
    · cases h
      rfl

/-- `log_at`. -/
def logAt : RecordFormat DeliverRecord where
  fields := atFields
  names := ["ReceivedDeliverTime", "SentRespTime", "SourceConnection", "DestConnection", "SourceIP", "DestinationIP",
    "SourceAddress", "DestinationAddress", "DataCoding", "BodyLen", "NumberOfParts", "PartNumber", "Error",
    "SystemType", "PacketType"].map ascii
  names_clean := by decide +kernel
  header_ne_nil := by decide +kernel
  width := by
    intro packet printed h
    unfold atFields at h
    split at h
    · cases h
    · cases h
      rfl

/-- `log_dr`. -/
def logDr : RecordFormat DeliverRecord where
  fields := drFields
  names := ["ReceivedDeliverTime", "SentRespTime", "SMPPGWMessageId", "SMSCMessageId", "SourceConnection",
    "DestConnection", "SourceIP", "DestinationIP", "SourceAddress", "DestinationAddress", "DataCoding", "BodyLen",
    "ValidityPeriod", "Status", "Error", "SystemType", "PacketType"].map ascii
  names_clean := by decide +kernel
  header_ne_nil := by decide +kernel
  width := by
    intro packet printed h
    unfold drFields at h
    split at h
    · cases h
    · cases h
      rfl

/-- What a logger of `sgw_logger` has records of. -/
abbrev PacketOf : LoggerName → Type
  | .reject => SubmitRecord
  | .ao => SubmitRecord
  | .at => DeliverRecord
  | .dr => DeliverRecord

/-- The records of a logger of `sgw_logger`. -/
def recordFormat : (name : LoggerName) → RecordFormat (PacketOf name)
  | .reject => logAoRejected
  | .ao => logAo
  | .at => logAt
  | .dr => logDr

/-! ### The loggers -/

/-- What happens to the logger of a kind of record. -/
inductive RecordEvent (Packet : Type) where
  /-- A packet is to be recorded. -/
  | log (packet : Packet) (clock : Readings)
  /-- `close`. -/
  | close (now : ℤ)
  /-- `on_enabled_replace`. -/
  | onEnabledReplace (enabled : Bool)
  /-- `on_buffer_size_replace`. -/
  | onBufferSizeReplace (buffer_size : UInt32)
  /-- `on_records_threshold_replace`. -/
  | onRecordsThresholdReplace (records_threshold : UInt32)
  /-- `on_time_threshold_replace`. -/
  | onTimeThresholdReplace (time_threshold : UInt32)

/-- A logger and what was recorded with it. -/
structure CallRecords where
  logger : SegmentedLogger
  /-- The fields of the records, in the order of their calls. -/
  logged : List (List Printed)
  /-- `log_str` was written behind its end, or a null pointer was followed. -/
  fault : Option Fault

/-- The bytes of `log_str`. -/
def logStrSize : ℕ := 2000

/-- A packet can be recorded, or throws: its line and the zero behind it fit `log_str`, and no null pointer is
followed. -/
def RecordFormat.fits {Packet : Type} (format : RecordFormat Packet) (packet : Packet) : Bool :=
  match format.fields packet with
  | .ok fields => (row fields).length < logStrSize
  | .error .outOfBounds => false
  | .error (.exception _) => true

namespace CallRecords

variable {Packet : Type} {format : RecordFormat Packet} {s : CallRecords}

/-- A logger that `load_config` has made. -/
def start (format : RecordFormat Packet) (config : LoggerConfig) (incomplete : ℕ) (mday now : ℤ) : CallRecords where
  logger := (SegmentedLogger.create config incomplete mday now).step (.setHeader format.header)
  logged := []
  fault := none

/-- `log_ao`, `log_ao_rejected`, `log_at` or `log_dr`. -/
def log (format : RecordFormat Packet) (s : CallRecords) (packet : Packet) (clock : Readings) : CallRecords :=
  if s.logger.is_enabled_ then
    match format.fields packet with
    | .error .outOfBounds => { s with fault := some .outOfBounds }
    | .error (.exception _) => s
    | .ok fields =>
      if (row fields).length < logStrSize then
        { s with logger := s.logger.record (row fields) clock, logged := s.logged ++ [fields] }
      else { s with fault := some .outOfBounds }
  else s

/-- What an event makes of a logger. -/
def step (format : RecordFormat Packet) (s : CallRecords) (e : RecordEvent Packet) : CallRecords :=
  if s.fault.isSome then s
  else
    match e with
    | .log packet clock => s.log format packet clock
    | .close now => { s with logger := s.logger.step (.closeFile now) }
    | .onEnabledReplace enabled => { s with logger := s.logger.step (.onEnabledReplace enabled) }
    | .onBufferSizeReplace buffer_size => { s with logger := s.logger.step (.onBufferSizeReplace buffer_size) }
    | .onRecordsThresholdReplace records_threshold =>
      { s with logger := s.logger.step (.onRecordsThresholdReplace records_threshold) }
    | .onTimeThresholdReplace time_threshold =>
      { s with logger := s.logger.step (.onTimeThresholdReplace time_threshold) }

/-! ### What the files hold -/

/-- The files are those of the packets that were recorded. -/
structure Recorded (format : RecordFormat Packet) (s : CallRecords) : Prop where
  content : s.logger.content = s.logged.map row
  lined : s.logger.Lined
  mode : s.logger.file_mode_ = .text
  header : s.logger.text_file_header_ = format.header
  footer : s.logger.text_file_footer_ = []
  width : ∀ fields ∈ s.logged, fields.length = format.names.length

/-- The logger takes an event that is no record. -/
theorem Recorded.loggerStep (h : Recorded format s) {e : LoggerEvent} (hframe : SegmentedLogger.KeepsFrame e)
    (hcontent : (s.logger.step e).content = s.logger.content)
    (hsettings : (s.logger.step e).file_mode_ = s.logger.file_mode_ ∧
      (s.logger.step e).text_file_header_ = s.logger.text_file_header_ ∧
      (s.logger.step e).text_file_footer_ = s.logger.text_file_footer_) :
    Recorded format { s with logger := s.logger.step e } where
  content := hcontent.trans h.content
  lined := h.lined.step hframe
  mode := hsettings.1.trans h.mode
  header := hsettings.2.1.trans h.header
  footer := hsettings.2.2.trans h.footer
  width := h.width

theorem Recorded.log (h : Recorded format s) (packet : Packet) (clock : Readings) :
    Recorded format (s.log format packet clock) := by
  unfold CallRecords.log
  split
  · rename_i henabled
    split
    · exact ⟨h.content, h.lined, h.mode, h.header, h.footer, h.width⟩
    · exact h
    · rename_i fields hfields
      split
      · have hsettings : (s.logger.record (row fields) clock).toLoggerSettings = s.logger.toLoggerSettings :=
          SegmentedLogger.toLoggerSettings_record
        refine ⟨?_, h.lined.record _ _, ?_, ?_, ?_, ?_⟩
        · rw [SegmentedLogger.content_record, if_pos henabled, h.content, List.map_append]
          rfl
        · exact (congrArg LoggerSettings.file_mode_ hsettings).trans h.mode
        · exact (congrArg LoggerSettings.text_file_header_ hsettings).trans h.header
        · exact (congrArg LoggerSettings.text_file_footer_ hsettings).trans h.footer
        · intro printed hprinted
          rcases List.mem_append.mp hprinted with hold | hnew
          · exact h.width printed hold
          · obtain rfl := List.mem_singleton.mp hnew
            exact format.width hfields
      · exact ⟨h.content, h.lined, h.mode, h.header, h.footer, h.width⟩
  · exact h

/-- **An event** keeps the files those of the packets that were recorded. -/
theorem recorded_step (h : Recorded format s) (e : RecordEvent Packet) : Recorded format (s.step format e) := by
  unfold step
  split
  · exact h
  cases e with
  | log packet clock => exact h.log packet clock
  | close now =>
    have hsettings : (s.logger.closeFile now).toLoggerSettings = s.logger.toLoggerSettings :=
      SegmentedLogger.toLoggerSettings_closeFile
    exact h.loggerStep trivial SegmentedLogger.content_closeFile
      ⟨congrArg LoggerSettings.file_mode_ hsettings, congrArg LoggerSettings.text_file_header_ hsettings,
        congrArg LoggerSettings.text_file_footer_ hsettings⟩
  | onEnabledReplace enabled => exact h.loggerStep trivial rfl ⟨rfl, rfl, rfl⟩
  | onBufferSizeReplace buffer_size => exact h.loggerStep trivial rfl ⟨rfl, rfl, rfl⟩
  | onRecordsThresholdReplace records_threshold => exact h.loggerStep trivial rfl ⟨rfl, rfl, rfl⟩
  | onTimeThresholdReplace time_threshold => exact h.loggerStep trivial rfl ⟨rfl, rfl, rfl⟩

theorem recorded_start (format : RecordFormat Packet) {config : LoggerConfig}
    (hmode : FileMode.ofConfig config.file_mode = .text) (incomplete : ℕ) (mday now : ℤ) :
    Recorded format (start format config incomplete mday now) where
  content := rfl
  lined := by constructor <;> · intro f hf; cases hf
  mode := hmode
  header := rfl
  footer := rfl
  width := List.forall_mem_nil _

/-- What stands in a file. -/
theorem Recorded.content_file (h : Recorded format s) {f : LogFile} (hf : f ∈ s.logger.files) :
    f.content = format.header ++ [SegmentedLogger.lineFeed] ++
      f.records.flatMap (· ++ [SegmentedLogger.lineFeed]) := by
  have hbody : s.logger.body f = format.header ++ [SegmentedLogger.lineFeed] ++
      f.records.flatMap (· ++ [SegmentedLogger.lineFeed]) := by
    have hlength : format.header.length ≠ 0 := mt List.length_eq_zero_iff.mp format.header_ne_nil
    rw [SegmentedLogger.body, SegmentedLogger.prologue, h.mode, h.header, if_pos ⟨rfl, hlength⟩]
    rfl
  rcases List.mem_append.mp hf with hclosed | hopen
  · obtain ⟨g, hg, rfl⟩ := List.mem_map.mp hclosed
    rw [h.lined.closed g hg, hbody, SegmentedLogger.epilogue, h.footer, if_neg fun hfooter => hfooter.2 rfl,
      List.append_nil]
  · rw [h.lined.opened f (Option.mem_toList.mp hopen), hbody]

/-! ### What can be read back -/

/-- The rows of a file, with the names of the fields. -/
def readFile (f : LogFile) : List (List Bytes) := readTable comma SegmentedLogger.lineFeed f.content

/-- The first row has the names, and the others are the records. -/
theorem Recorded.readFile_eq (h : Recorded format s) {f : LogFile} (hf : f ∈ s.logger.files) :
    readFile f = format.names :: readTable comma SegmentedLogger.lineFeed
      (f.records.flatMap (· ++ [SegmentedLogger.lineFeed])) := by
  rw [readFile, h.content_file hf, readTable_cons format.header_line.1, format.header_line.2]

/-- A text has no comma and no line feed in it. -/
def CleanText : Printed → Prop
  | .text s => Undelimited comma SegmentedLogger.lineFeed (cStr s)
  | .unsigned _ => True
  | .signed _ => True

instance (x : Printed) : Decidable (CleanText x) := by
  cases x <;> unfold CleanText <;> infer_instance

/-- No text of a record has a comma or a line feed in it. -/
def CleanTexts (fields : List Printed) : Prop := ∀ x ∈ fields, CleanText x

instance (fields : List Printed) : Decidable (CleanTexts fields) := List.decidableBAll _ fields

theorem clean_numeral {text : Bytes} {n : ℤ} (h : Numeral text n) :
    Undelimited comma SegmentedLogger.lineFeed text := by
  constructor
  · intro hmem
    exact absurd (h.mem hmem) (by decide)
  · intro hmem
    exact absurd (h.mem hmem) (by decide)

theorem CleanTexts.clean {fields : List Printed} (h : CleanTexts fields) {x : Printed} (hx : x ∈ fields) :
    Undelimited comma SegmentedLogger.lineFeed x.chars := by
  cases x with
  | text s => exact h (.text s) hx
  | unsigned n => exact clean_numeral (numeral_decimal n)
  | signed n => exact clean_numeral (numeral_signedDecimal n)

/-- A line that can be read. -/
theorem CleanTexts.line {fields : List Printed} (h : CleanTexts fields) (hne : fields ≠ []) :
    SegmentedLogger.lineFeed ∉ row fields ∧ (row fields).splitOn comma = fields.map Printed.chars := by
  have hclean : ∀ field ∈ fields.map Printed.chars, Undelimited comma SegmentedLogger.lineFeed field := by
    intro field hfield
    obtain ⟨x, hx, rfl⟩ := List.mem_map.mp hfield
    exact h.clean hx
  constructor
  · intro hmem
    rcases mem_intercalate hmem with hcomma | ⟨field, hfield, hc⟩
    · exact absurd hcomma (by decide)
    · exact (hclean field hfield).2 hc
  · exact (splitOn_intercalate_iff (mt List.map_eq_nil_iff.mp hne)).mpr fun field hfield => (hclean field hfield).1

/-- What is read from clean rows is clean. -/
theorem cleanTexts_of_readFrom {fields : List Printed} {line : List Bytes}
    (h : List.Forall₂ Printed.ReadFrom fields line)
    (hline : ∀ field ∈ line, Undelimited comma SegmentedLogger.lineFeed field) : CleanTexts fields := by
  induction h with
  | nil => exact List.forall_mem_nil _
  | @cons x field fields line hx hrest ih =>
    obtain ⟨hfield, hline⟩ := List.forall_mem_cons.mp hline
    refine List.forall_mem_cons.mpr ⟨?_, ih hline⟩
    cases x with
    | text s =>
      obtain rfl : field = cStr s := hx
      exact hfield
    | unsigned n => trivial
    | signed n => trivial

/-- The records that were written, and those that wait. -/
theorem Recorded.split (h : Recorded format s) :
    s.logger.written = (s.logged.take s.logger.written.length).map row ∧
      s.logger.records_ = (s.logged.drop s.logger.written.length).map row := by
  have hcontent : s.logger.written ++ s.logger.records_ = s.logged.map row := h.content
  constructor
  · rw [List.map_take, ← hcontent, List.take_left]
  · rw [List.map_drop, ← hcontent, List.drop_left]

/-- The records of all the files. -/
def readAll (s : CallRecords) : List (List Bytes) := s.logger.files.flatMap fun f => (readFile f).tail

/-- **The files are read back** exactly if no text that was written has a comma or a line feed in it. -/
theorem Recorded.readAll_iff (h : Recorded format s) :
    List.Forall₂ (List.Forall₂ Printed.ReadFrom) (s.logged.take s.logger.written.length) s.readAll ↔
      ∀ fields ∈ s.logged.take s.logger.written.length, CleanTexts fields := by
  constructor
  · intro hread
    have hclean : ∀ line ∈ s.readAll, ∀ field ∈ line, Undelimited comma SegmentedLogger.lineFeed field := by
      intro line hline field hfield
      obtain ⟨f, -, hline⟩ := List.mem_flatMap.mp hline
      exact undelimited_of_mem_readTable (List.mem_of_mem_tail hline) hfield
    generalize s.logged.take s.logger.written.length = logged at hread ⊢
    generalize s.readAll = lines at hread hclean
    induction hread with
    | nil => exact List.forall_mem_nil _
    | cons hfields hrest ih =>
      obtain ⟨hline, hclean⟩ := List.forall_mem_cons.mp hclean
      exact List.forall_mem_cons.mpr ⟨cleanTexts_of_readFrom hfields hline, ih hclean⟩
  · intro hclean
    have hline : ∀ fields ∈ s.logged.take s.logger.written.length, SegmentedLogger.lineFeed ∉ row fields ∧
        (row fields).splitOn comma = fields.map Printed.chars := by
      intro fields hfields
      have hwidth := h.width fields (List.mem_of_mem_take hfields)
      refine (hclean fields hfields).line (List.ne_nil_of_length_pos ?_)
      rw [hwidth]
      exact List.length_pos_of_ne_nil format.names_ne_nil
    have hrecords : ∀ record ∈ s.logger.written, SegmentedLogger.lineFeed ∉ record := by
      intro record hrecord
      rw [h.split.1] at hrecord
      obtain ⟨fields, hfields, rfl⟩ := List.mem_map.mp hrecord
      exact (hline fields hfields).1
    have hfile : ∀ f ∈ s.logger.files, (readFile f).tail = f.records.map (List.splitOn comma) := by
      intro f hf
      rw [h.readFile_eq hf, List.tail_cons]
      exact readTable_lines fun record hrecord => hrecords record (List.mem_flatMap.mpr ⟨f, hf, hrecord⟩)
    have hread : s.readAll =
        (s.logged.take s.logger.written.length).map (fun fields => fields.map Printed.chars) := by
      calc s.readAll = s.logger.files.flatMap fun f => f.records.map (List.splitOn comma) :=
            List.flatMap_congr hfile
        _ = s.logger.written.map (List.splitOn comma) := (List.map_flatMap ..).symm
        _ = ((s.logged.take s.logger.written.length).map row).map (List.splitOn comma) :=
            congrArg (List.map (List.splitOn comma)) h.split.1
        _ = _ := by
          rw [List.map_map]
          exact List.map_congr_left fun fields hfields => (hline fields hfields).2
    rw [hread]
    refine List.forall₂_map_right_iff.mpr (List.forall₂_same.mpr fun fields _ => ?_)
    exact List.forall₂_map_right_iff.mpr (List.forall₂_same.mpr fun x _ => x.readFrom_chars)

/-! ### Which packets are recorded -/

/-- The packets that come while the logger is enabled. -/
def offered : Bool → List (RecordEvent Packet) → List Packet
  | _, [] => []
  | enabled, .log packet _ :: events => (if enabled then [packet] else []) ++ offered enabled events
  | _, .onEnabledReplace enabled :: events => offered enabled events
  | enabled, _ :: events => offered enabled events

/-- What is printed for packets, unless they throw. -/
def printed (format : RecordFormat Packet) (packets : List Packet) : List (List Printed) :=
  packets.filterMap fun packet => (format.fields packet).toOption

theorem run_of_fault (h : s.fault.isSome = true) (events : List (RecordEvent Packet)) :
    run (step format) s events = s := by
  induction events with
  | nil => rfl
  | cons e events ih =>
    have hstep : s.step format e = s := if_pos h
    rw [run_cons, hstep, ih]

/-- What a packet makes of a logger that is enabled. -/
theorem log_of_fits (henabled : s.logger.is_enabled_ = true) {packet : Packet} (hfits : format.fits packet = true)
    (clock : Readings) :
    (s.log format packet clock).logged = s.logged ++ printed format [packet] ∧
      (s.log format packet clock).fault = s.fault ∧
      (s.log format packet clock).logger.is_enabled_ = s.logger.is_enabled_ := by
  unfold RecordFormat.fits at hfits
  unfold log printed
  rw [if_pos henabled]
  split at hfits
  · rename_i fields hfields
    simp only [decide_eq_true_eq] at hfits
    have hsettings : (s.logger.record (row fields) clock).is_enabled_ = s.logger.is_enabled_ :=
      congrArg LoggerSettings.is_enabled_ SegmentedLogger.toLoggerSettings_record
    simp only [hfields, hfits, if_true, List.filterMap_cons, List.filterMap_nil, Except.toOption, true_and]
    exact hsettings
  · cases hfits
  · rename_i hfields
    simp [hfields, Except.toOption]

/-- A packet that does not fit. -/
theorem log_of_not_fits (henabled : s.logger.is_enabled_ = true) {packet : Packet} (hfits : format.fits packet = false)
    (clock : Readings) : s.log format packet clock = { s with fault := some .outOfBounds } := by
  unfold RecordFormat.fits at hfits
  unfold log
  rw [if_pos henabled]
  split at hfits
  · rename_i hfields
    simp only [decide_eq_false_iff_not] at hfits
    simp [hfields, hfits]
  · rename_i hfields
    simp [hfields]
  · cases hfits

/-- **Every packet** that comes while the logger is enabled is recorded, in order, unless it throws; and so it goes on
until one does not fit. -/
theorem logged_run (hfault : s.fault = none) (events : List (RecordEvent Packet)) :
    (run (step format) s events).logged =
      s.logged ++ printed format ((offered s.logger.is_enabled_ events).takeWhile format.fits) ∧
    ((run (step format) s events).fault = none ↔
      ∀ packet ∈ offered s.logger.is_enabled_ events, format.fits packet = true) := by
  induction events generalizing s with
  | nil => simp [offered, printed, hfault]
  | cons e events ih =>
    have hrunning : ¬ s.fault.isSome = true := by simp [hfault]
    -- An event that only changes what the logger is set to.
    have hother {logger : SegmentedLogger} (hstep : s.step format e = { s with logger := logger })
        (hoffered : offered s.logger.is_enabled_ (e :: events) = offered logger.is_enabled_ events) :
        (run (step format) (s.step format e) events).logged =
          s.logged ++ printed format ((offered s.logger.is_enabled_ (e :: events)).takeWhile format.fits) ∧
        ((run (step format) (s.step format e) events).fault = none ↔
          ∀ packet ∈ offered s.logger.is_enabled_ (e :: events), format.fits packet = true) := by
      rw [hstep, hoffered]
      exact ih (s := { s with logger := logger }) hfault
    rw [run_cons]
    cases e with
    | log packet clock =>
      have hstep : s.step format (.log packet clock) = s.log format packet clock := if_neg hrunning
      by_cases henabled : s.logger.is_enabled_ = true
      · rw [hstep]
        cases hfits : format.fits packet with
        | true =>
          obtain ⟨hlogged, hstill, hsame⟩ := log_of_fits henabled hfits clock
          obtain ⟨hrest, hnone⟩ := ih (hstill.trans hfault)
          rw [hlogged, hsame] at hrest
          rw [hsame] at hnone
          refine ⟨hrest.trans ?_, hnone.trans ?_⟩
          · simp only [offered, henabled, if_true, List.cons_append, List.nil_append, List.takeWhile_cons, hfits,
              List.append_assoc]
            exact congrArg (s.logged ++ ·) List.filterMap_append.symm
          · simp [offered, henabled, hfits]
        | false =>
          rw [log_of_not_fits henabled hfits, run_of_fault rfl]
          simp [offered, henabled, hfits, printed]
      · have hsame : s.step format (.log packet clock) = { s with logger := s.logger } :=
          hstep.trans (if_neg henabled)
        exact hother hsame (by rw [offered, if_neg henabled, List.nil_append])
    | close now =>
      have hsettings : (s.logger.closeFile now).is_enabled_ = s.logger.is_enabled_ :=
        congrArg LoggerSettings.is_enabled_ SegmentedLogger.toLoggerSettings_closeFile
      have hoffered : offered s.logger.is_enabled_ (.close now :: events) =
          offered (s.logger.closeFile now).is_enabled_ events := by
        rw [hsettings]
        rfl
      exact hother (if_neg hrunning) hoffered
    | onEnabledReplace enabled => exact hother (if_neg hrunning) rfl
    | onBufferSizeReplace buffer_size => exact hother (if_neg hrunning) rfl
    | onRecordsThresholdReplace records_threshold => exact hother (if_neg hrunning) rfl
    | onTimeThresholdReplace time_threshold => exact hother (if_neg hrunning) rfl

theorem length_le_intercalate {xs : List Bytes} {x : Bytes} (hx : x ∈ xs) :
    x.length ≤ ([comma].intercalate xs).length := by
  induction xs with
  | nil => cases hx
  | cons y ys ih =>
    cases ys with
    | nil =>
      obtain rfl := List.mem_singleton.mp hx
      simp
    | cons z zs =>
      rw [List.intercalate_cons_cons]
      simp only [List.length_append]
      rcases List.mem_cons.mp hx with rfl | hx
      · omega
      · have hle := ih hx
        omega

/-- **A long text** overruns `log_str`. -/
theorem not_fits_of_long {packet : Packet} {fields : List Printed} (hfields : format.fields packet = .ok fields)
    {x : Printed} (hx : x ∈ fields) (hlong : logStrSize ≤ x.chars.length) : format.fits packet = false := by
  have hle : x.chars.length ≤ (row fields).length := length_le_intercalate (List.mem_map_of_mem hx)
  simp only [RecordFormat.fits, hfields, decide_eq_false_iff_not]
  omega

/-- **The call-detail records**, in every run of a logger of `sgw_logger` in text mode: nothing is written behind the
end of `log_str`, and no null pointer followed, exactly as long as what is printed for every packet that comes while
the logger is enabled fits; every such packet before the first that does not fit has one record, in order, unless it
threw on the way; the first line of each file has the names of the fields, of which every record has as many; and the
lines behind them read as the records that were written, each field as what was printed there, exactly if no text of
theirs has a comma or a line feed in it. The other records wait in the buffer. -/
theorem callRecords_run (name : LoggerName) (config : LoggerConfig)
    (hmode : FileMode.ofConfig config.file_mode = .text) (incomplete : ℕ) (mday now : ℤ)
    (events : List (RecordEvent (PacketOf name))) :
    let s := run (step (recordFormat name)) (start (recordFormat name) config incomplete mday now) events
    (s.fault = none ↔ ∀ packet ∈ offered config.enabled events, (recordFormat name).fits packet = true) ∧
      s.logged = printed (recordFormat name) ((offered config.enabled events).takeWhile (recordFormat name).fits) ∧
      (∀ fields ∈ s.logged, fields.length = (recordFormat name).names.length) ∧
      (∀ f ∈ s.logger.files, (readFile f).head? = some (recordFormat name).names) ∧
      (List.Forall₂ (List.Forall₂ Printed.ReadFrom) (s.logged.take s.logger.written.length) s.readAll ↔
        ∀ fields ∈ s.logged.take s.logger.written.length, CleanTexts fields) ∧
      s.logger.records_ = (s.logged.drop s.logger.written.length).map row := by
  intro s
  have h : Recorded (recordFormat name) s :=
    (along_true fun _ _ => trivial).invariant (G := fun _ _ => True) (fun _ e hs _ => recorded_step hs e)
      (recorded_start _ hmode incomplete mday now)
  have hstart : (start (recordFormat name) config incomplete mday now).fault = none := rfl
  obtain ⟨hlogged, hfault⟩ := logged_run hstart events
  refine ⟨hfault, hlogged, h.width, fun f hf => ?_, h.readAll_iff, h.split.2⟩
  rw [h.readFile_eq hf, List.head?_cons]

/-- A delivery that was answered with an error. -/
def throttledDelivery : DeliverRecord where
  deliver_req_received_time_ := 1
  deliver_resp_sent_time_ := 2
  source_connection_ := ascii "smsc"
  dest_connection_ := ascii "esme"
  source_ip_ := ascii "10.0.0.1"
  destination_ip_ := ascii "10.0.0.2"
  system_type_ := []
  error_ := CommandStatus.rthrottled
  dr_status_ := []
  smsc_unique_id_ := ascii "7"
  request := some
    { smpp := ⟨[], 1, 1, ascii "98912", 1, 1, ascii "98935", 0, 0, 0, 0, 0, 0⟩
      body := ⟨0, 0, 0, 0, ascii "hi"⟩ }
  dr_request := none

/-- Another one, from this address. -/
def deliveryFrom (address : Bytes) : DeliverRecord :=
  { throttledDelivery with
    request := some
      { smpp := ⟨[], 1, 1, address, 1, 1, ascii "98935", 0, 0, 0, 0, 0, 0⟩
        body := ⟨0, 0, 0, 0, ascii "hi"⟩ } }

/-- An address that is too long to be sent is too long for `log_str` as well. -/
theorem not_fits_deliveryFrom {address : Bytes} (hlong : logStrSize ≤ (cStr address).length) :
    logAt.fits (deliveryFrom address) = false := by
  have haddress : convertToInternational (u8 1) address = address := by
    have hton : u8 1 ≠ 0x00 ∧ u8 1 ≠ 0x02 := by decide
    simp [convertToInternational, hton]
  refine not_fits_of_long (x := .text (convertToInternational (u8 1) address)) rfl (by simp) ?_
  rwa [haddress]

/-- A long address. -/
def longAddress : Bytes := List.replicate 2000 0x39

theorem length_longAddress : logStrSize ≤ (cStr longAddress).length := by
  rw [cStr, longAddress, List.takeWhile_replicate, if_pos (by decide), List.length_replicate]
  exact Nat.le_refl 2000

/-- The first of them is recorded and read back. The other overruns `log_str`. -/
theorem callRecords_run_deliveries :
    let events : List (RecordEvent DeliverRecord) :=
      [.log throttledDelivery ⟨7, 7, 0, 7, 0⟩, .log (deliveryFrom longAddress) ⟨7, 7, 0, 7, 0⟩]
    let s := run (step (recordFormat .at)) (start (recordFormat .at) ⟨true, ascii "text", 1, 10, 3600⟩ 0 7 0) events
    s.fault ≠ none ∧ s.logged = printed logAt [throttledDelivery] ∧
      List.Forall₂ (List.Forall₂ Printed.ReadFrom) (s.logged.take s.logger.written.length) s.readAll := by
  intro events s
  obtain ⟨hfault, hlogged, -, -, hread, -⟩ := callRecords_run .at ⟨true, ascii "text", 1, 10, 3600⟩ (by decide) 0 7 0
    events
  have hlong := not_fits_deliveryFrom length_longAddress
  have hfits : logAt.fits throttledDelivery = true := by decide
  have hlogged : s.logged = printed logAt [throttledDelivery] := by
    refine hlogged.trans ?_
    simp [events, offered, recordFormat, hfits, hlong]
  refine ⟨fun hnone => ?_, hlogged, hread.mpr fun fields hfields => ?_⟩
  · have hall := hfault.mp hnone (deliveryFrom longAddress) (by simp [events, offered])
    cases hall.symm.trans hlong
  · have hclean : ∀ fields ∈ printed logAt [throttledDelivery], CleanTexts fields := by decide
    exact hclean fields (hlogged ▸ List.mem_of_mem_take hfields)

end CallRecords

end SmppGateway.Gateway
