import SmppGateway.Foundation.BigEndian
import SmppGateway.Smpp.Param

/-!
# Short messages with a user data header

`src/libs/smpp/utility/short_message.hpp` and `data_coding_unicode.hpp`.

## The model

A `data_coding` is cast from the wire and so is any byte. The elements of a `user_data_header` come from its
constructor, which checks them, or from `set_multi_part_data`; an element carries what the check says.

## What is proved

* `UserDataHeader.parse_serialize` — the constructor reads back what `serialize` writes.
* `unpackShortMessage_packShortMessage_iff` — a packed message is unpacked into its header and its body
  exactly when the flag says whether there is a header.
-/

namespace SmppGateway.Smpp

open Foundation

/-! ### Data codings -/

/-- `data_coding_unicode`. -/
inductive DataCodingUnicode where
  /-- `ascii_7_bit`. -/
  | ascii7Bit
  /-- `ascii_8_bit`. -/
  | ascii8Bit
  /-- `binary`. -/
  | binary
  /-- `ucs2`. -/
  | ucs2
  deriving DecidableEq

/-- `extract_unicode`. -/
def extractUnicode (dataCoding : UInt8) : DataCodingUnicode :=
  let codingGroupBits := dataCoding &&& 0xf0
  if codingGroupBits = 0x00 then
    let bits := dataCoding &&& 0x0f
    if bits ∈ [0x00, 0x01, 0x03, 0x05, 0x06, 0x07, 0x0D, 0x0E, 0x0B, 0x0C, 0x0F] then .ascii8Bit
    else if bits ∈ [0x02, 0x04, 0x09, 0x0A] then .binary
    else if bits = 0x08 then .ucs2
    else .ascii7Bit
  else if codingGroupBits ∈ [0x10, 0x20, 0x30, 0x40, 0x50, 0x60, 0x70] then
    let alphabet := dataCoding &&& 0x0c
    if alphabet = 0x04 then .binary else if alphabet = 0x08 then .ucs2 else .ascii7Bit
  else if codingGroupBits ∈ [0x80, 0x90, 0xa0, 0xb0, 0xc0, 0xd0] then .ascii7Bit
  else if codingGroupBits = 0xe0 then .ucs2
  else if codingGroupBits = 0xf0 then
    if dataCoding &&& 0x04 ≠ 0 then .binary else .ascii7Bit
  else .ascii7Bit

/-! ### The user data header -/

/-- `user_data_header::multi_part_data`. -/
structure MultiPartData where
  concat_sm_ref_num_ : UInt16
  number_of_parts_ : UInt8
  sequence_number_ : UInt8
  deriving DecidableEq

/-- `concatenated_sm_8bit_ref`. -/
def concatenatedSm8bitRef : UInt8 := 0x00

/-- `concatenated_sm_16bit_ref`. -/
def concatenatedSm16bitRef : UInt8 := 0x08

/-- An element has the length of a multi-part element without being one of that length. -/
def MultiPartLengthInvalid (tag : UInt8) (val : Bytes) : Prop :=
  (tag = concatenatedSm8bitRef ∧ val.length ≠ 3) ∨ (tag = concatenatedSm16bitRef ∧ val.length ≠ 4)

instance (tag : UInt8) (val : Bytes) : Decidable (MultiPartLengthInvalid tag val) :=
  inferInstanceAs (Decidable (_ ∨ _))

/-- An element of a `user_data_header`. -/
@[ext]
structure UserDataElement where
  tag : UInt8
  val : Bytes
  length_lt : val.length < 256
  multiPart : ¬MultiPartLengthInvalid tag val

/-- `user_data_header`. -/
@[ext]
structure UserDataHeader where
  headers_ : List UserDataElement

namespace UserDataHeader

/-- `user_data_header()`. -/
def empty : UserDataHeader := ⟨[]⟩

/-- The loop of the constructor. -/
def elements : Bytes → Except Fault (List UserDataElement)
  | tag :: valLength :: rest =>
    let val := rest.take valLength.toNat
    if rest.length < valLength.toNat then
      .error (.exception (ascii "user_data_header val length is bigger than available buf"))
    else if h : MultiPartLengthInvalid tag val then
      .error (.exception (ascii "user_data_header multi_part_data length is invalid"))
    else
      match elements (rest.drop valLength.toNat) with
      | .error e => .error e
      | .ok headers =>
        have hlt : val.length < 256 :=
          Nat.lt_of_le_of_lt (List.length_take_le _ _) valLength.toNat_lt
        .ok (⟨tag, val, hlt, h⟩ :: headers)
  | _ => .ok []
termination_by buf => buf.length
decreasing_by
  rw [List.length_drop, List.length_cons, List.length_cons]
  omega

/-- `user_data_header(buf)`. -/
def parse (buf : Bytes) : Except Fault UserDataHeader := (elements buf).map mk

/-- `serialize`. -/
def serialize (h : UserDataHeader) : Bytes :=
  h.headers_.flatMap fun e => [e.tag, UInt8.ofNat e.val.length] ++ e.val

/-- `set_multi_part_data`. -/
def setMultiPartData (h : UserDataHeader) (mpd : MultiPartData) : UserDataHeader :=
  if mpd.concat_sm_ref_num_ > 0xFF then
    ⟨h.headers_ ++ [{
      tag := concatenatedSm16bitRef
      val := serializeU16 mpd.concat_sm_ref_num_ ++ [mpd.number_of_parts_, mpd.sequence_number_]
      length_lt := by simp
      multiPart := by simp [MultiPartLengthInvalid, concatenatedSm16bitRef, concatenatedSm8bitRef] }]⟩
  else
    ⟨h.headers_ ++ [{
      tag := concatenatedSm8bitRef
      val := [mpd.concat_sm_ref_num_.toUInt8, mpd.number_of_parts_, mpd.sequence_number_]
      length_lt := by simp
      multiPart := by simp [MultiPartLengthInvalid, concatenatedSm16bitRef, concatenatedSm8bitRef] }]⟩

/-- The conversion of a `char` to `uint16_t`; a `char` is signed. -/
def charToU16 (c : UInt8) : UInt16 := c.toInt8.toInt16.toUInt16

/-- `get_multi_part_data`. -/
def getMultiPartData (h : UserDataHeader) : MultiPartData :=
  match h.headers_.find? fun e => e.tag = concatenatedSm8bitRef with
  | some e => ⟨charToU16 (e.val.getD 0 0), e.val.getD 1 0, e.val.getD 2 0⟩
  | none =>
    match h.headers_.find? fun e => e.tag = concatenatedSm16bitRef with
    | some e =>
      ⟨charToU16 (e.val.getD 0 0) <<< 8 ||| charToU16 (e.val.getD 1 0), e.val.getD 2 0, e.val.getD 3 0⟩
    | none => ⟨0, 1, 1⟩

theorem elements_cons (e : UserDataElement) (rest : Bytes) {headers : List UserDataElement}
    (h : elements rest = .ok headers) :
    elements (e.tag :: UInt8.ofNat e.val.length :: (e.val ++ rest)) = .ok (e :: headers) := by
  have hlen : (UInt8.ofNat e.val.length).toNat = e.val.length := UInt8.toNat_ofNat_of_lt' e.length_lt
  rw [elements]
  simp only [hlen, List.take_left', List.drop_left']
  rw [if_neg (by simp), dif_neg e.multiPart, h]

/-- **The constructor reads back** what `serialize` writes. -/
theorem parse_serialize (h : UserDataHeader) : parse h.serialize = .ok h := by
  have helements : ∀ headers : List UserDataElement, elements (serialize ⟨headers⟩) = .ok headers := by
    intro headers
    induction headers with
    | nil => simp [serialize, elements]
    | cons e headers ih => exact elements_cons e _ ih
  rw [parse, helements h.headers_]
  rfl

theorem serialize_eq_nil_iff {h : UserDataHeader} : h.serialize = [] ↔ h = empty := by
  obtain ⟨headers⟩ := h
  cases headers with
  | nil => simp [serialize, empty]
  | cons e headers => simp [serialize, empty]

theorem toUInt8_inj_of_le {a b : UInt16} (ha : ¬a > 0xFF) (hb : ¬b > 0xFF) (h : a.toUInt8 = b.toUInt8) :
    a = b := by
  have hbyte := congrArg UInt8.toNat h
  rw [gt_iff_lt, UInt16.lt_iff_toNat_lt] at ha hb
  simp only [UInt16.toNat_toUInt8, UInt16.reduceToNat] at hbyte ha hb
  exact UInt16.toNat_inj.mp (by omega)

theorem serializeU16_inj {a b : UInt16} (h : serializeU16 a = serializeU16 b) : a = b := by
  simp only [serializeU16, List.cons.injEq, and_true] at h
  rw [← deserializeU16_serializeU16 a, ← deserializeU16_serializeU16 b, h.1, h.2]

/-- The data of the part can be told from the header. -/
theorem setMultiPartData_inj {m n : MultiPartData} :
    empty.setMultiPartData m = empty.setMultiPartData n ↔ m = n := by
  refine ⟨?_, fun h => h ▸ rfl⟩
  intro h
  obtain ⟨mref, mparts, mnumber⟩ := m
  obtain ⟨nref, nparts, nnumber⟩ := n
  unfold setMultiPartData at h
  split at h <;> split at h <;>
    simp only [empty, List.nil_append, mk.injEq, List.cons.injEq, UserDataElement.mk.injEq, and_true] at h
  · obtain ⟨-, hval⟩ := h
    obtain ⟨href, hrest⟩ := List.append_inj hval rfl
    simp only [List.cons.injEq, and_true] at hrest
    rw [serializeU16_inj href, hrest.1, hrest.2]
  · exact absurd h.1 (by decide)
  · exact absurd h.1 (by decide)
  · rename_i hm hn
    obtain ⟨-, href, hparts, hnumber⟩ := h
    have href : mref = nref := toUInt8_inj_of_le hm hn href
    rw [href, hparts, hnumber]

end UserDataHeader

/-! ### Packing and unpacking -/

/-- The UDHI bit of `gsm_network_features`. -/
def EsmClass.udhi (esmClass : EsmClass) : Bool :=
  esmClass.gsmNetworkFeatures.1 = 0x40 ∨ esmClass.gsmNetworkFeatures.1 = 0xC0

/-- `unpack_short_message`. -/
def unpackShortMessage (esmClass : EsmClass) (dataCoding : UInt8) (shortMessage : Bytes) :
    Except Fault (UserDataHeader × Bytes) :=
  if extractUnicode dataCoding = .ascii8Bit ∧ shortMessage.length > 160 then
    .error (.exception (ascii "unpacking short_message failed, short_message length is larger than 160"))
  else if extractUnicode dataCoding ≠ .ascii8Bit ∧ shortMessage.length > 140 then
    .error (.exception (ascii "unpacking short_message failed, short_message length is larger than 140"))
  else if esmClass.udhi then
    let udhLength := (shortMessage.headD 0).toNat
    if udhLength ≥ shortMessage.length then
      .error (.exception (ascii "unpacking short_message failed, UDH lenght is larger than short_message"))
    else
      match UserDataHeader.parse ((shortMessage.drop 1).take udhLength) with
      | .error e => .error e
      | .ok header => .ok (header, shortMessage.drop (1 + udhLength))
  else .ok (UserDataHeader.empty, shortMessage)

/-- `pack_short_message`, before the length is looked at. -/
def packed (header : UserDataHeader) (body : Bytes) : Bytes :=
  let serializedUdh := header.serialize
  if serializedUdh.length ≠ 0 then UInt8.ofNat serializedUdh.length :: serializedUdh ++ body else body

/-- `pack_short_message`. -/
def packShortMessage (header : UserDataHeader) (body : Bytes) (dataCoding : UInt8) : Except Fault Bytes :=
  let shortMessage := packed header body
  if extractUnicode dataCoding = .ascii8Bit ∧ shortMessage.length > 160 then
    .error (.exception (ascii "packing short_message failed, short_message length is larger than 160"))
  else if extractUnicode dataCoding ≠ .ascii8Bit ∧ shortMessage.length > 140 then
    .error (.exception (ascii "packing short_message failed, short_message length is larger than 140"))
  else .ok shortMessage

/-- Neither function takes a message of this length. -/
def TooLong (dataCoding : UInt8) (shortMessage : Bytes) : Prop :=
  (extractUnicode dataCoding = .ascii8Bit ∧ shortMessage.length > 160) ∨
    (extractUnicode dataCoding ≠ .ascii8Bit ∧ shortMessage.length > 140)

section Packed

variable {header : UserDataHeader} {body message : Bytes} {dataCoding : UInt8} {esmClass : EsmClass}

theorem length_le_of_not_tooLong (h : ¬TooLong dataCoding message) : message.length ≤ 160 := by
  unfold TooLong at h
  by_contra hlong
  by_cases hcoding : extractUnicode dataCoding = .ascii8Bit
  · exact h (.inl ⟨hcoding, by omega⟩)
  · exact h (.inr ⟨hcoding, by omega⟩)

/-- A message is packed when it is not too long. -/
theorem packShortMessage_eq_ok_iff :
    packShortMessage header body dataCoding = .ok message ↔
      packed header body = message ∧ ¬TooLong dataCoding message := by
  unfold packShortMessage TooLong
  simp only
  constructor
  · intro h
    split at h
    · cases h
    · split at h
      · cases h
      · cases h
        exact ⟨rfl, by tauto⟩
  · rintro ⟨rfl, hshort⟩
    rw [not_or] at hshort
    rw [if_neg hshort.1, if_neg hshort.2]

theorem unpackShortMessage_of_plain (hshort : ¬TooLong dataCoding message) (hplain : esmClass.udhi = false) :
    unpackShortMessage esmClass dataCoding message = .ok (.empty, message) := by
  rw [TooLong, not_or] at hshort
  simp [unpackShortMessage, if_neg hshort.1, if_neg hshort.2, hplain]

theorem packed_of_ne (hheader : header.serialize ≠ []) :
    packed header body = UInt8.ofNat header.serialize.length :: header.serialize ++ body := by
  rw [packed, if_pos (by simpa using hheader)]

theorem packed_of_eq (hheader : header.serialize = []) : packed header body = body := by
  rw [packed, if_neg (by simpa using hheader)]

/-- A header that is said to be there is read. -/
theorem unpackShortMessage_of_udhi (hudhi : esmClass.udhi = true) (hheader : header.serialize ≠ [])
    (hshort : ¬TooLong dataCoding (packed header body)) :
    unpackShortMessage esmClass dataCoding (packed header body) = .ok (header, body) := by
  have hlen := length_le_of_not_tooLong hshort
  rw [TooLong, not_or] at hshort
  rw [unpackShortMessage, if_neg hshort.1, if_neg hshort.2, if_pos hudhi]
  rw [packed_of_ne hheader] at hlen ⊢
  simp only [List.cons_append, List.length_cons, List.length_append] at hlen
  have hbyte : (UInt8.ofNat header.serialize.length).toNat = header.serialize.length :=
    UInt8.toNat_ofNat_of_lt' (Nat.lt_of_lt_of_le (by omega) (show 160 ≤ UInt8.size by decide))
  simp only [List.cons_append, List.headD_cons, hbyte, List.drop_one, List.tail_cons, List.take_left',
    UserDataHeader.parse_serialize]
  have hwithin : ¬header.serialize.length ≥
      (UInt8.ofNat header.serialize.length :: (header.serialize ++ body)).length := by
    rw [List.length_cons, List.length_append]
    omega
  rw [if_neg hwithin, Nat.add_comm, List.drop_succ_cons, List.drop_left]

/-- A header that is said to be there and is not takes bytes from the body. -/
theorem unpackShortMessage_ne_of_udhi (hudhi : esmClass.udhi = true) :
    unpackShortMessage esmClass dataCoding body ≠ .ok (header, body) := by
  intro h
  unfold unpackShortMessage at h
  split at h
  · cases h
  split at h
  · cases h
  simp only at h
  split at h
  · cases h
  rename_i hlen
  split at h
  · cases h
  simp only [Except.ok.injEq, Prod.mk.injEq] at h
  have := congrArg List.length h.2
  rw [List.length_drop] at this
  omega

/-- **A packed message is unpacked** into its header and its body exactly when the flag says whether there is
a header. -/
theorem unpackShortMessage_packShortMessage_iff (h : packShortMessage header body dataCoding = .ok message) :
    unpackShortMessage esmClass dataCoding message = .ok (header, body) ↔
      (esmClass.udhi = true ↔ header.serialize ≠ []) := by
  obtain ⟨rfl, hshort⟩ := packShortMessage_eq_ok_iff.mp h
  by_cases hheader : header.serialize = [] <;> by_cases hudhi : esmClass.udhi = true
  · simpa [hudhi, hheader, packed_of_eq hheader] using unpackShortMessage_ne_of_udhi hudhi
  · rw [unpackShortMessage_of_plain hshort (by simpa using hudhi), packed_of_eq hheader]
    obtain rfl := UserDataHeader.serialize_eq_nil_iff.mp hheader
    simpa [hudhi] using hheader
  · simp [unpackShortMessage_of_udhi hudhi hheader hshort, hheader, hudhi]
  · rw [unpackShortMessage_of_plain hshort (by simpa using hudhi)]
    have hne : UserDataHeader.empty ≠ header := fun hempty =>
      hheader (UserDataHeader.serialize_eq_nil_iff.mpr hempty.symm)
    simp [hne, hheader, hudhi]

end Packed

end SmppGateway.Smpp
