import SmppGateway.Smpp.ShortMessage

/-!
# Concatenated messages

What becomes of the data of a part and of the text, when a header is packed with it and unpacked again.

## What is proved

* `getMultiPartData_iff` — the data of a part is read back exactly if sign extension leaves the reference number
  alone.
* `not_getMultiPartData` — the reference number 128 is read back as 65408.
* `unpackShortMessage_packShortMessage` — packing and unpacking are inverse.
-/

namespace SmppGateway.Smpp

open Foundation

namespace UserDataHeader

variable {h : UserDataHeader} {m : MultiPartData}

/-! ### Reading a reference number -/

/-- A `char` that is not negative keeps its value. -/
theorem charToU16_of_lt {c : UInt8} (h : c < 0x80) : charToU16 c = c.toUInt16 := by
  have hall : ∀ c : Fin 256, UInt8.ofFin c < 0x80 → charToU16 (UInt8.ofFin c) = (UInt8.ofFin c).toUInt16 := by
    decide +kernel
  exact hall c.toFin h

/-- A negative one sets all bits of the high byte, ... -/
theorem toNat_charToU16_of_le {c : UInt8} (h : 0x80 ≤ c) : (charToU16 c).toNat = 0xFF00 + c.toNat := by
  have hall : ∀ c : Fin 256, 0x80 ≤ UInt8.ofFin c → (charToU16 (UInt8.ofFin c)).toNat = 0xFF00 + c.val := by
    decide +kernel
  exact hall c.toFin h

/-- ... so that nothing else is left of it. -/
theorem or_charToU16_of_le (d : UInt8) {c : UInt8} (h : 0x80 ≤ c) :
    d.toUInt16 <<< 8 ||| charToU16 c = charToU16 c := by
  have hhigh : ∀ c : Fin 256, 0x80 ≤ UInt8.ofFin c →
      0xFF00 ||| charToU16 (UInt8.ofFin c) = charToU16 (UInt8.ofFin c) := by decide +kernel
  have hbyte : ∀ d : Fin 256, (UInt8.ofFin d).toUInt16 <<< 8 ||| 0xFF00 = 0xFF00 := by decide +kernel
  have hset : 0xFF00 ||| charToU16 c = charToU16 c := hhigh c.toFin h
  have hcover : d.toUInt16 <<< 8 ||| 0xFF00 = 0xFF00 := hbyte d.toFin
  calc d.toUInt16 <<< 8 ||| charToU16 c = d.toUInt16 <<< 8 ||| (0xFF00 ||| charToU16 c) := by rw [hset]
    _ = (d.toUInt16 <<< 8 ||| 0xFF00) ||| charToU16 c := (UInt16.or_assoc _ _ _).symm
    _ = charToU16 c := by rw [hcover, hset]

theorem charToU16_shiftLeft (c : UInt8) : charToU16 c <<< 8 = c.toUInt16 <<< 8 := by
  have hall : ∀ c : Fin 256, charToU16 (UInt8.ofFin c) <<< 8 = (UInt8.ofFin c).toUInt16 <<< 8 := by
    decide +kernel
  exact hall c.toFin

/-- A reference number that is read back: its low byte is no negative `char`, or its high bits are all set. -/
def SignSafe (concat_sm_ref_num_ : UInt16) : Prop :=
  concat_sm_ref_num_.toUInt8 < 0x80 ∨ 0xFF80 ≤ concat_sm_ref_num_

instance (n : UInt16) : Decidable (SignSafe n) := inferInstanceAs (Decidable (_ ∨ _))

/-- The sign does not matter if it is not set, or agrees with the high bits. -/
theorem charToU16_toUInt8_of_le {n : UInt16} (h : 0x80 ≤ n.toUInt8) :
    charToU16 n.toUInt8 = n ↔ SignSafe n := by
  have hvalue := toNat_charToU16_of_le h
  have hnot : ¬n.toUInt8 < 0x80 := UInt8.not_lt.mpr h
  rw [SignSafe, or_iff_right hnot, ← UInt16.toNat_inj, hvalue, UInt16.le_iff_toNat_le]
  rw [UInt8.le_iff_toNat_le] at h
  simp only [UInt16.toNat_toUInt8, UInt8.reduceToNat, UInt16.reduceToNat] at h ⊢
  have hlt := n.toNat_lt
  omega

theorem charToU16_toUInt8_eq_iff {n : UInt16} (hn : ¬n > 0xFF) : charToU16 n.toUInt8 = n ↔ SignSafe n := by
  by_cases hlow : n.toUInt8 < 0x80
  · refine iff_of_true ?_ (.inl hlow)
    rw [gt_iff_lt, UInt16.lt_iff_toNat_lt] at hn
    simp only [UInt16.reduceToNat] at hn
    rw [charToU16_of_lt hlow, ← UInt16.toNat_inj, UInt8.toNat_toUInt16, UInt16.toNat_toUInt8]
    omega
  · exact charToU16_toUInt8_of_le (UInt8.not_lt.mp hlow)

theorem charToU16_shiftLeft_or_eq_iff (n : UInt16) :
    charToU16 (n >>> 8).toUInt8 <<< 8 ||| charToU16 n.toUInt8 = n ↔ SignSafe n := by
  rw [charToU16_shiftLeft]
  by_cases hlow : n.toUInt8 < 0x80
  · refine iff_of_true ?_ (.inl hlow)
    rw [charToU16_of_lt hlow]
    exact deserializeU16_serializeU16 n
  · rw [or_charToU16_of_le _ (UInt8.not_lt.mp hlow)]
    exact charToU16_toUInt8_of_le (UInt8.not_lt.mp hlow)

/-! ### The data of a part -/

/-- No element of a header is data of a part. -/
def Plain (h : UserDataHeader) : Prop :=
  ∀ e ∈ h.headers_, e.tag ≠ concatenatedSm8bitRef ∧ e.tag ≠ concatenatedSm16bitRef

/-- What the constructor has read is what was written. -/
theorem getMultiPartData_setMultiPartData (hplain : h.Plain) :
    (h.setMultiPartData m).getMultiPartData = m ↔ SignSafe m.concat_sm_ref_num_ := by
  obtain ⟨n, parts, number⟩ := m
  have hfind (tag : UInt8) (htag : tag = concatenatedSm8bitRef ∨ tag = concatenatedSm16bitRef) :
      h.headers_.find? (fun e => e.tag = tag) = none := by
    refine List.find?_eq_none.mpr fun e he => ?_
    obtain ⟨h8, h16⟩ := hplain e he
    rcases htag with rfl | rfl
    · simpa using h8
    · simpa using h16
  by_cases hlong : n > 0xFF
  · have hread : (h.setMultiPartData ⟨n, parts, number⟩).getMultiPartData =
        ⟨charToU16 (n >>> 8).toUInt8 <<< 8 ||| charToU16 n.toUInt8, parts, number⟩ := by
      have hne : concatenatedSm16bitRef ≠ concatenatedSm8bitRef := by decide
      simp [setMultiPartData, hlong, getMultiPartData, hfind, hne, serializeU16]
    rw [hread, MultiPartData.mk.injEq, charToU16_shiftLeft_or_eq_iff]
    simp
  · have hread : (h.setMultiPartData ⟨n, parts, number⟩).getMultiPartData =
        ⟨charToU16 n.toUInt8, parts, number⟩ := by
      simp [setMultiPartData, hlong, getMultiPartData, hfind]
    rw [hread, MultiPartData.mk.injEq, charToU16_toUInt8_eq_iff hlong]
    simp

/-- **The data of a part survives** the header exactly if the reference number is safe from its sign. -/
theorem getMultiPartData_iff (h : UserDataHeader) (m : MultiPartData) (hplain : h.Plain) :
    (parse (h.setMultiPartData m).serialize).map getMultiPartData = .ok m ↔ SignSafe m.concat_sm_ref_num_ := by
  rw [parse_serialize, ← getMultiPartData_setMultiPartData hplain]
  exact ⟨fun heq => Except.ok.inj heq, fun heq => congrArg Except.ok heq⟩

/-- A header with the ports of an application. -/
def portHeader : UserDataHeader := ⟨[⟨0x05, [0x15, 0x8A, 0, 0], by decide, by decide⟩]⟩

theorem getMultiPartData_iff_portHeader :
    (parse (portHeader.setMultiPartData ⟨0x1234, 2, 1⟩).serialize).map getMultiPartData = .ok ⟨0x1234, 2, 1⟩ :=
  (getMultiPartData_iff portHeader ⟨0x1234, 2, 1⟩ (List.forall_mem_singleton.mpr (by decide))).mpr (by decide)

/-- The reference number 128 becomes 65408. -/
theorem not_getMultiPartData : ¬ ∀ (h : UserDataHeader) (m : MultiPartData), h.Plain →
    (parse (h.setMultiPartData m).serialize).map getMultiPartData = .ok m := by
  intro h
  have hread := h empty ⟨128, 2, 1⟩ (List.forall_mem_nil _)
  rw [parse_serialize] at hread
  exact absurd (Except.ok.inj hread) (by decide)

end UserDataHeader

/-! ### A short message -/

/-- **Packing and unpacking are inverse**: a message that is packed is unpacked into the same elements and the
same text, when the flag says whether there are any elements. -/
theorem unpackShortMessage_packShortMessage (header : UserDataHeader) (body : Bytes) (dataCoding : UInt8)
    (esmClass : EsmClass) (message : Bytes) (hpack : packShortMessage header body dataCoding = .ok message)
    (hudhi : esmClass.udhi = true ↔ header.headers_ ≠ []) :
    unpackShortMessage esmClass dataCoding message = .ok (header, body) := by
  refine (unpackShortMessage_packShortMessage_iff hpack).mpr (hudhi.trans ?_)
  rw [Ne, Ne, UserDataHeader.serialize_eq_nil_iff, UserDataHeader.ext_iff]
  rfl

theorem unpackShortMessage_packShortMessage_part :
    unpackShortMessage (EsmClass.fromU8 0x40) 0 [5, 0, 3, 7, 2, 1, 104, 105] =
      .ok (UserDataHeader.empty.setMultiPartData ⟨7, 2, 1⟩, [104, 105]) :=
  unpackShortMessage_packShortMessage _ _ _ _ _ (by rfl) (by decide)

end SmppGateway.Smpp
