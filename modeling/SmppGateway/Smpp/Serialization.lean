import SmppGateway.Foundation.FieldCodec
import SmppGateway.Foundation.BigEndian
import Mathlib.Data.List.TakeWhile
import Mathlib.Tactic.Linarith

/-!
# The field codecs

The structures of `src/libs/smpp/common/serialization.hpp`, one for each kind of field, and the
optional parameters of `src/libs/smpp/param/oparam.hpp`, which take the rest of the body.

## The model

An enumeration of the protocol has the underlying type `uint8_t`, and a cast from a byte makes any
byte one of its values, so its values are bytes. `oparam` is an ordered map from tags to texts;
`set_as_string` and the constructor from bytes are the ways to fill it, and both keep a text within
65535 bytes.

## What is proved

Each codec is a `FieldCodec`: its laws are the fields of `u8`, `enumFlag`, `cOctetStr`, `u8OctetStr`
and `smart`. `OParam.parse_wire` is the one with an argument in it: writing the map in the order of its
tags and parsing the bytes gives the map.
-/

namespace SmppGateway.Smpp

open SmppGateway.Foundation
open Std (ExtTreeMap)

/-- The text of an empty buffer. -/
def emptyText (name : Bytes) : Bytes := ascii "buf size should be at least 1, field_name:" ++ name

/-! ### One byte -/

/-- `u8`, and `enum_u8` for an enumeration, whose values are the bytes. -/
def u8 : FieldCodec UInt8 Anything where
  deserialize name buf :=
    match buf with
    | [] => .error (.exception (emptyText name))
    | val :: buf => .ok (val, buf)
  serializeTo _ vec val := (vec ++ [val], .ok ())
  Fits _ := True
  wire val := [val]
  terminated _ := []
  serializeTo_of_fits _ _ _ _ := rfl
  serializeTo_of_not_fits _ _ h := absurd trivial h
  deserialize_wire _ _ _ _ _ _ := rfl
  deserialize_sound _ _ _ _ _ := ⟨trivial, by simp⟩

/-- `enum_u8`. -/
def enumU8 : FieldCodec UInt8 Anything := u8

/-- `enum_flag`, for a type of flags that are kept apart and joined into a byte. -/
def enumFlag {T : Type} (fromU8 : UInt8 → T) (toU8 : T → UInt8) (h : ∀ val, fromU8 (toU8 val) = val) :
    FieldCodec T Anything where
  deserialize name buf :=
    match buf with
    | [] => .error (.exception (emptyText name))
    | val :: buf => .ok (fromU8 val, buf)
  serializeTo _ vec val := (vec ++ [toU8 val], .ok ())
  Fits _ := True
  wire val := [toU8 val]
  terminated _ := []
  serializeTo_of_fits _ _ _ _ := rfl
  serializeTo_of_not_fits _ _ h := absurd trivial h
  deserialize_wire _ val rest _ _ _ := by simp only [List.singleton_append, h]
  deserialize_sound _ _ _ _ _ := ⟨trivial, by simp⟩

/-! ### Texts -/

/-- The text of a C-octet string without its end. -/
def noNullText (name : Bytes) : Bytes := ascii "c_octet_str can't find null character, field_name:" ++ name

/-- The text of a C-octet string that is too long. -/
def cOctetStrLimitText (name : Bytes) : Bytes := ascii "c_octet_str exceed its limit, field_name:" ++ name

/-- `c_octet_str<MAXLEN>::deserialize`. -/
def cOctetStrDeserialize (maxLen : ℕ) (name buf : Bytes) : Except Fault (Bytes × Bytes) :=
  let str := buf.takeWhile (· ≠ 0)
  if str.length = buf.length then .error (.exception (noNullText name))
  else if maxLen ≤ str.length then .error (.exception (cOctetStrLimitText name))
  else .ok (str, buf.drop (str.length + 1))

/-- `c_octet_str<MAXLEN>::serialize_to`. -/
def cOctetStrSerializeTo (maxLen : ℕ) (name vec val : Bytes) : Bytes × Except Fault Unit :=
  if maxLen ≤ val.length then (vec, .error (.exception (cOctetStrLimitText name)))
  else (vec ++ val ++ [0], .ok ())

/-- `c_octet_str<MAXLEN>`. -/
def cOctetStr (maxLen : ℕ) : FieldCodec Bytes Anything where
  deserialize := cOctetStrDeserialize maxLen
  serializeTo := cOctetStrSerializeTo maxLen
  Fits val := val.length < maxLen
  wire val := val ++ [0]
  terminated val := [val]
  serializeTo_of_fits name vec val h := by
    rw [cOctetStrSerializeTo, if_neg (by omega), List.append_assoc]
  serializeTo_of_not_fits name val h := ⟨_, fun vec => by rw [cOctetStrSerializeTo, if_pos (by omega)]⟩
  deserialize_wire name val rest hfits hclean _ := by
    have hnonzero : ∀ c ∈ val, decide (c ≠ 0) = true := by
      intro c hc
      simp only [decide_eq_true_eq]
      rintro rfl
      exact hclean val (by simp) hc
    have htake : (val ++ [0] ++ rest).takeWhile (· ≠ 0) = val := by
      rw [List.append_assoc, List.takeWhile_append_of_pos hnonzero]
      simp
    rw [cOctetStrDeserialize]
    simp only [htake]
    rw [if_neg (by simp), if_neg (by omega)]
    simp
  deserialize_sound name buf val rest h := by
    rw [cOctetStrDeserialize] at h
    split at h
    · cases h
    · split at h
      · cases h
      · rename_i hlen
        cases h
        refine ⟨by omega, ?_⟩
        intro s hs hz
        rw [List.mem_singleton.mp hs] at hz
        have := List.mem_takeWhile_imp hz
        simp at this

/-- The text of an octet string that runs past the buffer. -/
def octetStrSmallText (name : Bytes) : Bytes :=
  ascii "octet_str buf is smaller than its length field, field_name:" ++ name

/-- The text of an octet string that is too long. -/
def octetStrLimitText (name : Bytes) : Bytes := ascii "octet_str exceed its limit, field_name:" ++ name

/-- `u8_octet_str<MAXLEN>::deserialize`. -/
def u8OctetStrDeserialize (maxLen : ℕ) (name buf : Bytes) : Except Fault (Bytes × Bytes) :=
  match buf with
  | [] => .error (.exception (emptyText name))
  | length :: tail =>
    if buf.length ≤ length.toNat then .error (.exception (octetStrSmallText name))
    else
      let str := tail.take length.toNat
      if maxLen < str.length then .error (.exception (octetStrLimitText name))
      else .ok (str, buf.drop (str.length + 1))

/-- `u8_octet_str<MAXLEN>::serialize_to`. -/
def u8OctetStrSerializeTo (maxLen : ℕ) (name vec val : Bytes) : Bytes × Except Fault Unit :=
  if maxLen < val.length then (vec, .error (.exception (octetStrLimitText name)))
  else (vec ++ [val.length.toUInt8] ++ val, .ok ())

/-- `u8_octet_str<MAXLEN>`, for a length that a byte can hold. -/
def u8OctetStr (maxLen : ℕ) (hmax : maxLen < 256) : FieldCodec Bytes Anything where
  deserialize := u8OctetStrDeserialize maxLen
  serializeTo := u8OctetStrSerializeTo maxLen
  Fits val := val.length ≤ maxLen
  wire val := val.length.toUInt8 :: val
  terminated _ := []
  serializeTo_of_fits name vec val h := by
    rw [u8OctetStrSerializeTo, if_neg (by omega), List.append_assoc]
    rfl
  serializeTo_of_not_fits name val h := ⟨_, fun vec => by rw [u8OctetStrSerializeTo, if_pos (by omega)]⟩
  deserialize_wire name val rest hfits _ _ := by
    have hlength : val.length.toUInt8.toNat = val.length := by
      rw [Nat.toUInt8_eq, UInt8.toNat_ofNat']
      exact Nat.mod_eq_of_lt (by omega)
    rw [List.cons_append, u8OctetStrDeserialize]
    simp only [hlength, List.take_left']
    rw [if_neg (by simp only [List.length_cons, List.length_append]; omega), if_neg (by simpa using hfits)]
    simp
  deserialize_sound name buf val rest h := by
    cases buf with
    | nil => cases h
    | cons length tail =>
      rw [u8OctetStrDeserialize] at h
      split at h
      · cases h
      · dsimp only at h
        split at h
        · cases h
        · rename_i hlen
          cases h
          exact ⟨by omega, by simp⟩

/-! ### Optional parameters -/

/-- `oparam`: every text is short enough for its length field. -/
structure OParam where
  /-- `oparam_`. -/
  params : ExtTreeMap UInt16 Bytes
  /-- The length of a text fits sixteen bits. -/
  length_lt : ∀ (tag : UInt16) (val : Bytes), params[tag]? = some val → val.length < 65536

namespace OParam

@[ext]
theorem ext {o o' : OParam} (h : o.params = o'.params) : o = o' := by
  cases o; cases o'; cases h; rfl

/-- No parameter. -/
def empty : OParam := ⟨∅, by simp⟩

/-- `oparam_.emplace`, which keeps the text a tag already has. -/
def emplace (o : OParam) (tag : UInt16) (val : Bytes) (h : val.length < 65536) : OParam where
  params := o.params.insertIfNew tag val
  length_lt t v hv := by
    rw [ExtTreeMap.getElem?_insertIfNew] at hv
    split at hv
    · cases hv; exact h
    · exact o.length_lt t v hv

/-- `set_as_string`. -/
def setAsString (o : OParam) (tag : UInt16) (val : Bytes) : Except Fault OParam :=
  if h : 65535 < val.length then
    .error (.exception (ascii "oparam value length is bigger than 65535"))
  else .ok {
    params := o.params.insert tag val
    length_lt := fun t v hv => by
      rw [ExtTreeMap.getElem?_insert] at hv
      split at hv
      · cases hv; omega
      · exact o.length_lt t v hv }

/-- The loop of the constructor from bytes: the parameters so far, and the bytes left. -/
def parse (o : OParam) (buf : Bytes) : Except Fault (OParam × Bytes) :=
  match buf with
  | t0 :: t1 :: l0 :: l1 :: rest =>
    let tag := deserializeU16 t0 t1
    let valLength := (deserializeU16 l0 l1).toNat
    if rest.length < valLength then
      .error (.exception (ascii "oparam val length is bigger than available buf"))
    else
      parse (o.emplace tag (rest.take valLength) (by
        have : valLength < 65536 := (deserializeU16 l0 l1).toNat_lt
        exact lt_of_le_of_lt (List.length_take_le _ _) this)) (rest.drop valLength)
  | buf => .ok (o, buf)
termination_by buf.length
decreasing_by simp only [List.length_drop, List.length_cons]; omega

/-- The bytes of one parameter. -/
def entryWire (entry : UInt16 × Bytes) : Bytes :=
  serializeU16 entry.1 ++ serializeU16 entry.2.length.toUInt16 ++ entry.2

/-- The bytes of the parameters, in the order of their tags. -/
def wire (o : OParam) : Bytes := o.params.toList.flatMap entryWire

/-- `serialize`. -/
def serialize (o : OParam) (vec : Bytes) : Bytes :=
  o.params.toList.foldl (fun vec entry => vec ++ entryWire entry) vec

theorem serialize_eq (o : OParam) (vec : Bytes) : o.serialize vec = vec ++ o.wire := by
  rw [serialize, wire]
  induction o.params.toList generalizing vec with
  | nil => simp
  | cons entry list ih => rw [List.foldl_cons, ih, List.flatMap_cons, List.append_assoc]

/-- What the parameters are after more have been emplaced. -/
def emplaceAll (o : OParam) : (entries : List (UInt16 × Bytes)) → (∀ e ∈ entries, e.2.length < 65536) →
    OParam
  | [], _ => o
  | e :: entries, h =>
    (o.emplace e.1 e.2 (h e (by simp))).emplaceAll entries fun e' he' => h e' (by simp [he'])

/-- Parsing the bytes of some parameters emplaces them. -/
theorem parse_entries (o : OParam) (entries : List (UInt16 × Bytes))
    (h : ∀ e ∈ entries, e.2.length < 65536) :
    o.parse (entries.flatMap entryWire) = .ok (o.emplaceAll entries h, []) := by
  induction entries generalizing o with
  | nil => rw [List.flatMap_nil, parse, emplaceAll]; simp
  | cons e entries ih =>
    obtain ⟨tag, val⟩ := e
    have hlength : val.length.toUInt16.toNat = val.length := by
      rw [Nat.toUInt16_eq, UInt16.toNat_ofNat']
      exact Nat.mod_eq_of_lt (h (tag, val) (by simp))
    rw [List.flatMap_cons, entryWire, serializeU16, serializeU16]
    simp only [List.cons_append, List.nil_append]
    rw [parse]
    simp only [deserializeU16_serializeU16, hlength, List.length_append, List.take_left, List.drop_left]
    rw [if_neg (by omega), ih]
    rfl

theorem getElem?_emplaceAll (o : OParam) (entries : List (UInt16 × Bytes))
    (h : ∀ e ∈ entries, e.2.length < 65536) (tag : UInt16) :
    (o.emplaceAll entries h).params[tag]? =
      (o.params[tag]?).or ((entries.find? (·.1 == tag)).map Prod.snd) := by
  induction entries generalizing o with
  | nil => simp [emplaceAll]
  | cons e entries ih =>
    rw [emplaceAll, ih, emplace, ExtTreeMap.getElem?_insertIfNew, List.find?_cons]
    by_cases htag : e.1 = tag
    · subst htag
      by_cases hmem : e.1 ∈ o.params
      · simp [hmem]
      · simp [hmem]
    · have hcmp : compare e.1 tag ≠ .eq := fun h => htag (Std.LawfulEqCmp.eq_of_compare h)
      have hbeq : (e.1 == tag) = false := beq_eq_false_iff_ne.mpr htag
      simp [hbeq, hcmp]

/-- The first entry with a tag, in the order of the tags. -/
theorem find?_toList (m : ExtTreeMap UInt16 Bytes) (tag : UInt16) :
    (m.toList.find? (·.1 == tag)).map Prod.snd = m[tag]? := by
  cases hget : m[tag]? with
  | none =>
    rw [Option.map_eq_none_iff, List.find?_eq_none]
    rintro ⟨tag', val⟩ he htag
    rw [beq_iff_eq] at htag
    rw [ExtTreeMap.mem_toList_iff_getElem?_eq_some, show tag' = tag from htag, hget] at he
    cases he
  | some val =>
    have hmem : (tag, val) ∈ m.toList := ExtTreeMap.mem_toList_iff_getElem?_eq_some.mpr hget
    cases hfind : m.toList.find? (·.1 == tag) with
    | none => exact absurd (List.find?_eq_none.mp hfind _ hmem) (by simp)
    | some e =>
      have htag : e.1 = tag := by simpa using List.find?_some hfind
      have he := ExtTreeMap.mem_toList_iff_getElem?_eq_some.mp (List.mem_of_find?_eq_some hfind)
      rw [htag, hget] at he
      exact congrArg some (Option.some.inj he).symm

/-- **Parsing what was written** gives the parameters. -/
theorem parse_wire (o : OParam) : empty.parse o.wire = .ok (o, []) := by
  have hlength : ∀ e ∈ o.params.toList, e.2.length < 65536 := fun e he =>
    o.length_lt e.1 e.2 (ExtTreeMap.mem_toList_iff_getElem?_eq_some.mp he)
  rw [wire, parse_entries _ _ hlength]
  have heq : empty.emplaceAll o.params.toList hlength = o := by
    refine OParam.ext (ExtTreeMap.ext_getElem? fun tag => ?_)
    rw [getElem?_emplaceAll, find?_toList]
    simp [empty]
  rw [heq]

end OParam

/-- `smart`, for `oparam`. -/
def smart : FieldCodec OParam Nothing where
  deserialize _ buf := OParam.empty.parse buf
  serializeTo _ vec val := (val.serialize vec, .ok ())
  Fits _ := True
  wire := OParam.wire
  terminated _ := []
  serializeTo_of_fits _ vec val _ := by rw [OParam.serialize_eq]
  serializeTo_of_not_fits _ _ h := absurd trivial h
  deserialize_wire _ val rest _ _ hrest := by rw [hrest, List.append_nil, val.parse_wire]
  deserialize_sound _ _ _ _ _ := ⟨trivial, by simp⟩

end SmppGateway.Smpp
