import SmppGateway.Foundation.Text

/-!
# Text in UCS2

`src/libs/smpp/utility/unicode_converter.hpp`: the conversions of the text of a `submit_sm` to UCS2, from the
GSM 03.38 alphabet by two tables, and from eight-bit text by a zero in front of every byte.

## The model

The loop over the septets is a fold; its state is the text so far and whether the last septet was the escape to
the extended table.
-/

namespace SmppGateway.Smpp

open Foundation

/-- `word`. -/
structure Word where
  h : UInt8
  l : UInt8
  deriving DecidableEq, Repr

/-- `gsm_03_38_to_ucs2`. -/
def gsm0338ToUcs2 : Vector Word 128 :=
  #v[
    ⟨0x00, 0x40⟩, ⟨0x00, 0xA3⟩, ⟨0x00, 0x24⟩, ⟨0x00, 0xA5⟩, ⟨0x00, 0xE8⟩, ⟨0x00, 0xE9⟩, ⟨0x00, 0xF9⟩, ⟨0x00, 0xEC⟩,
    ⟨0x00, 0xF2⟩, ⟨0x00, 0xE7⟩, ⟨0x00, 0x0A⟩, ⟨0x00, 0xD8⟩, ⟨0x00, 0xF8⟩, ⟨0x00, 0x0D⟩, ⟨0x00, 0xC5⟩, ⟨0x00, 0xE5⟩,
    ⟨0x03, 0x94⟩, ⟨0x00, 0x5F⟩, ⟨0x03, 0xA6⟩, ⟨0x03, 0x93⟩, ⟨0x03, 0x9B⟩, ⟨0x03, 0xA9⟩, ⟨0x03, 0xA0⟩, ⟨0x03, 0xA8⟩,
    ⟨0x03, 0xA3⟩, ⟨0x03, 0x98⟩, ⟨0x03, 0x9E⟩, ⟨0x00, 0xA0⟩, ⟨0x00, 0xC6⟩, ⟨0x00, 0xE6⟩, ⟨0x00, 0xDF⟩, ⟨0x00, 0xC9⟩,
    ⟨0x00, 0x20⟩, ⟨0x00, 0x21⟩, ⟨0x00, 0x22⟩, ⟨0x00, 0x23⟩, ⟨0x00, 0xA4⟩, ⟨0x00, 0x25⟩, ⟨0x00, 0x26⟩, ⟨0x00, 0x27⟩,
    ⟨0x00, 0x28⟩, ⟨0x00, 0x29⟩, ⟨0x00, 0x2A⟩, ⟨0x00, 0x2B⟩, ⟨0x00, 0x2C⟩, ⟨0x00, 0x2D⟩, ⟨0x00, 0x2E⟩, ⟨0x00, 0x2F⟩,
    ⟨0x00, 0x30⟩, ⟨0x00, 0x31⟩, ⟨0x00, 0x32⟩, ⟨0x00, 0x33⟩, ⟨0x00, 0x34⟩, ⟨0x00, 0x35⟩, ⟨0x00, 0x36⟩, ⟨0x00, 0x37⟩,
    ⟨0x00, 0x38⟩, ⟨0x00, 0x39⟩, ⟨0x00, 0x3A⟩, ⟨0x00, 0x3B⟩, ⟨0x00, 0x3C⟩, ⟨0x00, 0x3D⟩, ⟨0x00, 0x3E⟩, ⟨0x00, 0x3F⟩,
    ⟨0x00, 0xA1⟩, ⟨0x00, 0x41⟩, ⟨0x00, 0x42⟩, ⟨0x00, 0x43⟩, ⟨0x00, 0x44⟩, ⟨0x00, 0x45⟩, ⟨0x00, 0x46⟩, ⟨0x00, 0x47⟩,
    ⟨0x00, 0x48⟩, ⟨0x00, 0x49⟩, ⟨0x00, 0x4A⟩, ⟨0x00, 0x4B⟩, ⟨0x00, 0x4C⟩, ⟨0x00, 0x4D⟩, ⟨0x00, 0x4E⟩, ⟨0x00, 0x4F⟩,
    ⟨0x00, 0x50⟩, ⟨0x00, 0x51⟩, ⟨0x00, 0x52⟩, ⟨0x00, 0x53⟩, ⟨0x00, 0x54⟩, ⟨0x00, 0x55⟩, ⟨0x00, 0x56⟩, ⟨0x00, 0x57⟩,
    ⟨0x00, 0x58⟩, ⟨0x00, 0x59⟩, ⟨0x00, 0x5A⟩, ⟨0x00, 0xC4⟩, ⟨0x00, 0xD6⟩, ⟨0x00, 0xD1⟩, ⟨0x00, 0xDC⟩, ⟨0x00, 0xA7⟩,
    ⟨0x00, 0xBF⟩, ⟨0x00, 0x61⟩, ⟨0x00, 0x62⟩, ⟨0x00, 0x63⟩, ⟨0x00, 0x64⟩, ⟨0x00, 0x65⟩, ⟨0x00, 0x66⟩, ⟨0x00, 0x67⟩,
    ⟨0x00, 0x68⟩, ⟨0x00, 0x69⟩, ⟨0x00, 0x6A⟩, ⟨0x00, 0x6B⟩, ⟨0x00, 0x6C⟩, ⟨0x00, 0x6D⟩, ⟨0x00, 0x6E⟩, ⟨0x00, 0x6F⟩,
    ⟨0x00, 0x70⟩, ⟨0x00, 0x71⟩, ⟨0x00, 0x72⟩, ⟨0x00, 0x73⟩, ⟨0x00, 0x74⟩, ⟨0x00, 0x75⟩, ⟨0x00, 0x76⟩, ⟨0x00, 0x77⟩,
    ⟨0x00, 0x78⟩, ⟨0x00, 0x79⟩, ⟨0x00, 0x7A⟩, ⟨0x00, 0xE4⟩, ⟨0x00, 0xF6⟩, ⟨0x00, 0xF1⟩, ⟨0x00, 0xFC⟩, ⟨0x00, 0xE0⟩]

/-- `extended_gsm_03_38_to_ucs2`. -/
def extendedGsm0338ToUcs2 : Vector Word 128 :=
  #v[
    ⟨0x00, 0x20⟩, ⟨0x00, 0x20⟩, ⟨0x00, 0x20⟩, ⟨0x00, 0x20⟩, ⟨0x00, 0x20⟩, ⟨0x00, 0x20⟩, ⟨0x00, 0x20⟩, ⟨0x00, 0x20⟩,
    ⟨0x00, 0x20⟩, ⟨0x00, 0x20⟩, ⟨0x00, 0x0C⟩, ⟨0x00, 0x20⟩, ⟨0x00, 0x20⟩, ⟨0x00, 0x20⟩, ⟨0x00, 0x20⟩, ⟨0x00, 0x20⟩,
    ⟨0x00, 0x20⟩, ⟨0x00, 0x20⟩, ⟨0x00, 0x20⟩, ⟨0x00, 0x20⟩, ⟨0x00, 0x5E⟩, ⟨0x00, 0x20⟩, ⟨0x00, 0x20⟩, ⟨0x00, 0x20⟩,
    ⟨0x00, 0x20⟩, ⟨0x00, 0x20⟩, ⟨0x00, 0x20⟩, ⟨0x00, 0x20⟩, ⟨0x00, 0x20⟩, ⟨0x00, 0x20⟩, ⟨0x00, 0x20⟩, ⟨0x00, 0x20⟩,
    ⟨0x00, 0x20⟩, ⟨0x00, 0x20⟩, ⟨0x00, 0x20⟩, ⟨0x00, 0x20⟩, ⟨0x00, 0x20⟩, ⟨0x00, 0x20⟩, ⟨0x00, 0x20⟩, ⟨0x00, 0x20⟩,
    ⟨0x00, 0x7B⟩, ⟨0x00, 0x7D⟩, ⟨0x00, 0x20⟩, ⟨0x00, 0x20⟩, ⟨0x00, 0x20⟩, ⟨0x00, 0x20⟩, ⟨0x00, 0x20⟩, ⟨0x00, 0x5C⟩,
    ⟨0x00, 0x20⟩, ⟨0x00, 0x20⟩, ⟨0x00, 0x20⟩, ⟨0x00, 0x20⟩, ⟨0x00, 0x20⟩, ⟨0x00, 0x20⟩, ⟨0x00, 0x20⟩, ⟨0x00, 0x20⟩,
    ⟨0x00, 0x20⟩, ⟨0x00, 0x20⟩, ⟨0x00, 0x20⟩, ⟨0x00, 0x20⟩, ⟨0x00, 0x5B⟩, ⟨0x00, 0x7E⟩, ⟨0x00, 0x5D⟩, ⟨0x00, 0x20⟩,
    ⟨0x00, 0x7C⟩, ⟨0x00, 0x20⟩, ⟨0x00, 0x20⟩, ⟨0x00, 0x20⟩, ⟨0x00, 0x20⟩, ⟨0x00, 0x20⟩, ⟨0x00, 0x20⟩, ⟨0x00, 0x20⟩,
    ⟨0x00, 0x20⟩, ⟨0x00, 0x20⟩, ⟨0x00, 0x20⟩, ⟨0x00, 0x20⟩, ⟨0x00, 0x20⟩, ⟨0x00, 0x20⟩, ⟨0x00, 0x20⟩, ⟨0x00, 0x20⟩,
    ⟨0x00, 0x20⟩, ⟨0x00, 0x20⟩, ⟨0x00, 0x20⟩, ⟨0x00, 0x20⟩, ⟨0x00, 0x20⟩, ⟨0x00, 0x20⟩, ⟨0x00, 0x20⟩, ⟨0x00, 0x20⟩,
    ⟨0x00, 0x20⟩, ⟨0x00, 0x20⟩, ⟨0x00, 0x20⟩, ⟨0x00, 0x20⟩, ⟨0x00, 0x20⟩, ⟨0x00, 0x20⟩, ⟨0x00, 0x20⟩, ⟨0x00, 0x20⟩,
    ⟨0x00, 0x20⟩, ⟨0x00, 0x20⟩, ⟨0x00, 0x20⟩, ⟨0x00, 0x20⟩, ⟨0x00, 0x20⟩, ⟨0x20, 0xAC⟩, ⟨0x00, 0x20⟩, ⟨0x00, 0x20⟩,
    ⟨0x00, 0x20⟩, ⟨0x00, 0x20⟩, ⟨0x00, 0x20⟩, ⟨0x00, 0x20⟩, ⟨0x00, 0x20⟩, ⟨0x00, 0x20⟩, ⟨0x00, 0x20⟩, ⟨0x00, 0x20⟩,
    ⟨0x00, 0x20⟩, ⟨0x00, 0x20⟩, ⟨0x00, 0x20⟩, ⟨0x00, 0x20⟩, ⟨0x00, 0x20⟩, ⟨0x00, 0x20⟩, ⟨0x00, 0x20⟩, ⟨0x00, 0x20⟩,
    ⟨0x00, 0x20⟩, ⟨0x00, 0x20⟩, ⟨0x00, 0x20⟩, ⟨0x00, 0x20⟩, ⟨0x00, 0x20⟩, ⟨0x00, 0x20⟩, ⟨0x00, 0x20⟩, ⟨0x00, 0x20⟩]

/-- The variables of the loop of `convert_gsm_to_ucs2`. -/
structure GsmConversion where
  ucs2 : Bytes
  extended : Bool
  deriving DecidableEq, Repr

/-- The word of a septet. -/
def GsmConversion.word (s : GsmConversion) (septet : UInt8) (h : ¬septet > 127) : Word :=
  let i : Fin 128 := ⟨septet.toNat, Nat.lt_succ_of_le (UInt8.not_lt.mp h)⟩
  if s.extended then extendedGsm0338ToUcs2.get i else gsm0338ToUcs2.get i

/-- The body of the loop. -/
def GsmConversion.convert (s : GsmConversion) (septet : UInt8) : GsmConversion :=
  if h : septet > 127 then s
  else if s.extended = false ∧ septet = 0x1B then { s with extended := true }
  else { ucs2 := s.ucs2 ++ [(s.word septet h).h, (s.word septet h).l], extended := false }

/-- The loop. -/
def gsmConversion (body : Bytes) : GsmConversion := body.foldl GsmConversion.convert ⟨[], false⟩

/-- `convert_gsm_to_ucs2`. -/
def convertGsmToUcs2 (body : Bytes) : Bytes := (gsmConversion body).ucs2

/-- `convert_ascii_to_ucs2`. -/
def convertAsciiToUcs2 (body : Bytes) : Bytes := body.flatMap fun ch => [0x00, ch]

/-- The last septet of a text is an escape. -/
def DanglingEscape (body : Bytes) : Prop := (gsmConversion body).extended = true

instance (body : Bytes) : Decidable (DanglingEscape body) := inferInstanceAs (Decidable (_ = true))

namespace GsmConversion

variable {s : GsmConversion} {septet : UInt8}

theorem convert_of_gt (h : septet > 127) : s.convert septet = s := by rw [convert, dif_pos h]

theorem convert_escape (hplain : s.extended = false) : s.convert 0x1B = { s with extended := true } := by
  rw [convert, dif_neg (by decide), if_pos ⟨hplain, rfl⟩]

theorem convert_of_le (h : ¬septet > 127) (hescape : ¬(s.extended = false ∧ septet = 0x1B)) :
    s.convert septet = ⟨s.ucs2 ++ [(s.word septet h).h, (s.word septet h).l], false⟩ := by
  rw [convert, dif_neg h, if_neg hescape]

/-- What is converted already stands before the rest. -/
theorem foldl_convert (s : GsmConversion) (body : Bytes) :
    (body.foldl convert s).ucs2 = s.ucs2 ++ (body.foldl convert ⟨[], s.extended⟩).ucs2 := by
  induction body generalizing s with
  | nil => exact (List.append_nil _).symm
  | cons septet body ih =>
    rw [List.foldl_cons, List.foldl_cons, ih, ih (convert _ _)]
    by_cases hbyte : septet > 127
    · rw [convert_of_gt hbyte, convert_of_gt hbyte, List.nil_append]
    by_cases hescape : s.extended = false ∧ septet = 0x1B
    · rw [hescape.2, convert_escape hescape.1, convert_escape (s := ⟨[], s.extended⟩) hescape.1,
        List.nil_append]
    · rw [convert_of_le hbyte hescape, convert_of_le (s := ⟨[], s.extended⟩) hbyte hescape, List.nil_append,
        List.append_assoc]
      rfl

end GsmConversion

end SmppGateway.Smpp
