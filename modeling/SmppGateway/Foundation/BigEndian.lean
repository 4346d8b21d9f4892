import SmppGateway.Foundation.Text
import Mathlib.Algebra.Group.Nat.Defs

/-!
# Integers in network byte order

The lambdas `serialize_u16`, `serialize_u32`, `deserialize_u16` and `deserialize_u32` that the
headers and the optional parameters are read and written with, as the shifts and masks they are.

## What is proved

* `toNat_deserializeU16`, `toNat_deserializeU32` — the number the bytes stand for.
* `deserializeU16_serializeU16`, `deserializeU32_serializeU32` — reading what was written.
-/

namespace SmppGateway.Foundation

/-- `serialize_u16`. -/
def serializeU16 (val : UInt16) : Bytes := [(val >>> 8).toUInt8, val.toUInt8]

/-- `deserialize_u16`. -/
def deserializeU16 (d0 d1 : UInt8) : UInt16 := d0.toUInt16 <<< 8 ||| d1.toUInt16

/-- `serialize_u32`. -/
def serializeU32 (val : UInt32) : Bytes :=
  [(val >>> 24).toUInt8, (val >>> 16).toUInt8, (val >>> 8).toUInt8, val.toUInt8]

/-- `deserialize_u32`. -/
def deserializeU32 (d0 d1 d2 d3 : UInt8) : UInt32 :=
  d0.toUInt32 <<< 24 ||| d1.toUInt32 <<< 16 ||| d2.toUInt32 <<< 8 ||| d3.toUInt32

@[simp]
theorem length_serializeU16 (val : UInt16) : (serializeU16 val).length = 2 := rfl

@[simp]
theorem length_serializeU32 (val : UInt32) : (serializeU32 val).length = 4 := rfl

/-- Bytes put side by side add up. -/
theorem lor_of_lt {a b k : ℕ} (hb : b < 2 ^ k) : a * 2 ^ k ||| b = a * 2 ^ k + b := by
  rw [← Nat.shiftLeft_eq, Nat.shiftLeft_add_eq_or_of_lt hb]

theorem toNat_deserializeU16 (d0 d1 : UInt8) :
    (deserializeU16 d0 d1).toNat = d0.toNat * 2 ^ 8 + d1.toNat := by
  have h0 : d0.toNat < 2 ^ 8 := d0.toNat_lt
  have h1 : d1.toNat < 2 ^ 8 := d1.toNat_lt
  have hshift : (d0.toUInt16 <<< 8).toNat = d0.toNat * 2 ^ 8 := by
    rw [UInt16.toNat_shiftLeft, UInt8.toNat_toUInt16, Nat.shiftLeft_eq]
    simp only [UInt16.reduceToNat, Nat.reduceMod]
    exact Nat.mod_eq_of_lt (by omega)
  rw [deserializeU16, UInt16.toNat_or, hshift, UInt8.toNat_toUInt16, lor_of_lt h1]

theorem toNat_deserializeU32 (d0 d1 d2 d3 : UInt8) : (deserializeU32 d0 d1 d2 d3).toNat =
    d0.toNat * 2 ^ 24 + d1.toNat * 2 ^ 16 + d2.toNat * 2 ^ 8 + d3.toNat := by
  have h0 : d0.toNat < 2 ^ 8 := d0.toNat_lt
  have h1 : d1.toNat < 2 ^ 8 := d1.toNat_lt
  have h2 : d2.toNat < 2 ^ 8 := d2.toNat_lt
  have h3 : d3.toNat < 2 ^ 8 := d3.toNat_lt
  have hshift : ∀ (d : UInt8) (k : UInt32), k.toNat ≤ 24 →
      (d.toUInt32 <<< k).toNat = d.toNat * 2 ^ k.toNat := by
    intro d k hk
    have hd : d.toNat < 2 ^ 8 := d.toNat_lt
    have hle : d.toNat * 2 ^ k.toNat < 2 ^ 32 :=
      calc d.toNat * 2 ^ k.toNat
          < 2 ^ 8 * 2 ^ k.toNat := Nat.mul_lt_mul_of_pos_right hd (Nat.two_pow_pos _)
        _ ≤ 2 ^ 8 * 2 ^ 24 := Nat.mul_le_mul_left _ (Nat.pow_le_pow_right (by decide) hk)
        _ = 2 ^ 32 := by decide
    rw [UInt32.toNat_shiftLeft, UInt8.toNat_toUInt32, Nat.shiftLeft_eq,
      Nat.mod_eq_of_lt (show k.toNat < 32 by omega), Nat.mod_eq_of_lt hle]
  have e1 : d0.toNat * 2 ^ 24 ||| d1.toNat * 2 ^ 16 = (d0.toNat * 2 ^ 8 + d1.toNat) * 2 ^ 16 := by
    rw [lor_of_lt (by omega)]
    omega
  have e2 : (d0.toNat * 2 ^ 8 + d1.toNat) * 2 ^ 16 ||| d2.toNat * 2 ^ 8 =
      (d0.toNat * 2 ^ 16 + d1.toNat * 2 ^ 8 + d2.toNat) * 2 ^ 8 := by
    rw [lor_of_lt (by omega)]
    omega
  rw [deserializeU32, UInt32.toNat_or, UInt32.toNat_or, UInt32.toNat_or, hshift _ _ (by decide),
    hshift _ _ (by decide), hshift _ _ (by decide), UInt8.toNat_toUInt32]
  simp only [UInt32.reduceToNat]
  rw [e1, e2, lor_of_lt h3]
  omega

@[simp]
theorem deserializeU16_serializeU16 (val : UInt16) :
    deserializeU16 (val >>> 8).toUInt8 val.toUInt8 = val := by
  have hval : val.toNat < 2 ^ 16 := val.toNat_lt
  apply UInt16.toNat_inj.mp
  rw [toNat_deserializeU16, UInt16.toNat_toUInt8, UInt16.toNat_toUInt8, UInt16.toNat_shiftRight,
    Nat.shiftRight_eq_div_pow]
  simp only [UInt16.reduceToNat, Nat.reduceMod]
  omega

@[simp]
theorem deserializeU32_serializeU32 (val : UInt32) : deserializeU32 (val >>> 24).toUInt8
    (val >>> 16).toUInt8 (val >>> 8).toUInt8 val.toUInt8 = val := by
  have hval : val.toNat < 2 ^ 32 := val.toNat_lt
  apply UInt32.toNat_inj.mp
  rw [toNat_deserializeU32, UInt32.toNat_toUInt8, UInt32.toNat_toUInt8, UInt32.toNat_toUInt8,
    UInt32.toNat_toUInt8, UInt32.toNat_shiftRight, UInt32.toNat_shiftRight, UInt32.toNat_shiftRight]
  simp only [UInt32.reduceToNat, Nat.reduceMod, Nat.shiftRight_eq_div_pow]
  omega

end SmppGateway.Foundation
