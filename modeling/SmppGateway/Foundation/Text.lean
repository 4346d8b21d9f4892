import Mathlib.Data.List.Basic

/-!
# Byte strings and characters

A `std::string` is a list of bytes. The character classes are those of
`<cctype>` in the "C" locale, which is the locale a program runs in unless it
asks for another: a byte from `0x80` on belongs to no class and is left alone
by `tolower`.

## What is proved

* `toLower_toLower`, `isUpper_toLower` — lowering is idempotent and leaves no
  upper-case letter.
* `isPrint_toLower` — lowering keeps a printable character printable.
-/

namespace SmppGateway.Foundation

/-- A `std::string`, or any run of bytes. -/
abbrev Bytes := List UInt8

/-- The bytes of an ASCII literal. -/
def ascii (s : String) : Bytes := s.toList.map fun c => c.toNat.toUInt8

/-- What can go wrong inside a function that does not return normally. -/
inductive Fault where
  /-- A C++ exception derived from `std::exception`, with its text. -/
  | exception (what : Bytes)
  /-- An access outside an object: the behaviour is undefined from here on. -/
  | outOfBounds
  deriving DecidableEq, Repr

/-- `isprint`. -/
def isPrint (c : UInt8) : Bool := 32 ≤ c.toNat && c.toNat ≤ 126

/-- `isupper`. -/
def isUpper (c : UInt8) : Bool := 65 ≤ c.toNat && c.toNat ≤ 90

/-- `isdigit`. -/
def isDigit (c : UInt8) : Bool := 48 ≤ c.toNat && c.toNat ≤ 57

/-- `tolower`. -/
def toLower (c : UInt8) : UInt8 := if isUpper c then c + 32 else c

/-- `std::transform(s.begin(), s.end(), s.begin(), ::tolower)`. -/
def lower (s : Bytes) : Bytes := s.map toLower

/-- Every character is printable ASCII. -/
def Printable (s : Bytes) : Prop := ∀ c ∈ s, isPrint c = true

instance (s : Bytes) : Decidable (Printable s) := List.decidableBAll _ s

theorem toLower_of_not_isUpper {c : UInt8} (h : isUpper c = false) : toLower c = c := by
  simp [toLower, h]

theorem toNat_toLower_of_isUpper {c : UInt8} (h : isUpper c = true) :
    (toLower c).toNat = c.toNat + 32 := by
  have hc : c.toNat ≤ 90 := by simp only [isUpper, Bool.and_eq_true, decide_eq_true_eq] at h; omega
  rw [toLower, if_pos h, UInt8.toNat_add]
  exact Nat.mod_eq_of_lt (by simpa using by omega)

/-- Lowering leaves no upper-case letter. -/
theorem isUpper_toLower (c : UInt8) : isUpper (toLower c) = false := by
  cases h : isUpper c with
  | false => rw [toLower_of_not_isUpper h, h]
  | true =>
    have hc := toNat_toLower_of_isUpper h
    simp only [isUpper, Bool.and_eq_true, decide_eq_true_eq] at h
    simp only [isUpper, hc, Bool.and_eq_false_iff, decide_eq_false_iff_not]
    omega

theorem toLower_toLower (c : UInt8) : toLower (toLower c) = toLower c :=
  toLower_of_not_isUpper (isUpper_toLower c)

/-- Lowering keeps a character printable. -/
theorem isPrint_toLower {c : UInt8} (h : isPrint c = true) : isPrint (toLower c) = true := by
  cases hu : isUpper c with
  | false => rwa [toLower_of_not_isUpper hu]
  | true =>
    have hc := toNat_toLower_of_isUpper hu
    simp only [isUpper, Bool.and_eq_true, decide_eq_true_eq] at hu
    simp only [isPrint, hc, Bool.and_eq_true, decide_eq_true_eq]
    omega

@[simp]
theorem lower_nil : lower [] = [] := rfl

theorem lower_lower (s : Bytes) : lower (lower s) = lower s := by
  simp [lower, Function.comp_def, toLower_toLower]

@[simp]
theorem lower_eq_nil {s : Bytes} : lower s = [] ↔ s = [] := by simp [lower]

/-- Lowering a printable string gives a printable string without upper-case letters. -/
theorem printable_lower {s : Bytes} (h : Printable s) : Printable (lower s) := by
  intro c hc
  obtain ⟨d, hd, rfl⟩ := List.mem_map.mp hc
  exact isPrint_toLower (h d hd)

theorem isUpper_of_mem_lower {s : Bytes} {c : UInt8} (h : c ∈ lower s) : isUpper c = false := by
  obtain ⟨d, -, rfl⟩ := List.mem_map.mp h
  exact isUpper_toLower d

end SmppGateway.Foundation
