import Mathlib.Algebra.Group.Nat.Defs
import Mathlib.Algebra.Ring.Int.Defs
import Mathlib.Data.List.Induction
import Mathlib.Data.List.TakeWhile
import SmppGateway.Foundation.Text

/-!
# Numerals

How the standard library reads a decimal integer at the beginning of a text.

## The model

`scan` is what `strtol` and the extraction of an integer from a stream have in common: white space is passed
over, a sign is taken, and then as many digits as there are. `stoi` throws where there is no digit and where
the number does not fit an `int`.

## What is proved

* `scan_digits`, `scan_digits_append` — digits at the beginning of a text are found as they are, with those
  that follow.
* `Numeral.scan` — a numeral is found whole, with its number.
* `Numeral.isDigit_of_mem_drop` — what is left of a numeral behind its first character is digits.
* `stoi_twoDigits` — a number written with two digits is read back.
* `numeral_decimal`, `numeral_signedDecimal` — a number that is written is a numeral of it.
* `digitsValue_lt` — how large a number of so many digits can be.
* `stoi_eq` — a text too short for a number outside `int` throws exactly if it has no digit to begin with.
-/

namespace SmppGateway.Foundation

/-- `isspace`. -/
def isSpace (c : UInt8) : Bool := c.toNat == 32 || (9 ≤ c.toNat && c.toNat ≤ 13)

/-- The value of decimal digits. -/
def digitsValue (digits : Bytes) : ℕ := digits.foldl (fun value c => 10 * value + (c.toNat - 48)) 0

/-- Whether there is a minus sign, and what comes behind the sign. -/
def scanSign : Bytes → Bool × Bytes
  | [] => (false, [])
  | c :: s => if c = 45 then (true, s) else if c = 43 then (false, s) else (false, c :: s)

/-- What is found at the beginning of a text. -/
structure Scanned where
  /-- There is a minus sign. -/
  negative : Bool
  /-- The digits. -/
  digits : Bytes
  /-- The text behind them. -/
  rest : Bytes
  deriving DecidableEq

/-- The reading of a decimal integer. -/
def scan (s : Bytes) : Scanned :=
  let (negative, s) := scanSign (s.dropWhile isSpace)
  ⟨negative, s.takeWhile isDigit, s.dropWhile isDigit⟩

/-- The number that is found. -/
def Scanned.value (n : Scanned) : ℤ :=
  if n.negative then -(digitsValue n.digits : ℤ) else digitsValue n.digits

/-- A number an `int` can hold. -/
def IsInt (n : ℤ) : Prop := -2 ^ 31 ≤ n ∧ n < 2 ^ 31

instance (n : ℤ) : Decidable (IsInt n) := inferInstanceAs (Decidable (_ ∧ _))

/-- `std::stoi`. -/
def stoi (s : Bytes) : Except Fault ℤ :=
  let n := scan s
  if n.digits ≠ [] ∧ IsInt n.value then .ok n.value else .error (.exception (ascii "stoi"))

theorem digitsValue_concat (digits : Bytes) (c : UInt8) :
    digitsValue (digits ++ [c]) = 10 * digitsValue digits + (c.toNat - 48) := List.foldl_concat ..

/-- **Digits** give less than the power of ten of their number. -/
theorem digitsValue_lt {digits : Bytes} (h : ∀ c ∈ digits, isDigit c = true) :
    digitsValue digits < 10 ^ digits.length := by
  induction digits using List.reverseRecOn with
  | nil => decide
  | append_singleton digits c ih =>
    have hc : c.toNat ≤ 57 := by
      have hdigit := h c (by simp)
      simp only [isDigit, Bool.and_eq_true, decide_eq_true_eq] at hdigit
      exact hdigit.2
    have hrest := ih fun d hd => h d (by simp [hd])
    rw [digitsValue_concat, List.length_append, List.length_singleton, Nat.pow_succ]
    omega

theorem scanSign_suffix (s : Bytes) : (scanSign s).2 <:+ s := by
  cases s with
  | nil => exact List.suffix_refl _
  | cons c s =>
    rw [scanSign]
    split_ifs
    · exact List.suffix_cons c s
    · exact List.suffix_cons c s
    · exact List.suffix_refl _

/-- What is left behind the digits is the end of the text. -/
theorem scan_rest_suffix (s : Bytes) : (scan s).rest <:+ s :=
  ((List.dropWhile_suffix isDigit).trans (scanSign_suffix _)).trans (List.dropWhile_suffix isSpace)

theorem scan_digits_length_le (s : Bytes) : (scan s).digits.length ≤ s.length :=
  calc (scan s).digits.length ≤ (scanSign (s.dropWhile isSpace)).2.length :=
        (List.takeWhile_prefix isDigit).length_le
    _ ≤ (s.dropWhile isSpace).length := (scanSign_suffix _).length_le
    _ ≤ s.length := (List.dropWhile_suffix isSpace).length_le

/-- Where a digit is found, not all of the text is left. -/
theorem length_scan_rest_lt {s : Bytes} (h : (scan s).digits ≠ []) : (scan s).rest.length < s.length := by
  have hsplit := List.takeWhile_append_dropWhile (p := isDigit) (l := (scanSign (s.dropWhile isSpace)).2)
  have hlen : (scan s).digits.length + (scan s).rest.length = (scanSign (s.dropWhile isSpace)).2.length := by
    rw [← List.length_append]
    exact congrArg List.length hsplit
  have hsign := (scanSign_suffix (s.dropWhile isSpace)).length_le
  have hspace := (List.dropWhile_suffix (l := s) isSpace).length_le
  have hpos := List.length_pos_of_ne_nil h
  omega

theorem isDigit_of_mem_scan {s : Bytes} {c : UInt8} (h : c ∈ (scan s).digits) : isDigit c = true :=
  List.all_eq_true.mp List.all_takeWhile c h

/-- A number of no more than nine digits fits. -/
theorem isInt_scan {s : Bytes} (h : s.length ≤ 9) : IsInt (scan s).value := by
  have hlt : digitsValue (scan s).digits < 10 ^ 9 :=
    calc digitsValue (scan s).digits < 10 ^ (scan s).digits.length :=
          digitsValue_lt fun _ hc => isDigit_of_mem_scan hc
      _ ≤ 10 ^ 9 := Nat.pow_le_pow_right (by decide) ((scan_digits_length_le s).trans h)
  rw [IsInt, Scanned.value]
  split <;> omega

/-- **A short text** is a number if a digit is found. -/
theorem stoi_eq {s : Bytes} (h : s.length ≤ 9) :
    stoi s = if (scan s).digits ≠ [] then .ok (scan s).value else .error (.exception (ascii "stoi")) := by
  rw [stoi]
  simp only [isInt_scan h, and_true]

/-! ### Digits that are written -/

theorem not_isSpace_of_isDigit {c : UInt8} (h : isDigit c = true) : isSpace c = false := by
  simp only [isDigit, Bool.and_eq_true, decide_eq_true_eq] at h
  simp only [isSpace, Bool.or_eq_false_iff, beq_eq_false_iff_ne, Bool.and_eq_false_iff,
    decide_eq_false_iff_not]
  omega

theorem scanSign_of_isDigit {c : UInt8} (h : isDigit c = true) (s : Bytes) :
    scanSign (c :: s) = (false, c :: s) := by
  have hminus : c ≠ 45 := fun heq => absurd h (by rw [heq]; decide)
  have hplus : c ≠ 43 := fun heq => absurd h (by rw [heq]; decide)
  rw [scanSign, if_neg hminus, if_neg hplus]

/-- **Digits** that something else follows are found. -/
theorem scan_digits {digits rest : Bytes} (hne : digits ≠ []) (h : ∀ c ∈ digits, isDigit c = true)
    (hrest : ∀ c ∈ rest.head?, isDigit c = false) : scan (digits ++ rest) = ⟨false, digits, rest⟩ := by
  obtain ⟨c, digits', rfl⟩ := List.exists_cons_of_ne_nil hne
  have hc : isDigit c = true := h c List.mem_cons_self
  have hspace : (c :: digits' ++ rest).dropWhile isSpace = c :: (digits' ++ rest) :=
    List.dropWhile_cons_of_neg (by rw [not_isSpace_of_isDigit hc]; decide)
  have hnone : rest.takeWhile isDigit = [] ∧ rest.dropWhile isDigit = rest := by
    cases rest with
    | nil => exact ⟨rfl, rfl⟩
    | cons d rest =>
      have hd : isDigit d = false := hrest d rfl
      simp [hd]
  have htake : (c :: digits' ++ rest).takeWhile isDigit = c :: digits' := by
    rw [List.takeWhile_append_of_pos h, hnone.1, List.append_nil]
  have hdrop : (c :: digits' ++ rest).dropWhile isDigit = rest := by
    rw [List.dropWhile_append_of_pos h, hnone.2]
  rw [scan, hspace, scanSign_of_isDigit hc]
  exact congrArg₂ (Scanned.mk false) htake hdrop

/-- **Digits** are found with those that follow. -/
theorem scan_digits_append {digits : Bytes} (hne : digits ≠ []) (h : ∀ c ∈ digits, isDigit c = true)
    (text : Bytes) :
    scan (digits ++ text) = ⟨false, digits ++ text.takeWhile isDigit, text.dropWhile isDigit⟩ := by
  have hall : ∀ c ∈ digits ++ text.takeWhile isDigit, isDigit c = true := by
    intro c hc
    obtain hc | hc := List.mem_append.mp hc
    · exact h c hc
    · exact List.all_eq_true.mp List.all_takeWhile c hc
  have hrest : ∀ c ∈ (text.dropWhile isDigit).head?, isDigit c = false := by
    intro c hc
    simpa [Option.mem_def.mp hc] using List.head?_dropWhile_not isDigit text
  have hfound := scan_digits (List.append_ne_nil_of_left_ne_nil hne _) hall hrest
  rwa [List.append_assoc, List.takeWhile_append_dropWhile] at hfound

/-- A text that is the decimal numeral of a number, and nothing else. -/
inductive Numeral : Bytes → ℤ → Prop
  /-- Without a sign. -/
  | plain {digits : Bytes} (hne : digits ≠ []) (h : ∀ c ∈ digits, isDigit c = true) :
    Numeral digits (digitsValue digits)
  /-- With a plus sign. -/
  | plus {digits : Bytes} (hne : digits ≠ []) (h : ∀ c ∈ digits, isDigit c = true) :
    Numeral (43 :: digits) (digitsValue digits)
  /-- With a minus sign. -/
  | minus {digits : Bytes} (hne : digits ≠ []) (h : ∀ c ∈ digits, isDigit c = true) :
    Numeral (45 :: digits) (-digitsValue digits)

/-- **A numeral** is found whole. -/
theorem Numeral.scan {text : Bytes} {n : ℤ} (h : Numeral text n) :
    (scan text).digits ≠ [] ∧ (scan text).rest = [] ∧ (scan text).value = n := by
  cases h with
  | plain hne h =>
    have hfound := scan_digits_append hne h []
    rw [List.append_nil] at hfound
    rw [hfound]
    refine ⟨by simpa using hne, rfl, ?_⟩
    simp [Scanned.value]
  | @plus digits hne h =>
    have hfound : Foundation.scan (43 :: digits) = ⟨false, digits.takeWhile isDigit, digits.dropWhile isDigit⟩ :=
      rfl
    rw [hfound, List.takeWhile_eq_self_iff.mpr h, List.dropWhile_eq_nil_iff.mpr h]
    exact ⟨hne, rfl, rfl⟩
  | @minus digits hne h =>
    have hfound : Foundation.scan (45 :: digits) = ⟨true, digits.takeWhile isDigit, digits.dropWhile isDigit⟩ :=
      rfl
    rw [hfound, List.takeWhile_eq_self_iff.mpr h, List.dropWhile_eq_nil_iff.mpr h]
    exact ⟨hne, rfl, rfl⟩

/-- **Behind its first character** a numeral has only digits. -/
theorem Numeral.isDigit_of_mem_drop {text : Bytes} {n : ℤ} (h : Numeral text n) {k : ℕ} (hk : 0 < k) :
    ∀ c ∈ text.drop k, isDigit c = true := by
  obtain ⟨k, rfl⟩ := Nat.exists_eq_add_one_of_ne_zero (Nat.pos_iff_ne_zero.mp hk)
  intro c hc
  cases h with
  | plain _ h => exact h c (List.mem_of_mem_drop hc)
  | plus _ h => exact h c (List.mem_of_mem_drop hc)
  | minus _ h => exact h c (List.mem_of_mem_drop hc)

/-- A number below a hundred in two digits, as the conversion specifiers of a time write it. -/
def twoDigits (n : ℕ) : Bytes := [(48 + n / 10).toUInt8, (48 + n % 10).toUInt8]

/-- **A number in two digits** is read back. -/
theorem stoi_twoDigits {n : ℕ} (h : n < 100) : stoi (twoDigits n) = .ok (n : ℤ) := by
  have hdigit (d : ℕ) (hd : d < 10) : ((48 + d).toUInt8).toNat = 48 + d := by
    rw [Nat.toUInt8_eq, UInt8.toNat_ofNat']
    omega
  have hhigh := hdigit (n / 10) (by omega)
  have hlow := hdigit (n % 10) (by omega)
  have hdigits : ∀ c ∈ twoDigits n, isDigit c = true := by
    simp only [twoDigits, List.forall_mem_cons, isDigit, Bool.and_eq_true, decide_eq_true_eq, hhigh, hlow]
    exact ⟨by omega, by omega, fun c hc => by cases hc⟩
  have hscan : scan (twoDigits n) = ⟨false, twoDigits n, []⟩ := by
    have hne : twoDigits n ≠ [] := by simp [twoDigits]
    have hfound := scan_digits hne hdigits (fun c (hc : c ∈ ([] : Bytes).head?) => by cases hc)
    rwa [List.append_nil] at hfound
  have hvalue : (scan (twoDigits n)).value = n := by
    rw [hscan, Scanned.value, digitsValue]
    simp only [Bool.false_eq_true, ↓reduceIte, twoDigits, List.foldl_cons, List.foldl_nil, hhigh, hlow]
    omega
  have hlen : (twoDigits n).length ≤ 9 := Nat.le_add_left 2 7
  rw [stoi_eq hlen, hvalue, hscan]
  rfl

/-- A number as `%u` writes it. -/
def decimal (n : ℕ) : Bytes := ascii (toString n)

/-- A number as `%d` writes it. -/
def signedDecimal (n : ℤ) : Bytes := if n < 0 then 45 :: decimal n.natAbs else decimal n.natAbs

theorem toNat_of_char {c : Char} (h : c.isDigit = true) :
    (c.toNat.toUInt8).toNat = c.toNat ∧ 48 ≤ c.toNat ∧ c.toNat ≤ 57 := by
  simp only [Char.isDigit, Bool.and_eq_true, decide_eq_true_eq, UInt32.le_iff_toNat_le] at h
  have hrange : 48 ≤ c.toNat ∧ c.toNat ≤ 57 := h
  refine ⟨?_, hrange⟩
  rw [Nat.toUInt8_eq, UInt8.toNat_ofNat']
  omega

/-- **A number is written in digits** that have its value. -/
theorem digits_decimal (n : ℕ) :
    decimal n ≠ [] ∧ (∀ c ∈ decimal n, isDigit c = true) ∧ digitsValue (decimal n) = n := by
  have htext : decimal n = (Nat.toDigits 10 n).map fun c => c.toNat.toUInt8 := by
    rw [decimal, ascii]
    exact congrArg _ Nat.toList_repr
  have hdigits : ∀ c ∈ Nat.toDigits 10 n, c.isDigit = true := fun c hc =>
    Nat.isDigit_of_mem_toDigits (by decide) (by decide) hc
  rw [htext]
  refine ⟨by simp, ?_, ?_⟩
  · intro c hc
    obtain ⟨d, hd, rfl⟩ := List.mem_map.mp hc
    obtain ⟨heq, hlow, hhigh⟩ := toNat_of_char (hdigits d hd)
    simp only [isDigit, heq, Bool.and_eq_true, decide_eq_true_eq]
    exact ⟨hlow, hhigh⟩
  · rw [digitsValue, List.foldl_map]
    refine Eq.trans ?_ (Nat.ofDigitChars_ten_toDigits (n := n))
    rw [Nat.ofDigitChars_eq_foldl]
    refine List.foldl_ext _ _ 0 fun value c hc => ?_
    rw [(toNat_of_char (hdigits c hc)).1]
    rfl

theorem numeral_decimal (n : ℕ) : Numeral (decimal n) n := by
  obtain ⟨hne, hdigits, hvalue⟩ := digits_decimal n
  have hnumeral := Numeral.plain hne hdigits
  rwa [hvalue] at hnumeral

theorem numeral_signedDecimal (n : ℤ) : Numeral (signedDecimal n) n := by
  rw [signedDecimal]
  split
  · obtain ⟨hne, hdigits, hvalue⟩ := digits_decimal n.natAbs
    have hnumeral := Numeral.minus hne hdigits
    rwa [hvalue, show -(n.natAbs : ℤ) = n by omega] at hnumeral
  · have hnumeral := numeral_decimal n.natAbs
    rwa [show (n.natAbs : ℤ) = n by omega] at hnumeral

/-- A numeral has only digits and a sign. -/
theorem Numeral.mem {text : Bytes} {n : ℤ} (h : Numeral text n) {c : UInt8} (hc : c ∈ text) :
    isDigit c = true ∨ c = 43 ∨ c = 45 := by
  cases h with
  | plain _ h => exact .inl (h c hc)
  | plus _ h =>
    rcases List.mem_cons.mp hc with rfl | hc
    · exact .inr (.inl rfl)
    · exact .inl (h c hc)
  | minus _ h =>
    rcases List.mem_cons.mp hc with rfl | hc
    · exact .inr (.inr rfl)
    · exact .inl (h c hc)

end SmppGateway.Foundation
