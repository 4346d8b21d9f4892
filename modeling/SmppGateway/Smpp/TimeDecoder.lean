import SmppGateway.Foundation.Numeral
import Mathlib.Algebra.Order.Ring.Int

/-!
# Times

`abs_time_2_smpp` and `smpp_time_2_abs` (`src/libs/smpp/utility/time_decoder.hpp`): a `time_t` as the sixteen
characters of an SMPP time, and back.

## The model

The time zone and the clock of the C library are the parameter `Clock`. `FixedZone` is what is assumed of them
at one instant: the zone has a fixed offset in whole quarters of an hour and no daylight saving time, `mktime`
undoes `localtime_r`, and `__timezone` is minus the offset. Sums of an `int` that overflows, and `abs` of the
smallest one, have no value.

## What is proved

* `smppTime2Abs_absTime2Smpp` — the time read back is late by the size of the offset.
* `roundTrip_iff` — it is the time that was written exactly if the offset, as an `int`, is below a quarter of
  an hour.
* `offset_eq_zero_iff` — which for the offset of a zone is to say that it is zero.
-/

namespace SmppGateway.Smpp

open Foundation

/-- The fields of a `std::tm` that are read or written. -/
structure Tm where
  tm_sec : ℤ
  tm_min : ℤ
  tm_hour : ℤ
  tm_mday : ℤ
  tm_mon : ℤ
  tm_year : ℤ
  tm_isdst : ℤ
  deriving DecidableEq

/-- What the C library knows of the time. -/
structure Clock where
  /-- `localtime_r`. -/
  localtime_r : ℤ → Tm
  /-- `std::mktime`, with what it makes of its argument. -/
  mktime : Tm → ℤ × Tm
  /-- `__timezone`. -/
  timezone : ℤ
  /-- `std::chrono::system_clock::now()`, in nanoseconds. -/
  now : ℤ

/-- `'+'`. -/
def plus : UInt8 := 43

/-- `'-'`. -/
def minus : UInt8 := 45

/-- `'R'`. -/
def relative : UInt8 := 82

/-- `substr`, at a position inside the string. -/
def substr (s : Bytes) (pos n : ℕ) : Bytes := (s.drop pos).take n

/-- The numbers that a time begins with. -/
structure TimeFields where
  year : ℤ
  month : ℤ
  day : ℤ
  hour : ℤ
  minute : ℤ
  second : ℤ

/-- The first lines of `smpp_time_2_abs`. -/
def readFields (smppTime : Bytes) : Except Fault TimeFields :=
  (stoi (substr smppTime 0 2)).bind fun year =>
  (stoi (substr smppTime 2 2)).bind fun month =>
  (stoi (substr smppTime 4 2)).bind fun day =>
  (stoi (substr smppTime 6 2)).bind fun hour =>
  (stoi (substr smppTime 8 2)).bind fun minute =>
  (stoi (substr smppTime 10 2)).bind fun second =>
  .ok ⟨year, month, day, hour, minute, second⟩

/-- The nanoseconds of a relative time: `std::chrono` gives a year and a month their mean lengths. -/
def TimeFields.nanoseconds (f : TimeFields) : ℤ :=
  (31556952 * f.year + 2629746 * f.month + 86400 * f.day + 3600 * f.hour + 60 * f.minute + f.second) * 10 ^ 9

namespace Clock

/-- `abs_time_2_smpp`. The specifier `%y` is the year without the century. -/
def absTime2Smpp (X : Clock) (absTime : ℤ) : Bytes :=
  let tm := X.localtime_r absTime
  twoDigits ((1900 + tm.tm_year) % 100).toNat ++ twoDigits (tm.tm_mon + 1).toNat ++
    twoDigits tm.tm_mday.toNat ++ twoDigits tm.tm_hour.toNat ++ twoDigits tm.tm_min.toNat ++
    twoDigits tm.tm_sec.toNat ++ ascii "000+"

/-- The end of `smpp_time_2_abs`: an absolute time with its zone. -/
def fromZone (X : Clock) (f : TimeFields) (timeZone : ℤ) : Except Fault ℤ :=
  let (totalSeconds, tm) :=
    X.mktime ⟨f.second, f.minute, f.hour, f.day, f.month - 1, f.year + 100, -1⟩
  let isdst : ℤ := if tm.tm_isdst ≠ 0 then 1 else 0
  let west : ℤ := (X.timezone.bmod (2 ^ 32)).natAbs + isdst * 3600
  -- `abs(static_cast<int>(__timezone))` and the sum are of type `int`.
  if west < 2 ^ 31 then .ok (totalSeconds + (west / (15 * 60) - timeZone) * 15 * 60)
  else .error .outOfBounds

/-- `smpp_time_2_abs`. -/
def smppTime2Abs (X : Clock) (smppTime : Bytes) : Except Fault ℤ :=
  if smppTime.length ≠ 16 then .error (.exception (ascii "time field with invalid length != 16"))
  else
    (readFields smppTime).bind fun f =>
      let kind := smppTime.getD 15 0
      if kind = relative then .ok ((X.now + f.nanoseconds).tdiv (10 ^ 9))
      else if f.month = 0 ∨ 12 < f.month ∨ f.day = 0 ∨ 31 < f.day ∨ 23 < f.hour ∨ 59 < f.minute ∨
          59 < f.second then .error (.exception (ascii "invalid time"))
      else if kind = plus ∨ kind = minus then
        (stoi (substr smppTime 13 2)).bind fun timeZone =>
          let timeZone := if kind = minus then timeZone * -1 else timeZone
          if timeZone < -48 ∨ 48 < timeZone then .error (.exception (ascii "invalid timezone"))
          else X.fromZone f timeZone
      else .error (.exception (ascii "invalid vpf of time"))

end Clock

/-- A zone at an instant: its offset is in quarters of an hour, there is no daylight saving time, and
`localtime_r` and `mktime` are inverse. -/
structure FixedZone (X : Clock) (offset t : ℤ) : Prop where
  quarters : 15 * 60 ∣ offset
  timezone : X.timezone = -offset
  sec : 0 ≤ (X.localtime_r t).tm_sec ∧ (X.localtime_r t).tm_sec ≤ 59
  min : 0 ≤ (X.localtime_r t).tm_min ∧ (X.localtime_r t).tm_min ≤ 59
  hour : 0 ≤ (X.localtime_r t).tm_hour ∧ (X.localtime_r t).tm_hour ≤ 23
  mday : 1 ≤ (X.localtime_r t).tm_mday ∧ (X.localtime_r t).tm_mday ≤ 31
  mon : 0 ≤ (X.localtime_r t).tm_mon ∧ (X.localtime_r t).tm_mon ≤ 11
  standard : (X.localtime_r t).tm_isdst = 0
  inverse : X.mktime { X.localtime_r t with tm_isdst := -1 } = (t, X.localtime_r t)

/-- The local year is in 2000..2099. -/
def InCentury (X : Clock) (t : ℤ) : Prop :=
  2000 ≤ 1900 + (X.localtime_r t).tm_year ∧ 1900 + (X.localtime_r t).tm_year ≤ 2099

instance (X : Clock) (t : ℤ) : Decidable (InCentury X t) := inferInstanceAs (Decidable (_ ∧ _))

variable {X : Clock} {offset t : ℤ}

/-! ### What is written and read -/

/-- Six numbers in two digits each, and the four characters behind them, are read back. -/
theorem readFields_twoDigits {year month day hour minute second : ℕ} (hyear : year < 100) (hmonth : month < 100)
    (hday : day < 100) (hhour : hour < 100) (hminute : minute < 100) (hsecond : second < 100) (rest : Bytes) :
    readFields (twoDigits year ++ twoDigits month ++ twoDigits day ++ twoDigits hour ++ twoDigits minute ++
      twoDigits second ++ rest) = .ok ⟨year, month, day, hour, minute, second⟩ := by
  -- The six pieces of the text are the six numbers.
  have hpieces : readFields (twoDigits year ++ twoDigits month ++ twoDigits day ++ twoDigits hour ++
      twoDigits minute ++ twoDigits second ++ rest) =
      (stoi (twoDigits year)).bind fun year =>
      (stoi (twoDigits month)).bind fun month =>
      (stoi (twoDigits day)).bind fun day =>
      (stoi (twoDigits hour)).bind fun hour =>
      (stoi (twoDigits minute)).bind fun minute =>
      (stoi (twoDigits second)).bind fun second =>
      .ok ⟨year, month, day, hour, minute, second⟩ := rfl
  rw [hpieces, stoi_twoDigits hyear, stoi_twoDigits hmonth, stoi_twoDigits hday, stoi_twoDigits hhour,
    stoi_twoDigits hminute, stoi_twoDigits hsecond]
  rfl

/-- The characters that are written: six fields, no tenths, and the zone 0 with a plus sign. -/
theorem absTime2Smpp_shape (X : Clock) (t : ℤ) : (X.absTime2Smpp t).length = 16 ∧
    (X.absTime2Smpp t).getD 15 0 = plus ∧ substr (X.absTime2Smpp t) 13 2 = twoDigits 0 :=
  ⟨rfl, rfl, rfl⟩

theorem readFields_absTime2Smpp (h : FixedZone X offset t) (hyear : InCentury X t) :
    readFields (X.absTime2Smpp t) = .ok ⟨(X.localtime_r t).tm_year - 100, (X.localtime_r t).tm_mon + 1,
      (X.localtime_r t).tm_mday, (X.localtime_r t).tm_hour, (X.localtime_r t).tm_min,
      (X.localtime_r t).tm_sec⟩ := by
  obtain ⟨hlow, hhigh⟩ := hyear
  have hsec := h.sec
  have hmin := h.min
  have hhour := h.hour
  have hmday := h.mday
  have hmon := h.mon
  rw [Clock.absTime2Smpp, readFields_twoDigits (by omega) (by omega) (by omega) (by omega) (by omega) (by omega)]
  simp only [Except.ok.injEq, TimeFields.mk.injEq]
  omega

theorem fromZone_eq (h : FixedZone X offset t) :
    X.fromZone ⟨(X.localtime_r t).tm_year - 100, (X.localtime_r t).tm_mon + 1, (X.localtime_r t).tm_mday,
      (X.localtime_r t).tm_hour, (X.localtime_r t).tm_min, (X.localtime_r t).tm_sec⟩ 0 =
      if (X.timezone.bmod (2 ^ 32)).natAbs < 2 ^ 31 then
        .ok (t + (X.timezone.bmod (2 ^ 32)).natAbs / (15 * 60) * 15 * 60)
      else .error .outOfBounds := by
  have htm : (⟨(X.localtime_r t).tm_sec, (X.localtime_r t).tm_min, (X.localtime_r t).tm_hour,
      (X.localtime_r t).tm_mday, (X.localtime_r t).tm_mon + 1 - 1, (X.localtime_r t).tm_year - 100 + 100,
      -1⟩ : Tm) = { X.localtime_r t with tm_isdst := -1 } := by
    simp only [Tm.mk.injEq, true_and, and_true]
    omega
  have hzero : ¬ (X.localtime_r t).tm_isdst ≠ 0 := by
    rw [h.standard]
    decide
  rw [Clock.fromZone]
  simp only [htm, h.inverse, if_neg hzero, Int.zero_mul, Int.add_zero, Int.sub_zero]
  split_ifs <;> first | rfl | omega

/-- A time that is written and read back is late by the size of the offset. -/
theorem smppTime2Abs_absTime2Smpp (h : FixedZone X offset t) (hyear : InCentury X t) :
    X.smppTime2Abs (X.absTime2Smpp t) =
      if (X.timezone.bmod (2 ^ 32)).natAbs < 2 ^ 31 then
        .ok (t + (X.timezone.bmod (2 ^ 32)).natAbs / (15 * 60) * 15 * 60)
      else .error .outOfBounds := by
  obtain ⟨hlen, hkind, hzone⟩ := absTime2Smpp_shape X t
  have hsec := h.sec
  have hmin := h.min
  have hhour := h.hour
  have hmday := h.mday
  have hmon := h.mon
  have hstoi : stoi (twoDigits 0) = .ok (0 : ℤ) := stoi_twoDigits (by decide)
  rw [Clock.smppTime2Abs, if_neg (by simp [hlen]), readFields_absTime2Smpp h hyear, hkind, hzone, hstoi,
    ← fromZone_eq h]
  have hplus : plus ≠ relative := by decide
  have hminus : plus ≠ minus := by decide
  simp only [Except.bind, if_neg hplus, if_neg hminus, true_or, if_true]
  rw [if_neg (by omega), if_neg (by decide)]

/-- **The round trip** gives back the time exactly if the offset, as an `int`, is below a quarter of an hour. -/
theorem roundTrip_iff (h : FixedZone X offset t) (hyear : InCentury X t) :
    X.smppTime2Abs (X.absTime2Smpp t) = .ok t ↔ (offset.bmod (2 ^ 32)).natAbs < 15 * 60 := by
  have hsize : (X.timezone.bmod (2 ^ 32)).natAbs = (offset.bmod (2 ^ 32)).natAbs := by
    rw [h.timezone]
    simp only [Int.bmod]
    omega
  rw [smppTime2Abs_absTime2Smpp h hyear, hsize]
  split
  · simp only [Except.ok.injEq]
    omega
  · refine iff_of_false (fun heq => ?_) (by omega)
    cases heq

/-- The offsets of real zones fit an `int`, and the only one below a quarter of an hour is that of UTC. -/
theorem offset_eq_zero_iff (hquarters : 15 * 60 ∣ offset) (hint : IsInt offset) :
    (offset.bmod (2 ^ 32)).natAbs < 15 * 60 ↔ offset = 0 := by
  have hsame : offset.bmod (2 ^ 32) = offset := Int.bmod_eq_of_le hint.1 hint.2
  rw [hsame]
  omega

/-! ### Two zones -/

/-- The first instant of 2024 in a zone, as far as the two functions ask. -/
def newYear (offset : ℤ) (tm : Tm) : Clock where
  localtime_r _ := tm
  mktime _ := (1704067200, tm)
  timezone := -offset
  now := 0

theorem roundTrip_iff_utc :
    FixedZone (newYear 0 ⟨0, 0, 0, 1, 0, 124, 0⟩) 0 1704067200 ∧
      (newYear 0 ⟨0, 0, 0, 1, 0, 124, 0⟩).smppTime2Abs
        ((newYear 0 ⟨0, 0, 0, 1, 0, 124, 0⟩).absTime2Smpp 1704067200) = .ok 1704067200 := by
  have hzone : FixedZone (newYear 0 ⟨0, 0, 0, 1, 0, 124, 0⟩) 0 1704067200 := by
    constructor <;> decide
  exact ⟨hzone, (roundTrip_iff hzone (by decide)).mpr (by decide)⟩

theorem not_roundTrip : ¬ ∀ (X : Clock) (offset t : ℤ), FixedZone X offset t → InCentury X t →
    X.smppTime2Abs (X.absTime2Smpp t) = .ok t := by
  intro h
  have hzone : FixedZone (newYear 12600 ⟨0, 30, 3, 1, 0, 124, 0⟩) 12600 1704067200 := by
    constructor <;> decide
  have hyear : InCentury (newYear 12600 ⟨0, 30, 3, 1, 0, 124, 0⟩) 1704067200 := by decide
  have hback := h _ _ _ hzone hyear
  rw [smppTime2Abs_absTime2Smpp hzone hyear] at hback
  exact absurd hback (by decide)

end SmppGateway.Smpp
