import SmppGateway.Foundation.Numeral

/-!
# String streams

A `std::stringstream`: one buffer with a position to read from and a position to write to, and the state that
the last extraction has left.

## The model

A stream constructed from a text writes over it from the beginning, since it is not opened at its end. An
extraction of an `int` takes what `scan` finds: where that is all there is, it sets `eofbit`; where there are no
digits or the number does not fit, it sets `failbit` and gives zero or the nearest `int`. A stream that is not
good gives nothing and takes nothing. The `badbit` is never set.

## What is proved

* `extractInt_snd` — a stream that is not good leaves the value alone.
* `good_extractInt` — a good stream stays good exactly where more text follows a number.
* `readInt_eq` — what is read where a number begins the text is the `int` nearest to it.
* `text_insert_extractInt` — what there is to read after such an extraction and an insertion at the beginning.
-/

namespace SmppGateway.Foundation

/-- `std::stringstream`. -/
structure StringStream where
  /-- The text. -/
  buffer : Bytes
  /-- Where the next extraction begins. -/
  getPos : ℕ
  /-- Where the next insertion begins. -/
  putPos : ℕ
  /-- `eofbit`. -/
  eof : Bool
  /-- `failbit`. -/
  fail : Bool
  deriving DecidableEq

/-- What an extraction leaves in an `int` when it has this text before it: the sentry fails where there is
nothing but white space. -/
def readInt (old : ℤ) (text : Bytes) : ℤ :=
  let n := scan text
  if text.dropWhile isSpace = [] then old
  else if n.digits = [] then 0
  else if IsInt n.value then n.value
  else if n.negative then -2 ^ 31 else 2 ^ 31 - 1

/-- The `int` that is nearest to a number. -/
def nearestInt (n : ℤ) : ℤ := max (-2 ^ 31) (min (2 ^ 31 - 1) n)

theorem isInt_nearestInt (n : ℤ) : IsInt (nearestInt n) := by
  rw [IsInt, nearestInt]
  omega

theorem nearestInt_eq {n : ℤ} (h : IsInt n) : nearestInt n = n := by
  rw [IsInt] at h
  rw [nearestInt]
  omega

/-- **A number** is read as the nearest `int`. -/
theorem readInt_eq (old : ℤ) (text : Bytes) : readInt old text =
    if text.dropWhile isSpace = [] then old
    else if (scan text).digits = [] then 0
    else nearestInt (scan text).value := by
  rw [readInt]
  refine ite_congr rfl (fun _ => rfl) fun _ => ite_congr rfl (fun _ => rfl) fun _ => ?_
  split_ifs with hint hneg
  · exact (nearestInt_eq hint).symm
  · rw [Scanned.value, if_pos hneg] at hint ⊢
    rw [IsInt] at hint
    rw [nearestInt]
    omega
  · rw [Scanned.value, if_neg hneg] at hint ⊢
    rw [IsInt] at hint
    rw [nearestInt]
    omega

theorem readInt_of_digits {text : Bytes} (h : (scan text).digits ≠ []) (old : ℤ) :
    readInt old text = nearestInt (scan text).value := by
  have hspace : text.dropWhile isSpace ≠ [] := by
    intro hnil
    refine h ?_
    rw [scan, hnil]
    rfl
  rw [readInt_eq, if_neg hspace, if_neg h]

theorem readInt_of_no_digits {text : Bytes} (h : (scan text).digits = []) : readInt 0 text = 0 := by
  rw [readInt, if_pos h]
  exact ite_self 0

theorem isInt_readInt {old : ℤ} (h : IsInt old) (text : Bytes) : IsInt (readInt old text) := by
  rw [readInt_eq]
  split_ifs
  · exact h
  · decide
  · exact isInt_nearestInt _

/-- A text that begins with an `int` and goes on behind it. -/
def GoesOn (text : Bytes) : Prop :=
  (scan text).digits ≠ [] ∧ (scan text).rest ≠ [] ∧ IsInt (scan text).value

instance (text : Bytes) : Decidable (GoesOn text) := inferInstanceAs (Decidable (_ ∧ _))

namespace StringStream

/-- The constructor from a text. -/
def ofText (text : Bytes) : StringStream := ⟨text, 0, 0, false, false⟩

/-- `good`. -/
def good (s : StringStream) : Bool := !s.eof && !s.fail

/-- What is left to read. -/
def text (s : StringStream) : Bytes := s.buffer.drop s.getPos

/-- `operator>>` into an `int`. -/
def extractInt (s : StringStream) (old : ℤ) : StringStream × ℤ :=
  if s.good then
    let n := scan s.text
    ({ s with
        getPos := s.buffer.length - n.rest.length
        eof := n.rest = []
        fail := n.digits = [] ∨ ¬ IsInt n.value }, readInt old s.text)
  else ({ s with fail := true }, old)

/-- `operator<<` of a string. -/
def insert (s : StringStream) (str : Bytes) : StringStream :=
  if s.good then
    { s with
      buffer := s.buffer.take s.putPos ++ str ++ s.buffer.drop (s.putPos + str.length)
      putPos := s.putPos + str.length }
  else s

/-- `flush`: there is nothing behind the buffer. -/
def flush (s : StringStream) : StringStream := s

variable {s : StringStream}

@[simp]
theorem good_ofText (text : Bytes) : (ofText text).good = true := rfl

@[simp]
theorem text_ofText (text : Bytes) : (ofText text).text = text := rfl

theorem extractInt_snd (old : ℤ) : (s.extractInt old).2 = if s.good then readInt old s.text else old := by
  rw [extractInt]
  split <;> rfl

/-- **An `int`** stays in the range of an `int`. -/
theorem isInt_extractInt {old : ℤ} (h : IsInt old) : IsInt (s.extractInt old).2 := by
  rw [extractInt_snd]
  split
  · exact isInt_readInt h _
  · exact h

@[simp]
theorem good_insert (str : Bytes) : (s.insert str).good = s.good := by
  rw [insert]
  split <;> rfl

/-- **A good stream stays good** where the text goes on behind a number. -/
theorem good_extractInt (h : s.good = true) (old : ℤ) :
    (s.extractInt old).1.good = decide (GoesOn s.text) := by
  rw [extractInt, if_pos h, Bool.eq_iff_iff, decide_eq_true_eq, GoesOn, good]
  simp only [Bool.and_eq_true, Bool.not_eq_true', decide_eq_false_iff_not, not_or, not_not]
  exact and_left_comm

/-- **What is read next** when a text is inserted at the beginning of a stream that is still good. -/
theorem text_insert_extractInt {text : Bytes} (h : GoesOn text) (old : ℤ) (str : Bytes) :
    (((ofText text).extractInt old).1.insert str).text =
      (str ++ text.drop str.length).drop (text.length - (scan text).rest.length) := by
  have hgood : ((ofText text).extractInt old).1.good = true := by
    rw [good_extractInt rfl]
    exact decide_eq_true h
  rw [insert, if_pos hgood, extractInt, if_pos (good_ofText text)]
  simp [StringStream.text, ofText]

end StringStream

end SmppGateway.Foundation
