import Mathlib.Algebra.Group.Nat.Even
import Mathlib.Data.List.DropRight
import SmppGateway.Foundation.Text

/-!
# The format of file names

`details::parse_format` (`src/libs/segmented_logger.hpp`) turns the `file_name_format` of a configuration into a
format string of `fmt`: `%Y`, `%M` and so on become replacement fields, for the time of creation or, behind
`%e`, of closing.

## The model

An iterator is the text from it to the end. `++c` and `*c` at the end leave the text.

## What is proved

* `format_eq_or` — a format is a list of pieces, with a lone percent sign behind it or not; `text_injective` —
  and only one.
* `parseFormatFrom_text` — of a list of pieces, each is rendered in its place.
* `literals_sublist_render` — the characters outside of the directives come in their order.
* `parseFormat_iff` — the parser stays inside the format exactly if the percent signs at its end are even in
  number.
-/

namespace SmppGateway.Logging

open Foundation

/-! ### The parser -/

def openYear4DigitIndex : Bytes := ascii "0"
def openYear2DigitIndex : Bytes := ascii "1"
def openMonthIndex : Bytes := ascii "2"
def openDayIndex : Bytes := ascii "3"
def openHourIndex : Bytes := ascii "4"
def openMinuteIndex : Bytes := ascii "5"
def openSecondIndex : Bytes := ascii "6"
def openMilliSecondIndex : Bytes := ascii "7"
def closeYear4DigitIndex : Bytes := ascii "8"
def closeYear2DigitIndex : Bytes := ascii "9"
def closeMonthIndex : Bytes := ascii "10"
def closeDayIndex : Bytes := ascii "11"
def closeHourIndex : Bytes := ascii "12"
def closeMinuteIndex : Bytes := ascii "13"
def closeSecondIndex : Bytes := ascii "14"
def closeMilliSecondIndex : Bytes := ascii "15"
def sequenceIndex : Bytes := ascii "16"

/-- A replacement field for the argument with this index. -/
def field (index : Bytes) (width : String) : Bytes := ascii "\x7b" ++ index ++ ascii width ++ ascii "\x7d"

/-- The `switch`: which time is meant from now on, and what is appended. -/
def directive (c : UInt8) (begin_time : Bool) : Bool × Bytes :=
  match Char.ofNat c.toNat with
  | 'Y' => (begin_time, field (if begin_time then openYear4DigitIndex else closeYear4DigitIndex) ":04")
  | 'y' => (begin_time, field (if begin_time then openYear2DigitIndex else closeYear2DigitIndex) ":02")
  | 'M' => (begin_time, field (if begin_time then openMonthIndex else closeMonthIndex) ":02")
  | 'd' => (begin_time, field (if begin_time then openDayIndex else closeDayIndex) ":02")
  | 'h' => (begin_time, field (if begin_time then openHourIndex else closeHourIndex) ":02")
  | 'm' => (begin_time, field (if begin_time then openMinuteIndex else closeMinuteIndex) ":02")
  | 's' => (begin_time, field (if begin_time then openSecondIndex else closeSecondIndex) ":02")
  | 'S' => (begin_time, field (if begin_time then openMilliSecondIndex else closeMilliSecondIndex) ":04")
  | 'n' => (begin_time, field sequenceIndex ":04")
  | 'b' => (true, [])
  | 'e' => (false, [])
  | _ => (begin_time, [])

/-- The loop of `parse_format`. -/
def parseFormatFrom (begin_time : Bool) (format : Bytes) : Bytes → Except Fault Bytes
  | [] => .ok format
  | c :: rest =>
    if c = 37 then
      match rest with
      | [] => .error .outOfBounds
      | d :: rest => parseFormatFrom (directive d begin_time).1 (format ++ (directive d begin_time).2) rest
    else parseFormatFrom begin_time (format ++ [c]) rest

/-- `details::parse_format`. -/
def parseFormat (input : Bytes) : Except Fault Bytes := parseFormatFrom true [] input

/-! ### What a format says -/

/-- A piece of a format. -/
inductive Piece where
  /-- A character for itself. -/
  | literal (c : UInt8) (h : c ≠ 37)
  /-- A percent sign and the character behind it. -/
  | directive (c : UInt8)
  deriving DecidableEq

/-- What is written for it. -/
def Piece.text : Piece → Bytes
  | literal c _ => [c]
  | directive c => [37, c]

/-- The text of a list of pieces. -/
def text (pieces : List Piece) : Bytes := pieces.flatMap Piece.text

/-- What they stand for: a character for itself, a directive for what is appended for it. -/
def render : Bool → List Piece → Bytes
  | _, [] => []
  | begin_time, .literal c _ :: pieces => c :: render begin_time pieces
  | begin_time, .directive c :: pieces =>
    (directive c begin_time).2 ++ render (directive c begin_time).1 pieces

/-- The characters that are not part of a directive. -/
def literals (pieces : List Piece) : Bytes :=
  pieces.flatMap fun
    | .literal c _ => [c]
    | .directive _ => []

/-- **The number of percent signs** at the end of a format is even. -/
def Closed (input : Bytes) : Prop := Even (input.rtakeWhile (· == 37)).length

instance (input : Bytes) : Decidable (Closed input) := inferInstanceAs (Decidable (Even _))

theorem text_concat (pieces : List Piece) (piece : Piece) : text (pieces ++ [piece]) = text pieces ++ piece.text := by
  rw [text, List.flatMap_append, List.flatMap_singleton]
  rfl

/-- **A format** is a list of pieces, and perhaps a percent sign behind them. -/
theorem format_eq_or (input : Bytes) : ∃ pieces, input = text pieces ∨ input = text pieces ++ [37] := by
  induction input using List.twoStepInduction with
  | nil => exact ⟨[], Or.inl rfl⟩
  | singleton c =>
    by_cases hc : c = 37
    · exact ⟨[], Or.inr (by rw [hc]; rfl)⟩
    · exact ⟨[.literal c hc], Or.inl rfl⟩
  | cons_cons c d rest ih ih' =>
    by_cases hc : c = 37
    · obtain ⟨pieces, h | h⟩ := ih
      · exact ⟨.directive d :: pieces, Or.inl (by rw [hc, h]; rfl)⟩
      · exact ⟨.directive d :: pieces, Or.inr (by rw [hc, h]; rfl)⟩
    · obtain ⟨pieces, h | h⟩ := ih' d
      · exact ⟨.literal c hc :: pieces, Or.inl (by rw [h]; rfl)⟩
      · exact ⟨.literal c hc :: pieces, Or.inr (by rw [h]; rfl)⟩

/-- The pieces of a text are the only ones. -/
theorem text_injective : Function.Injective text := by
  intro pieces
  induction pieces with
  | nil =>
    rintro (_ | ⟨_ | _, _⟩) h
    · rfl
    · cases h
    · cases h
  | cons piece pieces ih =>
    rintro (_ | ⟨other, others⟩) h
    · cases piece <;> cases h
    cases piece with
    | literal c hc =>
      cases other with
      | literal d hd =>
        obtain ⟨rfl, hrest⟩ := List.cons.inj h
        rw [ih hrest]
      | directive d => exact absurd (List.cons.inj h).1 hc
    | directive c =>
      cases other with
      | literal d hd => exact absurd (List.cons.inj h).1.symm hd
      | directive d =>
        obtain ⟨rfl, hrest⟩ := List.cons.inj (List.cons.inj h).2
        rw [ih hrest]

theorem closed_text (pieces : List Piece) : Closed (text pieces) := by
  induction pieces using List.reverseRecOn with
  | nil => exact Even.zero
  | append_singleton pieces piece ih =>
    rw [text_concat, Closed]
    cases piece with
    | literal c hc =>
      rw [Piece.text, List.rtakeWhile_concat_neg _ _ _ (by simpa using hc)]
      exact Even.zero
    | directive c =>
      rw [Piece.text, List.append_cons]
      by_cases hc : c = 37
      · rw [List.rtakeWhile_concat_pos _ _ _ (by simpa using hc), List.rtakeWhile_concat_pos _ _ _ rfl,
          List.length_append, List.length_append]
        exact ih.add (show Even 2 by decide)
      · rw [List.rtakeWhile_concat_neg _ _ _ (by simpa using hc)]
        exact Even.zero

theorem not_closed_text (pieces : List Piece) : ¬ Closed (text pieces ++ [37]) := by
  rw [Closed, List.rtakeWhile_concat_pos _ _ _ rfl, List.length_append, List.length_singleton, Nat.even_add_one,
    not_not]
  exact closed_text pieces

/-- The pieces are rendered in their places, whatever follows them. -/
theorem parseFormatFrom_text (begin_time : Bool) (format : Bytes) (pieces : List Piece) :
    ∃ begin_time', ∀ rest, parseFormatFrom begin_time format (text pieces ++ rest) =
      parseFormatFrom begin_time' (format ++ render begin_time pieces) rest := by
  induction pieces generalizing begin_time format with
  | nil => exact ⟨begin_time, fun rest => by rw [render, List.append_nil]; rfl⟩
  | cons piece pieces ih =>
    cases piece with
    | literal c hc =>
      obtain ⟨begin_time', h⟩ := ih begin_time (format ++ [c])
      refine ⟨begin_time', fun rest => ?_⟩
      have hstep : parseFormatFrom begin_time format (c :: (text pieces ++ rest)) =
          parseFormatFrom begin_time (format ++ [c]) (text pieces ++ rest) := by
        rw [parseFormatFrom.eq_def]
        exact if_neg hc
      rw [render, List.append_cons, ← h rest]
      exact hstep
    | directive c =>
      obtain ⟨begin_time', h⟩ := ih (directive c begin_time).1 (format ++ (directive c begin_time).2)
      refine ⟨begin_time', fun rest => ?_⟩
      rw [render, ← List.append_assoc, ← h rest]
      rfl

theorem literals_sublist_render (begin_time : Bool) (pieces : List Piece) :
    (literals pieces).Sublist (render begin_time pieces) := by
  induction pieces generalizing begin_time with
  | nil => exact List.Sublist.refl _
  | cons piece pieces ih =>
    cases piece with
    | literal c hc => exact (ih begin_time).cons_cons c
    | directive c => exact (ih (directive c begin_time).1).trans (List.sublist_append_right _ _)

/-- **The parser** ends inside the format, with every literal in its place, exactly for a closed format. -/
theorem parseFormat_iff (input : Bytes) :
    (∃ pieces, input = text pieces ∧ parseFormat input = .ok (render true pieces) ∧
      (literals pieces).Sublist (render true pieces)) ↔ Closed input := by
  obtain ⟨pieces, rfl | rfl⟩ := format_eq_or input
  · obtain ⟨begin_time', h⟩ := parseFormatFrom_text true [] pieces
    refine iff_of_true ⟨pieces, rfl, ?_, literals_sublist_render true pieces⟩ (closed_text pieces)
    have hend := h []
    rwa [List.append_nil] at hend
  · obtain ⟨begin_time', h⟩ := parseFormatFrom_text true [] pieces
    refine iff_of_false ?_ (not_closed_text pieces)
    rintro ⟨others, -, hok, -⟩
    rw [parseFormat, h [37]] at hok
    cases hok

example : parseFormat (ascii "AO-%Y%e%Y-%n.csv") =
    .ok (ascii "AO-\x7b0:04\x7d\x7b8:04\x7d-\x7b16:04\x7d.csv") := by decide +kernel

/-- A lone percent sign is followed by the end. -/
theorem not_parseFormat : ¬ ∀ input, ∃ pieces, input = text pieces ∧
    parseFormat input = .ok (render true pieces) ∧ (literals pieces).Sublist (render true pieces) := by
  intro h
  obtain ⟨pieces, -, hok, -⟩ := h (ascii "%")
  cases hok

end SmppGateway.Logging
