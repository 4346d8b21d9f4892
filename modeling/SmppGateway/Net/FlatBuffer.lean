import SmppGateway.Foundation.Text
import Mathlib.Algebra.Group.Nat.Defs

/-!
# The receive buffer

## The model

`detail::flat_buffer` of `libs/smpp/net/detail` and of `libs/pinex/net/detail` (the two files are the
same text): an array of `N` cells and three cursors into it. The array is a function of the index, the
cursors are indices, and that they stay in order and inside the array is part of the type. `memmove`
and the write the operating system makes into a prepared region are updates of that function.

## What is proved

The buffer is a queue of bytes, its `contents`:

* `contents_prepare`, `prepare_error_iff` — preparing a region leaves the contents alone and throws
  exactly when the free cells are too few.
* `contents_commit` — committing appends the first bytes that were written.
* `contents_consume` — consuming drops from the front.
-/

namespace SmppGateway.Net

open Foundation

/-- The cells from `first` up to `last`. -/
def span {T : Type} (cells : ℕ → T) (first last : ℕ) : List T :=
  (List.range' first (last - first)).map cells

section Span

variable {T : Type} {cells cells' : ℕ → T} {a b c : ℕ}

@[simp]
theorem length_span : (span cells a b).length = b - a := by simp [span]

@[simp]
theorem span_self : span cells a a = [] := by simp [span]

theorem span_append (hab : a ≤ b) (hbc : b ≤ c) : span cells a b ++ span cells b c = span cells a c := by
  have hb : b = a + 1 * (b - a) := by omega
  have hlen : b - a + (c - b) = c - a := by omega
  rw [span, span, span, ← List.map_append, ← hlen, ← List.range'_append, ← hb]

theorem span_congr (h : ∀ i, a ≤ i → i < b → cells i = cells' i) : span cells a b = span cells' a b := by
  refine List.map_congr_left fun i hi => ?_
  obtain ⟨hai, hib⟩ := List.mem_range'_1.mp hi
  exact h i hai (by omega)

/-- The same cells, found `a` places further on. -/
theorem span_shift (h : ∀ i < b, cells' i = cells (a + i)) : span cells' 0 b = span cells a (a + b) := by
  rw [span, span, Nat.sub_zero, Nat.add_sub_cancel_left, List.range'_eq_map_range, List.range'_eq_map_range,
    List.map_map, List.map_map]
  refine List.map_congr_left fun i hi => ?_
  simpa using h i (List.mem_range.mp hi)

theorem drop_span (n : ℕ) : (span cells a b).drop n = span cells (a + n) b := by
  rw [span, span, ← List.map_drop, List.drop_range', Nat.mul_one, Nat.sub_sub]

theorem take_span {n : ℕ} (h : a + n ≤ b) : (span cells a b).take n = span cells a (a + n) := by
  rw [← span_append (Nat.le_add_right a n) h, List.take_append_of_le_length (by simp),
    List.take_of_length_le (by simp)]

/-- Cells that hold a list of values. -/
theorem span_eq_of_getElem? {xs : List T} (h : ∀ i (hi : i < xs.length), cells (a + i) = xs[i]) :
    span cells a (a + xs.length) = xs := by
  refine List.ext_getElem (by simp) fun i _ hi => ?_
  simpa [span] using h i hi

end Span

/-- A region of the array: where it begins and how long it is. -/
structure Region where
  first : ℕ
  length : ℕ
  deriving DecidableEq, Repr

/-- `flat_buffer<T, N>`. -/
structure FlatBuffer (T : Type) (N : ℕ) where
  buf_ : ℕ → T
  /-- The first byte that has not been consumed. -/
  in_ : ℕ
  /-- The end of what has been committed. -/
  out_ : ℕ
  /-- The end of what has been prepared. -/
  last_ : ℕ
  in_le_out : in_ ≤ out_
  out_le_last : out_ ≤ last_
  last_le : last_ ≤ N

namespace FlatBuffer

variable {T : Type} {N : ℕ}

/-- A buffer as it is constructed. -/
def empty [Inhabited T] : FlatBuffer T N where
  buf_ := fun _ => default
  in_ := 0
  out_ := 0
  last_ := 0
  in_le_out := Nat.le_refl 0
  out_le_last := Nat.le_refl 0
  last_le := Nat.zero_le N

instance [Inhabited T] : Inhabited (FlatBuffer T N) := ⟨empty⟩

/-- `size`. -/
def size (b : FlatBuffer T N) : ℕ := b.out_ - b.in_

/-- What `begin()` to `end()` holds. -/
def contents (b : FlatBuffer T N) : List T := span b.buf_ b.in_ b.out_

/-- What the `length_error` says. -/
def overflow : Fault := .exception (ascii "flat_buffer::prepare buffer overflow")

/-- `std::memmove(buf_.begin(), in_, len)`. -/
def moved (b : FlatBuffer T N) (len : ℕ) : ℕ → T :=
  fun i => if i < len then b.buf_ (b.in_ + i) else b.buf_ i

/-- `prepare`: a region of `n` cells behind what has been committed, for which the contents are moved
to the front of the array where that is what it takes. -/
def prepare (b : FlatBuffer T N) (n : ℕ) : Except Fault (FlatBuffer T N × Region) :=
  if hfit : n ≤ N - b.out_ then
    .ok ({ b with
            last_ := b.out_ + n
            out_le_last := Nat.le_add_right _ _
            last_le := by have := b.out_le_last; have := b.last_le; omega }, ⟨b.out_, n⟩)
  else if hover : n > N - b.size then .error overflow
  else
    .ok ({  buf_ := if b.size > 0 then b.moved b.size else b.buf_
            in_ := 0
            out_ := b.size
            last_ := b.size + n
            in_le_out := Nat.zero_le _
            out_le_last := Nat.le_add_right _ _
            last_le := by
              have := b.out_le_last
              have := b.last_le
              have hsize : b.size = b.out_ - b.in_ := rfl
              omega }, ⟨b.size, n⟩)

/-- What whoever was given a region from `first` on puts there. -/
def write (b : FlatBuffer T N) (first : ℕ) (data : List T) : FlatBuffer T N :=
  { b with buf_ := fun i => if first ≤ i then data.getD (i - first) (b.buf_ i) else b.buf_ i }

/-- `commit`. -/
def commit (b : FlatBuffer T N) (n : ℕ) : FlatBuffer T N :=
  { b with
    out_ := b.out_ + min n (b.last_ - b.out_)
    in_le_out := Nat.le_trans b.in_le_out (Nat.le_add_right _ _)
    out_le_last := by have := b.out_le_last; omega }

/-- `consume`. -/
def consume (b : FlatBuffer T N) (n : ℕ) : FlatBuffer T N :=
  if hall : n ≥ b.size then
    { b with
      in_ := 0
      out_ := 0
      in_le_out := Nat.le_refl 0
      out_le_last := Nat.zero_le _ }
  else
    { b with
      in_ := b.in_ + n
      in_le_out := by have hsize : b.size = b.out_ - b.in_ := rfl; omega }

@[simp]
theorem contents_empty [Inhabited T] : (empty : FlatBuffer T N).contents = [] := rfl

@[simp]
theorem length_contents (b : FlatBuffer T N) : b.contents.length = b.size := length_span

theorem in_add_size (b : FlatBuffer T N) : b.in_ + b.size = b.out_ :=
  Nat.add_sub_cancel' b.in_le_out

theorem out_le (b : FlatBuffer T N) : b.out_ ≤ N := Nat.le_trans b.out_le_last b.last_le

theorem size_le (b : FlatBuffer T N) : b.size ≤ N := Nat.le_trans (Nat.sub_le _ _) b.out_le

/-- What is written behind what has been committed does not change it. -/
theorem contents_write (b : FlatBuffer T N) (data : List T) : (b.write b.out_ data).contents = b.contents :=
  span_congr fun _ _ hi => if_neg (Nat.not_le.mpr hi)

/-- Part of the contents, counted from `begin()`. -/
theorem span_begin (b : FlatBuffer T N) {i j : ℕ} (hj : j ≤ b.size) :
    span b.buf_ (b.in_ + i) (b.in_ + j) = (b.contents.take j).drop i := by
  rw [contents, take_span (by have := b.in_add_size; omega), drop_span]

/-- **`prepare` throws exactly when the free cells are too few.** -/
theorem prepare_error_iff (b : FlatBuffer T N) (n : ℕ) : b.prepare n = .error overflow ↔ n > N - b.size := by
  have hsize : b.size = b.out_ - b.in_ := rfl
  rw [prepare]
  split
  case isTrue hfit => simp only [reduceCtorEq, false_iff]; omega
  case isFalse hfit =>
    split
    case isTrue hover => simpa using hover
    case isFalse hover => simpa using hover

/-- **`prepare` leaves the contents alone** and gives the region behind them. -/
theorem contents_prepare {b b' : FlatBuffer T N} {n : ℕ} {region : Region}
    (h : b.prepare n = .ok (b', region)) :
    b'.contents = b.contents ∧ region = ⟨b'.out_, n⟩ ∧ b'.last_ = b'.out_ + n := by
  rw [prepare] at h
  split at h
  · cases h
    exact ⟨rfl, rfl, rfl⟩
  · split at h
    · cases h
    · cases h
      refine ⟨?_, rfl, rfl⟩
      show span _ 0 b.size = span b.buf_ b.in_ b.out_
      rw [← b.in_add_size]
      refine span_shift fun i hi => ?_
      rw [if_pos (Nat.zero_lt_of_lt hi)]
      exact if_pos hi

/-- There is room, so `prepare` does not throw. -/
theorem exists_prepare {b : FlatBuffer T N} {n : ℕ} (h : n ≤ N - b.size) :
    ∃ b' region, b.prepare n = .ok (b', region) := by
  rw [prepare]
  split
  · exact ⟨_, _, rfl⟩
  · rw [dif_neg (Nat.not_lt.mpr h)]
    exact ⟨_, _, rfl⟩

/-- **`commit` appends** what was written behind the contents, as far as it was prepared. -/
theorem contents_commit (b : FlatBuffer T N) {data : List T} {n : ℕ}
    (hdata : min n (b.last_ - b.out_) ≤ data.length) :
    ((b.write b.out_ data).commit n).contents = b.contents ++ data.take (min n (b.last_ - b.out_)) := by
  generalize hk : min n (b.last_ - b.out_) = k at hdata
  have hold : span (b.write b.out_ data).buf_ b.in_ b.out_ = b.contents := b.contents_write data
  have hnew : span (b.write b.out_ data).buf_ b.out_ (b.out_ + k) = data.take k := by
    have hlen : (data.take k).length = k := by rw [List.length_take, Nat.min_eq_left hdata]
    have hspan : span (b.write b.out_ data).buf_ b.out_ (b.out_ + (data.take k).length) = data.take k := by
      refine span_eq_of_getElem? fun i hi => ?_
      have hi' : i < data.length := by rw [List.length_take] at hi; omega
      simp [write, hi']
    rwa [hlen] at hspan
  calc ((b.write b.out_ data).commit n).contents
      = span (b.write b.out_ data).buf_ b.in_ (b.out_ + k) := by rw [← hk]; rfl
    _ = b.contents ++ data.take k := by
        rw [← span_append b.in_le_out (Nat.le_add_right _ k), hold, hnew]

/-- **`consume` drops from the front.** -/
theorem contents_consume (b : FlatBuffer T N) (n : ℕ) : (b.consume n).contents = b.contents.drop n := by
  rw [consume]
  split
  case isTrue hall => exact (List.drop_eq_nil_of_le (by rw [length_contents]; exact hall)).symm
  case isFalse hall => exact (drop_span n).symm

theorem size_consume (b : FlatBuffer T N) (n : ℕ) : (b.consume n).size = b.size - n := by
  rw [← length_contents, contents_consume, List.length_drop, length_contents]

end FlatBuffer

end SmppGateway.Net
