import SmppGateway.Foundation.Text
import Mathlib.Data.Nat.Bitwise

/-!
# Bit sets

`bit_set` (`src/routing/smpp/bit_set.cpp`): `size_` bits kept in `word_size_` words
of 64 bits. The size is a parameter of the type, so that `&=` and `|=` are between
sets of one size, as the assertions in them ask; the constructor's
`std::ceil(static_cast<double>(t_size) / 64)` is `wordSize`, which it equals for
sizes up to `2 ^ 53`.

`set` asserts that the index is below `size_`; a release build drops the assertion.
The model drops it too: an index past `size_` but inside the last word sets one of
that word's unused bits, and an index past the last word is an access outside the
storage, for which `set` gives no result. `std::div(ind, 64)` is the overload for
`int`, as its result in `to_string` is: the index is reduced to 32 bits and read with a
sign, and a negative one divides into a word or a bit below the first.

The constructor gives `new uint64_t[word_size_]` an initializer for the first word, so
that for a set without words the array is too short and it throws. `new` is the set it
leaves for any other size; `create` is the constructor with both outcomes. `shift_right`
starts at the word `word_size_ - 1`, which a set without words would not have.

## What is proved

Each operation is described by the bits it leaves (`get_set`, `get_orAssign`,
`get_andAssign`, `shiftRight_get`), and `getSetBitsIndices`, the loop over
`__builtin_ctzll`, lists the set bits of the storage in ascending order
(`getSetBitsIndices_eq`).
-/

namespace SmppGateway.Routing

open SmppGateway.Foundation

/-- `word_size_`. -/
def wordSize (size : ℕ) : ℕ := (size + 63) / 64

/-- `bit_set`. -/
structure BitSet (size : ℕ) where
  /-- `storage_`. -/
  storage : Vector (BitVec 64) (wordSize size)

/-- A loop that comes to an element for which its body does not return does not return. -/
theorem foldlM_eq_none {α β : Type} {f : β → α → Option β} {l : List α} {a : α} (ha : a ∈ l)
    (h : ∀ b, f b a = none) (b : β) : l.foldlM f b = none := by
  induction l generalizing b with
  | nil => cases ha
  | cons x l ih =>
    rw [List.foldlM_cons]
    rcases List.mem_cons.mp ha with rfl | hmem
    · rw [h]
      rfl
    · cases f b x with
      | none => rfl
      | some b' => exact ih hmem b'

namespace BitSet

variable {size : ℕ}

/-- What the constructor leaves when it returns: the words are initialized to zero. -/
def new (size : ℕ) : BitSet size := ⟨Vector.replicate _ 0⟩

/-- What an array that is shorter than its initializer throws. -/
def badArrayNewLength : Fault := .exception (ascii "std::bad_array_new_length")

/-- The constructor. -/
def create (size : ℕ) : Except Fault (BitSet size) :=
  if wordSize size = 0 then .error badArrayNewLength else .ok (new size)

/-- `storage_[i]`. -/
def word (b : BitSet size) (i : ℕ) : BitVec 64 := b.storage[i]?.getD 0

/-- `storage_[i] = w`. -/
def setWord (b : BitSet size) (i : ℕ) (w : BitVec 64) : BitSet size :=
  ⟨b.storage.setIfInBounds i w⟩

/-- `ind_set_[k]`. -/
def indSet (k : ℕ) : BitVec 64 := 1#64 <<< k

/-- `ind_unset_[k]`. -/
def indUnset (k : ℕ) : BitVec 64 := ~~~ indSet k

/-- `operator&=`. -/
def andAssign (b rhs : BitSet size) : BitSet size := ⟨b.storage.zipWith (· &&& ·) rhs.storage⟩

/-- `operator|=`. -/
def orAssign (b rhs : BitSet size) : BitSet size := ⟨b.storage.zipWith (· ||| ·) rhs.storage⟩

/-- The loop of `shift_right`, from word `i` down to word `1`: each word is shifted
and takes the top bit of the word below it, which is not yet shifted. -/
def shiftLoop (b : BitSet size) : ℕ → BitSet size
  | 0 => b
  | i + 1 =>
    let shifted := b.word (i + 1) <<< 1
    let carried := if b.word i &&& 0x8000000000000000 ≠ 0 then shifted ||| 1 else shifted
    shiftLoop (b.setWord (i + 1) carried) i

/-- `shift_right`. Without a word it writes outside the storage. -/
def shiftRight (b : BitSet size) : Option (BitSet size) :=
  if wordSize size = 0 then none
  else
    let b := b.shiftLoop (wordSize size - 1)
    some (b.setWord 0 (b.word 0 <<< 1))

/-- The index as an `int` is not negative, and its word is in the storage. -/
def InStorage (size ind : ℕ) : Prop := ind % 2 ^ 32 < 2 ^ 31 ∧ ind % 2 ^ 32 / 64 < wordSize size

instance (size ind : ℕ) : Decidable (InStorage size ind) := inferInstanceAs (Decidable (_ ∧ _))

/-- `set`. It writes outside the storage when the index is not inside it. -/
def set (b : BitSet size) (ind : ℕ) (value : Bool := true) : Option (BitSet size) :=
  if InStorage size ind then
    let quot := ind % 2 ^ 32 / 64
    let rem := ind % 2 ^ 32 % 64
    if value then some (b.setWord quot (b.word quot ||| indSet rem))
    else some (b.setWord quot (b.word quot &&& indUnset rem))
  else none

/-- The bit at an index: what `get` reads there while the index fits an `int`. -/
def get (b : BitSet size) (ind : ℕ) : Bool := b.word (ind / 64) &&& indSet (ind % 64) ≠ 0

/-- `__builtin_ctzll`: the number of zero bits below the lowest set one. -/
def ctz (tmp : BitVec 64) : ℕ := (List.range 64).findIdx tmp.getLsbD

/-- Some bit of a word that is not zero is set, so `ctz` is an index of the word. -/
theorem getLsbD_ctz {tmp : BitVec 64} (h : tmp ≠ 0) : ctz tmp < 64 ∧ tmp.getLsbD (ctz tmp) = true := by
  obtain ⟨i, hi, hb⟩ : ∃ i < 64, tmp.getLsbD i = true := by
    by_contra hn
    push Not at hn
    exact h (BitVec.eq_of_getLsbD_eq fun i hi => by simpa using hn i hi)
  have hlt : ctz tmp < (List.range 64).length :=
    List.findIdx_lt_length_of_exists ⟨i, List.mem_range.mpr hi, hb⟩
  have hbit : tmp.getLsbD (List.range 64)[ctz tmp] = true :=
    @List.findIdx_getElem _ tmp.getLsbD (List.range 64) hlt
  rw [List.getElem_range] at hbit
  exact ⟨by simpa using hlt, hbit⟩

theorem getLsbD_of_lt_ctz {tmp : BitVec 64} {i : ℕ} (h : i < ctz tmp) : tmp.getLsbD i = false := by
  have := @List.not_of_lt_findIdx _ tmp.getLsbD (List.range 64) _ h
  simpa [List.getElem_range] using this

theorem getLsbD_one_shiftLeft {k : ℕ} (hk : k < 64) (i : ℕ) :
    (1#64 <<< k).getLsbD i = decide (i = k) := by
  rw [← BitVec.twoPow_eq, BitVec.getLsbD_twoPow]
  simp [hk, eq_comm]

/-- Flipping a set bit clears that bit and no other. -/
theorem getLsbD_flip {tmp : BitVec 64} {k : ℕ} (hk : k < 64) (h : tmp.getLsbD k = true) (i : ℕ) :
    (tmp ^^^ (1#64 <<< k)).getLsbD i = (tmp.getLsbD i && decide (i ≠ k)) := by
  rw [BitVec.getLsbD_xor, getLsbD_one_shiftLeft hk]
  by_cases hi : i = k
  · subst hi; simp [h]
  · simp [hi]

theorem toNat_flip_lt {tmp : BitVec 64} {k : ℕ} (hk : k < 64) (h : tmp.getLsbD k = true) :
    (tmp ^^^ (1#64 <<< k)).toNat < tmp.toNat := by
  refine Nat.lt_of_testBit k ?_ h fun j hj => ?_
  · rw [BitVec.testBit_toNat, getLsbD_flip hk h]
    simp
  · rw [BitVec.testBit_toNat, BitVec.testBit_toNat, getLsbD_flip hk h]
    simp [Nat.ne_of_gt hj]

/-- The loop `while(tmp)` over one word: the positions `ctz` finds, each cleared once found. -/
def drain (tmp : BitVec 64) : List ℕ :=
  if tmp = 0 then [] else ctz tmp :: drain (tmp ^^^ (1#64 <<< ctz tmp))
termination_by tmp.toNat
decreasing_by exact toNat_flip_lt (getLsbD_ctz ‹_›).1 (getLsbD_ctz ‹_›).2

/-- `get_set_bits_indices`, as compiled with `__GNUG__`. -/
def getSetBitsIndices (b : BitSet size) : List ℕ :=
  (List.range (wordSize size)).flatMap fun i => (drain (b.word i)).map (i * 64 + ·)

/-! ### The bits an operation leaves -/

/-- **The constructor** returns for every size but zero. -/
theorem create_eq (size : ℕ) : create size = if size = 0 then .error badArrayNewLength else .ok (new size) := by
  have hword : wordSize size = 0 ↔ size = 0 := by
    rw [wordSize]
    omega
  simp only [create, hword]

theorem word_new (i : ℕ) : (new size).word i = 0 := by
  rw [word, new, Vector.getElem?_replicate]
  split <;> rfl

theorem word_setWord (b : BitSet size) (i j : ℕ) (w : BitVec 64) :
    (b.setWord i w).word j = if i = j ∧ i < wordSize size then w else b.word j := by
  simp only [word, setWord, Vector.getElem?_setIfInBounds]
  by_cases hij : i = j
  · subst hij
    by_cases hi : i < wordSize size <;> simp [hi]
  · simp [hij]

theorem word_of_le (b : BitSet size) {i : ℕ} (h : wordSize size ≤ i) : b.word i = 0 := by
  rw [word, Vector.getElem?_eq_none h]
  rfl

theorem word_andAssign (b rhs : BitSet size) (i : ℕ) :
    (b.andAssign rhs).word i = b.word i &&& rhs.word i := by
  by_cases hi : i < wordSize size
  · simp [word, andAssign, hi]
  · rw [word_of_le _ (by omega), word_of_le _ (by omega)]; simp

theorem word_orAssign (b rhs : BitSet size) (i : ℕ) :
    (b.orAssign rhs).word i = b.word i ||| rhs.word i := by
  by_cases hi : i < wordSize size
  · simp [word, orAssign, hi]
  · rw [word_of_le _ (by omega), word_of_le _ (by omega), word_of_le _ (by omega)]; simp

/-- Testing a word against a table entry reads one bit. -/
theorem and_indSet_ne_zero (w : BitVec 64) {k : ℕ} (hk : k < 64) :
    (w &&& indSet k ≠ 0) ↔ w.getLsbD k = true := by
  rw [indSet, ← BitVec.twoPow_eq, BitVec.and_twoPow]
  cases w.getLsbD k with
  | false => simp
  | true =>
    have : BitVec.twoPow 64 k ≠ 0#64 := fun h => by
      simpa [BitVec.getLsbD_twoPow, hk] using congrArg (·.getLsbD k) h
    simpa using this

theorem get_eq (b : BitSet size) (ind : ℕ) : b.get ind = (b.word (ind / 64)).getLsbD (ind % 64) := by
  rw [get, Bool.eq_iff_iff, decide_eq_true_eq, and_indSet_ne_zero _ (Nat.mod_lt _ (by omega))]

/-- No bit past the storage is set. -/
theorem get_of_le (b : BitSet size) {ind : ℕ} (h : 64 * wordSize size ≤ ind) : b.get ind = false := by
  rw [get_eq, word_of_le _ (by omega)]
  simp

@[simp]
theorem get_new (ind : ℕ) : (new size).get ind = false := by simp [get_eq, word_new]

@[simp]
theorem get_andAssign (b rhs : BitSet size) (ind : ℕ) :
    (b.andAssign rhs).get ind = (b.get ind && rhs.get ind) := by
  simp [get_eq, word_andAssign]

@[simp]
theorem get_orAssign (b rhs : BitSet size) (ind : ℕ) :
    (b.orAssign rhs).get ind = (b.get ind || rhs.get ind) := by
  simp [get_eq, word_orAssign]

/-- Once `set` has been called with an index of 32 bits, that bit is set, and no other bit has
changed. -/
theorem get_set {b b' : BitSet size} {ind : ℕ} (h : b.set ind = some b') (hind : ind < 2 ^ 32) (i : ℕ) :
    b'.get i = (b.get i || decide (i = ind)) := by
  simp only [set, ↓reduceIte, Nat.mod_eq_of_lt hind] at h
  split at h
  · rename_i hin
    have hw : ind / 64 < wordSize size := Nat.mod_eq_of_lt hind ▸ hin.2
    cases h
    rw [get_eq, get_eq, word_setWord]
    by_cases hi : ind / 64 = i / 64
    · rw [if_pos ⟨hi, hw⟩, BitVec.getLsbD_or, indSet, getLsbD_one_shiftLeft (Nat.mod_lt _ (by omega)), hi]
      congr 1
      exact decide_eq_decide.mpr (by omega)
    · have : i ≠ ind := fun e => hi (by rw [e])
      simp [hi, this]
  · cases h

/-- `set` returns exactly for an index inside the storage. -/
theorem isSome_set {b : BitSet size} {ind : ℕ} : (b.set ind).isSome = true ↔ InStorage size ind := by
  simp only [set, ↓reduceIte]
  split <;> simp [*]

theorem set_eq_none {b : BitSet size} {ind : ℕ} (h : ¬ InStorage size ind) : b.set ind = none :=
  if_neg h

/-- The number of indices `set` takes as they are. -/
def capacity (size : ℕ) : ℕ := min (64 * wordSize size) (2 ^ 31)

theorem capacity_lt (size : ℕ) : capacity size < 2 ^ 32 :=
  lt_of_le_of_lt (Nat.min_le_right _ _) (by decide)

/-- An index of 32 bits is inside the storage exactly when it is below the capacity. -/
theorem inStorage_iff {ind : ℕ} (h : ind < 2 ^ 32) : InStorage size ind ↔ ind < capacity size := by
  rw [InStorage, capacity, Nat.mod_eq_of_lt h]
  omega

theorem le_storage (size : ℕ) : size ≤ 64 * wordSize size := by
  rw [wordSize]
  omega

theorem le_capacity {size : ℕ} (h : size ≤ 2 ^ 31) : size ≤ capacity size :=
  Nat.le_min.mpr ⟨le_storage size, h⟩

/-- `set` returns for every index below the capacity. -/
theorem exists_set (b : BitSet size) {ind : ℕ} (h : ind < capacity size) : ∃ b', b.set ind = some b' :=
  Option.isSome_iff_exists.mp <| isSome_set.mpr <|
    (inStorage_iff (lt_trans h (capacity_lt size))).mpr h

/-! ### The shift -/

/-- The mask `0x8000000000000000` reads the top bit of a word. -/
theorem and_top_ne_zero (w : BitVec 64) : (w &&& 0x8000000000000000 ≠ 0) ↔ w.getLsbD 63 = true :=
  and_indSet_ne_zero (k := 63) w (by omega)

/-- A word shifted, with the top bit of the word below it carried in. -/
def carry (low high : BitVec 64) : BitVec 64 :=
  if low &&& 0x8000000000000000 ≠ 0 then (high <<< 1) ||| 1 else high <<< 1

theorem getLsbD_carry (low high : BitVec 64) {i : ℕ} (hi : i < 64) :
    (carry low high).getLsbD i = if i = 0 then low.getLsbD 63 else high.getLsbD (i - 1) := by
  have hshift : (high <<< 1).getLsbD i = if i = 0 then false else high.getLsbD (i - 1) := by
    rw [BitVec.getLsbD_shiftLeft]
    by_cases h0 : i = 0
    · simp [h0]
    · simp only [hi, h0, Nat.lt_one_iff, decide_true, decide_false, Bool.not_false, Bool.true_and,
        ↓reduceIte]
  by_cases htop : low.getLsbD 63 = true
  · rw [carry, if_pos ((and_top_ne_zero low).mpr htop), BitVec.getLsbD_or, hshift, htop]
    by_cases h0 : i = 0 <;> simp [h0]
  · rw [carry, if_neg (mt (and_top_ne_zero low).mp htop), hshift, Bool.eq_false_iff.mpr htop]

/-- The loop gives the words `1, …, n` their shifted contents and leaves the others. -/
theorem word_shiftLoop (b : BitSet size) {n : ℕ} (hn : n < wordSize size) (j : ℕ) :
    (b.shiftLoop n).word j =
      if 1 ≤ j ∧ j ≤ n then carry (b.word (j - 1)) (b.word j) else b.word j := by
  induction n generalizing b with
  | zero => rw [shiftLoop, if_neg (by omega)]
  | succ n ih =>
    have hstep : b.shiftLoop (n + 1) =
        (b.setWord (n + 1) (carry (b.word n) (b.word (n + 1)))).shiftLoop n := rfl
    rw [hstep, ih _ (by omega), word_setWord, word_setWord]
    by_cases hj : j = n + 1
    · subst hj
      rw [if_neg (by omega), if_pos ⟨rfl, hn⟩, if_pos (by omega), Nat.add_sub_cancel]
    · by_cases hj' : 1 ≤ j ∧ j ≤ n
      · rw [if_pos hj', if_neg (by omega), if_neg (by omega), if_pos (by omega)]
      · rw [if_neg hj', if_neg (by omega), if_neg (by omega)]

/-- **The shift** of a set that is not empty moves every bit up by one; the lowest bit becomes zero,
and the highest bit of the storage is lost. -/
theorem shiftRight_get (b : BitSet size) (hsize : 0 < size) : ∃ b', b.shiftRight = some b' ∧ ∀ ind,
    b'.get ind = (decide (0 < ind) && decide (ind < 64 * wordSize size) && b.get (ind - 1)) := by
  have hword : wordSize size ≠ 0 := by rw [wordSize]; omega
  refine ⟨_, by rw [shiftRight, if_neg hword], ?_⟩
  intro ind
  by_cases hs : ind < 64 * wordSize size
  · have hn : wordSize size - 1 < wordSize size := by omega
    rw [get_eq, word_setWord]
    by_cases h0 : ind / 64 = 0
    · rw [if_pos ⟨h0.symm, by omega⟩, word_shiftLoop b hn, if_neg (by omega)]
      by_cases hi : ind = 0
      · subst hi; simp
      · have hw : (ind - 1) / 64 = 0 := by omega
        have hm : (ind - 1) % 64 = ind % 64 - 1 := by omega
        have hpos : 0 < ind % 64 := by omega
        rw [get_eq, hw, hm, BitVec.getLsbD_shiftLeft]
        simp only [hs, Nat.pos_of_ne_zero hi, Nat.mod_lt ind (by omega : 0 < 64), hpos.ne',
          Nat.lt_one_iff, decide_true, decide_false, Bool.not_false, Bool.true_and]
    · rw [if_neg (by omega), word_shiftLoop b hn, if_pos (by omega),
        getLsbD_carry _ _ (Nat.mod_lt _ (by omega)), get_eq]
      by_cases hm : ind % 64 = 0
      · have hw : (ind - 1) / 64 = ind / 64 - 1 := by omega
        have hm' : (ind - 1) % 64 = 63 := by omega
        simp [hm, hw, hm', hs, (by omega : 0 < ind)]
      · have hw : (ind - 1) / 64 = ind / 64 := by omega
        have hm' : (ind - 1) % 64 = ind % 64 - 1 := by omega
        simp [hm, hw, hm', hs, (by omega : 0 < ind)]
  · rw [get_of_le _ (by omega)]
    simp [hs]

/-! ### The list of set bits -/

/-- The first index a predicate holds at heads the list of all of them. -/
theorem filter_range_eq_cons {p : ℕ → Bool} {n k : ℕ} (hk : k < n) (hp : p k = true)
    (hlt : ∀ i < k, p i = false) :
    (List.range n).filter p = k :: (List.range n).filter fun i => p i && decide (i ≠ k) := by
  obtain ⟨m, rfl⟩ : ∃ m, n = k + (1 + m) := ⟨n - k - 1, by omega⟩
  have hlow : (List.range k).filter p = [] :=
    List.filter_eq_nil_iff.mpr fun i hi => by simp [hlt i (List.mem_range.mp hi)]
  have hlow' : (List.range k).filter (fun i => p i && decide (i ≠ k)) = [] :=
    List.filter_eq_nil_iff.mpr fun i hi => by simp [hlt i (List.mem_range.mp hi)]
  rw [List.range_add, List.filter_append, List.filter_append, hlow, hlow', List.range_add]
  simp [hp, List.filter_map, Function.comp_def]

/-- The loop over one word lists its set bits in ascending order. -/
theorem drain_eq (tmp : BitVec 64) : drain tmp = (List.range 64).filter tmp.getLsbD := by
  induction hn : tmp.toNat using Nat.strong_induction_on generalizing tmp with
  | _ n ih =>
    rw [drain]
    split
    · rename_i h0
      subst h0
      simp
    · rename_i h0
      obtain ⟨hk, hb⟩ := getLsbD_ctz h0
      rw [ih _ (hn ▸ toNat_flip_lt hk hb) _ rfl,
        filter_range_eq_cons hk hb fun i hi => getLsbD_of_lt_ctz hi]
      congr 2
      funext i
      exact getLsbD_flip hk hb i

theorem flatMap_range_filter (p : ℕ → Bool) (n : ℕ) :
    ((List.range n).flatMap fun i => ((List.range 64).filter fun j => p (i * 64 + j)).map (i * 64 + ·)) =
      (List.range (n * 64)).filter p := by
  induction n with
  | zero => simp
  | succ n ih =>
    rw [List.range_succ (n := n), List.flatMap_append, ih, Nat.succ_mul, List.range_add,
      List.filter_append, List.filter_map]
    simp only [List.flatMap_singleton, Function.comp_def]

/-- **The list of set bits** is the ascending list of the storage's bits that `get` finds set. -/
theorem getSetBitsIndices_eq (b : BitSet size) :
    b.getSetBitsIndices = (List.range (wordSize size * 64)).filter b.get := by
  rw [getSetBitsIndices, ← flatMap_range_filter]
  congr 1
  funext i
  rw [drain_eq]
  congr 1
  refine List.filter_congr fun j hj => ?_
  have hj := List.mem_range.mp hj
  rw [get_eq, show (i * 64 + j) / 64 = i by omega, show (i * 64 + j) % 64 = j by omega]

end BitSet

end SmppGateway.Routing
