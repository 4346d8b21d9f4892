import SmppGateway.Routing.BitSet

/-!
# Two ways to list the set bits

`get_set_bits_indices` (`src/routing/smpp/bit_set.cpp`) is compiled in one of two ways: with
`__GNUG__` it walks the words of the storage, without it it asks for each index below `size_`.

## The model

`Made` is the history of a bit set: the constructor, and the operations on it and on the sets it is
combined with. The index of `set` meets the assertion of the function.

## What is proved

* `agrees_iff_clean` — the two ways agree on a bit set exactly if its indices fit an `int` and the unused bits
  of its last word are zero.
* `Made.agree_iff` — they agree in every state of a history exactly if no shift pushes a bit into the
  unused bits.
-/

namespace SmppGateway.Routing

namespace BitSet

variable {size : ℕ} {b b' rhs : BitSet size}

/-- `get`. It reads outside the storage when the index is not inside it. -/
def getAt (b : BitSet size) (ind : ℕ) : Option Bool :=
  if InStorage size ind then some (b.get (ind % 2 ^ 32)) else none

/-- `get_set_bits_indices`, as compiled without `__GNUG__`. -/
def getSetBitsIndicesPlain (b : BitSet size) : Option (List ℕ) :=
  (List.range size).foldlM (fun ret i => (b.getAt i).map fun bit => if bit then ret ++ [i] else ret) []

/-- The two ways give the ascending list of the indices below the size at which a bit is set. -/
def Agrees (b : BitSet size) : Prop :=
  b.getSetBitsIndicesPlain = some b.getSetBitsIndices ∧
    b.getSetBitsIndices = (List.range size).filter fun i => b.getAt i = some true

/-- The unused bits of the last word are zero. -/
def Clean (b : BitSet size) : Prop := ∀ i, size ≤ i → b.get i = false

/-! ### One bit set -/

theorem getAt_of_lt (hsize : size ≤ 2 ^ 31) (b : BitSet size) {i : ℕ} (hi : i < size) :
    b.getAt i = some (b.get i) := by
  have hlt : i < 2 ^ 32 := by omega
  rw [getAt, if_pos ((inStorage_iff hlt).mpr (Nat.lt_of_lt_of_le hi (le_capacity hsize))),
    Nat.mod_eq_of_lt hlt]

theorem foldlM_getAt {l : List ℕ} (h : ∀ i ∈ l, b.getAt i = some (b.get i)) (ret : List ℕ) :
    l.foldlM (fun ret i => (b.getAt i).map fun bit => if bit then ret ++ [i] else ret) ret =
      some (ret ++ l.filter b.get) := by
  induction l generalizing ret with
  | nil => simp
  | cons i l ih =>
    obtain ⟨hi, hl⟩ := List.forall_mem_cons.mp h
    rw [List.foldlM_cons, hi]
    cases hbit : b.get i with
    | true => simpa [hbit] using ih hl (ret ++ [i])
    | false => simpa [hbit] using ih hl ret

theorem getSetBitsIndicesPlain_eq (hsize : size ≤ 2 ^ 31) (b : BitSet size) :
    b.getSetBitsIndicesPlain = some ((List.range size).filter b.get) :=
  foldlM_getAt (fun _ hi => getAt_of_lt hsize b (List.mem_range.mp hi)) []

/-- The loop comes to an index that is negative as an `int`. -/
theorem getSetBitsIndicesPlain_of_large (hsize : 2 ^ 31 < size) (b : BitSet size) :
    b.getSetBitsIndicesPlain = none := by
  have hout : ¬ InStorage size (2 ^ 31) := fun h => absurd h.1 (by decide)
  refine foldlM_eq_none (List.mem_range.mpr hsize) (fun ret => ?_) []
  rw [getAt, if_neg hout]
  rfl

/-- The words have no set bits past the size exactly if the unused bits are zero. -/
theorem getSetBitsIndices_eq_iff (b : BitSet size) :
    b.getSetBitsIndices = (List.range size).filter b.get ↔ b.Clean := by
  rw [getSetBitsIndices_eq]
  constructor
  · intro h i hi
    by_contra hset
    have hbit : b.get i = true := by simpa using hset
    have hstorage : i < wordSize size * 64 := by
      by_contra hout
      rw [b.get_of_le (by omega)] at hbit
      cases hbit
    have hmem : i ∈ (List.range size).filter b.get :=
      h ▸ List.mem_filter.mpr ⟨List.mem_range.mpr hstorage, hbit⟩
    exact absurd (List.mem_range.mp (List.mem_filter.mp hmem).1) (by omega)
  · intro h
    obtain ⟨m, hm⟩ : ∃ m, wordSize size * 64 = size + m :=
      ⟨wordSize size * 64 - size, by have := le_storage size; omega⟩
    have hnone : ((List.range m).map (size + ·)).filter b.get = [] := by
      refine List.filter_eq_nil_iff.mpr fun i hi => ?_
      obtain ⟨j, -, rfl⟩ := List.mem_map.mp hi
      simp [h (size + j) (by omega)]
    rw [hm, List.range_add, List.filter_append, hnone, List.append_nil]

/-- The exact condition on a bit set. -/
theorem agrees_iff_clean (b : BitSet size) : b.Agrees ↔ size ≤ 2 ^ 31 ∧ b.Clean := by
  constructor
  · rintro ⟨hplain, -⟩
    have hsize : size ≤ 2 ^ 31 := by
      by_contra hlarge
      rw [getSetBitsIndicesPlain_of_large (by omega)] at hplain
      cases hplain
    rw [getSetBitsIndicesPlain_eq hsize] at hplain
    exact ⟨hsize, b.getSetBitsIndices_eq_iff.mp (Option.some.inj hplain).symm⟩
  · rintro ⟨hsize, hclean⟩
    have hlist := b.getSetBitsIndices_eq_iff.mpr hclean
    refine ⟨by rw [getSetBitsIndicesPlain_eq hsize, hlist], hlist.trans ?_⟩
    refine List.filter_congr fun i hi => ?_
    rw [getAt_of_lt hsize b (List.mem_range.mp hi)]
    simp

/-! ### The unused bits -/

theorem clean_new : (new size).Clean := fun _ _ => get_new _

/-- Once `set` has been called with `false`, that bit is clear, and no other bit has changed. -/
theorem get_unset {ind : ℕ} (h : b.set ind false = some b') (hind : ind < 2 ^ 32) (i : ℕ) :
    b'.get i = (b.get i && decide (i ≠ ind)) := by
  simp only [set, Bool.false_eq_true, ↓reduceIte, Nat.mod_eq_of_lt hind] at h
  split at h
  · rename_i hin
    have hw : ind / 64 < wordSize size := Nat.mod_eq_of_lt hind ▸ hin.2
    have hrem (k : ℕ) : k % 64 < 64 := Nat.mod_lt _ (by omega)
    cases h
    rw [get_eq, get_eq, word_setWord]
    by_cases hi : ind / 64 = i / 64
    · rw [if_pos ⟨hi, hw⟩, BitVec.getLsbD_and, indUnset, BitVec.getLsbD_not, indSet,
        getLsbD_one_shiftLeft (hrem ind), hi]
      have hiff : i % 64 = ind % 64 ↔ i = ind := by omega
      simp [hrem i, hiff]
    · have hne : i ≠ ind := fun e => hi (by rw [e])
      simp [hi, hne]
  · cases h

theorem Clean.set (h : b.Clean) {ind : ℕ} {value : Bool} (hind : ind < size) (hsize : size ≤ 2 ^ 31)
    (hset : b.set ind value = some b') : b'.Clean := by
  intro i hi
  have hne : i ≠ ind := by omega
  cases value with
  | true => rw [get_set hset (by omega), h i hi, decide_eq_false hne, Bool.false_or]
  | false => rw [get_unset hset (by omega), h i hi, Bool.false_and]

theorem exists_set_value (b : BitSet size) {ind : ℕ} (value : Bool) (hind : ind < size)
    (hsize : size ≤ 2 ^ 31) : ∃ b', b.set ind value = some b' := by
  have hin : InStorage size ind :=
    (inStorage_iff (by omega)).mpr (Nat.lt_of_lt_of_le hind (le_capacity hsize))
  rw [BitSet.set, if_pos hin]
  cases value <;> exact ⟨_, rfl⟩

theorem Clean.andAssign (h : b.Clean) (rhs : BitSet size) : (b.andAssign rhs).Clean := fun i hi => by
  rw [get_andAssign, h i hi, Bool.false_and]

theorem Clean.orAssign (h : b.Clean) (hrhs : rhs.Clean) : (b.orAssign rhs).Clean := fun i hi => by
  rw [get_orAssign, h i hi, hrhs i hi, Bool.false_or]

/-- The last bit of the size has no unused bit above it, or is not set. -/
def Fits (b : BitSet size) : Prop := size % 64 = 0 ∨ b.get (size - 1) = false

instance (b : BitSet size) : Decidable b.Fits := inferInstanceAs (Decidable (_ ∨ _))

/-- A shift leaves the unused bits zero exactly if the last bit of the size is not pushed into them. -/
theorem Clean.shiftRight_iff (h : b.Clean) (hpos : 0 < size) (hshift : b.shiftRight = some b') :
    b'.Clean ↔ b.Fits := by
  obtain ⟨c, hc, hget⟩ := b.shiftRight_get hpos
  obtain rfl := Option.some.inj (hc.symm.trans hshift)
  have hroom : size < 64 * wordSize size ↔ size % 64 ≠ 0 := by
    rw [wordSize]
    omega
  constructor
  · intro hclean
    by_cases hwhole : size % 64 = 0
    · exact .inl hwhole
    · have hbit := hclean size (Nat.le_refl _)
      rw [hget, decide_eq_true hpos, decide_eq_true (hroom.mpr hwhole)] at hbit
      exact .inr (by simpa using hbit)
  · intro hfits i hi
    rw [hget]
    rcases Nat.eq_or_lt_of_le hi with rfl | hlt
    · rcases hfits with hwhole | hbit
      · rw [decide_eq_false fun hlt => hroom.mp hlt hwhole, Bool.and_false, Bool.false_and]
      · rw [hbit, Bool.and_false]
    · rw [h (i - 1) (by omega), Bool.and_false]

/-! ### Histories -/

/-- How a bit set was made. -/
inductive Made (size : ℕ) where
  /-- The constructor. -/
  | new
  /-- `set`, with an index that meets the assertion. -/
  | set (b : Made size) (ind : ℕ) (value : Bool) (h : ind < size)
  /-- `shift_right`. -/
  | shiftRight (b : Made size)
  /-- `operator&=`. -/
  | andAssign (b rhs : Made size)
  /-- `operator|=`. -/
  | orAssign (b rhs : Made size)

namespace Made

/-- The bit set that is there at the end, unless an operation has written outside the storage. -/
def value : Made size → Option (BitSet size)
  | .new => some (.new size)
  | .set b ind value _ => b.value.bind fun b => b.set ind value
  | .shiftRight b => b.value.bind BitSet.shiftRight
  | .andAssign b rhs => b.value.bind fun b => rhs.value.map b.andAssign
  | .orAssign b rhs => b.value.bind fun b => rhs.value.map b.orAssign

/-- The two ways agree in every state that was reached. -/
def Agree : Made size → Prop
  | .new => (BitSet.new size).Agrees
  | .set b ind value h => b.Agree ∧ ∃ s, (Made.set b ind value h).value = some s ∧ s.Agrees
  | .shiftRight b => b.Agree ∧ ∃ s, b.shiftRight.value = some s ∧ s.Agrees
  | .andAssign b rhs => b.Agree ∧ rhs.Agree ∧ ∃ s, (b.andAssign rhs).value = some s ∧ s.Agrees
  | .orAssign b rhs => b.Agree ∧ rhs.Agree ∧ ∃ s, (b.orAssign rhs).value = some s ∧ s.Agrees

/-- No shift pushes a bit into the unused bits. -/
def Shifts : Made size → Prop
  | .new => True
  | .set b _ _ _ => b.Shifts
  | .shiftRight b => b.Shifts ∧ ∀ s, b.value = some s → s.Fits
  | .andAssign b rhs => b.Shifts ∧ rhs.Shifts
  | .orAssign b rhs => b.Shifts ∧ rhs.Shifts

theorem Agree.exists_value {h : Made size} (hagree : h.Agree) : ∃ s, h.value = some s ∧ s.Agrees := by
  cases h with
  | new => exact ⟨_, rfl, hagree⟩
  | set b ind value hind => exact hagree.2
  | shiftRight b => exact hagree.2
  | andAssign b rhs => exact hagree.2.2
  | orAssign b rhs => exact hagree.2.2

/-- **Whatever is done before, the two ways agree** as long as no shift pushes a bit into the unused bits. -/
theorem agree_of_shifts (hpos : 0 < size) (hsize : size ≤ 2 ^ 31) {h : Made size} (hshifts : h.Shifts) :
    h.Agree := by
  induction h with
  | new => exact (agrees_iff_clean _).mpr ⟨hsize, clean_new⟩
  | set b ind value hind ih =>
    obtain ⟨s, hs, hagrees⟩ := (ih hshifts).exists_value
    obtain ⟨s', hs'⟩ := s.exists_set_value value hind hsize
    have hclean := ((agrees_iff_clean s).mp hagrees).2
    exact ⟨ih hshifts, s', by rw [Made.value, hs]; exact hs',
      (agrees_iff_clean s').mpr ⟨hsize, hclean.set hind hsize hs'⟩⟩
  | shiftRight b ih =>
    obtain ⟨s, hs, hagrees⟩ := (ih hshifts.1).exists_value
    obtain ⟨s', hs', -⟩ := s.shiftRight_get hpos
    have hclean := ((agrees_iff_clean s).mp hagrees).2
    exact ⟨ih hshifts.1, s', by rw [Made.value, hs]; exact hs',
      (agrees_iff_clean s').mpr ⟨hsize, (hclean.shiftRight_iff hpos hs').mpr (hshifts.2 s hs)⟩⟩
  | andAssign b rhs ih ihrhs =>
    obtain ⟨s, hs, hagrees⟩ := (ih hshifts.1).exists_value
    obtain ⟨t, ht, -⟩ := (ihrhs hshifts.2).exists_value
    have hclean := ((agrees_iff_clean s).mp hagrees).2
    exact ⟨ih hshifts.1, ihrhs hshifts.2, s.andAssign t, by rw [Made.value, hs, ht]; rfl,
      (agrees_iff_clean _).mpr ⟨hsize, hclean.andAssign t⟩⟩
  | orAssign b rhs ih ihrhs =>
    obtain ⟨s, hs, hagrees⟩ := (ih hshifts.1).exists_value
    obtain ⟨t, ht, hagrees'⟩ := (ihrhs hshifts.2).exists_value
    have hclean := ((agrees_iff_clean s).mp hagrees).2
    exact ⟨ih hshifts.1, ihrhs hshifts.2, s.orAssign t, by rw [Made.value, hs, ht]; rfl,
      (agrees_iff_clean _).mpr ⟨hsize, hclean.orAssign ((agrees_iff_clean t).mp hagrees').2⟩⟩

/-- A history in which the two ways agree has no shift that pushes a bit into the unused bits. -/
theorem Agree.shifts (hpos : 0 < size) {h : Made size} (hagree : h.Agree) : h.Shifts := by
  induction h with
  | new => trivial
  | set b ind value hind ih => exact ih hagree.1
  | shiftRight b ih =>
    refine ⟨ih hagree.1, ?_⟩
    intro s hs
    obtain ⟨t, ht, hagrees⟩ := hagree.1.exists_value
    obtain rfl := Option.some.inj (hs.symm.trans ht)
    obtain ⟨s', hs', hagrees'⟩ := hagree.2
    rw [Made.value, hs] at hs'
    exact (((agrees_iff_clean s).mp hagrees).2.shiftRight_iff hpos hs').mp ((agrees_iff_clean s').mp hagrees').2
  | andAssign b rhs ih ihrhs => exact ⟨ih hagree.1, ihrhs hagree.2.1⟩
  | orAssign b rhs ih ihrhs => exact ⟨ih hagree.1, ihrhs hagree.2.1⟩

/-- **The two ways agree in every state of a history** exactly if the indices fit an `int` and no shift pushes
a bit into the unused bits. -/
theorem agree_iff (hpos : 0 < size) (h : Made size) : h.Agree ↔ size ≤ 2 ^ 31 ∧ h.Shifts := by
  constructor
  · intro hagree
    obtain ⟨s, -, hagrees⟩ := hagree.exists_value
    exact ⟨((agrees_iff_clean s).mp hagrees).1, hagree.shifts hpos⟩
  · rintro ⟨hsize, hshifts⟩
    exact agree_of_shifts hpos hsize hshifts

theorem agree_iff_twoBits : (Made.shiftRight (.set .new 0 true (by decide : 0 < 2))).Agree := by
  refine (agree_iff (by decide) _).mpr ⟨by decide, trivial, ?_⟩
  intro s hs
  obtain rfl := Option.some.inj hs
  exact .inr (by decide)

/-- The only bit of a set is shifted: the words have the bit 1, which is not below the size. -/
theorem not_agree : ¬ ∀ (size : ℕ) (h : Made size), 0 < size → h.Agree := by
  intro h
  have hagree := h 1 (.shiftRight (.set .new 0 true (by decide))) (by decide)
  have hfits := (hagree.shifts (by decide)).2 _ rfl
  exact absurd hfits (by decide)

end Made

end BitSet

end SmppGateway.Routing
