import SmppGateway.Routing.BitSet
import Mathlib.Logic.Function.Basic

/-!
# The trie matcher

`trie_matcher` (`src/routing/smpp/trie_matcher.cpp`): a trie over printable
characters. A pattern is entered under a tag; a node carries two bit sets of tags,
`mark_prefix` for patterns ending in `'*'` and `mark_Complete` for the others, and
a lookup collects the prefix marks along its path and the complete marks at its end.

## The model

The two child arrays of a node are functions of the index, `childrenAlphabet` an
option because the array is allocated on first use. A character selects its child
through `alphabets_map_`, which the constructor fills with consecutive numbers
for the printable characters that are neither upper-case letters nor digits; the
entry `-1` is `none`. A `char` is signed, so a byte from `0x80` on becomes an index
far past the table and `.at` throws.

`insert_node` allocates nodes before it finds an invalid character further on, so
the model returns the trie together with the outcome. `byte_counts_`, which only
`get_trie_size` reads, is left out.

## What is proved

* `insertNode_marked`, `insertNode_fault` — an insertion adds one mark at one
  path, and one that throws adds none.
* `traceNodes_get` — a walk collects the prefix marks above and at its end, and the
  complete marks at its end.
* `traceNodes_ok_iff` — a walk throws when it comes to a character the trie does not take.
-/

namespace SmppGateway.Routing

open SmppGateway.Foundation

/-- `trie_matcher::entry_type`. -/
inductive EntryType where
  /-- The entry matches every word that starts with it. -/
  | pre
  /-- The entry matches only itself. -/
  | complete
  deriving DecidableEq, Repr

/-- The cell of a node's child arrays that a character selects. -/
inductive Slot where
  /-- A cell of `childrenAlphabet`. -/
  | alphabet (i : ℕ)
  /-- A cell of `children`. -/
  | digit (d : ℕ)
  deriving DecidableEq, Repr

/-- The characters the constructor numbers. -/
def isAlphabet (i : ℕ) : Bool :=
  isPrint i.toUInt8 && !isUpper i.toUInt8 && !isDigit i.toUInt8

/-- `ind` when the constructor's loop comes to character `i`. -/
def alphabetInd : ℕ → ℕ
  | 0 => 0
  | i + 1 => if isAlphabet i then alphabetInd i + 1 else alphabetInd i

/-- `alphabets_map_`, with `none` for `-1`. -/
def alphabetsMap (i : ℕ) : Option ℕ := if isAlphabet i then some (alphabetInd i) else none

/-- The text of `std::array::at` on an index past the end. -/
def atText : Bytes := ascii "array::at"

/-- The text `insert_node` and `trace_nodes` throw with. -/
def invalidText (word : Bytes) : Bytes := ascii "Invalid character in query word: " ++ word

/-- The cell selected by `word[index]`, or the exception. -/
def slotOf (word : Bytes) (ch : UInt8) : Except Fault Slot :=
  if ch.toNat < 128 then
    match alphabetsMap ch.toNat with
    | some alphabetIndex => .ok (.alphabet alphabetIndex)
    | none =>
      if isDigit ch then .ok (.digit (ch.toNat - 48)) else .error (.exception (invalidText word))
  else .error (.exception atText)

/-- The characters the trie takes. -/
def allowed (ch : UInt8) : Bool := isPrint ch && !isUpper ch

/-- The cell of a character the trie takes. -/
def slot (ch : UInt8) : Slot :=
  if isAlphabet ch.toNat then .alphabet (alphabetInd ch.toNat) else .digit (ch.toNat - 48)

/-- The cells a word passes through. -/
def path (word : Bytes) : List Slot := word.map slot

theorem isAlphabet_toNat (ch : UInt8) : isAlphabet ch.toNat = (allowed ch && !isDigit ch) := by
  simp [isAlphabet, allowed]

theorem isDigit_allowed {ch : UInt8} (h : isDigit ch = true) : allowed ch = true := by
  simp only [isDigit, Bool.and_eq_true, decide_eq_true_eq] at h
  simp only [allowed, isPrint, isUpper, Bool.and_eq_true, Bool.not_eq_true', Bool.and_eq_false_iff,
    decide_eq_true_eq, decide_eq_false_iff_not]
  omega

theorem slotOf_of_allowed (word : Bytes) {ch : UInt8} (h : allowed ch = true) :
    slotOf word ch = .ok (slot ch) := by
  have hlt : ch.toNat < 128 := by
    simp only [allowed, isPrint, Bool.and_eq_true, decide_eq_true_eq] at h
    omega
  rw [slotOf, if_pos hlt, slot, alphabetsMap, isAlphabet_toNat, h]
  cases hd : isDigit ch <;> simp

/-- A character the trie does not take is an exception. -/
theorem slotOf_of_not_allowed (word : Bytes) {ch : UInt8} (h : allowed ch = false) :
    ∃ what, slotOf word ch = .error (.exception what) := by
  have hd : isDigit ch = false := Bool.eq_false_iff.mpr fun hd => by simp [isDigit_allowed hd] at h
  rw [slotOf, alphabetsMap, isAlphabet_toNat, h, hd]
  split <;> exact ⟨_, rfl⟩

theorem alphabetInd_mono {i j : ℕ} (h : i ≤ j) : alphabetInd i ≤ alphabetInd j := by
  induction h with
  | refl => exact le_rfl
  | step _ ih => rw [alphabetInd]; split <;> omega

theorem alphabetInd_lt {i j : ℕ} (hi : isAlphabet i = true) (h : i < j) :
    alphabetInd i < alphabetInd j := by
  have hsucc : alphabetInd (i + 1) = alphabetInd i + 1 := by rw [alphabetInd, if_pos hi]
  have := alphabetInd_mono (show i + 1 ≤ j from h)
  omega

/-- The array of alphabet children has 59 cells, and every index stays inside it. -/
theorem alphabetsMap_lt {i k : ℕ} (hi : i < 256) (h : alphabetsMap i = some k) : k < 59 := by
  have htotal : alphabetInd 256 = 59 := by decide +kernel
  rw [alphabetsMap] at h
  split at h
  · rename_i ha
    cases h
    exact htotal ▸ alphabetInd_lt ha hi
  · cases h

/-- Different characters select different cells. -/
theorem slot_inj {a b : UInt8} (ha : allowed a = true) (hb : allowed b = true) (h : slot a = slot b) :
    a = b := by
  rw [slot, slot, isAlphabet_toNat, isAlphabet_toNat, ha, hb] at h
  cases hda : isDigit a <;> cases hdb : isDigit b <;> simp only [hda, hdb, Bool.not_false,
    Bool.not_true, Bool.and_self, Bool.and_false, Bool.false_eq_true, ↓reduceIte, Slot.alphabet.injEq,
    Slot.digit.injEq, reduceCtorEq] at h
  · rcases lt_trichotomy a.toNat b.toNat with hlt | heq | hgt
    · have := alphabetInd_lt (by rw [isAlphabet_toNat, ha, hda]; rfl) hlt
      omega
    · exact UInt8.toNat_inj.mp heq
    · have := alphabetInd_lt (by rw [isAlphabet_toNat, hb, hdb]; rfl) hgt
      omega
  · simp only [isDigit, Bool.and_eq_true, decide_eq_true_eq] at hda hdb
    exact UInt8.toNat_inj.mp (by omega)

theorem path_inj {v w : Bytes} (hv : ∀ ch ∈ v, allowed ch = true) (hw : ∀ ch ∈ w, allowed ch = true)
    (h : path v = path w) : v = w := by
  induction v generalizing w with
  | nil => simpa [path, eq_comm] using h
  | cons a v ih =>
    cases w with
    | nil => simp [path] at h
    | cons b w =>
      simp only [path, List.map_cons, List.cons.injEq] at h
      rw [slot_inj (hv a (by simp)) (hw b (by simp)) h.1,
        ih (fun ch hc => hv ch (by simp [hc])) (fun ch hc => hw ch (by simp [hc])) h.2]

/-- One word's path begins another's exactly when the word does. -/
theorem path_prefix_iff {v w : Bytes} (hv : ∀ ch ∈ v, allowed ch = true)
    (hw : ∀ ch ∈ w, allowed ch = true) : path v <+: path w ↔ v <+: w := by
  constructor
  · intro h
    rw [List.prefix_iff_eq_take] at h ⊢
    have hlen : (path v).length = v.length := List.length_map _
    rw [hlen, path, path, ← List.map_take] at h
    exact path_inj hv (fun ch hc => hw ch (List.mem_of_mem_take hc)) h
  · exact fun h => h.map _

/-- `trie_matcher::node`. -/
structure Node (categoryCount : ℕ) where
  /-- `children`. -/
  children : ℕ → Option (Node categoryCount)
  /-- `childrenAlphabet`, `none` for the null pointer. -/
  childrenAlphabet : Option (ℕ → Option (Node categoryCount))
  /-- `mark_Complete`. -/
  markComplete : BitSet categoryCount
  /-- `mark_prefix`. -/
  markPrefix : BitSet categoryCount

namespace Node

variable {c : ℕ}

/-- A node with no children and no marks. -/
def new (c : ℕ) : Node c := ⟨fun _ => none, none, BitSet.new c, BitSet.new c⟩

/-- The child in a cell. -/
def child (n : Node c) : Slot → Option (Node c)
  | .alphabet i => n.childrenAlphabet.bind (· i)
  | .digit d => n.children d

/-- Put a child into a cell, allocating the alphabet array if there is none. -/
def setChild (n : Node c) (s : Slot) (m : Node c) : Node c :=
  match s with
  | .alphabet i =>
    { n with
      childrenAlphabet := some (Function.update (n.childrenAlphabet.getD fun _ => none) i (some m)) }
  | .digit d => { n with children := Function.update n.children d (some m) }

/-- The marks of one kind. -/
def marks (n : Node c) : EntryType → BitSet c
  | .pre => n.markPrefix
  | .complete => n.markComplete

/-- Set a tag among the marks of one kind. -/
def mark (n : Node c) (tag : ℕ) (entryType : EntryType) : Node c × Except Fault Unit :=
  match entryType with
  | .pre =>
    match n.markPrefix.set tag with
    | some b => ({ n with markPrefix := b }, .ok ())
    | none => (n, .error .outOfBounds)
  | .complete =>
    match n.markComplete.set tag with
    | some b => ({ n with markComplete := b }, .ok ())
    | none => (n, .error .outOfBounds)

/-- `insert_node`, from the node reached on: `rest` is the word from the index on. -/
def insertNode (n : Node c) (word : Bytes) (rest : Bytes) (tag : ℕ) (entryType : EntryType) :
    Node c × Except Fault Unit :=
  match rest with
  | [] => (n, .error (.exception (invalidText word)))
  | ch :: rest =>
    match slotOf word ch with
    | .error e => (n, .error e)
    | .ok s =>
      let m := (n.child s).getD (new c)
      let (m, out) :=
        match rest with
        | [] => m.mark tag entryType
        | _ :: _ => insertNode m word rest tag entryType
      (n.setChild s m, out)

/-- `trace_nodes`, from the node reached on. -/
def traceNodes (n : Option (Node c)) (word : Bytes) (rest : Bytes) (result : BitSet c) :
    Except Fault (BitSet c) :=
  match n with
  | none => .ok result
  | some n =>
    let result := result.orAssign n.markPrefix
    match rest with
    | [] => .ok (result.orAssign n.markComplete)
    | ch :: rest =>
      match slotOf word ch with
      | .error e => .error e
      | .ok s => traceNodes (n.child s) word rest result

/-! ### The marks of a trie -/

/-- A tag is among the marks of one kind at the node a path leads to; a missing node
has no marks. -/
def Marked (n : Node c) (entryType : EntryType) : List Slot → ℕ → Prop
  | [], t => (n.marks entryType).get t = true
  | s :: p, t => ((n.child s).getD (new c)).Marked entryType p t

@[simp]
theorem not_marked_new (entryType : EntryType) (p : List Slot) (t : ℕ) :
    ¬ (new c).Marked entryType p t := by
  induction p with
  | nil => cases entryType <;> simp [Marked, marks, new]
  | cons s p ih =>
    have : (new c).child s = none := by cases s <;> rfl
    simpa [Marked, this] using ih

theorem child_setChild (n m : Node c) (s s' : Slot) :
    (n.setChild s m).child s' = if s' = s then some m else n.child s' := by
  cases s <;> cases s' <;> simp [setChild, child, Function.update_apply]
  cases n.childrenAlphabet <;> simp

/-- What a child's new contents mean for the node above it. -/
theorem marked_setChild {n m : Node c} {s : Slot} {P : EntryType → List Slot → ℕ → Prop}
    (h : ∀ ty q t, m.Marked ty q t ↔ ((n.child s).getD (new c)).Marked ty q t ∨ P ty q t)
    (ty : EntryType) (q : List Slot) (t : ℕ) :
    (n.setChild s m).Marked ty q t ↔ n.Marked ty q t ∨ ∃ q', q = s :: q' ∧ P ty q' t := by
  cases q with
  | nil => cases s <;> cases ty <;> simp [Marked, marks, setChild]
  | cons s' q =>
    rw [Marked, Marked, child_setChild]
    by_cases hs : s' = s
    · subst hs
      simpa using h ty q t
    · simp [hs]

/-- Below the capacity, `mark` adds one mark at the node itself. -/
theorem mark_marked (n : Node c) {tag : ℕ} (h : tag < BitSet.capacity c) (entryType : EntryType) :
    (n.mark tag entryType).2 = .ok () ∧ ∀ ty q t, (n.mark tag entryType).1.Marked ty q t ↔
      n.Marked ty q t ∨ (ty = entryType ∧ q = [] ∧ t = tag) := by
  have h32 : tag < 2 ^ 32 := lt_trans h (BitSet.capacity_lt c)
  cases entryType with
  | pre =>
    obtain ⟨b', hb⟩ := n.markPrefix.exists_set h
    simp only [mark, hb, true_and]
    intro ty q t
    cases q with
    | nil => cases ty <;> simp [Marked, marks, BitSet.get_set hb h32]
    | cons s q => simp [Marked, child]
  | complete =>
    obtain ⟨b', hb⟩ := n.markComplete.exists_set h
    simp only [mark, hb, true_and]
    intro ty q t
    cases q with
    | nil => cases ty <;> simp [Marked, marks, BitSet.get_set hb h32]
    | cons s q => simp [Marked, child]

/-- With a tag that is not in the storage, `mark` is an access outside it, and the node stays as it
is. -/
theorem mark_outOfBounds (n : Node c) {tag : ℕ} (h : ¬ BitSet.InStorage c tag) (entryType : EntryType) :
    n.mark tag entryType = (n, .error .outOfBounds) := by
  cases entryType <;> simp [mark, BitSet.set_eq_none h]

/-- `insert_node` on a word that goes on. -/
theorem insertNode_cons_cons (n : Node c) (word : Bytes) {ch ch' : UInt8} {rest : Bytes}
    (h : allowed ch = true) (tag : ℕ) (entryType : EntryType) :
    n.insertNode word (ch :: ch' :: rest) tag entryType =
      let r := ((n.child (slot ch)).getD (new c)).insertNode word (ch' :: rest) tag entryType
      (n.setChild (slot ch) r.1, r.2) := by
  rw [insertNode, slotOf_of_allowed word h]

theorem insertNode_singleton (n : Node c) (word : Bytes) {ch : UInt8} (h : allowed ch = true)
    (tag : ℕ) (entryType : EntryType) :
    n.insertNode word [ch] tag entryType =
      let r := ((n.child (slot ch)).getD (new c)).mark tag entryType
      (n.setChild (slot ch) r.1, r.2) := by
  rw [insertNode, slotOf_of_allowed word h]

/-- **An insertion** of a word the trie takes adds one mark: the tag, at the end of the
word's path. -/
theorem insertNode_marked (n : Node c) (word : Bytes) {rest : Bytes} (hne : rest ≠ [])
    (hrest : ∀ ch ∈ rest, allowed ch = true) {tag : ℕ} (htag : tag < BitSet.capacity c)
    (entryType : EntryType) :
    (n.insertNode word rest tag entryType).2 = .ok () ∧ ∀ ty q t,
      (n.insertNode word rest tag entryType).1.Marked ty q t ↔
        n.Marked ty q t ∨ (ty = entryType ∧ q = path rest ∧ t = tag) := by
  induction rest generalizing n with
  | nil => exact absurd rfl hne
  | cons ch rest ih =>
    have hch : allowed ch = true := hrest ch (by simp)
    cases rest with
    | nil =>
      obtain ⟨hok, hm⟩ := mark_marked ((n.child (slot ch)).getD (new c)) htag entryType
      rw [insertNode_singleton n word hch]
      refine ⟨hok, ?_⟩
      intro ty q t
      rw [marked_setChild hm]
      simp [path, and_left_comm]
    | cons ch' rest =>
      obtain ⟨hok, hm⟩ := ih ((n.child (slot ch)).getD (new c)) (by simp)
        fun x hx => hrest x (List.mem_cons_of_mem _ hx)
      rw [insertNode_cons_cons n word hch]
      refine ⟨hok, ?_⟩
      intro ty q t
      rw [marked_setChild hm]
      simp [path, and_left_comm]

/-- An insertion that does not return normally adds no mark: neither one that throws at a
character the trie does not take, nor one whose tag is not in the storage. -/
theorem insertNode_fault (n : Node c) (word : Bytes) {rest : Bytes} (tag : ℕ) (entryType : EntryType)
    (h : (∃ ch ∈ rest, allowed ch = false) ∨ ¬ BitSet.InStorage c tag) :
    ∀ ty q t, (n.insertNode word rest tag entryType).1.Marked ty q t ↔ n.Marked ty q t := by
  induction rest generalizing n with
  | nil => intro ty q t; rw [insertNode]
  | cons ch rest ih =>
    intro ty q t
    cases hch : allowed ch with
    | false =>
      obtain ⟨what, hw⟩ := slotOf_of_not_allowed word hch
      rw [insertNode, hw]
    | true =>
      cases rest with
      | nil =>
        have htag : ¬ BitSet.InStorage c tag := by
          rcases h with ⟨x, hx, hf⟩ | h
          · rw [List.mem_singleton.mp hx, hch] at hf
            cases hf
          · exact h
        rw [insertNode_singleton n word hch, mark_outOfBounds _ htag,
          marked_setChild (P := fun _ _ _ => False) (by simp)]
        simp
      | cons ch' rest =>
        have h' : (∃ x ∈ ch' :: rest, allowed x = false) ∨ ¬ BitSet.InStorage c tag := by
          rcases h with ⟨x, hx, hf⟩ | h
          · rcases List.mem_cons.mp hx with rfl | hx
            · rw [hch] at hf; cases hf
            · exact .inl ⟨x, hx, hf⟩
          · exact .inr h
        rw [insertNode_cons_cons n word hch, marked_setChild (P := fun _ _ _ => False)
          (fun ty q t => by simpa using ih _ h' ty q t)]
        simp

/-- An insertion of a word with a character the trie does not take throws. -/
theorem insertNode_exception (n : Node c) (word : Bytes) {rest : Bytes} (tag : ℕ)
    (entryType : EntryType) (h : ∃ ch ∈ rest, allowed ch = false) :
    ∃ what, (n.insertNode word rest tag entryType).2 = .error (.exception what) := by
  induction rest generalizing n with
  | nil => obtain ⟨x, hx, -⟩ := h; cases hx
  | cons ch rest ih =>
    cases hch : allowed ch with
    | false =>
      obtain ⟨what, hw⟩ := slotOf_of_not_allowed word hch
      exact ⟨what, by rw [insertNode, hw]⟩
    | true =>
      obtain ⟨x, hx, hf⟩ := h
      rcases List.mem_cons.mp hx with rfl | hx
      · rw [hch] at hf; cases hf
      · obtain ⟨ch', rest, rfl⟩ := List.exists_cons_of_ne_nil (List.ne_nil_of_mem hx)
        rw [insertNode_cons_cons n word hch]
        exact ih _ ⟨x, hx, hf⟩

/-- An insertion whose tag is not in the storage is an access outside it. -/
theorem insertNode_outOfBounds (n : Node c) (word : Bytes) {rest : Bytes} (hne : rest ≠ [])
    (hrest : ∀ ch ∈ rest, allowed ch = true) {tag : ℕ} (htag : ¬ BitSet.InStorage c tag)
    (entryType : EntryType) : (n.insertNode word rest tag entryType).2 = .error .outOfBounds := by
  induction rest generalizing n with
  | nil => exact absurd rfl hne
  | cons ch rest ih =>
    have hch : allowed ch = true := hrest ch (by simp)
    cases rest with
    | nil => rw [insertNode_singleton n word hch, mark_outOfBounds _ htag]
    | cons ch' rest =>
      rw [insertNode_cons_cons n word hch]
      exact ih _ (by simp) fun x hx => hrest x (List.mem_cons_of_mem _ hx)

/-- **A walk** over a word the trie takes adds to the result the prefix marks of every node it
passes and the complete marks of the node it ends at. -/
theorem traceNodes_get (n : Option (Node c)) (word : Bytes) {rest : Bytes}
    (hrest : ∀ ch ∈ rest, allowed ch = true) (result : BitSet c) :
    ∃ r, traceNodes n word rest result = .ok r ∧ ∀ t, r.get t = true ↔ result.get t = true ∨
      (∃ q, q <+: path rest ∧ (n.getD (new c)).Marked .pre q t) ∨
        (n.getD (new c)).Marked .complete (path rest) t := by
  induction rest generalizing n result with
  | nil =>
    cases n with
    | none => exact ⟨result, by simp [traceNodes], by simp⟩
    | some n =>
      refine ⟨_, by rw [traceNodes], ?_⟩
      intro t
      simp [path, Marked, marks, List.prefix_nil, or_assoc]
  | cons ch rest ih =>
    have hch : allowed ch = true := hrest ch (by simp)
    cases n with
    | none => exact ⟨result, by simp [traceNodes], by simp⟩
    | some n =>
      obtain ⟨r, hr, hget⟩ := ih (n.child (slot ch)) (fun x hx => hrest x (List.mem_cons_of_mem _ hx))
        (result.orAssign n.markPrefix)
      refine ⟨r, by rw [traceNodes]; simpa [slotOf_of_allowed word hch] using hr, ?_⟩
      intro t
      have hpath : path (ch :: rest) = slot ch :: path rest := rfl
      have hroot : n.markPrefix.get t = true ↔ n.Marked .pre [] t := Iff.rfl
      rw [hget, BitSet.get_orAssign, Bool.or_eq_true, hroot, hpath]
      constructor
      · rintro ((h | h) | ⟨q, hq, h⟩ | h)
        · exact .inl h
        · exact .inr (.inl ⟨[], List.nil_prefix, h⟩)
        · exact .inr (.inl ⟨slot ch :: q, List.cons_prefix_cons.mpr ⟨rfl, hq⟩, h⟩)
        · exact .inr (.inr h)
      · rintro (h | ⟨q, hq, h⟩ | h)
        · exact .inl (.inl h)
        · cases q with
          | nil => exact .inl (.inr h)
          | cons s q =>
            obtain ⟨rfl, hq'⟩ := List.cons_prefix_cons.mp hq
            exact .inr (.inl ⟨q, hq', h⟩)
        · exact .inr (.inr h)

/-! ### Walks that throw -/

/-- The node a path leads to. -/
def descend (n : Node c) : List Slot → Option (Node c)
  | [] => some n
  | s :: p => (n.child s).bind fun m => m.descend p

/-- The walk over a word has left the trie before it comes to a character the trie does not take. -/
def Escapes (n : Node c) (word : Bytes) : Prop :=
  ∀ u ch v, word = u ++ ch :: v → (∀ x ∈ u, allowed x = true) → allowed ch = false →
    n.descend (path u) = none

theorem escapes_of_allowed (n : Node c) {word : Bytes} (h : ∀ ch ∈ word, allowed ch = true) :
    n.Escapes word := by
  rintro u ch v rfl - hch
  rw [h ch (by simp)] at hch
  cases hch

theorem not_escapes_cons (n : Node c) {ch : UInt8} (rest : Bytes) (h : allowed ch = false) :
    ¬ n.Escapes (ch :: rest) := by
  intro hesc
  cases hesc [] ch rest rfl (by simp) h

theorem escapes_cons (n : Node c) {ch : UInt8} (rest : Bytes) (h : allowed ch = true) :
    n.Escapes (ch :: rest) ↔ ∀ m, n.child (slot ch) = some m → m.Escapes rest := by
  constructor
  · rintro hesc m hm u ch' v rfl hu hch'
    have hnone := hesc (ch :: u) ch' v rfl (fun x hx => (List.mem_cons.mp hx).elim (· ▸ h) (hu x)) hch'
    simpa [path, descend, hm] using hnone
  · intro hesc u ch' v heq hu hch'
    cases u with
    | nil =>
      obtain ⟨rfl, -⟩ := List.cons.inj heq
      rw [h] at hch'
      cases hch'
    | cons x u =>
      obtain ⟨rfl, hrest⟩ := List.cons.inj heq
      have hpath : path (ch :: u) = slot ch :: path u := rfl
      rw [hpath, descend]
      cases hm : n.child (slot ch) with
      | none => rfl
      | some m => exact hesc m hm u ch' v hrest (fun y hy => hu y (List.mem_cons_of_mem _ hy)) hch'

/-- **A walk throws** exactly when it comes to a character the trie does not take. -/
theorem traceNodes_ok_iff (n : Node c) (word : Bytes) (rest : Bytes) (result : BitSet c) :
    (∃ r, traceNodes (some n) word rest result = .ok r) ↔ n.Escapes rest := by
  induction rest generalizing n result with
  | nil => exact ⟨fun _ => escapes_of_allowed n (by simp), fun _ => ⟨_, rfl⟩⟩
  | cons ch rest ih =>
    cases hch : allowed ch with
    | false =>
      obtain ⟨what, hw⟩ := slotOf_of_not_allowed word hch
      have hstep : traceNodes (some n) word (ch :: rest) result = .error (.exception what) := by
        simp [traceNodes, hw]
      refine ⟨?_, fun hesc => absurd hesc (not_escapes_cons n rest hch)⟩
      intro h
      obtain ⟨r, hr⟩ := h
      rw [hstep] at hr
      cases hr
    | true =>
      have hstep : traceNodes (some n) word (ch :: rest) result =
          traceNodes (n.child (slot ch)) word rest (result.orAssign n.markPrefix) := by
        simp [traceNodes, slotOf_of_allowed word hch]
      rw [hstep, escapes_cons n rest hch]
      cases hm : n.child (slot ch) with
      | none =>
        refine ⟨?_, fun _ => ⟨result.orAssign n.markPrefix, by simp [traceNodes]⟩⟩
        intro _ m hm'
        cases hm'
      | some m =>
        rw [ih]
        refine ⟨?_, fun h => h m rfl⟩
        intro h m' hm'
        obtain rfl := Option.some.inj hm'
        exact h

end Node

/-! ### The matcher -/

/-- `trie_matcher`. -/
structure TrieMatcher (categoryCount : ℕ) where
  /-- `root_`. -/
  root : Node categoryCount

/-- The character `'*'`. -/
def star : UInt8 := 42

/-- The kind and the word a pattern is entered under. -/
def entry (pattern : Bytes) : EntryType × Bytes :=
  if pattern.getLast? = some star then (.pre, pattern.dropLast) else (.complete, pattern)

namespace TrieMatcher

variable {c : ℕ}

/-- What the constructor leaves when it returns. -/
def new (c : ℕ) : TrieMatcher c := ⟨Node.new c⟩

/-- The constructor, whose root has two bit sets. -/
def create (c : ℕ) : Except Fault (TrieMatcher c) := (BitSet.create c).map fun _ => new c

/-- `add_entry` with the kind of entry given. -/
def addEntryAs (m : TrieMatcher c) (word : Bytes) (tag : ℕ) (entryType : EntryType) :
    TrieMatcher c × Except Fault Unit :=
  let (root, out) :=
    if word.length = 0 then m.root.mark tag entryType else m.root.insertNode word word tag entryType
  (⟨root⟩, out)

/-- `add_entry`, which takes the kind from the last character. It reads that character
without a check, so an empty pattern is an access outside the string. -/
def addEntry (m : TrieMatcher c) (pattern : Bytes) (tag : ℕ) : TrieMatcher c × Except Fault Unit :=
  match pattern.getLast? with
  | none => (m, .error .outOfBounds)
  | some ch =>
    if ch = star then m.addEntryAs pattern.dropLast tag .pre else m.addEntryAs pattern tag .complete

/-- `match`. -/
def matchQuery (m : TrieMatcher c) (query : Bytes) : Except Fault (BitSet c) :=
  let query := lower query
  let ret := BitSet.new c
  if query = [star] then .ok (ret.orAssign m.root.markPrefix)
  else if query.length = 0 then .ok (ret.orAssign m.root.markComplete)
  else Node.traceNodes (some m.root) query query ret

theorem create_of_eq_zero (hc : c = 0) : create c = .error BitSet.badArrayNewLength := by
  rw [create, BitSet.create_eq, if_pos hc]
  rfl

theorem create_of_pos (hc : 0 < c) : create c = .ok (new c) := by
  rw [create, BitSet.create_eq, if_neg hc.ne']
  rfl

/-- A tag is among the marks of one kind where a path ends. -/
def Marked (m : TrieMatcher c) (entryType : EntryType) (p : List Slot) (t : ℕ) : Prop :=
  m.root.Marked entryType p t

@[simp]
theorem not_marked_new (entryType : EntryType) (p : List Slot) (t : ℕ) :
    ¬ (new c).Marked entryType p t :=
  Node.not_marked_new entryType p t

theorem addEntryAs_marked (m : TrieMatcher c) {word : Bytes} (hword : ∀ ch ∈ word, allowed ch = true)
    {tag : ℕ} (htag : tag < BitSet.capacity c) (entryType : EntryType) :
    (m.addEntryAs word tag entryType).2 = .ok () ∧ ∀ ty q t,
      (m.addEntryAs word tag entryType).1.Marked ty q t ↔
        m.Marked ty q t ∨ (ty = entryType ∧ q = path word ∧ t = tag) := by
  cases word with
  | nil => exact Node.mark_marked m.root htag entryType
  | cons ch rest => exact Node.insertNode_marked m.root _ (by simp) hword htag entryType

theorem addEntryAs_fault (m : TrieMatcher c) {word : Bytes} {tag : ℕ} {entryType : EntryType}
    (h : (∃ ch ∈ word, allowed ch = false) ∨ ¬ BitSet.InStorage c tag) (ty : EntryType)
    (q : List Slot) (t : ℕ) :
    (m.addEntryAs word tag entryType).1.Marked ty q t ↔ m.Marked ty q t := by
  cases word with
  | nil =>
    have htag : ¬ BitSet.InStorage c tag := h.resolve_left (by simp)
    have : m.addEntryAs [] tag entryType = (m, .error .outOfBounds) := by
      simp [addEntryAs, Node.mark_outOfBounds _ htag]
    rw [this]
  | cons ch rest => exact Node.insertNode_fault m.root _ tag entryType h ty q t

end TrieMatcher

/-- A pattern `add_entry` takes: not empty, and of characters the trie takes. -/
def ValidPattern (pattern : Bytes) : Prop := pattern ≠ [] ∧ ∀ ch ∈ pattern, allowed ch = true

instance (pattern : Bytes) : Decidable (ValidPattern pattern) :=
  @instDecidableAnd _ _ _ (List.decidableBAll _ pattern)

theorem mem_entry {pattern : Bytes} {ch : UInt8} (h : ch ∈ (entry pattern).2) : ch ∈ pattern := by
  rw [entry] at h
  split at h
  · exact List.dropLast_subset _ h
  · exact h

theorem ValidPattern.entry_allowed {pattern : Bytes} (h : ValidPattern pattern) :
    ∀ ch ∈ (entry pattern).2, allowed ch = true :=
  fun _ hc => h.2 _ (mem_entry hc)

namespace TrieMatcher

variable {c : ℕ}

theorem addEntry_eq (m : TrieMatcher c) {pattern : Bytes} (h : pattern ≠ []) (tag : ℕ) :
    m.addEntry pattern tag = m.addEntryAs (entry pattern).2 tag (entry pattern).1 := by
  obtain ⟨ch, hch⟩ := Option.isSome_iff_exists.mp (List.getLast?_isSome.mpr h)
  rw [addEntry, hch, entry, hch]
  by_cases hs : ch = star <;> simp [hs]

/-- **Adding a pattern** the trie takes adds one mark: the tag, under the pattern's kind, at the
end of the path of the pattern's word. -/
theorem addEntry_marked (m : TrieMatcher c) {pattern : Bytes} (h : ValidPattern pattern) {tag : ℕ}
    (htag : tag < BitSet.capacity c) :
    (m.addEntry pattern tag).2 = .ok () ∧ ∀ ty q t, (m.addEntry pattern tag).1.Marked ty q t ↔
      m.Marked ty q t ∨ (ty = (entry pattern).1 ∧ q = path (entry pattern).2 ∧ t = tag) := by
  rw [addEntry_eq m h.1]
  exact addEntryAs_marked m h.entry_allowed htag _

/-- Adding a pattern the trie does not take adds no mark and does not return normally; for a
pattern that is not empty it throws. -/
theorem addEntry_exception (m : TrieMatcher c) {pattern : Bytes} (hne : pattern ≠ [])
    (h : ¬ ValidPattern pattern) (tag : ℕ) :
    (∃ what, (m.addEntry pattern tag).2 = .error (.exception what)) ∧
      ∀ ty q t, (m.addEntry pattern tag).1.Marked ty q t ↔ m.Marked ty q t := by
  obtain ⟨ch, hch, hbad⟩ : ∃ ch ∈ pattern, allowed ch = false := by
    by_contra hn
    push Not at hn
    exact h ⟨hne, fun ch hc => by simpa using hn ch hc⟩
  have hmem : ch ∈ (entry pattern).2 := by
    rw [entry]
    split
    · rename_i hlast
      obtain ⟨l, rfl⟩ := List.getLast?_eq_some_iff.mp hlast
      rcases List.mem_append.mp hch with hl | hs
      · simpa using hl
      · rw [List.mem_singleton.mp hs] at hbad
        exact absurd hbad (by decide)
    · exact hch
  rw [addEntry_eq m hne]
  refine ⟨?_, fun ty q t => addEntryAs_fault m (.inl ⟨ch, hmem, hbad⟩) ty q t⟩
  obtain ⟨what, hw⟩ := Node.insertNode_exception m.root (entry pattern).2 tag (entry pattern).1
    ⟨ch, hmem, hbad⟩
  have hlen : (entry pattern).2.length ≠ 0 := by
    simpa using List.ne_nil_of_mem hmem
  exact ⟨what, by simpa [addEntryAs, hlen] using hw⟩

/-- Adding a pattern under a tag that is not in the storage is an access outside it. -/
theorem addEntry_outOfBounds (m : TrieMatcher c) {pattern : Bytes} (h : ValidPattern pattern) {tag : ℕ}
    (htag : ¬ BitSet.InStorage c tag) : (m.addEntry pattern tag).2 = .error .outOfBounds := by
  rw [addEntry_eq m h.1, addEntryAs]
  by_cases hlen : (entry pattern).2.length = 0
  · simp [hlen, Node.mark_outOfBounds _ htag]
  · simp only [hlen, ↓reduceIte]
    exact Node.insertNode_outOfBounds m.root _ (by simpa using hlen) h.entry_allowed htag _

end TrieMatcher

/-! ### What a pattern matches -/

/-- **What a pattern matches**: an empty value matches no pattern, the value `"*"` only the pattern
`"*"`, and otherwise a pattern ending in `'*'` matches the lower-cased values that start with the
rest of it, and any other pattern only a lower-cased value equal to it. -/
def patternMatches (pattern value : Bytes) : Bool :=
  let value := lower value
  if value = [] then false
  else if value = [star] then pattern = [star]
  else if pattern.getLast? = some star then pattern.dropLast.isPrefixOf value
  else pattern = value

theorem allowed_of_mem_lower {value : Bytes} (h : Printable value) {ch : UInt8} (hc : ch ∈ lower value) :
    allowed ch = true := by
  simp [allowed, printable_lower h ch hc, isUpper_of_mem_lower hc]

namespace TrieMatcher

variable {c : ℕ}

/-- The patterns entered under a tag: the tag's marks are exactly those of the patterns. -/
def Entered (m : TrieMatcher c) (patterns : List Bytes) (t : ℕ) : Prop :=
  ∀ ty q, m.Marked ty q t ↔
    ∃ p ∈ patterns, ty = (entry p).1 ∧ q = path (entry p).2

theorem entry_eq_pre {pattern : Bytes} (h : (entry pattern).1 = .pre) :
    pattern = (entry pattern).2 ++ [star] := by
  rw [entry] at h ⊢
  split
  · rename_i hlast
    obtain ⟨l, rfl⟩ := List.getLast?_eq_some_iff.mp hlast
    simp
  · rename_i hlast
    simp [hlast] at h

theorem entry_eq_complete {pattern : Bytes} (h : (entry pattern).1 = .complete) :
    pattern.getLast? ≠ some star ∧ (entry pattern).2 = pattern := by
  rw [entry] at h ⊢
  split <;> rename_i hlast
  · simp [hlast] at h
  · exact ⟨hlast, rfl⟩

/-- The marks a walk collects of a tag: a pattern ending in `'*'` whose word begins the query, or a pattern
equal to it. -/
theorem Entered.walk_iff {m : TrieMatcher c} {patterns : List Bytes} {t : ℕ} (h : m.Entered patterns t)
    (hvalid : ∀ p ∈ patterns, ValidPattern p) {word : Bytes} (hword : ∀ ch ∈ word, allowed ch = true) :
    ((∃ q, q <+: path word ∧ m.Marked .pre q t) ∨ m.Marked .complete (path word) t) ↔
      ∃ p ∈ patterns, (p.getLast? = some star ∧ p.dropLast <+: word) ∨
        (p.getLast? ≠ some star ∧ p = word) := by
  simp only [h .pre, h .complete]
  constructor
  · rintro (⟨q, hq, p, hp, hty, rfl⟩ | ⟨p, hp, hty, hpath⟩)
    · have hprefix := (path_prefix_iff (hvalid p hp).entry_allowed hword).mp hq
      refine ⟨p, hp, .inl ?_⟩
      rw [entry_eq_pre hty.symm]
      simpa using hprefix
    · obtain ⟨hlast, hentry⟩ := entry_eq_complete hty.symm
      refine ⟨p, hp, .inr ⟨hlast, ?_⟩⟩
      rw [hentry] at hpath
      exact (path_inj hword (hvalid p hp).2 hpath).symm
  · rintro ⟨p, hp, ⟨hlast, hprefix⟩ | ⟨hlast, rfl⟩⟩
    · have he : entry p = (.pre, p.dropLast) := by rw [entry, if_pos hlast]
      exact .inl ⟨path p.dropLast, hprefix.map _, p, hp, by rw [he], by rw [he]⟩
    · have he : entry p = (.complete, p) := by rw [entry, if_neg hlast]
      exact .inr ⟨p, hp, by rw [he], by rw [he]⟩

/-- The prefix marks at the root: the pattern `"*"`. -/
theorem Entered.root_pre_iff {m : TrieMatcher c} {patterns : List Bytes} {t : ℕ} (h : m.Entered patterns t) :
    m.Marked .pre [] t ↔ ∃ p ∈ patterns, p = [star] := by
  rw [h]
  refine exists_congr fun p => and_congr_right fun _ => ?_
  constructor
  · rintro ⟨hty, hpath⟩
    have hnil : (entry p).2 = [] := by simpa [path] using hpath.symm
    rw [entry_eq_pre hty.symm, hnil, List.nil_append]
  · rintro rfl
    exact ⟨by decide, by decide⟩

/-- No pattern is entered as a whole at the root. -/
theorem Entered.not_root_complete {m : TrieMatcher c} {patterns : List Bytes} {t : ℕ}
    (h : m.Entered patterns t) (hvalid : ∀ p ∈ patterns, ValidPattern p) : ¬ m.Marked .complete [] t := by
  rw [h]
  rintro ⟨p, hp, hty, hpath⟩
  have hnil : (entry p).2 = [] := by simpa [path] using hpath.symm
  exact (hvalid p hp).1 ((entry_eq_complete hty.symm).2 ▸ hnil)

/-- **A lookup** finds a tag exactly when one of the patterns entered under it matches the query. -/
theorem matchQuery_get (m : TrieMatcher c) {query : Bytes} (hq : Printable query) :
    ∃ r, m.matchQuery query = .ok r ∧ ∀ t patterns, (∀ p ∈ patterns, ValidPattern p) →
      m.Entered patterns t → (r.get t = true ↔ ∃ p ∈ patterns, patternMatches p query = true) := by
  have hallowed : ∀ ch ∈ lower query, allowed ch = true := fun ch => allowed_of_mem_lower hq
  by_cases hstar : lower query = [star]
  · refine ⟨_, by rw [matchQuery, if_pos hstar], ?_⟩
    intro t patterns _ hent
    have hroot : m.root.markPrefix.get t = true ↔ m.Marked .pre [] t := Iff.rfl
    rw [BitSet.get_orAssign, BitSet.get_new, Bool.false_or, hroot, hent.root_pre_iff]
    simp [patternMatches, hstar]
  by_cases hnil : lower query = []
  · refine ⟨_, by rw [matchQuery, if_neg hstar, if_pos (by simp [hnil])], ?_⟩
    intro t patterns hvalid hent
    have hroot : m.root.markComplete.get t = true ↔ m.Marked .complete [] t := Iff.rfl
    rw [BitSet.get_orAssign, BitSet.get_new, Bool.false_or, hroot]
    simp [patternMatches, hnil, hent.not_root_complete hvalid]
  · obtain ⟨r, hr, hget⟩ := Node.traceNodes_get (some m.root) (lower query) hallowed (BitSet.new c)
    refine ⟨r, by rw [matchQuery, if_neg hstar, if_neg (by simpa using hnil)]; exact hr, ?_⟩
    intro t patterns hvalid hent
    have hwalk : r.get t = true ↔
        (∃ q, q <+: path (lower query) ∧ m.Marked .pre q t) ∨ m.Marked .complete (path (lower query)) t := by
      rw [hget, BitSet.get_new]
      simp only [Bool.false_eq_true, false_or]
      rfl
    rw [hwalk, hent.walk_iff hvalid hallowed]
    refine exists_congr fun p => and_congr_right fun _ => ?_
    by_cases hp : p.getLast? = some star <;>
      simp [patternMatches, hstar, hnil, hp, List.isPrefixOf_iff_prefix]

/-- **A lookup throws** exactly when its walk does. -/
theorem matchQuery_ok_iff (m : TrieMatcher c) (query : Bytes) :
    (∃ r, m.matchQuery query = .ok r) ↔ m.root.Escapes (lower query) := by
  rw [matchQuery]
  by_cases hstar : lower query = [star]
  · have hallowed : ∀ ch ∈ [star], allowed ch = true := by
      intro ch hch
      rw [List.mem_singleton.mp hch]
      rfl
    rw [if_pos hstar, hstar]
    exact ⟨fun _ => Node.escapes_of_allowed m.root hallowed, fun _ => ⟨_, rfl⟩⟩
  · rw [if_neg hstar]
    by_cases hlen : (lower query).length = 0
    · rw [if_pos hlen, List.eq_nil_of_length_eq_zero hlen]
      exact ⟨fun _ => Node.escapes_of_allowed m.root (by simp), fun _ => ⟨_, rfl⟩⟩
    · rw [if_neg hlen]
      exact Node.traceNodes_ok_iff m.root (lower query) (lower query) (BitSet.new c)

end TrieMatcher

end SmppGateway.Routing
