import SmppGateway.Routing.TrieMatcher
import SmppGateway.Foundation.Run

/-!
# The trie and the list of its entries

Any calls of `trie_matcher::add_entry`, one after the other, and what `match` finds behind them.

## The model

A tag is a `uint32_t`. Beside the matcher stands the list of its entries: the calls that have returned, in their
order. A call may throw, and leaves the nodes it has allocated until then; a call that accesses memory outside of
the pattern or of a bit set is not made.

## What is proved

* `addEntry_cases` — what a call can do: it returns and adds one mark, or throws and adds none, or accesses
  memory outside.
* `Node.Grown.traceNodes` — nodes without marks change no result of a walk.
* `isListed_run` — after any calls the marks of a tag are those of the entries with the tag.
* `matchQuery_entries` — a lookup finds the tags of the entries that match, and a call that throws changes
  nothing about it.
-/

namespace SmppGateway.Routing

open Foundation

/-- Bit sets with the same bits are the same. -/
theorem BitSet.eq_of_get_eq {size : ℕ} {b b' : BitSet size} (h : ∀ i, b.get i = b'.get i) : b = b' := by
  have hword : ∀ i, b.word i = b'.word i := by
    intro i
    refine BitVec.eq_of_getLsbD_eq fun k hk => ?_
    have hget := h (64 * i + k)
    rwa [get_eq, get_eq, Nat.mul_add_div (by omega), Nat.div_eq_of_lt hk, Nat.add_zero, Nat.mul_add_mod,
      Nat.mod_eq_of_lt hk] at hget
  obtain ⟨storage⟩ := b
  obtain ⟨storage'⟩ := b'
  refine congrArg BitSet.mk (Vector.ext fun i hi => ?_)
  simpa [word, hi] using hword i

/-! ### A trie with more nodes -/

namespace Node

variable {c : ℕ}

/-- A trie with the same marks that has at least the nodes of another; either may be the null pointer. -/
structure Grown (n n' : Option (Node c)) : Prop where
  marks : ∀ ty q t, (n'.getD (new c)).Marked ty q t ↔ (n.getD (new c)).Marked ty q t
  nodes : ∀ p, n'.bind (descend · p) = none → n.bind (descend · p) = none

theorem Grown.child {n n' : Node c} (h : Grown (some n) (some n')) (s : Slot) :
    Grown (n.child s) (n'.child s) where
  marks ty q t := h.marks ty (s :: q) t
  nodes p := h.nodes (s :: p)

/-- Where the smaller trie ends, the other has no marks. -/
theorem Grown.child_none {n' : Node c} (h : Grown none (some n')) (s : Slot) : Grown none (n'.child s) where
  marks ty q t := by
    refine (h.marks ty (s :: q) t).trans ?_
    simp
  nodes _ _ := rfl

/-- A tree with no nodes has grown from one with no nodes. -/
theorem Grown.eq_none {n : Option (Node c)} (h : Grown n none) : n = none := by
  simpa [descend] using h.nodes []

/-- The marks of a node add the same in both. -/
theorem Grown.orAssign {n : Option (Node c)} {n' : Node c} (h : Grown n (some n')) (ty : EntryType)
    (result : BitSet c) :
    result.orAssign (n'.marks ty) = result.orAssign ((n.getD (new c)).marks ty) := by
  refine BitSet.eq_of_get_eq fun t => ?_
  have hmark : (n'.marks ty).get t = ((n.getD (new c)).marks ty).get t := Bool.eq_iff_iff.mpr (h.marks ty [] t)
  rw [BitSet.get_orAssign, BitSet.get_orAssign, hmark]

theorem orAssign_new_marks (ty : EntryType) (result : BitSet c) :
    result.orAssign ((new c).marks ty) = result := by
  refine BitSet.eq_of_get_eq fun t => ?_
  cases ty <;> simp [marks, new]

/-- **A walk** that returns does so as well in the smaller trie, with the same result. -/
theorem Grown.traceNodes {n n' : Option (Node c)} (h : Grown n n') {word rest : Bytes} {result r : BitSet c}
    (hr : Node.traceNodes n' word rest result = .ok r) : Node.traceNodes n word rest result = .ok r := by
  induction rest generalizing n n' result with
  | nil =>
    cases n' with
    | none => rwa [h.eq_none]
    | some n' =>
      have hend : Node.traceNodes (some n') word [] result =
          .ok ((result.orAssign (n'.marks .pre)).orAssign (n'.marks .complete)) := rfl
      rw [hend, h.orAssign .complete, h.orAssign .pre] at hr
      cases n with
      | none => rwa [Option.getD_none, orAssign_new_marks, orAssign_new_marks] at hr
      | some n => exact hr
  | cons ch rest ih =>
    cases n' with
    | none => rwa [h.eq_none]
    | some n' =>
      rw [Node.traceNodes] at hr
      cases hslot : slotOf word ch with
      | error e =>
        simp only [hslot] at hr
        cases hr
      | ok s =>
        simp only [hslot] at hr
        have hpre : result.orAssign n'.markPrefix = result.orAssign ((n.getD (new c)).marks .pre) :=
          h.orAssign .pre result
        rw [hpre] at hr
        cases n with
        | none =>
          rw [Option.getD_none, orAssign_new_marks] at hr
          have hwalk := ih (h.child_none s) hr
          rwa [Node.traceNodes] at hwalk ⊢
        | some n =>
          rw [Node.traceNodes]
          simp only [hslot]
          exact ih (h.child s) hr

/-! ### Nodes are not taken away -/

theorem descend_setChild {n m : Node c} {s : Slot}
    (hm : ∀ p, m.descend p = none → (n.child s).bind (descend · p) = none) {p : List Slot}
    (h : (n.setChild s m).descend p = none) : n.descend p = none := by
  cases p with
  | nil => cases h
  | cons s' p =>
    rw [descend, child_setChild] at h
    rw [descend]
    by_cases hs : s' = s
    · subst hs
      rw [if_pos rfl] at h
      exact hm p h
    · rwa [if_neg hs] at h

theorem descend_mark (n : Node c) (tag : ℕ) (entryType : EntryType) {p : List Slot}
    (h : (n.mark tag entryType).1.descend p = none) : n.descend p = none := by
  cases p with
  | nil => cases h
  | cons s p =>
    have hchild : (n.mark tag entryType).1.child s = n.child s := by
      cases entryType <;> simp only [mark] <;> split <;> cases s <;> rfl
    rwa [descend, hchild] at h

theorem descend_getD_new {n : Option (Node c)} {p : List Slot} (h : (n.getD (new c)).descend p = none) :
    n.bind (descend · p) = none := by
  cases n with
  | none => rfl
  | some n => exact h

theorem descend_insertNode (n : Node c) (word rest : Bytes) (tag : ℕ) (entryType : EntryType) {p : List Slot}
    (h : (n.insertNode word rest tag entryType).1.descend p = none) : n.descend p = none := by
  induction rest generalizing n p with
  | nil => exact h
  | cons ch rest ih =>
    rw [insertNode] at h
    cases hslot : slotOf word ch with
    | error e =>
      simp only [hslot] at h
      exact h
    | ok s =>
      simp only [hslot] at h
      refine descend_setChild (fun q hq => ?_) h
      cases rest with
      | nil => exact descend_getD_new (descend_mark _ tag entryType hq)
      | cons ch' rest => exact descend_getD_new (ih _ hq)

end Node

namespace TrieMatcher

variable {c : ℕ} {m : TrieMatcher c} {pattern : Bytes} {tag : ℕ}

/-! ### One call -/

/-- **What a call of `add_entry` can do.** -/
theorem addEntry_cases (m : TrieMatcher c) (pattern : Bytes) (htag : tag < 2 ^ 32) :
    ((m.addEntry pattern tag).2 = .ok () ∧ ValidPattern pattern ∧ tag < BitSet.capacity c ∧
      ∀ ty q t, (m.addEntry pattern tag).1.Marked ty q t ↔
        m.Marked ty q t ∨ (ty = (entry pattern).1 ∧ q = path (entry pattern).2 ∧ t = tag)) ∨
    ((∃ what, (m.addEntry pattern tag).2 = .error (.exception what)) ∧ pattern ≠ [] ∧ ¬ ValidPattern pattern ∧
      ∀ ty q t, (m.addEntry pattern tag).1.Marked ty q t ↔ m.Marked ty q t) ∨
    ((m.addEntry pattern tag).2 = .error .outOfBounds ∧
      (pattern = [] ∨ ValidPattern pattern ∧ BitSet.capacity c ≤ tag)) := by
  by_cases hnil : pattern = []
  · subst hnil
    exact .inr (.inr ⟨rfl, .inl rfl⟩)
  by_cases hvalid : ValidPattern pattern
  · obtain hlt | hle := Nat.lt_or_ge tag (BitSet.capacity c)
    · obtain ⟨hok, hmarks⟩ := addEntry_marked m hvalid hlt
      exact .inl ⟨hok, hvalid, hlt, hmarks⟩
    · have hout : ¬ BitSet.InStorage c tag := by
        rw [BitSet.inStorage_iff htag]
        exact Nat.not_lt.mpr hle
      exact .inr (.inr ⟨addEntry_outOfBounds m hvalid hout, .inr ⟨hvalid, hle⟩⟩)
  · obtain ⟨hthrows, hmarks⟩ := addEntry_exception m hnil hvalid tag
    exact .inr (.inl ⟨hthrows, hnil, hvalid, hmarks⟩)

/-- A call that throws adds no mark. -/
theorem marked_of_exception {what : Bytes} (htag : tag < 2 ^ 32)
    (h : (m.addEntry pattern tag).2 = .error (.exception what)) (ty : EntryType) (q : List Slot) (t : ℕ) :
    (m.addEntry pattern tag).1.Marked ty q t ↔ m.Marked ty q t := by
  obtain ⟨hok, -⟩ | ⟨-, -, -, hmarks⟩ | ⟨hout, -⟩ := addEntry_cases m pattern htag
  · rw [hok] at h
    cases h
  · exact hmarks ty q t
  · rw [hout] at h
    cases h

/-! ### All calls -/

/-- A matcher and the list of its entries. -/
structure Listed (c : ℕ) where
  trie : TrieMatcher c
  /-- The calls of `add_entry` that have returned. -/
  entries : List (Bytes × UInt32)

/-- A new matcher. -/
def Listed.new (c : ℕ) : Listed c := ⟨TrieMatcher.new c, []⟩

/-- A call of `add_entry`. -/
def addCall (s : Listed c) (call : Bytes × UInt32) : Listed c :=
  match s.trie.addEntry call.1 call.2.toNat with
  | (trie, .ok ()) => ⟨trie, s.entries ++ [call]⟩
  | (trie, .error _) => ⟨trie, s.entries⟩

/-- The call returns or throws. -/
def Defined (s : Listed c) (call : Bytes × UInt32) : Prop :=
  (s.trie.addEntry call.1 call.2.toNat).2 ≠ .error .outOfBounds

theorem defined_of_lt (s : Listed c) {call : Bytes × UInt32} (hne : call.1 ≠ [])
    (htag : call.2.toNat < BitSet.capacity c) : Defined s call := by
  obtain ⟨hok, -⟩ | ⟨⟨what, hthrows⟩, -⟩ | ⟨-, hnil | ⟨-, hle⟩⟩ :=
    addEntry_cases s.trie call.1 call.2.toNat_lt
  · rw [Defined, hok]
    exact fun hcase => nomatch hcase
  · rw [Defined, hthrows]
    exact fun hcase => nomatch hcase
  · exact absurd hnil hne
  · omega

/-- What a call leaves: one more entry if the pattern is one that the trie takes. -/
theorem addCall_eq (s : Listed c) {call : Bytes × UInt32} (hdef : Defined s call) :
    addCall s call = ⟨(s.trie.addEntry call.1 call.2.toNat).1,
      if ValidPattern call.1 then s.entries ++ [call] else s.entries⟩ := by
  obtain ⟨hout, hvalid, -⟩ | ⟨⟨what, hout⟩, -, hvalid, -⟩ | ⟨hout, -⟩ :=
    addEntry_cases s.trie call.1 call.2.toNat_lt
  · rw [addCall, if_pos hvalid]
    split <;> simp_all
  · rw [addCall, if_neg hvalid]
    split <;> simp_all
  · exact absurd hout hdef

/-- The patterns of the entries with a tag. -/
def patternsOf (entries : List (Bytes × UInt32)) (tag : ℕ) : List Bytes :=
  (entries.filter fun e => e.2.toNat = tag).map Prod.fst

theorem mem_patternsOf {entries : List (Bytes × UInt32)} {p : Bytes} :
    p ∈ patternsOf entries tag ↔ ∃ e ∈ entries, e.2.toNat = tag ∧ e.1 = p := by
  simp only [patternsOf, List.mem_map, List.mem_filter, decide_eq_true_eq, and_assoc]

/-- **The invariant**: the entries have patterns that the trie takes, and the marks of every tag are those of the
entries with the tag. -/
def IsListed (s : Listed c) : Prop :=
  (∀ e ∈ s.entries, ValidPattern e.1) ∧ ∀ t, s.trie.Entered (patternsOf s.entries t) t

theorem isListed_new : IsListed (Listed.new c) := by
  refine ⟨by simp [Listed.new], fun t ty q => ?_⟩
  simp [Listed.new, patternsOf]

theorem isListed_addCall (s : Listed c) (call : Bytes × UInt32) (hs : IsListed s) (hdef : Defined s call) :
    IsListed (addCall s call) := by
  obtain ⟨hvalid, hent⟩ := hs
  rw [addCall_eq s hdef]
  obtain ⟨-, hpat, -, hmarks⟩ | ⟨-, -, hpat, hmarks⟩ | ⟨hout, -⟩ :=
    addEntry_cases s.trie call.1 call.2.toNat_lt
  · rw [if_pos hpat]
    constructor
    · intro e he
      obtain he | he := List.mem_append.mp he
      · exact hvalid e he
      · rw [List.mem_singleton.mp he]
        exact hpat
    · intro t ty q
      rw [hmarks, hent t]
      simp only [mem_patternsOf, List.mem_append, List.mem_singleton]
      constructor
      · rintro (⟨p, ⟨e, he, ht, rfl⟩, hp⟩ | ⟨hty, hq, ht⟩)
        · exact ⟨e.1, ⟨e, .inl he, ht, rfl⟩, hp⟩
        · exact ⟨call.1, ⟨call, .inr rfl, ht.symm, rfl⟩, hty, hq⟩
      · rintro ⟨p, ⟨e, he | rfl, ht, rfl⟩, hty, hq⟩
        · exact .inl ⟨e.1, ⟨e, he, ht, rfl⟩, hty, hq⟩
        · exact .inr ⟨hty, hq, ht.symm⟩
  · rw [if_neg hpat]
    exact ⟨hvalid, fun t ty q => (hmarks ty q t).trans (hent t ty q)⟩
  · exact absurd hout hdef

/-- **After any calls** the invariant holds. -/
theorem isListed_run {calls : List (Bytes × UInt32)} (h : Along addCall Defined (.new c) calls) :
    IsListed (run addCall (.new c) calls) :=
  h.invariant isListed_addCall isListed_new

/-- The calls that have returned are those with a pattern that the trie takes. -/
theorem entries_run {calls : List (Bytes × UInt32)} {s : Listed c} (h : Along addCall Defined s calls) :
    (run addCall s calls).entries = s.entries ++ calls.filter fun call => ValidPattern call.1 := by
  induction calls generalizing s with
  | nil => simp
  | cons call calls ih =>
    rw [run_cons, ih h.2, addCall_eq s h.1]
    by_cases hvalid : ValidPattern call.1 <;> simp [hvalid]

/-! ### Lookups behind them -/

/-- A lookup finds the tags of the entries that match. -/
theorem IsListed.matchQuery_get {s : Listed c} (hs : IsListed s) {query : Bytes} (hq : Printable query)
    {r : BitSet c} (hr : s.trie.matchQuery query = .ok r) (i : ℕ) :
    r.get i = true ↔ ∃ e ∈ s.entries, e.2.toNat = i ∧ patternMatches e.1 query = true := by
  obtain ⟨r', hr', hget⟩ := s.trie.matchQuery_get hq
  obtain rfl : r' = r := by
    rw [hr] at hr'
    exact (Except.ok.inj hr').symm
  have hvalid : ∀ p ∈ patternsOf s.entries i, ValidPattern p := by
    intro p hp
    obtain ⟨e, he, -, rfl⟩ := mem_patternsOf.mp hp
    exact hs.1 e he
  rw [hget i _ hvalid (hs.2 i)]
  constructor
  · rintro ⟨p, hp, hmatch⟩
    obtain ⟨e, he, ht, rfl⟩ := mem_patternsOf.mp hp
    exact ⟨e, he, ht, hmatch⟩
  · rintro ⟨e, he, ht, hmatch⟩
    exact ⟨e.1, mem_patternsOf.mpr ⟨e, he, ht, rfl⟩, hmatch⟩

/-- No call takes a node away. -/
theorem descend_addEntry {p : List Slot} (h : (m.addEntry pattern tag).1.root.descend p = none) :
    m.root.descend p = none := by
  have has : ∀ {word entryType}, (m.addEntryAs word tag entryType).1.root.descend p = none →
      m.root.descend p = none := by
    intro word entryType has
    rw [addEntryAs] at has
    by_cases hlen : word.length = 0
    · simp only [hlen, if_true] at has
      exact Node.descend_mark m.root tag entryType has
    · simp only [if_neg hlen] at has
      exact Node.descend_insertNode m.root word word tag entryType has
  rw [addEntry] at h
  cases hlast : pattern.getLast? with
  | none =>
    simp only [hlast] at h
    exact h
  | some ch =>
    simp only [hlast] at h
    split at h <;> exact has h

/-- **A call that throws** changes no result: what `match` returns behind it, it has returned before. -/
theorem matchQuery_of_exception {what query : Bytes} {r : BitSet c} (htag : tag < 2 ^ 32)
    (h : (m.addEntry pattern tag).2 = .error (.exception what))
    (hr : (m.addEntry pattern tag).1.matchQuery query = .ok r) : m.matchQuery query = .ok r := by
  have hgrown : Node.Grown (some m.root) (some (m.addEntry pattern tag).1.root) :=
    ⟨marked_of_exception htag h, fun _ => descend_addEntry⟩
  have hpre : (BitSet.new c).orAssign (m.addEntry pattern tag).1.root.markPrefix =
      (BitSet.new c).orAssign m.root.markPrefix := hgrown.orAssign .pre _
  have hcomplete : (BitSet.new c).orAssign (m.addEntry pattern tag).1.root.markComplete =
      (BitSet.new c).orAssign m.root.markComplete := hgrown.orAssign .complete _
  rw [matchQuery, hpre, hcomplete] at hr
  rw [matchQuery]
  by_cases hstar : lower query = [star]
  · rwa [if_pos hstar] at hr ⊢
  · rw [if_neg hstar] at hr ⊢
    by_cases hlen : (lower query).length = 0
    · rwa [if_pos hlen] at hr ⊢
    · rw [if_neg hlen] at hr ⊢
      exact hgrown.traceNodes hr

/-- An empty query matches nothing. -/
theorem patternMatches_nil (pattern : Bytes) : patternMatches pattern [] = false := rfl

/-- **The matcher is the list of its entries**: the entries are the calls with a pattern that the trie takes, a
lookup finds the tags of those that match, and a call that throws changes no result. -/
theorem matchQuery_entries {calls : List (Bytes × UInt32)} (h : Along addCall Defined (.new c) calls)
    {query : Bytes} (hq : Printable query) :
    let s := run addCall (.new c) calls
    (s.entries = calls.filter fun call => ValidPattern call.1) ∧
    ∃ r, s.trie.matchQuery query = .ok r ∧
      (∀ i, r.get i = true ↔ ∃ e ∈ s.entries, e.2.toNat = i ∧ patternMatches e.1 query = true) ∧
      (query = [] → ∀ i, r.get i = false) ∧
      ∀ (pattern : Bytes) (tag : UInt32) (what : Bytes),
        (s.trie.addEntry pattern tag.toNat).2 = .error (.exception what) →
          (s.trie.addEntry pattern tag.toNat).1.matchQuery query = .ok r ∧
          ∀ query' r', (s.trie.addEntry pattern tag.toNat).1.matchQuery query' = .ok r' →
            s.trie.matchQuery query' = .ok r' := by
  intro s
  have hs : IsListed s := isListed_run h
  obtain ⟨r, hr, -⟩ := s.trie.matchQuery_get hq
  have hget := fun i => hs.matchQuery_get hq hr i
  refine ⟨entries_run h, r, hr, hget, ?_, ?_⟩
  · rintro rfl i
    rw [Bool.eq_false_iff, Ne, hget i]
    rintro ⟨e, -, -, hmatch⟩
    exact absurd hmatch (by rw [patternMatches_nil]; exact Bool.false_ne_true)
  · intro pattern tag what hthrows
    refine ⟨?_, fun query' r' => matchQuery_of_exception tag.toNat_lt hthrows⟩
    obtain ⟨r', hr', -⟩ := (s.trie.addEntry pattern tag.toNat).1.matchQuery_get hq
    have hsame := matchQuery_of_exception tag.toNat_lt hthrows hr'
    rw [hr] at hsame
    rw [hr', Except.ok.inj hsame]

/-- Two patterns under two tags, and between them one that the trie does not take. -/
def threeCalls : List (Bytes × UInt32) := [(ascii "12*", 0), (ascii "1A", 1), (ascii "12", 1)]

theorem matchQuery_entries_threeCalls :
    let s := run addCall (.new 2) threeCalls
    s.entries = [(ascii "12*", 0), (ascii "12", 1)] ∧
    ∃ r, s.trie.matchQuery (ascii "123") = .ok r ∧ r.get 0 = true ∧ r.get 1 = false := by
  have hdef : Along addCall Defined (.new 2) threeCalls := by
    refine ⟨defined_of_lt _ ?_ ?_, defined_of_lt _ ?_ ?_, defined_of_lt _ ?_ ?_, trivial⟩ <;> decide
  have hq : Printable (ascii "123") := by decide
  obtain ⟨hentries, r, hr, hget, -⟩ := matchQuery_entries hdef hq
  have hlist : threeCalls.filter (fun call => ValidPattern call.1) = [(ascii "12*", 0), (ascii "12", 1)] := by
    decide
  rw [hlist] at hentries
  refine ⟨hentries, r, hr, ?_, ?_⟩
  · rw [hget 0, hentries]
    decide
  · rw [Bool.eq_false_iff, Ne, hget 1, hentries]
    decide

end TrieMatcher

end SmppGateway.Routing
