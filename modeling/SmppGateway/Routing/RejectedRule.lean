import SmppGateway.Routing.ShiftAnd
import Mathlib.Data.List.TakeWhile

/-!
# A rule that is rejected

`prefix_rule_matcher::set_rule` (`src/routing/smpp/prefix_rule_matcher.cpp`) looks at a pattern and
enters it before it looks at the next one. When it throws, the patterns before the bad one stay in the
trie under the tags of the number the call has used up.

## The model

`taken` is the part of a rule that has been entered when a call throws, and `newPatterns` is what of it
has gone under one tag. Tags are 32-bit: those of a number past the end of the storage can wrap around
to the tags of another rule, so the two are kept apart.

## What is proved

* `found_setRule` — a lookup after a call that did not leave the storage finds a tag exactly if it was
  found before or a pattern taken under it matches.
* `unchanged_iff` — a rejected rule leaves every match as it was exactly if it is `Harmless`.
* `Fresh.harmless_iff` — under a number whose tags have no marks yet, it is harmless exactly if some
  parameter has got no pattern.
-/

namespace SmppGateway.Routing

open SmppGateway.Foundation

variable {c : ℕ}

/-! ### The marks a lookup reads -/

/-- The marks of one tag that the lookup of a lower-cased value reads. -/
def Reads (marks : EntryType → List Slot → Prop) (value : Bytes) : Prop :=
  if value = [star] then marks .pre []
  else if value = [] then marks .complete []
  else (∃ q, q <+: path value ∧ marks .pre q) ∨ marks .complete (path value)

theorem reads_or (marks marks' : EntryType → List Slot → Prop) (value : Bytes) :
    Reads (fun ty q => marks ty q ∨ marks' ty q) value ↔ Reads marks value ∨ Reads marks' value := by
  unfold Reads
  split_ifs
  · rfl
  · rfl
  · simp only [and_or_left, exists_or]
    exact or_or_or_comm

theorem reads_congr {marks marks' : EntryType → List Slot → Prop} (h : ∀ ty q, marks ty q ↔ marks' ty q)
    (value : Bytes) : Reads marks value ↔ Reads marks' value := by
  have heq : marks = marks' := funext fun ty => funext fun q => propext (h ty q)
  rw [heq]

/-! ### What a pattern has of itself -/

theorem ValidPattern.printable {p : Bytes} (h : ValidPattern p) : Printable p := by
  intro ch hch
  have hallowed := h.2 ch hch
  rw [allowed, Bool.and_eq_true] at hallowed
  exact hallowed.1

theorem ValidPattern.lower_eq {p : Bytes} (h : ValidPattern p) : lower p = p := by
  have hsame : ∀ ch ∈ p, toLower ch = id ch := by
    intro ch hch
    have hallowed := h.2 ch hch
    rw [allowed, Bool.and_eq_true, Bool.not_eq_true'] at hallowed
    exact toLower_of_not_isUpper hallowed.2
  rw [lower, List.map_congr_left hsame, List.map_id]

theorem ValidPattern.matches_self {p : Bytes} (h : ValidPattern p) : patternMatches p p = true := by
  by_cases hstar : p = [star]
  · subst hstar
    decide
  · by_cases hlast : p.getLast? = some star
    · simp [patternMatches, h.lower_eq, h.1, hstar, hlast, List.dropLast_prefix]
    · simp [patternMatches, h.lower_eq, h.1, hstar, hlast]

namespace PrefixRuleMatcher

/-- A field finds a tag by the tag's own marks. -/
theorem found_iff_reads (trie : TrieMatcher c) {field : Bytes} (hf : Printable field) (t : ℕ) :
    found trie field t = true ↔ Reads (fun ty q => trie.Marked ty q t) (lower field) := by
  have hallowed : ∀ ch ∈ lower field, allowed ch = true := fun ch => allowed_of_mem_lower hf
  have hroot : ∀ b : BitSet c, ((BitSet.new c).orAssign b).get t = b.get t := by simp
  rw [found, TrieMatcher.matchQuery, Reads]
  by_cases hstar : lower field = [star]
  · simp only [hstar, ↓reduceIte, hroot]
    rfl
  by_cases hnil : lower field = []
  · have hlen : (lower field).length = 0 := by rw [hnil]; rfl
    have hne : ([] : Bytes) ≠ [star] := by decide
    simp only [hnil, hne, ↓reduceIte, List.length_nil, hroot]
    rfl
  · obtain ⟨r, hr, hget⟩ := Node.traceNodes_get (some trie.root) (lower field) hallowed (BitSet.new c)
    have hlen : (lower field).length ≠ 0 := by simpa using hnil
    simp only [hstar, hnil, hlen, ↓reduceIte, hr, hget, BitSet.get_new, Bool.false_eq_true, false_or]
    rfl

theorem reads_entries_iff {patterns : List Bytes} (h : ValidPatterns patterns) {field : Bytes}
    (hf : Printable field) :
    Reads (fun ty q => ∃ p ∈ patterns, ty = (entry p).1 ∧ q = path (entry p).2) (lower field) ↔
      patterns.any (patternMatches · field) = true := by
  obtain ⟨-, hm⟩ := setPatterns_ok (TrieMatcher.new 1) h (show 0 < BitSet.capacity 1 by decide)
  have hent : (setPatterns (TrieMatcher.new 1) 0 patterns).1.Entered patterns 0 := by
    intro ty q
    simp [hm]
  rw [← found_eq h hent hf, found_iff_reads _ hf]
  exact (reads_congr hent _).symm

theorem found_of_marked {trie trie' : TrieMatcher c} {patterns : List Bytes} {t : ℕ}
    (hvalid : ValidPatterns patterns)
    (h : ∀ ty q, trie'.Marked ty q t ↔ trie.Marked ty q t ∨
      ∃ p ∈ patterns, ty = (entry p).1 ∧ q = path (entry p).2)
    {field : Bytes} (hf : Printable field) :
    found trie' field t = (found trie field t || patterns.any (patternMatches · field)) := by
  rw [Bool.eq_iff_iff, Bool.or_eq_true, found_iff_reads _ hf, found_iff_reads _ hf, reads_congr h, reads_or,
    reads_entries_iff hvalid hf]

/-! ### What is entered before the throw -/

/-- The patterns `set_rule` enters: for each parameter it comes to, those before the first one that the
trie does not take. -/
def taken : List (List Bytes) → List (List Bytes)
  | [] => []
  | patterns :: rule =>
    if patterns.all (ValidPattern ·) then patterns :: taken rule
    else [patterns.takeWhile (ValidPattern ·)]

theorem validPatterns_of_mem_taken {rule : List (List Bytes)} {patterns : List Bytes}
    (h : patterns ∈ taken rule) : ValidPatterns patterns := by
  induction rule with
  | nil => cases h
  | cons ps rule ih =>
    rw [taken] at h
    split at h
    · rename_i hall
      rcases List.mem_cons.mp h with rfl | hmem
      · simpa [ValidPatterns] using hall
      · exact ih hmem
    · rw [List.mem_singleton.mp h]
      exact fun p hp => of_decide_eq_true (List.all_eq_true.mp List.all_takeWhile p hp)

/-- A pattern the trie takes is entered, or its tag is not in the storage. -/
theorem setPatterns_cons_of_valid {trie : TrieMatcher c} {p : Bytes} (hp : ValidPattern p)
    {patterns : List Bytes} {tag : ℕ} (htag : tag < 2 ^ 32)
    (h : (setPatterns trie tag (p :: patterns)).2 ≠ .error .outOfBounds) :
    tag < BitSet.capacity c ∧
      setPatterns trie tag (p :: patterns) = setPatterns (trie.addEntry p tag).1 tag patterns := by
  by_cases hin : tag < BitSet.capacity c
  · exact ⟨hin, setPatterns_cons trie hp patterns hin⟩
  · rw [setPatterns, if_neg (by simp [ValidPattern.any_isUpper hp])] at h
    have hfault := trie.addEntry_outOfBounds hp (mt (BitSet.inStorage_iff htag).mp hin)
    split at h <;> rename_i heq <;> rw [heq] at hfault <;> cases hfault
    exact absurd rfl h

/-- A parameter, as long as the storage is not left: the patterns before the first bad one are
entered, and a bad one throws. -/
theorem setPatterns_marked (trie : TrieMatcher c) {patterns : List Bytes} (hne : NonemptyPatterns patterns)
    {tag : ℕ} (htag : tag < 2 ^ 32) (h : (setPatterns trie tag patterns).2 ≠ .error .outOfBounds) :
    ((setPatterns trie tag patterns).2 = .ok () ↔ patterns.all (ValidPattern ·) = true) ∧ ∀ ty q t,
      (setPatterns trie tag patterns).1.Marked ty q t ↔ trie.Marked ty q t ∨
        (t = tag ∧ ∃ p ∈ patterns.takeWhile (ValidPattern ·), ty = (entry p).1 ∧ q = path (entry p).2) := by
  induction patterns generalizing trie with
  | nil => exact ⟨by simp [setPatterns], by simp [setPatterns]⟩
  | cons p patterns ih =>
    by_cases hp : ValidPattern p
    · obtain ⟨hin, hstep⟩ := setPatterns_cons_of_valid hp htag h
      rw [hstep] at h ⊢
      obtain ⟨hok, hm⟩ := ih _ (fun p' hp' => hne p' (by simp [hp'])) h
      refine ⟨by rw [hok, List.all_cons, decide_eq_true hp, Bool.true_and], ?_⟩
      intro ty q t
      rw [hm, (trie.addEntry_marked hp hin).2, or_assoc, ← and_assoc, and_comm (b := t = tag), ← and_or_left]
      simp only [List.takeWhile_cons, hp, decide_true, ↓reduceIte, List.mem_cons, exists_eq_or_imp]
    · obtain ⟨⟨what, hw⟩, hm⟩ := setPatterns_first_exception trie patterns (hne p (by simp)) hp tag
      refine ⟨by simp [hw, hp], ?_⟩
      intro ty q t
      simp [hm, hp]

theorem setParameters_cons_of_ok {trie : TrieMatcher c} {ruleId parameterCount i : ℕ}
    {patterns : List Bytes} (rule : List (List Bytes))
    (h : (setPatterns trie (u32 (ruleId * parameterCount + i)) patterns).2 = .ok ()) :
    setParameters trie ruleId parameterCount i (patterns :: rule) =
      setParameters (setPatterns trie (u32 (ruleId * parameterCount + i)) patterns).1 ruleId parameterCount
        (i + 1) rule := by
  rw [setParameters]
  split <;> rename_i heq <;> rw [heq] at h ⊢
  cases h

theorem setParameters_cons_of_error {trie : TrieMatcher c} {ruleId parameterCount i : ℕ}
    {patterns : List Bytes} (rule : List (List Bytes))
    (h : (setPatterns trie (u32 (ruleId * parameterCount + i)) patterns).2 ≠ .ok ()) :
    setParameters trie ruleId parameterCount i (patterns :: rule) =
      setPatterns trie (u32 (ruleId * parameterCount + i)) patterns := by
  rw [setParameters]
  split <;> rename_i heq <;> rw [heq] at h ⊢
  exact absurd rfl h

/-- **A rule**, as long as the storage is not left: the patterns taken from it are entered under the tags
of its parameters, and nothing else is. -/
theorem setParameters_marked (trie : TrieMatcher c) (ruleId parameterCount i : ℕ)
    {rule : List (List Bytes)} (hne : ∀ patterns ∈ rule, NonemptyPatterns patterns)
    (h : (setParameters trie ruleId parameterCount i rule).2 ≠ .error .outOfBounds)
    (ty : EntryType) (q : List Slot) (t : ℕ) :
    (setParameters trie ruleId parameterCount i rule).1.Marked ty q t ↔ trie.Marked ty q t ∨
      ∃ j patterns, (taken rule)[j]? = some patterns ∧ t = u32 (ruleId * parameterCount + (i + j)) ∧
        ∃ p ∈ patterns, ty = (entry p).1 ∧ q = path (entry p).2 := by
  induction rule generalizing trie i with
  | nil => simp [setParameters, taken]
  | cons patterns rule ih =>
    have hpatterns : NonemptyPatterns patterns := hne patterns (by simp)
    have htag : u32 (ruleId * parameterCount + i) < 2 ^ 32 := u32_lt _
    by_cases hok : (setPatterns trie (u32 (ruleId * parameterCount + i)) patterns).2 = .ok ()
    · rw [setParameters_cons_of_ok rule hok] at h ⊢
      obtain ⟨hall, hm⟩ := setPatterns_marked trie hpatterns htag (by rw [hok]; exact fun h => by cases h)
      have hvalid := hall.mp hok
      have hwhile : patterns.takeWhile (ValidPattern ·) = patterns :=
        List.takeWhile_eq_self_iff.mpr (List.all_eq_true.mp hvalid)
      rw [ih _ (i + 1) (fun ps hps => hne ps (by simp [hps])) h, hm, hwhile, or_assoc, taken, if_pos hvalid]
      refine or_congr Iff.rfl ⟨?_, ?_⟩
      · rintro (⟨rfl, hp⟩ | ⟨j, ps, hj, rfl, hp⟩)
        · exact ⟨0, patterns, rfl, rfl, hp⟩
        · exact ⟨j + 1, ps, hj, by rw [Nat.add_assoc i 1 j, Nat.add_comm 1 j], hp⟩
      · rintro ⟨j, ps, hj, rfl, hp⟩
        cases j with
        | zero => cases hj; exact .inl ⟨rfl, hp⟩
        | succ j => exact .inr ⟨j, ps, hj, by rw [Nat.add_assoc i 1 j, Nat.add_comm 1 j], hp⟩
    · rw [setParameters_cons_of_error rule hok] at h ⊢
      obtain ⟨hall, hm⟩ := setPatterns_marked trie hpatterns htag h
      rw [hm, taken, if_neg (mt hall.mpr hok)]
      refine or_congr Iff.rfl ⟨?_, ?_⟩
      · rintro ⟨rfl, hp⟩
        exact ⟨0, _, rfl, rfl, hp⟩
      · rintro ⟨j, ps, hj, rfl, hp⟩
        obtain ⟨rfl, rfl⟩ : j = 0 ∧ patterns.takeWhile (ValidPattern ·) = ps := by
          rw [List.getElem?_singleton] at hj
          split at hj
          · exact ⟨‹_›, Option.some.inj hj⟩
          · cases hj
        exact ⟨rfl, hp⟩

variable {R P : ℕ} {m : PrefixRuleMatcher R P} {rule : List (List Bytes)}

/-- The patterns a call enters under one tag. -/
def newPatterns (m : PrefixRuleMatcher R P) (rule : List (List Bytes)) (t : ℕ) : List Bytes :=
  (taken rule).zipIdx.flatMap fun (patterns, i) =>
    if t = u32 (u32 m.countOfSetRules * P + i) then patterns else []

theorem mem_newPatterns {t : ℕ} {p : Bytes} : p ∈ m.newPatterns rule t ↔ ∃ i patterns,
    (taken rule)[i]? = some patterns ∧ t = u32 (u32 m.countOfSetRules * P + i) ∧ p ∈ patterns := by
  simp only [newPatterns, List.mem_flatMap, Prod.exists, List.mem_zipIdx_iff_getElem?]
  constructor
  · rintro ⟨patterns, i, hi, hp⟩
    split at hp
    · exact ⟨i, patterns, hi, ‹_›, hp⟩
    · cases hp
  · rintro ⟨i, patterns, hi, ht, hp⟩
    exact ⟨patterns, i, hi, by rwa [if_pos ht]⟩

theorem validPatterns_newPatterns (t : ℕ) : ValidPatterns (m.newPatterns rule t) := by
  intro p hp
  obtain ⟨i, patterns, hi, -, hmem⟩ := mem_newPatterns.mp hp
  exact validPatterns_of_mem_taken (List.mem_of_getElem? hi) p hmem

/-- A lookup after the call. -/
theorem found_setRule (hne : ∀ patterns ∈ rule, NonemptyPatterns patterns)
    (h : (m.setRule rule).2 ≠ .error .outOfBounds) {field : Bytes} (hf : Printable field) (t : ℕ) :
    found (m.setRule rule).1.trie field t =
      (found m.trie field t || (m.newPatterns rule t).any (patternMatches · field)) := by
  refine found_of_marked (validPatterns_newPatterns t) (fun ty q => ?_) hf
  have hout : (setParameters m.trie (u32 m.countOfSetRules) P 0 rule).2 ≠ .error .outOfBounds := by
    intro hout
    rw [setRule_snd, hout] at h
    exact h rfl
  rw [setRule_fst_trie, setParameters_marked _ _ _ _ hne hout]
  refine or_congr Iff.rfl ⟨?_, ?_⟩
  · rintro ⟨i, patterns, hi, ht, p, hp, hentry⟩
    exact ⟨p, mem_newPatterns.mpr ⟨i, patterns, hi, by rwa [Nat.zero_add] at ht, hp⟩, hentry⟩
  · rintro ⟨p, hp, hentry⟩
    obtain ⟨i, patterns, hi, ht, hmem⟩ := mem_newPatterns.mp hp
    exact ⟨i, patterns, hi, by rwa [Nat.zero_add], p, hmem, hentry⟩

/-! ### Which records can tell -/

theorem foundFrom_iff {trie : TrieMatcher c} {t : ℕ} {record : List Bytes} :
    foundFrom trie t record = true ↔
      ∀ (i : ℕ) (field : Bytes), record[i]? = some field → found trie field (t + i) = true := by
  induction record generalizing t with
  | nil => simp [foundFrom]
  | cons field record ih =>
    rw [foundFrom, Bool.and_eq_true, ih]
    constructor
    · rintro ⟨hfirst, hrest⟩ i x hi
      cases i with
      | zero => cases hi; exact hfirst
      | succ i =>
        rw [Nat.add_comm i 1, ← Nat.add_assoc]
        exact hrest i x hi
    · intro h
      refine ⟨h 0 field rfl, fun i x hi => ?_⟩
      rw [Nat.add_assoc, Nat.add_comm 1 i]
      exact h (i + 1) x hi

/-- A record that is found, with a given string in one place, if every other tag is found by some string. -/
theorem exists_foundFrom {trie : TrieMatcher c} {n t j : ℕ}
    (h : ∀ i < n, ∃ field, Printable field ∧ found trie field (t + i) = true) (hj : j < n) {s : Bytes}
    (hs : Printable s) (hfound : found trie s (t + j) = true) :
    ∃ record : List Bytes, record.length = n ∧ (∀ field ∈ record, Printable field) ∧
      foundFrom trie t record = true ∧ record[j]? = some s := by
  have hstring : ∀ i : Fin n, ∃ field, Printable field ∧ found trie field (t + i) = true := fun i => h i i.isLt
  choose fields hprint hfields using hstring
  have hplace : ∀ i : Fin n, Printable (if i.val = j then s else fields i) ∧
      found trie (if i.val = j then s else fields i) (t + i) = true := by
    intro i
    split
    next heq => exact ⟨hs, heq ▸ hfound⟩
    next => exact ⟨hprint i, hfields i⟩
  refine ⟨List.ofFn fun i => if i.val = j then s else fields i, List.length_ofFn, ?_, ?_, ?_⟩
  · intro field hfield
    obtain ⟨i, rfl⟩ := List.mem_ofFn.mp hfield
    exact (hplace i).1
  · refine foundFrom_iff.mpr fun i field hi => ?_
    obtain ⟨hlt, rfl⟩ := List.getElem?_eq_some_iff.mp hi
    rw [List.getElem_ofFn]
    exact (hplace _).2
  · rw [List.getElem?_ofFn, dif_pos hj, if_pos rfl]

/-- **A rejected rule that does no harm**, for every rule number that `match` can report: under the tag of
some parameter nothing was found before and nothing has been entered, or whatever the patterns entered
under each of the tags match was found under it before. -/
def Harmless (m : PrefixRuleMatcher R P) (rule : List (List Bytes)) : Prop :=
  ∀ k < R, (k + 1) * P ≤ 2 ^ 31 →
    (∃ i < P, m.newPatterns rule (k * P + i) = [] ∧
      ∀ field, Printable field → found m.trie field (k * P + i) = false) ∨
    ∀ i < P, ∀ p ∈ m.newPatterns rule (k * P + i), ∀ field, Printable field →
      patternMatches p field = true → found m.trie field (k * P + i) = true

/-- `match` gives for every record of printable strings what it gave before the call. -/
def Unchanged (m : PrefixRuleMatcher R P) (rule : List (List Bytes)) : Prop :=
  ∀ record : List Bytes, record.length = P → (∀ field ∈ record, Printable field) →
    (m.setRule rule).1.matchRecord record = m.matchRecord record

section Rejecting

variable {m : PrefixRuleMatcher R P} {rule : List (List Bytes)}

theorem found_setRule_of_mem (hne : ∀ patterns ∈ rule, NonemptyPatterns patterns)
    (h : (m.setRule rule).2 ≠ .error .outOfBounds) {field : Bytes} (hf : Printable field) {t : ℕ} {p : Bytes}
    (hp : p ∈ m.newPatterns rule t) (hmatch : patternMatches p field = true) :
    found (m.setRule rule).1.trie field t = true := by
  have hany : (m.newPatterns rule t).any (patternMatches · field) = true :=
    List.any_eq_true.mpr ⟨p, hp, hmatch⟩
  rw [found_setRule hne h hf, hany, Bool.or_true]

theorem exists_found_setRule (hne : ∀ patterns ∈ rule, NonemptyPatterns patterns)
    (h : (m.setRule rule).2 ≠ .error .outOfBounds) {t : ℕ}
    (hsome : m.newPatterns rule t = [] → ∃ field, Printable field ∧ found m.trie field t ≠ false) :
    ∃ field, Printable field ∧ found (m.setRule rule).1.trie field t = true := by
  cases hnew : m.newPatterns rule t with
  | nil =>
    obtain ⟨field, hfield, hfound⟩ := hsome hnew
    refine ⟨field, hfield, ?_⟩
    rw [found_setRule hne h hfield, Bool.eq_true_of_not_eq_false hfound, Bool.true_or]
  | cons p ps =>
    have hmem : p ∈ m.newPatterns rule t := by rw [hnew]; exact List.mem_cons_self
    have hvalid := validPatterns_newPatterns t p hmem
    exact ⟨p, hvalid.printable, found_setRule_of_mem hne h hvalid.printable hmem hvalid.matches_self⟩

/-- The tags of one rule are found as before by every record exactly if the rule does no harm there. -/
theorem foundFrom_setRule_iff (hne : ∀ patterns ∈ rule, NonemptyPatterns patterns)
    (h : (m.setRule rule).2 ≠ .error .outOfBounds) (t : ℕ) :
    (∀ record : List Bytes, record.length = P → (∀ field ∈ record, Printable field) →
      foundFrom (m.setRule rule).1.trie t record = foundFrom m.trie t record) ↔
    (∃ i < P, m.newPatterns rule (t + i) = [] ∧
      ∀ field, Printable field → found m.trie field (t + i) = false) ∨
    ∀ i < P, ∀ p ∈ m.newPatterns rule (t + i), ∀ field, Printable field →
      patternMatches p field = true → found m.trie field (t + i) = true := by
  constructor
  · intro hsame
    by_contra hnot
    push Not at hnot
    obtain ⟨hsome, j, hj, p, hp, s, hs, hmatch, hnone⟩ := hnot
    obtain ⟨record, hlen, hprint, hafter, hget⟩ := exists_foundFrom
      (fun i hi => exists_found_setRule hne h (hsome i hi)) hj hs (found_setRule_of_mem hne h hs hp hmatch)
    rw [hsame record hlen hprint] at hafter
    exact hnone (foundFrom_iff.mp hafter j s hget)
  · rintro (⟨i, hi, hnew, hnone⟩ | hall) record hlen hf
    · have hfield : record[i]? = some record[i] := List.getElem?_eq_getElem _
      have hprint := hf record[i] (List.getElem_mem _)
      have hafter : found (m.setRule rule).1.trie record[i] (t + i) = false := by
        rw [found_setRule hne h hprint, hnone _ hprint, hnew]
        rfl
      rw [Bool.eq_false_iff.mpr fun htrue => Bool.eq_false_iff.mp hafter (foundFrom_iff.mp htrue i _ hfield),
        Bool.eq_false_iff.mpr fun htrue =>
          Bool.eq_false_iff.mp (hnone _ hprint) (foundFrom_iff.mp htrue i _ hfield)]
    · rw [Bool.eq_iff_iff, foundFrom_iff, foundFrom_iff]
      refine forall₃_congr fun i field hi => ?_
      have hlt : i < P := hlen ▸ (List.getElem?_eq_some_iff.mp hi).1
      have hprint := hf field (List.mem_of_getElem? hi)
      rw [found_setRule hne h hprint, Bool.or_eq_true, or_iff_left_of_imp]
      intro hany
      obtain ⟨p, hp, hmatch⟩ := List.any_eq_true.mp hany
      exact hall i hlt p hp field hprint hmatch

/-! ### The sizes -/

theorem set_mod {size : ℕ} (b : BitSet size) (ind : ℕ) : b.set (ind % 2 ^ 32) = b.set ind := by
  simp only [BitSet.set, BitSet.InStorage, Nat.mod_mod]

theorem lt_of_get_setMask {n : ℕ} {mask : BitSet (R * P)} (h : setMask R P n = some mask) {t : ℕ}
    (ht : mask.get t = true) : t < 2 ^ 31 := by
  induction n generalizing mask with
  | zero =>
    rw [← Option.some.inj h, BitSet.get_new] at ht
    cases ht
  | succ n ih =>
    rw [setMask, List.range_succ, List.foldlM_append, Option.bind_eq_bind, Option.bind_eq_some_iff] at h
    obtain ⟨mask', hmask', hset⟩ := h
    replace hset : mask'.set (((n + 1) * P - 1) % 2 ^ 32) = some mask := by
      rw [set_mod]
      simpa using hset
    rw [BitSet.get_set hset (Nat.mod_lt _ (by decide)), Bool.or_eq_true, decide_eq_true_eq] at ht
    rcases ht with ht | rfl
    · exact ih hmask' ht
    · have hin := BitSet.isSome_set.mp (Option.isSome_of_eq_some hset)
      rw [BitSet.InStorage, Nat.mod_mod] at hin
      exact hin.1

/-- More than `2 ^ 31` shifts leave nothing where the mask has a bit. -/
theorem matchRecord_of_wide (hR : 0 < R) (hP : 2 ^ 31 < P) (m : PrefixRuleMatcher R P) {record : List Bytes}
    (hlen : record.length = P) (hf : ∀ field ∈ record, Printable field) : m.matchRecord record = .ok [] := by
  obtain ⟨field, record, rfl⟩ := List.exists_cons_of_length_pos (show 0 < record.length by omega)
  obtain ⟨first, hfirst, -⟩ := matchQuery_found m.trie (hf field (by simp))
  obtain ⟨result, hresult, hget⟩ := matchFields_get m.trie first
    (fun x hx => hf x (List.mem_cons_of_mem _ hx)) (Nat.mul_pos hR (by omega))
  rw [List.length_cons] at hlen
  have hnone : (result.andAssign (matchMask R P)).getSetBitsIndices = [] := by
    rw [BitSet.getSetBitsIndices_eq]
    refine List.filter_eq_nil_iff.mpr fun t _ ht => ?_
    rw [BitSet.get_andAssign, Bool.and_eq_true, hget, matchMask] at ht
    obtain ⟨⟨hlow, -⟩, hmask⟩ := ht
    cases hset : setMask R P R with
    | none =>
      rw [hset, Option.getD_none, BitSet.get_new] at hmask
      cases hmask
    | some mask =>
      rw [hset, Option.getD_some] at hmask
      have := lt_of_get_setMask hset hmask
      omega
  rw [matchRecord, matchGetBitset]
  simp only [hfirst, hresult, Except.map, hnone, List.map_nil]

/-! ### A number without marks -/

theorem length_taken_le (rule : List (List Bytes)) : (taken rule).length ≤ rule.length := by
  induction rule with
  | nil => simp [taken]
  | cons patterns rule ih =>
    rw [taken]
    split
    · simpa using ih
    · simp

/-- While the tags fit 32 bits, the patterns go under the number the call has used up. -/
theorem mem_newPatterns_iff (hlen : rule.length = P) (hcount : (m.countOfSetRules + 1) * P ≤ 2 ^ 32)
    {k i : ℕ} (hi : i < P) {p : Bytes} : p ∈ m.newPatterns rule (k * P + i) ↔
      k = m.countOfSetRules ∧ p ∈ (taken rule)[i]?.getD [] := by
  rw [Nat.add_mul, Nat.one_mul] at hcount
  have hone : m.countOfSetRules * 1 ≤ m.countOfSetRules * P := Nat.mul_le_mul_left _ (by omega)
  have hid : u32 m.countOfSetRules = m.countOfSetRules := Nat.mod_eq_of_lt (by omega)
  have hdiv : ∀ r j : ℕ, j < P → (r * P + j) / P = r := by
    intro r j hj
    rw [Nat.mul_comm, Nat.mul_add_div (by omega), Nat.div_eq_of_lt hj, Nat.add_zero]
  rw [mem_newPatterns, hid]
  constructor
  · rintro ⟨j, patterns, hj, htag, hp⟩
    have hlt : j < P := by
      have := (List.getElem?_eq_some_iff.mp hj).1
      have := length_taken_le rule
      omega
    rw [u32, Nat.mod_eq_of_lt (by omega)] at htag
    obtain rfl : k = m.countOfSetRules := by rw [← hdiv k i hi, htag, hdiv _ j hlt]
    obtain rfl : i = j := by omega
    exact ⟨rfl, by rwa [hj]⟩
  · rintro ⟨rfl, hp⟩
    cases hget : (taken rule)[i]? with
    | none =>
      rw [hget] at hp
      cases hp
    | some patterns =>
      rw [hget] at hp
      exact ⟨i, patterns, hget, (Nat.mod_eq_of_lt (by omega)).symm, hp⟩

/-- Under a number without marks a rejected rule does no harm exactly if the number is past the end,
or one of the parameters has got no pattern. -/
theorem Fresh.harmless_iff (h : m.Fresh) (hsize : R * P ≤ 2 ^ 31) (hP : 0 < P) (hlen : rule.length = P)
    (hcount : (m.countOfSetRules + 1) * P ≤ 2 ^ 32) :
    m.Harmless rule ↔ (m.countOfSetRules < R → ∃ i < P, (taken rule)[i]?.getD [] = []) := by
  have hnew : ∀ {i : ℕ}, i < P → ∀ p, p ∈ m.newPatterns rule (m.countOfSetRules * P + i) ↔
      p ∈ (taken rule)[i]?.getD [] := by
    intro i hi p
    rw [mem_newPatterns_iff hlen hcount hi]
    exact and_iff_right rfl
  constructor
  · intro hharmless hR
    rcases hharmless _ hR ((Nat.mul_le_mul_right _ hR).trans hsize) with ⟨i, hi, hnone, -⟩ | hall
    · refine ⟨i, hi, List.eq_nil_iff_forall_not_mem.mpr fun p hp => ?_⟩
      rw [← hnew hi, hnone] at hp
      cases hp
    · refine ⟨0, hP, List.eq_nil_iff_forall_not_mem.mpr fun p hp => ?_⟩
      rw [← hnew hP] at hp
      have hvalid := validPatterns_newPatterns _ p hp
      have hfound := hall 0 hP p hp p hvalid.printable hvalid.matches_self
      rw [h.found_eq_false (Nat.le_add_right _ _) hvalid.printable] at hfound
      cases hfound
  · intro hempty k hk _
    by_cases heq : k = m.countOfSetRules
    · subst heq
      obtain ⟨i, hi, hnone⟩ := hempty hk
      refine .inl ⟨i, hi, List.eq_nil_iff_forall_not_mem.mpr fun p hp => ?_, fun field hf =>
        h.found_eq_false (Nat.le_add_right _ _) hf⟩
      rw [hnew hi, hnone] at hp
      cases hp
    · refine .inr fun i hi p hp => ?_
      exact absurd ((mem_newPatterns_iff hlen hcount hi).mp hp).1 heq

/-! ### Rejected rules -/

/-- The calls that throw: no such rule is without parameters, and nothing has left the storage. -/
theorem pos_of_exception {what : Bytes} (hlen : rule.length = P)
    (h : (m.setRule rule).2 = .error (.exception what)) : 0 < P := by
  refine Nat.pos_of_ne_zero fun hP => ?_
  obtain rfl : rule = [] := List.eq_nil_of_length_eq_zero (hlen.trans hP)
  cases h

/-- Where a match tells what is found: it is as before exactly if the rule does no harm. -/
theorem unchanged_iff_of_fits (hne : ∀ patterns ∈ rule, NonemptyPatterns patterns)
    (h : (m.setRule rule).2 ≠ .error .outOfBounds) (hP : 0 < P) (hsize : R * P ≤ 2 ^ 31)
    (hR : 0 < R) : m.Unchanged rule ↔ m.Harmless rule := by
  constructor
  · intro hsame k hk _
    refine (foundFrom_setRule_iff hne h (k * P)).mp fun record hrecord hf => ?_
    have heq := hsame record hrecord hf
    rw [matchRecord_eq _ hf hrecord hP hsize hR, matchRecord_eq _ hf hrecord hP hsize hR] at heq
    have hmem := congrArg (k ∈ ·) (Except.ok.inj heq)
    simp only [List.mem_filter, List.mem_range, hk, true_and, eq_iff_iff] at hmem
    exact Bool.eq_iff_iff.mpr hmem
  · intro hharmless record hrecord hf
    rw [matchRecord_eq _ hf hrecord hP hsize hR, matchRecord_eq _ hf hrecord hP hsize hR]
    refine congrArg Except.ok (List.filter_congr fun k hk => ?_)
    have hk := List.mem_range.mp hk
    have hbound : (k + 1) * P ≤ 2 ^ 31 := (Nat.mul_le_mul_right _ hk).trans hsize
    exact (foundFrom_setRule_iff hne h (k * P)).mpr (hharmless k hk hbound) record hrecord hf

/-- **A rejected rule** leaves the matches as they were exactly if it does no harm. -/
theorem unchanged_iff {created : PrefixRuleMatcher R P} (hcreated : create R P = .ok created)
    (hlen : rule.length = P) (hne : ∀ patterns ∈ rule, NonemptyPatterns patterns) {what : Bytes}
    (h : (m.setRule rule).2 = .error (.exception what)) : m.Unchanged rule ↔ m.Harmless rule := by
  have hP := pos_of_exception hlen h
  have hout : (m.setRule rule).2 ≠ .error .outOfBounds := by
    rw [h]
    simp
  have hR := pos_of_create hcreated
  rcases Nat.lt_or_ge (2 ^ 31) P with hwide | hnarrow
  · refine iff_of_true (fun record hrecord hf => ?_) fun k _ hk => ?_
    · rw [matchRecord_of_wide hR hwide _ hrecord hf, matchRecord_of_wide hR hwide _ hrecord hf]
    · rw [Nat.add_mul] at hk
      omega
  · have hsize : R * P ≤ 2 ^ 31 := by
      by_contra hlarge
      rw [create_of_large hnarrow (by omega)] at hcreated
      cases hcreated
    exact unchanged_iff_of_fits hne hout hP hsize hR

end Rejecting

/-- The bad pattern stands in the first of two parameters. -/
theorem unchanged_iff_firstParameter : create 1 2 = .ok (new 1 2) ∧
    (new 1 2).Unchanged [[ascii "a", ascii "B"], [ascii "c"]] := by
  have hcreated : create 1 2 = .ok (new 1 2) := create_ok (by decide) (by decide) (by decide)
  have hne : ∀ patterns ∈ [[ascii "a", ascii "B"], [ascii "c"]], NonemptyPatterns patterns := by
    simp [NonemptyPatterns, ascii]
  have hbad : ¬ ValidRule [[ascii "a", ascii "B"], [ascii "c"]] := fun h =>
    absurd (h [ascii "a", ascii "B"] (by simp) (ascii "B") (by simp)) (by decide)
  have hlen : [[ascii "a", ascii "B"], [ascii "c"]].length = 2 := rfl
  have hfresh : (new 1 2).Fresh := fresh_new
  have hharmless : (new 1 2).Harmless [[ascii "a", ascii "B"], [ascii "c"]] :=
    (hfresh.harmless_iff (by decide) (by decide) hlen (by decide)).mpr fun _ => ⟨1, by decide, by decide⟩
  obtain ⟨what, hwhat⟩ := @setRule_exception 1 2 (new 1 2) _ hbad hne rfl (by decide)
  exact ⟨hcreated, (unchanged_iff hcreated hlen hne hwhat).mpr hharmless⟩

/-- Behind a good pattern of the only parameter it stands in the last one. -/
theorem not_unchanged : ¬ ∀ (R P : ℕ) (created m : PrefixRuleMatcher R P) (rule : List (List Bytes))
    (what : Bytes), create R P = .ok created → rule.length = P →
      (∀ patterns ∈ rule, NonemptyPatterns patterns) → (m.setRule rule).2 = .error (.exception what) →
        m.Unchanged rule := by
  intro h
  have hne : ∀ patterns ∈ [[ascii "a", ascii "B"]], NonemptyPatterns patterns := by
    simp [NonemptyPatterns, ascii]
  have hbad : ¬ ValidRule [[ascii "a", ascii "B"]] := fun h =>
    absurd (h [ascii "a", ascii "B"] (by simp) (ascii "B") (by simp)) (by decide)
  have hlen : [[ascii "a", ascii "B"]].length = 1 := rfl
  have hfresh : (new 1 1).Fresh := fresh_new
  obtain ⟨what, hwhat⟩ := @setRule_exception 1 1 (new 1 1) _ hbad hne hlen (by decide)
  have hsame := h 1 1 (new 1 1) (new 1 1) _ what (create_ok (by decide) (by decide) (by decide)) hlen hne hwhat
  have hout : ((new 1 1).setRule [[ascii "a", ascii "B"]]).2 ≠ .error .outOfBounds := by
    rw [hwhat]
    simp
  have hharmless := (unchanged_iff_of_fits hne hout (by decide) (by decide) (by decide)).mp hsame
  obtain ⟨i, hi, hnone⟩ :=
    (hfresh.harmless_iff (by decide) (by decide) hlen (by decide)).mp hharmless (by decide)
  obtain rfl : i = 0 := by omega
  exact absurd hnone (by decide)

end PrefixRuleMatcher

end SmppGateway.Routing
