import SmppGateway.Routing.TrieMatcher
import Mathlib.Data.List.Sort

/-!
# The rule matcher

`prefix_rule_matcher` (`src/routing/smpp/prefix_rule_matcher.cpp`): rules of
`rule_parameter_count_` parameters each, every parameter a list of patterns. All patterns
live in one trie; the patterns of parameter `i` of rule `r` are entered under the tag
`r * rule_parameter_count_ + i`, and a record is matched by walking the trie once for every
field and combining the bit sets by shifting and intersecting.

## The model

`rules_count_` and `rule_parameter_count_` are parameters of the type. Rule numbers and tags
are 32-bit (`ruleId_t`, `catId_t`), so both are reduced modulo `2 ^ 32`. `set_rule` takes its
number before it looks at the patterns and does not give it back when it throws, and what it
entered before throwing stays in the trie, so the model returns the matcher together with the
outcome. The constructor throws where there is no tag, since a bit set cannot be empty; its loop
over `match_mask_` and the shifts of `match` can leave the storage, so `create` and `matchFields`
have that outcome too. The assertions that a rule and a record
have `rule_parameter_count_` fields are dropped by a release build; the callers keep them.

## What is proved

* `setRule_ok`, `setRule_exception` — a rule the matcher takes has its patterns entered under its
  own tags and under no others; a rule it rejects leaves the tags of every other rule alone.
* `matchRecord_eq` — while the bits fit an `int`, a record is matched by exactly the rules whose
  tags are found one after the other in the bit sets of its fields, in ascending order.
-/

namespace SmppGateway.Routing

open SmppGateway.Foundation

/-- `prefix_rule_matcher`. -/
structure PrefixRuleMatcher (rulesCount ruleParameterCount : ℕ) where
  /-- `count_of_set_rules_`. -/
  countOfSetRules : ℕ
  /-- `trie_`. -/
  trie : TrieMatcher (rulesCount * ruleParameterCount)

/-- The range of a 32-bit unsigned integer. -/
def u32 (n : ℕ) : ℕ := n % 2 ^ 32

theorem u32_lt (n : ℕ) : u32 n < 2 ^ 32 := Nat.mod_lt _ (by decide)

/-- The text `set_rule` throws with. -/
def uppercaseText : Bytes := ascii "Uppercase letter is not allowed"

namespace PrefixRuleMatcher

variable {rulesCount ruleParameterCount : ℕ}

/-- The matcher the constructor leaves when it returns. -/
def new (rulesCount ruleParameterCount : ℕ) : PrefixRuleMatcher rulesCount ruleParameterCount :=
  ⟨0, TrieMatcher.new _⟩

/-- The body of the constructor: the first `n` turns of its loop, each setting the tag of a rule's
last parameter in `match_mask_`. -/
def setMask (rulesCount ruleParameterCount n : ℕ) : Option (BitSet (rulesCount * ruleParameterCount)) :=
  (List.range n).foldlM (fun mask i => mask.set ((i + 1) * ruleParameterCount - 1)) (BitSet.new _)

/-- The constructor. It throws when `trie_` does, and does not return when its loop writes outside the
storage. -/
def create (rulesCount ruleParameterCount : ℕ) :
    Except Fault (PrefixRuleMatcher rulesCount ruleParameterCount) :=
  match TrieMatcher.create (rulesCount * ruleParameterCount) with
  | .error e => .error e
  | .ok trie =>
    match setMask rulesCount ruleParameterCount rulesCount with
    | some _ => .ok ⟨0, trie⟩
    | none => .error .outOfBounds

/-- `match_mask_` of a matcher whose constructor has returned. -/
def matchMask (rulesCount ruleParameterCount : ℕ) : BitSet (rulesCount * ruleParameterCount) :=
  (setMask rulesCount ruleParameterCount rulesCount).getD (BitSet.new _)

/-- The inner loop of `set_rule`: the patterns of one parameter. -/
def setPatterns {c : ℕ} (trie : TrieMatcher c) (tag : ℕ) :
    List Bytes → TrieMatcher c × Except Fault Unit
  | [] => (trie, .ok ())
  | pattern :: patterns =>
    if pattern.any isUpper then (trie, .error (.exception uppercaseText))
    else
      match trie.addEntry pattern tag with
      | (trie, .ok ()) => setPatterns trie tag patterns
      | (trie, .error e) => (trie, .error e)

/-- The outer loop of `set_rule`: the parameters of the rule, from the `i`th on. -/
def setParameters {c : ℕ} (trie : TrieMatcher c) (ruleId ruleParameterCount i : ℕ) :
    List (List Bytes) → TrieMatcher c × Except Fault Unit
  | [] => (trie, .ok ())
  | patterns :: rule =>
    match setPatterns trie (u32 (ruleId * ruleParameterCount + i)) patterns with
    | (trie, .ok ()) => setParameters trie ruleId ruleParameterCount (i + 1) rule
    | (trie, .error e) => (trie, .error e)

/-- `set_rule`. -/
def setRule (m : PrefixRuleMatcher rulesCount ruleParameterCount) (rule : List (List Bytes)) :
    PrefixRuleMatcher rulesCount ruleParameterCount × Except Fault ℕ :=
  let ruleId := u32 m.countOfSetRules
  let (trie, out) := setParameters m.trie ruleId ruleParameterCount 0 rule
  (⟨m.countOfSetRules + 1, trie⟩, out.map fun _ => ruleId)

/-- The loop of `match_get_bitset`, from the second field on. -/
def matchFields {c : ℕ} (trie : TrieMatcher c) (result : BitSet c) :
    List Bytes → Except Fault (BitSet c)
  | [] => .ok result
  | field :: record =>
    match result.shiftRight with
    | none => .error .outOfBounds
    | some result =>
      match trie.matchQuery field with
      | .ok found => matchFields trie (result.andAssign found) record
      | .error e => .error e

/-- `match_get_bitset`. -/
def matchGetBitset (m : PrefixRuleMatcher rulesCount ruleParameterCount) (record : List Bytes) :
    Except Fault (BitSet (rulesCount * ruleParameterCount)) :=
  match record with
  | [] => .error .outOfBounds
  | field :: record =>
    match m.trie.matchQuery field with
    | .error e => .error e
    | .ok result =>
      match matchFields m.trie result record with
      | .error e => .error e
      | .ok result => .ok (result.andAssign (matchMask rulesCount ruleParameterCount))

/-- `match`. -/
def matchRecord (m : PrefixRuleMatcher rulesCount ruleParameterCount) (record : List Bytes) :
    Except Fault (List ℕ) :=
  (m.matchGetBitset record).map fun result =>
    result.getSetBitsIndices.map fun item => u32 ((item + 1) / ruleParameterCount - 1)

/-! ### What `set_rule` enters -/

/-- A parameter whose patterns the trie takes. -/
def ValidPatterns (patterns : List Bytes) : Prop := ∀ p ∈ patterns, ValidPattern p

/-- A rule `set_rule` takes. -/
def ValidRule (rule : List (List Bytes)) : Prop := ∀ patterns ∈ rule, ValidPatterns patterns

/-- No pattern of the parameter is empty. -/
def NonemptyPatterns (patterns : List Bytes) : Prop := ∀ p ∈ patterns, p ≠ []

theorem ValidPattern.any_isUpper {p : Bytes} (h : ValidPattern p) : p.any isUpper = false := by
  rw [List.any_eq_false]
  intro ch hc
  have := h.2 ch hc
  simp only [allowed, Bool.and_eq_true, Bool.not_eq_true'] at this
  simp [this.2]

section Entering

variable {c : ℕ}

/-- Adding a pattern leaves the other tags' marks alone, whatever its outcome. -/
theorem addEntry_frame (trie : TrieMatcher c) (pattern : Bytes) {tag t : ℕ} (htag : tag < 2 ^ 32)
    (ht : t ≠ tag) (ty : EntryType) (q : List Slot) :
    (trie.addEntry pattern tag).1.Marked ty q t ↔ trie.Marked ty q t := by
  by_cases hne : pattern = []
  · subst hne; rfl
  · by_cases hv : ValidPattern pattern
    · by_cases hin : tag < BitSet.capacity c
      · simp [(trie.addEntry_marked hv hin).2, ht]
      · rw [TrieMatcher.addEntry_eq trie hne]
        exact TrieMatcher.addEntryAs_fault trie (.inr (mt (BitSet.inStorage_iff htag).mp hin)) ty q t
    · exact (trie.addEntry_exception hne hv tag).2 ty q t

theorem setPatterns_frame (trie : TrieMatcher c) (patterns : List Bytes) {tag t : ℕ}
    (htag : tag < 2 ^ 32) (ht : t ≠ tag) (ty : EntryType) (q : List Slot) :
    (setPatterns trie tag patterns).1.Marked ty q t ↔ trie.Marked ty q t := by
  induction patterns generalizing trie with
  | nil => rfl
  | cons p patterns ih =>
    rw [setPatterns]
    split
    · rfl
    · have hframe := addEntry_frame trie p htag ht ty q
      split <;> rename_i heq <;> rw [heq] at hframe
      · rw [ih, hframe]
      · exact hframe

theorem setPatterns_cons (trie : TrieMatcher c) {p : Bytes} (hp : ValidPattern p) (patterns : List Bytes) {tag : ℕ}
    (htag : tag < BitSet.capacity c) :
    setPatterns trie tag (p :: patterns) = setPatterns (trie.addEntry p tag).1 tag patterns := by
  have hok := (trie.addEntry_marked hp htag).1
  rw [setPatterns, if_neg (by simp [ValidPattern.any_isUpper hp])]
  split <;> rename_i heq <;> rw [heq] at hok ⊢
  cases hok

theorem setPatterns_ok (trie : TrieMatcher c) {patterns : List Bytes} (h : ValidPatterns patterns)
    {tag : ℕ} (htag : tag < BitSet.capacity c) :
    (setPatterns trie tag patterns).2 = .ok () ∧ ∀ ty q t,
      (setPatterns trie tag patterns).1.Marked ty q t ↔ trie.Marked ty q t ∨
        (t = tag ∧ ∃ p ∈ patterns, ty = (entry p).1 ∧ q = path (entry p).2) := by
  induction patterns generalizing trie with
  | nil => exact ⟨rfl, by simp [setPatterns]⟩
  | cons p patterns ih =>
    have hp : ValidPattern p := h p (by simp)
    obtain ⟨hok, hm⟩ := ih (trie.addEntry p tag).1 fun p' hp' => h p' (by simp [hp'])
    rw [setPatterns_cons trie hp patterns htag]
    refine ⟨hok, ?_⟩
    intro ty q t
    rw [hm, (trie.addEntry_marked hp htag).2, or_assoc, ← and_assoc, and_comm (b := t = tag), ← and_or_left]
    simp only [List.mem_cons, exists_eq_or_imp]

/-- A first pattern the trie does not take makes the parameter throw before anything is entered,
whatever the tag. -/
theorem setPatterns_first_exception (trie : TrieMatcher c) {p : Bytes} (patterns : List Bytes)
    (hne : p ≠ []) (h : ¬ ValidPattern p) (tag : ℕ) :
    (∃ what, (setPatterns trie tag (p :: patterns)).2 = .error (.exception what)) ∧
      ∀ ty q t, (setPatterns trie tag (p :: patterns)).1.Marked ty q t ↔ trie.Marked ty q t := by
  rw [setPatterns]
  split
  · exact ⟨⟨_, rfl⟩, fun _ _ _ => Iff.rfl⟩
  · obtain ⟨⟨what, hw⟩, hm⟩ := trie.addEntry_exception hne h tag
    split <;> rename_i heq <;> rw [heq] at hw hm
    · cases hw
    · exact ⟨⟨what, hw⟩, hm⟩

theorem setPatterns_exception (trie : TrieMatcher c) {patterns : List Bytes}
    (hne : NonemptyPatterns patterns) (h : ¬ ValidPatterns patterns) {tag : ℕ}
    (htag : tag < BitSet.capacity c) :
    ∃ what, (setPatterns trie tag patterns).2 = .error (.exception what) := by
  induction patterns generalizing trie with
  | nil => exact absurd (fun p hp => by simp at hp) h
  | cons p patterns ih =>
    by_cases hp : ValidPattern p
    · rw [setPatterns_cons trie hp patterns htag]
      exact ih _ (fun p' hp' => hne p' (by simp [hp'])) fun hv => h (List.forall_mem_cons.mpr ⟨hp, hv⟩)
    · exact (setPatterns_first_exception trie patterns (hne p (by simp)) hp tag).1

/-- A rule leaves the marks of the tags that are not its own alone, whatever its outcome. -/
theorem setParameters_frame (trie : TrieMatcher c) (ruleId parameterCount i : ℕ)
    (rule : List (List Bytes)) {t : ℕ}
    (ht : ∀ j, i ≤ j → j < i + rule.length → t ≠ u32 (ruleId * parameterCount + j))
    (ty : EntryType) (q : List Slot) :
    (setParameters trie ruleId parameterCount i rule).1.Marked ty q t ↔ trie.Marked ty q t := by
  induction rule generalizing trie i with
  | nil => rfl
  | cons patterns rule ih =>
    have hframe := setPatterns_frame trie patterns (u32_lt _) (ht i le_rfl (by simp)) ty q
    rw [setParameters]
    split <;> rename_i heq <;> rw [heq] at hframe
    · rw [ih _ (i + 1) fun j hj hj' => ht j (by omega) (by simp only [List.length_cons]; omega), hframe]
    · exact hframe

theorem setParameters_ok (trie : TrieMatcher c) (ruleId parameterCount i : ℕ)
    {rule : List (List Bytes)} (h : ValidRule rule)
    (hroom : ruleId * parameterCount + i + rule.length ≤ BitSet.capacity c) :
    (setParameters trie ruleId parameterCount i rule).2 = .ok () ∧ ∀ ty q t,
      (setParameters trie ruleId parameterCount i rule).1.Marked ty q t ↔ trie.Marked ty q t ∨
        ∃ j patterns, rule[j]? = some patterns ∧ t = ruleId * parameterCount + i + j ∧
          ∃ p ∈ patterns, ty = (entry p).1 ∧ q = path (entry p).2 := by
  induction rule generalizing trie i with
  | nil => exact ⟨rfl, by simp [setParameters]⟩
  | cons patterns rule ih =>
    simp only [List.length_cons] at hroom
    have hlt := BitSet.capacity_lt c
    have htag : u32 (ruleId * parameterCount + i) = ruleId * parameterCount + i :=
      Nat.mod_eq_of_lt (by omega)
    obtain ⟨hok, hm⟩ := setPatterns_ok trie (h patterns (by simp))
      (show ruleId * parameterCount + i < BitSet.capacity c by omega)
    have hstep : setParameters trie ruleId parameterCount i (patterns :: rule) =
        setParameters (setPatterns trie (ruleId * parameterCount + i) patterns).1 ruleId
          parameterCount (i + 1) rule := by
      rw [setParameters, htag]
      split <;> rename_i heq <;> rw [heq] at hok ⊢
      cases hok
    obtain ⟨hok', hm'⟩ := ih (setPatterns trie (ruleId * parameterCount + i) patterns).1 (i + 1)
      (fun ps hps => h ps (by simp [hps])) (by omega)
    rw [hstep]
    refine ⟨hok', ?_⟩
    intro ty q t
    rw [hm', hm, or_assoc]
    refine or_congr Iff.rfl ⟨?_, ?_⟩
    · rintro (⟨rfl, hp⟩ | ⟨j, ps, hj, rfl, hp⟩)
      · exact ⟨0, patterns, rfl, rfl, hp⟩
      · exact ⟨j + 1, ps, hj, by omega, hp⟩
    · rintro ⟨j, ps, hj, rfl, hp⟩
      cases j with
      | zero => cases hj; exact .inl ⟨rfl, hp⟩
      | succ j => exact .inr ⟨j, ps, hj, by omega, hp⟩

theorem setParameters_exception (trie : TrieMatcher c) (ruleId parameterCount i : ℕ)
    {rule : List (List Bytes)} (hne : ∀ patterns ∈ rule, NonemptyPatterns patterns)
    (h : ¬ ValidRule rule) (hroom : ruleId * parameterCount + i + rule.length ≤ BitSet.capacity c) :
    ∃ what, (setParameters trie ruleId parameterCount i rule).2 = .error (.exception what) := by
  induction rule generalizing trie i with
  | nil => exact absurd (fun ps hps => by simp at hps) h
  | cons patterns rule ih =>
    simp only [List.length_cons] at hroom
    have htag : u32 (ruleId * parameterCount + i) < BitSet.capacity c :=
      lt_of_le_of_lt (Nat.mod_le _ _) (by omega)
    rw [setParameters]
    by_cases hp : ValidPatterns patterns
    · have hok := (setPatterns_ok trie hp htag).1
      split <;> rename_i heq <;> rw [heq] at hok
      · refine ih _ (i + 1) (fun ps hps => hne ps (by simp [hps])) (fun hv => h fun ps hps => ?_) (by omega)
        rcases List.mem_cons.mp hps with rfl | hps
        · exact hp
        · exact hv ps hps
      · cases hok
    · obtain ⟨what, hw⟩ := setPatterns_exception trie (hne patterns (by simp)) hp htag
      split <;> rename_i heq <;> rw [heq] at hw
      · cases hw
      · exact ⟨what, hw⟩

end Entering

/-! ### What `match` finds -/

section Matching

variable {c : ℕ}

/-- A field's bit set has a tag. -/
def found (trie : TrieMatcher c) (field : Bytes) (t : ℕ) : Bool :=
  match trie.matchQuery field with
  | .ok r => r.get t
  | .error _ => false

/-- The bit sets of consecutive fields have consecutive tags, from `t` on. -/
def foundFrom (trie : TrieMatcher c) (t : ℕ) : List Bytes → Bool
  | [] => true
  | field :: record => found trie field t && foundFrom trie (t + 1) record

theorem lt_of_found {trie : TrieMatcher c} {field : Bytes} {t : ℕ} (h : found trie field t = true) :
    t < 64 * wordSize c := by
  by_contra hn
  rw [found] at h
  split at h
  · rw [BitSet.get_of_le _ (by omega)] at h
    cases h
  · cases h

theorem matchFields_ok_iff (trie : TrieMatcher c) (hc : 0 < c) (result : BitSet c) (record : List Bytes) :
    (∃ r, matchFields trie result record = .ok r) ↔ ∀ field ∈ record, trie.root.Escapes (lower field) := by
  induction record generalizing result with
  | nil => exact ⟨fun _ => List.forall_mem_nil _, fun _ => ⟨result, rfl⟩⟩
  | cons field record ih =>
    obtain ⟨shifted, hshift, -⟩ := result.shiftRight_get hc
    rw [List.forall_mem_cons, ← trie.matchQuery_ok_iff field, matchFields, hshift]
    cases hq : trie.matchQuery field with
    | error e => simp
    | ok found => simp only [ih, Except.ok.injEq, exists_eq', true_and]

/-- A lookup of a printable field returns, and `found` reads its bits. -/
theorem matchQuery_found (trie : TrieMatcher c) {field : Bytes} (h : Printable field) :
    ∃ r, trie.matchQuery field = .ok r ∧ ∀ t, r.get t = found trie field t := by
  obtain ⟨r, hr, -⟩ := trie.matchQuery_get h
  exact ⟨r, hr, fun t => by simp [found, hr]⟩

/-- The chain of shifts and intersections: a bit is left exactly when it came from the bit the
fields' number below it and every field found the bit it passed on the way. -/
theorem matchFields_get (trie : TrieMatcher c) (result : BitSet c) {record : List Bytes}
    (h : ∀ field ∈ record, Printable field) (hc : 0 < c) :
    ∃ r, matchFields trie result record = .ok r ∧ ∀ t, r.get t = true ↔
      record.length ≤ t ∧ result.get (t - record.length) = true ∧
        foundFrom trie (t - record.length + 1) record = true := by
  induction record generalizing result with
  | nil => exact ⟨result, rfl, by simp [foundFrom]⟩
  | cons field record ih =>
    obtain ⟨shifted, hshift, hbits⟩ := result.shiftRight_get hc
    obtain ⟨f, hf, hfound⟩ := matchQuery_found trie (h field (by simp))
    obtain ⟨r, hr, hget⟩ := ih (shifted.andAssign f) (fun x hx => h x (by simp [hx]))
    refine ⟨r, by rw [matchFields, hshift]; simpa only [hf] using hr, ?_⟩
    intro t
    rw [hget, BitSet.get_andAssign, hbits, hfound, foundFrom]
    simp only [List.length_cons, Bool.and_eq_true, decide_eq_true_eq]
    constructor
    · rintro ⟨hle, ⟨⟨⟨hpos, -⟩, hres⟩, hfield⟩, hrest⟩
      have h1 : t - (record.length + 1) = t - record.length - 1 := by omega
      have h2 : t - (record.length + 1) + 1 = t - record.length := by omega
      rw [h2, h1]
      exact ⟨by omega, hres, hfield, hrest⟩
    · rintro ⟨hle, hres, hfield, hrest⟩
      have h1 : t - (record.length + 1) = t - record.length - 1 := by omega
      have h2 : t - (record.length + 1) + 1 = t - record.length := by omega
      rw [h2] at hfield hrest
      rw [h1] at hres
      exact ⟨by omega, ⟨⟨⟨by omega, lt_of_found hfield⟩, hres⟩, hfield⟩, hrest⟩

section LastTags

variable {P : ℕ}

/-- The last tags of different rules are different and in the rules' order. -/
theorem lastTag_lt (hP : 0 < P) {r r' : ℕ} (h : r < r') : (r + 1) * P - 1 < (r' + 1) * P - 1 := by
  have hlt : (r + 1) * P < (r' + 1) * P := Nat.mul_lt_mul_of_pos_right (by omega) hP
  have hpos : 0 < (r + 1) * P := Nat.mul_pos (by omega) hP
  omega

theorem lastTag_bound (hP : 0 < P) {r R : ℕ} (h : r < R) : (r + 1) * P - 1 < R * P := by
  have hle : (r + 1) * P ≤ R * P := Nat.mul_le_mul_right _ h
  have hpos : 0 < (r + 1) * P := Nat.mul_pos (by omega) hP
  omega

/-- The constructor's loop returns while the storage's indices fit an `int`, and the mask has the tag
of every rule's last parameter. -/
theorem setMask_get {R : ℕ} (hP : 0 < P) (hsize : R * P ≤ 2 ^ 31) {n : ℕ} (hn : n ≤ R) :
    ∃ mask, setMask R P n = some mask ∧ ∀ t, mask.get t = true ↔ ∃ r < n, t = (r + 1) * P - 1 := by
  induction n with
  | zero => exact ⟨BitSet.new _, rfl, by simp⟩
  | succ n ih =>
    obtain ⟨mask, hmask, hget⟩ := ih (by omega)
    have hin : (n + 1) * P - 1 < BitSet.capacity (R * P) :=
      lt_of_lt_of_le (lastTag_bound hP hn) (BitSet.le_capacity hsize)
    obtain ⟨mask', hmask'⟩ := mask.exists_set hin
    refine ⟨mask', ?_, ?_⟩
    · rw [setMask, List.range_succ, List.foldlM_append]
      simp only [setMask] at hmask
      simp [hmask, hmask']
    · intro t
      rw [BitSet.get_set hmask' (lt_trans hin (BitSet.capacity_lt _)), Bool.or_eq_true, hget,
        decide_eq_true_eq]
      constructor
      · rintro (⟨r, hr, h⟩ | h)
        · exact ⟨r, by omega, h⟩
        · exact ⟨n, by omega, h⟩
      · rintro ⟨r, hr, h⟩
        rcases Nat.lt_succ_iff_lt_or_eq.mp hr with hr | rfl
        · exact .inl ⟨r, hr, h⟩
        · exact .inr h

theorem create_ok {R : ℕ} (hR : 0 < R) (hP : 0 < P) (hsize : R * P ≤ 2 ^ 31) : create R P = .ok (new R P) := by
  obtain ⟨mask, hmask, -⟩ := setMask_get hP hsize (Nat.le_refl R)
  rw [create, TrieMatcher.create_of_pos (Nat.mul_pos hR hP)]
  simp only [hmask]
  rfl

theorem get_matchMask {R : ℕ} (hP : 0 < P) (hsize : R * P ≤ 2 ^ 31) (t : ℕ) :
    (matchMask R P).get t = true ↔ ∃ r < R, t = (r + 1) * P - 1 := by
  obtain ⟨mask, hmask, hget⟩ := setMask_get hP hsize (Nat.le_refl R)
  rw [matchMask, hmask, Option.getD_some, hget]

/-- A bit set of last tags only: `match` reads the rules' numbers off it. -/
theorem ruleIds_of_lastTags {R : ℕ} (hP : 0 < P) (hR : R ≤ 2 ^ 32) (b : BitSet (R * P)) (p : ℕ → Bool)
    (hb : ∀ t, b.get t = true ↔ ∃ r < R, t = (r + 1) * P - 1 ∧ p r = true) :
    b.getSetBitsIndices.map (fun item => u32 ((item + 1) / P - 1)) = (List.range R).filter p := by
  have hindices : b.getSetBitsIndices =
      ((List.range R).filter p).map fun r => (r + 1) * P - 1 := by
    have hsorted : (((List.range R).filter p).map fun r => (r + 1) * P - 1).Pairwise (· < ·) :=
      (List.pairwise_lt_range.sublist List.filter_sublist).map _ fun r r' => lastTag_lt hP
    rw [BitSet.getSetBitsIndices_eq]
    refine List.Perm.eq_of_pairwise' (r := (· < ·))
      (List.pairwise_lt_range.sublist List.filter_sublist) hsorted ?_
    refine (List.perm_ext_iff_of_nodup (List.nodup_range.sublist List.filter_sublist)
      (hsorted.imp fun h => h.ne)).mpr fun t => ?_
    simp only [List.mem_filter, List.mem_range, hb, List.mem_map]
    constructor
    · rintro ⟨-, r, hr, rfl, h⟩
      exact ⟨r, ⟨hr, h⟩, rfl⟩
    · rintro ⟨r, ⟨hr, h⟩, rfl⟩
      have hbound := lastTag_bound hP hr
      have hstorage := BitSet.le_storage (R * P)
      exact ⟨by omega, r, hr, rfl, h⟩
  rw [hindices, List.map_map]
  refine (List.map_congr_left fun r hr => ?_).trans (List.map_id _)
  have hlt : r < R := by simpa using (List.mem_filter.mp hr).1
  have hpos : 0 < (r + 1) * P := Nat.mul_pos (by omega) hP
  simp only [Function.comp_apply, id_eq, u32]
  rw [Nat.sub_add_cancel hpos, Nat.mul_div_cancel _ hP, Nat.add_sub_cancel,
    Nat.mod_eq_of_lt (by omega)]

end LastTags

/-- **A match** gives the numbers of the rules whose tags the fields found one after the other, in
ascending order. -/
theorem matchRecord_eq (m : PrefixRuleMatcher rulesCount ruleParameterCount) {record : List Bytes}
    (hprint : ∀ field ∈ record, Printable field) (hlen : record.length = ruleParameterCount)
    (hP : 0 < ruleParameterCount) (hsize : rulesCount * ruleParameterCount ≤ 2 ^ 31) (hR : 0 < rulesCount) :
    m.matchRecord record = .ok ((List.range rulesCount).filter fun r =>
      foundFrom m.trie (r * ruleParameterCount) record) := by
  obtain ⟨field, record, rfl⟩ := List.exists_cons_of_length_pos (hlen ▸ hP)
  obtain ⟨f, hf, hfound⟩ := matchQuery_found m.trie (hprint field (by simp))
  have hlen' : record.length = ruleParameterCount - 1 := by simp at hlen; omega
  obtain ⟨result, hresult, hget⟩ := matchFields_get m.trie f
    (fun x hx => hprint x (List.mem_cons_of_mem _ hx)) (Nat.mul_pos hR hP)
  have hcount : rulesCount ≤ 2 ^ 32 := by
    have : rulesCount * 1 ≤ rulesCount * ruleParameterCount := Nat.mul_le_mul_left _ hP
    omega
  have hcons : ∀ t, foundFrom m.trie t (field :: record) =
      (found m.trie field t && foundFrom m.trie (t + 1) record) := fun _ => rfl
  have hbits : ∀ t, (result.andAssign (matchMask rulesCount ruleParameterCount)).get t = true ↔
      ∃ r < rulesCount, t = (r + 1) * ruleParameterCount - 1 ∧
        foundFrom m.trie (r * ruleParameterCount) (field :: record) = true := by
    intro t
    rw [BitSet.get_andAssign, Bool.and_eq_true, get_matchMask hP hsize, hget, hfound, hlen']
    have hfirst : ∀ r, (r + 1) * ruleParameterCount - 1 - (ruleParameterCount - 1) =
        r * ruleParameterCount := by
      intro r; rw [Nat.add_mul]; omega
    constructor
    · rintro ⟨⟨-, h⟩, r, hr, rfl⟩
      rw [hfirst] at h
      exact ⟨r, hr, rfl, by rw [hcons, h.1, h.2]; rfl⟩
    · rintro ⟨r, hr, rfl, h⟩
      rw [hcons, Bool.and_eq_true] at h
      refine ⟨⟨?_, by rwa [hfirst]⟩, r, hr, rfl⟩
      rw [Nat.add_mul]
      omega
  rw [matchRecord, matchGetBitset]
  simp only [hf, hresult, Except.map]
  rw [ruleIds_of_lastTags hP hcount _ _ hbits]

/-- A match throws exactly when the walk of one of the fields does. -/
theorem matchRecord_ok_iff (m : PrefixRuleMatcher rulesCount ruleParameterCount) {record : List Bytes}
    (hne : record ≠ []) (hsize : 0 < rulesCount * ruleParameterCount) :
    (∃ r, m.matchRecord record = .ok r) ↔ ∀ field ∈ record, m.trie.root.Escapes (lower field) := by
  obtain ⟨field, record, rfl⟩ := List.exists_cons_of_ne_nil hne
  rw [List.forall_mem_cons, ← m.trie.matchQuery_ok_iff field, matchRecord, matchGetBitset]
  cases hq : m.trie.matchQuery field with
  | error e => simp [Except.map]
  | ok found =>
    rw [← matchFields_ok_iff m.trie hsize found]
    cases hrest : matchFields m.trie found record <;> simp [Except.map, hrest]

end Matching

/-! ### The rules a matcher holds -/

/-- A rule matches a record: every parameter has a pattern that matches its field. -/
def ruleMatches (rule : List (List Bytes)) (record : List Bytes) : Bool :=
  (rule.zip record).all fun (patterns, field) => patterns.any (patternMatches · field)

/-- The matcher holds a rule under a number: the rule's patterns, and no others, are entered under
the number's tags. -/
def Holds (m : PrefixRuleMatcher rulesCount ruleParameterCount) (ruleId : ℕ)
    (rule : List (List Bytes)) : Prop :=
  ∀ i patterns, rule[i]? = some patterns → m.trie.Entered patterns (ruleId * ruleParameterCount + i)

/-- The numbers not handed out yet have no marks. -/
def Fresh (m : PrefixRuleMatcher rulesCount ruleParameterCount) : Prop :=
  ∀ ty q t, m.countOfSetRules * ruleParameterCount ≤ t → ¬ m.trie.Marked ty q t

theorem fresh_new : (new rulesCount ruleParameterCount).Fresh := fun ty q t _ =>
  TrieMatcher.not_marked_new ty q t

theorem found_eq {c : ℕ} {trie : TrieMatcher c} {patterns : List Bytes} (h : ValidPatterns patterns)
    {t : ℕ} (hent : trie.Entered patterns t) {field : Bytes} (hf : Printable field) :
    found trie field t = patterns.any (patternMatches · field) := by
  obtain ⟨r, hr, hget⟩ := trie.matchQuery_get hf
  rw [Bool.eq_iff_iff, List.any_eq_true, ← hget t patterns h hent]
  simp [found, hr]

/-- Walking the tags of a rule that is held decides whether the rule matches. -/
theorem foundFrom_eq {c : ℕ} {trie : TrieMatcher c} {rule : List (List Bytes)} (h : ValidRule rule)
    {t : ℕ} (hent : ∀ i patterns, rule[i]? = some patterns → trie.Entered patterns (t + i))
    {record : List Bytes} (hf : ∀ field ∈ record, Printable field) (hlen : record.length = rule.length) :
    foundFrom trie t record = ruleMatches rule record := by
  induction rule generalizing t record with
  | nil => rw [List.eq_nil_of_length_eq_zero hlen]; rfl
  | cons patterns rule ih =>
    cases record with
    | nil => simp at hlen
    | cons field record =>
      have hhead := found_eq (h patterns (by simp)) (hent 0 patterns rfl) (hf field (by simp))
      have htail : foundFrom trie (t + 1) record = ruleMatches rule record :=
        ih (fun ps hps => h ps (by simp [hps]))
          (fun i ps hi => by rw [Nat.add_assoc, Nat.add_comm 1]; exact hent (i + 1) ps hi)
          (fun x hx => hf x (List.mem_cons_of_mem _ hx)) (by simpa using hlen)
      rw [foundFrom, htail]
      exact congrArg (· && ruleMatches rule record) hhead

/-- `match` finds a rule that is held exactly when the rule matches. -/
theorem Holds.foundFrom_eq {m : PrefixRuleMatcher rulesCount ruleParameterCount} {ruleId : ℕ}
    {rule : List (List Bytes)} (h : m.Holds ruleId rule) (hvalid : ValidRule rule) {record : List Bytes}
    (hf : ∀ field ∈ record, Printable field) (hlen : record.length = rule.length) :
    foundFrom m.trie (ruleId * ruleParameterCount) record = ruleMatches rule record :=
  PrefixRuleMatcher.foundFrom_eq hvalid h hf hlen

@[simp]
theorem setRule_countOfSetRules (m : PrefixRuleMatcher rulesCount ruleParameterCount)
    (rule : List (List Bytes)) : (m.setRule rule).1.countOfSetRules = m.countOfSetRules + 1 := rfl

/-- What `set_rule` does to the trie and what it returns. -/
theorem setRule_fst_trie (m : PrefixRuleMatcher rulesCount ruleParameterCount)
    (rule : List (List Bytes)) : (m.setRule rule).1.trie =
      (setParameters m.trie (u32 m.countOfSetRules) ruleParameterCount 0 rule).1 := rfl

theorem setRule_snd (m : PrefixRuleMatcher rulesCount ruleParameterCount)
    (rule : List (List Bytes)) : (m.setRule rule).2 =
      (setParameters m.trie (u32 m.countOfSetRules) ruleParameterCount 0 rule).2.map
        fun _ => u32 m.countOfSetRules := rfl

section SetRule

variable {m : PrefixRuleMatcher rulesCount ruleParameterCount} {rule : List (List Bytes)}

theorem setRule_frame (hlen : rule.length = ruleParameterCount)
    (hwidth : (m.countOfSetRules + 1) * ruleParameterCount ≤ 2 ^ 32) (hP : 0 < ruleParameterCount)
    {t : ℕ} (ht : t < m.countOfSetRules * ruleParameterCount ∨
      (m.countOfSetRules + 1) * ruleParameterCount ≤ t) (ty : EntryType) (q : List Slot) :
    (m.setRule rule).1.trie.Marked ty q t ↔ m.trie.Marked ty q t := by
  rw [Nat.add_mul, Nat.one_mul] at ht hwidth
  have hcount : m.countOfSetRules < 2 ^ 32 := by
    have : m.countOfSetRules * 1 ≤ m.countOfSetRules * ruleParameterCount := Nat.mul_le_mul_left _ hP
    omega
  have hid : u32 m.countOfSetRules = m.countOfSetRules := Nat.mod_eq_of_lt hcount
  rw [setRule_fst_trie, hid]
  refine setParameters_frame _ _ _ _ _ ?_ ty q
  intro j _ hj
  have htag : u32 (m.countOfSetRules * ruleParameterCount + j) =
      m.countOfSetRules * ruleParameterCount + j := Nat.mod_eq_of_lt (by omega)
  omega

/-- A rule that was held under a number handed out before is held still. -/
theorem Holds.setRule {ruleId : ℕ} {rule' : List (List Bytes)} (h : m.Holds ruleId rule')
    (hlen' : rule'.length = ruleParameterCount) (hid : ruleId < m.countOfSetRules)
    (hlen : rule.length = ruleParameterCount)
    (hwidth : (m.countOfSetRules + 1) * ruleParameterCount ≤ 2 ^ 32) :
    (m.setRule rule).1.Holds ruleId rule' := by
  intro i patterns hi ty q
  have hi' : i < ruleParameterCount := hlen' ▸ (List.getElem?_eq_some_iff.mp hi).1
  have hbound : (ruleId + 1) * ruleParameterCount ≤ m.countOfSetRules * ruleParameterCount :=
    Nat.mul_le_mul_right _ hid
  rw [Nat.add_mul, Nat.one_mul] at hbound
  rw [setRule_frame hlen hwidth (by omega) (.inl (by omega))]
  exact h i patterns hi ty q

theorem Fresh.setRule (h : m.Fresh) (hlen : rule.length = ruleParameterCount)
    (hwidth : (m.countOfSetRules + 1) * ruleParameterCount ≤ 2 ^ 32) (hP : 0 < ruleParameterCount) :
    (m.setRule rule).1.Fresh := by
  intro ty q t ht
  rw [setRule_countOfSetRules] at ht
  rw [setRule_frame hlen hwidth hP (.inr ht)]
  exact h ty q t (le_trans (Nat.mul_le_mul_right _ (Nat.le_succ _)) ht)

/-- **A rule with valid patterns** is taken under the next number while its tags fit the storage, and is
held under it. -/
theorem setRule_ok (h : m.Fresh) (hvalid : ValidRule rule) (hlen : rule.length = ruleParameterCount)
    (hroom : (m.countOfSetRules + 1) * ruleParameterCount ≤
      BitSet.capacity (rulesCount * ruleParameterCount)) (hP : 0 < ruleParameterCount) :
    (m.setRule rule).2 = .ok m.countOfSetRules ∧ (m.setRule rule).1.Holds m.countOfSetRules rule := by
  have hcount : m.countOfSetRules < 2 ^ 32 := by
    have : (m.countOfSetRules + 1) * 1 ≤ (m.countOfSetRules + 1) * ruleParameterCount :=
      Nat.mul_le_mul_left _ hP
    have := BitSet.capacity_lt (rulesCount * ruleParameterCount)
    omega
  have hid : u32 m.countOfSetRules = m.countOfSetRules := Nat.mod_eq_of_lt hcount
  rw [Nat.add_mul, Nat.one_mul] at hroom
  obtain ⟨hok, hm⟩ := setParameters_ok m.trie m.countOfSetRules ruleParameterCount 0 hvalid
    (by omega)
  refine ⟨by rw [setRule_snd, hid, hok]; rfl, ?_⟩
  intro i patterns hi ty q
  rw [setRule_fst_trie, hid, hm]
  constructor
  · rintro (hold | ⟨j, ps, hj, htag, hp⟩)
    · exact absurd hold (h ty q _ (by omega))
    · have hij : i = j := by omega
      subst hij
      rw [hi] at hj
      cases hj
      exact hp
  · exact fun hp => .inr ⟨i, patterns, hi, by omega, hp⟩

/-- A rule with a pattern the trie does not take makes `set_rule` throw while its tags fit the
storage. -/
theorem setRule_exception (hvalid : ¬ ValidRule rule) (hne : ∀ patterns ∈ rule, NonemptyPatterns patterns)
    (hlen : rule.length = ruleParameterCount)
    (hroom : (m.countOfSetRules + 1) * ruleParameterCount ≤
      BitSet.capacity (rulesCount * ruleParameterCount)) :
    ∃ what, (m.setRule rule).2 = .error (.exception what) := by
  have hid : u32 m.countOfSetRules * ruleParameterCount ≤ m.countOfSetRules * ruleParameterCount :=
    Nat.mul_le_mul_right _ (Nat.mod_le _ _)
  rw [Nat.add_mul, Nat.one_mul] at hroom
  obtain ⟨what, hw⟩ := setParameters_exception m.trie (u32 m.countOfSetRules) ruleParameterCount 0 hne
    hvalid (by omega)
  exact ⟨what, by rw [setRule_snd, hw]; rfl⟩

/-- A rule whose first pattern the trie does not take makes `set_rule` throw before it enters
anything, whatever its number. -/
theorem setRule_first_exception (m : PrefixRuleMatcher rulesCount ruleParameterCount) {p : Bytes}
    (hne : p ≠ []) (h : ¬ ValidPattern p) (patterns : List Bytes) (rest : List (List Bytes)) :
    (∃ what, (m.setRule ((p :: patterns) :: rest)).2 = .error (.exception what)) ∧ ∀ ty q t,
      (m.setRule ((p :: patterns) :: rest)).1.trie.Marked ty q t ↔ m.trie.Marked ty q t := by
  obtain ⟨⟨what, hw⟩, hm⟩ := setPatterns_first_exception m.trie patterns hne h
    (u32 (u32 m.countOfSetRules * ruleParameterCount + 0))
  have hstep : setParameters m.trie (u32 m.countOfSetRules) ruleParameterCount 0
      ((p :: patterns) :: rest) = ((setPatterns m.trie
        (u32 (u32 m.countOfSetRules * ruleParameterCount + 0)) (p :: patterns)).1,
          .error (.exception what)) := by
    rw [setParameters]
    split <;> rename_i heq <;> rw [heq] at hw
    · cases hw
    · rw [heq, ← hw]
  refine ⟨⟨what, by rw [setRule_snd, hstep]; rfl⟩, ?_⟩
  intro ty q t
  rw [setRule_fst_trie, hstep]
  exact hm ty q t

end SetRule

end PrefixRuleMatcher

end SmppGateway.Routing
