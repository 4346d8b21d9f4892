import SmppGateway.Routing.PrefixRuleMatcher

/-!
# Shifting and intersecting against matching one by one

All patterns of a `prefix_rule_matcher` share one trie and one row of bits, and `match`
reads the rules off a chain of shifts and intersections. What it is for needs neither:
a rule matches a record when each of its parameters has a pattern that alone, in a trie
of its own, finds the parameter's string.

## The model

`matchesAlone` asks `trie_matcher::match` of a trie with one pattern under the tag `0`,
and `matchesOneByOne` is the matching of a rule written with it. `setRules` is a
sequence of calls of `set_rule` on one matcher, with the numbers they return.

## What is proved

* `Carries.setRules` — a matcher takes valid rules one after the other, numbers them
  from `0` on and carries each of them.
* `Carries.mem_matchRecord` — it finds exactly the rules that match one by one.
* `exactFor_iff` — a size is served so exactly when it fits the indices of
  `bit_set::set` and is not zero.
-/

namespace SmppGateway.Routing

open SmppGateway.Foundation

namespace PrefixRuleMatcher

variable {R P : ℕ}

/-! ### One pattern at a time -/

/-- `trie_matcher::match` of the string in a trie with the one pattern. -/
def matchesAlone (pattern field : Bytes) : Bool :=
  match (TrieMatcher.new 1).addEntry pattern 0 with
  | (trie, .ok ()) => found trie field 0
  | (_, .error _) => false

/-- Every parameter has a pattern that alone matches the record's string. -/
def matchesOneByOne (rule : List (List Bytes)) (record : List Bytes) : Bool :=
  (rule.zip record).all fun (patterns, field) => patterns.any (matchesAlone · field)

theorem matchesAlone_eq {pattern field : Bytes} (hp : ValidPattern pattern) (hf : Printable field) :
    matchesAlone pattern field = patternMatches pattern field := by
  obtain ⟨hok, hm⟩ := (TrieMatcher.new 1).addEntry_marked hp (show 0 < BitSet.capacity 1 by decide)
  have hent : ((TrieMatcher.new 1).addEntry pattern 0).1.Entered [pattern] 0 := by
    intro ty q
    simp [hm]
  have hvalid : ValidPatterns [pattern] := by simpa [ValidPatterns] using hp
  have hfound := found_eq hvalid hent hf
  rw [matchesAlone]
  split <;> rename_i heq <;> rw [heq] at hok hfound
  · simpa using hfound
  · cases hok

theorem matchesOneByOne_eq {rule : List (List Bytes)} (hrule : ValidRule rule) {record : List Bytes}
    (hf : ∀ field ∈ record, Printable field) : matchesOneByOne rule record = ruleMatches rule record := by
  rw [matchesOneByOne, ruleMatches, Bool.eq_iff_iff, List.all_eq_true, List.all_eq_true]
  refine forall₂_congr fun e he => ?_
  obtain ⟨hpatterns, hfield⟩ := List.of_mem_zip he
  rw [List.any_eq_true, List.any_eq_true]
  refine exists_congr fun p => and_congr_right fun hp => ?_
  rw [matchesAlone_eq (hrule _ hpatterns p hp) (hf _ hfield)]

/-! ### The rules one after the other -/

/-- Calls of `set_rule`, and the numbers they return. -/
def setRules (m : PrefixRuleMatcher R P) :
    List (List (List Bytes)) → Except Fault (PrefixRuleMatcher R P × List ℕ)
  | [] => .ok (m, [])
  | rule :: rules =>
    match m.setRule rule with
    | (m, .ok ruleId) => (m.setRules rules).map fun (m, ruleIds) => (m, ruleId :: ruleIds)
    | (_, .error e) => .error e

/-- The matcher carries the rules under their positions, and nothing else. -/
structure Carries (m : PrefixRuleMatcher R P) (rules : List (List (List Bytes))) : Prop where
  /-- Each rule has used up one number. -/
  count : m.countOfSetRules = rules.length
  /-- The other numbers have no marks. -/
  fresh : m.Fresh
  /-- The rules have the matcher's parameters. -/
  parameters : ∀ rule ∈ rules, rule.length = P
  /-- Each rule's patterns are entered under its own tags. -/
  holds : ∀ k rule, rules[k]? = some rule → m.Holds k rule

theorem carries_new : (new R P).Carries [] where
  count := rfl
  fresh := fresh_new
  parameters := by simp
  holds := by simp

section Setting

variable {m : PrefixRuleMatcher R P} {rules : List (List (List Bytes))}

/-- A valid rule is taken while there is room, and the rules before it stay. -/
theorem Carries.setRule (h : m.Carries rules) (hP : 0 < P) {rule : List (List Bytes)}
    (hlen : rule.length = P) (hvalid : ValidRule rule)
    (hroom : (rules.length + 1) * P ≤ BitSet.capacity (R * P)) :
    (m.setRule rule).2 = .ok rules.length ∧ (m.setRule rule).1.Carries (rules ++ [rule]) := by
  rw [← h.count] at hroom
  have hwidth : (m.countOfSetRules + 1) * P ≤ 2 ^ 32 := hroom.trans (BitSet.capacity_lt _).le
  obtain ⟨hok, hheld⟩ := setRule_ok h.fresh hvalid hlen hroom hP
  refine ⟨h.count ▸ hok, by simp [h.count], h.fresh.setRule hlen hwidth hP, ?_, ?_⟩
  · simpa [or_imp, forall_and, hlen] using h.parameters
  · intro k rule' hk
    rcases Nat.lt_or_ge k rules.length with hlt | hge
    · rw [List.getElem?_append_left hlt] at hk
      exact (h.holds k rule' hk).setRule (h.parameters _ (List.mem_of_getElem? hk))
        (h.count ▸ hlt) hlen hwidth
    · obtain ⟨hk0, rfl⟩ : k - rules.length = 0 ∧ rule = rule' := by
        rw [List.getElem?_append_right hge, List.getElem?_singleton] at hk
        split at hk
        · exact ⟨by omega, Option.some.inj hk⟩
        · cases hk
      obtain rfl : k = m.countOfSetRules := by rw [h.count]; omega
      exact hheld

/-- Valid rules are taken one after the other, under the next numbers. -/
theorem Carries.setRules (h : m.Carries rules) (hP : 0 < P) {next : List (List (List Bytes))}
    (hnext : ∀ rule ∈ next, rule.length = P ∧ ValidRule rule)
    (hroom : (rules.length + next.length) * P ≤ BitSet.capacity (R * P)) :
    ∃ m', m.setRules next = .ok (m', List.range' rules.length next.length) ∧
      m'.Carries (rules ++ next) := by
  induction next generalizing m rules with
  | nil => exact ⟨m, rfl, by simpa using h⟩
  | cons rule next ih =>
    obtain ⟨hlen, hvalid⟩ := hnext rule (by simp)
    rw [List.length_cons] at hroom
    have hfirst : (rules.length + 1) * P ≤ BitSet.capacity (R * P) :=
      le_trans (Nat.mul_le_mul_right _ (by omega)) hroom
    obtain ⟨hok, hcarries⟩ := h.setRule hP hlen hvalid hfirst
    obtain ⟨m', hm', hcarries'⟩ := ih hcarries (fun r hr => hnext r (by simp [hr]))
      (by simpa [Nat.add_assoc, Nat.add_comm 1] using hroom)
    refine ⟨m', ?_, by simpa using hcarries'⟩
    rw [PrefixRuleMatcher.setRules]
    split <;> rename_i heq <;> rw [heq] at hok hm' <;> cases hok
    rw [hm', List.length_append, List.length_singleton, List.length_cons, List.range'_succ]
    rfl

end Setting

/-! ### What is found -/

section Finding

variable {m : PrefixRuleMatcher R P} {rules : List (List (List Bytes))} {record : List Bytes}

theorem Fresh.found_eq_false (h : m.Fresh) {t : ℕ} (ht : m.countOfSetRules * P ≤ t) {field : Bytes}
    (hf : Printable field) : found m.trie field t = false := by
  have hnone : m.trie.Entered [] t := by
    intro ty q
    simpa using h ty q t ht
  have hempty : ValidPatterns [] := fun p hp => by cases hp
  exact found_eq hempty hnone hf

theorem Fresh.foundFrom_eq_false (h : m.Fresh) (hP : 0 < P) (hlen : record.length = P)
    (hf : ∀ field ∈ record, Printable field) {r : ℕ} (hr : m.countOfSetRules ≤ r) :
    foundFrom m.trie (r * P) record = false := by
  obtain ⟨field, record, rfl⟩ := List.exists_cons_of_length_pos (hlen ▸ hP)
  have hfield : found m.trie field (r * P) = false :=
    h.found_eq_false (Nat.mul_le_mul_right _ hr) (hf field (by simp))
  rw [foundFrom, hfield, Bool.false_and]

/-- What is found among the numbers of a matcher are the rules that match one by one. -/
theorem Carries.foundFrom_iff (h : m.Carries rules) (hP : 0 < P) (hvalid : ∀ rule ∈ rules, ValidRule rule)
    (hlen : record.length = P) (hf : ∀ field ∈ record, Printable field) (r : ℕ) :
    foundFrom m.trie (r * P) record = true ↔
      ∃ rule, rules[r]? = some rule ∧ matchesOneByOne rule record = true := by
  rcases Nat.lt_or_ge r rules.length with hlt | hge
  · have hrule : rules[r]? = some rules[r] := List.getElem?_eq_getElem hlt
    have hmem : rules[r] ∈ rules := List.getElem_mem hlt
    rw [(h.holds r _ hrule).foundFrom_eq (hvalid _ hmem) hf (hlen.trans (h.parameters _ hmem).symm),
      ← matchesOneByOne_eq (hvalid _ hmem) hf]
    simp [hrule]
  · rw [h.fresh.foundFrom_eq_false hP hlen hf (h.count ▸ hge), List.getElem?_eq_none hge]
    simp

/-- **A match** lists, in ascending order, the numbers of the rules that match one by one. -/
theorem Carries.mem_matchRecord (h : m.Carries rules) (hP : 0 < P) (hsize : R * P ≤ 2 ^ 31)
    (hR : 0 < R) (hroom : rules.length ≤ R) (hvalid : ∀ rule ∈ rules, ValidRule rule)
    (hlen : record.length = P) (hf : ∀ field ∈ record, Printable field) :
    ∃ result, m.matchRecord record = .ok result ∧ result.Pairwise (· < ·) ∧ ∀ r, r ∈ result ↔
      ∃ rule, rules[r]? = some rule ∧ matchesOneByOne rule record = true := by
  refine ⟨_, matchRecord_eq m hf hlen hP hsize hR,
    List.pairwise_lt_range.sublist List.filter_sublist, ?_⟩
  intro r
  rw [List.mem_filter, List.mem_range, h.foundFrom_iff hP hvalid hlen hf]
  refine and_iff_right_of_imp ?_
  rintro ⟨rule, hrule, -⟩
  exact (List.getElem?_eq_some_iff.mp hrule).1.trans_le hroom

end Finding

/-! ### The sizes that are not served -/

theorem create_eq {m : PrefixRuleMatcher R P} (h : create R P = .ok m) : m = new R P := by
  rw [create] at h
  rcases Nat.eq_zero_or_pos (R * P) with hzero | hpos
  · rw [TrieMatcher.create_of_eq_zero hzero] at h
    cases h
  · rw [TrieMatcher.create_of_pos hpos] at h
    simp only at h
    split at h <;> cases h
    rfl

theorem create_of_empty (P : ℕ) : create 0 P = .error BitSet.badArrayNewLength := by
  rw [create, TrieMatcher.create_of_eq_zero (Nat.zero_mul P)]

theorem pos_of_create {m : PrefixRuleMatcher R P} (h : create R P = .ok m) : 0 < R := by
  refine Nat.pos_of_ne_zero ?_
  rintro rfl
  rw [create_of_empty] at h
  cases h

/-- The constructor's loop comes to an index from `2 ^ 31` on, which as an `int` is negative. -/
theorem create_of_large (hP : P ≤ 2 ^ 31) (hsize : 2 ^ 31 < R * P) : create R P = .error .outOfBounds := by
  have hpos : 0 < P := Nat.pos_of_ne_zero fun h => by simp [h] at hsize
  have hi : 2 ^ 31 / P ∈ List.range R := List.mem_range.mpr ((Nat.div_lt_iff_lt_mul hpos).mpr hsize)
  have hlow : 2 ^ 31 < (2 ^ 31 / P + 1) * P := by
    have := Nat.lt_div_mul_add (a := 2 ^ 31) hpos
    rw [Nat.add_mul]
    omega
  have hhigh : (2 ^ 31 / P + 1) * P ≤ 2 ^ 31 + P := by
    have := Nat.div_mul_le_self (2 ^ 31) P
    rw [Nat.add_mul]
    omega
  have hout : ¬ BitSet.InStorage (R * P) ((2 ^ 31 / P + 1) * P - 1) := by
    rw [BitSet.InStorage, Nat.mod_eq_of_lt (by omega)]
    omega
  have hmask : setMask R P R = none := foldlM_eq_none hi (fun _ => BitSet.set_eq_none hout) _
  rw [create, TrieMatcher.create_of_pos (by omega)]
  simp only [hmask]

theorem setParameters_outOfBounds {c : ℕ} (trie : TrieMatcher c) (ruleId i : ℕ) {rule : List (List Bytes)}
    (hvalid : ValidRule rule) {j : ℕ} {p : Bytes} {patterns : List Bytes}
    (hj : rule[j]? = some (p :: patterns)) (hout : ¬ BitSet.InStorage c (u32 (ruleId * P + i + j))) :
    ∃ e, (setParameters trie ruleId P i rule).2 = .error e := by
  induction rule generalizing trie i j with
  | nil => simp at hj
  | cons ps rule ih =>
    rw [setParameters]
    split
    · rename_i heq
      cases j with
      | zero =>
        cases hj
        have hp : ValidPattern p := hvalid (p :: patterns) (by simp) p (by simp)
        have hentry := trie.addEntry_outOfBounds hp hout
        rw [setPatterns, if_neg (by simp [ValidPattern.any_isUpper hp])] at heq
        split at heq <;> rename_i hadd <;> rw [Nat.add_zero, hadd] at hentry <;> cases hentry
        cases heq
      | succ j =>
        have htag : ruleId * P + i + (j + 1) = ruleId * P + (i + 1) + j := by omega
        exact ih _ (i + 1) (fun ps hps => hvalid ps (List.mem_cons_of_mem _ hps)) (by simpa using hj)
          (htag ▸ hout)
    · exact ⟨_, rfl⟩

theorem validRule_replicate (n : ℕ) {p : Bytes} (hp : ValidPattern p) :
    ValidRule (List.replicate n [p]) := by
  intro patterns hps p' hp'
  rw [List.eq_of_mem_replicate hps, List.mem_singleton] at hp'
  rwa [hp']

/-- A rule of more than `2 ^ 31` parameters with a pattern each runs out of indices. -/
theorem setRules_of_wide (hP : 2 ^ 31 < P) {p : Bytes} (hp : ValidPattern p) :
    ∃ e, (new R P).setRules [List.replicate P [p]] = .error e := by
  have hj : (List.replicate P [p])[2 ^ 31]? = some [p] := by
    rw [List.getElem?_replicate, if_pos hP]
  have hout : ¬ BitSet.InStorage (R * P) (u32 (0 * P + 0 + 2 ^ 31)) := by
    rw [Nat.zero_mul, Nat.zero_add]
    exact fun h => absurd h.1 (by decide)
  obtain ⟨e, he⟩ := setParameters_outOfBounds (new R P).trie 0 0 (validRule_replicate P hp) hj hout
  have hrule : ((new R P).setRule (List.replicate P [p])).2 = .error e := by
    have hid : u32 (new R P).countOfSetRules = 0 := rfl
    rw [setRule_snd, hid, he]
    rfl
  refine ⟨e, ?_⟩
  rw [setRules]
  split <;> rename_i heq <;> rw [heq] at hrule <;> cases hrule
  rfl

/-! ### The sizes that are served -/

/-- **A size is served** when any valid rules, no more than `rules_count_` of them, are taken one after
the other (`set_rule` throws at none of them), and for every record `match` then returns, in ascending
order, exactly the numbers of the rules that match it one by one. -/
def ExactFor (R P : ℕ) : Prop :=
  ∀ rules : List (List (List Bytes)), rules.length ≤ R →
    (∀ rule ∈ rules, rule.length = P ∧ ValidRule rule) →
    ∀ record : List Bytes, record.length = P → (∀ field ∈ record, Printable field) →
      ∃ (m m' : PrefixRuleMatcher R P) (ruleIds result : List ℕ),
        create R P = .ok m ∧ m.setRules rules = .ok (m', ruleIds) ∧ m'.matchRecord record = .ok result ∧
          result.Pairwise (· < ·) ∧ ∀ r, r ∈ result ↔ ∃ (k : ℕ) (rule : List (List Bytes)),
            ruleIds[k]? = some r ∧ rules[k]? = some rule ∧ matchesOneByOne rule record = true

theorem exactFor_of_fits (hR : 0 < R) (hP : 0 < P) (hsize : R * P ≤ 2 ^ 31) : ExactFor R P := by
  intro rules hrules hvalid record hlen hf
  have hroom : rules.length * P ≤ BitSet.capacity (R * P) :=
    (Nat.mul_le_mul_right _ hrules).trans (BitSet.le_capacity hsize)
  obtain ⟨m', hm', hcarries⟩ := carries_new.setRules (R := R) hP hvalid (by simpa using hroom)
  obtain ⟨result, hresult, hsorted, hmem⟩ := hcarries.mem_matchRecord hP hsize hR (by simpa using hrules)
    (fun rule hr => (hvalid rule (by simpa using hr)).2) hlen hf
  refine ⟨_, m', _, result, create_ok hR hP hsize, hm', hresult, hsorted, ?_⟩
  intro r
  rw [hmem, List.nil_append]
  constructor
  · rintro ⟨rule, hrule, hmatch⟩
    have hr : r < rules.length := (List.getElem?_eq_some_iff.mp hrule).1
    exact ⟨r, rule, by simp [hr], hrule, hmatch⟩
  · rintro ⟨k, rule, hk, hrule, hmatch⟩
    rw [List.getElem?_range' (List.getElem?_eq_some_iff.mp hrule).1] at hk
    obtain rfl : k = r := by simpa using hk
    exact ⟨rule, hrule, hmatch⟩

theorem printable_replicate (n : ℕ) : ∀ field ∈ List.replicate n (ascii "a"), Printable field := by
  intro field hfield
  rw [List.eq_of_mem_replicate hfield]
  decide

theorem ExactFor.exists_create (h : ExactFor R P) : ∃ m : PrefixRuleMatcher R P, create R P = .ok m := by
  obtain ⟨m, m', ruleIds, result, hm, -⟩ := h [] (by simp) (by simp) _ List.length_replicate
    (printable_replicate P)
  exact ⟨m, hm⟩

/-- **The sizes that are served**: those that are not zero and whose indices fit an `int`. -/
theorem exactFor_iff (hP : 0 < P) : ExactFor R P ↔ 0 < R ∧ R * P ≤ 2 ^ 31 := by
  refine ⟨?_, fun h => exactFor_of_fits h.1 hP h.2⟩
  intro h
  obtain ⟨m, hm⟩ := h.exists_create
  have hR := pos_of_create hm
  refine ⟨hR, ?_⟩
  by_contra hlarge
  push Not at hlarge
  rcases Nat.lt_or_ge (2 ^ 31) P with hwide | hnarrow
  · obtain ⟨m, m', ruleIds, result, hm, hset, -⟩ := h [List.replicate P [ascii "a"]] hR
      (by simpa using validRule_replicate P (by decide)) _ List.length_replicate (printable_replicate P)
    obtain ⟨e, he⟩ := setRules_of_wide (R := R) hwide (p := ascii "a") (by decide)
    rw [create_eq hm, he] at hset
    cases hset
  · rw [create_of_large hnarrow hlarge] at hm
    cases hm

theorem exactFor_iff_twoRules : 0 < 2 ∧ ExactFor 2 2 :=
  ⟨by decide, (exactFor_iff (by decide)).mpr (by decide)⟩

/-- Two rules of `2 ^ 30 + 1` parameters each are not: the constructor writes outside the storage. Without
rules it throws. -/
theorem not_exactFor : (¬ ∀ R P : ℕ, 0 < R → 0 < P → ExactFor R P) ∧ ∀ P, ¬ ExactFor 0 P := by
  constructor
  · intro h
    obtain ⟨m, hm⟩ := (h 2 (2 ^ 30 + 1) (by decide) (by decide)).exists_create
    rw [create_of_large (by decide) (by decide)] at hm
    cases hm
  · intro P h
    obtain ⟨m, hm⟩ := h.exists_create
    exact absurd (pos_of_create hm) (Nat.lt_irrefl 0)

end PrefixRuleMatcher

end SmppGateway.Routing
