import SmppGateway.Routing.RoutingMatcher

/-!
# The table of live rules

What a `routing_matcher` is for, in its own terms: a table of rules in the order they were added, each
under an id of its own. A rule is taken when its id is free and its patterns are of characters the
trie takes, and it is live until its id is removed. A query's candidates are the live rules that
match it.

## What is proved

The `routing_matcher` refines this table (`Represents`) for as long as every rule that gets past
`set_rule` finds one of the `MAXIMUM_RULE_NUMBER` numbers free (`HasRoom`):

* `Represents.addRule_accepted`, `Represents.addRule_rejected` — `add_rule` returns whether the table
  takes the rule, and the table follows.
* `Represents.removeRule` — `remove_rule` returns whether the id is live, and the table follows.
* `Represents.candidates` — the candidates are the live rules that match the query, in order.
* `represents_after` — so after every history.
-/

namespace SmppGateway.Routing

open SmppGateway.Foundation
open Std (ExtTreeMap)

/-! ### Rules and queries -/

theorem patternMatches_lower (pattern value : Bytes) :
    patternMatches pattern (lower value) = patternMatches pattern value := by
  simp only [patternMatches, lower_lower]

namespace RoutingInfo

/-- The patterns are of characters the trie takes. -/
def Valid (r : RoutingInfo) : Prop :=
  ValidPattern r.source ∧ ValidPattern r.sourceAddress ∧ ValidPattern r.destinationAddress ∧
    ValidPattern r.pduType

instance (r : RoutingInfo) : Decidable r.Valid := inferInstanceAs (Decidable (_ ∧ _ ∧ _ ∧ _))

/-- **A rule matches a query**: all four patterns do, the destination read backwards when
`reverse_routing_` is set. -/
def matchesQuery (r : RoutingInfo) (reverseRouting : Bool) (q : Query) : Bool :=
  patternMatches r.source q.source && patternMatches r.sourceAddress q.srcAddress &&
    patternMatches r.destinationAddress
      (if reverseRouting then q.destAddress.reverse else q.destAddress) &&
    patternMatches r.pduType q.pduType

/-- What `targetMatchList` has for a rule. -/
def entry (r : RoutingInfo) : Bytes × ℕ := (r.target, r.priority)

theorem valid_iff (r : RoutingInfo) : r.Valid ↔ PrefixRuleMatcher.ValidRule r.getList := by
  simp [Valid, PrefixRuleMatcher.ValidRule, PrefixRuleMatcher.ValidPatterns, getList]

/-- A source the trie rejects makes `set_rule` throw before it enters anything. -/
theorem setRule_source_exception {R : ℕ} (r : RoutingInfo) (m : PrefixRuleMatcher R routingFieldNumber)
    (h : ¬ ValidPattern r.source) :
    (∃ what, (m.setRule r.getList).2 = .error (.exception what)) ∧ ∀ ty q t,
      (m.setRule r.getList).1.trie.Marked ty q t ↔ m.trie.Marked ty q t :=
  PrefixRuleMatcher.setRule_first_exception m r.patterns_ne.1 h _ _

theorem ruleMatches_getList (r : RoutingInfo) (reverseRouting : Bool) (q : Query) :
    PrefixRuleMatcher.ruleMatches r.getList (q.record reverseRouting) =
      r.matchesQuery reverseRouting q := by
  simp [PrefixRuleMatcher.ruleMatches, getList, Query.record, matchesQuery, patternMatches_lower,
    Bool.and_assoc]

end RoutingInfo

theorem Query.Printable.record {q : Query} (h : q.Printable) (reverseRouting : Bool) :
    ∀ field ∈ q.record reverseRouting, Foundation.Printable field := by
  have hdest : Foundation.Printable
      (if reverseRouting then q.destAddress.reverse else q.destAddress) := by
    cases reverseRouting
    · exact h.destAddress
    · exact fun c hc => h.destAddress c (List.mem_reverse.mp hc)
  simp only [Query.record, List.mem_cons, List.not_mem_nil, or_false]
  rintro field (rfl | rfl | rfl | rfl)
  · exact printable_lower h.source
  · exact h.srcAddress
  · exact hdest
  · exact h.pduType

/-! ### The table -/

/-- The live rules. -/
structure RouteTable where
  /-- Whether destinations are read backwards. -/
  reverse : Bool
  /-- The live rules, in the order they were added. -/
  rules : List RoutingInfo
  /-- No two live rules share an id. -/
  ids_nodup : (rules.map RoutingInfo.id).Nodup

namespace RouteTable

/-- No rule. -/
def empty : RouteTable := ⟨false, [], List.nodup_nil⟩

/-- The table takes a rule: its id is free and its patterns are valid. -/
def Accepts (t : RouteTable) (r : RoutingInfo) : Prop := r.id ∉ t.rules.map RoutingInfo.id ∧ r.Valid

instance (t : RouteTable) (r : RoutingInfo) : Decidable (t.Accepts r) :=
  inferInstanceAs (Decidable (_ ∧ _))

/-- Add a rule, if the table takes it. -/
def add (t : RouteTable) (r : RoutingInfo) : RouteTable :=
  if h : t.Accepts r then
    { t with
      rules := t.rules ++ [r]
      ids_nodup := by
        rw [List.map_append, List.nodup_append]
        refine ⟨t.ids_nodup, by simp, ?_⟩
        intro a ha b hb
        rintro rfl
        simp only [List.map_cons, List.map_nil, List.mem_singleton] at hb
        exact h.1 (hb ▸ ha) }
  else t

/-- Remove the rule with an id. -/
def remove (t : RouteTable) (id : ℕ) : RouteTable :=
  { t with
    rules := t.rules.filter fun r => r.id ≠ id
    ids_nodup := t.ids_nodup.sublist (List.filter_sublist.map _) }

/-- One event. -/
def step (t : RouteTable) : Event → RouteTable
  | .init reverse routes =>
    run (fun t config => t.add (RoutingInfo.ofConfig config)) { t with reverse } routes
  | .routesInsert config => t.add (RoutingInfo.ofConfig config)
  | .routesRemove id => t.remove id.toNat
  | .reverseRoutingReplace reverse => { t with reverse }

/-- The table a history leads to. -/
def after (events : List Event) : RouteTable := run step empty events

/-- The live rules that match a query, in the order they were added. -/
def matching (t : RouteTable) (q : Query) : List RoutingInfo :=
  t.rules.filter fun r => r.matchesQuery t.reverse q

theorem mem_matching {t : RouteTable} {q : Query} {r : RoutingInfo} :
    r ∈ t.matching q ↔ r ∈ t.rules ∧ r.matchesQuery t.reverse q = true := List.mem_filter

theorem add_of_accepts {t : RouteTable} {r : RoutingInfo} (h : t.Accepts r) :
    (t.add r).rules = t.rules ++ [r] ∧ (t.add r).reverse = t.reverse := by
  rw [add, dif_pos h]
  exact ⟨rfl, rfl⟩

theorem add_of_not_accepts {t : RouteTable} {r : RoutingInfo} (h : ¬ t.Accepts r) : t.add r = t := by
  rw [add, dif_neg h]

end RouteTable

/-! ### The refinement -/

/-- A routing matcher and the table it stands for. `live` pairs every rule of the table with its
number in the `prefix_rule_matcher`. -/
structure Represents (m : RoutingMatcher) (t : RouteTable) (live : List (ℕ × RoutingInfo)) : Prop where
  /-- The destination is read the same way. -/
  reverse : m.reverseRouting = t.reverse
  /-- The numbered rules are the rules of the table. -/
  rules : live.map Prod.snd = t.rules
  /-- Later rules have higher numbers. -/
  sorted : live.Pairwise fun e e' => e.1 < e'.1
  /-- The numbers have been handed out. -/
  lt_calls : ∀ e ∈ live, e.1 < m.setRuleCalls
  /-- The numbers are within the matcher's range. -/
  lt_max : ∀ e ∈ live, e.1 < maximumRuleNumber
  /-- Live rules have valid patterns. -/
  valid : ∀ e ∈ live, e.2.Valid
  /-- The trie holds them. -/
  holds : ∀ e ∈ live, m.prefixRuleMatcher.Holds e.1 e.2.getList
  /-- Numbers not handed out are unmarked. -/
  fresh : m.prefixRuleMatcher.Fresh
  /-- `prm_id_to_rule_id_` leads from the numbers to the ids. -/
  prmIdToRuleId : ∀ k id, m.prmIdToRuleId[k]? = some id ↔ ∃ r, (k, r) ∈ live ∧ r.id = id
  /-- `rule_id_mapping_` leads from the ids to the entries. -/
  ruleIdMapping : ∀ id entry, m.ruleIdMapping[id]? = some entry ↔
    ∃ r ∈ t.rules, r.id = id ∧ r.entry = entry

theorem represents_new : Represents RoutingMatcher.new RouteTable.empty [] where
  reverse := rfl
  rules := rfl
  sorted := List.Pairwise.nil
  lt_calls := by simp
  lt_max := by simp
  valid := by simp
  holds := by simp
  fresh := PrefixRuleMatcher.fresh_new
  prmIdToRuleId := by simp [RoutingMatcher.new]
  ruleIdMapping := by simp [RoutingMatcher.new, RouteTable.empty]

/-- The room `add_rule` needs: if it calls `set_rule`, one of the numbers is free or the first pattern
is one the trie rejects. -/
def HasRoom (m : RoutingMatcher) (r : RoutingInfo) : Prop :=
  m.ruleIdMapping.contains r.id = false →
    m.setRuleCalls < maximumRuleNumber ∨ ¬ ValidPattern r.source

/-- What `add_rule` leaves of a new id when `set_rule` takes the rule. -/
theorem RoutingMatcher.addRule_of_ok (m : RoutingMatcher) {r : RoutingInfo} {pRMId : ℕ}
    (hnew : m.ruleIdMapping.contains r.id = false)
    (hok : (m.prefixRuleMatcher.setRule r.getList).2 = .ok pRMId) :
    m.addRule r = ({ m with
      prefixRuleMatcher := (m.prefixRuleMatcher.setRule r.getList).1
      prmIdToRuleId := m.prmIdToRuleId.insert pRMId r.id
      ruleIdMapping := m.ruleIdMapping.insertIfNew r.id r.entry }, .ok true) := by
  rw [addRule, hnew, if_neg Bool.false_ne_true]
  split <;> rename_i heq <;> rw [heq] at hok <;> cases hok
  rw [heq]
  rfl

namespace Represents

variable {m : RoutingMatcher} {t : RouteTable} {live : List (ℕ × RoutingInfo)} {r : RoutingInfo}

theorem contains_iff (h : Represents m t live) (id : ℕ) :
    m.ruleIdMapping.contains id = true ↔ id ∈ t.rules.map RoutingInfo.id := by
  rw [ExtTreeMap.contains_iff_mem, ExtTreeMap.mem_iff_isSome_getElem?, Option.isSome_iff_exists,
    List.mem_map]
  constructor
  · rintro ⟨entry, he⟩
    obtain ⟨r, hr, hid, -⟩ := (h.ruleIdMapping id entry).mp he
    exact ⟨r, hr, hid⟩
  · rintro ⟨r, hr, hid⟩
    exact ⟨r.entry, (h.ruleIdMapping id _).mpr ⟨r, hr, hid, rfl⟩⟩

theorem mem_rules (h : Represents m t live) : r ∈ t.rules ↔ ∃ k, (k, r) ∈ live := by
  rw [← h.rules, List.mem_map]
  constructor
  · rintro ⟨⟨k, r'⟩, he, rfl⟩
    exact ⟨k, he⟩
  · rintro ⟨k, he⟩
    exact ⟨(k, r), he, rfl⟩

/-- A number stands for one rule. -/
theorem number_inj (h : Represents m t live) {e e' : ℕ × RoutingInfo} (he : e ∈ live) (he' : e' ∈ live)
    (hk : e.1 = e'.1) : e = e' := by
  have hnodup : (live.map Prod.fst).Nodup := List.pairwise_map.mpr (h.sorted.imp fun hlt => hlt.ne)
  exact List.inj_on_of_nodup_map hnodup he he' hk

/-- An id stands for one rule. -/
theorem id_inj (h : Represents m t live) {e e' : ℕ × RoutingInfo} (he : e ∈ live) (he' : e' ∈ live)
    (hid : e.2.id = e'.2.id) : e = e' := by
  have hnodup : (live.map fun e => e.2.id).Nodup := by
    have := t.ids_nodup
    rwa [← h.rules, List.map_map] at this
  exact List.inj_on_of_nodup_map hnodup he he' hid

/-! #### Adding a rule -/

/-- What a failed `set_rule` leaves: one number less, everything live as before. -/
theorem setRule_failed (h : Represents m t live)
    (hroom : m.setRuleCalls < maximumRuleNumber ∨ ¬ ValidPattern r.source) :
    Represents { m with prefixRuleMatcher := (m.prefixRuleMatcher.setRule r.getList).1 } t live := by
  have hholds : ∀ e ∈ live, (m.prefixRuleMatcher.setRule r.getList).1.Holds e.1 e.2.getList := by
    intro e he
    rcases hroom with hlt | hsource
    · refine (h.holds e he).setRule e.2.getList_length (h.lt_calls e he) r.getList_length ?_
      simp only [RoutingMatcher.setRuleCalls, maximumRuleNumber, routingFieldNumber] at *
      omega
    · have hm := (r.setRule_source_exception m.prefixRuleMatcher hsource).2
      intro i patterns hi ty q
      rw [← h.holds e he i patterns hi ty q]
      exact hm ty q _
  have hfresh : (m.prefixRuleMatcher.setRule r.getList).1.Fresh := by
    rcases hroom with hlt | hsource
    · refine h.fresh.setRule r.getList_length ?_ (by decide)
      simp only [RoutingMatcher.setRuleCalls, maximumRuleNumber, routingFieldNumber] at *
      omega
    · have hm := (r.setRule_source_exception m.prefixRuleMatcher hsource).2
      intro ty q k hk hmarked
      refine h.fresh ty q k ?_ ((hm ty q k).mp hmarked)
      exact le_trans (Nat.mul_le_mul_right _ (Nat.le_succ _)) hk
  exact { h with
    lt_calls := fun e he => Nat.lt_succ_of_lt (h.lt_calls e he)
    holds := hholds
    fresh := hfresh }

/-- The number of the rule that is added leads to its id, and the other numbers to where they did. -/
theorem prmIdToRuleId_insert (h : Represents m t live) (r : RoutingInfo) (k id : ℕ) :
    (m.prmIdToRuleId.insert m.setRuleCalls r.id)[k]? = some id ↔
      ∃ r', (k, r') ∈ live ++ [(m.setRuleCalls, r)] ∧ r'.id = id := by
  simp only [ExtTreeMap.getElem?_insert, Nat.compare_eq_eq, List.mem_append, List.mem_singleton,
    Prod.mk.injEq]
  split
  · rename_i hk
    subst hk
    constructor
    · rintro ⟨⟩
      exact ⟨r, .inr ⟨rfl, rfl⟩, rfl⟩
    · rintro ⟨r', hr' | ⟨-, rfl⟩, rfl⟩
      · exact absurd (h.lt_calls _ hr') (lt_irrefl _)
      · rfl
  · rename_i hk
    rw [h.prmIdToRuleId]
    refine exists_congr fun r' => and_congr_left fun _ => ?_
    simp [Ne.symm hk]

/-- A new id leads to the entry of its rule, and the other ids to where they did. -/
theorem ruleIdMapping_insertIfNew (h : Represents m t live) (hid : r.id ∉ t.rules.map RoutingInfo.id)
    (id : ℕ) (entry : Bytes × ℕ) :
    (m.ruleIdMapping.insertIfNew r.id r.entry)[id]? = some entry ↔
      ∃ r' ∈ t.rules ++ [r], r'.id = id ∧ r'.entry = entry := by
  have hmem : r.id ∉ m.ruleIdMapping := by
    rw [← ExtTreeMap.contains_iff_mem, h.contains_iff]
    exact hid
  simp only [ExtTreeMap.getElem?_insertIfNew, Nat.compare_eq_eq, List.mem_append, List.mem_singleton,
    hmem, not_false_eq_true, and_true]
  split
  · rename_i heq
    subst heq
    constructor
    · rintro ⟨⟩
      exact ⟨r, .inr rfl, rfl, rfl⟩
    · rintro ⟨r', hr' | rfl, heq, rfl⟩
      · exact absurd (List.mem_map.mpr ⟨r', hr', heq⟩) hid
      · rfl
  · rename_i hne
    rw [h.ruleIdMapping]
    constructor
    · rintro ⟨r', hr', h'⟩
      exact ⟨r', .inl hr', h'⟩
    · rintro ⟨r', hr' | rfl, heq, he⟩
      · exact ⟨r', hr', heq, he⟩
      · exact absurd heq hne

/-- What holds of the live rules and of the rule that is added holds of all of them. -/
theorem forall_mem_concat {p : ℕ × RoutingInfo → Prop} {e : ℕ × RoutingInfo} (hlive : ∀ e ∈ live, p e)
    (he : p e) : ∀ e' ∈ live ++ [e], p e' := by
  intro e' he'
  rcases List.mem_append.mp he' with he' | he'
  · exact hlive e' he'
  · rwa [List.mem_singleton.mp he']

/-- **A rule the table takes**: `add_rule` returns `true`, and the rule gets the next number. -/
theorem addRule_accepted (h : Represents m t live) (hroom : HasRoom m r) (hacc : t.Accepts r) :
    (m.addRule r).2 = .ok true ∧
      Represents (m.addRule r).1 (t.add r) (live ++ [(m.setRuleCalls, r)]) := by
  have hnew : m.ruleIdMapping.contains r.id = false := by
    rw [Bool.eq_false_iff, ne_eq, h.contains_iff]
    exact hacc.1
  have hcalls : m.setRuleCalls < maximumRuleNumber :=
    (hroom hnew).resolve_right fun hn => hn hacc.2.1
  have hwidth : (m.prefixRuleMatcher.countOfSetRules + 1) * routingFieldNumber ≤ 4000 := by
    simp only [RoutingMatcher.setRuleCalls, maximumRuleNumber, routingFieldNumber] at *
    omega
  obtain ⟨hok, hheld⟩ := PrefixRuleMatcher.setRule_ok h.fresh (r.valid_iff.mp hacc.2) r.getList_length
    (hwidth.trans (by decide)) (by decide)
  have hfailed := h.setRule_failed (hroom hnew)
  obtain ⟨hrules, hreverse⟩ := RouteTable.add_of_accepts hacc
  rw [m.addRule_of_ok hnew hok]
  exact ⟨rfl, {
    reverse := by rw [hreverse]; exact h.reverse
    rules := by rw [hrules, List.map_append, h.rules]; rfl
    sorted := List.pairwise_append.mpr ⟨h.sorted, List.pairwise_singleton _ _, fun e he e' he' =>
      List.mem_singleton.mp he' ▸ h.lt_calls e he⟩
    lt_calls := forall_mem_concat hfailed.lt_calls (Nat.lt_succ_self _)
    lt_max := forall_mem_concat h.lt_max hcalls
    valid := forall_mem_concat h.valid hacc.2
    holds := forall_mem_concat hfailed.holds hheld
    fresh := hfailed.fresh
    prmIdToRuleId := h.prmIdToRuleId_insert r
    ruleIdMapping := by rw [hrules]; exact h.ruleIdMapping_insertIfNew hacc.1 }⟩

/-- **A rule the table does not take**: `add_rule` returns `false`, and the live rules stay. -/
theorem addRule_rejected (h : Represents m t live) (hroom : HasRoom m r) (hacc : ¬ t.Accepts r) :
    (m.addRule r).2 = .ok false ∧ Represents (m.addRule r).1 (t.add r) live := by
  rw [RouteTable.add_of_not_accepts hacc, RoutingMatcher.addRule]
  by_cases hid : r.id ∈ t.rules.map RoutingInfo.id
  · rw [if_pos ((h.contains_iff r.id).mpr hid)]
    exact ⟨rfl, h⟩
  · have hvalid : ¬ r.Valid := fun hv => hacc ⟨hid, hv⟩
    have hnew : m.ruleIdMapping.contains r.id = false :=
      Bool.eq_false_iff.mpr fun hc => hid ((h.contains_iff r.id).mp hc)
    rw [hnew, if_neg Bool.false_ne_true]
    have hfault : ∃ what, (m.prefixRuleMatcher.setRule r.getList).2 = .error (.exception what) := by
      rcases hroom hnew with hlt | hsource
      · refine PrefixRuleMatcher.setRule_exception (fun hv => hvalid (r.valid_iff.mpr hv))
          r.getList_nonempty r.getList_length ((?_ : _ ≤ 4000).trans (by decide))
        simp only [RoutingMatcher.setRuleCalls, maximumRuleNumber, routingFieldNumber] at *
        omega
      · exact (r.setRule_source_exception m.prefixRuleMatcher hsource).1
    obtain ⟨what, hw⟩ := hfault
    have hfailed := h.setRule_failed (hroom hnew)
    split <;> rename_i heq <;> rw [heq] at hw hfailed
    · cases hw
    · exact ⟨rfl, hfailed⟩
    · cases hw

/-! #### Removing a rule -/

/-- The loop of `remove_rule` finds the entry of a live rule. -/
theorem find_prmId (h : Represents m t live) {e : ℕ × RoutingInfo} (he : e ∈ live) :
    m.prmIdToRuleId.toList.find? (fun it => it.2 == e.2.id) = some (e.1, e.2.id) := by
  have hmem : (e.1, e.2.id) ∈ m.prmIdToRuleId.toList :=
    ExtTreeMap.mem_toList_iff_getElem?_eq_some.mpr ((h.prmIdToRuleId _ _).mpr ⟨e.2, he, rfl⟩)
  cases hfind : m.prmIdToRuleId.toList.find? (fun it => it.2 == e.2.id) with
  | none => exact absurd (List.find?_eq_none.mp hfind _ hmem) (by simp)
  | some it =>
    obtain ⟨k, id⟩ := it
    have hid : id = e.2.id := by simpa using List.find?_some hfind
    obtain ⟨r', hr', hr'id⟩ := (h.prmIdToRuleId _ _).mp
      (ExtTreeMap.mem_toList_iff_getElem?_eq_some.mp (List.mem_of_find?_eq_some hfind))
    have heq : (k, r') = e := h.id_inj hr' he (hr'id.trans hid)
    rw [hid, ← heq]

/-- What is left when the two maps have lost an id. -/
theorem of_removed (h : Represents m t live) {id : ℕ} {m' : RoutingMatcher}
    (hreverse : m'.reverseRouting = m.reverseRouting)
    (hmatcher : m'.prefixRuleMatcher = m.prefixRuleMatcher)
    (hprm : ∀ k id' : ℕ, m'.prmIdToRuleId[k]? = some id' ↔
      m.prmIdToRuleId[k]? = some id' ∧ id' ≠ id)
    (hmapping : ∀ id' : ℕ, m'.ruleIdMapping[id']? =
      if id' = id then none else m.ruleIdMapping[id']?) :
    Represents m' (t.remove id) (live.filter fun e => e.2.id ≠ id) := by
  have hsub : (live.filter fun e => e.2.id ≠ id).Sublist live := List.filter_sublist
  have hmem : ∀ k r', (k, r') ∈ (live.filter fun e => e.2.id ≠ id) ↔ (k, r') ∈ live ∧ r'.id ≠ id := by
    simp
  have hrules : (t.remove id).rules = t.rules.filter fun r => r.id ≠ id := rfl
  have hcalls : m'.setRuleCalls = m.setRuleCalls := by
    rw [RoutingMatcher.setRuleCalls, hmatcher]; rfl
  constructor
  · rw [hreverse]; exact h.reverse
  · rw [hrules, ← h.rules, List.filter_map]; rfl
  · exact h.sorted.sublist hsub
  · exact fun e he => hcalls ▸ h.lt_calls e (hsub.subset he)
  · exact fun e he => h.lt_max e (hsub.subset he)
  · exact fun e he => h.valid e (hsub.subset he)
  · exact fun e he => hmatcher ▸ h.holds e (hsub.subset he)
  · exact hmatcher ▸ h.fresh
  · intro k id'
    simp only [hprm, h.prmIdToRuleId, hmem]
    constructor
    · rintro ⟨⟨r', hr', rfl⟩, hne⟩
      exact ⟨r', ⟨hr', hne⟩, rfl⟩
    · rintro ⟨r', ⟨hr', hne⟩, rfl⟩
      exact ⟨⟨r', hr', rfl⟩, hne⟩
  · intro id' entry
    rw [hmapping, hrules]
    simp only [List.mem_filter, decide_eq_true_eq]
    split
    · rename_i hid
      subst hid
      constructor
      · rintro ⟨⟩
      · rintro ⟨r', ⟨-, hne⟩, hid, -⟩
        exact absurd hid hne
    · rename_i hid
      rw [h.ruleIdMapping]
      constructor
      · rintro ⟨r', hr', rfl, he⟩
        exact ⟨r', ⟨hr', hid⟩, rfl, he⟩
      · rintro ⟨r', ⟨hr', -⟩, hid', he⟩
        exact ⟨r', hr', hid', he⟩

/-- **Removing**: `remove_rule` returns whether the id is live, and the rule is live no longer. -/
theorem removeRule (h : Represents m t live) (id : ℕ) :
    (m.removeRule id).2 = decide (id ∈ t.rules.map RoutingInfo.id) ∧
      Represents (m.removeRule id).1 (t.remove id) (live.filter fun e => e.2.id ≠ id) := by
  rw [RoutingMatcher.removeRule]
  by_cases hid : id ∈ t.rules.map RoutingInfo.id
  · rw [if_pos ((h.contains_iff id).mpr hid)]
    refine ⟨by simpa using hid, h.of_removed rfl rfl ?_ fun id' => ?_⟩
    · obtain ⟨r', hr', rfl⟩ := List.mem_map.mp hid
      obtain ⟨k, hk⟩ := h.mem_rules.mp hr'
      intro k' id'
      simp only [h.find_prmId hk, ExtTreeMap.getElem?_erase, Nat.compare_eq_eq]
      split
      · rename_i hkk
        subst hkk
        rw [h.prmIdToRuleId]
        constructor
        · rintro ⟨⟩
        · rintro ⟨⟨r'', hr'', rfl⟩, hne⟩
          cases h.number_inj hr'' hk rfl
          exact absurd rfl hne
      · rename_i hkk
        refine ⟨fun hget => ⟨hget, ?_⟩, And.left⟩
        intro hid'
        obtain ⟨r'', hr'', hr''id⟩ := (h.prmIdToRuleId _ _).mp hget
        cases h.id_inj hr'' hk (hr''id.trans hid')
        exact hkk rfl
    · simp only [ExtTreeMap.getElem?_erase, Nat.compare_eq_eq, @eq_comm _ id id']
  · rw [if_neg (fun hc => hid ((h.contains_iff id).mp hc))]
    refine ⟨by simpa using hid, h.of_removed rfl rfl (fun k id' => ?_) fun id' => ?_⟩
    · rw [iff_self_and, h.prmIdToRuleId]
      rintro ⟨r', hr', rfl⟩ rfl
      exact hid (List.mem_map.mpr ⟨r', h.mem_rules.mpr ⟨k, hr'⟩, rfl⟩)
    · split
      · rename_i hid'
        subst hid'
        have hnone : id' ∉ m.ruleIdMapping := by
          rw [← ExtTreeMap.contains_iff_mem, h.contains_iff]; exact hid
        exact ExtTreeMap.getElem?_eq_none hnone
      · rfl

/-! #### Finding a target -/

/-- The loop of `find_target` over the numbers, one number at a time. -/
theorem matchedRule (h : Represents m t live) (k : ℕ) : m.matchedRules [k] =
    (live.filter fun e => e.1 = k).map fun e => (e.2.id, e.2.entry) := by
  by_cases hk : ∃ r, (k, r) ∈ live
  · obtain ⟨r, hr⟩ := hk
    have hprm : m.prmIdToRuleId[k]? = some r.id := (h.prmIdToRuleId k r.id).mpr ⟨r, hr, rfl⟩
    have hmap : m.ruleIdMapping[r.id]? = some r.entry :=
      (h.ruleIdMapping _ _).mpr ⟨r, h.mem_rules.mpr ⟨k, hr⟩, rfl, rfl⟩
    have hfilter : (live.filter fun e => e.1 = k) = [(k, r)] := by
      refine List.Perm.eq_singleton ((List.perm_ext_iff_of_nodup ?_ (List.nodup_singleton _)).mpr ?_)
      · exact (h.sorted.imp fun hlt heq => hlt.ne (congrArg Prod.fst heq)).sublist List.filter_sublist
      · intro e
        simp only [List.mem_filter, decide_eq_true_eq, List.mem_singleton]
        constructor
        · rintro ⟨he, rfl⟩
          exact h.number_inj he hr rfl
        · rintro rfl
          exact ⟨hr, rfl⟩
    simp [RoutingMatcher.matchedRules, hprm, hmap, hfilter]
  · have hprm : m.prmIdToRuleId[k]? = none := by
      rw [Option.eq_none_iff_forall_ne_some]
      intro id hid
      obtain ⟨r, hr, -⟩ := (h.prmIdToRuleId k id).mp hid
      exact hk ⟨r, hr⟩
    have hfilter : (live.filter fun e => e.1 = k) = [] := by
      rw [List.filter_eq_nil_iff]
      intro e he hek
      exact hk ⟨e.2, by simpa [← of_decide_eq_true hek] using he⟩
    simp [RoutingMatcher.matchedRules, hprm, hfilter]

/-- Going through the numbers in ascending order meets the live rules in the table's order. -/
theorem flatMap_range (h : Represents m t live) {n : ℕ} (hn : ∀ e ∈ live, e.1 < n) :
    (List.range n).flatMap (fun k => live.filter fun e => e.1 = k) = live := by
  have hnodup : live.Nodup := h.sorted.imp fun hlt heq => hlt.ne (congrArg Prod.fst heq)
  refine List.Perm.eq_of_pairwise (fun _ _ _ _ hlt hgt => absurd hlt (Nat.lt_asymm hgt)) ?_ h.sorted ?_
  · rw [List.pairwise_flatMap]
    refine ⟨fun k _ => h.sorted.sublist List.filter_sublist, ?_⟩
    refine List.pairwise_lt_range.imp fun {k k'} hk e he e' he' => ?_
    simp only [List.mem_filter, decide_eq_true_eq] at he he'
    omega
  · refine (List.perm_ext_iff_of_nodup ?_ hnodup).mpr fun e => ?_
    · rw [List.nodup_flatMap]
      refine ⟨fun k _ => hnodup.sublist List.filter_sublist, ?_⟩
      refine List.pairwise_lt_range.imp fun {k k'} hk e he he' => ?_
      simp only [List.mem_filter, decide_eq_true_eq] at he he'
      omega
    · simp only [List.mem_flatMap, List.mem_range, List.mem_filter, decide_eq_true_eq]
      constructor
      · rintro ⟨k, -, he, -⟩
        exact he
      · exact fun he => ⟨e.1, hn e he, he, rfl⟩

/-- The loop over a list of numbers, one number after the other. -/
theorem matchedRules_eq (h : Represents m t live) (ks : List ℕ) : m.matchedRules ks =
    (ks.flatMap fun k => live.filter fun e => e.1 = k).map fun e => (e.2.id, e.2.entry) := by
  induction ks with
  | nil => rfl
  | cons k ks ih =>
    have hcons : m.matchedRules (k :: ks) = m.matchedRules [k] ++ m.matchedRules ks :=
      @List.filterMap_append _ _ [k] ks _
    rw [hcons, h.matchedRule, ih, List.flatMap_cons, List.map_append]

/-- Dropping numbers drops their rules. -/
theorem flatMap_filter (live : List (ℕ × RoutingInfo)) (p : ℕ → Bool) (ks : List ℕ) :
    (ks.filter p).flatMap (fun k => live.filter fun e => e.1 = k) =
      (ks.flatMap fun k => live.filter fun e => e.1 = k).filter fun e => p e.1 := by
  induction ks with
  | nil => rfl
  | cons k ks ih =>
    rw [List.flatMap_cons, List.filter_append, ← ih, List.filter_filter]
    cases hp : p k with
    | false =>
      have hnone : (live.filter fun e => p e.1 && decide (e.1 = k)) = [] := by
        rw [List.filter_eq_nil_iff]
        rintro e - he
        simp only [Bool.and_eq_true, decide_eq_true_eq] at he
        rw [he.2, hp] at he
        exact Bool.false_ne_true he.1
      rw [hnone, List.filter_cons_of_neg (by simp [hp]), List.nil_append]
    | true =>
      have hall : (live.filter fun e => p e.1 && decide (e.1 = k)) = live.filter fun e => e.1 = k := by
        refine List.filter_congr fun e _ => ?_
        by_cases hk : e.1 = k <;> simp [hk, hp]
      rw [hall, List.filter_cons_of_pos hp, List.flatMap_cons]

/-- **The candidates** are the live rules that match the query, in the order they were added. -/
theorem candidates (h : Represents m t live) {q : Query} (hq : q.Printable) :
    m.candidates q = .ok ((t.matching q).map fun r => (r.id, r.entry)) := by
  have hmatch := PrefixRuleMatcher.matchRecord_eq m.prefixRuleMatcher
    (hq.record m.reverseRouting) rfl (by decide) (by decide) (by decide)
  have hmatching : t.matching q = (live.filter fun e => PrefixRuleMatcher.foundFrom
      m.prefixRuleMatcher.trie (e.1 * routingFieldNumber) (q.record m.reverseRouting)).map Prod.snd := by
    rw [RouteTable.matching, ← h.rules, List.filter_map]
    refine congrArg (List.map Prod.snd) (List.filter_congr fun e he => ?_)
    rw [(h.holds e he).foundFrom_eq (e.2.valid_iff.mp (h.valid e he)) (hq.record _) rfl,
      e.2.ruleMatches_getList, h.reverse]
    rfl
  rw [RoutingMatcher.candidates, hmatch, hmatching, Except.map, h.matchedRules_eq, flatMap_filter,
    h.flatMap_range h.lt_max, List.map_map]
  rfl

end Represents

/-! ### Histories -/

/-- A routing matcher stands for a table under some numbering. -/
def Refines (m : RoutingMatcher) (t : RouteTable) : Prop := ∃ live, Represents m t live

/-- Every `add_rule` of an event has room. -/
def EventHasRoom (m : RoutingMatcher) : Event → Prop
  | .init reverse routes => Along RoutingMatcher.addRoute
      (fun m config => HasRoom m (RoutingInfo.ofConfig config)) { m with reverseRouting := reverse } routes
  | .routesInsert config => HasRoom m (RoutingInfo.ofConfig config)
  | .routesRemove _ => True
  | .reverseRoutingReplace _ => True

namespace Refines

variable {m : RoutingMatcher} {t : RouteTable}

theorem setReverse (h : Refines m t) (reverse : Bool) :
    Refines { m with reverseRouting := reverse } { t with reverse } := by
  obtain ⟨live, h⟩ := h
  exact ⟨live, { h with reverse := rfl }⟩

/-- `add_rule` returns whether the table takes the rule, and the table follows. -/
theorem addRule (h : Refines m t) {r : RoutingInfo} (hroom : HasRoom m r) :
    (m.addRule r).2 = .ok (decide (t.Accepts r)) ∧ Refines (m.addRule r).1 (t.add r) := by
  obtain ⟨live, h⟩ := h
  by_cases hacc : t.Accepts r
  · obtain ⟨hret, h'⟩ := h.addRule_accepted hroom hacc
    exact ⟨by simpa [hacc] using hret, _, h'⟩
  · obtain ⟨hret, h'⟩ := h.addRule_rejected hroom hacc
    exact ⟨by simpa [hacc] using hret, _, h'⟩

theorem removeRule (h : Refines m t) (id : ℕ) : Refines (m.removeRule id).1 (t.remove id) := by
  obtain ⟨live, h⟩ := h
  exact ⟨_, (h.removeRule id).2⟩

theorem candidates (h : Refines m t) {q : Query} (hq : q.Printable) :
    m.candidates q = .ok ((t.matching q).map fun r => (r.id, r.entry)) := by
  obtain ⟨live, h⟩ := h
  exact h.candidates hq

theorem targetMatchList (h : Refines m t) {q : Query} (hq : q.Printable) :
    m.targetMatchList q = .ok ((t.matching q).map RoutingInfo.entry) := by
  rw [RoutingMatcher.targetMatchList, h.candidates hq, Except.map, List.map_map]
  rfl

end Refines

namespace RoutingMatcher

theorem onRoutesInsert_fst (m : RoutingMatcher) (config : RouteConfig) :
    (m.onRoutesInsert config).1 = m.addRoute config := by
  rw [onRoutesInsert, addRoute]
  split <;> rename_i heq <;> rw [heq]

theorem onRoutesRemove_fst (m : RoutingMatcher) (id : UInt32) :
    (m.onRoutesRemove id).1 = (m.removeRule id.toNat).1 := by
  rw [onRoutesRemove]
  split <;> rename_i heq <;> rw [heq]

/-- `add_rule` calls `set_rule` unless the id is taken. -/
theorem setRuleCalls_addRule (m : RoutingMatcher) (r : RoutingInfo) :
    (m.addRule r).1.setRuleCalls =
      if m.ruleIdMapping.contains r.id then m.setRuleCalls else m.setRuleCalls + 1 := by
  rw [addRule]
  split
  · rfl
  · have hcount := PrefixRuleMatcher.setRule_countOfSetRules m.prefixRuleMatcher r.getList
    split <;> rename_i heq <;> rw [heq] at hcount <;> exact hcount

@[simp]
theorem setRuleCalls_removeRule (m : RoutingMatcher) (id : ℕ) :
    (m.removeRule id).1.setRuleCalls = m.setRuleCalls := by
  rw [removeRule]
  split <;> rfl

theorem setRuleCalls_le_addRoute (m : RoutingMatcher) (config : RouteConfig) :
    m.setRuleCalls ≤ (m.addRoute config).setRuleCalls := by
  rw [addRoute, setRuleCalls_addRule]
  split <;> omega

theorem setRuleCalls_le_step (m : RoutingMatcher) (e : Event) :
    m.setRuleCalls ≤ (m.step e).setRuleCalls := by
  cases e with
  | init reverse routes => exact le_run_of_mono setRuleCalls_le_addRoute { m with reverseRouting := reverse } routes
  | routesInsert config =>
    rw [step, onRoutesInsert_fst]
    exact m.setRuleCalls_le_addRoute config
  | routesRemove id => rw [step, onRoutesRemove_fst, setRuleCalls_removeRule]
  | reverseRoutingReplace reverse => exact le_rfl

end RoutingMatcher

/-- At most `MAXIMUM_RULE_NUMBER` calls leave room for the last one. -/
theorem hasRoom_of_setRuleCalls {m : RoutingMatcher} {r : RoutingInfo}
    (h : (m.addRule r).1.setRuleCalls ≤ maximumRuleNumber) : HasRoom m r := by
  intro hnew
  rw [RoutingMatcher.setRuleCalls_addRule, hnew, if_neg Bool.false_ne_true] at h
  exact .inl h

theorem eventHasRoom_of_setRuleCalls {m : RoutingMatcher} {e : Event}
    (h : (m.step e).setRuleCalls ≤ maximumRuleNumber) : EventHasRoom m e := by
  cases e with
  | init reverse routes =>
    exact (along_of_mono RoutingMatcher.setRuleCalls_le_addRoute h).imp
      fun m config hm => hasRoom_of_setRuleCalls hm
  | routesInsert config =>
    rw [RoutingMatcher.step, RoutingMatcher.onRoutesInsert_fst] at h
    exact hasRoom_of_setRuleCalls h
  | routesRemove id => trivial
  | reverseRoutingReplace reverse => trivial

/-- **One event** with room keeps matcher and table together. -/
theorem Refines.step {m : RoutingMatcher} {t : RouteTable} {e : Event} (h : Refines m t)
    (hroom : EventHasRoom m e) : Refines (m.step e) (t.step e) := by
  cases e with
  | init reverse routes =>
    exact hroom.simulation (R := Refines) (fun m t config h hroom => (h.addRule hroom).2)
      (h.setReverse reverse)
  | routesInsert config =>
    rw [RoutingMatcher.step, RoutingMatcher.onRoutesInsert_fst]
    exact (h.addRule hroom).2
  | routesRemove id =>
    rw [RoutingMatcher.step, RoutingMatcher.onRoutesRemove_fst]
    exact h.removeRule id.toNat
  | reverseRoutingReplace reverse => exact h.setReverse reverse

theorem refines_new : Refines RoutingMatcher.new RouteTable.empty := ⟨[], represents_new⟩

/-- **A history** whose every `add_rule` has room ends in the table it says. -/
theorem refines_of_room {events : List Event}
    (h : Along RoutingMatcher.step EventHasRoom RoutingMatcher.new events) :
    Refines (RoutingMatcher.after events) (RouteTable.after events) :=
  h.simulation (R := Refines) (fun _ _ _ h hroom => h.step hroom) refines_new

/-- At most `MAXIMUM_RULE_NUMBER` calls of `set_rule` leave room for every one of them. -/
theorem room_of_setRuleCalls {events : List Event}
    (h : (RoutingMatcher.after events).setRuleCalls ≤ maximumRuleNumber) :
    Along RoutingMatcher.step EventHasRoom RoutingMatcher.new events :=
  (along_of_mono RoutingMatcher.setRuleCalls_le_step h).imp fun _ _ he => eventHasRoom_of_setRuleCalls he

/-- **A history** of at most `MAXIMUM_RULE_NUMBER` calls of `set_rule` ends in the table it says. -/
theorem refines_after {events : List Event}
    (h : (RoutingMatcher.after events).setRuleCalls ≤ maximumRuleNumber) :
    Refines (RoutingMatcher.after events) (RouteTable.after events) :=
  refines_of_room (room_of_setRuleCalls h)

end SmppGateway.Routing
