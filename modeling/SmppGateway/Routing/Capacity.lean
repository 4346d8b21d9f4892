import SmppGateway.Routing.RouteTable

/-!
# The capacity of the rule matcher

A rule takes a number of the `prefix_rule_matcher` for good: removing it, or failing to add it, does
not give the number back, and nothing but an assertion stops `set_rule` from going past the last
number. So a matcher whose live rules are few can be out of numbers.

## The model

A `Ledger` runs beside the matcher and keeps the rules for which `add_rule` returned `true` until
they are removed. What the matcher owes them is stated about the ledger and not about the table of
`SmppGateway.Routing.RouteTable`, which the matcher follows only while it has numbers.

## What is proved

* `effective_of_room` — in a history in which every `set_rule` finds one of the
  `MAXIMUM_RULE_NUMBER` numbers free, or stops at its first pattern, every rule added is effective and
  no bit past the bit set is set.
* `not_effective` — after as many insertions and removals of a single route as there are numbers, the
  next insertion returns `true` and its rule is no query's candidate.
-/

namespace SmppGateway.Routing

open SmppGateway.Foundation

/-- A routing matcher and the rules it has added and not removed. -/
structure Ledger where
  /-- The matcher. -/
  matcher : RoutingMatcher
  /-- The rules `add_rule` returned `true` for, until `remove_rule` is called with their id. -/
  added : List RoutingInfo

namespace Ledger

/-- Nothing added yet. -/
def new : Ledger := ⟨RoutingMatcher.new, []⟩

/-- `add_rule`. -/
def addRoute (l : Ledger) (config : RouteConfig) : Ledger where
  matcher := l.matcher.addRoute config
  added :=
    match (l.matcher.addRule (RoutingInfo.ofConfig config)).2 with
    | .ok true => l.added ++ [RoutingInfo.ofConfig config]
    | _ => l.added

/-- One event. -/
def step (l : Ledger) : Event → Ledger
  | .init reverse routes => run addRoute { l with matcher.reverseRouting := reverse } routes
  | .routesInsert config => l.addRoute config
  | .routesRemove id =>
    ⟨l.matcher.step (.routesRemove id), l.added.filter fun r => r.id ≠ id.toNat⟩
  | .reverseRoutingReplace reverse => { l with matcher.reverseRouting := reverse }

/-- The ledger a history leads to. -/
def after (events : List Event) : Ledger := run step new events

@[simp]
theorem addRoute_matcher (l : Ledger) (config : RouteConfig) :
    (l.addRoute config).matcher = l.matcher.addRoute config := rfl

theorem step_matcher (l : Ledger) (e : Event) : (l.step e).matcher = l.matcher.step e := by
  cases e with
  | init reverse routes =>
    exact run_map Ledger.matcher addRoute_matcher { l with matcher.reverseRouting := reverse } routes
  | routesInsert config => rw [RoutingMatcher.step, RoutingMatcher.onRoutesInsert_fst]; rfl
  | routesRemove id => rfl
  | reverseRoutingReplace reverse => rfl

/-- **Every rule added is effective**: a query that its patterns match has it among the candidates. -/
def Effective (l : Ledger) : Prop :=
  ∀ r ∈ l.added, ∀ q : Query, q.Printable → r.matchesQuery l.matcher.reverseRouting q = true →
    ∃ list, l.matcher.candidates q = .ok list ∧ (r.id, r.entry) ∈ list

end Ledger

/-- The `set_rule` of an `add_rule` only sets bits inside the bit set. -/
def SetsInside (m : RoutingMatcher) (r : RoutingInfo) : Prop :=
  (m.addRule r).2 ≠ .error .outOfBounds ∧ ∀ ty p t,
    (m.addRule r).1.prefixRuleMatcher.trie.Marked ty p t → ¬ m.prefixRuleMatcher.trie.Marked ty p t →
      t < maximumRuleNumber * routingFieldNumber

/-- So do all of an event. -/
def EventSetsInside (m : RoutingMatcher) : Event → Prop
  | .init reverse routes => Along RoutingMatcher.addRoute
      (fun m config => SetsInside m (RoutingInfo.ofConfig config)) { m with reverseRouting := reverse } routes
  | .routesInsert config => SetsInside m (RoutingInfo.ofConfig config)
  | .routesRemove _ => True
  | .reverseRoutingReplace _ => True

/-! ### While there are numbers -/

/-- With room, the marks an `add_rule` adds are inside the bit set. -/
theorem Refines.setsInside {m : RoutingMatcher} {t : RouteTable} {r : RoutingInfo} (h : Refines m t)
    (hroom : HasRoom m r) : SetsInside m r := by
  have hret : (m.addRule r).2 ≠ .error .outOfBounds := by
    rw [(h.addRule hroom).1]
    exact nofun
  refine ⟨hret, ?_⟩
  intro ty p k hk hnot
  by_contra hout
  simp only [maximumRuleNumber, routingFieldNumber] at hout
  refine hnot ?_
  rw [RoutingMatcher.addRule] at hk
  split at hk
  · exact hk
  · rename_i hnew
    have hset : (m.prefixRuleMatcher.setRule r.getList).1.trie.Marked ty p k := by
      split at hk <;> rename_i heq <;> rw [heq] <;> exact hk
    rcases hroom (Bool.eq_false_iff.mpr hnew) with hlt | hsource
    · simp only [RoutingMatcher.setRuleCalls, maximumRuleNumber] at hlt
      refine (PrefixRuleMatcher.setRule_frame r.getList_length ?_ (by decide) (.inr ?_) ty p).mp hset <;>
        simp only [routingFieldNumber] <;> omega
    · exact (r.setRule_source_exception m.prefixRuleMatcher hsource).2 ty p k |>.mp hset

/-- The ledger holds what the table does. -/
structure Ledger.Agrees (l : Ledger) (t : RouteTable) : Prop where
  /-- The matcher stands for the table. -/
  refines : Refines l.matcher t
  /-- The rules added are the live ones. -/
  added : l.added = t.rules

namespace Ledger.Agrees

variable {l : Ledger} {t : RouteTable}

theorem addRoute (h : l.Agrees t) {config : RouteConfig}
    (hroom : HasRoom l.matcher (RoutingInfo.ofConfig config)) :
    (l.addRoute config).Agrees (t.add (RoutingInfo.ofConfig config)) := by
  obtain ⟨hret, hrefines⟩ := h.refines.addRule hroom
  refine ⟨hrefines, ?_⟩
  rw [Ledger.addRoute]
  simp only [hret]
  by_cases hacc : t.Accepts (RoutingInfo.ofConfig config)
  · simp only [hacc, decide_true]
    rw [(RouteTable.add_of_accepts hacc).1, h.added]
  · simp only [hacc, decide_false]
    rw [RouteTable.add_of_not_accepts hacc, h.added]

theorem setReverse (h : l.Agrees t) (reverse : Bool) :
    Ledger.Agrees { l with matcher.reverseRouting := reverse } { t with reverse } :=
  ⟨h.refines.setReverse reverse, h.added⟩

theorem step (h : l.Agrees t) {e : Event} (hroom : EventHasRoom l.matcher e) :
    (l.step e).Agrees (t.step e) := by
  cases e with
  | init reverse routes =>
    have hledger := (along_map Ledger.matcher Ledger.addRoute_matcher
      (fun m config => HasRoom m (RoutingInfo.ofConfig config))
      { l with matcher.reverseRouting := reverse } routes).mpr hroom
    exact hledger.simulation (R := Ledger.Agrees) (fun l t config h hroom => h.addRoute hroom)
      (h.setReverse reverse)
  | routesInsert config => exact h.addRoute hroom
  | routesRemove id =>
    refine ⟨?_, ?_⟩
    · exact h.refines.step hroom
    · exact congrArg (List.filter _) h.added
  | reverseRoutingReplace reverse => exact h.setReverse reverse

theorem effective (h : l.Agrees t) : l.Effective := by
  intro r hr q hq hmatch
  refine ⟨_, h.refines.candidates hq, List.mem_map.mpr ⟨r, RouteTable.mem_matching.mpr ⟨?_, ?_⟩, rfl⟩⟩
  · exact h.added ▸ hr
  · obtain ⟨live, hrep⟩ := h.refines
    rw [← hrep.reverse]
    exact hmatch

end Ledger.Agrees

/-- **While there are numbers**: in a history in which every `set_rule` has one of the
`MAXIMUM_RULE_NUMBER` numbers left or is given a first pattern that the trie rejects, every `set_rule`
only sets bits inside the bit set, and every rule added is effective until it is removed. -/
theorem effective_of_room {events : List Event}
    (h : Along RoutingMatcher.step EventHasRoom RoutingMatcher.new events) :
    Along RoutingMatcher.step EventSetsInside RoutingMatcher.new events ∧
      (Ledger.after events).Effective := by
  constructor
  · refine h.of_invariant (I := fun m => ∃ t, Refines m t) ?_ ?_ ⟨_, refines_new⟩
    · rintro m e ⟨t, ht⟩ hroom
      exact ⟨_, ht.step hroom⟩
    · rintro m e ⟨t, ht⟩ hroom
      cases e with
      | init reverse routes =>
        refine hroom.of_invariant (I := fun m => ∃ t, Refines m t) ?_ ?_ ⟨_, ht.setReverse reverse⟩
        · rintro m config ⟨t, ht⟩ hroom
          exact ⟨_, (ht.addRule hroom).2⟩
        · rintro m config ⟨t, ht⟩ hroom
          exact ht.setsInside hroom
      | routesInsert config => exact ht.setsInside hroom
      | routesRemove id => trivial
      | reverseRoutingReplace reverse => trivial
  · have hledger := (along_map Ledger.matcher Ledger.step_matcher EventHasRoom Ledger.new events).mpr h
    have hagrees : (Ledger.after events).Agrees (RouteTable.after events) :=
      hledger.simulation (R := Ledger.Agrees) (fun l t e h hroom => h.step hroom) ⟨refines_new, rfl⟩
    exact hagrees.effective

/-! ### Out of numbers -/

/-- A route for every message. -/
def anyRoute : RouteConfig := ⟨1, 0, [], [], [], [], ascii "smsc"⟩

theorem effective_of_room_anyRoute :
    Along RoutingMatcher.step EventSetsInside RoutingMatcher.new
        [.routesInsert anyRoute, .routesRemove 1, .routesInsert anyRoute] ∧
      (Ledger.after [.routesInsert anyRoute, .routesRemove 1, .routesInsert anyRoute]).Effective :=
  effective_of_room (room_of_setRuleCalls (by decide))

/-- The route inserted and removed again, some number of times. -/
def churn : ℕ → List Event
  | 0 => []
  | n + 1 => churn n ++ [.routesInsert anyRoute, .routesRemove 1]

/-- At most `MAXIMUM_RULE_NUMBER` rules are live. -/
def FewLive (l : Ledger) (e : Event) : Prop := (l.step e).added.length ≤ maximumRuleNumber

/-- What the churn leaves: no rule, and a number less for each round. -/
structure Churned (n : ℕ) (l : Ledger) : Prop where
  /-- The matcher stands for the empty table. -/
  represents : Represents l.matcher RouteTable.empty []
  /-- The numbers used up. -/
  calls : l.matcher.setRuleCalls = n
  /-- No rule is added. -/
  added : l.added = []

theorem remove_anyRoute : (RouteTable.empty.add (RoutingInfo.ofConfig anyRoute)).remove 1 =
    RouteTable.empty := rfl

/-- **One round** of the churn, while there are numbers. -/
theorem Churned.round {n : ℕ} {l : Ledger} (h : Churned n l) (hn : n < maximumRuleNumber) :
    Churned (n + 1) (run Ledger.step l [.routesInsert anyRoute, .routesRemove 1]) ∧
      Along Ledger.step FewLive l [.routesInsert anyRoute, .routesRemove 1] := by
  have hacc : RouteTable.empty.Accepts (RoutingInfo.ofConfig anyRoute) := by decide
  obtain ⟨hret, hrep⟩ := h.represents.addRule_accepted (fun _ => .inl (h.calls ▸ hn)) hacc
  have hadded : (l.addRoute anyRoute).added = [RoutingInfo.ofConfig anyRoute] := by
    rw [Ledger.addRoute]
    simp only [hret, h.added, List.nil_append]
  have hempty : ((l.addRoute anyRoute).step (.routesRemove 1)).added = [] := by
    rw [Ledger.step]
    simp only [hadded]
    rfl
  have hmatcher : ((l.addRoute anyRoute).step (.routesRemove 1)).matcher =
      ((l.matcher.addRule (RoutingInfo.ofConfig anyRoute)).1.removeRule 1).1 :=
    RoutingMatcher.onRoutesRemove_fst _ _
  refine ⟨⟨?_, ?_, hempty⟩, ?_, ?_, trivial⟩
  · have hremoved := (hrep.removeRule 1).2
    rw [remove_anyRoute, ← hmatcher] at hremoved
    exact hremoved
  · have hcalls := RoutingMatcher.setRuleCalls_addRule l.matcher (RoutingInfo.ofConfig anyRoute)
    have hnew : l.matcher.ruleIdMapping.contains (RoutingInfo.ofConfig anyRoute).id = false :=
      Bool.eq_false_iff.mpr fun hc => hacc.1 ((h.represents.contains_iff _).mp hc)
    rw [hnew, if_neg Bool.false_ne_true, h.calls, ← RoutingMatcher.setRuleCalls_removeRule _ 1,
      ← hmatcher] at hcalls
    exact hcalls
  · exact (congrArg List.length hadded).le.trans (by decide)
  · exact (congrArg List.length hempty).le.trans (by decide)

theorem churned_after {n : ℕ} (hn : n ≤ maximumRuleNumber) :
    Churned n (Ledger.after (churn n)) ∧ Along Ledger.step FewLive Ledger.new (churn n) := by
  induction n with
  | zero => exact ⟨⟨represents_new, rfl, rfl⟩, trivial⟩
  | succ n ih =>
    obtain ⟨hchurned, hfew⟩ := ih (Nat.le_of_succ_le hn)
    obtain ⟨hround, hfew'⟩ := hchurned.round hn
    refine ⟨?_, along_append.mpr ⟨hfew, hfew'⟩⟩
    rw [Ledger.after, churn, run_append]
    exact hround

/-- The rule with the first number too many: `add_rule` returns `true`, the rule's first pattern has set
the bit just past the bit set, and no query has a candidate. -/
theorem Churned.overflow {l : Ledger} (h : Churned maximumRuleNumber l) :
    (l.addRoute anyRoute).added = [RoutingInfo.ofConfig anyRoute] ∧
      (l.addRoute anyRoute).matcher.prefixRuleMatcher.trie.Marked .pre []
        (maximumRuleNumber * routingFieldNumber) ∧
      ∀ q : Query, q.Printable → (l.addRoute anyRoute).matcher.candidates q = .ok [] := by
  have hcount : l.matcher.prefixRuleMatcher.countOfSetRules = maximumRuleNumber := h.calls
  have hvalid : PrefixRuleMatcher.ValidRule (RoutingInfo.ofConfig anyRoute).getList :=
    (RoutingInfo.valid_iff _).mp (by decide)
  obtain ⟨hok, hheld⟩ := PrefixRuleMatcher.setRule_ok h.represents.fresh hvalid
    (RoutingInfo.getList_length _) (by rw [hcount]; decide) (by decide)
  have hnew : l.matcher.ruleIdMapping.contains (RoutingInfo.ofConfig anyRoute).id = false :=
    Bool.eq_false_iff.mpr fun hc => by simpa [RouteTable.empty] using (h.represents.contains_iff _).mp hc
  rw [hcount] at hok
  have hadd := l.matcher.addRule_of_ok hnew hok
  refine ⟨?_, ?_, fun q hq => ?_⟩
  · rw [Ledger.addRoute]
    simp only [hadd, h.added, List.nil_append]
  · rw [Ledger.addRoute_matcher, RoutingMatcher.addRoute, hadd]
    have hfirst := (hheld 0 _ rfl .pre []).mpr
      ⟨[star], by simp [RoutingInfo.ofConfig, anyRoute]; decide, by decide, by decide⟩
    rwa [hcount] at hfirst
  · have hmatch := PrefixRuleMatcher.matchRecord_eq (l.addRoute anyRoute).matcher.prefixRuleMatcher
      (hq.record (l.addRoute anyRoute).matcher.reverseRouting) rfl (by decide) (by decide) (by decide)
    rw [RoutingMatcher.candidates, hmatch, Except.map, RoutingMatcher.matchedRules]
    refine congrArg Except.ok (List.filterMap_eq_nil_iff.mpr fun k hk => ?_)
    have hlt : k < maximumRuleNumber := List.mem_range.mp (List.mem_filter.mp hk).1
    have hnone : (l.addRoute anyRoute).matcher.prmIdToRuleId[k]? = none := by
      rw [Ledger.addRoute_matcher, RoutingMatcher.addRoute, hadd]
      simp only [Std.ExtTreeMap.getElem?_insert, Nat.compare_eq_eq, hlt.ne', if_false]
      rw [Option.eq_none_iff_forall_ne_some]
      intro id hid
      obtain ⟨r, hr, -⟩ := (h.represents.prmIdToRuleId k id).mp hid
      cases hr
    rw [hnone]

/-- A history with at most one rule live at any time that uses up all numbers. -/
theorem exists_churned : ∃ events, Churned maximumRuleNumber (Ledger.after events) ∧
    Along Ledger.step FewLive Ledger.new events :=
  ⟨churn maximumRuleNumber, churned_after le_rfl⟩

theorem Churned.not_effective {events : List Event}
    (h : Churned maximumRuleNumber (Ledger.after events)) (hfew : Along Ledger.step FewLive Ledger.new events) :
    Along Ledger.step FewLive Ledger.new (events ++ [.routesInsert anyRoute]) ∧
      ¬ (Ledger.after (events ++ [.routesInsert anyRoute])).Effective := by
  obtain ⟨hadded, -, hnone⟩ := h.overflow
  have hafter : Ledger.after (events ++ [.routesInsert anyRoute]) =
      (Ledger.after events).addRoute anyRoute := run_concat _ _ _ _
  have hlast : FewLive (Ledger.after events) (.routesInsert anyRoute) :=
    (congrArg List.length hadded).le.trans (by decide)
  refine ⟨along_append.mpr ⟨hfew, hlast, trivial⟩, ?_⟩
  intro heffective
  rw [hafter] at heffective
  have hquery : (⟨[97], [49], [49], [49]⟩ : Query).Printable := ⟨by decide, by decide, by decide, by decide⟩
  obtain ⟨list, hlist, hmem⟩ := heffective (RoutingInfo.ofConfig anyRoute) (by rw [hadded]; simp) _ hquery
    (by generalize ((Ledger.after events).addRoute anyRoute).matcher.reverseRouting = reverse
        cases reverse <;> decide)
  rw [hnone _ hquery] at hlist
  cases hlist
  cases hmem

/-- **Out of numbers**: with at most one rule live at any time, the insertion after
`MAXIMUM_RULE_NUMBER` others succeeds without effect. -/
theorem not_effective : ¬ ∀ events : List Event, Along Ledger.step FewLive Ledger.new events →
    Along RoutingMatcher.step EventSetsInside RoutingMatcher.new events ∧
      (Ledger.after events).Effective := by
  intro h
  obtain ⟨events, hchurned, hfew⟩ := exists_churned
  obtain ⟨hfew', hnot⟩ := hchurned.not_effective hfew
  exact hnot (h _ hfew').2

end SmppGateway.Routing
