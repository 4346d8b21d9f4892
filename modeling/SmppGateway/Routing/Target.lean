import SmppGateway.Routing.RouteTable

/-!
# The target of a query

What `find_target` makes of its candidates. The loop keeps `matched` for every entry whose priority
is above `priority`, and `priority` stays at its initial value `-1`, so every entry passes and the last
one is kept.

## What is proved

* `targetMatchList_eq` — after any history of at most `MAXIMUM_RULE_NUMBER` calls of `set_rule` the
  candidates are the live rules that match the query, in the order they were added.
* `highestPriority_iff` — the target is one of highest priority exactly when the last of these rules
  has the target of a rule of highest priority.
* `findTarget_ok_iff` — `find_target` returns exactly when no walk comes to a character the trie does
  not take.
-/

namespace SmppGateway.Routing

open SmppGateway.Foundation

/-! ### The loop over the candidates -/

/-- The loop keeps the target of the last candidate. -/
theorem RoutingMatcher.selectTarget_eq (list : List (Bytes × ℕ)) :
    selectTarget list = (list.getLast?.map Prod.fst).getD [] := by
  have hloop : ∀ s : Bytes × ℤ, s.2 = -1 → (list.foldl (fun (matched, priority) (itr : Bytes × ℕ) =>
      if priority < (itr.2 : ℤ) then (itr.1, priority) else (matched, priority)) s).1 =
        (list.getLast?.map Prod.fst).getD s.1 := by
    induction list with
    | nil => intro s _; rfl
    | cons itr list ih =>
      intro s hs
      have hlt : s.2 < (itr.2 : ℤ) := by omega
      rw [List.foldl_cons]
      simp only [hlt, if_true]
      rw [ih (itr.1, s.2) hs, List.getLast?_cons]
      cases list.getLast? <;> rfl
  exact hloop ([], -1) rfl

namespace Refines

variable {m : RoutingMatcher} {t : RouteTable} {q : Query}

/-- `find_target` returns the target of the live rule that matches and was added last. -/
theorem findTarget (h : Refines m t) (hq : q.Printable) :
    m.findTarget q = .ok (((t.matching q).getLast?.map RoutingInfo.target).getD []) := by
  rw [RoutingMatcher.findTarget, h.targetMatchList hq, Except.map, RoutingMatcher.selectTarget_eq,
    List.getLast?_map, Option.map_map]
  rfl

theorem findTarget_eq_nil_iff (h : Refines m t) (hq : q.Printable) :
    m.findTarget q = .ok [] ↔ t.matching q = [] := by
  rw [h.findTarget hq, Except.ok.injEq]
  cases hlast : (t.matching q).getLast? with
  | none => simpa using List.getLast?_eq_none_iff.mp hlast
  | some r =>
    have hne : t.matching q ≠ [] := fun hnil => by simp [hnil] at hlast
    simp [hne, r.target_ne]

end Refines

/-! ### The candidates -/

/-- **The candidates of a query.** `targetMatchList` has one entry for each live rule that matches, in
the order the rules were added, and the target is empty exactly when there is none; and the next
`add_rule` adds its rule exactly when the table of live rules takes it. -/
theorem targetMatchList_eq {events : List Event}
    (hcalls : (RoutingMatcher.after events).setRuleCalls ≤ maximumRuleNumber) :
    (∀ q : Query, q.Printable →
      (RoutingMatcher.after events).targetMatchList q =
          .ok (((RouteTable.after events).matching q).map RoutingInfo.entry) ∧
        ((RoutingMatcher.after events).findTarget q = .ok [] ↔
          (RouteTable.after events).matching q = [])) ∧
      ∀ r : RoutingInfo, ((RoutingMatcher.after events).addRule r).1.setRuleCalls ≤ maximumRuleNumber →
        ((RoutingMatcher.after events).addRule r).2 =
          .ok (decide ((RouteTable.after events).Accepts r)) := by
  have hrefines := refines_after hcalls
  refine ⟨fun q hq => ⟨hrefines.targetMatchList hq, hrefines.findTarget_eq_nil_iff hq⟩, ?_⟩
  intro r hr
  exact (hrefines.addRule (hasRoom_of_setRuleCalls hr)).1

section Example

/-- A route for destinations that start with `98`, of priority 10. -/
def narrowRoute : RouteConfig := ⟨1, 10, [], [], ascii "98*", [], ascii "high"⟩

/-- A route for destinations that start with `9`, of priority 1. -/
def wideRoute : RouteConfig := ⟨2, 1, [], [], ascii "9*", [], ascii "low"⟩

/-- A message to a destination both routes are for. -/
def message : Query := ⟨ascii "esme", ascii "100", ascii "9812", ascii "1"⟩

theorem message_printable : message.Printable := ⟨by decide, by decide, by decide, by decide⟩

theorem targetMatchList_eq_message :
    (RoutingMatcher.after [.routesInsert narrowRoute, .routesInsert wideRoute, .routesRemove 1]).targetMatchList
      message = .ok [(ascii "low", 1)] := by
  have hlist := ((@targetMatchList_eq
    [.routesInsert narrowRoute, .routesInsert wideRoute, .routesRemove 1] (by decide)).1
      message message_printable).1
  rw [hlist]
  decide

end Example

/-! ### The priority -/

/-- **Priority routing**: a target that is found is the target of a live rule that matches the query and
whose priority is highest among the live rules that match it. -/
def PriorityRouted (m : RoutingMatcher) (t : RouteTable) (q : Query) : Prop :=
  ∀ target, m.findTarget q = .ok target → target ≠ [] →
    ∃ r ∈ t.matching q, r.target = target ∧ ∀ r' ∈ t.matching q, r'.priority ≤ r.priority

/-- The rule added last has the target of a rule of highest priority. -/
def LastHasBestTarget (rules : List RoutingInfo) : Prop :=
  ∀ last, rules.getLast? = some last →
    ∃ best ∈ rules, best.target = last.target ∧ ∀ r ∈ rules, r.priority ≤ best.priority

/-- **When the target is one of highest priority**: after any history of at most `MAXIMUM_RULE_NUMBER`
calls of `set_rule`, exactly when no live rule matches the query or the matching rule that was added
last has the target of a matching rule of highest priority. -/
theorem highestPriority_iff {events : List Event}
    (hcalls : (RoutingMatcher.after events).setRuleCalls ≤ maximumRuleNumber) {q : Query}
    (hq : q.Printable) :
    PriorityRouted (RoutingMatcher.after events) (RouteTable.after events) q ↔
      LastHasBestTarget ((RouteTable.after events).matching q) := by
  have hfind := (refines_after hcalls).findTarget hq
  constructor
  · intro h last hlast
    refine h last.target ?_ last.target_ne
    rw [hfind, hlast]
    rfl
  · intro h target htarget hne
    rw [hfind, Except.ok.injEq] at htarget
    cases hlast : ((RouteTable.after events).matching q).getLast? with
    | none =>
      rw [hlast] at htarget
      exact absurd htarget.symm hne
    | some last =>
      rw [hlast] at htarget
      obtain ⟨best, hbest, heq, hmax⟩ := h last hlast
      exact ⟨best, hbest, heq.trans htarget, hmax⟩

theorem highestPriority_iff_message :
    PriorityRouted (RoutingMatcher.after [.routesInsert wideRoute, .routesInsert narrowRoute])
      (RouteTable.after [.routesInsert wideRoute, .routesInsert narrowRoute]) message := by
  refine (@highestPriority_iff [.routesInsert wideRoute, .routesInsert narrowRoute] (by decide) message
    message_printable).mpr fun last hlast => ?_
  have hmatching : (RouteTable.after [.routesInsert wideRoute, .routesInsert narrowRoute]).matching message =
      [RoutingInfo.ofConfig wideRoute, RoutingInfo.ofConfig narrowRoute] := rfl
  rw [hmatching] at hlast ⊢
  cases hlast
  exact ⟨RoutingInfo.ofConfig narrowRoute, by simp, rfl, by simp; decide⟩

/-- With the rule of lower priority added last, its target is found. -/
theorem not_priorityRouted : ¬ ∀ (events : List Event) (q : Query),
    (RoutingMatcher.after events).setRuleCalls ≤ maximumRuleNumber → q.Printable →
      PriorityRouted (RoutingMatcher.after events) (RouteTable.after events) q := by
  intro h
  have hcalls : (RoutingMatcher.after [.routesInsert narrowRoute, .routesInsert wideRoute]).setRuleCalls ≤
      maximumRuleNumber := by decide
  have hmatching : (RouteTable.after [.routesInsert narrowRoute, .routesInsert wideRoute]).matching message =
      [RoutingInfo.ofConfig narrowRoute, RoutingInfo.ofConfig wideRoute] := rfl
  have hfind := (refines_after hcalls).findTarget message_printable
  obtain ⟨r, hr, htarget, hmax⟩ := h _ message hcalls message_printable _ hfind
    (by rw [hmatching]; decide)
  rw [hmatching] at hr htarget hmax
  have hbest := hmax (RoutingInfo.ofConfig narrowRoute) (by simp)
  simp only [List.mem_cons, List.not_mem_nil, or_false] at hr
  rcases hr with rfl | rfl
  · exact absurd htarget (by decide)
  · exact absurd hbest (by decide)

/-! ### The exceptions -/

theorem Query.record_ne_nil (q : Query) (reverseRouting : Bool) : q.record reverseRouting ≠ [] :=
  List.cons_ne_nil _ _

/-- **When a target is returned**: after any history, exactly when in each of the four parameters, the way
they are looked up, the walk has left the trie before it comes to a character the trie does not take. -/
theorem findTarget_ok_iff (events : List Event) (q : Query) :
    (∃ target, (RoutingMatcher.after events).findTarget q = .ok target) ↔
      ∀ field ∈ q.record (RoutingMatcher.after events).reverseRouting,
        (RoutingMatcher.after events).prefixRuleMatcher.trie.root.Escapes (lower field) := by
  rw [← PrefixRuleMatcher.matchRecord_ok_iff _ (q.record_ne_nil _) (by decide),
    RoutingMatcher.findTarget, RoutingMatcher.targetMatchList, RoutingMatcher.candidates]
  cases (RoutingMatcher.after events).prefixRuleMatcher.matchRecord
    (q.record (RoutingMatcher.after events).reverseRouting) <;> simp [Except.map]

/-- A message from the sender `"é"`, in UTF-8. -/
def utf8Message : Query := ⟨ascii "esme", [0xC3, 0xA9], ascii "9812", ascii "1"⟩

/-- One route is enough for it to throw: its walk looks at the first byte. -/
theorem not_findTarget_ok : ¬ ∀ (events : List Event) (q : Query),
    ∃ target, (RoutingMatcher.after events).findTarget q = .ok target := by
  intro h
  obtain ⟨target, htarget⟩ := h [.routesInsert narrowRoute] utf8Message
  have hthrows : (RoutingMatcher.after [.routesInsert narrowRoute]).findTarget utf8Message =
      .error (.exception atText) := rfl
  rw [hthrows] at htarget
  cases htarget

end SmppGateway.Routing
