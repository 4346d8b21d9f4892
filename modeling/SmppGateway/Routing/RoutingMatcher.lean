import SmppGateway.Foundation.Run
import SmppGateway.Routing.PrefixRuleMatcher
import Mathlib.Tactic.Linarith

/-!
# The routing matcher

`routing_matcher` (`src/routing/smpp/routing_matcher.cpp`): the routes of the configuration as rules
of four parameters, kept in a `prefix_rule_matcher` and two maps. `rule_id_mapping_` gives the
target and the priority of a rule id, `prm_id_to_rule_id_` the rule id behind a number of the
`prefix_rule_matcher`. Removing a rule deletes its two map entries and leaves its patterns in the
trie.

## The model

A rule id is a `uint64_t` that is only ever a widened `uint32_t`; the priority is cut to sixteen bits
where it is stored. An exception of `set_rule` is caught by `add_rule`; an access outside the
storage is not an exception and stays an outcome. The observers `on_routes_insert`, `on_routes_remove`
and `on_reverse_routing_replace` are the events of a run, and so is `init`, which the constructor
calls.

The argument `is_available` of `find_target`, which its body never uses, and the log lines are left
out.
-/

namespace SmppGateway.Routing

open SmppGateway.Foundation
open Std (ExtTreeMap)

/-- `ROUTING_FIELD_NUMBER`. -/
def routingFieldNumber : ℕ := 4

/-- `MAXIMUM_RULE_NUMBER`. -/
def maximumRuleNumber : ℕ := 1000

/-- The values of `packet_type` that a route can name. -/
inductive PacketType where
  /-- `ao`, a submitted message. -/
  | ao
  /-- `dr`, a delivery report. -/
  | dr
  /-- `at`, a delivered message. -/
  | at
  deriving DecidableEq, Repr

/-- `std::to_string(uint32_t(packet_type))`. -/
def PacketType.toText : PacketType → Bytes
  | .ao => ascii "1"
  | .dr => ascii "2"
  | .at => ascii "3"

/-- A node of the configuration's `routes`. -/
structure RouteConfig where
  /-- `id`. -/
  id : UInt32
  /-- `priority`. -/
  priority : UInt32
  /-- `from`. -/
  source : Bytes
  /-- `source_address`. -/
  sourceAddress : Bytes
  /-- `destination_address`. -/
  destinationAddress : Bytes
  /-- `pdu_type`. -/
  pduType : Bytes
  /-- `target`. -/
  target : Bytes

/-- An empty text becomes `"*"`. -/
def orStar (text : Bytes) : Bytes := if text.isEmpty then [star] else text

theorem orStar_ne_nil (text : Bytes) : orStar text ≠ [] := by
  rw [orStar]
  split
  · simp
  · simp_all

/-- The pattern of the type of a PDU; a text that names no type is logged and kept. -/
def pduTypePattern (text : Bytes) : Bytes :=
  let text := orStar text
  if text = ascii "submit" then PacketType.ao.toText
  else if text = ascii "deliver" then PacketType.at.toText
  else if text = ascii "delivery_report" then PacketType.dr.toText
  else text

theorem pduTypePattern_ne_nil (text : Bytes) : pduTypePattern text ≠ [] := by
  simp only [pduTypePattern]
  split_ifs
  · decide
  · decide
  · decide
  · exact orStar_ne_nil text

theorem lower_ne_nil {text : Bytes} (h : text ≠ []) : lower text ≠ [] := mt lower_eq_nil.mp h

/-- `routing_info`: none of its texts is empty. -/
structure RoutingInfo where
  /-- `id_`. -/
  id : ℕ
  /-- `priority_`. -/
  priority : ℕ
  /-- `target_`. -/
  target : Bytes
  /-- `from_`. -/
  source : Bytes
  /-- `source_address_`. -/
  sourceAddress : Bytes
  /-- `destination_address_`. -/
  destinationAddress : Bytes
  /-- `pdu_type_`. -/
  pduType : Bytes
  /-- There is a target. -/
  target_ne : target ≠ []
  /-- Every parameter has a pattern. -/
  patterns_ne : source ≠ [] ∧ sourceAddress ≠ [] ∧ destinationAddress ≠ [] ∧ pduType ≠ []

namespace RoutingInfo

/-- The constructor of `routing_info`. -/
def ofConfig (config : RouteConfig) : RoutingInfo where
  id := config.id.toNat
  priority := config.priority.toNat % 2 ^ 16
  target := orStar config.target
  source := lower (orStar config.source)
  sourceAddress := orStar config.sourceAddress
  destinationAddress := orStar config.destinationAddress
  pduType := pduTypePattern config.pduType
  target_ne := orStar_ne_nil _
  patterns_ne := ⟨lower_ne_nil (orStar_ne_nil _), orStar_ne_nil _, orStar_ne_nil _,
    pduTypePattern_ne_nil _⟩

/-- `get_list`. -/
def getList (r : RoutingInfo) : List (List Bytes) :=
  [[r.source], [r.sourceAddress], [r.destinationAddress], [r.pduType]]

theorem getList_length (r : RoutingInfo) : r.getList.length = routingFieldNumber := rfl

theorem getList_nonempty (r : RoutingInfo) : ∀ patterns ∈ r.getList,
    PrefixRuleMatcher.NonemptyPatterns patterns := by
  obtain ⟨h1, h2, h3, h4⟩ := r.patterns_ne
  simp [getList, PrefixRuleMatcher.NonemptyPatterns, h1, h2, h3, h4]

end RoutingInfo

/-- `routing_matcher`. -/
structure RoutingMatcher where
  /-- `reverse_routing_`. -/
  reverseRouting : Bool
  /-- `prefix_rule_matcher_`. -/
  prefixRuleMatcher : PrefixRuleMatcher maximumRuleNumber routingFieldNumber
  /-- `rule_id_mapping_`. -/
  ruleIdMapping : ExtTreeMap ℕ (Bytes × ℕ)
  /-- `prm_id_to_rule_id_`. -/
  prmIdToRuleId : ExtTreeMap ℕ ℕ

/-- The arguments of `find_target`. -/
structure Query where
  /-- `from`. -/
  source : Bytes
  /-- `src_address`. -/
  srcAddress : Bytes
  /-- `dest_address`. -/
  destAddress : Bytes
  /-- `pdu_type`. -/
  pduType : Bytes

/-- The arguments are printable ASCII strings. -/
structure Query.Printable (q : Query) : Prop where
  /-- `from` is. -/
  source : Foundation.Printable q.source
  /-- `src_address` is. -/
  srcAddress : Foundation.Printable q.srcAddress
  /-- `dest_address` is. -/
  destAddress : Foundation.Printable q.destAddress
  /-- `pdu_type` is. -/
  pduType : Foundation.Printable q.pduType

/-- The record `find_target` looks up. -/
def Query.record (q : Query) (reverseRouting : Bool) : List Bytes :=
  [lower q.source, q.srcAddress, if reverseRouting then q.destAddress.reverse else q.destAddress,
    q.pduType]

namespace RoutingMatcher

/-- The members before the constructor calls `init`. -/
def new : RoutingMatcher :=
  ⟨false, PrefixRuleMatcher.new maximumRuleNumber routingFieldNumber, ∅, ∅⟩

/-- The rules' bits fit an `int`, so the constructor of `prefix_rule_matcher_` returns. -/
example : PrefixRuleMatcher.create maximumRuleNumber routingFieldNumber = .ok new.prefixRuleMatcher :=
  PrefixRuleMatcher.create_ok (by decide) (by decide) (by decide)

/-- `add_rule`. -/
def addRule (m : RoutingMatcher) (inputRule : RoutingInfo) : RoutingMatcher × Except Fault Bool :=
  if m.ruleIdMapping.contains inputRule.id then (m, .ok false)
  else
    match m.prefixRuleMatcher.setRule inputRule.getList with
    | (prefixRuleMatcher, .ok pRMId) =>
      ({ m with
          prefixRuleMatcher
          prmIdToRuleId := m.prmIdToRuleId.insert pRMId inputRule.id
          ruleIdMapping :=
            m.ruleIdMapping.insertIfNew inputRule.id (inputRule.target, inputRule.priority) },
        .ok true)
    | (prefixRuleMatcher, .error (.exception _)) => ({ m with prefixRuleMatcher }, .ok false)
    | (prefixRuleMatcher, .error .outOfBounds) => ({ m with prefixRuleMatcher }, .error .outOfBounds)

/-- `remove_rule`: the loop erases the first entry of the rule and stops. -/
def removeRule (m : RoutingMatcher) (ruleId : ℕ) : RoutingMatcher × Bool :=
  if m.ruleIdMapping.contains ruleId then
    ({ m with
        ruleIdMapping := m.ruleIdMapping.erase ruleId
        prmIdToRuleId :=
          match m.prmIdToRuleId.toList.find? fun it => it.2 == ruleId with
          | some it => m.prmIdToRuleId.erase it.1
          | none => m.prmIdToRuleId }, true)
  else (m, false)

/-- The loop of `init` over the configured routes, which drops what `add_rule` returns. -/
def addRoute (m : RoutingMatcher) (routeConfig : RouteConfig) : RoutingMatcher :=
  (m.addRule (RoutingInfo.ofConfig routeConfig)).1

/-- `init`. -/
def init (m : RoutingMatcher) (reverse : Bool) (routes : List RouteConfig) : RoutingMatcher :=
  run addRoute { m with reverseRouting := reverse } routes

/-- `on_reverse_routing_replace`. -/
def onReverseRoutingReplace (m : RoutingMatcher) (reverse : Bool) : RoutingMatcher :=
  { m with reverseRouting := reverse }

/-- `on_routes_insert`. -/
def onRoutesInsert (m : RoutingMatcher) (config : RouteConfig) :
    RoutingMatcher × Except Fault Unit :=
  match m.addRule (RoutingInfo.ofConfig config) with
  | (m, .ok true) => (m, .ok ())
  | (m, .ok false) => (m, .error (.exception (ascii "could not add route")))
  | (m, .error e) => (m, .error e)

/-- `on_routes_remove`. -/
def onRoutesRemove (m : RoutingMatcher) (id : UInt32) : RoutingMatcher × Except Fault Unit :=
  match m.removeRule id.toNat with
  | (m, true) => (m, .ok ())
  | (m, false) => (m, .error (.exception (ascii "could not remove route")))

/-- The entries of the rules that the loop over `matchList` finds in both maps, with their ids. -/
def matchedRules (m : RoutingMatcher) (matchList : List ℕ) : List (ℕ × Bytes × ℕ) :=
  matchList.filterMap fun matchId =>
    match m.prmIdToRuleId[matchId]? with
    | none => none
    | some ruleId => (m.ruleIdMapping[ruleId]?).map fun entry => (ruleId, entry)

/-- The rules `find_target` takes as candidates, with their ids. -/
def candidates (m : RoutingMatcher) (q : Query) : Except Fault (List (ℕ × Bytes × ℕ)) :=
  (m.prefixRuleMatcher.matchRecord (q.record m.reverseRouting)).map m.matchedRules

/-- `targetMatchList`. -/
def targetMatchList (m : RoutingMatcher) (q : Query) : Except Fault (List (Bytes × ℕ)) :=
  (m.candidates q).map fun list => list.map Prod.snd

/-- The loop of `find_target` over `targetMatchList`; its state is `matched` and `priority`. -/
def selectTarget (targetMatchList : List (Bytes × ℕ)) : Bytes :=
  (targetMatchList.foldl (fun (matched, priority) itr =>
    if priority < (itr.2 : ℤ) then (itr.1, priority) else (matched, priority)) ([], (-1 : ℤ))).1

/-- `find_target`. -/
def findTarget (m : RoutingMatcher) (q : Query) : Except Fault Bytes :=
  (m.targetMatchList q).map selectTarget

end RoutingMatcher

/-- What happens to a routing matcher. -/
inductive Event where
  /-- `init` with the configured value of `reverse` and the configured routes. -/
  | init (reverse : Bool) (routes : List RouteConfig)
  /-- `on_routes_insert`. -/
  | routesInsert (config : RouteConfig)
  /-- `on_routes_remove` of the route with an id. -/
  | routesRemove (id : UInt32)
  /-- `on_reverse_routing_replace`. -/
  | reverseRoutingReplace (reverse : Bool)

namespace RoutingMatcher

/-- One event. The exception an observer throws goes to the configuration manager; the members
stay as the observer left them. -/
def step (m : RoutingMatcher) : Event → RoutingMatcher
  | .init reverse routes => m.init reverse routes
  | .routesInsert config => (m.onRoutesInsert config).1
  | .routesRemove id => (m.onRoutesRemove id).1
  | .reverseRoutingReplace reverse => m.onReverseRoutingReplace reverse

/-- The number of `set_rule` calls so far. -/
def setRuleCalls (m : RoutingMatcher) : ℕ := m.prefixRuleMatcher.countOfSetRules

/-- The state a history leads to. -/
def after (events : List Event) : RoutingMatcher := run step new events

end RoutingMatcher

end SmppGateway.Routing
