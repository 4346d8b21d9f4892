import SmppGateway.Foundation.BigEndian
import SmppGateway.Foundation.Numeral
import SmppGateway.Foundation.RoundRobin
import SmppGateway.Foundation.Run
import SmppGateway.Routing.RouteMapper
import SmppGateway.Routing.Router
import Mathlib.Order.Lattice

/-!
# The selection of targets

`router::find` (`src/routing/pinex/router.cpp`): which backends a message goes to, by the method that the
routing list has for its type.

## The model

The routing list is changed by the configuration only, so each call of `find` is given the one it meets. A call
can end without returning: `last_index_` is an `int`, and `MyHash` is `noexcept`.

## What is proved

* `sound_run` — the targets stay sorted without duplicates, and `last_index_` stays inside them.
* `selections_eq` — consecutive round-robin selections go round the targets.
* `balanced_iff` — a reachable router is fair exactly if an `int` counts its targets.
-/

namespace SmppGateway.Routing

open Foundation

/-- How a call ends that does not return. -/
inductive Ending where
  /-- The behaviour is undefined from here on. -/
  | undefined
  /-- An exception comes to the end of a `noexcept` function. -/
  | terminated
  deriving DecidableEq

/-- `routing_method`. -/
inductive RoutingMethod where
  /-- `RM_ROUND_ROBIN`. -/
  | roundRobin
  /-- `RM_LOAD_BALANCE`. -/
  | loadBalance
  /-- `RM_BROAD_CAST`. -/
  | broadCast
  /-- `RM_ROUTE_BY_CLIENT_ID`. -/
  | routeByClientId
  /-- `RM_ROUTE_BY_PREFIX`. -/
  | routeByPrefix
  deriving DecidableEq

/-- The class `route`. -/
structure RouteEntry where
  method_ : RoutingMethod
  destinations_ : RouteMapper

/-- `routing_list`. -/
structure RoutingList where
  msg_type_to_route_map_ : ℤ → Option RouteEntry

namespace RoutingList

/-- `find_routing_method`. -/
def findRoutingMethod (list : RoutingList) (msgType : ℤ) : RoutingMethod :=
  (list.msg_type_to_route_map_ msgType).elim .roundRobin RouteEntry.method_

/-- `find_target`. -/
def findTarget (list : RoutingList) (string : Bytes) (msgType : ℤ) (reverse : Bool) : Bytes :=
  (list.msg_type_to_route_map_ msgType).elim [] fun route => route.destinations_.findDestination string reverse

end RoutingList

/-- `MyHash`. The position `length() - 5` of a shorter string wraps around, and `substr` throws. -/
def myHash (str : Bytes) : Except Ending ℤ :=
  if str.length < 5 then .error .terminated
  else
    match stoi (str.drop (str.length - 5)) with
    | .ok h => .ok h
    | .error _ => .error .terminated

namespace Router

/-- The constructor. -/
def new : Router := ⟨[], 0⟩

/-- `route_by_broad_casting`. -/
def routeByBroadCasting (r : Router) : List Bytes := r.targets_list_

/-- `route_by_client_id`. -/
def routeByClientId (clientId : Bytes) : List Bytes := if clientId.length ≠ 0 then [clientId] else []

/-- `route_by_prefix`. -/
def routeByPrefix (list : RoutingList) (string : Bytes) (msgType : ℤ) (reverse : Bool) : List Bytes :=
  let r := list.findTarget string msgType reverse
  if r.length ≠ 0 then [r] else []

/-- `route_by_round_robin`. The sum `last_index_ + 1` is an `int`. -/
def routeByRoundRobin (r : Router) : Except Ending (Router × List Bytes) :=
  if r.targets_list_.length > 0 then
    match r.targets_list_[r.last_index_]? with
    | none => .error .undefined
    | some target =>
      if r.last_index_ + 1 < 2 ^ 31 then
        .ok ({ r with last_index_ := (r.last_index_ + 1) % r.targets_list_.length }, [target])
      else .error .undefined
  else .ok (r, [])

/-- `route_by_load_balance`. The remainder is taken of the hash as a `size_t`, and becomes an `int`: a negative
one is far outside the list. -/
def routeByLoadBalance (r : Router) (str : Bytes) : Except Ending (List Bytes) :=
  if r.targets_list_.length > 0 then
    match myHash str with
    | .error e => .error e
    | .ok h =>
      let index := (h % 2 ^ 64).toNat % r.targets_list_.length % 2 ^ 32
      match r.targets_list_[index]? with
      | none => .error .undefined
      | some target => if index < 2 ^ 31 then .ok [target] else .error .undefined
  else .ok []

/-- `find`: the router after the call, and what it has appended to `targets_list`. -/
def find (r : Router) (list : RoutingList) (reverse : Bool) (msgType : ℤ) (id : Bytes) :
    Except Ending (Router × List Bytes) :=
  match list.findRoutingMethod msgType with
  | .broadCast => .ok (r, r.routeByBroadCasting)
  | .loadBalance => (r.routeByLoadBalance id).map fun targets => (r, targets)
  | .roundRobin => r.routeByRoundRobin
  | .routeByPrefix => .ok (r, routeByPrefix list id msgType reverse)
  | .routeByClientId => .ok (r, routeByClientId id)

/-! ### Calls -/

/-- A call of a member function. -/
inductive Call where
  /-- `add_target`. -/
  | addTarget (target : Bytes)
  /-- `remove_target`. -/
  | removeTarget (target : Bytes)
  /-- `find`, with the routing list and `reverse_` of that moment. -/
  | find (list : RoutingList) (reverse : Bool) (msgType : ℤ) (id : Bytes)

/-- One call. After one that does not return there is no router any more. -/
def step (s : Except Ending Router) (call : Call) : Except Ending Router :=
  match s, call with
  | .error e, _ => .error e
  | .ok r, .addTarget target => .ok (r.addTarget target)
  | .ok r, .removeTarget target => .ok (r.removeTarget target)
  | .ok r, .find list reverse msgType id => (r.find list reverse msgType id).map Prod.fst

/-- Consecutive calls of `route_by_round_robin`, and what they append. -/
def selections : ℕ → Router → Except Ending (Router × List Bytes)
  | 0, r => .ok (r, [])
  | n + 1, r =>
    match r.routeByRoundRobin with
    | .error e => .error e
    | .ok (r, targets) => (selections n r).map fun (r, rest) => (r, targets ++ rest)

/-! ### The list and the cursor -/

/-- The targets are in strict order, and the cursor, an `int`, is inside them. -/
structure Sound (r : Router) : Prop where
  sorted : r.targets_list_.Pairwise (· < ·)
  cursor : r.last_index_ < max 1 r.targets_list_.length
  int : r.last_index_ < 2 ^ 31

variable {r : Router}

theorem Sound.nodup (h : r.Sound) : r.targets_list_.Nodup := h.sorted.imp fun hlt heq => by
  subst heq
  exact List.lt_irrefl _ hlt

theorem sound_new : new.Sound := ⟨List.Pairwise.nil, by decide, by decide⟩

theorem pairwise_mergeSort_le (targets : List Bytes) :
    (targets.mergeSort fun x y => x ≤ y).Pairwise (· ≤ ·) := by
  have htrans (x y z : Bytes) (hxy : decide (x ≤ y) = true) (hyz : decide (y ≤ z) = true) :
      decide (x ≤ z) = true := decide_eq_true (List.le_trans (of_decide_eq_true hxy) (of_decide_eq_true hyz))
  have htotal (x y : Bytes) : (decide (x ≤ y) || decide (y ≤ x)) = true := by
    simpa using List.le_total x y
  exact (List.pairwise_mergeSort htrans htotal targets).imp of_decide_eq_true

theorem Sound.addTarget (h : r.Sound) (target : Bytes) : (r.addTarget target).Sound := by
  have hnodup := nodup_addTarget h.nodup target
  rw [Router.addTarget] at hnodup ⊢
  split
  · rename_i habsent
    rw [if_pos habsent] at hnodup
    refine ⟨?_, ?_, h.int⟩
    · refine ((pairwise_mergeSort_le _).and hnodup).imp fun {x y} hle => ?_
      exact (List.le_iff_lt_or_eq.mp hle.1).resolve_right hle.2
    · have hlen : ((r.targets_list_ ++ [target]).mergeSort fun x y => x ≤ y).length =
          r.targets_list_.length + 1 := by simp
      have := h.cursor
      simp only [hlen]
      omega
  · exact h

theorem Sound.removeTarget (h : r.Sound) (target : Bytes) : (r.removeTarget target).Sound where
  sorted := by
    rw [Router.removeTarget, removeFrom_eq_filter h.nodup]
    exact h.sorted.filter _
  cursor := by
    have hzero : (r.removeTarget target).last_index_ = 0 := rfl
    omega
  int := by
    have hzero : (r.removeTarget target).last_index_ = 0 := rfl
    omega

/-- **A round-robin selection** takes the target at the cursor, and fails only where the cursor is the last
`int`. -/
theorem Sound.routeByRoundRobin (h : r.Sound) (hpos : 0 < r.targets_list_.length) :
    r.routeByRoundRobin =
      if r.last_index_ + 1 < 2 ^ 31 then
        .ok ({ r with last_index_ := (r.last_index_ + 1) % r.targets_list_.length },
          visits r.targets_list_ r.last_index_ 1)
      else .error .undefined := by
  have hcursor : r.last_index_ < r.targets_list_.length := by
    have := h.cursor
    omega
  have hone : visits r.targets_list_ r.last_index_ 1 = [r.targets_list_[r.last_index_]] := by
    simp [visits, List.range_succ, Nat.mod_eq_of_lt hcursor, hcursor]
  rw [Router.routeByRoundRobin, if_pos hpos, List.getElem?_eq_getElem hcursor, hone]

theorem Sound.advance (h : r.Sound) (hpos : 0 < r.targets_list_.length) (hint : r.last_index_ + 1 < 2 ^ 31) :
    Sound { r with last_index_ := (r.last_index_ + 1) % r.targets_list_.length } where
  sorted := h.sorted
  cursor := by
    have := Nat.mod_lt (r.last_index_ + 1) hpos
    show (r.last_index_ + 1) % r.targets_list_.length < max 1 r.targets_list_.length
    omega
  int := Nat.lt_of_le_of_lt (Nat.mod_le _ _) hint

theorem Sound.find (h : r.Sound) {r' : Router} {targets : List Bytes} {list : RoutingList} {reverse : Bool}
    {msgType : ℤ} {id : Bytes} (hfind : r.find list reverse msgType id = .ok (r', targets)) : r'.Sound := by
  rw [Router.find] at hfind
  split at hfind
  · cases hfind
    exact h
  · cases hbalance : r.routeByLoadBalance id with
    | error e =>
      rw [hbalance] at hfind
      cases hfind
    | ok targets =>
      rw [hbalance] at hfind
      cases hfind
      exact h
  · rcases Nat.eq_zero_or_pos r.targets_list_.length with hzero | hpos
    · rw [Router.routeByRoundRobin, if_neg (by omega)] at hfind
      cases hfind
      exact h
    · rw [h.routeByRoundRobin hpos] at hfind
      split at hfind
      · cases hfind
        exact h.advance hpos ‹_›
      · cases hfind
  · cases hfind
    exact h
  · cases hfind
    exact h

/-- **Calls one after the other** keep the targets in strict order and the cursor inside them. -/
theorem sound_run (calls : List Call) (h : run step (.ok new) calls = .ok r) : r.Sound := by
  have htrue : Along step (fun _ _ => True) (.ok new) calls := along_true fun _ _ => trivial
  have hstep (s : Except Ending Router) (call : Call) (hs : ∀ r, s = .ok r → r.Sound) (_ : True) :
      ∀ r, step s call = .ok r → r.Sound := by
    intro r' hr'
    cases s with
    | error e => cases hr'
    | ok r =>
      cases call with
      | addTarget target =>
        cases hr'
        exact (hs r rfl).addTarget target
      | removeTarget target =>
        cases hr'
        exact (hs r rfl).removeTarget target
      | find list reverse msgType id =>
        rw [step] at hr'
        cases hfind : r.find list reverse msgType id with
        | error e =>
          rw [hfind] at hr'
          cases hr'
        | ok found =>
          rw [hfind] at hr'
          cases hr'
          exact (hs r rfl).find hfind
  exact htrue.invariant (I := fun s => ∀ r, s = .ok r → r.Sound) hstep
    (fun r hr => by cases hr; exact sound_new) r h

/-! ### Round after round -/

/-- **Selections one after the other** go round the targets. -/
theorem selections_eq (h : r.Sound) (hpos : 0 < r.targets_list_.length)
    (hsmall : r.targets_list_.length < 2 ^ 31) (n : ℕ) :
    ∃ last_index, r.selections n =
      .ok ({ r with last_index_ := last_index }, visits r.targets_list_ r.last_index_ n) := by
  induction n generalizing r with
  | zero => exact ⟨r.last_index_, rfl⟩
  | succ n ih =>
    have hint : r.last_index_ + 1 < 2 ^ 31 := by
      have := h.cursor
      omega
    obtain ⟨last_index, hrest⟩ := ih (h.advance hpos hint) hpos hsmall
    refine ⟨last_index, ?_⟩
    rw [selections, h.routeByRoundRobin hpos, if_pos hint]
    simp only [hrest, visits_mod, Except.map, Nat.add_comm n 1, visits_add]

/-- From the last `int` on there is no next selection. -/
theorem selections_of_large (h : r.Sound) (hlarge : 2 ^ 31 ≤ r.targets_list_.length) {n : ℕ}
    (hn : 2 ^ 31 ≤ r.last_index_ + n) : r.selections n = .error .undefined := by
  have hpos : 0 < r.targets_list_.length := by omega
  induction n generalizing r with
  | zero => exact absurd h.int (by omega)
  | succ n ih =>
    rw [selections, h.routeByRoundRobin hpos]
    by_cases hint : r.last_index_ + 1 < 2 ^ 31
    · have hnext : (r.last_index_ + 1) % r.targets_list_.length = r.last_index_ + 1 :=
        Nat.mod_eq_of_lt (by omega)
      have hrest := ih (h.advance hpos hint) hlarge (by simp only [hnext]; omega) hpos
      rw [if_pos hint]
      simp only [hrest, Except.map]
    · rw [if_neg hint]

/-- What round-robin routing promises in a state: strict order, the cursor in range, and from here on every
target selected once in a round. -/
structure Balanced (r : Router) : Prop where
  sorted : r.targets_list_.Pairwise (· < ·)
  cursor : 0 ≤ r.last_index_ ∧ r.last_index_ < max 1 r.targets_list_.length
  fair : 1 ≤ r.targets_list_.length → ∀ k, ∃ r' targets,
    r.selections (r.targets_list_.length * k) = .ok (r', targets) ∧
      ∀ target ∈ r.targets_list_, targets.count target = k

/-- **Round-robin routing** is in range and fair in exactly the states whose targets an `int` can count. -/
theorem balanced_iff (calls : List Call) (h : run step (.ok new) calls = .ok r) :
    r.Balanced ↔ r.targets_list_.length < 2 ^ 31 := by
  have hr := sound_run calls h
  constructor
  · intro hbalanced
    by_contra hlarge
    push Not at hlarge
    obtain ⟨r', targets, hround, -⟩ := hbalanced.fair (by omega) 1
    rw [selections_of_large hr hlarge (by omega)] at hround
    cases hround
  · intro hsmall
    refine ⟨hr.sorted, ⟨Nat.zero_le _, hr.cursor⟩, fun hpos k => ?_⟩
    obtain ⟨last_index, hrounds⟩ := selections_eq hr hpos hsmall (r.targets_list_.length * k)
    exact ⟨_, _, hrounds, fun target hmem => count_visits hr.nodup hmem _ _⟩

/-- A new target goes where the order has it. -/
theorem addTarget_of_perm {target : Bytes} {targets : List Bytes} (habsent : target ∉ r.targets_list_)
    (hperm : (r.targets_list_ ++ [target]).Perm targets) (hsorted : targets.Pairwise (· ≤ ·)) :
    r.addTarget target = { r with targets_list_ := targets } := by
  have hall : (r.targets_list_.all fun name => target ≠ name) = true := by
    simp only [List.all_eq_true, decide_eq_true_eq]
    exact fun name hname heq => habsent (heq ▸ hname)
  rw [Router.addTarget, if_pos hall]
  congr 1
  refine ((List.mergeSort_perm _ _).trans hperm).eq_of_pairwise ?_ (pairwise_mergeSort_le _) hsorted
  exact fun x y _ _ hxy hyx => List.le_antisymm hxy hyx

/-- Three targets are added out of their order, two are selected, and the one in the middle is removed before the
next selection. -/
def threeTargets : List Call :=
  [.addTarget (ascii "c"), .addTarget (ascii "a"), .addTarget (ascii "b"), .find ⟨fun _ => none⟩ false 1 [],
    .find ⟨fun _ => none⟩ false 1 [], .removeTarget (ascii "b"), .find ⟨fun _ => none⟩ false 1 []]

theorem balanced_iff_threeTargets :
    run step (.ok new) threeTargets = .ok ⟨[ascii "a", ascii "c"], 1⟩ ∧
      Balanced ⟨[ascii "a", ascii "c"], 1⟩ := by
  have hfirst : new.addTarget (ascii "c") = ⟨[ascii "c"], 0⟩ :=
    addTarget_of_perm (by decide) (by decide) (by decide)
  have hsecond : addTarget ⟨[ascii "c"], 0⟩ (ascii "a") = ⟨[ascii "a", ascii "c"], 0⟩ :=
    addTarget_of_perm (by decide) (by decide) (by decide)
  have hthird : addTarget ⟨[ascii "a", ascii "c"], 0⟩ (ascii "b") = ⟨[ascii "a", ascii "b", ascii "c"], 0⟩ :=
    addTarget_of_perm (by decide) (by decide) (by decide)
  have hrun : run step (.ok new) threeTargets = .ok ⟨[ascii "a", ascii "c"], 1⟩ := by
    simp only [threeTargets, run_cons, step, hfirst, hsecond, hthird]
    rfl
  exact ⟨hrun, (balanced_iff _ hrun).mpr (by decide)⟩

/-! ### A list that an `int` cannot count -/

/-- Targets that are not there yet are added one after the other. -/
theorem length_run_addTargets {names : List Bytes} (hnodup : names.Nodup)
    (habsent : ∀ name ∈ names, name ∉ r.targets_list_) : ∃ r', run step (.ok r) (names.map .addTarget) = .ok r' ∧
      r'.targets_list_.length = r.targets_list_.length + names.length := by
  induction names generalizing r with
  | nil => exact ⟨r, rfl, rfl⟩
  | cons name names ih =>
    obtain ⟨hfirst, hrest⟩ := List.nodup_cons.mp hnodup
    have hnew : (r.targets_list_.all fun there => name ≠ there) = true := by
      simp only [List.all_eq_true, decide_eq_true_eq]
      exact fun there hthere heq => habsent name List.mem_cons_self (heq ▸ hthere)
    have hlen : (r.addTarget name).targets_list_.length = r.targets_list_.length + 1 := by
      rw [Router.addTarget, if_pos hnew]
      simp
    obtain ⟨r', hrun, hcount⟩ := ih (r := r.addTarget name) hrest fun other hother hmem => by
      rcases mem_addTarget.mp hmem with rfl | hmem
      · exact hfirst hother
      · exact habsent other (List.mem_cons_of_mem _ hother) hmem
    refine ⟨r', hrun, ?_⟩
    rw [hcount, hlen, List.length_cons]
    omega

/-- Names of four bytes that count to `2 ^ 31`. -/
def manyNames : List Bytes := (List.range (2 ^ 31)).map fun i => serializeU32 (.ofNat i)

theorem nodup_manyNames : manyNames.Nodup := by
  refine List.Nodup.map_on (fun i hi j hj heq => ?_) List.nodup_range
  have hi := List.mem_range.mp hi
  have hj := List.mem_range.mp hj
  have hsame : UInt32.ofNat i = UInt32.ofNat j := by
    rw [← deserializeU32_serializeU32 (.ofNat i), ← deserializeU32_serializeU32 (.ofNat j)]
    simp only [serializeU32, List.cons.injEq] at heq
    rw [heq.1, heq.2.1, heq.2.2.1, heq.2.2.2.1]
  have hnat := congrArg UInt32.toNat hsame
  rwa [UInt32.toNat_ofNat', UInt32.toNat_ofNat', Nat.mod_eq_of_lt (by omega), Nat.mod_eq_of_lt (by omega)] at hnat

/-- With `2 ^ 31` targets the cursor passes the last `int` in the first round. -/
theorem not_balanced : ¬ ∀ (calls : List Call) (r : Router), run step (.ok new) calls = .ok r → r.Balanced := by
  intro h
  obtain ⟨r, hrun, hlen⟩ := length_run_addTargets (r := new) nodup_manyNames fun _ _ => List.not_mem_nil
  have hlarge : r.targets_list_.length = 2 ^ 31 := by
    rw [hlen, manyNames, List.length_map, List.length_range]
    rfl
  obtain ⟨r', targets, hround, -⟩ := (h _ r hrun).fair (by omega) 1
  rw [selections_of_large (sound_run _ hrun) (by omega) (by omega)] at hround
  cases hround

end Router

end SmppGateway.Routing
