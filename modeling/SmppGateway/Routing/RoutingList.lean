import SmppGateway.Routing.RouteCalls
import SmppGateway.Routing.Selection

/-!
# The router as it is configured

`routing_list` (`src/routing/pinex/routing_list.cpp`) keeps one `route` for each type of message, made from
its element of the configuration; `router` asks it for the method and, with the method `prefix`, for the target.

## The model

The types of messages are converted as `pinex` converts them. Members that nothing reads are left out: the `id` of
a prefix route, and `target_`. A `RoutingPlan` says what all this is for: it keeps the elements of the
configuration as they are, and finds the longest prefix that one of them names.

* Where a call does not return, it is taken for one that has not been made.

## What is proved

* `PinexRouter.planned_run` — in every run of configuration changes, connections and lookups the router answers as
  the plan does.
-/

namespace SmppGateway.Routing

open Foundation

/-! ### The configuration -/

/-- An element of `routes`. -/
structure PrefixRoute where
  target : Bytes
  /-- `prefix`. -/
  prefixes : List Bytes
  deriving DecidableEq

/-- An element of `routing_list`. -/
structure RoutesConfig where
  msg_type : Bytes
  method : Bytes
  routes : List PrefixRoute
  deriving DecidableEq

/-- The conversion of a `msg_type` that `pinex` gives to its router: `AO_REQ_TYPE`, `AT_REQ_TYPE` or
`DR_REQ_TYPE`. -/
def convertMsgType (t : Bytes) : Except Fault ℤ :=
  if t = ascii "submit" then .ok 0x4
  else if t = ascii "deliver" then .ok 0x5
  else if t = ascii "delivery_report" then .ok 0x15
  else .error (.exception (ascii "invalid routing msg_type!"))

/-- `create_method_by_string`. -/
def createMethodByString (methodStr : Bytes) : Except Fault RoutingMethod :=
  if methodStr = ascii "rond_robin" then .ok .roundRobin
  else if methodStr = ascii "load_balance" then .ok .loadBalance
  else if methodStr = ascii "broadcast" then .ok .broadCast
  else if methodStr = ascii "prefix" then .ok .routeByPrefix
  else if methodStr = ascii "client_id" then .ok .routeByClientId
  else .error (.exception (ascii "invalid routing method!"))

/-- What a second route for a type of message is refused with. -/
def duplicated (config : RoutesConfig) : Fault :=
  .exception (ascii "route " ++ config.msg_type ++ ascii " is duplicated!")

/-- The inner loop of the constructor of `route`. -/
def addPrefixes (m : RouteMapper) (r : PrefixRoute) : RouteMapper :=
  r.prefixes.foldl (fun m string => (m.addRoute string ⟨r.target, 0xFFFFFFFF⟩).1) m

/-- The constructor of `route`, with `msg_type_`. -/
def RouteEntry.new (config : RoutesConfig) : Except Fault (ℤ × RouteEntry) :=
  match convertMsgType config.msg_type with
  | .error e => .error e
  | .ok msg_type =>
    match createMethodByString config.method with
    | .error e => .error e
    | .ok method =>
      let destinations := if method = .routeByPrefix then config.routes.foldl addPrefixes .empty else .empty
      .ok (msg_type, ⟨method, destinations⟩)

namespace RoutingList

/-- `on_routes_insert`. -/
def onRoutesInsert (list : RoutingList) (config : RoutesConfig) : RoutingList × Except Fault Unit :=
  match RouteEntry.new config with
  | .error e => (list, .error e)
  | .ok (msg_type, routes) =>
    if (list.msg_type_to_route_map_ msg_type).isSome then (list, .error (duplicated config))
    else (⟨Function.update list.msg_type_to_route_map_ msg_type (some routes)⟩, .ok ())

/-- `on_routes_remove`. -/
def onRoutesRemove (list : RoutingList) (config : RoutesConfig) : RoutingList × Except Fault Unit :=
  match RouteEntry.new config with
  | .error e => (list, .error e)
  | .ok (msg_type, _) => (⟨Function.update list.msg_type_to_route_map_ msg_type none⟩, .ok ())

/-- The loop of the constructor. -/
def insertAll (list : RoutingList) : List RoutesConfig → Except Fault RoutingList
  | [] => .ok list
  | config :: configs =>
    match list.onRoutesInsert config with
    | (_, .error e) => .error e
    | (list, .ok ()) => list.insertAll configs

/-- The constructor. -/
def new (configs : List RoutesConfig) : Except Fault RoutingList := insertAll ⟨fun _ => none⟩ configs

end RoutingList

/-! ### The router -/

/-- `router`, with its routing list. -/
structure PinexRouter where
  routingList_ : RoutingList
  reverse_ : Bool
  targets : Router

/-- What may happen to the router. -/
inductive RouterRequest where
  /-- `on_routes_insert`. -/
  | routesInsert (config : RoutesConfig)
  /-- `on_routes_remove`. -/
  | routesRemove (config : RoutesConfig)
  /-- `on_reverse_replace`. -/
  | reverseReplace (value : Bool)
  /-- `session_state_changed` of `pinex`. -/
  | sessionStateChanged (name : Bytes) (state : SessionStat)
  /-- `find`. -/
  | find (msg_type : ℤ) (id : Bytes)

/-- What comes of it. -/
inductive RouterReply where
  | done
  | thrown (what : Fault)
  | targets (list : List Bytes)
  | ended (how : Ending)
  deriving DecidableEq

/-- Of a change of the configuration. -/
def RouterReply.ofChange : Except Fault Unit → RouterReply
  | .ok () => .done
  | .error e => .thrown e

namespace PinexRouter

/-- The constructor. -/
def new (configs : List RoutesConfig) (reverse : Bool) : Except Fault PinexRouter :=
  (RoutingList.new configs).map fun list => ⟨list, reverse, .new⟩

/-- One call. -/
def serve (r : PinexRouter) : RouterRequest → PinexRouter × RouterReply
  | .routesInsert config =>
    let (list, res) := r.routingList_.onRoutesInsert config
    ({ r with routingList_ := list }, .ofChange res)
  | .routesRemove config =>
    let (list, res) := r.routingList_.onRoutesRemove config
    ({ r with routingList_ := list }, .ofChange res)
  | .reverseReplace value => ({ r with reverse_ := value }, .done)
  | .sessionStateChanged name state => ({ r with targets := r.targets.sessionStateChanged name state }, .done)
  | .find msg_type id =>
    match r.targets.find r.routingList_ r.reverse_ msg_type id with
    | .ok (targets, list) => ({ r with targets := targets }, .targets list)
    | .error e => (r, .ended e)

end PinexRouter

/-! ### The plan -/

namespace RoutesConfig

/-- The prefixes that the configuration names, with their targets, in its order. -/
def named (config : RoutesConfig) : List (Bytes × Bytes) :=
  config.routes.flatMap fun r => r.prefixes.map fun string => (string, r.target)

/-- The target of the longest prefix that some bytes begin with; where a prefix is named twice, the first one
counts. -/
def targetOf (config : RoutesConfig) (bytes : Bytes) : Bytes :=
  ((longestPrefix (fun p => (config.named.lookup p).isSome) bytes).bind fun p => config.named.lookup p).getD []

/-- The prefixes fit into the `unsigned int` of their length. -/
def Short (config : RoutesConfig) : Prop := ∀ r ∈ config.routes, ∀ string ∈ r.prefixes, string.length < 2 ^ 32

instance (config : RoutesConfig) : Decidable config.Short :=
  inferInstanceAs (Decidable (∀ r ∈ config.routes, ∀ string ∈ r.prefixes, string.length < 2 ^ 32))

/-- What the configuration is refused with, whatever else is configured. -/
def check (config : RoutesConfig) : Except Fault (ℤ × RoutingMethod) :=
  (convertMsgType config.msg_type).bind fun msg_type =>
    (createMethodByString config.method).map fun method => (msg_type, method)

end RoutesConfig

/-- What the router is for. -/
structure RoutingPlan where
  /-- By type of message. -/
  configs : Table ℤ RoutesConfig
  reverse : Bool
  targets : Router

namespace RoutingPlan

/-- The bytes of a number in the order in which they are looked up: in reverse, all but the first. -/
def order (number : Bytes) (reverse : Bool) : Bytes := if reverse then number.reverse.dropLast else number

/-- Without a configuration, the messages go round the targets. -/
def method (p : RoutingPlan) (msg_type : ℤ) : RoutingMethod :=
  ((p.configs.lookup msg_type).bind fun config => (createMethodByString config.method).toOption).getD .roundRobin

/-- The targets of a message: by prefix, where the configuration says so. -/
def find (p : RoutingPlan) (msg_type : ℤ) (id : Bytes) : Except Ending (Router × List Bytes) :=
  match p.method msg_type with
  | .broadCast => .ok (p.targets, p.targets.targets_list_)
  | .loadBalance => (p.targets.routeByLoadBalance id).map fun list => (p.targets, list)
  | .roundRobin => p.targets.routeByRoundRobin
  | .routeByPrefix =>
    let target := (p.configs.lookup msg_type).elim [] fun config =>
      if id.length < 2 ^ 32 then config.targetOf (order id p.reverse) else []
    .ok (p.targets, if target = [] then [] else [target])
  | .routeByClientId => .ok (p.targets, if id = [] then [] else [id])

/-- A type of message has one configuration. -/
def insert (p : RoutingPlan) (config : RoutesConfig) : RoutingPlan × Except Fault Unit :=
  match config.check with
  | .error e => (p, .error e)
  | .ok (msg_type, _) =>
    if msg_type ∈ p.configs then (p, .error (duplicated config))
    else ({ p with configs := p.configs.insert msg_type config }, .ok ())

/-- The configuration of a type of message is removed, whatever it says. -/
def remove (p : RoutingPlan) (config : RoutesConfig) : RoutingPlan × Except Fault Unit :=
  match config.check with
  | .error e => (p, .error e)
  | .ok (msg_type, _) => ({ p with configs := p.configs.erase msg_type }, .ok ())

/-- The configurations are put in one after the other. -/
def insertAll (p : RoutingPlan) : List RoutesConfig → Except Fault RoutingPlan
  | [] => .ok p
  | config :: configs =>
    match p.insert config with
    | (_, .error e) => .error e
    | (p, .ok ()) => p.insertAll configs

/-- The plan of a configuration. -/
def new (configs : List RoutesConfig) (reverse : Bool) : Except Fault RoutingPlan :=
  insertAll ⟨∅, reverse, .new⟩ configs

/-- One request. -/
def serve (p : RoutingPlan) : RouterRequest → RoutingPlan × RouterReply
  | .routesInsert config => (p.insert config).map id .ofChange
  | .routesRemove config => (p.remove config).map id .ofChange
  | .reverseReplace value => ({ p with reverse := value }, .done)
  | .sessionStateChanged name state => ({ p with targets := p.targets.sessionStateChanged name state }, .done)
  | .find msg_type id =>
    match p.find msg_type id with
    | .ok (targets, list) => ({ p with targets := targets }, .targets list)
    | .error e => (p, .ended e)

end RoutingPlan

/-! ### One route -/

/-- Routes without a bound on the length, one added after the other. -/
def addAll (t : Routes) (named : List (Bytes × Bytes)) : Routes :=
  named.foldl (fun t x => (t.addRoute x.1 ⟨x.2, 0xFFFFFFFF⟩).1) t

/-- The first route for a prefix stays. -/
theorem lookup_addAll (named : List (Bytes × Bytes)) (t : Routes) (p : Bytes) :
    (addAll t named).lookup p =
      (t.lookup p).or ((named.lookup p).map fun target => ⟨target, 0xFFFFFFFF⟩) := by
  induction named generalizing t with
  | nil => simp [addAll]
  | cons x named ih =>
    have hrest : addAll t (x :: named) = addAll (t.insertNew x.1 ⟨x.2, 0xFFFFFFFF⟩) named := rfl
    rw [hrest, ih, List.lookup_cons]
    by_cases hp : p = x.1
    · subst hp
      rw [beq_self_eq_true]
      by_cases hmem : x.1 ∈ t
      · obtain ⟨route, hroute⟩ := Option.isSome_iff_exists.mp (AList.lookup_isSome.mpr hmem)
        rw [Table.insertNew_of_mem hmem, hroute, Option.some_or, Option.some_or]
      · rw [Table.insertNew_of_notMem hmem, AList.lookup_insert, AList.lookup_eq_none.mpr hmem]
        rfl
    · rw [beq_false_of_ne hp]
      by_cases hmem : x.1 ∈ t
      · rw [Table.insertNew_of_mem hmem]
      · rw [Table.insertNew_of_notMem hmem, AList.lookup_insert_ne hp]

/-- The loops of the constructor of `route` add what the configuration names, in order. -/
theorem foldl_addPrefixes (routes : List PrefixRoute) (m : RouteMapper) :
    routes.foldl addPrefixes m =
      (routes.flatMap fun r => r.prefixes.map fun string => (string, r.target)).foldl
        (fun m x => (m.addRoute x.1 ⟨x.2, 0xFFFFFFFF⟩).1) m := by
  induction routes generalizing m with
  | nil => rfl
  | cons r routes ih =>
    rw [List.foldl_cons, ih, List.flatMap_cons, List.foldl_append, List.foldl_map]
    rfl

theorem represents_addAll {m : RouteMapper} {t : Routes} (h : m.Represents t) (named : List (Bytes × Bytes))
    (hshort : ∀ x ∈ named, x.1.length < 2 ^ 32) :
    (named.foldl (fun m x => (m.addRoute x.1 ⟨x.2, 0xFFFFFFFF⟩).1) m).Represents (addAll t named) := by
  induction named generalizing m t with
  | nil => exact h
  | cons x named ih =>
    obtain ⟨hx, hrest⟩ := List.forall_mem_cons.mp hshort
    exact ih (h.addRoute hx _).1 hrest

namespace RoutesConfig

theorem Short.named {config : RoutesConfig} (h : config.Short) : ∀ x ∈ config.named, x.1.length < 2 ^ 32 := by
  intro x hx
  obtain ⟨r, hr, hx⟩ := List.mem_flatMap.mp hx
  obtain ⟨string, hstring, rfl⟩ := List.mem_map.mp hx
  exact h r hr string hstring

/-- The mapper that is made of a configuration. -/
def destinations (config : RoutesConfig) : RouteMapper := config.routes.foldl addPrefixes .empty

/-- **The mapper of a configuration** stands for a map with the routes that it names. -/
theorem represents_destinations {config : RoutesConfig} (h : config.Short) :
    config.destinations.Represents (addAll ∅ config.named) := by
  rw [destinations, foldl_addPrefixes]
  exact represents_addAll RouteMapper.represents_empty _ h.named

theorem routeAt_destinations {config : RoutesConfig} (h : config.Short) (p : Bytes) :
    config.destinations.routeAt p.reverse =
      (config.named.lookup p).map fun target => (⟨target, 0xFFFFFFFF⟩ : Route) := by
  rw [← (represents_destinations h).lookup, lookup_addAll, AList.lookup_empty, Option.none_or]

/-- **A number is looked up** among the prefixes that the configuration names. -/
theorem findDestination_destinations {config : RoutesConfig} (h : config.Short) (number : Bytes) (reverse : Bool) :
    config.destinations.findDestination number reverse =
      if number.length < 2 ^ 32 then config.targetOf (RoutingPlan.order number reverse) else [] := by
  by_cases hlong : number.length < 2 ^ 32
  · have hreads : RouteMapper.reads number reverse = RoutingPlan.order number reverse := by
      obtain ⟨hreverse, hforward⟩ := RouteMapper.reads_of_short hlong
      cases reverse
      · exact hforward
      · exact hreverse
    have hvalue : (fun q : Bytes => config.destinations.hasValue q.reverse) =
        fun q => (config.named.lookup q).isSome := by
      funext q
      rw [RouteMapper.hasValue_eq, routeAt_destinations h, Option.isSome_map]
    rw [RouteMapper.findDestination_eq (represents_destinations h).sound.tree, if_pos hlong,
      RouteMapper.answerAmong, hvalue, hreads, targetOf]
    cases hq : longestPrefix (fun q => (config.named.lookup q).isSome) (RoutingPlan.order number reverse) with
    | none => rfl
    | some q =>
      obtain ⟨-, hsome, -⟩ := longestPrefix_eq_some_iff.mp hq
      obtain ⟨target, htarget⟩ := Option.isSome_iff_exists.mp hsome
      have hbound : ¬(0xFFFFFFFF : UInt32).toNat < number.length := by
        have hmax : (0xFFFFFFFF : UInt32).toNat = 2 ^ 32 - 1 := rfl
        omega
      rw [Option.bind_some, Option.bind_some, routeAt_destinations h, htarget, Option.map_some, Option.elim_some,
        Option.getD_some, Route.answer]
      exact if_neg hbound
  · rw [if_neg hlong]
    exact RouteMapper.findDestination_of_long _ (Nat.not_lt.mp hlong) reverse

end RoutesConfig

/-! ### The list -/

/-- The route that is made of a configuration. -/
structure Realizes (config : RoutesConfig) (route : RouteEntry) : Prop where
  short : config.Short
  method : createMethodByString config.method = .ok route.method_
  destinations : route.method_ = .routeByPrefix → route.destinations_ = config.destinations

/-- The router does what the plan says. -/
structure Follows (r : PinexRouter) (p : RoutingPlan) : Prop where
  routes : ∀ msg_type,
    Option.Rel Realizes (p.configs.lookup msg_type) (r.routingList_.msg_type_to_route_map_ msg_type)
  reverse : r.reverse_ = p.reverse
  targets : r.targets = p.targets

/-- **A route is made** of a configuration that the check accepts. -/
theorem new_of_check {config : RoutesConfig} (hshort : config.Short) :
    (∃ e, config.check = .error e ∧ RouteEntry.new config = .error e) ∨
      ∃ msg_type method route, config.check = .ok (msg_type, method) ∧
        RouteEntry.new config = .ok (msg_type, route) ∧ Realizes config route := by
  unfold RouteEntry.new RoutesConfig.check
  cases convertMsgType config.msg_type with
  | error e => exact .inl ⟨e, rfl, rfl⟩
  | ok msg_type =>
    cases hmethod : createMethodByString config.method with
    | error e => exact .inl ⟨e, rfl, rfl⟩
    | ok method =>
      refine .inr ⟨msg_type, method, _, rfl, rfl, hshort, hmethod, fun hprefix => ?_⟩
      exact if_pos hprefix

theorem Follows.isSome_iff {r : PinexRouter} {p : RoutingPlan} (h : Follows r p) (msg_type : ℤ) :
    (r.routingList_.msg_type_to_route_map_ msg_type).isSome ↔ msg_type ∈ p.configs := by
  have hrel := h.routes msg_type
  rw [← AList.lookup_isSome]
  generalize r.routingList_.msg_type_to_route_map_ msg_type = found at hrel ⊢
  generalize p.configs.lookup msg_type = config at hrel ⊢
  cases hrel with
  | some _ => simp
  | none => simp

/-- **A configuration is inserted** into both, or refused by both with the same text. -/
theorem Follows.insert {r : PinexRouter} {p : RoutingPlan} (h : Follows r p) {config : RoutesConfig}
    (hshort : config.Short) :
    Follows { r with routingList_ := (r.routingList_.onRoutesInsert config).1 } (p.insert config).1 ∧
      (r.routingList_.onRoutesInsert config).2 = (p.insert config).2 := by
  rw [RoutingList.onRoutesInsert, RoutingPlan.insert]
  rcases new_of_check hshort with ⟨e, hcheck, hnew⟩ | ⟨msg_type, method, route, hcheck, hnew, hroute⟩
  · rw [hcheck, hnew]
    exact ⟨h, rfl⟩
  · rw [hcheck, hnew]
    simp only
    by_cases hmem : msg_type ∈ p.configs
    · rw [if_pos hmem, if_pos ((h.isSome_iff msg_type).mpr hmem)]
      exact ⟨h, rfl⟩
    · rw [if_neg hmem, if_neg fun hsome => hmem ((h.isSome_iff msg_type).mp hsome)]
      refine ⟨⟨fun other => ?_, h.reverse, h.targets⟩, rfl⟩
      by_cases hother : other = msg_type
      · rw [hother, AList.lookup_insert]
        simp only [Function.update_self]
        exact .some hroute
      · rw [AList.lookup_insert_ne hother]
        simp only [Function.update_of_ne hother]
        exact h.routes other

/-- **A configuration is removed** from both. -/
theorem Follows.remove {r : PinexRouter} {p : RoutingPlan} (h : Follows r p) {config : RoutesConfig}
    (hshort : config.Short) :
    Follows { r with routingList_ := (r.routingList_.onRoutesRemove config).1 } (p.remove config).1 ∧
      (r.routingList_.onRoutesRemove config).2 = (p.remove config).2 := by
  rw [RoutingList.onRoutesRemove, RoutingPlan.remove]
  rcases new_of_check hshort with ⟨e, hcheck, hnew⟩ | ⟨msg_type, method, route, hcheck, hnew, -⟩
  · rw [hcheck, hnew]
    exact ⟨h, rfl⟩
  · rw [hcheck, hnew]
    refine ⟨⟨fun other => ?_, h.reverse, h.targets⟩, rfl⟩
    by_cases hother : other = msg_type
    · rw [hother, AList.lookup_erase]
      simp only [Function.update_self]
      exact .none
    · rw [AList.lookup_erase_ne hother]
      simp only [Function.update_of_ne hother]
      exact h.routes other

/-! ### A lookup -/

theorem Follows.method {r : PinexRouter} {p : RoutingPlan} (h : Follows r p) (msg_type : ℤ) :
    r.routingList_.findRoutingMethod msg_type = p.method msg_type := by
  have hrel := h.routes msg_type
  rw [RoutingList.findRoutingMethod, RoutingPlan.method]
  generalize r.routingList_.msg_type_to_route_map_ msg_type = found at hrel ⊢
  generalize p.configs.lookup msg_type = config at hrel ⊢
  cases hrel with
  | none => rfl
  | some hroute => rw [Option.elim_some, Option.bind_some, hroute.method]; rfl

theorem Follows.target {r : PinexRouter} {p : RoutingPlan} (h : Follows r p) {msg_type : ℤ}
    (hrouted : p.method msg_type = .routeByPrefix) (id : Bytes) :
    r.routingList_.findTarget id msg_type r.reverse_ =
      (p.configs.lookup msg_type).elim [] fun config =>
        if id.length < 2 ^ 32 then config.targetOf (RoutingPlan.order id p.reverse) else [] := by
  have hrel := h.routes msg_type
  rw [← h.method, RoutingList.findRoutingMethod] at hrouted
  rw [RoutingList.findTarget, h.reverse]
  generalize r.routingList_.msg_type_to_route_map_ msg_type = found at hrel hrouted ⊢
  generalize p.configs.lookup msg_type = config at hrel ⊢
  cases hrel with
  | none => rfl
  | some hroute =>
    rw [Option.elim_some, Option.elim_some, hroute.destinations hrouted]
    exact RoutesConfig.findDestination_destinations hroute.short id p.reverse

/-- **The targets of a message** are those of the plan. -/
theorem Follows.find {r : PinexRouter} {p : RoutingPlan} (h : Follows r p) (msg_type : ℤ) (id : Bytes) :
    r.targets.find r.routingList_ r.reverse_ msg_type id = p.find msg_type id := by
  rw [Router.find, RoutingPlan.find, h.method, h.targets]
  cases hmethod : p.method msg_type with
  | broadCast => rfl
  | loadBalance => rfl
  | roundRobin => rfl
  | routeByPrefix => simp only [Router.routeByPrefix, h.target hmethod, ne_eq, List.length_eq_zero_iff, ite_not]
  | routeByClientId => simp only [Router.routeByClientId, ne_eq, List.length_eq_zero_iff, ite_not]

/-! ### Runs -/

/-- The prefixes of a request are short. -/
def RouterRequest.Short : RouterRequest → Prop
  | .routesInsert config => config.Short
  | .routesRemove config => config.Short
  | _ => True

/-- **One request** to the router and to the plan. -/
theorem Follows.serve {r : PinexRouter} {p : RoutingPlan} (h : Follows r p) {request : RouterRequest}
    (hshort : request.Short) :
    Follows (r.serve request).1 (p.serve request).1 ∧ (r.serve request).2 = (p.serve request).2 := by
  cases request with
  | routesInsert config =>
    obtain ⟨hnext, hreply⟩ := h.insert hshort
    exact ⟨hnext, congrArg RouterReply.ofChange hreply⟩
  | routesRemove config =>
    obtain ⟨hnext, hreply⟩ := h.remove hshort
    exact ⟨hnext, congrArg RouterReply.ofChange hreply⟩
  | reverseReplace value => exact ⟨⟨h.routes, rfl, h.targets⟩, rfl⟩
  | sessionStateChanged name state =>
    exact ⟨⟨h.routes, h.reverse, congrArg (·.sessionStateChanged name state) h.targets⟩, rfl⟩
  | find msg_type id =>
    simp only [PinexRouter.serve, RoutingPlan.serve]
    rw [h.find]
    cases p.find msg_type id with
    | error e => exact ⟨h, rfl⟩
    | ok res => exact ⟨⟨h.routes, h.reverse, rfl⟩, rfl⟩

/-- **The router is made**, or refuses the configuration with the text of the plan. -/
theorem follows_insertAll {r : PinexRouter} {p : RoutingPlan} (h : Follows r p) (configs : List RoutesConfig)
    (hshort : ∀ config ∈ configs, config.Short) :
    (∃ e, r.routingList_.insertAll configs = .error e ∧ p.insertAll configs = .error e) ∨
      ∃ list p', r.routingList_.insertAll configs = .ok list ∧ p.insertAll configs = .ok p' ∧
        Follows { r with routingList_ := list } p' := by
  induction configs generalizing r p with
  | nil => exact .inr ⟨_, _, rfl, rfl, h⟩
  | cons config configs ih =>
    obtain ⟨hconfig, hrest⟩ := List.forall_mem_cons.mp hshort
    obtain ⟨hnext, hres⟩ := h.insert hconfig
    rw [RoutingList.insertAll, RoutingPlan.insertAll]
    generalize r.routingList_.onRoutesInsert config = inserted at hnext hres ⊢
    generalize p.insert config = planned at hnext hres ⊢
    obtain ⟨list, res⟩ := inserted
    obtain ⟨p', res'⟩ := planned
    obtain rfl : res = res' := hres
    cases res with
    | error e => exact .inl ⟨e, rfl, rfl⟩
    | ok => exact ih hnext hrest

/-- The replies of a router to some requests. -/
def PinexRouter.replies (requests : List RouterRequest) (r : PinexRouter) : List RouterReply :=
  (run (reply PinexRouter.serve) (r, []) requests).2

/-- The replies of a plan to some requests. -/
def RoutingPlan.replies (requests : List RouterRequest) (p : RoutingPlan) : List RouterReply :=
  (run (reply RoutingPlan.serve) (p, []) requests).2

/-- **The router routes as its configuration says**: it is made, or refuses its configuration, as the plan is; and
in any run of configurations that are inserted and removed, connections that come and go and messages that
are looked up it replies as the plan does. -/
theorem PinexRouter.planned_run (configs : List RoutesConfig) (reverse : Bool) (requests : List RouterRequest)
    (hconfigs : ∀ config ∈ configs, config.Short) (hrequests : ∀ request ∈ requests, request.Short) :
    (PinexRouter.new configs reverse).map (PinexRouter.replies requests) =
      (RoutingPlan.new configs reverse).map (RoutingPlan.replies requests) := by
  have hstart : Follows ⟨⟨fun _ => none⟩, reverse, .new⟩ ⟨∅, reverse, .new⟩ :=
    ⟨fun msg_type => by rw [AList.lookup_empty]; exact .none, rfl, rfl⟩
  rw [PinexRouter.new, RoutingList.new, RoutingPlan.new]
  rcases follows_insertAll hstart configs hconfigs with ⟨e, hlist, hplan⟩ | ⟨list, p, hlist, hplan, h⟩
  · rw [hplan]
    simp only at hlist
    rw [hlist]
    rfl
  · rw [hplan]
    simp only at hlist
    rw [hlist]
    have hstep (r : PinexRouter) (p : RoutingPlan) (request : RouterRequest) (h : Follows r p)
        (hrequest : request.Short) := h.serve hrequest
    exact congrArg Except.ok (simulation_replies hstep hrequests h).2

/-- Two backends, the longer prefix named first, and a second route for the same type. -/
theorem PinexRouter.planned_run_prefix :
    let config : RoutesConfig := ⟨ascii "submit", ascii "prefix",
      [⟨ascii "mci", [ascii "9891", ascii "98"]⟩, ⟨ascii "ir", [ascii "98", ascii "9"]⟩]⟩
    let requests : List RouterRequest := [.find 4 (ascii "98912"), .routesInsert config, .find 4 (ascii "97")]
    (PinexRouter.new [config] false).map (PinexRouter.replies requests) =
      (RoutingPlan.new [config] false).map (RoutingPlan.replies requests) :=
  PinexRouter.planned_run _ _ _ (by decide) fun request hrequest => by
    simp only [List.mem_cons, List.not_mem_nil, or_false] at hrequest
    rcases hrequest with rfl | rfl | rfl
    · trivial
    · exact show RoutesConfig.Short _ by decide
    · trivial

end SmppGateway.Routing
