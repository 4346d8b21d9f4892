import SmppGateway.Routing.RouteMapper

/-!
# Reversed numbers, and clearing

The calls of `route_mapper` (`src/routing/pinex/route_mapper.h`) that are not those of a finite map: the
lookup of a number from its last byte on, `clear_all_routes`, and the bulk `add_route` that clears first.

## The model

A `RouteCall` is a call of any public member function. `Alike` relates mappers that have the same routes at
the same addresses, whatever their nodes: no call tells them apart.

## What is proved

* `Alike.serveCall` — mappers that are alike reply alike, and stay so.
* `findDestination_reverse_iff` — a number is looked up in reverse as its reversal is, except where the
  route of the whole reversal is the one that decides.
* `clearsAll_iff` — clearing starts afresh unless there is a route at the root.
-/

namespace SmppGateway.Routing

open Foundation

/-- A call of a public member function. -/
inductive RouteCall where
  /-- One of those that treat the mapper as a map. -/
  | request (request : MapperRequest)
  /-- `find_destination`, reversed. -/
  | findReversed (number : Bytes)
  /-- `clear_all_routes`. -/
  | clearAllRoutes
  /-- `add_route` of many, with `clear`. -/
  | reload (routes : List RouteData)

/-- What `find_destination` returns for a number of a length when it has found a route. -/
def Route.answer (route : Route) (length : ℕ) : Bytes :=
  if route.max_length_.toNat < length then [] else route.destination_

namespace RouteMapper

/-- One call. `clear_all_routes` returns nothing, which is taken for a success. -/
def serveCall (m : RouteMapper) : RouteCall → RouteMapper × MapperReply
  | .request request => m.serve request
  | .findReversed number => (m, .destination (m.findDestination number true))
  | .clearAllRoutes => (m.clearAllRoutes, .done true)
  | .reload routes => m.clearAllRoutes.serve (.addRoutes routes)

variable {m m' : RouteMapper}

/-! ### What a lookup depends on -/

/-- The answer of the longest route that some bytes begin with, for a number of a length. -/
def answerAmong (m : RouteMapper) (bytes : Bytes) (length : ℕ) : Bytes :=
  ((longestPrefix (fun q => m.hasValue q.reverse) bytes).bind fun q => m.routeAt q.reverse).elim []
    (·.answer length)

/-- **A lookup** gives the answer of the longest route that the bytes it reads begin with. -/
theorem findDestination_eq (hm : m.WellFormed) (number : Bytes) (reverse : Bool) :
    m.findDestination number reverse = m.answerAmong (reads number reverse) number.length := by
  have hvalue : (fun q : Bytes => m.hasValue (q.reverse ++ [])) = fun q => m.hasValue q.reverse := by
    funext q
    rw [List.append_nil]
  rw [findDestination, findMatching_eq hm, hvalue, answerAmong]
  cases hq : longestPrefix (fun q => m.hasValue q.reverse) (reads number reverse) with
  | none => rfl
  | some q =>
    obtain ⟨-, hat, -⟩ := longestPrefix_eq_some_iff.mp hq
    obtain ⟨n, hn⟩ := Option.isSome_iff_exists.mp (isSome_of_hasValue hat)
    have hflag : n.has_value_flag_ = true := by rwa [hasValue, hn] at hat
    have hroute : m.routeAt q.reverse = some ⟨n.destination_, n.max_length_⟩ := by
      rw [routeAt, hn, Option.bind_some, CharNode.route, if_pos hflag]
    simp only [Option.map_some, List.append_nil, Option.some_or, Option.bind_some, hn, hroute,
      Option.elim_some, Route.answer]

/-! ### Mappers with the same routes -/

/-- Two mappers with the same routes. -/
structure Alike (m m' : RouteMapper) : Prop where
  left : m.Sound
  right : m'.Sound
  routes : ∀ a, m.routeAt a = m'.routeAt a

theorem Alike.hasValue (h : m.Alike m') (a : Bytes) : m.hasValue a = m'.hasValue a := by
  rw [hasValue_eq, hasValue_eq, h.routes]

theorem Alike.findDestination (h : m.Alike m') (number : Bytes) (reverse : Bool) :
    m.findDestination number reverse = m'.findDestination number reverse := by
  have hvalue : (fun q : Bytes => m.hasValue q.reverse) = fun q => m'.hasValue q.reverse :=
    funext fun q => h.hasValue q.reverse
  have hroute : (fun q : Bytes => m.routeAt q.reverse) = fun q => m'.routeAt q.reverse :=
    funext fun q => h.routes q.reverse
  rw [findDestination_eq h.left.tree, findDestination_eq h.right.tree, answerAmong, answerAmong, hvalue,
    hroute]

/-- The same write to both. -/
theorem Alike.write {n n' : RouteMapper} {a : Bytes} {o : Option Route} (h : m.Alike m') (hn : n.Sound)
    (hn' : n'.Sound) (hwrite : ∀ b, n.routeAt b = if b = a then o else m.routeAt b)
    (hwrite' : ∀ b, n'.routeAt b = if b = a then o else m'.routeAt b) : n.Alike n' where
  left := hn
  right := hn'
  routes b := by rw [hwrite, hwrite', h.routes]

/-- Calls that write the same where a condition holds, and nothing where it does not. -/
theorem Alike.writes {P : Prop} {a : Bytes} {o : Option Route} {r r' : RouteMapper × Bool} (h : m.Alike m')
    (hnot : ¬P → r = (m, false)) (hdone : P → ∃ n, r = (n, true) ∧ n.Sound ∧
      ∀ b, n.routeAt b = if b = a then o else m.routeAt b)
    (hnot' : ¬P → r' = (m', false)) (hdone' : P → ∃ n, r' = (n, true) ∧ n.Sound ∧
      ∀ b, n.routeAt b = if b = a then o else m'.routeAt b) : r.1.Alike r'.1 ∧ r.2 = r'.2 := by
  by_cases hP : P
  · obtain ⟨n, rfl, hn, hwrite⟩ := hdone hP
    obtain ⟨n', rfl, hn', hwrite'⟩ := hdone' hP
    exact ⟨h.write hn hn' hwrite hwrite', rfl⟩
  · rw [hnot hP, hnot' hP]
    exact ⟨h, rfl⟩

theorem Alike.addRoute (h : m.Alike m') (string : Bytes) (route : Route) :
    (m.addRoute string route).1.Alike (m'.addRoute string route).1 ∧
      (m.addRoute string route).2 = (m'.addRoute string route).2 := by
  obtain ⟨hthere, hnew⟩ := addRoute_spec h.left string route
  obtain ⟨hthere', hnew'⟩ := addRoute_spec h.right string route
  rw [h.hasValue] at hthere hnew
  exact h.writes (fun hold => hthere (Bool.not_eq_false _ ▸ hold)) hnew
    (fun hold => hthere' (Bool.not_eq_false _ ▸ hold)) hnew'

theorem Alike.addRoutes (h : m.Alike m') (routes : List RouteData) :
    (m.addRoutes routes).1.Alike (m'.addRoutes routes).1 ∧
      (m.addRoutes routes).2 = (m'.addRoutes routes).2 := by
  induction routes generalizing m m' with
  | nil => exact ⟨h, rfl⟩
  | cons data routes ih =>
    obtain ⟨hnext, hadded⟩ := h.addRoute data.prefix_ data.toRoute
    obtain ⟨hlast, hres⟩ := ih hnext
    exact ⟨hlast, congrArg₂ (· && ·) hadded hres⟩

theorem Alike.updateRoute (h : m.Alike m') (string : Bytes) (route : Route) :
    (m.updateRoute string route).1.Alike (m'.updateRoute string route).1 ∧
      (m.updateRoute string route).2 = (m'.updateRoute string route).2 := by
  obtain ⟨hnone, hfound⟩ := updateRoute_spec h.left string route
  obtain ⟨hnone', hfound'⟩ := updateRoute_spec h.right string route
  rw [h.hasValue] at hnone hfound
  exact h.writes hnone hfound hnone' hfound'

theorem Alike.deleteRoute (h : m.Alike m') (string : Bytes) :
    (m.deleteRoute string).1.Alike (m'.deleteRoute string).1 ∧
      (m.deleteRoute string).2 = (m'.deleteRoute string).2 := by
  obtain ⟨hnone, hfound⟩ := deleteRoute_spec h.left string
  obtain ⟨hnone', hfound'⟩ := deleteRoute_spec h.right string
  rw [h.hasValue] at hnone hfound
  exact h.writes hnone hfound hnone' hfound'

theorem Alike.serve (h : m.Alike m') (request : MapperRequest) :
    (m.serve request).1.Alike (m'.serve request).1 ∧ (m.serve request).2 = (m'.serve request).2 := by
  cases request with
  | addRoute string route =>
    obtain ⟨hnext, hreply⟩ := h.addRoute string route
    exact ⟨hnext, congrArg MapperReply.done hreply⟩
  | addRoutes routes =>
    obtain ⟨hnext, hreply⟩ := h.addRoutes routes
    rw [RouteMapper.serve, RouteMapper.serve]
    split
    · exact ⟨hnext, congrArg MapperReply.done hreply⟩
    · exact ⟨h, rfl⟩
  | updateRoute string route =>
    obtain ⟨hnext, hreply⟩ := h.updateRoute string route
    exact ⟨hnext, congrArg MapperReply.done hreply⟩
  | deleteRoute string =>
    obtain ⟨hnext, hreply⟩ := h.deleteRoute string
    exact ⟨hnext, congrArg MapperReply.done hreply⟩
  | findDestination number => exact ⟨h, congrArg MapperReply.destination (h.findDestination number false)⟩

theorem Sound.clearAllRoutes (hm : m.Sound) : m.clearAllRoutes.Sound where
  tree :=
    { root := by
        rw [RouteMapper.clearAllRoutes]
        simpa using hm.tree.root
      parent := fun {i a} h => by
        rw [RouteMapper.clearAllRoutes] at h
        simp at h
      depth := fun {a n} h => by
        rw [RouteMapper.clearAllRoutes] at h
        obtain ⟨rfl, h⟩ := Option.ite_none_right_eq_some.mp h
        obtain ⟨node, hn, rfl⟩ := Option.map_eq_some_iff.mp h
        have hdepth : node.depth_ = 0 := hm.tree.depth hn
        exact hdepth
      childs := fun {a n} h => by
        rw [RouteMapper.clearAllRoutes] at h
        obtain ⟨rfl, h⟩ := Option.ite_none_right_eq_some.mp h
        obtain ⟨n, hn, rfl⟩ := Option.map_eq_some_iff.mp h
        have hnone : m.clearAllRoutes.childs [] = ∅ := by
          simp [RouteMapper.childs, RouteMapper.clearAllRoutes]
        rw [hnone]
        rfl }
  live a hne h := by
    rw [RouteMapper.clearAllRoutes] at h
    simp [hne] at h

theorem Alike.clearAllRoutes (h : m.Alike m') : m.clearAllRoutes.Alike m'.clearAllRoutes where
  left := h.left.clearAllRoutes
  right := h.right.clearAllRoutes
  routes a := by rw [clearAllRoutes_routeAt, clearAllRoutes_routeAt, h.routes]

/-- **One call** of mappers that are alike. -/
theorem Alike.serveCall (h : m.Alike m') (call : RouteCall) :
    (m.serveCall call).1.Alike (m'.serveCall call).1 ∧ (m.serveCall call).2 = (m'.serveCall call).2 := by
  cases call with
  | request request => exact h.serve request
  | findReversed number => exact ⟨h, congrArg MapperReply.destination (h.findDestination number true)⟩
  | clearAllRoutes => exact ⟨h.clearAllRoutes, rfl⟩
  | reload routes => exact h.clearAllRoutes.serve (.addRoutes routes)

theorem Sound.alike (hm : m.Sound) : m.Alike m := ⟨hm, hm, fun _ => rfl⟩

/-- **Calls one after the other** leave a tree that counts its children and has no dead branches. -/
theorem sound_run (calls : List RouteCall) : (run (reply serveCall) (empty, []) calls).1.Sound := by
  have htrue : Along (reply serveCall) (fun _ _ => True) (empty, []) calls := along_true fun _ _ => trivial
  exact htrue.invariant (I := fun s => s.1.Sound) (fun s call hs _ => (hs.alike.serveCall call).1.left)
    sound_empty

/-! ### Reversed numbers -/

theorem reads_of_short {number : Bytes} (h : number.length < 2 ^ 32) :
    reads number true = number.reverse.dropLast ∧ reads number false = number := by
  have hall : upToLast number = number := by rw [upToLast, Nat.mod_eq_of_lt h, List.take_length]
  simp [reads, hall]

/-- The route of the whole of a number, if there is one, gives the answer that the longest of the shorter
routes gives. -/
def Covered (m : RouteMapper) (number : Bytes) : Prop :=
  ∀ route, m.routeAt number.reverse = some route →
    route.answer number.length = m.answerAmong number.dropLast number.length

theorem answerAmong_eq_dropLast_iff (m : RouteMapper) (number : Bytes) :
    m.answerAmong number.dropLast number.length = m.answerAmong number number.length ↔ m.Covered number := by
  have hlongest := longestPrefix_eq_dropLast (fun q => m.hasValue q.reverse) number
  cases hroute : m.routeAt number.reverse with
  | none =>
    have hvalue : m.hasValue number.reverse = false := by rw [hasValue_eq, hroute]; rfl
    rw [hvalue, if_neg Bool.false_ne_true] at hlongest
    refine iff_of_true (by rw [answerAmong, answerAmong, hlongest]) fun route h => ?_
    rw [hroute] at h
    cases h
  | some route =>
    have hvalue : m.hasValue number.reverse = true := by rw [hasValue_eq, hroute]; rfl
    rw [hvalue, if_pos rfl] at hlongest
    have hwhole : m.answerAmong number number.length = route.answer number.length := by
      rw [answerAmong, hlongest, Option.bind_some, hroute, Option.elim_some]
    rw [hwhole]
    constructor
    · rintro heq other hother
      obtain rfl := Option.some.inj (hroute.symm.trans hother)
      exact heq.symm
    · exact fun hcovered => (hcovered route hroute).symm

/-- **Looking a number up in reverse** gives what its reversal gives exactly if the number is too long for
every route, or the route of the whole reversal does not decide. -/
theorem findDestination_reverse_iff (calls : List RouteCall) (number : Bytes) :
    let m := (run (reply serveCall) (empty, []) calls).1
    m.findDestination number true = m.findDestination number.reverse false ↔
      2 ^ 32 ≤ number.length ∨ m.Covered number.reverse := by
  intro m
  have hm : m.Sound := sound_run calls
  rcases Nat.lt_or_ge number.length (2 ^ 32) with hshort | hlong
  · have hshort' : number.reverse.length < 2 ^ 32 := by rwa [List.length_reverse]
    rw [findDestination_eq hm.tree, findDestination_eq hm.tree, (reads_of_short hshort).1,
      (reads_of_short hshort').2, ← List.length_reverse, answerAmong_eq_dropLast_iff, List.length_reverse,
      or_iff_right (Nat.not_le.mpr hshort)]
  · have hlong' : 2 ^ 32 ≤ number.reverse.length := by rwa [List.length_reverse]
    rw [findDestination_of_long m hlong, findDestination_of_long m hlong']
    exact iff_of_true rfl (.inl hlong)

/-- The route of one digit is not found in reverse. -/
theorem not_findDestination_reverse : ¬ ∀ (calls : List RouteCall) (number : Bytes),
    let m := (run (reply serveCall) (empty, []) calls).1
    m.findDestination number true = m.findDestination number.reverse false := by
  intro h
  exact absurd (h [.request (.addRoute (ascii "1") ⟨ascii "a", 12⟩)] (ascii "1")) (by decide)

/-! ### Clearing -/

/-- What clearing is for. -/
structure ClearsAll (m : RouteMapper) : Prop where
  /-- No number has a destination. -/
  unanswered : ∀ number reverse, m.clearAllRoutes.findDestination number reverse = []
  /-- Every prefix can be added. -/
  room : ∀ string route, (m.clearAllRoutes.addRoute string route).2 = true
  /-- After a bulk add that clears first, no calls tell the mapper from one that was new before it. -/
  afresh : ∀ (routes : List RouteData) (calls : List RouteCall),
    (run (reply serveCall) (m, []) (.reload routes :: calls)).2 =
      (run (reply serveCall) (empty, []) (.request (.addRoutes routes) :: calls)).2

/-- Mappers that are alike reply alike to any calls. -/
theorem Alike.replies (h : m.Alike m') (replies : List MapperReply) (calls : List RouteCall) :
    (run (reply RouteMapper.serveCall) (m, replies) calls).2 =
      (run (reply RouteMapper.serveCall) (m', replies) calls).2 := by
  have htrue : Along (reply RouteMapper.serveCall) (fun _ _ => True) (m, replies) calls := along_true fun _ _ => trivial
  have hstep (s s' : RouteMapper × List MapperReply) (call : RouteCall) (hs : s.1.Alike s'.1 ∧ s.2 = s'.2)
      (_ : True) : (reply RouteMapper.serveCall s call).1.Alike (reply RouteMapper.serveCall s' call).1 ∧
        (reply RouteMapper.serveCall s call).2 = (reply RouteMapper.serveCall s' call).2 := by
    obtain ⟨hnext, hreply⟩ := hs.1.serveCall call
    exact ⟨hnext, by rw [reply, reply, hs.2, hreply]⟩
  exact (htrue.simulation hstep (t := (m', replies)) ⟨h, rfl⟩).2

/-- **Clearing starts afresh** exactly if there is no route at the root, where that of the empty prefix is
kept. -/
theorem clearsAll_iff (calls : List RouteCall) :
    let m := (run (reply serveCall) (empty, []) calls).1
    m.ClearsAll ↔ m.routeAt [] = none := by
  intro m
  have hm : m.Sound := sound_run calls
  constructor
  · intro hclears
    by_contra hroute
    have hvalue : m.clearAllRoutes.hasValue (upToLast []).reverse = true := by
      have hnil : (upToLast []).reverse = [] := rfl
      rw [hnil, hasValue_eq, clearAllRoutes_routeAt, if_pos rfl]
      exact Option.isSome_iff_ne_none.mpr hroute
    have hadd := hclears.room [] ⟨[], 0⟩
    rw [(addRoute_spec hm.clearAllRoutes [] ⟨[], 0⟩).1 hvalue] at hadd
    cases hadd
  · intro hroot
    have halike : m.clearAllRoutes.Alike empty := by
      refine ⟨hm.clearAllRoutes, sound_empty, fun a => ?_⟩
      rw [clearAllRoutes_routeAt, hroot, routeAt_empty, ite_self]
    have hvalue (a : Bytes) : m.clearAllRoutes.hasValue a = false := by
      rw [hasValue_eq, halike.routes, routeAt_empty]
      rfl
    refine ⟨fun number reverse => ?_, fun string route => ?_, fun routes calls => ?_⟩
    · have hnone : longestPrefix (fun q => m.clearAllRoutes.hasValue q.reverse) (reads number reverse) = none :=
        longestPrefix_eq_none_iff.mpr fun q _ => hvalue q.reverse
      rw [findDestination_eq hm.clearAllRoutes.tree, answerAmong, hnone]
      rfl
    · obtain ⟨n, heq, -⟩ := (addRoute_spec hm.clearAllRoutes string route).2 (hvalue _)
      rw [heq]
    · obtain ⟨hnext, hreply⟩ := halike.serve (.addRoutes routes)
      rw [run_cons, run_cons, reply, reply, serveCall, serveCall, hreply]
      exact hnext.replies _ calls

/-- The route of the empty prefix is still there. -/
theorem not_clearsAll : ¬ ∀ calls : List RouteCall,
    (run (reply serveCall) (empty, []) calls).1.ClearsAll := by
  intro h
  have hfound := (h [.request (.addRoute [] ⟨ascii "a", 12⟩)]).unanswered (ascii "1") false
  exact absurd hfound (by decide)

end RouteMapper

end SmppGateway.Routing
