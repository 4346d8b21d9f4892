import Mathlib.Data.FinEnum
import SmppGateway.Foundation.LongestPrefix
import SmppGateway.Foundation.Run
import SmppGateway.Foundation.Table
import SmppGateway.Foundation.Text

/-!
# The route mapper

`route_mapper` keeps the routes of the backends in a tree of 256-way nodes; a number goes to the longest
route that it begins with.

## The model

The nodes are a map from addresses. The address of a node is the string of the `index_` fields from it up
to the root, so `childs_[index]` of the node at `a` is the node at `index :: a` (`NULL` when there is none),
and `parent_` and `index_` are the tail and the head of its own address. `Routes` says what the component is
for: a finite map from prefixes.

## What is proved

* `serve_run` — in a run whose added prefixes are shorter than 2^32 bytes the replies are those of the map,
  and every node but the root counts its children and has a route at or below it.
* `not_serve_run` — a prefix of 2^32 bytes is stored as the empty one.
* `clearAllRoutes_routeAt` — clearing leaves the route of the empty prefix.
-/

namespace SmppGateway.Routing

open Foundation

/-! ### Nodes -/

/-- What a `char_node` holds besides its pointers. -/
@[ext]
structure CharNode where
  destination_ : Bytes
  /-- Not set by the constructor, and not read before it is set. -/
  max_length_ : UInt32
  has_value_flag_ : Bool
  depth_ : ℕ
  number_of_childs_ : ℕ
  deriving DecidableEq

/-- The constructor. -/
def CharNode.new (depth : ℕ) : CharNode := ⟨[], 0, false, depth, 0⟩

/-- The nodes of the tree by address. -/
@[ext]
structure RouteMapper where
  nodes : Bytes → Option CharNode

/-- Where a prefix is routed to, and how long a number may be. -/
structure Route where
  destination_ : Bytes
  max_length_ : UInt32
  deriving DecidableEq

/-- An entry of a bulk `add_route`. -/
structure RouteData extends Route where
  prefix_ : Bytes

namespace RouteMapper

/-- The constructor. -/
def empty : RouteMapper := ⟨fun a => if a = [] then some (.new 0) else none⟩

/-- A write through a pointer to a node. -/
def modify (m : RouteMapper) (a : Bytes) (f : CharNode → CharNode) : RouteMapper :=
  ⟨fun b => if b = a then (m.nodes a).map f else m.nodes b⟩

/-- A write to `childs_[index]` and to `number_of_childs_` of a node. -/
def setChild (m : RouteMapper) (a : Bytes) (index : UInt8) (child : Option CharNode) (count : ℕ → ℕ) :
    RouteMapper where
  nodes b :=
    if b = index :: a then child
    else (m.modify a fun n => { n with number_of_childs_ := count n.number_of_childs_ }).nodes b

/-- The entries of `childs_` that are not `NULL`. -/
def childs (m : RouteMapper) (a : Bytes) : Finset UInt8 :=
  Finset.univ.filter fun index => (m.nodes (index :: a)).isSome

/-- `has_value_flag_` of the node at an address. -/
def hasValue (m : RouteMapper) (a : Bytes) : Bool := (m.nodes a).any CharNode.has_value_flag_

/-- `depth_` of the node at an address. -/
def depth (m : RouteMapper) (a : Bytes) : ℕ := (m.nodes a).elim 0 CharNode.depth_

/-! ### The functions of the source -/

/-- `create_sub_tree`, given the bytes from `first` to `last`. -/
def createSubTree (m : RouteMapper) : Bytes → Bytes → RouteMapper × Option Bytes
  | [], current => (m, if m.hasValue current then none else some current)
  | index :: rest, current =>
    if (m.nodes (index :: current)).isSome then m.createSubTree rest (index :: current)
    else (m.setChild current index (some (.new (m.depth current + 1))) (· + 1)).createSubTree rest
      (index :: current)

/-- `find_matching`, given the bytes in the order in which it reads them. -/
def findMatching (m : RouteMapper) : Bytes → Bytes → Option Bytes → Option Bytes
  | [], current, lastValidValue => if m.hasValue current then some current else lastValidValue
  | index :: rest, current, lastValidValue =>
    let lastValidValue := if m.hasValue current then some current else lastValidValue
    if (m.nodes (index :: current)).isSome then m.findMatching rest (index :: current) lastValidValue
    else lastValidValue

/-- `clean_up`: up through the parents. -/
def cleanUp (m : RouteMapper) : Bytes → RouteMapper
  | [] => m
  | index :: parent =>
    if (m.nodes (index :: parent)).any fun n => !n.has_value_flag_ && n.number_of_childs_ == 0 then
      (m.setChild parent index none (· - 1)).cleanUp parent
    else m

/-- The bytes up to `last`, which is given `length()` as an `unsigned int`. -/
def upToLast (string : Bytes) : Bytes := string.take (string.length % 2 ^ 32)

/-- The bytes that `find_matching` reads, in order: with `reverse` from the last one down to the second. -/
def reads (string : Bytes) (reverse : Bool) : Bytes :=
  if reverse then ((upToLast string).drop 1).reverse else upToLast string

/-- `add_route`. -/
def addRoute (m : RouteMapper) (string : Bytes) (route : Route) : RouteMapper × Bool :=
  match m.createSubTree (upToLast string) [] with
  | (m, some n) => (m.modify n fun node =>
      { node with
        destination_ := route.destination_
        max_length_ := route.max_length_
        has_value_flag_ := true }, true)
  | (m, none) => (m, false)

/-- `clear_all_routes`: `clean_node` of the root deletes all other nodes and does not look at its value. -/
def clearAllRoutes (m : RouteMapper) : RouteMapper :=
  ⟨fun a => if a = [] then (m.nodes []).map fun n => { n with number_of_childs_ := 0 } else none⟩

/-- The loop of the bulk `add_route`. -/
def addRoutes (m : RouteMapper) : List RouteData → RouteMapper × Bool
  | [] => (m, true)
  | data :: routes =>
    let (m, added) := m.addRoute data.prefix_ data.toRoute
    let (m, res) := m.addRoutes routes
    (m, added && res)

/-- The condition of `update_route` and `delete_route` on the node found. -/
def exactly (m : RouteMapper) (string : Bytes) : Option Bytes :=
  (m.findMatching (reads string false) [] none).filter fun n => m.depth n == string.length

/-- `update_route`. -/
def updateRoute (m : RouteMapper) (string : Bytes) (route : Route) : RouteMapper × Bool :=
  match m.exactly string with
  | some n => (m.modify n fun node =>
      { node with destination_ := route.destination_, max_length_ := route.max_length_ }, true)
  | none => (m, false)

/-- `delete_route`. -/
def deleteRoute (m : RouteMapper) (string : Bytes) : RouteMapper × Bool :=
  match m.exactly string with
  | some n => ((m.modify n fun node => { node with has_value_flag_ := false }).cleanUp n, true)
  | none => (m, false)

/-- `find_destination`. -/
def findDestination (m : RouteMapper) (number : Bytes) (reverse : Bool) : Bytes :=
  match (m.findMatching (reads number reverse) [] none).bind m.nodes with
  | some n => if n.max_length_.toNat < number.length then [] else n.destination_
  | none => []

end RouteMapper

/-! ### The map -/

/-- The routes by prefix. -/
abbrev Routes := Table Bytes Route

namespace Routes

/-- An add succeeds if the prefix is absent. -/
def addRoute (t : Routes) (string : Bytes) (route : Route) : Routes × Bool :=
  (t.insertNew string route, decide (string ∉ t))

/-- A bulk add adds what it can. -/
def addRoutes (t : Routes) : List RouteData → Routes × Bool
  | [] => (t, true)
  | data :: routes =>
    let (t, added) := t.addRoute data.prefix_ data.toRoute
    let (t, res) := t.addRoutes routes
    (t, added && res)

/-- An update succeeds if the prefix is present. -/
def updateRoute (t : Routes) (string : Bytes) (route : Route) : Routes × Bool :=
  (if string ∈ t then t.insert string route else t, decide (string ∈ t))

/-- So does a deletion. -/
def deleteRoute (t : Routes) (string : Bytes) : Routes × Bool := (t.erase string, decide (string ∈ t))

/-- The destination of the longest route that a number begins with. -/
def findDestination (t : Routes) (number : Bytes) : Bytes :=
  match (longestPrefix (fun string => string ∈ t) number).bind t.lookup with
  | some route => if route.max_length_.toNat < number.length then [] else route.destination_
  | none => []

end Routes

/-! ### Requests -/

/-- A call of a public member function. -/
inductive MapperRequest where
  /-- `add_route`. -/
  | addRoute (string : Bytes) (route : Route)
  /-- `add_route` of many, without `clear`. -/
  | addRoutes (routes : List RouteData)
  /-- `update_route`. -/
  | updateRoute (string : Bytes) (route : Route)
  /-- `delete_route`. -/
  | deleteRoute (string : Bytes)
  /-- `find_destination`, not reversed. -/
  | findDestination (number : Bytes)

/-- What it returns. -/
inductive MapperReply where
  /-- Whether it succeeded. -/
  | done (res : Bool)
  /-- A destination. -/
  | destination (res : Bytes)
  /-- The `int` that counts the routes of a bulk add passes its largest value. -/
  | undefined
  deriving DecidableEq

/-- One call of the code. -/
def RouteMapper.serve (m : RouteMapper) : MapperRequest → RouteMapper × MapperReply
  | .addRoute string route => (m.addRoute string route).map id .done
  | .addRoutes routes =>
    if routes.length < 2 ^ 31 then (m.addRoutes routes).map id .done else (m, .undefined)
  | .updateRoute string route => (m.updateRoute string route).map id .done
  | .deleteRoute string => (m.deleteRoute string).map id .done
  | .findDestination number => (m, .destination (m.findDestination number false))

/-- One call of the map. -/
def Routes.serve (t : Routes) : MapperRequest → Routes × MapperReply
  | .addRoute string route => (t.addRoute string route).map id .done
  | .addRoutes routes => (t.addRoutes routes).map id .done
  | .updateRoute string route => (t.updateRoute string route).map id .done
  | .deleteRoute string => (t.deleteRoute string).map id .done
  | .findDestination number => (t, .destination (t.findDestination number))

/-- The prefixes it adds fit into the `unsigned int` of their length. -/
def MapperRequest.Short : MapperRequest → Prop
  | .addRoute string _ => string.length < 2 ^ 32
  | .addRoutes routes => routes.length < 2 ^ 31 ∧ ∀ data ∈ routes, data.prefix_.length < 2 ^ 32
  | _ => True

instance : DecidablePred MapperRequest.Short
  | .addRoute string _ => inferInstanceAs (Decidable (string.length < 2 ^ 32))
  | .addRoutes routes => inferInstanceAs
      (Decidable (routes.length < 2 ^ 31 ∧ ∀ data ∈ routes, data.prefix_.length < 2 ^ 32))
  | .updateRoute _ _ => .isTrue trivial
  | .deleteRoute _ => .isTrue trivial
  | .findDestination _ => .isTrue trivial

/-! ### Writes -/

/-- The route of a node, if it has a value. -/
def CharNode.route (n : CharNode) : Option Route :=
  if n.has_value_flag_ then some ⟨n.destination_, n.max_length_⟩ else none

namespace RouteMapper

variable {m : RouteMapper} {a b : Bytes} {i : UInt8} {child : Option CharNode} {count : ℕ → ℕ}
  {f : CharNode → CharNode}

/-- The route of the node at an address. -/
def routeAt (m : RouteMapper) (a : Bytes) : Option Route := (m.nodes a).bind CharNode.route

theorem hasValue_eq (m : RouteMapper) (a : Bytes) : m.hasValue a = (m.routeAt a).isSome := by
  cases h : m.nodes a with
  | none => simp [hasValue, routeAt, h]
  | some n => cases hn : n.has_value_flag_ <;> simp [hasValue, routeAt, CharNode.route, h, hn]

theorem isSome_of_hasValue (h : m.hasValue a = true) : (m.nodes a).isSome := by
  cases hn : m.nodes a with
  | none => simp [hasValue, hn] at h
  | some n => rfl

theorem nodes_modify_self : (m.modify a f).nodes a = (m.nodes a).map f := if_pos rfl

theorem nodes_modify_of_ne (h : b ≠ a) : (m.modify a f).nodes b = m.nodes b := if_neg h

@[simp]
theorem isSome_nodes_modify : ((m.modify a f).nodes b).isSome = (m.nodes b).isSome := by
  by_cases h : b = a
  · rw [h, nodes_modify_self, Option.isSome_map]
  · rw [nodes_modify_of_ne h]

theorem childs_modify : (m.modify a f).childs b = m.childs b := by
  simp only [childs, isSome_nodes_modify]

theorem routeAt_modify_of_ne (h : b ≠ a) : (m.modify a f).routeAt b = m.routeAt b := by
  rw [routeAt, routeAt, nodes_modify_of_ne h]

theorem nodes_setChild_child : (m.setChild a i child count).nodes (i :: a) = child := if_pos rfl

theorem nodes_setChild_self : (m.setChild a i child count).nodes a =
    (m.nodes a).map fun n => { n with number_of_childs_ := count n.number_of_childs_ } :=
  (if_neg (List.cons_ne_self i a).symm).trans nodes_modify_self

theorem nodes_setChild_of_ne (hchild : b ≠ i :: a) (h : b ≠ a) :
    (m.setChild a i child count).nodes b = m.nodes b := (if_neg hchild).trans (nodes_modify_of_ne h)

theorem isSome_nodes_setChild (h : b ≠ i :: a) :
    ((m.setChild a i child count).nodes b).isSome = (m.nodes b).isSome := by
  rw [setChild]
  simp only [if_neg h, isSome_nodes_modify]

theorem routeAt_setChild (h : b ≠ i :: a) :
    (m.setChild a i child count).routeAt b = m.routeAt b := by
  by_cases hb : b = a
  · rw [routeAt, routeAt, hb, nodes_setChild_self]
    cases m.nodes a <;> rfl
  · rw [routeAt, routeAt, nodes_setChild_of_ne h hb]

theorem routeAt_setChild_child :
    (m.setChild a i child count).routeAt (i :: a) = child.bind CharNode.route := by
  rw [routeAt, nodes_setChild_child]

theorem childs_setChild_of_ne (h : b ≠ a) : (m.setChild a i child count).childs b = m.childs b := by
  ext j
  have hne : j :: b ≠ i :: a := fun heq => h (List.cons.inj heq).2
  simp [childs, isSome_nodes_setChild hne]

theorem childs_setChild_self : (m.setChild a i child count).childs a =
    if child.isSome then insert i (m.childs a) else (m.childs a).erase i := by
  ext j
  by_cases hj : j = i
  · rw [hj, childs, Finset.mem_filter, nodes_setChild_child]
    cases child <;> simp
  · have hne : j :: a ≠ i :: a := fun heq => hj (List.cons.inj heq).1
    rw [childs, Finset.mem_filter, isSome_nodes_setChild hne]
    cases child <;> simp [childs, hj]

/-! ### The tree -/

/-- The nodes are a tree from the root, and know their depth and how many children they have. -/
structure WellFormed (m : RouteMapper) : Prop where
  root : (m.nodes []).isSome
  parent : ∀ {i a}, (m.nodes (i :: a)).isSome → (m.nodes a).isSome
  depth : ∀ {a n}, m.nodes a = some n → n.depth_ = a.length
  childs : ∀ {a n}, m.nodes a = some n → n.number_of_childs_ = (m.childs a).card

/-- Every node, except those from `c` up to the root, has a node with a value at or below it. -/
def LiveBut (m : RouteMapper) (c : Bytes) : Prop :=
  ∀ a, a ≠ [] → (m.nodes a).isSome → ¬ a <:+ c → ∃ b, m.hasValue (b ++ a) = true

theorem WellFormed.modify (hm : m.WellFormed) (hdepth : ∀ n, (f n).depth_ = n.depth_)
    (hcount : ∀ n, (f n).number_of_childs_ = n.number_of_childs_) : (m.modify a f).WellFormed where
  root := by
    rw [isSome_nodes_modify]
    exact hm.root
  parent h := by
    rw [isSome_nodes_modify] at h ⊢
    exact hm.parent h
  depth {b n} h := by
    by_cases hb : b = a
    · rw [hb, nodes_modify_self] at h
      obtain ⟨n, hn, rfl⟩ := Option.map_eq_some_iff.mp h
      rw [hdepth, hm.depth hn, hb]
    · rw [nodes_modify_of_ne hb] at h
      exact hm.depth h
  childs {b n} h := by
    rw [childs_modify]
    by_cases hb : b = a
    · rw [hb, nodes_modify_self] at h
      obtain ⟨n, hn, rfl⟩ := Option.map_eq_some_iff.mp h
      rw [hcount, hm.childs hn, hb]
    · rw [nodes_modify_of_ne hb] at h
      exact hm.childs h

/-- A leaf may be put under a node, or taken away. -/
theorem WellFormed.setChild (hm : m.WellFormed) (ha : (m.nodes a).isSome) (hleaf : m.childs (i :: a) = ∅)
    (hchild : ∀ n ∈ child, n.depth_ = a.length + 1 ∧ n.number_of_childs_ = 0)
    (hcount : count (m.childs a).card =
      (if child.isSome then insert i (m.childs a) else (m.childs a).erase i).card) :
    (m.setChild a i child count).WellFormed where
  root := by
    rw [isSome_nodes_setChild (List.cons_ne_nil i a).symm]
    exact hm.root
  parent {j b} h := by
    by_cases hb : b = i :: a
    · have hne : j :: b ≠ i :: a := fun heq => List.cons_ne_self j b (heq.trans hb.symm)
      rw [isSome_nodes_setChild hne, hb] at h
      have hmem : j ∈ m.childs (i :: a) := Finset.mem_filter.mpr ⟨Finset.mem_univ j, h⟩
      rw [hleaf] at hmem
      exact absurd hmem (Finset.notMem_empty j)
    · rw [isSome_nodes_setChild hb]
      by_cases hjb : j :: b = i :: a
      · rwa [(List.cons.inj hjb).2]
      · rw [isSome_nodes_setChild hjb] at h
        exact hm.parent h
  depth {b n} h := by
    by_cases hb : b = i :: a
    · rw [hb, nodes_setChild_child] at h
      rw [(hchild n h).1, hb, List.length_cons]
    by_cases hba : b = a
    · rw [hba, nodes_setChild_self] at h
      obtain ⟨node, hn, rfl⟩ := Option.map_eq_some_iff.mp h
      have hdepth : node.depth_ = a.length := hm.depth hn
      rw [hba]
      exact hdepth
    · rw [nodes_setChild_of_ne hb hba] at h
      exact hm.depth h
  childs {b n} h := by
    by_cases hb : b = i :: a
    · rw [hb, nodes_setChild_child] at h
      rw [(hchild n h).2, hb, childs_setChild_of_ne (List.cons_ne_self i a), hleaf, Finset.card_empty]
    by_cases hba : b = a
    · rw [hba, nodes_setChild_self] at h
      obtain ⟨n, hn, rfl⟩ := Option.map_eq_some_iff.mp h
      rw [hba, childs_setChild_self, ← hcount]
      exact congrArg count (hm.childs hn)
    · rw [nodes_setChild_of_ne hb hba] at h
      rw [childs_setChild_of_ne hba]
      exact hm.childs h

/-- There is no node below where there is none. -/
theorem WellFormed.childs_of_none (hm : m.WellFormed) (h : m.nodes a = none) : m.childs a = ∅ := by
  refine Finset.filter_eq_empty_iff.mpr fun j _ hj => ?_
  have hsome := hm.parent hj
  rw [h] at hsome
  cases hsome

/-- Nor is there one anywhere below. -/
theorem WellFormed.isSome_of_suffix (hm : m.WellFormed) (h : (m.nodes (b ++ a)).isSome) :
    (m.nodes a).isSome := by
  induction b with
  | nil => exact h
  | cons j b ih => exact ih (hm.parent h)

theorem hasValue_of_routeAt {m' : RouteMapper} (h : ∀ b, m'.routeAt b = m.routeAt b) (b : Bytes) :
    m'.hasValue b = m.hasValue b := by rw [hasValue_eq, hasValue_eq, h]

/-- A new node is a leaf without a value. -/
theorem WellFormed.grow (hm : m.WellFormed) (ha : (m.nodes a).isSome) (hnone : m.nodes (i :: a) = none)
    (hlive : m.LiveBut a) :
    let m' := m.setChild a i (some (.new (m.depth a + 1))) (· + 1)
    m'.WellFormed ∧ m'.LiveBut (i :: a) ∧ ∀ b, m'.routeAt b = m.routeAt b := by
  intro m'
  have hwf : m'.WellFormed := by
    refine hm.setChild ha (hm.childs_of_none hnone) ?_ ?_
    · rintro n ⟨⟩
      obtain ⟨n, hn⟩ := Option.isSome_iff_exists.mp ha
      have hdepth : m.depth a = a.length := by rw [RouteMapper.depth, hn]; exact hm.depth hn
      exact ⟨congrArg (· + 1) hdepth, rfl⟩
    · have hnot : i ∉ m.childs a := by simp [RouteMapper.childs, hnone]
      rw [Option.isSome_some, if_pos rfl, Finset.card_insert_of_notMem hnot]
  have hroute (b : Bytes) : m'.routeAt b = m.routeAt b := by
    by_cases hb : b = i :: a
    · rw [hb, routeAt_setChild_child, routeAt, hnone]
      rfl
    · exact routeAt_setChild hb
  refine ⟨hwf, ?_, hroute⟩
  intro b hne hb hsuffix
  have hchild : b ≠ i :: a := fun h => hsuffix (h ▸ List.suffix_rfl)
  rw [isSome_nodes_setChild hchild] at hb
  obtain ⟨c, hc⟩ := hlive b hne hb fun h => hsuffix (h.trans (List.suffix_cons i a))
  exact ⟨c, by rw [hasValue_of_routeAt hroute, hc]⟩

/-- Such a leaf may be deleted. -/
theorem WellFormed.prune {n : CharNode} (hm : m.WellFormed) (hn : m.nodes (i :: a) = some n)
    (hflag : n.has_value_flag_ = false) (hzero : n.number_of_childs_ = 0) (hlive : m.LiveBut (i :: a)) :
    let m' := m.setChild a i none (· - 1)
    m'.WellFormed ∧ m'.LiveBut a ∧ ∀ b, m'.routeAt b = m.routeAt b := by
  intro m'
  have hsome : (m.nodes (i :: a)).isSome := by rw [hn]; rfl
  have hleaf : m.childs (i :: a) = ∅ := Finset.card_eq_zero.mp ((hm.childs hn).symm.trans hzero)
  have hwf : m'.WellFormed := by
    refine hm.setChild (hm.parent hsome) hleaf (fun n hn => nomatch hn) ?_
    have hmem : i ∈ m.childs a := Finset.mem_filter.mpr ⟨Finset.mem_univ i, hsome⟩
    rw [Option.isSome_none, if_neg Bool.false_ne_true, Finset.card_erase_of_mem hmem]
  have hroute (b : Bytes) : m'.routeAt b = m.routeAt b := by
    by_cases hb : b = i :: a
    · rw [hb, routeAt_setChild_child, routeAt, hn, Option.bind_some, CharNode.route, hflag]
      rfl
    · exact routeAt_setChild hb
  refine ⟨hwf, ?_, hroute⟩
  intro b hne hb hsuffix
  have hchild : b ≠ i :: a := fun h => by
    rw [h, nodes_setChild_child] at hb
    cases hb
  rw [isSome_nodes_setChild hchild] at hb
  obtain ⟨c, hc⟩ := hlive b hne hb fun h => (List.suffix_cons_iff.mp h).elim hchild hsuffix
  exact ⟨c, by rw [hasValue_of_routeAt hroute, hc]⟩

/-- A node at or above one that has a value is not dead. -/
theorem LiveBut.of_value (hlive : m.LiveBut a) (h : m.hasValue (b ++ a) = true) : m.LiveBut [] := by
  intro c hne hc _
  by_cases hsuffix : c <:+ a
  · obtain ⟨d, rfl⟩ := hsuffix
    exact ⟨b ++ d, by rw [List.append_assoc]; exact h⟩
  · exact hlive c hne hc hsuffix

/-! ### One function after the other -/

/-- The node that `create_sub_tree` goes to is new or was there; no route changes. -/
theorem createSubTree_spec (rest : Bytes) (hm : m.WellFormed) (ha : (m.nodes a).isSome)
    (hlive : m.LiveBut a) :
    (m.hasValue (rest.reverse ++ a) = true → m.createSubTree rest a = (m, none)) ∧
    (m.hasValue (rest.reverse ++ a) = false → ∃ m',
      m.createSubTree rest a = (m', some (rest.reverse ++ a)) ∧ m'.WellFormed ∧
      (m'.nodes (rest.reverse ++ a)).isSome ∧ m'.LiveBut (rest.reverse ++ a) ∧
      ∀ b, m'.routeAt b = m.routeAt b) := by
  induction rest generalizing m a with
  | nil =>
    simp only [List.reverse_nil, List.nil_append, createSubTree]
    exact ⟨fun h => by rw [if_pos h],
      fun h => ⟨m, by rw [if_neg (by rw [h]; decide)], hm, ha, hlive, fun _ => rfl⟩⟩
  | cons index rest ih =>
    have hpath : (index :: rest).reverse ++ a = rest.reverse ++ index :: a := by simp
    rw [hpath, createSubTree]
    by_cases hchild : (m.nodes (index :: a)).isSome
    · rw [if_pos hchild]
      exact ih hm hchild fun b hne hb hsuffix =>
        hlive b hne hb fun h => hsuffix (h.trans (List.suffix_cons index a))
    · rw [if_neg hchild]
      have hnone : m.nodes (index :: a) = none := Option.not_isSome_iff_eq_none.mp hchild
      obtain ⟨hwf, hlive', hroute⟩ := hm.grow ha hnone hlive
      obtain ⟨-, hnew⟩ := ih hwf (by rw [nodes_setChild_child]; rfl) hlive'
      refine ⟨fun h => ?_, fun h => ?_⟩
      · -- no value is below a node that is not there
        have hsome := hm.isSome_of_suffix (isSome_of_hasValue h)
        rw [hnone] at hsome
        cases hsome
      · rw [← hasValue_of_routeAt hroute] at h
        obtain ⟨m', heq, hwf', hsome, hlive'', hroute'⟩ := hnew h
        exact ⟨m', heq, hwf', hsome, hlive'', fun b => (hroute' b).trans (hroute b)⟩

/-- **`find_matching` finds the longest path** to a node with a value. -/
theorem findMatching_eq (hm : m.WellFormed) (rest a : Bytes) (lastValidValue : Option Bytes) :
    m.findMatching rest a lastValidValue =
      ((longestPrefix (fun q => m.hasValue (q.reverse ++ a)) rest).map fun q => q.reverse ++ a).or
        lastValidValue := by
  induction rest generalizing a lastValidValue with
  | nil =>
    rw [findMatching, longestPrefix_nil]
    cases h : m.hasValue a <;> simp [h]
  | cons index rest ih =>
    have hvalue : (if m.hasValue a then some a else lastValidValue) =
        ((if m.hasValue ([].reverse ++ a) then some [] else none).map fun q => q.reverse ++ a).or
          lastValidValue := by
      cases h : m.hasValue a <;> simp [h]
    have hpath (q : Bytes) : (index :: q).reverse ++ a = q.reverse ++ index :: a := by simp
    rw [findMatching, longestPrefix_cons]
    simp only [hpath]
    rw [hvalue]
    by_cases hchild : (m.nodes (index :: a)).isSome
    · rw [if_pos hchild, ih]
      cases longestPrefix (fun q => m.hasValue (q.reverse ++ index :: a)) rest with
      | none => rfl
      | some q => simp
    · have hnone : longestPrefix (fun q => m.hasValue (q.reverse ++ index :: a)) rest = none :=
        longestPrefix_eq_none_iff.mpr fun q _ => by
          by_contra h
          exact hchild (hm.isSome_of_suffix (isSome_of_hasValue (Bool.not_eq_false _ ▸ h)))
      rw [if_neg hchild, hnone]
      rfl

/-- **`clean_up` leaves no dead branch** and does not touch a route. -/
theorem cleanUp_spec (hm : m.WellFormed) (ha : (m.nodes a).isSome) (hlive : m.LiveBut a) :
    (m.cleanUp a).WellFormed ∧ (m.cleanUp a).LiveBut [] ∧ ∀ b, (m.cleanUp a).routeAt b = m.routeAt b := by
  induction a generalizing m with
  | nil => exact ⟨hm, hlive, fun _ => rfl⟩
  | cons index parent ih =>
    obtain ⟨n, hn⟩ := Option.isSome_iff_exists.mp ha
    rw [cleanUp, hn, Option.any_some]
    by_cases hdead : (!n.has_value_flag_ && n.number_of_childs_ == 0) = true
    · rw [if_pos hdead]
      simp only [Bool.and_eq_true, Bool.not_eq_true', beq_iff_eq] at hdead
      obtain ⟨hwf, hlive', hroute⟩ := hm.prune hn hdead.1 hdead.2 hlive
      have hsome := hm.parent ha
      rw [← isSome_nodes_setChild (List.cons_ne_self index parent).symm] at hsome
      obtain ⟨h1, h2, h3⟩ := ih hwf hsome hlive'
      exact ⟨h1, h2, fun b => (h3 b).trans (hroute b)⟩
    · rw [if_neg hdead]
      suffices h : ∃ b, m.hasValue (b ++ index :: parent) = true from
        ⟨hm, hlive.of_value h.choose_spec, fun _ => rfl⟩
      cases hflag : n.has_value_flag_ with
      | true => exact ⟨[], by rw [List.nil_append, hasValue, hn, Option.any_some, hflag]⟩
      | false =>
        have hcard : (m.childs (index :: parent)).card ≠ 0 := by
          rw [← hm.childs hn]
          simpa [hflag] using hdead
        obtain ⟨j, hj⟩ := Finset.card_ne_zero.mp hcard
        have hlong : ¬ j :: index :: parent <:+ index :: parent := fun h =>
          Nat.not_succ_le_self _ h.length_le
        obtain ⟨b, hb⟩ := hlive _ (List.cons_ne_nil j _) (Finset.mem_filter.mp hj).2 hlong
        exact ⟨b ++ [j], by rw [List.append_assoc]; exact hb⟩

/-! ### The calls -/

/-- A tree in which every node counts its children and has a value at or below it. -/
structure Sound (m : RouteMapper) : Prop where
  tree : m.WellFormed
  live : m.LiveBut []

theorem nodes_empty_of_ne (h : a ≠ []) : empty.nodes a = none := if_neg h

theorem nodes_empty_root : empty.nodes [] = some (.new 0) := rfl

theorem eq_of_nodes_empty {n : CharNode} (h : empty.nodes a = some n) : a = [] ∧ n = .new 0 := by
  by_cases ha : a = []
  · rw [ha, nodes_empty_root] at h
    exact ⟨ha, (Option.some.inj h).symm⟩
  · rw [nodes_empty_of_ne ha] at h
    cases h

theorem sound_empty : empty.Sound where
  tree :=
    { root := rfl
      parent := fun {i a} h => by
        rw [nodes_empty_of_ne (List.cons_ne_nil i a)] at h
        cases h
      depth := fun {a n} h => by
        obtain ⟨rfl, rfl⟩ := eq_of_nodes_empty h
        rfl
      childs := fun {a n} h => by
        obtain ⟨rfl, rfl⟩ := eq_of_nodes_empty h
        have hnone : empty.childs [] = ∅ := by simp [RouteMapper.childs, nodes_empty_of_ne]
        rw [hnone]
        rfl }
  live a hne h := by
    rw [nodes_empty_of_ne hne] at h
    cases h

theorem routeAt_empty (a : Bytes) : empty.routeAt a = none := by
  rw [routeAt]
  cases h : empty.nodes a with
  | none => rfl
  | some n =>
    rw [(eq_of_nodes_empty h).2]
    rfl

/-- A node is given a route. -/
theorem WellFormed.write (hm : m.WellFormed) (route : Route) (ha : (m.nodes a).isSome) (hlive : m.LiveBut a)
    (hdepth : ∀ n, (f n).depth_ = n.depth_) (hcount : ∀ n, (f n).number_of_childs_ = n.number_of_childs_)
    (hf : ∀ n, m.nodes a = some n → (f n).route = some route) :
    (m.modify a f).Sound ∧
      ∀ b, (m.modify a f).routeAt b = if b = a then some route else m.routeAt b := by
  obtain ⟨n, hn⟩ := Option.isSome_iff_exists.mp ha
  have hroute (b : Bytes) : (m.modify a f).routeAt b = if b = a then some route else m.routeAt b := by
    by_cases hb : b = a
    · rw [if_pos hb, hb, routeAt, nodes_modify_self, hn, Option.map_some, Option.bind_some, hf n hn]
    · rw [if_neg hb, routeAt_modify_of_ne hb]
  have hhere : (m.modify a f).hasValue a = true := by
    rw [hasValue_eq, hroute, if_pos rfl]
    rfl
  have hlive' : (m.modify a f).LiveBut a := by
    intro b hne hb hsuffix
    rw [isSome_nodes_modify] at hb
    obtain ⟨c, hc⟩ := hlive b hne hb hsuffix
    refine ⟨c, ?_⟩
    by_cases hca : c ++ b = a
    · rwa [hca]
    · rwa [hasValue_eq, hroute, if_neg hca, ← hasValue_eq]
  exact ⟨⟨hm.modify hdepth hcount, LiveBut.of_value (b := []) hlive' hhere⟩, hroute⟩

/-- `add_route` adds what it reads of the prefix, if there is no such route. -/
theorem addRoute_spec (hm : m.Sound) (string : Bytes) (route : Route) :
    (m.hasValue (upToLast string).reverse = true → m.addRoute string route = (m, false)) ∧
    (m.hasValue (upToLast string).reverse = false → ∃ m', m.addRoute string route = (m', true) ∧ m'.Sound ∧
      ∀ b, m'.routeAt b = if b = (upToLast string).reverse then some route else m.routeAt b) := by
  obtain ⟨hthere, hnew⟩ := createSubTree_spec (upToLast string) hm.tree hm.tree.root hm.live
  rw [List.append_nil] at hthere hnew
  refine ⟨fun h => by rw [addRoute, hthere h], ?_⟩
  intro h
  obtain ⟨t, heq, hwf, hsome, hlive, hroute⟩ := hnew h
  obtain ⟨hsound, hwrite⟩ := hwf.write route (f := fun node =>
    { node with
      destination_ := route.destination_
      max_length_ := route.max_length_
      has_value_flag_ := true }) hsome hlive (fun _ => rfl) (fun _ => rfl) (fun _ _ => rfl)
  exact ⟨_, by rw [addRoute, heq], hsound, fun b => by rw [hwrite, hroute]⟩

/-- The node found is at the end of the prefix only if that is a route. -/
theorem exactly_eq (hm : m.WellFormed) (string : Bytes) :
    m.exactly string =
      if string.length < 2 ^ 32 ∧ m.hasValue string.reverse = true then some string.reverse else none := by
  have hfind : m.findMatching (reads string false) [] none =
      (longestPrefix (fun q => m.hasValue q.reverse) (upToLast string)).map List.reverse := by
    rw [reads, if_neg Bool.false_ne_true, findMatching_eq hm]
    simp
  have hdepth {q : Bytes} (hq : m.hasValue q.reverse = true) : m.depth q.reverse = q.length := by
    obtain ⟨n, hn⟩ := Option.isSome_iff_exists.mp (isSome_of_hasValue hq)
    rw [RouteMapper.depth, hn, ← List.length_reverse]
    exact hm.depth hn
  by_cases h : string.length < 2 ^ 32 ∧ m.hasValue string.reverse = true
  · obtain ⟨hshort, hvalue⟩ := h
    have hall : upToLast string = string := by rw [upToLast, Nat.mod_eq_of_lt hshort, List.take_length]
    have hlongest : longestPrefix (fun q => m.hasValue q.reverse) (upToLast string) = some string := by
      rw [hall]
      exact longestPrefix_eq_some_iff.mpr ⟨List.prefix_rfl, hvalue, fun r hr _ => hr.length_le⟩
    rw [if_pos ⟨hshort, hvalue⟩, exactly, hfind, hlongest, Option.map_some, Option.filter_some,
      hdepth hvalue, beq_self_eq_true, if_pos rfl]
  · rw [if_neg h, exactly, hfind]
    cases hq : longestPrefix (fun q => m.hasValue q.reverse) (upToLast string) with
    | none => rfl
    | some q =>
      obtain ⟨hpre, hvalue, -⟩ := longestPrefix_eq_some_iff.mp hq
      have hne : (m.depth q.reverse == string.length) = false := by
        rw [hdepth hvalue, beq_eq_false_iff_ne]
        intro heq
        have hle := hpre.length_le
        rw [upToLast, List.length_take] at hle
        have hshort : string.length < 2 ^ 32 := by omega
        have hsame : q = string := (hpre.trans (List.take_prefix _ _)).eq_of_length heq
        exact h ⟨hshort, hsame ▸ hvalue⟩
      rw [Option.map_some, Option.filter_some, hne, if_neg Bool.false_ne_true]

/-- What `update_route` does. -/
theorem updateRoute_spec (hm : m.Sound) (string : Bytes) (route : Route) :
    (¬ (string.length < 2 ^ 32 ∧ m.hasValue string.reverse = true) →
      m.updateRoute string route = (m, false)) ∧
    (string.length < 2 ^ 32 ∧ m.hasValue string.reverse = true → ∃ m',
      m.updateRoute string route = (m', true) ∧ m'.Sound ∧
      ∀ b, m'.routeAt b = if b = string.reverse then some route else m.routeAt b) := by
  refine ⟨fun h => by rw [updateRoute, exactly_eq hm.tree, if_neg h], ?_⟩
  intro h
  have hlive : m.LiveBut string.reverse := fun b hne hb _ =>
    hm.live b hne hb fun h => hne (List.suffix_nil.mp h)
  obtain ⟨hsound, hwrite⟩ := hm.tree.write route (f := fun node =>
    { node with
      destination_ := route.destination_
      max_length_ := route.max_length_ }) (isSome_of_hasValue h.2) hlive (fun _ => rfl) (fun _ => rfl)
    (fun n hn => if_pos (by rw [← h.2, hasValue, hn]; rfl))
  exact ⟨_, by rw [updateRoute, exactly_eq hm.tree, if_pos h], hsound, hwrite⟩

/-- What `delete_route` does. -/
theorem deleteRoute_spec (hm : m.Sound) (string : Bytes) :
    (¬ (string.length < 2 ^ 32 ∧ m.hasValue string.reverse = true) → m.deleteRoute string = (m, false)) ∧
    (string.length < 2 ^ 32 ∧ m.hasValue string.reverse = true → ∃ m', m.deleteRoute string = (m', true) ∧
      m'.Sound ∧ ∀ b, m'.routeAt b = if b = string.reverse then none else m.routeAt b) := by
  refine ⟨fun h => by rw [deleteRoute, exactly_eq hm.tree, if_neg h], ?_⟩
  intro h
  obtain ⟨t, ht⟩ : ∃ t, t = m.modify string.reverse fun node => { node with has_value_flag_ := false } :=
    ⟨_, rfl⟩
  have hroute (b : Bytes) : t.routeAt b = if b = string.reverse then none else m.routeAt b := by
    rw [ht]
    by_cases hb : b = string.reverse
    · rw [if_pos hb, hb, routeAt, nodes_modify_self]
      cases m.nodes string.reverse <;> rfl
    · rw [if_neg hb, routeAt_modify_of_ne hb]
  have hwf : t.WellFormed := ht ▸ hm.tree.modify (fun _ => rfl) (fun _ => rfl)
  have hlive : t.LiveBut string.reverse := by
    intro b hne hb hsuffix
    rw [ht, isSome_nodes_modify] at hb
    obtain ⟨c, hc⟩ := hm.live b hne hb fun h => hne (List.suffix_nil.mp h)
    refine ⟨c, ?_⟩
    rw [hasValue_eq, hroute, if_neg fun h => hsuffix ⟨c, h⟩, ← hasValue_eq, hc]
  have hsome : (t.nodes string.reverse).isSome := by
    rw [ht, isSome_nodes_modify]
    exact isSome_of_hasValue h.2
  obtain ⟨h1, h2, h3⟩ := cleanUp_spec hwf hsome hlive
  exact ⟨_, by rw [deleteRoute, exactly_eq hm.tree, if_pos h, ht], ⟨h1, h2⟩,
    fun b => (h3 b).trans (hroute b)⟩

/-! ### The tree is the map -/

/-- A tree and the map that it stands for. -/
structure Represents (m : RouteMapper) (t : Routes) : Prop where
  sound : m.Sound
  lookup : ∀ p, t.lookup p = m.routeAt p.reverse
  short : ∀ p ∈ t, p.length < 2 ^ 32

variable {t : Routes} {string : Bytes}

theorem represents_empty : empty.Represents ∅ :=
  ⟨sound_empty, fun _ => by rw [AList.lookup_empty, routeAt_empty],
    fun p hp => absurd hp (AList.notMem_empty p)⟩

theorem Represents.hasValue (h : m.Represents t) (p : Bytes) : m.hasValue p.reverse = decide (p ∈ t) := by
  rw [hasValue_eq, ← h.lookup, Bool.eq_iff_iff, AList.lookup_isSome, decide_eq_true_eq]

/-- A written tree stands for a written map. -/
theorem Represents.write {m' : RouteMapper} {t' : Routes} {o : Option Route} (h : m.Represents t)
    (string : Bytes) (hsound : m'.Sound)
    (hroute : ∀ b, m'.routeAt b = if b = string.reverse then o else m.routeAt b)
    (hself : t'.lookup string = o) (hother : ∀ p, p ≠ string → t'.lookup p = t.lookup p)
    (hshort : string.length < 2 ^ 32) : m'.Represents t' where
  sound := hsound
  lookup p := by
    rw [hroute]
    by_cases hp : p = string
    · rw [if_pos (congrArg List.reverse hp), hp, hself]
    · rw [if_neg fun heq => hp (List.reverse_injective heq), hother p hp, h.lookup]
  short p hp := by
    by_cases heq : p = string
    · rwa [heq]
    · rw [← AList.lookup_isSome, hother p heq, AList.lookup_isSome] at hp
      exact h.short p hp

theorem Represents.addRoute (h : m.Represents t) (hshort : string.length < 2 ^ 32) (route : Route) :
    (m.addRoute string route).1.Represents (t.addRoute string route).1 ∧
      (m.addRoute string route).2 = (t.addRoute string route).2 := by
  have hall : upToLast string = string := by rw [upToLast, Nat.mod_eq_of_lt hshort, List.take_length]
  obtain ⟨hthere, hnew⟩ := addRoute_spec h.sound string route
  rw [hall, h.hasValue] at hthere hnew
  rw [Routes.addRoute]
  by_cases hmem : string ∈ t
  · rw [hthere (decide_eq_true hmem), Table.insertNew_of_mem hmem]
    exact ⟨h, (decide_eq_false (not_not.mpr hmem)).symm⟩
  · obtain ⟨m', heq, hsound, hroute⟩ := hnew (decide_eq_false hmem)
    rw [heq, Table.insertNew_of_notMem hmem]
    exact ⟨h.write _ hsound hroute (AList.lookup_insert t) (fun p hp => AList.lookup_insert_ne hp) hshort,
      (decide_eq_true hmem).symm⟩

theorem Represents.addRoutes (h : m.Represents t) (routes : List RouteData)
    (hshort : ∀ data ∈ routes, data.prefix_.length < 2 ^ 32) :
    (m.addRoutes routes).1.Represents (t.addRoutes routes).1 ∧
      (m.addRoutes routes).2 = (t.addRoutes routes).2 := by
  induction routes generalizing m t with
  | nil => exact ⟨h, rfl⟩
  | cons data routes ih =>
    obtain ⟨hdata, hrest⟩ := List.forall_mem_cons.mp hshort
    obtain ⟨h', hadded⟩ := h.addRoute hdata data.toRoute
    obtain ⟨h'', hres⟩ := ih h' hrest
    exact ⟨h'', congrArg₂ (· && ·) hadded hres⟩

/-- A prefix is a route exactly if the two functions that change one find it. -/
theorem Represents.exactly (h : m.Represents t) (string : Bytes) :
    (string.length < 2 ^ 32 ∧ m.hasValue string.reverse = true) ↔ string ∈ t := by
  rw [h.hasValue, decide_eq_true_eq]
  exact ⟨And.right, fun hmem => ⟨h.short string hmem, hmem⟩⟩

theorem Represents.updateRoute (h : m.Represents t) (string : Bytes) (route : Route) :
    (m.updateRoute string route).1.Represents (t.updateRoute string route).1 ∧
      (m.updateRoute string route).2 = (t.updateRoute string route).2 := by
  obtain ⟨hnone, hfound⟩ := updateRoute_spec h.sound string route
  rw [h.exactly] at hnone hfound
  rw [Routes.updateRoute]
  by_cases hmem : string ∈ t
  · obtain ⟨m', heq, hsound, hroute⟩ := hfound hmem
    rw [heq, if_pos hmem]
    exact ⟨h.write _ hsound hroute (AList.lookup_insert t) (fun p hp => AList.lookup_insert_ne hp)
      (h.short string hmem), (decide_eq_true hmem).symm⟩
  · rw [hnone hmem, if_neg hmem]
    exact ⟨h, (decide_eq_false hmem).symm⟩

theorem Represents.deleteRoute (h : m.Represents t) (string : Bytes) :
    (m.deleteRoute string).1.Represents (t.deleteRoute string).1 ∧
      (m.deleteRoute string).2 = (t.deleteRoute string).2 := by
  obtain ⟨hnone, hfound⟩ := deleteRoute_spec h.sound string
  rw [h.exactly] at hnone hfound
  rw [Routes.deleteRoute]
  by_cases hmem : string ∈ t
  · obtain ⟨m', heq, hsound, hroute⟩ := hfound hmem
    rw [heq]
    exact ⟨h.write _ hsound hroute (AList.lookup_erase string t) (fun p hp => AList.lookup_erase_ne hp)
      (h.short string hmem), (decide_eq_true hmem).symm⟩
  · rw [hnone hmem, Table.erase_of_notMem hmem]
    exact ⟨h, (decide_eq_false hmem).symm⟩

/-- The node found for a number is that of the longest route that the bytes read begin with. -/
theorem Represents.findMatching (h : m.Represents t) (number : Bytes) :
    m.findMatching (reads number false) [] none =
      (longestPrefix (fun string => string ∈ t) (upToLast number)).map List.reverse := by
  have hvalue : (fun q : Bytes => m.hasValue (q.reverse ++ [])) = fun q => decide (q ∈ t) := by
    funext q
    rw [List.append_nil, h.hasValue]
  rw [reads, if_neg Bool.false_ne_true, findMatching_eq h.sound.tree, hvalue]
  simp

/-- A number of 2^32 bytes is too long for every route. -/
theorem findDestination_of_long (m : RouteMapper) {number : Bytes} (h : 2 ^ 32 ≤ number.length)
    (reverse : Bool) : m.findDestination number reverse = [] := by
  rw [RouteMapper.findDestination]
  cases (m.findMatching (reads number reverse) [] none).bind m.nodes with
  | none => rfl
  | some n => exact if_pos (Nat.lt_of_lt_of_le n.max_length_.toNat_lt h)

/-- **A number is looked up in the map**, whatever its length. -/
theorem Represents.findDestination (h : m.Represents t) (number : Bytes) :
    m.findDestination number false = t.findDestination number := by
  by_cases hlong : 2 ^ 32 ≤ number.length
  · rw [findDestination_of_long m hlong, Routes.findDestination]
    split
    · rename_i route _
      exact (if_pos (Nat.lt_of_lt_of_le route.max_length_.toNat_lt hlong)).symm
    · rfl
  · have hall : upToLast number = number := by
      rw [upToLast, Nat.mod_eq_of_lt (Nat.not_le.mp hlong), List.take_length]
    rw [RouteMapper.findDestination, h.findMatching, hall, Routes.findDestination]
    cases hq : longestPrefix (fun string => string ∈ t) number with
    | none => rfl
    | some q =>
      obtain ⟨-, hmem, -⟩ := longestPrefix_eq_some_iff.mp hq
      obtain ⟨route, hroute⟩ := Option.isSome_iff_exists.mp
        (AList.lookup_isSome.mpr (decide_eq_true_eq.mp hmem))
      have hat := h.lookup q
      rw [hroute, routeAt] at hat
      obtain ⟨n, hn, hvalue⟩ := Option.bind_eq_some_iff.mp hat.symm
      obtain ⟨-, heq⟩ := Option.ite_none_right_eq_some.mp hvalue
      simp only [Option.map_some, Option.bind_some, hn, hroute, ← Option.some.inj heq]

/-- **One call** of the code and of the map. -/
theorem Represents.serve (h : m.Represents t) {request : MapperRequest} (hshort : request.Short) :
    (m.serve request).1.Represents (t.serve request).1 ∧ (m.serve request).2 = (t.serve request).2 := by
  cases request with
  | addRoute string route =>
    obtain ⟨hnext, hreply⟩ := h.addRoute hshort route
    exact ⟨hnext, congrArg MapperReply.done hreply⟩
  | addRoutes routes =>
    obtain ⟨hnext, hreply⟩ := h.addRoutes routes hshort.2
    rw [RouteMapper.serve, if_pos hshort.1]
    exact ⟨hnext, congrArg MapperReply.done hreply⟩
  | updateRoute string route =>
    obtain ⟨hnext, hreply⟩ := h.updateRoute string route
    exact ⟨hnext, congrArg MapperReply.done hreply⟩
  | deleteRoute string =>
    obtain ⟨hnext, hreply⟩ := h.deleteRoute string
    exact ⟨hnext, congrArg MapperReply.done hreply⟩
  | findDestination number => exact ⟨h, congrArg MapperReply.destination (h.findDestination number)⟩

/-- **The route mapper is a longest-prefix map** in every run that adds prefixes shorter than 2^32 bytes,
and keeps a tree without dead branches. -/
theorem serve_run (requests : List MapperRequest) (hshort : ∀ request ∈ requests, request.Short) :
    let served := run (reply RouteMapper.serve) (.empty, []) requests
    served.2 = (run (reply Routes.serve) (∅, []) requests).2 ∧
    ∀ a n, a ≠ [] → served.1.nodes a = some n →
      n.number_of_childs_ = (served.1.childs a).card ∧
      ∃ b n', served.1.nodes (b ++ a) = some n' ∧ n'.has_value_flag_ = true := by
  intro served
  have hstep (m : RouteMapper) (t : Routes) (request : MapperRequest) (h : m.Represents t)
      (hrequest : request.Short) := h.serve hrequest
  obtain ⟨hrep, hreplies⟩ := simulation_replies hstep hshort represents_empty
  refine ⟨hreplies, fun a n hne hn => ⟨hrep.sound.tree.childs hn, ?_⟩⟩
  obtain ⟨b, hb⟩ := hrep.sound.live a hne (by rw [hn]; rfl) fun h => hne (List.suffix_nil.mp h)
  obtain ⟨n', hn'⟩ := Option.isSome_iff_exists.mp (isSome_of_hasValue hb)
  have hvalue : n'.has_value_flag_ = true := by rwa [RouteMapper.hasValue, hn'] at hb
  exact ⟨b, n', hn', hvalue⟩

theorem serve_run_twoRoutes :
    let requests : List MapperRequest := [.addRoute (ascii "98") ⟨ascii "ir", 12⟩,
      .addRoute (ascii "9891") ⟨ascii "mci", 12⟩, .deleteRoute (ascii "9891"),
      .findDestination (ascii "98912")]
    (run (reply RouteMapper.serve) (.empty, []) requests).2 =
      (run (reply Routes.serve) (∅, []) requests).2 :=
  (serve_run _ (by decide)).1

/-- Clearing leaves the route of the empty prefix. -/
theorem clearAllRoutes_routeAt (m : RouteMapper) (a : Bytes) :
    m.clearAllRoutes.routeAt a = if a = [] then m.routeAt [] else none := by
  by_cases h : a = []
  · rw [if_pos h, h, routeAt, routeAt, clearAllRoutes]
    cases m.nodes [] <;> rfl
  · rw [if_neg h, routeAt, clearAllRoutes]
    simp [h]

/-- A prefix whose length is a multiple of 2^32 is stored as the empty one. -/
theorem represents_of_wrap {long : Bytes} (h : long.length % 2 ^ 32 = 0) (route : Route) :
    ∃ m', empty.addRoute long route = (m', true) ∧ m'.Represents ((∅ : Routes).insert [] route) := by
  have hnil : (upToLast long).reverse = [] := by rw [upToLast, h, List.take_zero, List.reverse_nil]
  have hvalue : empty.hasValue [] = false := by rw [hasValue_eq, routeAt_empty]; rfl
  obtain ⟨-, hnew⟩ := addRoute_spec sound_empty long route
  rw [hnil] at hnew
  obtain ⟨m', heq, hsound, hroute⟩ := hnew hvalue
  exact ⟨m', heq, represents_empty.write [] hsound hroute (AList.lookup_insert _)
    (fun p hp => AList.lookup_insert_ne hp) (Nat.two_pow_pos 32)⟩

/-- With a prefix of 2^32 zero bytes a number that does not begin with it has a route. -/
theorem not_serve_run : ¬ ∀ requests : List MapperRequest,
    (run (reply RouteMapper.serve) (.empty, []) requests).2 =
      (run (reply Routes.serve) (∅, []) requests).2 := by
  intro h
  obtain ⟨long, hlong⟩ : ∃ long : Bytes, long = List.replicate (2 ^ 32) 0 := ⟨_, rfl⟩
  have hlength : long.length = 2 ^ 32 := by rw [hlong, List.length_replicate]
  have hwrap : long.length % 2 ^ 32 = 0 := by rw [hlength, Nat.mod_self]
  obtain ⟨m', heq, hrep⟩ := represents_of_wrap hwrap ⟨ascii "x", 12⟩
  have hfound : m'.findDestination [1] false = ascii "x" := by
    rw [hrep.findDestination]
    decide
  have hcode : (run (reply RouteMapper.serve) (.empty, []) [.addRoute long ⟨ascii "x", 12⟩,
      .findDestination [1]]).2 = [.done true, .destination (ascii "x")] := by
    simp only [run_cons, run_nil, reply, RouteMapper.serve, heq, hfound, Prod.map, id, List.nil_append,
      List.cons_append]
  have hnone : longestPrefix (fun string => string ∈ (∅ : Routes).insertNew long ⟨ascii "x", 12⟩) [1] =
      none := by
    refine longestPrefix_eq_none_iff.mpr fun q hq => decide_eq_false fun hmem => ?_
    rcases Table.mem_insertNew.mp hmem with rfl | hmem
    · have hle := hq.length_le
      rw [hlength, List.length_singleton] at hle
      omega
    · exact AList.notMem_empty q hmem
  have hmap : (run (reply Routes.serve) (∅, []) [.addRoute long ⟨ascii "x", 12⟩,
      .findDestination [1]]).2 = [.done true, .destination []] := by
    have hadd : Routes.addRoute ∅ long ⟨ascii "x", 12⟩ =
        ((∅ : Routes).insertNew long ⟨ascii "x", 12⟩, true) :=
      congrArg (Prod.mk _) (decide_eq_true (AList.notMem_empty long))
    simp only [run_cons, run_nil, reply, Routes.serve, hadd, Prod.map, id, Routes.findDestination, hnone,
      Option.bind_none, List.nil_append, List.cons_append]
  have hne := (h _).symm.trans hcode
  rw [hmap] at hne
  exact absurd hne (by decide)

end RouteMapper

end SmppGateway.Routing
