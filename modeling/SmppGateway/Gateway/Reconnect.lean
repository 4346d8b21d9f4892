import Mathlib.Algebra.BigOperators.Group.Finset.Piecewise
import SmppGateway.Gateway.Connections

/-!
# Connecting to the backends

Each `p_client` has a `client` (`libs/pinex/net/client.hpp`) that connects, tries again every five seconds as long
as the connection is refused, binds, and hands the bound session over. When that session has been closed, the
`p_client` connects again.

## The model

A `Link` counts what a `p_client` and its `client` have outstanding. What a handler does to the members that other
modules model goes on in `Connections`, and `notified` are the events that the clients give it. Any completion
may come at any time while it is outstanding; one that is not does nothing.

* A rejected bind destroys the session whose `do_receive` is running, a session that closes before it is handed
  over has an empty close handler, and a name that does not fit its field cannot be sent. Each of these stops
  the gateway with a `fault`.
* A close handler destroys its session, whose `async_receive` may be outstanding. It completes with an error, in a
  callback of `do_receive` that does not ask whether the session is still there; what this does to the gateway is not
  modelled.
* `stop` is not called.

## What is proved

* `Backends.linked_run` — in every run each client has exactly one thing outstanding or has given up for good, the
  gauge counts the bound sessions, and the registries are given only events that can come.
-/

namespace SmppGateway.Gateway

open Foundation Net Pinex
open PClientList (ClientEvent)
open Connections (Announces Possible)

/-! ### One client -/

/-- What a `p_client` and its `client` have outstanding. -/
structure Link where
  /-- The outstanding `async_connect`s. -/
  connects : ℕ
  /-- The outstanding waits on `reconnect_timer_`. -/
  retries : ℕ
  /-- There is a `binding_session_`. -/
  binding : Bool
  /-- The ids in the responses whose `bind_handler_` is deferred. -/
  deferred : List Bytes
  /-- The id that the close handler of `binded_session_` was given. -/
  bound : Option Bytes
  /-- How often `on_error` was called. -/
  errors : ℕ

/-- What may happen to a client. -/
inductive LinkEvent where
  /-- An `async_connect` completes. -/
  | connected (error : Option Bytes)
  /-- A wait on `reconnect_timer_` completes. -/
  | retry (error : Option Bytes)
  /-- `on_binding_session_response` of a `bind_response`. -/
  | bindResponse (system_id : Bytes) (command_status : CommandStatus)
  /-- `on_binding_session_close`. -/
  | bindingClosed
  /-- The deferred `bind_handler_` runs, with the session as it is then. -/
  | handover (session : Session CommandId CommandStatus Pdu)
  /-- The close handler of a session that was closed before it was handed over. -/
  | handoverClosed
  /-- `on_session_close`. -/
  | closed

namespace Link

/-- `do_connect`. -/
def doConnect (l : Link) : Link := { l with connects := l.connects + 1 }

/-- `do_set_retry_timer`. -/
def doSetRetryTimer (l : Link) : Link := { l with retries := l.retries + 1 }

/-- `on_error`. -/
def onError (l : Link) : Link := { l with errors := l.errors + 1 }

/-- `on_connect`, up to the request. -/
def onConnect (l : Link) : Link := { l with binding := true }

/-- All that a client has outstanding: a connect, a wait, a session that binds, one that is handed over, or one that is
bound. -/
def activity (l : Link) : ℕ :=
  l.connects + l.retries + l.binding.toNat + l.deferred.length + l.bound.isSome.toNat

/-- A client that has been constructed connects. -/
def start : Link := doConnect ⟨0, 0, false, [], none, 0⟩

end Link

/-! ### All clients -/

/-- The clients of a gateway, by the place of their address in the configuration. -/
structure Backends where
  /-- `client_id_`. -/
  client_id_ : Bytes
  links : ℕ → Link
  connections : Connections
  connected_clients_ : ℤ
  /-- The events that the connections were given. -/
  notified : List ClientEvent
  fault : Option Fault

/-- What may happen to the clients. -/
inductive BackendEvent where
  /-- Something happens to one client. -/
  | link (k : ℕ) (event : LinkEvent)
  /-- Something else happens to the bound sessions and to the list. -/
  | other (event : ClientEvent) (hbind : ∀ k id session, event ≠ .bind k id session)
      (hclose : ∀ k id, event ≠ .close k id)

namespace Backends

/-- A client has changed. -/
def update (s : Backends) (k : ℕ) (l : Link) : Backends := { s with links := Function.update s.links k l }

/-- The connections are told of an event. -/
def notify (s : Backends) (e : ClientEvent) : Backends :=
  { s with connections := s.connections.step e, notified := s.notified ++ [e] }

/-- `session_state_changed`, as far as the gauge is concerned. -/
def sessionStateChanged (s : Backends) (state : Routing.SessionStat) : Backends :=
  { s with connected_clients_ :=
      match state with
      | .opened => s.connected_clients_ - 1
      | .bind => s.connected_clients_ + 1
      | .close => s.connected_clients_ - 1 }

/-- What `send_request` of the bind request does. -/
def sendBind (s : Backends) : Except Fault Unit :=
  (Pdu.serializeTo [] (.bindRequest ⟨.biDirection, s.client_id_⟩)).2

/-- What happens to one client. -/
def handle (s : Backends) (k : ℕ) : LinkEvent → Backends
  | .connected error =>
    match (s.links k).connects with
    | 0 => s
    | connects + 1 =>
      let l := { s.links k with connects := connects }
      match error with
      | some _ => s.update k l.doSetRetryTimer
      | none =>
        match s.sendBind with
        | .ok () => s.update k l.onConnect
        | .error e => { s with fault := some e }
  | .retry error =>
    match (s.links k).retries with
    | 0 => s
    | retries + 1 =>
      let l := { s.links k with retries := retries }
      match error with
      | some _ => s.update k l.onError
      | none => s.update k l.doConnect
  | .bindResponse system_id command_status =>
    if (s.links k).binding then
      if command_status = CommandStatus.rok then
        s.update k { s.links k with binding := false, deferred := (s.links k).deferred ++ [system_id] }
      else { s with fault := some .outOfBounds }
    else s
  | .bindingClosed =>
    if (s.links k).binding then s.update k { (s.links k).onError with binding := false } else s
  | .handover session =>
    match (s.links k).deferred with
    | [] => s
    | id :: deferred =>
      ((s.update k { s.links k with deferred := deferred, bound := some id }).sessionStateChanged .bind).notify
        (.bind k id session)
  | .handoverClosed =>
    if (s.links k).deferred ≠ [] ∨ (s.links k).bound.isSome then
      { s with fault := some (.exception (ascii "bad_function_call")) }
    else s
  | .closed =>
    match (s.links k).bound with
    | none => s
    | some id =>
      ((s.update k { (s.links k).doConnect with bound := none }).sessionStateChanged .close).notify (.close k id)

/-- What an event makes of the clients. -/
def step (s : Backends) (e : BackendEvent) : Backends :=
  if s.fault.isSome then s
  else
    match e with
    | .link k event => s.handle k event
    | .other event _ _ => s.notify event

/-- The clients of a gateway that has just been started, one for each address. -/
def start (client_id : Bytes) (addresses : ℕ) (timeout_sec : ℕ) : Backends where
  client_id_ := client_id
  links k := if k < addresses then .start else ⟨0, 0, false, [], none, 0⟩
  connections := Connections.start timeout_sec
  connected_clients_ := 0
  notified := []
  fault := none

/-! ### The invariant -/

variable {s : Backends} {addresses timeout_sec : ℕ}

/-- How many clients have a bound session. -/
def boundLinks (links : ℕ → Link) (addresses : ℕ) : ℤ :=
  ∑ k ∈ Finset.range addresses, ((links k).bound.isSome.toNat : ℤ)

/-- **The invariant.** -/
structure Linked (addresses timeout_sec : ℕ) (s : Backends) : Prop where
  /-- Each client has one thing outstanding, or has called `on_error` once. -/
  token : ∀ k, (s.links k).activity + (s.links k).errors = if k < addresses then 1 else 0
  /-- A client knows its bound session. -/
  bound : ∀ k id, (s.links k).bound = some id ↔ Announces s.connections.client_list_ k id
  gauge : s.connected_clients_ = boundLinks s.links addresses
  replay : s.connections = run Connections.step (Connections.start timeout_sec) s.notified
  possible : Along Connections.step Possible (Connections.start timeout_sec) s.notified

theorem linked_start (client_id : Bytes) (addresses timeout_sec : ℕ) :
    Linked addresses timeout_sec (start client_id addresses timeout_sec) where
  token k := by
    simp only [start]
    split <;> rfl
  bound k id := by
    refine iff_of_false ?_ fun h => ?_
    · simp only [start]
      split <;> simp [Link.start, Link.doConnect]
    · exact Bool.false_ne_true h.1
  gauge := by
    refine (Finset.sum_eq_zero fun k _ => ?_).symm
    simp only [start]
    split <;> rfl
  replay := rfl
  possible := trivial

theorem Linked.lt (h : Linked addresses timeout_sec s) {k : ℕ} (hactive : 0 < (s.links k).activity) :
    k < addresses := by
  have htoken := h.token k
  by_contra hk
  rw [if_neg hk] at htoken
  omega

theorem boundLinks_update (links : ℕ → Link) {k : ℕ} (hk : k < addresses) (l : Link) :
    boundLinks (Function.update links k l) addresses =
      boundLinks links addresses - (links k).bound.isSome.toNat + l.bound.isSome.toNat := by
  have hmem : k ∈ Finset.range addresses := Finset.mem_range.mpr hk
  have hnew : (fun j => ((Function.update links k l j).bound.isSome.toNat : ℤ)) =
      Function.update (fun j => ((links j).bound.isSome.toNat : ℤ)) k (l.bound.isSome.toNat : ℤ) := by
    funext j
    by_cases hj : j = k
    · rw [hj, Function.update_self, Function.update_self]
    · rw [Function.update_of_ne hj, Function.update_of_ne hj]
  have hsum := Finset.sum_update_of_mem hmem (fun j => ((links j).bound.isSome.toNat : ℤ)) (l.bound.isSome.toNat : ℤ)
  have hold := Finset.sum_eq_sum_sdiff_singleton_add hmem fun j => ((links j).bound.isSome.toNat : ℤ)
  rw [boundLinks, boundLinks, hnew, hsum, hold]
  omega

/-! ### The events -/

/-- A client passes what it has outstanding on, and its bound session stays as it is. -/
theorem Linked.update (h : Linked addresses timeout_sec s) {k : ℕ} {l : Link}
    (htoken : l.activity + l.errors = (s.links k).activity + (s.links k).errors)
    (hbound : l.bound = (s.links k).bound) :
    Linked addresses timeout_sec (s.update k l) where
  token j := by
    by_cases hj : j = k
    · rw [hj, Backends.update]
      simp only [Function.update_self]
      rw [htoken]
      exact h.token k
    · simp only [Backends.update, Function.update_of_ne hj]
      exact h.token j
  bound j id := by
    by_cases hj : j = k
    · rw [hj]
      simp only [Backends.update, Function.update_self, hbound]
      exact h.bound k id
    · simp only [Backends.update, Function.update_of_ne hj]
      exact h.bound j id
  gauge := by
    rw [show (s.update k l).connected_clients_ = s.connected_clients_ from rfl, h.gauge]
    refine Finset.sum_congr rfl fun j _ => ?_
    by_cases hj : j = k
    · rw [hj]
      simp only [Backends.update, Function.update_self, hbound]
    · simp only [Backends.update, Function.update_of_ne hj]
  replay := h.replay
  possible := h.possible

theorem Linked.fault (h : Linked addresses timeout_sec s) (e : Fault) :
    Linked addresses timeout_sec { s with fault := some e } :=
  ⟨h.token, h.bound, h.gauge, h.replay, h.possible⟩

/-- An event that can come is given to the connections. -/
theorem Linked.notified (h : Linked addresses timeout_sec s) {e : ClientEvent} (he : Possible s.connections e) :
    (s.notify e).connections = run Connections.step (Connections.start timeout_sec) (s.notify e).notified ∧
      Along Connections.step Possible (Connections.start timeout_sec) (s.notify e).notified := by
  simp only [notify]
  rw [run_concat, ← h.replay]
  refine ⟨rfl, along_append.mpr ⟨h.possible, ?_⟩⟩
  rw [← h.replay]
  exact ⟨he, trivial⟩

/-- A session is handed over by a client that has no other. -/
theorem Linked.handover (h : Linked addresses timeout_sec s) {k : ℕ} {id : Bytes} {deferred : List Bytes}
    (hdeferred : (s.links k).deferred = id :: deferred) (session : Session CommandId CommandStatus Pdu) :
    Linked addresses timeout_sec (s.handle k (.handover session)) := by
  have htoken := h.token k
  have hactive : 0 < (s.links k).activity := by
    rw [Link.activity, hdeferred, List.length_cons]
    omega
  have hk := h.lt hactive
  have hnone : (s.links k).bound = none := by
    rw [if_pos hk, Link.activity, hdeferred, List.length_cons] at htoken
    cases hbound : (s.links k).bound with
    | none => rfl
    | some id =>
      rw [hbound, Option.isSome_some, Bool.toNat_true] at htoken
      omega
  have hfree : (s.connections.client_list_.p_client_list_ k).binded_session_ = none := by
    cases hsession : (s.connections.client_list_.p_client_list_ k).binded_session_ with
    | none => rfl
    | some session =>
      have hthere := (h.bound k _).mpr ⟨by rw [hsession]; rfl, rfl⟩
      rw [hnone] at hthere
      cases hthere
  have hnotified := h.notified (e := .bind k id session) hfree
  simp only [handle, hdeferred]
  refine ⟨fun j => ?_, fun j i => ?_, ?_, hnotified.1, hnotified.2⟩
  · by_cases hj : j = k
    · rw [hj, ← htoken]
      simp only [notify, Backends.sessionStateChanged, Backends.update, Function.update_self, Link.activity, hdeferred,
        hnone, List.length_cons, Option.isSome_some, Option.isSome_none, Bool.toNat_true, Bool.toNat_false]
      omega
    · simp only [notify, Backends.sessionStateChanged, Backends.update, Function.update_of_ne hj]
      exact h.token j
  · refine Iff.trans ?_ (Connections.announces_onBind hfree id session j i).symm
    by_cases hj : j = k
    · rw [hj]
      have hnot : ¬Announces s.connections.client_list_ k i := fun hthere => by
        rw [← h.bound, hnone] at hthere
        cases hthere
      simp only [notify, Backends.sessionStateChanged, Backends.update, Function.update_self, Option.some.injEq, hnot,
        or_false, true_and, eq_comm]
    · simp only [notify, Backends.sessionStateChanged, Backends.update, Function.update_of_ne hj, hj, false_and,
        false_or]
      exact h.bound j i
  · simp only [notify, Backends.sessionStateChanged, Backends.update]
    rw [boundLinks_update s.links hk, h.gauge, hnone]
    simp

/-- A session closes, and its client connects again. -/
theorem Linked.closed (h : Linked addresses timeout_sec s) {k : ℕ} {id : Bytes} (hbound : (s.links k).bound = some id) :
    Linked addresses timeout_sec (s.handle k .closed) := by
  have htoken := h.token k
  have hactive : 0 < (s.links k).activity := by
    rw [Link.activity, hbound, Option.isSome_some, Bool.toNat_true]
    omega
  have hk := h.lt hactive
  have hthere : Announces s.connections.client_list_ k id := (h.bound k id).mp hbound
  have hnotified := h.notified (e := .close k id) hthere
  simp only [handle, hbound]
  refine ⟨fun j => ?_, fun j i => ?_, ?_, hnotified.1, hnotified.2⟩
  · by_cases hj : j = k
    · rw [hj, ← htoken]
      simp only [notify, Backends.sessionStateChanged, Backends.update, Function.update_self, Link.activity,
        Link.doConnect, hbound, Option.isSome_some, Option.isSome_none, Bool.toNat_true, Bool.toNat_false]
      omega
    · simp only [notify, Backends.sessionStateChanged, Backends.update, Function.update_of_ne hj]
      exact h.token j
  · refine Iff.trans ?_ (Connections.announces_onSessionClose k id j i).symm
    by_cases hj : j = k
    · rw [hj]
      simp [notify, Backends.sessionStateChanged, Backends.update, Link.doConnect]
    · simp only [notify, Backends.sessionStateChanged, Backends.update, Function.update_of_ne hj, ne_eq, hj,
        not_false_eq_true, true_and]
      exact h.bound j i
  · simp only [notify, Backends.sessionStateChanged, Backends.update]
    rw [boundLinks_update s.links hk, h.gauge, hbound]
    simp

/-- What happens to one client. -/
theorem Linked.handle (h : Linked addresses timeout_sec s) (k : ℕ) (e : LinkEvent) :
    Linked addresses timeout_sec (s.handle k e) := by
  cases e with
  | connected error =>
    simp only [Backends.handle]
    split
    · exact h
    · rename_i connects hconnects
      cases error with
      | some what => exact h.update (by simp only [Link.activity, Link.doSetRetryTimer, hconnects]; omega) rfl
      | none =>
        simp only
        split
        · refine h.update ?_ rfl
          have htoken := h.token k
          have hlt : (s.links k).binding.toNat = 0 := by
            rw [if_pos (h.lt (by rw [Link.activity, hconnects]; omega)), Link.activity, hconnects] at htoken
            omega
          simp only [Link.activity, Link.onConnect, hconnects, hlt, Bool.toNat_true]
          omega
        · exact h.fault _
  | retry error =>
    simp only [Backends.handle]
    split
    · exact h
    · rename_i retries hretries
      cases error with
      | some what => exact h.update (by simp only [Link.activity, Link.onError, hretries]; omega) rfl
      | none => exact h.update (by simp only [Link.activity, Link.doConnect, hretries]; omega) rfl
  | bindResponse system_id command_status =>
    simp only [Backends.handle]
    split
    · rename_i hbinding
      split
      · refine h.update ?_ rfl
        simp only [Link.activity, hbinding, List.length_append, List.length_singleton, Bool.toNat_true,
          Bool.toNat_false]
        omega
      · exact h.fault _
    · exact h
  | bindingClosed =>
    simp only [Backends.handle]
    split
    · rename_i hbinding
      refine h.update ?_ rfl
      simp only [Link.activity, Link.onError, hbinding, Bool.toNat_true, Bool.toNat_false]
      omega
    · exact h
  | handover session =>
    cases hdeferred : (s.links k).deferred with
    | nil =>
      simp only [Backends.handle, hdeferred]
      exact h
    | cons id deferred => exact h.handover hdeferred session
  | handoverClosed =>
    simp only [Backends.handle]
    split
    · exact h.fault _
    · exact h
  | closed =>
    cases hbound : (s.links k).bound with
    | none =>
      simp only [Backends.handle, hbound]
      exact h
    | some id => exact h.closed hbound

/-- **Every event** keeps the invariant. -/
theorem Linked.step (h : Linked addresses timeout_sec s) (e : BackendEvent) :
    Linked addresses timeout_sec (s.step e) := by
  unfold Backends.step
  split
  · exact h
  · cases e with
    | link k event => exact h.handle k event
    | other event hbind hclose =>
      have hpossible : Possible s.connections event := by
        cases event with
        | bind k id session => exact absurd rfl (hbind k id session)
        | close k id => exact absurd rfl (hclose k id)
        | _ => trivial
      have hother : s.connections.step event =
          { s.connections with client_list_ := s.connections.client_list_.step event } := by
        cases event with
        | bind k id session => exact absurd rfl (hbind k id session)
        | close k id => exact absurd rfl (hclose k id)
        | _ => rfl
      have hnotified := h.notified hpossible
      refine ⟨h.token, fun k id => ?_, h.gauge, hnotified.1, hnotified.2⟩
      simp only [notify, hother]
      rw [(Connections.announces_step hbind hclose).2]
      exact h.bound k id

/-! ### Giving up -/

theorem errors_step (s : Backends) (e : BackendEvent) (k : ℕ) :
    (s.links k).errors ≤ ((s.step e).links k).errors := by
  have hupdate {j : ℕ} {l : Link} (hl : (s.links j).errors ≤ l.errors) :
      (s.links k).errors ≤ ((s.update j l).links k).errors := by
    by_cases hk : k = j
    · rw [hk]
      simpa only [Backends.update, Function.update_self] using hl
    · simp only [Backends.update, Function.update_of_ne hk]
      exact Nat.le_refl _
  unfold step
  split
  · exact Nat.le_refl _
  · cases e with
    | other event hbind hclose => exact Nat.le_refl _
    | link j event =>
      cases event with
      | connected error =>
        simp only [handle]
        split
        · exact Nat.le_refl _
        · cases error with
          | some what => exact hupdate (Nat.le_refl _)
          | none =>
            simp only
            split
            · exact hupdate (Nat.le_refl _)
            · exact Nat.le_refl _
      | retry error =>
        simp only [handle]
        split
        · exact Nat.le_refl _
        · cases error with
          | some what => exact hupdate (Nat.le_succ _)
          | none => exact hupdate (Nat.le_refl _)
      | bindResponse system_id command_status =>
        simp only [handle]
        split
        · split
          · exact hupdate (Nat.le_refl _)
          · exact Nat.le_refl _
        · exact Nat.le_refl _
      | bindingClosed =>
        simp only [handle]
        split
        · exact hupdate (Nat.le_succ _)
        · exact Nat.le_refl _
      | handover session =>
        simp only [handle]
        split
        · exact Nat.le_refl _
        · exact hupdate (Nat.le_refl _)
      | handoverClosed =>
        simp only [handle]
        split <;> exact Nat.le_refl _
      | closed =>
        simp only [handle]
        split
        · exact Nat.le_refl _
        · exact hupdate (Nat.le_refl _)

/-! ### Runs -/

theorem linked_events (h : Linked addresses timeout_sec s) (events : List BackendEvent) :
    Linked addresses timeout_sec (run step s events) :=
  (along_true fun _ _ => trivial).invariant (G := fun _ _ => True) (fun _ e h _ => h.step e) h

/-- **The connections to the backends** in every run: a client has exactly one thing outstanding, or it has called
`on_error` once and does nothing any more, however the run goes on. The gauge counts the clients with a bound session.
The registries have been given only events that can come, so whoever is in `binded_clients_` has a bound session. -/
theorem linked_run (client_id : Bytes) (addresses timeout_sec : ℕ) (events : List BackendEvent) :
    let s := run step (start client_id addresses timeout_sec) events
    (∀ k < addresses, ((s.links k).activity = 1 ∧ (s.links k).errors = 0) ∨
      ∀ more, ((run step s more).links k).activity = 0 ∧ ((run step s more).links k).errors = 1) ∧
    s.connected_clients_ = boundLinks s.links addresses ∧
    s.connections = run Connections.step (Connections.start timeout_sec) s.notified ∧
    Along Connections.step Possible (Connections.start timeout_sec) s.notified ∧
    s.connections.EntriesBound := by
  intro s
  have hrun : Linked addresses timeout_sec s := linked_events (linked_start client_id addresses timeout_sec) events
  refine ⟨fun k hk => ?_, hrun.gauge, hrun.replay, hrun.possible, ?_⟩
  · have htoken := hrun.token k
    rw [if_pos hk] at htoken
    by_cases herrors : (s.links k).errors = 0
    · exact .inl ⟨by omega, herrors⟩
    · refine .inr fun more => ?_
      have hmore := (linked_events hrun more).token k
      have hmono := le_run_of_mono (fun s e => errors_step s e k) s more
      rw [if_pos hk] at hmore
      omega
  · rw [hrun.replay]
    exact Connections.entriesBound_run hrun.possible

end Backends

end SmppGateway.Gateway
