import SmppGateway.Pinex.Registry
import SmppGateway.Routing.Router

/-!
# The connections to the backends

A `p_client` that binds or closes tells the `p_client_list`, which keeps `binded_clients_`, and through
`session_state_changed` of `pinex` the router, which keeps `targets_list_`.

## The model

* A `p_client` connects when it is constructed and again when its session has been closed, so a bind comes
  when it has no session, and a close from the session that it has, whose handler knows the id of its server.
* Whatever else happens to the sessions and to the list may happen in between.

## What is proved

* `entriesBound_run` — whoever is in `binded_clients_` has a bound session, in every run.
* `consistent_run` — both registries name the servers that have announced themselves after every event of a
  run exactly if every session that closes is the only one of its server.
-/

namespace SmppGateway.Gateway

open Foundation Net Pinex
open Routing (Router)

/-- What `pinex` keeps of its connections. -/
structure Connections where
  client_list_ : PClientList
  router_ : Router

namespace Connections

open PClientList (ClientEvent)

/-- `on_bind` of a `p_client`. -/
def onBind (c : Connections) (k : ℕ) (server_id : Bytes) (session : Session CommandId CommandStatus Pdu) :
    Connections where
  client_list_ := c.client_list_.onBind k server_id session
  router_ := c.router_.sessionStateChanged server_id .bind

/-- `on_session_close` of a `p_client`. -/
def onSessionClose (c : Connections) (k : ℕ) (server_id : Bytes) : Connections where
  client_list_ := c.client_list_.onSessionClose k server_id
  router_ := c.router_.sessionStateChanged (c.client_list_.p_client_list_ k).server_id_ .close

/-- What an event makes of the connections. -/
def step (c : Connections) : ClientEvent → Connections
  | .bind k server_id session => c.onBind k server_id session
  | .close k server_id => c.onSessionClose k server_id
  | e => { c with client_list_ := c.client_list_.step e }

/-- The connections of a gateway that has just been started. -/
def start (timeout_sec : ℕ) : Connections where
  client_list_ := PClientList.start timeout_sec
  router_ := ⟨[], 0⟩

/-- A client has a bound session, and its server announced the id. -/
def Announces (l : PClientList) (k : ℕ) (id : Bytes) : Prop :=
  (l.p_client_list_ k).binded_session_.isSome ∧ (l.p_client_list_ k).server_id_ = id

/-- The event can come. -/
def Possible (c : Connections) : ClientEvent → Prop
  | .bind k _ _ => (c.client_list_.p_client_list_ k).binded_session_ = none
  | .close k server_id => Announces c.client_list_ k server_id
  | _ => True

/-- **The registries** name the servers of the bound sessions. -/
structure Consistent (c : Connections) : Prop where
  clients : ∀ id, (c.client_list_.binded_clients_.lookup id).isSome ↔ ∃ k, Announces c.client_list_ k id
  client : ∀ id k, c.client_list_.binded_clients_.lookup id = some k → Announces c.client_list_ k id
  targets : ∀ id, id ∈ c.router_.targets_list_ ↔ ∃ k, Announces c.client_list_ k id

/-- A session that closes is the only one of its server. -/
def OnlyOne (c : Connections) : ClientEvent → Prop
  | .close k server_id => ∀ j, Announces c.client_list_ j server_id → j = k
  | _ => True

/-! ### Who has announced itself -/

section Announcing

variable {l l' : PClientList}

/-- The sends keep what a client is. -/
theorem sendRequest_keeps (clnt : PClient) (msg : Bytes) :
    (clnt.sendRequest msg).1.binded_session_.isSome = clnt.binded_session_.isSome ∧
      (clnt.sendRequest msg).1.server_id_ = clnt.server_id_ := by
  unfold PClient.sendRequest
  simp only
  split
  · exact ⟨rfl, rfl⟩
  rename_i hsession
  split
  · exact ⟨by rw [hsession]; rfl, rfl⟩
  · exact ⟨by rw [hsession]; rfl, rfl⟩

theorem sendResponse_keeps (clnt : PClient) (msg : Bytes) (seq_no : UInt32) :
    (clnt.sendResponse msg seq_no).1.binded_session_.isSome = clnt.binded_session_.isSome ∧
      (clnt.sendResponse msg seq_no).1.server_id_ = clnt.server_id_ := by
  unfold PClient.sendResponse
  split
  · exact ⟨rfl, rfl⟩
  rename_i hsession
  split
  · exact ⟨by rw [hsession]; rfl, rfl⟩
  · exact ⟨by rw [hsession]; rfl, rfl⟩

theorem announces_update {k : ℕ} {c : PClient}
    (hkept : c.binded_session_.isSome = (l.p_client_list_ k).binded_session_.isSome ∧
      c.server_id_ = (l.p_client_list_ k).server_id_) (j : ℕ) (id : Bytes) :
    Announces (l.update k c) j id ↔ Announces l j id := by
  obtain ⟨hsession, hserver⟩ := hkept
  by_cases hj : j = k
  · subst hj
    simp only [Announces, PClientList.update, Function.update_self, hsession, hserver]
  · simp only [Announces, PClientList.update, Function.update_of_ne hj]

theorem announces_onBind {k : ℕ} (hfree : (l.p_client_list_ k).binded_session_ = none) (server_id : Bytes)
    (session : Session CommandId CommandStatus Pdu) (j : ℕ) (id : Bytes) :
    Announces (l.onBind k server_id session) j id ↔ (j = k ∧ id = server_id) ∨ Announces l j id := by
  by_cases hj : j = k
  · subst hj
    simp [Announces, PClientList.onBind, PClientList.update, PClient.onBind, hfree, eq_comm]
  · simp [Announces, PClientList.onBind, PClientList.update, hj]

theorem announces_onSessionClose (k : ℕ) (server_id : Bytes) (j : ℕ) (id : Bytes) :
    Announces (l.onSessionClose k server_id) j id ↔ j ≠ k ∧ Announces l j id := by
  by_cases hj : j = k
  · subst hj
    simp [Announces, PClientList.onSessionClose, PClientList.update, PClient.onSessionClose]
  · simp [Announces, PClientList.onSessionClose, PClientList.update, hj]

/-- A request is a matter of one client. -/
theorem p_client_list_request (l : PClientList) (msg : Bytes) (destination : Option Bytes) :
    (l.request msg destination).1.p_client_list_ = l.p_client_list_ ∨
      ∃ k, (l.request msg destination).1.p_client_list_ =
        (l.update k ((l.p_client_list_ k).sendRequest msg).1).p_client_list_ := by
  cases destination with
  | some id =>
    simp only [PClientList.request, PClientList.sendRequestTo]
    split
    · exact .inl rfl
    rename_i k _
    refine .inr ⟨k, ?_⟩
    split <;> rename_i heq <;> rw [heq]
  | none =>
    simp only [PClientList.request, PClientList.sendRequest]
    split
    · exact .inl rfl
    split
    · exact .inl rfl
    rename_i k _
    refine .inr ⟨k, ?_⟩
    split <;> rename_i heq <;> rw [heq]

theorem p_client_list_response (l : PClientList) (msg : Bytes) (seq_no : UInt32) (id : Bytes) :
    (l.sendResponse msg seq_no id).1.p_client_list_ = l.p_client_list_ ∨
      ∃ k, (l.sendResponse msg seq_no id).1.p_client_list_ =
        (l.update k ((l.p_client_list_ k).sendResponse msg seq_no).1).p_client_list_ := by
  unfold PClientList.sendResponse
  split
  · exact .inl rfl
  rename_i k _
  refine .inr ⟨k, ?_⟩
  split <;> rename_i heq <;> rw [heq]

theorem announces_of_eq (h : l'.p_client_list_ = l.p_client_list_) (j : ℕ) (id : Bytes) :
    Announces l' j id ↔ Announces l j id := by
  rw [Announces, Announces, h]

/-- What is neither a bind nor a close leaves the map and the sessions. -/
theorem announces_step {e : ClientEvent} (hbind : ∀ k id session, e ≠ .bind k id session)
    (hclose : ∀ k id, e ≠ .close k id) :
    (l.step e).binded_clients_ = l.binded_clients_ ∧
      ∀ j id, Announces (l.step e) j id ↔ Announces l j id := by
  cases e with
  | bind k id session => exact absurd rfl (hbind k id session)
  | close k id => exact absurd rfl (hclose k id)
  | request msg destination =>
    refine ⟨?_, fun j id => ?_⟩
    · cases destination with
      | some id => exact (l.sendRequestTo_registry msg id).1
      | none => exact (l.sendRequest_registry msg).1
    · rcases p_client_list_request l msg destination with heq | ⟨k, heq⟩
      · exact announces_of_eq heq j id
      · exact (announces_of_eq heq j id).trans (announces_update (sendRequest_keeps _ msg) j id)
  | response msg seq_no i =>
    refine ⟨(l.sendResponse_registry msg seq_no i).1, ?_⟩
    intro j id
    rcases p_client_list_response l msg seq_no i with heq | ⟨k, heq⟩
    · exact announces_of_eq heq j id
    · exact (announces_of_eq heq j id).trans (announces_update (sendResponse_keeps _ msg seq_no) j id)
  | serve k change =>
    let clnt : PClient :=
      { l.p_client_list_ k with binded_session_ := (l.p_client_list_ k).binded_session_.map change }
    have hkept : clnt.binded_session_.isSome = (l.p_client_list_ k).binded_session_.isSome :=
      Option.isSome_map
    exact ⟨rfl, announces_update (l := l) (k := k) (c := clnt) ⟨hkept, rfl⟩⟩

end Announcing

/-! ### The registries over a run -/

variable {c : Connections}

/-- Whoever is in the map has a bound session to the server. -/
def EntriesBound (c : Connections) : Prop :=
  ∀ id k, c.client_list_.binded_clients_.lookup id = some k → Announces c.client_list_ k id

theorem EntriesBound.onBind (h : c.EntriesBound) (hsorted : PClientList.Sorted c.client_list_.binded_clients_)
    {k : ℕ} (server_id : Bytes) (session : Session CommandId CommandStatus Pdu)
    (hfree : (c.client_list_.p_client_list_ k).binded_session_ = none) :
    (c.onBind k server_id session).EntriesBound := by
  intro id j hj
  refine (announces_onBind hfree server_id session j id).mpr ?_
  replace hj := (PClientList.lookup_insertClient hsorted server_id k id).symm.trans hj
  split at hj
  · rename_i hid
    cases hfound : c.client_list_.binded_clients_.lookup server_id with
    | none =>
      rw [hfound] at hj
      exact .inl ⟨(Option.some.inj hj).symm, hid⟩
    | some i =>
      rw [hfound] at hj
      rw [hid, ← Option.some.inj hj]
      exact .inr (h server_id i hfound)
  · exact .inr (h id j hj)

theorem EntriesBound.onSessionClose (h : c.EntriesBound) {k : ℕ} {server_id : Bytes}
    (hbound : Announces c.client_list_ k server_id) : (c.onSessionClose k server_id).EntriesBound := by
  intro id j hj
  replace hj := (PClientList.lookup_filter c.client_list_.binded_clients_ server_id id).symm.trans hj
  split at hj
  · cases hj
  rename_i hne
  have hj' := h id j hj
  refine (announces_onSessionClose k server_id j id).mpr ⟨fun heq => hne ?_, hj'⟩
  rw [← hj'.2, heq]
  exact hbound.2

theorem EntriesBound.of_other (h : c.EntriesBound) {e : ClientEvent}
    (hbind : ∀ k id session, e ≠ .bind k id session) (hclose : ∀ k id, e ≠ .close k id) :
    EntriesBound { c with client_list_ := c.client_list_.step e } := by
  obtain ⟨hclients, hannounces⟩ := announces_step (l := c.client_list_) hbind hclose
  intro id k hk
  simp only [hclients] at hk
  exact (hannounces k id).mpr (h id k hk)

/-- An event keeps the map sorted and its clients bound. -/
theorem EntriesBound.step (h : c.EntriesBound) (hsorted : PClientList.Sorted c.client_list_.binded_clients_)
    {e : ClientEvent} (hpossible : c.Possible e) :
    (c.step e).EntriesBound ∧ PClientList.Sorted (c.step e).client_list_.binded_clients_ := by
  have hother (hbind : ∀ k id session, e ≠ .bind k id session) (hclose : ∀ k id, e ≠ .close k id) :
      PClientList.Sorted (c.client_list_.step e).binded_clients_ := by
    rw [(announces_step hbind hclose).1]
    exact hsorted
  cases e with
  | bind k server_id session =>
    exact ⟨h.onBind hsorted server_id session hpossible, hsorted.insertClient server_id k⟩
  | close k server_id => exact ⟨h.onSessionClose hpossible, hsorted.filter _⟩
  | request msg destination => exact ⟨h.of_other (by simp) (by simp), hother (by simp) (by simp)⟩
  | response msg seq_no id => exact ⟨h.of_other (by simp) (by simp), hother (by simp) (by simp)⟩
  | serve k change => exact ⟨h.of_other (by simp) (by simp), hother (by simp) (by simp)⟩

/-- What the invariant adds: the map is sorted, and no target is there twice. -/
structure Registered (c : Connections) : Prop where
  consistent : c.Consistent
  sorted : PClientList.Sorted c.client_list_.binded_clients_
  nodup : c.router_.targets_list_.Nodup

theorem Registered.onBind (h : c.Registered) {k : ℕ} (server_id : Bytes)
    (session : Session CommandId CommandStatus Pdu)
    (hfree : (c.client_list_.p_client_list_ k).binded_session_ = none) :
    (c.onBind k server_id session).Registered := by
  have hannounces := announces_onBind (l := c.client_list_) hfree server_id session
  have hlookup := PClientList.lookup_insertClient h.sorted server_id k
  have hthere (id : Bytes) : (∃ j, Announces (c.onBind k server_id session).client_list_ j id) ↔
      id = server_id ∨ ∃ j, Announces c.client_list_ j id := by
    constructor
    · rintro ⟨j, hj⟩
      rcases (hannounces j id).mp hj with ⟨-, hid⟩ | hj
      · exact .inl hid
      · exact .inr ⟨j, hj⟩
    · rintro (rfl | ⟨j, hj⟩)
      · exact ⟨k, (hannounces k id).mpr (.inl ⟨rfl, rfl⟩)⟩
      · exact ⟨j, (hannounces j id).mpr (.inr hj)⟩
  have hentries := EntriesBound.onBind h.consistent.client h.sorted server_id session hfree
  refine ⟨⟨fun id => ?_, hentries, fun id => ?_⟩, h.sorted.insertClient server_id k,
    Router.nodup_addTarget h.nodup server_id⟩
  · rw [hthere, ← h.consistent.clients]
    refine (iff_of_eq (congrArg (·.isSome = true) (hlookup id))).trans ?_
    by_cases hid : id = server_id
    · simp [hid]
    · simp [hid]
  · rw [hthere, ← h.consistent.targets]
    exact Router.mem_addTarget

/-- **A close** keeps the registries consistent exactly if no other session is bound to the server. -/
theorem Registered.onSessionClose (h : c.Registered) {k : ℕ} {server_id : Bytes}
    (hbound : Announces c.client_list_ k server_id) :
    ((c.onSessionClose k server_id).Consistent ↔ c.OnlyOne (.close k server_id)) ∧
      (c.OnlyOne (.close k server_id) → (c.onSessionClose k server_id).Registered) := by
  have hannounces := announces_onSessionClose (l := c.client_list_) k server_id
  have hlookup (i : Bytes) : (c.onSessionClose k server_id).client_list_.binded_clients_.lookup i =
      if i = server_id then none else c.client_list_.binded_clients_.lookup i :=
    PClientList.lookup_filter c.client_list_.binded_clients_ server_id i
  have htargets (id : Bytes) : id ∈ (c.onSessionClose k server_id).router_.targets_list_ ↔
      id ∈ c.router_.targets_list_ ∧ id ≠ server_id := by
    rw [← hbound.2]
    exact Router.mem_removeTarget h.nodup
  have hregistered (honly : c.OnlyOne (.close k server_id)) :
      (c.onSessionClose k server_id).Registered := by
    have hthere (id : Bytes) : (∃ j, Announces (c.onSessionClose k server_id).client_list_ j id) ↔
        (∃ j, Announces c.client_list_ j id) ∧ id ≠ server_id := by
      constructor
      · rintro ⟨j, hj⟩
        obtain ⟨hne, hj⟩ := (hannounces j id).mp hj
        exact ⟨⟨j, hj⟩, fun heq => hne (honly j (heq ▸ hj))⟩
      · rintro ⟨⟨j, hj⟩, hne⟩
        refine ⟨j, (hannounces j id).mpr ⟨fun heq => hne ?_, hj⟩⟩
        rw [← hj.2, heq]
        exact hbound.2
    have hentries := EntriesBound.onSessionClose h.consistent.client hbound
    refine ⟨⟨fun id => ?_, hentries, fun id => ?_⟩, h.sorted.filter _, Router.nodup_removeTarget h.nodup _⟩
    · rw [hthere, hlookup, ← h.consistent.clients]
      by_cases hid : id = server_id
      · simp [hid]
      · simp [hid]
    · rw [hthere, htargets, ← h.consistent.targets]
  refine ⟨⟨?_, fun honly => (hregistered honly).consistent⟩, hregistered⟩
  intro hconsistent j hj
  by_contra hne
  have hfound := (hconsistent.clients server_id).mpr ⟨j, (hannounces j server_id).mpr ⟨hne, hj⟩⟩
  rw [hlookup, if_pos rfl] at hfound
  cases hfound

/-- An event that is neither. -/
theorem Registered.of_other (h : c.Registered) {e : ClientEvent}
    (hbind : ∀ k id session, e ≠ .bind k id session) (hclose : ∀ k id, e ≠ .close k id) :
    Registered { c with client_list_ := c.client_list_.step e } := by
  obtain ⟨hclients, hannounces⟩ := announces_step (l := c.client_list_) hbind hclose
  have hthere (id : Bytes) :
      (∃ k, Announces (c.client_list_.step e) k id) ↔ ∃ k, Announces c.client_list_ k id :=
    exists_congr fun k => hannounces k id
  have hentries := EntriesBound.of_other h.consistent.client hbind hclose
  refine ⟨⟨fun id => ?_, hentries, fun id => ?_⟩, hclients.symm ▸ h.sorted, h.nodup⟩
  · rw [hthere]
    simp only [hclients]
    exact h.consistent.clients id
  · rw [hthere]
    exact h.consistent.targets id

/-- What an event does to the registries. -/
theorem Registered.step (h : c.Registered) {e : ClientEvent} (hpossible : c.Possible e) :
    ((c.step e).Consistent ↔ c.OnlyOne e) ∧ (c.OnlyOne e → (c.step e).Registered) := by
  have hkept {c' : Connections} (hregistered : c'.Registered) :
      (c'.Consistent ↔ True) ∧ (True → c'.Registered) :=
    ⟨iff_of_true hregistered.consistent trivial, fun _ => hregistered⟩
  cases e with
  | bind k server_id session => exact hkept (h.onBind server_id session hpossible)
  | close k server_id => exact h.onSessionClose hpossible
  | request msg destination => exact hkept (h.of_other (by simp) (by simp))
  | response msg seq_no id => exact hkept (h.of_other (by simp) (by simp))
  | serve k change => exact hkept (h.of_other (by simp) (by simp))

theorem registered_start (timeout_sec : ℕ) : (start timeout_sec).Registered := by
  have hnone (id : Bytes) : ¬∃ k, Announces (start timeout_sec).client_list_ k id := by
    rintro ⟨k, hbound, -⟩
    cases hbound
  refine ⟨⟨fun id => ?_, fun id k hk => ?_, fun id => ?_⟩, .nil, .nil⟩
  · exact iff_of_false Bool.false_ne_true (hnone id)
  · cases hk
  · exact iff_of_false List.not_mem_nil (hnone id)

/-- Whoever is in the map has a bound session to the server, in every run. -/
theorem entriesBound_run {timeout_sec : ℕ} {events : List ClientEvent}
    (h : Along step Possible (start timeout_sec) events) :
    (run step (start timeout_sec) events).EntriesBound := by
  have hstart := registered_start timeout_sec
  refine (h.invariant (I := fun c => c.EntriesBound ∧ PClientList.Sorted c.client_list_.binded_clients_)
    (fun c e hkept hpossible => ?_) ⟨hstart.consistent.client, hstart.sorted⟩).1
  exact hkept.1.step hkept.2 hpossible

/-- **The registries of the connections**: they name the servers of the bound sessions after every event exactly
if every session that closes is the only one of its server. -/
theorem consistent_run {timeout_sec : ℕ} {events : List ClientEvent}
    (h : Along step Possible (start timeout_sec) events) :
    Along step (fun c e => (c.step e).Consistent) (start timeout_sec) events ↔
      Along step OnlyOne (start timeout_sec) events := by
  refine along_iff (I := Registered) (fun c e hregistered hpossible => ?_)
    (fun c e hregistered hpossible honly => ?_) h (registered_start timeout_sec)
  · exact (hregistered.step hpossible).1
  · exact (hregistered.step hpossible).2 honly

/-- Two servers, one of which goes. -/
theorem consistent_run_twoServers :
    let events : List ClientEvent := [.bind 0 (ascii "a") (Session.fresh fun _ => true),
      .bind 1 (ascii "b") (Session.fresh fun _ => true), .close 0 (ascii "a")]
    Along step Possible (start 1) events ∧
      Along step (fun c e => (c.step e).Consistent) (start 1) events := by
  intro events
  have hpossible : Along step Possible (start 1) events := ⟨rfl, rfl, ⟨rfl, rfl⟩, trivial⟩
  have honly : Along step OnlyOne (start 1) events := by
    refine ⟨trivial, trivial, ?_, trivial⟩
    intro j hj
    match j with
    | 0 => rfl
    | 1 => exact absurd hj.2 (by decide)
    | j + 2 => exact absurd hj.1 Bool.false_ne_true
  exact ⟨hpossible, (consistent_run hpossible).mpr honly⟩

/-- Two connections to one server, one of which goes. -/
theorem not_consistent_run :
    let events : List ClientEvent := [.bind 0 (ascii "a") (Session.fresh fun _ => true),
      .bind 1 (ascii "a") (Session.fresh fun _ => true), .close 1 (ascii "a")]
    Along step Possible (start 1) events ∧
      ¬Along step (fun c e => (c.step e).Consistent) (start 1) events := by
  intro events
  refine ⟨⟨rfl, rfl, ⟨rfl, rfl⟩, trivial⟩, ?_⟩
  intro h
  have hfound := (h.2.2.1.clients (ascii "a")).mpr ⟨0, rfl, rfl⟩
  exact Bool.false_ne_true hfound

end Connections

end SmppGateway.Gateway
