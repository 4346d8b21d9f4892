import SmppGateway.Gateway.DeliverAccount
import SmppGateway.Gateway.SubmitPath
import SmppGateway.Routing.RoutingMatcher

/-!
# The requests of the backends

`deliver_sm::process_req` and `delivery_report::process_req` pass a request of a backend to `sgw_server`, which looks
for the external client that it is for: a delivery goes to the target of its route, a report to the client that it
names. What has no client is answered with `rinvdstadr`.

## The model

* An external client is what it sends its deliveries with. The configuration inserts clients and removes them; one
  that is removed stays alive for as long as one of its sessions refers to it.
* Requests are numbered as they come. `ignored` lists those that came before the gateway ran, or with which
  `find_target` has thrown, which ends the process; `gone` those that a client still had when it was destroyed.

## What is proved

* `SgwServer.handedOn_run` — in every run each request is in exactly one place.
-/

namespace SmppGateway.Gateway

open Foundation Net Smpp
open Routing (RoutingMatcher PacketType)

/-- `sgw_server`. -/
structure SgwServer where
  /-- `run_` of the gateway. -/
  run_ : Bool
  ext_clients_map_ : Table Bytes SendQueue
  routing_ : RoutingMatcher
  /-- The clients that were taken out of the map and are alive. -/
  removed : List SendQueue
  /-- How many requests have come. -/
  received : ℕ
  /-- What was answered with `rinvdstadr`. -/
  rejected : List ℕ
  ignored : List ℕ
  gone : List ℕ
  /-- What has ended the process. -/
  fault : Option Fault

/-- What happens to a client, except that it is given something. -/
def SendEvent.isOwn : SendEvent → Bool
  | .queue _ => false
  | .report .. => false
  | _ => true

/-- What may happen to the server. -/
inductive ServerEvent where
  /-- The gateway runs from now on. -/
  | start
  /-- A `Deliver_Sm_Req` of a backend. -/
  | deliver (request : DeliverSmReq) (peer_id : Bytes)
  /-- A `DeliveryReport_Req`, and what `send_deliver_sm` reads. -/
  | report (request : DeliveryReportReq) (source_client_id : Bytes) (turn : SendTurn)
  /-- Something happens to a client of the map. -/
  | client (system_id : Bytes) (event : SendEvent) (h : event.isOwn = true)
  /-- Something happens to a removed client. -/
  | removedClient (i : ℕ) (event : SendEvent) (h : event.isOwn = true)
  /-- `on_external_client_insert`, with the configuration of the client. -/
  | insert (system_id : Bytes) (flow : FlowControl) (sessions : ℕ → Session CommandId CommandStatus Pdu)
      (timeout_sec : ℕ)
  /-- `on_external_client_remove`. -/
  | remove (system_id : Bytes)
  /-- The last reference to a removed client is dropped. -/
  | destroy (i : ℕ)
  /-- The routes change. -/
  | route (event : Routing.Event)

/-- A client is given something only by the server. -/
theorem SendQueue.given_step_own (c : SendQueue) {e : SendEvent} (he : e.isOwn = true) :
    (c.step e).given = c.given := by
  unfold step
  split
  · rfl
  cases e with
  | queue => cases he
  | report => cases he
  | timer completion turns =>
    simp only [handle]
    split
    · exact given_sendLoop _ turns { c with timer_ := (c.timer_.complete completion).1 }
    · rfl
  | replace event _ =>
    simp only [handle]
    split <;> rfl
  | other event _ => rfl

namespace SgwServer

/-- `find_route` of a delivery, between the addresses in their international form. -/
def findRoute (s : SgwServer) (request : DeliverSmReq) (source_connection : Bytes) : Except Fault Bytes :=
  s.routing_.findTarget {
    source := source_connection
    srcAddress := convertToInternational (u8 request.smpp.sourceAddrTon) request.smpp.sourceAddr
    destAddress := convertToInternational (u8 request.smpp.destAddrTon) request.smpp.destAddr
    pduType := PacketType.at.toText }

/-- `get_external_client`. -/
def getExternalClient (s : SgwServer) (system_id : Bytes) : Option SendQueue := s.ext_clients_map_.lookup system_id

/-- A client after something has happened to it. -/
def setClient (s : SgwServer) (system_id : Bytes) (client : SendQueue) : SgwServer :=
  { s with ext_clients_map_ := s.ext_clients_map_.insert system_id client }

/-- `deliver_sm::process_resp` with `rinvdstadr`. -/
def reject (s : SgwServer) (deliver_info : DeliverInfo) : SgwServer :=
  { s with rejected := s.rejected ++ [deliver_info.id] }

/-- `send_deliver`. -/
def sendDeliver (s : SgwServer) (deliver_info : DeliverInfo) (request : DeliverSmReq) (source_connection : Bytes) :
    SgwServer :=
  match s.findRoute request source_connection with
  | .error e => { s with ignored := s.ignored ++ [deliver_info.id], fault := some e }
  | .ok client_id =>
    if client_id.isEmpty then s.reject deliver_info
    else
      match s.getExternalClient client_id with
      | none => s.reject deliver_info
      | some ext_client => s.setClient client_id (ext_client.step (.queue deliver_info))

/-- `send_delivery_report`. -/
def sendDeliveryReport (s : SgwServer) (orig_cp_id : Bytes) (deliver_info : DeliverInfo) (turn : SendTurn) :
    SgwServer :=
  match s.getExternalClient orig_cp_id with
  | none => s.reject deliver_info
  | some ext_client => s.setClient orig_cp_id (ext_client.step (.report deliver_info turn))

/-- The `deliver_info` of the next request. -/
def nextInfo (s : SgwServer) (request : DeliverRequest) : DeliverInfo := ⟨s.received, [], CommandStatus.rok, request⟩

/-- A request that comes before the gateway runs. -/
def ignore (s : SgwServer) (deliver_info : DeliverInfo) : SgwServer :=
  { s with ignored := s.ignored ++ [deliver_info.id] }

/-- `deliver_sm::process_req`. -/
def processDeliver (s : SgwServer) (request : DeliverSmReq) (peer_id : Bytes) : SgwServer :=
  let deliver_sm_info := s.nextInfo (.request request)
  if s.run_ then { s with received := s.received + 1 }.sendDeliver deliver_sm_info request peer_id
  else { s with received := s.received + 1 }.ignore deliver_sm_info

/-- `delivery_report::process_req`. -/
def processReport (s : SgwServer) (request : DeliveryReportReq) (source_client_id : Bytes) (turn : SendTurn) :
    SgwServer :=
  let user_data := s.nextInfo (.report request)
  if s.run_ then { s with received := s.received + 1 }.sendDeliveryReport source_client_id user_data turn
  else { s with received := s.received + 1 }.ignore user_data

/-- `on_external_client_insert`, which throws if there is such a client. -/
def onExternalClientInsert (s : SgwServer) (system_id : Bytes) (client : SendQueue) : SgwServer :=
  { s with ext_clients_map_ := s.ext_clients_map_.insertNew system_id client }

/-- `on_external_client_remove`, which throws if there is no such client. -/
def onExternalClientRemove (s : SgwServer) (system_id : Bytes) : SgwServer :=
  match s.getExternalClient system_id with
  | none => s
  | some client => { s with
      ext_clients_map_ := s.ext_clients_map_.erase system_id
      removed := s.removed ++ [client] }

/-- The clients that are alive. -/
def clients (s : SgwServer) : List SendQueue := s.ext_clients_map_.entries.map Sigma.snd ++ s.removed

/-- An exception, or a check that has not returned, has ended the process. -/
def ended (s : SgwServer) : Bool := s.fault.isSome || s.clients.any fun client => client.stop.isSome

/-- What an event makes of a server of a process that has not ended. -/
def handle (s : SgwServer) : ServerEvent → SgwServer
  | .start => { s with run_ := true }
  | .deliver request peer_id => s.processDeliver request peer_id
  | .report request source_client_id turn => s.processReport request source_client_id turn
  | .client system_id event _ =>
    match s.getExternalClient system_id with
    | none => s
    | some client => s.setClient system_id (client.step event)
  | .removedClient i event _ =>
    match s.removed[i]? with
    | none => s
    | some client => { s with removed := s.removed.set i (client.step event) }
  | .insert system_id flow sessions timeout_sec =>
    s.onExternalClientInsert system_id (.start flow (.start sessions timeout_sec))
  | .remove system_id => s.onExternalClientRemove system_id
  | .destroy i =>
    match s.removed[i]? with
    | none => s
    | some client => { s with removed := s.removed.eraseIdx i, gone := s.gone ++ client.places }
  | .route event => { s with routing_ := s.routing_.step event }

/-- What an event makes of the server. -/
def step (s : SgwServer) (e : ServerEvent) : SgwServer := if s.ended then s else s.handle e

/-- A server without clients. -/
def start (routing : RoutingMatcher) : SgwServer where
  run_ := false
  ext_clients_map_ := ∅
  routing_ := routing
  removed := []
  received := 0
  rejected := []
  ignored := []
  gone := []
  fault := none

variable {s t : SgwServer}

/-! ### The clients after an event -/

theorem clients_of_lookup {system_id : Bytes} {client : SendQueue} (h : s.getExternalClient system_id = some client) :
    s.clients.Perm (client :: ((s.ext_clients_map_.erase system_id).entries.map Sigma.snd ++ s.removed)) := by
  obtain ⟨l1, l2, hentries, herase, -⟩ := Table.exists_entries_eq h
  simp only [clients, hentries, herase, List.map_append, List.map_cons, List.append_assoc, List.cons_append]
  exact List.perm_middle

theorem clients_setClient (s : SgwServer) (system_id : Bytes) (client : SendQueue) :
    (s.setClient system_id client).clients =
      client :: ((s.ext_clients_map_.erase system_id).entries.map Sigma.snd ++ s.removed) := by
  rw [clients, setClient, AList.entries_insert]
  rfl

theorem clients_of_removed {i : ℕ} (h : i < s.removed.length) :
    s.clients.Perm (s.removed[i] :: (s.ext_clients_map_.entries.map Sigma.snd ++ s.removed.eraseIdx i)) :=
  ((List.getElem_cons_eraseIdx_perm h).symm.append_left _).trans List.perm_middle

theorem clients_set {i : ℕ} (h : i < s.removed.length) (client : SendQueue) :
    clients { s with removed := s.removed.set i client } |>.Perm
      (client :: (s.ext_clients_map_.entries.map Sigma.snd ++ s.removed.eraseIdx i)) :=
  ((List.set_perm_cons_eraseIdx h client).append_left _).trans List.perm_middle

/-! ### The accounts -/

/-- The numbers of the requests that are not with a client that is alive. -/
def elsewhere (s : SgwServer) : List ℕ := s.rejected ++ (s.ignored ++ s.gone)

/-- Every request was given to one client, or is elsewhere. -/
structure Dispatched (s : SgwServer) : Prop where
  accounted : ∀ client ∈ s.clients, client.Accounted
  given : (s.clients.flatMap SendQueue.given ++ s.elsewhere).Perm (List.range s.received)

/-- A client that is given something, or to which something else happens. -/
theorem Dispatched.replace (h : s.Dispatched) {client client' : SendQueue} {rest : List SendQueue} {new : List ℕ}
    (hclients : s.clients.Perm (client :: rest)) (hclients' : t.clients.Perm (client' :: rest))
    (haccounted : client.Accounted → client'.Accounted) (hgiven : client'.given = client.given ++ new)
    (helsewhere : t.elsewhere = s.elsewhere) (hreceived : (List.range s.received ++ new).Perm (List.range t.received)) :
    t.Dispatched := by
  refine ⟨fun c hc => ?_, .trans ?_ hreceived⟩
  · rcases List.mem_cons.mp (hclients'.mem_iff.mp hc) with rfl | hrest
    · exact haccounted (h.accounted client (hclients.mem_iff.mpr List.mem_cons_self))
    · exact h.accounted c (hclients.mem_iff.mpr (List.mem_cons_of_mem _ hrest))
  · have hbefore := (hclients.flatMap_right SendQueue.given).symm.append_right s.elsewhere |>.trans h.given
    have hafter := hclients'.flatMap_right SendQueue.given
    rw [List.flatMap_cons] at hbefore hafter
    rw [hgiven] at hafter
    rw [helsewhere]
    refine (hafter.append_right _).trans (.trans ?_ (hbefore.append_right new))
    simp only [List.perm_iff_count, List.count_append]
    intro id
    omega

theorem Dispatched.elsewhere (h : s.Dispatched) (hclients : t.clients = s.clients)
    (helsewhere : t.elsewhere.Perm (s.elsewhere ++ [s.received])) (hreceived : t.received = s.received + 1) :
    t.Dispatched := by
  refine ⟨fun c hc => h.accounted c (hclients ▸ hc), ?_⟩
  rw [hclients, hreceived, List.range_succ]
  refine (helsewhere.append_left _).trans ?_
  rw [← List.append_assoc]
  exact h.given.append_right _

theorem Dispatched.clients (h : s.Dispatched) (hclients : t.clients.Perm s.clients)
    (helsewhere : t.elsewhere = s.elsewhere) (hreceived : t.received = s.received) : t.Dispatched := by
  refine ⟨fun c hc => h.accounted c (hclients.mem_iff.mp hc), ?_⟩
  rw [helsewhere, hreceived]
  exact ((hclients.flatMap_right _).append_right _).trans h.given

/-- A client of the map that is given the request that has just come. -/
theorem Dispatched.give (h : s.Dispatched) {system_id : Bytes} {client : SendQueue} {e : SendEvent}
    (hclient : s.getExternalClient system_id = some client)
    (hgiven : (client.step e).given = client.given ++ [s.received]) :
    ({ s with received := s.received + 1 }.setClient system_id (client.step e)).Dispatched := by
  refine h.replace (clients_of_lookup hclient) (.of_eq (clients_setClient _ _ _))
    (fun hc => SendQueue.accounted_step hc e) hgiven rfl ?_
  rw [← List.range_succ]
  exact .refl _

/-- A request that the server answers itself, or leaves. -/
theorem Dispatched.keep (h : s.Dispatched) {rejected ignored : List ℕ} {fault : Option Fault}
    (hkept : (rejected = s.rejected ++ [s.received] ∧ ignored = s.ignored) ∨
      (rejected = s.rejected ∧ ignored = s.ignored ++ [s.received])) :
    Dispatched { s with received := s.received + 1, rejected := rejected, ignored := ignored, fault := fault } := by
  refine h.elsewhere rfl ?_ rfl
  rcases hkept with ⟨rfl, rfl⟩ | ⟨rfl, rfl⟩ <;>
    simp only [SgwServer.elsewhere, List.perm_iff_count, List.count_append] <;> intro id <;> omega

theorem dispatched_handle (h : s.Dispatched) (hended : s.ended = false) (e : ServerEvent) :
    (s.handle e).Dispatched := by
  have hrunning : ∀ c ∈ s.clients, c.stop = none := by
    intro c hc
    have hstop := List.any_eq_false.mp (Bool.or_eq_false_iff.mp hended).2 c hc
    exact Option.not_isSome_iff_eq_none.mp hstop
  have hrunning_lookup {system_id : Bytes} {client : SendQueue}
      (hclient : s.getExternalClient system_id = some client) : client.stop = none :=
    hrunning client ((clients_of_lookup hclient).mem_iff.mpr List.mem_cons_self)
  cases e with
  | start => exact h.clients (.refl _) rfl rfl
  | deliver request peer_id =>
    simp only [handle, processDeliver]
    by_cases hrun : s.run_ = true
    · rw [if_pos hrun]
      unfold sendDeliver
      split
      · exact h.keep (.inr ⟨rfl, rfl⟩)
      · split
        · exact h.keep (.inl ⟨rfl, rfl⟩)
        · split
          · exact h.keep (.inl ⟨rfl, rfl⟩)
          · rename_i client hclient
            exact h.give hclient (SendQueue.given_step_queue (hrunning_lookup hclient) _)
    · rw [if_neg hrun]
      exact h.keep (.inr ⟨rfl, rfl⟩)
  | report request source_client_id turn =>
    simp only [handle, processReport]
    by_cases hrun : s.run_ = true
    · rw [if_pos hrun]
      unfold sendDeliveryReport
      split
      · exact h.keep (.inl ⟨rfl, rfl⟩)
      · rename_i client hclient
        exact h.give hclient (SendQueue.given_step_report (hrunning_lookup hclient) _ _)
    · rw [if_neg hrun]
      exact h.keep (.inr ⟨rfl, rfl⟩)
  | client system_id event hown =>
    simp only [handle]
    split
    · exact h
    · rename_i client hclient
      exact h.replace (clients_of_lookup hclient) (.of_eq (clients_setClient _ _ _))
        (fun hc => SendQueue.accounted_step hc event)
        ((client.given_step_own hown).trans (List.append_nil _).symm) rfl (.of_eq (List.append_nil _))
  | removedClient i event hown =>
    simp only [handle]
    split
    · exact h
    · rename_i client hclient
      obtain ⟨hlt, rfl⟩ := List.getElem?_eq_some_iff.mp hclient
      exact h.replace (clients_of_removed hlt) (clients_set hlt _) (fun hc => SendQueue.accounted_step hc event)
        ((SendQueue.given_step_own _ hown).trans (List.append_nil _).symm) rfl (.of_eq (List.append_nil _))
  | insert system_id flow sessions timeout_sec =>
    by_cases hmem : system_id ∈ s.ext_clients_map_
    · simp only [handle, onExternalClientInsert, Table.insertNew_of_mem hmem]
      exact h
    · have hclients : (s.handle (.insert system_id flow sessions timeout_sec)).clients =
          .start flow (.start sessions timeout_sec) :: s.clients := by
        simp only [handle, onExternalClientInsert, clients, Table.entries_insertNew hmem, List.map_cons,
          List.cons_append]
      refine ⟨?_, ?_⟩
      · rw [hclients]
        exact List.forall_mem_cons.mpr ⟨SendQueue.accounted_start flow sessions timeout_sec, h.accounted⟩
      · rw [hclients, List.flatMap_cons]
        exact h.given
  | remove system_id =>
    simp only [handle, onExternalClientRemove]
    split
    · exact h
    · rename_i client hclient
      refine h.clients (.trans ?_ (clients_of_lookup hclient).symm) rfl rfl
      simp only [clients, ← List.append_assoc]
      exact List.perm_append_singleton _ _
  | destroy i =>
    simp only [handle]
    split
    · exact h
    · rename_i client hclient
      obtain ⟨hlt, rfl⟩ := List.getElem?_eq_some_iff.mp hclient
      have hclients := clients_of_removed (s := s) hlt
      refine ⟨fun c hc => h.accounted c (hclients.mem_iff.mpr (List.mem_cons_of_mem _ hc)), .trans ?_ h.given⟩
      have hplaces := (h.accounted _ (hclients.mem_iff.mpr List.mem_cons_self)).places
      have hbefore := hclients.flatMap_right SendQueue.given
      rw [List.flatMap_cons] at hbefore
      refine .trans ?_ (hbefore.symm.append_right _)
      simp only [List.perm_iff_count, elsewhere, List.count_append] at hplaces ⊢
      intro id
      have hcount := hplaces id
      simp only [clients]
      omega
  | route event => exact h.clients (.refl _) rfl rfl

theorem dispatched_step (h : s.Dispatched) (e : ServerEvent) : (s.step e).Dispatched := by
  unfold step
  split
  · exact h
  · rename_i hended
    exact dispatched_handle h (Bool.eq_false_iff.mpr hended) e

/-- **The requests of the backends**, in every run: each is in exactly one place. It is with one client, where it waits
in the queue or for a response, or has been answered, or was sent under a number that was armed already; or it was
answered with `rinvdstadr`, or ignored, or a client that was removed still had it when it was destroyed. -/
theorem handedOn_run (routing : RoutingMatcher) (events : List ServerEvent) :
    let s := run step (start routing) events
    (s.clients.flatMap SendQueue.places ++ (s.rejected ++ (s.ignored ++ s.gone))).Perm (List.range s.received) := by
  have hrun : (run step (start routing) events).Dispatched :=
    (along_true fun _ _ => trivial).invariant (G := fun _ _ => True) (fun _ e h _ => dispatched_step h e)
      ⟨List.forall_mem_nil _, .refl _⟩
  refine .trans (List.Perm.append_right _ ?_) hrun.given
  exact List.Perm.flatMap_left _ fun client hclient => (hrun.accounted client hclient).places

end SgwServer

end SmppGateway.Gateway
