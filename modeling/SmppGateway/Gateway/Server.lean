import SmppGateway.Gateway.ConnectionEvents

/-!
# The sessions of the server

`pa::smpp::server` keeps a session that it has accepted in `binding_sessions_`, until it closes or its bind is
answered `rok`; then `sgw_server::on_bind` gives it to an external client, which keeps it in `binded_sessions_` until
it closes.

## The model

* Sessions and clients are numbered as they are made. A session holds the place that it has in `binding_sessions_` as
  long as its close handler is that of the server, and the client that it was given to even when the configuration
  has removed the client from `ext_clients_map_`.
* Each session is a `Connection` that finds the clients of the server in its map, and its events come in any order
  with those of the others. `close` posts a copy of the close handler, and the copy is called; as that happens once,
  the handler is not emptied afterwards.
* Of a client only its gauges are here beside what a bind looks at; of its `on_session_close`, not `expire_all`.

## What is proved

* `KeepsSessions.lookup_table_handOver` — a bind makes the same of the clients here as in its `Connection`.
* `keepers_run` — in every run each session has one keeper until it has closed.
-/

namespace SmppGateway.Gateway

open Foundation Net Smpp

/-! ### The server -/

/-- The function that `close_handler` holds. -/
inductive CloseHandler where
  /-- None. -/
  | empty
  /-- `server::on_binding_session_close`, with the place of the session in `binding_sessions_`. -/
  | bindingSession
  /-- `sgw_external_client::on_session_close` of a client. -/
  | client (k : ℕ)
  deriving DecidableEq

/-- A session that was accepted. -/
structure AcceptedSession where
  connection : Connection
  close_handler : CloseHandler
  /-- The copy of `close_handler` that `close` has posted. -/
  posted_handler : Option CloseHandler

/-- A session after an event of it: `close` posts a copy of the handler. -/
def AcceptedSession.goesOn (p : AcceptedSession) (c : Connection) : AcceptedSession :=
  { p with
    connection := c
    posted_handler :=
      if p.connection.session.state_ ≠ .closed ∧ c.session.state_ = .closed then some p.close_handler
      else p.posted_handler }

/-- `sgw_external_client`, with what it shows of its sessions. -/
structure ExternalClient where
  system_id_ : Bytes
  client : SgwExternalClient
  connected_connections_ : ℤ
  uptime_ : Bool

/-- `pa::smpp::server`, and what of `sgw_server` is behind its handlers. -/
structure Server where
  system_id_ : Bytes
  /-- How many sessions were accepted. -/
  accepted : ℕ
  sessions : ℕ → AcceptedSession
  binding_sessions_ : Finset ℕ
  ext_clients_map_ : Table Bytes ℕ
  /-- How many clients were created. -/
  created : ℕ
  clients : ℕ → ExternalClient
  /-- What the server or a client does wrong. -/
  fault : Option Fault

/-- What may happen to the server. -/
inductive AcceptorEvent where
  /-- A connection is accepted. -/
  | accept (endpoint : Option Bytes)
  /-- An event of a session. -/
  | session (i : ℕ) (e : Event dialect)
  /-- A change of what `remote_endpoint` finds. -/
  | endpoint (i : ℕ) (ip : Option Bytes)
  /-- `on_external_client_insert`. -/
  | insert (system_id : Bytes) (options : SgwExternalClient)
  /-- `on_external_client_remove`. What `stop` does to the sessions of the client are events of theirs. -/
  | remove (system_id : Bytes)
  /-- The configuration of a client changes. -/
  | configure (k : ℕ) (options : SgwExternalClient)

namespace ExternalClient

/-- A client without sessions. -/
def create (system_id : Bytes) (options : SgwExternalClient) : ExternalClient :=
  ⟨system_id, { options with binded_sessions_ := ∅ }, 0, false⟩

/-- A change of the configuration. -/
def configure (c : ExternalClient) (options : SgwExternalClient) : ExternalClient :=
  { c with client := { options with binded_sessions_ := c.client.binded_sessions_ } }

/-- `check_permision`, when it permits a bind, and then `set_session`. -/
def takeOver (c : ExternalClient) (session : ℕ) : ExternalClient :=
  { c with
    client := c.client.setSession session
    connected_connections_ := c.connected_connections_ + 1
    uptime_ := true }

/-- `on_session_close`. -/
def onSessionClose (c : ExternalClient) (session : ℕ) : ExternalClient :=
  if session ∈ c.client.binded_sessions_ then
    let client := c.client.onSessionClose session
    { c with
      client := client
      connected_connections_ := c.connected_connections_ - 1
      uptime_ := if client.binded_sessions_ = ∅ then false else c.uptime_ }
  else c

end ExternalClient

namespace Server

/-- The clients that the map names. -/
def table (s : Server) : Table Bytes SgwExternalClient := s.ext_clients_map_.map fun k => (s.clients k).client

/-- The session of an accepted connection is changed. -/
def setSession (s : Server) (i : ℕ) (p : AcceptedSession) : Server :=
  { s with sessions := Function.update s.sessions i p }

/-- An external client is changed. -/
def setClient (s : Server) (k : ℕ) (c : ExternalClient) : Server :=
  { s with clients := Function.update s.clients k c }

@[simp]
theorem sessions_setSession (s : Server) (i : ℕ) (p : AcceptedSession) :
    (s.setSession i p).sessions = Function.update s.sessions i p := rfl

@[simp]
theorem clients_setSession (s : Server) (i : ℕ) (p : AcceptedSession) : (s.setSession i p).clients = s.clients := rfl

@[simp]
theorem binding_sessions_setSession (s : Server) (i : ℕ) (p : AcceptedSession) :
    (s.setSession i p).binding_sessions_ = s.binding_sessions_ := rfl

@[simp]
theorem binding_sessions_setClient (s : Server) (k : ℕ) (c : ExternalClient) :
    (s.setClient k c).binding_sessions_ = s.binding_sessions_ := rfl

/-- `close_handler` of a session is assigned. -/
def setHandler (s : Server) (i : ℕ) (handler : CloseHandler) : Server :=
  s.setSession i { s.sessions i with close_handler := handler }

/-- `binding_sessions_.erase` at the place of a session, which has to be there. -/
def eraseBinding (s : Server) (i : ℕ) : Server :=
  if i ∈ s.binding_sessions_ then { s with binding_sessions_ := s.binding_sessions_.erase i }
  else { s with fault := some .outOfBounds }

/-- `on_bind`. -/
def onBind (s : Server) (i : ℕ) (request : BindRequest) : Server :=
  match s.ext_clients_map_.lookup request.systemId with
  | none => s
  | some k => (s.setClient k ((s.clients k).takeOver i)).setHandler i (.client k)

/-- The end of `on_binding_session_request`, when the bind is answered `rok`. -/
def handOver (s : Server) (i : ℕ) (request : BindRequest) : Server :=
  ((s.setHandler i .empty).onBind i request).eraseBinding i

/-- The call of a close handler. -/
def onClose (s : Server) (i : ℕ) : Server :=
  match (s.sessions i).posted_handler with
  | some .bindingSession => s.eraseBinding i
  | some (.client k) => s.setClient k ((s.clients k).onSessionClose i)
  -- `std::bad_function_call`
  | _ => { s with fault := some (.exception (ascii "bad_function_call")) }

/-- A connection, which finds the clients of the server. -/
def connection (s : Server) (i : ℕ) : Connection := { (s.sessions i).connection with ext_clients_map_ := s.table }

/-- An event of a session, and what the server and the clients do when it calls their handlers. -/
def onSession (s : Server) (i : ℕ) (e : Event dialect) : Server :=
  let c := s.connection i
  let c' := c.step (.session e)
  let s := s.setSession i ((s.sessions i).goesOn c')
  match c'.answers.drop c.answers.length, c'.session.called.drop c.session.called.length with
  | [a], _ => if a.status = CommandStatus.rok then s.handOver i a.request else s
  | _, [.close _] => s.onClose i
  | _, _ => s

/-- What an event makes of the server of a process that has not ended. -/
def handle (s : Server) : AcceptorEvent → Server
  | .accept endpoint =>
    { s.setSession s.accepted ⟨.onAccept s.accepted s.system_id_ s.table endpoint, .bindingSession, none⟩ with
      accepted := s.accepted + 1
      binding_sessions_ := insert s.accepted s.binding_sessions_ }
  | .session i e => if i < s.accepted then s.onSession i e else s
  | .endpoint i ip =>
    let p := s.sessions i
    s.setSession i { p with connection := p.connection.step (.endpoint ip) }
  | .insert system_id options =>
    if system_id ∈ s.ext_clients_map_ then s
    else
      { s.setClient s.created (.create system_id options) with
        ext_clients_map_ := s.ext_clients_map_.insert system_id s.created
        created := s.created + 1 }
  | .remove system_id => { s with ext_clients_map_ := s.ext_clients_map_.erase system_id }
  | .configure k options => s.setClient k ((s.clients k).configure options)

/-- An exception that has left a handler, or a fault, has ended the process. -/
def ended (s : Server) : Bool :=
  s.fault.isSome || (List.range s.accepted).any fun i =>
    (s.sessions i).connection.terminated || (s.sessions i).connection.session.fault.isSome

/-- What an event makes of the server. -/
def step (s : Server) (e : AcceptorEvent) : Server := if s.ended then s else s.handle e

/-- A server without clients, to which nobody has connected. -/
def start (system_id : Bytes) : Server where
  system_id_ := system_id
  accepted := 0
  sessions i := ⟨.onAccept i system_id ∅ none, .empty, none⟩
  binding_sessions_ := ∅
  ext_clients_map_ := ∅
  created := 0
  clients _ := .create [] ⟨[], [], false, [], [], false, 0, ∅⟩
  fault := none

end Server

/-! ### Who keeps a session -/

namespace AcceptedSession

/-- Whose handler is called when the session closes, until it has been called. -/
def keeper (p : AcceptedSession) : CloseHandler := if p.connection.closings = [] then p.close_handler else .empty

/-- The session is in order. -/
structure InOrder (p : AcceptedSession) : Prop where
  sound : p.connection.Sound
  posted : p.posted_handler = if p.connection.session.state_ = .closed then some p.close_handler else none
  refused : p.close_handler = .bindingSession → ∀ a ∈ p.connection.answers, a.status ≠ CommandStatus.rok

theorem InOrder.goesOn {p : AcceptedSession} (h : p.InOrder) {c : Connection} (hfollows : p.connection.Follows c)
    (hrefused : p.close_handler = .bindingSession → ∀ a ∈ c.answers, a.status ≠ CommandStatus.rok) :
    (p.goesOn c).InOrder where
  sound := hfollows.sound
  posted := by
    simp only [AcceptedSession.goesOn, h.posted]
    by_cases hbefore : p.connection.session.state_ = .closed
    · simp [hbefore, hfollows.closed hbefore]
    · simp [hbefore]
  refused := hrefused

theorem keeper_eq_iff {p : AcceptedSession} {handler : CloseHandler} (h : handler ≠ .empty) :
    p.keeper = handler ↔ p.close_handler = handler ∧ p.connection.closings = [] := by
  unfold keeper
  split
  · rename_i hnone
    exact ⟨fun heq => ⟨heq, hnone⟩, And.left⟩
  · rename_i hsome
    exact ⟨fun heq => absurd heq.symm h, fun heq => absurd heq.2 hsome⟩

end AcceptedSession

namespace ExternalClient

variable {c : ExternalClient} {session : ℕ}

/-- The gauges of a client say how many sessions it has. -/
structure Counts (c : ExternalClient) : Prop where
  connected : c.connected_connections_ = c.client.binded_sessions_.card
  up : c.uptime_ = true ↔ c.client.binded_sessions_.Nonempty

theorem counts_create (system_id : Bytes) (options : SgwExternalClient) : (create system_id options).Counts where
  connected := rfl
  up := by simp [create]

theorem mem_takeOver {j : ℕ} :
    j ∈ (c.takeOver session).client.binded_sessions_ ↔ j = session ∨ j ∈ c.client.binded_sessions_ := by
  simp [takeOver, SgwExternalClient.setSession]

theorem Counts.takeOver (h : c.Counts) (hnew : session ∉ c.client.binded_sessions_) :
    (c.takeOver session).Counts where
  connected := by
    simp [ExternalClient.takeOver, SgwExternalClient.setSession, Finset.card_insert_of_notMem hnew, h.connected]
  up := by simp [ExternalClient.takeOver, SgwExternalClient.setSession]

theorem mem_onSessionClose {j : ℕ} :
    j ∈ (c.onSessionClose session).client.binded_sessions_ ↔ j ≠ session ∧ j ∈ c.client.binded_sessions_ := by
  unfold onSessionClose
  split
  · simp [SgwExternalClient.onSessionClose]
  · rename_i hnone
    exact ⟨fun hj => ⟨fun heq => hnone (heq ▸ hj), hj⟩, And.right⟩

theorem Counts.onSessionClose (h : c.Counts) : (c.onSessionClose session).Counts := by
  unfold ExternalClient.onSessionClose
  split
  · rename_i hmem
    refine ⟨?_, ?_⟩
    · have hcard := Finset.card_erase_add_one hmem
      simp only [SgwExternalClient.onSessionClose, h.connected]
      omega
    · by_cases hempty : (c.client.onSessionClose session).binded_sessions_ = ∅
      · simp [hempty]
      · simp only [if_neg hempty, h.up]
        exact ⟨fun _ => Finset.nonempty_iff_ne_empty.mpr hempty, fun _ => ⟨session, hmem⟩⟩
  · exact h

end ExternalClient

namespace Server

/-- **Who keeps a session**: the set of the server or of the client whose close handler it has, and nobody once
that was called. -/
structure KeepsSessions (s : Server) : Prop where
  sessions : ∀ i, (s.sessions i).InOrder
  id : ∀ i, (s.sessions i).connection.id = i
  clients : ∀ k, (s.clients k).Counts
  accepted : ∀ i, (s.sessions i).close_handler = .empty ↔ s.accepted ≤ i
  binding : ∀ i, i ∈ s.binding_sessions_ ↔ (s.sessions i).keeper = .bindingSession
  bound : ∀ i k, i ∈ (s.clients k).client.binded_sessions_ ↔ (s.sessions i).keeper = .client k
  named : ∀ i k, (s.sessions i).close_handler = .client k → k < s.created ∧
    ∃ a ∈ (s.sessions i).connection.answers,
      a.status = CommandStatus.rok ∧ a.request.systemId = (s.clients k).system_id_
  map : ∀ system_id k, s.ext_clients_map_.lookup system_id = some k →
    k < s.created ∧ (s.clients k).system_id_ = system_id
  fault : s.fault = none

variable {s : Server} {i : ℕ}

/-- A session that has not been accepted. -/
theorem keeper_start (system_id : Bytes) (i : ℕ) : ((start system_id).sessions i).keeper = .empty := ite_self _

theorem keepsSessions_start (system_id : Bytes) : (start system_id).KeepsSessions where
  sessions i := ⟨Connection.sound_onAccept i system_id ∅ none, rfl, nofun⟩
  id i := rfl
  clients _ := ExternalClient.counts_create _ _
  accepted i := by simp [start]
  binding i := by
    rw [keeper_start]
    exact ⟨fun h => absurd h (Finset.notMem_empty i), nofun⟩
  bound i k := by
    rw [keeper_start]
    exact ⟨fun h => absurd h (Finset.notMem_empty i), nofun⟩
  named i k h := nomatch h
  map system_id k h := by simp [start] at h
  fault := rfl

/-- **One session changes**, and whoever kept it or keeps it now. -/
theorem KeepsSessions.of_update (h : s.KeepsSessions) {s' : Server} {p : AcceptedSession} (hp : p.InOrder)
    (hid : p.connection.id = i) (hclients : ∀ k, (s'.clients k).Counts)
    (hsessions : s'.sessions = Function.update s.sessions i p)
    (haccepted : ∀ j, (Function.update s.sessions i p j).close_handler = .empty ↔ s'.accepted ≤ j)
    (hbinding : ∀ j, j ∈ s'.binding_sessions_ ↔
      if j = i then p.keeper = .bindingSession else j ∈ s.binding_sessions_)
    (hbound : ∀ j k, j ∈ (s'.clients k).client.binded_sessions_ ↔
      if j = i then p.keeper = .client k else j ∈ (s.clients k).client.binded_sessions_)
    (hnamed : ∀ k, p.close_handler = .client k → k < s.created ∧
      ∃ a ∈ p.connection.answers, a.status = CommandStatus.rok ∧ a.request.systemId = (s.clients k).system_id_)
    (hname : ∀ k, (s'.clients k).system_id_ = (s.clients k).system_id_)
    (hmap : s'.ext_clients_map_ = s.ext_clients_map_) (hcreated : s'.created = s.created)
    (hfault : s'.fault = none) : s'.KeepsSessions where
  sessions := by
    rw [hsessions]
    exact (Function.forall_update_iff _ fun _ (q : AcceptedSession) => q.InOrder).mpr ⟨hp, fun j _ => h.sessions j⟩
  id := by
    rw [hsessions]
    exact (Function.forall_update_iff _ fun j (q : AcceptedSession) => q.connection.id = j).mpr
      ⟨hid, fun j _ => h.id j⟩
  clients := hclients
  accepted j := by rw [hsessions, haccepted]
  binding j := by
    rw [hbinding, hsessions, Function.update_apply]
    split
    · rfl
    · exact h.binding j
  bound j k := by
    rw [hbound, hsessions, Function.update_apply]
    split
    · rfl
    · exact h.bound j k
  named j k := by
    rw [hsessions, hcreated, hname, Function.update_apply]
    split
    · exact hnamed k
    · exact h.named j k
  map system_id k hlookup := by
    rw [hmap] at hlookup
    rw [hcreated, hname]
    exact h.map system_id k hlookup
  fault := hfault

/-- A session that stays with its keeper. -/
theorem KeepsSessions.of_session (h : s.KeepsSessions) {p : AcceptedSession} (hp : p.InOrder)
    (hid : p.connection.id = (s.sessions i).connection.id)
    (hhandler : p.close_handler = (s.sessions i).close_handler)
    (hclosings : p.connection.closings = (s.sessions i).connection.closings)
    (hanswers : ∀ a ∈ (s.sessions i).connection.answers, a ∈ p.connection.answers) :
    (s.setSession i p).KeepsSessions := by
  have hkeeper : p.keeper = (s.sessions i).keeper := by simp only [AcceptedSession.keeper, hhandler, hclosings]
  refine h.of_update (i := i) (p := p) hp (hid.trans (h.id i)) h.clients rfl (fun j => ?_) (fun j => ?_)
    (fun j k => ?_) (fun k hk => ?_) (fun k => rfl) rfl rfl h.fault
  · rw [Function.update_apply]
    split
    · rename_i hj
      rw [hhandler, hj]
      exact h.accepted i
    · exact h.accepted j
  · split
    · rename_i hj
      rw [hkeeper, hj]
      exact h.binding i
    · rfl
  · split
    · rename_i hj
      rw [hkeeper, hj]
      exact h.bound i k
    · rfl
  · obtain ⟨hcreated, a, ha, hnamed⟩ := h.named i k (hhandler ▸ hk)
    exact ⟨hcreated, a, hanswers a ha, hnamed⟩

/-- The answer `rok` gives the session to the client that the bind named. -/
theorem handOver_eq {p : AcceptedSession} {request : BindRequest} {k : ℕ}
    (hclient : s.ext_clients_map_.lookup request.systemId = some k) (hbinding : i ∈ s.binding_sessions_) :
    (s.setSession i p).handOver i request =
      { (s.setSession i { p with close_handler := .client k }).setClient k ((s.clients k).takeOver i) with
        binding_sessions_ := s.binding_sessions_.erase i } := by
  simp [handOver, onBind, eraseBinding, setHandler, setSession, setClient, hclient, hbinding]

/-- **A session is handed over** to a client. -/
theorem KeepsSessions.of_handOver (h : s.KeepsSessions) (hbinding : (s.sessions i).close_handler = .bindingSession)
    (hclosings : (s.sessions i).connection.closings = []) {k : ℕ} {a : BindAnswer}
    (hclient : s.ext_clients_map_.lookup a.request.systemId = some k) (hrok : a.status = CommandStatus.rok)
    {p : AcceptedSession} (hsound : p.connection.Sound) (hid : p.connection.id = (s.sessions i).connection.id)
    (hopen : p.connection.session.state_ = .opened)
    (hposted : p.posted_handler = none) (hanswers : p.connection.answers = [a]) :
    ((s.setSession i p).handOver i a.request).KeepsSessions := by
  have hkeeper : (s.sessions i).keeper = .bindingSession :=
    (AcceptedSession.keeper_eq_iff (by decide)).mpr ⟨hbinding, hclosings⟩
  have hmem : i ∈ s.binding_sessions_ := (h.binding i).mpr hkeeper
  have hnone (m : ℕ) : i ∉ (s.clients m).client.binded_sessions_ := by
    rw [h.bound, hkeeper]
    exact nofun
  obtain ⟨hcreated, hname⟩ := h.map _ _ hclient
  have hnew : AcceptedSession.keeper { p with close_handler := .client k } = .client k :=
    (AcceptedSession.keeper_eq_iff (by simp)).mpr ⟨rfl, hsound.closings_eq_nil (by rw [hopen]; decide)⟩
  rw [handOver_eq hclient hmem]
  refine h.of_update (i := i) (p := { p with close_handler := .client k }) ⟨hsound, ?_, nofun⟩
    (hid.trans (h.id i)) ?_ rfl ?_ ?_ ?_ ?_ ?_
    rfl rfl h.fault
  · simp [hopen, hposted]
  · refine (Function.forall_update_iff _ fun _ (c : ExternalClient) => c.Counts).mpr
      ⟨(h.clients k).takeOver (hnone k), fun m _ => h.clients m⟩
  · intro j
    have haccepted := h.accepted j
    rw [Function.update_apply]
    split
    · rename_i hj
      rw [hj, hbinding] at haccepted
      rw [hj]
      exact ⟨nofun, fun hle => nomatch haccepted.mpr hle⟩
    · exact haccepted
  · intro j
    rw [hnew]
    split
    · rename_i hj
      simp [hj]
    · rename_i hj
      simp [hj]
  · intro j m
    rw [hnew]
    simp only [setClient, Function.update_apply]
    by_cases hm : m = k
    · subst hm
      rw [if_pos rfl, ExternalClient.mem_takeOver]
      by_cases hj : j = i <;> simp [hj]
    · rw [if_neg hm]
      by_cases hj : j = i
      · simp [hj, hnone m, Ne.symm hm]
      · simp [hj]
  · intro m hm
    cases hm
    exact ⟨hcreated, a, by simp [hanswers], hrok, hname.symm⟩
  · intro m
    simp only [setClient, Function.update_apply]
    split
    · rename_i hm
      rw [hm]
      rfl
    · rfl

/-- **The server and the connection agree** on what a bind makes of the clients. -/
theorem KeepsSessions.lookup_table_handOver (h : s.KeepsSessions) (hbinding : i ∈ s.binding_sessions_)
    {p : AcceptedSession} {a : BindAnswer} (hrok : a.status = CommandStatus.rok) {c' : Connection}
    (hgives : (s.connection i).Gives a c') (system_id : Bytes) :
    ((s.setSession i p).handOver i a.request).table.lookup system_id = c'.ext_clients_map_.lookup system_id := by
  obtain ⟨ext_client, hlookup, hmap⟩ := hgives hrok
  rw [connection, table, Table.lookup_map, Option.map_eq_some_iff] at hlookup
  obtain ⟨k, hclient, rfl⟩ := hlookup
  have hid : (s.connection i).id = i := h.id i
  rw [hmap, hid, handOver_eq hclient hbinding, table, Table.lookup_map]
  by_cases hname : system_id = a.request.systemId
  · rw [hname, AList.lookup_insert]
    simp [setClient, setSession, hclient, ExternalClient.takeOver]
  · rw [AList.lookup_insert_ne hname, connection, table, Table.lookup_map]
    refine Option.map_congr fun m hm => ?_
    have hother : m ≠ k := by
      rintro rfl
      exact hname ((h.map _ _ hm).2.symm.trans (h.map _ _ hclient).2)
    simp [setClient, hother]

/-- **A session has closed**: the copy of its handler that was posted is that of its keeper. -/
theorem KeepsSessions.of_close (h : s.KeepsSessions) (haccepted : i < s.accepted)
    (hfirst : (s.sessions i).connection.closings = []) {p : AcceptedSession} (hp : p.InOrder)
    (hid : p.connection.id = (s.sessions i).connection.id)
    (hhandler : p.close_handler = (s.sessions i).close_handler) (hclosed : p.connection.session.state_ = .closed)
    (hclosings : p.connection.closings ≠ [])
    (hanswers : p.connection.answers = (s.sessions i).connection.answers) :
    ((s.setSession i p).onClose i).KeepsSessions := by
  have hkeeper : p.keeper = .empty := if_neg hclosings
  have hposted : ((s.setSession i p).sessions i).posted_handler = some (s.sessions i).close_handler := by
    rw [sessions_setSession, Function.update_self, hp.posted, if_pos hclosed, hhandler]
  have hempty (j : ℕ) : (Function.update s.sessions i p j).close_handler = .empty ↔ s.accepted ≤ j := by
    rw [Function.update_apply]
    split
    · rename_i hj
      rw [hhandler, hj]
      exact h.accepted i
    · exact h.accepted j
  have hnamed (k : ℕ) (hk : p.close_handler = .client k) : k < s.created ∧ ∃ a ∈ p.connection.answers,
      a.status = CommandStatus.rok ∧ a.request.systemId = (s.clients k).system_id_ := by
    rw [hanswers]
    exact h.named i k (hhandler ▸ hk)
  have hbinding := h.binding i
  have hbound := h.bound i
  simp only [AcceptedSession.keeper, hfirst, if_true] at hbinding hbound
  unfold onClose
  rw [hposted]
  cases hold : (s.sessions i).close_handler with
  | empty => exact absurd ((h.accepted i).mp hold) (Nat.not_le.mpr haccepted)
  | bindingSession =>
    rw [hold] at hbinding hbound
    have hmem : i ∈ (s.setSession i p).binding_sessions_ := hbinding.mpr rfl
    simp only [eraseBinding, if_pos hmem]
    refine h.of_update (i := i) (p := p) hp (hid.trans (h.id i)) h.clients rfl hempty (fun j => ?_)
      (fun j k => ?_) hnamed (fun k => rfl) rfl rfl h.fault
    · rw [hkeeper]
      by_cases hj : j = i <;> simp [hj]
    · rw [hkeeper]
      split
      · rename_i hj
        rw [hj]
        simpa using hbound k
      · rfl
  | client k =>
    rw [hold] at hbinding hbound
    simp only [clients_setSession]
    refine h.of_update (i := i) (p := p) hp (hid.trans (h.id i)) ?_ rfl hempty (fun j => ?_)
      (fun j m => ?_) hnamed (fun m => ?_) rfl rfl h.fault
    · exact (Function.forall_update_iff _ fun _ (c : ExternalClient) => c.Counts).mpr
        ⟨(h.clients k).onSessionClose, fun m _ => h.clients m⟩
    · rw [hkeeper]
      split
      · rename_i hj
        rw [hj]
        simpa using hbinding
      · rfl
    · rw [hkeeper]
      simp only [setClient, Function.update_apply]
      by_cases hm : m = k
      · subst hm
        rw [if_pos rfl, ExternalClient.mem_onSessionClose]
        by_cases hj : j = i <;> simp [hj]
      · rw [if_neg hm]
        by_cases hj : j = i
        · have hother := hbound m
          simpa [hj, Ne.symm hm] using hother
        · simp [hj]
    · simp only [setClient, Function.update_apply]
      split
      · rename_i hm
        rw [hm]
        unfold ExternalClient.onSessionClose
        split <;> rfl
      · rfl

/-- **An event of a session** leaves it with its keeper, hands it over or has it closed. -/
theorem keepsSessions_onSession (h : s.KeepsSessions) (haccepted : i < s.accepted) (e : Event dialect) :
    (s.onSession i e).KeepsSessions := by
  have hi := h.sessions i
  have hc : (s.connection i).Sound :=
    ⟨⟨hi.sound.gate.permitted, hi.sound.gate.phase⟩, hi.sound.orderly, hi.sound.sourced, hi.sound.notified⟩
  obtain ⟨⟨hid, hsound, hclosed⟩, hconcerns⟩ := Connection.concerns_step hc e
  unfold onSession
  simp only
  generalize (s.connection i).step (.session e) = c' at hid hsound hclosed hconcerns ⊢
  have hfollows : (s.sessions i).connection.Follows c' := ⟨hid, hsound, hclosed⟩
  cases hconcerns with
  | nothing hanswers hclosings hcalled =>
    have hkept : (s.setSession i ((s.sessions i).goesOn c')).KeepsSessions := by
      refine h.of_session (hi.goesOn hfollows fun hbinding => ?_) hid rfl hclosings fun a ha => ?_
      · rw [hanswers]
        exact hi.refused hbinding
      · exact hanswers ▸ ha
    -- `hcalled` excludes the case of a call of the close handler.
    simp only [hanswers, List.drop_length]
    exact hkept
  | bind hfirst a hanswers hgives hopen hcalled =>
    have hnew : c'.closings = [] := hsound.closings_eq_nil (by rw [hopen]; decide)
    have hstill : (s.sessions i).connection.session.state_ ≠ .closed := by
      intro hbefore
      rw [hclosed hbefore] at hopen
      cases hopen
    have hnone : (s.sessions i).connection.answers = [] := hfirst
    have hold : (s.sessions i).connection.closings = [] := hi.sound.closings_eq_nil hstill
    simp only [hanswers, hfirst, List.length_nil, List.drop_zero]
    split
    · rename_i hstatus
      have hbinding : (s.sessions i).close_handler = .bindingSession := by
        cases hhandler : (s.sessions i).close_handler with
        | empty => exact absurd ((h.accepted i).mp hhandler) (Nat.not_le.mpr haccepted)
        | bindingSession => rfl
        | client k =>
          obtain ⟨-, b, hb, -⟩ := h.named i k hhandler
          rw [hnone] at hb
          cases hb
      obtain ⟨k, hclient⟩ : ∃ k, s.ext_clients_map_.lookup a.request.systemId = some k := by
        obtain ⟨ext_client, hlookup, -⟩ := hgives hstatus
        rw [connection, table, Table.lookup_map, Option.map_eq_some_iff] at hlookup
        exact hlookup.imp fun k hk => hk.1
      refine h.of_handOver hbinding hold hclient hstatus hsound hid hopen ?_ hanswers
      simp [AcceptedSession.goesOn, hopen, hi.posted, hstill]
    · rename_i hstatus
      refine h.of_session (hi.goesOn hfollows fun _ => ?_) hid rfl (hnew.trans hold.symm) fun b hb => ?_
      · rw [hanswers]
        simpa using hstatus
      · rw [hnone] at hb
        cases hb
  | close hanswers hfirst error hcalled hclosings hstate =>
    simp only [hanswers, List.drop_length, hcalled]
    exact h.of_close haccepted hfirst (hi.goesOn hfollows fun hbinding => hanswers ▸ hi.refused hbinding) hid rfl
      hstate (by rw [AcceptedSession.goesOn, hclosings]; simp) hanswers

/-- A connection is accepted. -/
theorem keepsSessions_accept (h : s.KeepsSessions) (endpoint : Option Bytes) :
    (s.handle (.accept endpoint)).KeepsSessions := by
  have hnew := Connection.sound_onAccept s.accepted s.system_id_ s.table endpoint
  have hkeeper : AcceptedSession.keeper
      ⟨.onAccept s.accepted s.system_id_ s.table endpoint, .bindingSession, none⟩ = .bindingSession :=
    (AcceptedSession.keeper_eq_iff (by decide)).mpr ⟨rfl, rfl⟩
  have hbefore : (s.sessions s.accepted).close_handler = .empty := (h.accepted _).mpr (Nat.le_refl _)
  refine h.of_update (i := s.accepted)
    (p := ⟨.onAccept s.accepted s.system_id_ s.table endpoint, .bindingSession, none⟩)
    ⟨hnew, rfl, fun _ => nofun⟩ rfl h.clients rfl (fun j => ?_) (fun j => ?_) (fun j k => ?_) nofun (fun k => rfl)
    rfl rfl h.fault
  · have haccepted := h.accepted j
    simp only [Function.update_apply, handle]
    split
    · rename_i hj
      exact ⟨nofun, fun hle => by omega⟩
    · rename_i hj
      rw [haccepted]
      omega
  · rw [hkeeper]
    simp only [handle, Finset.mem_insert]
    by_cases hj : j = s.accepted <;> simp [hj]
  · rw [hkeeper]
    have hnone : j = s.accepted → j ∉ (s.clients k).client.binded_sessions_ := by
      rintro rfl
      rw [h.bound, AcceptedSession.keeper_eq_iff (by simp), hbefore]
      exact nofun
    simp only [handle, clients_setSession]
    split
    · rename_i hj
      simpa using hnone hj
    · rfl

/-- A client without sessions is created under a new number. -/
theorem keepsSessions_insert (h : s.KeepsSessions) (system_id : Bytes) (options : SgwExternalClient) :
    (s.handle (.insert system_id options)).KeepsSessions := by
  have hnew (j : ℕ) : (s.sessions j).close_handler ≠ .client s.created :=
    fun hclient => Nat.lt_irrefl _ (h.named j _ hclient).1
  simp only [handle]
  split
  · exact h
  refine ⟨h.sessions, h.id, ?_, h.accepted, h.binding, fun j k => ?_, fun j k hk => ?_, fun id k hlookup => ?_,
    h.fault⟩
  · exact (Function.forall_update_iff _ fun _ (c : ExternalClient) => c.Counts).mpr
      ⟨ExternalClient.counts_create _ _, fun m _ => h.clients m⟩
  · simp only [setClient, Function.update_apply]
    split
    · rename_i hk
      rw [AcceptedSession.keeper_eq_iff (by simp), hk]
      simp [ExternalClient.create, hnew j]
    · exact h.bound j k
  · obtain ⟨hcreated, a, ha, hrok, hname⟩ := h.named j k hk
    refine ⟨Nat.lt_succ_of_lt hcreated, a, ha, hrok, ?_⟩
    simpa [setClient, Nat.ne_of_lt hcreated] using hname
  · by_cases hid : id = system_id
    · subst hid
      rw [AList.lookup_insert] at hlookup
      cases hlookup
      exact ⟨Nat.lt_succ_self _, by simp [setClient, ExternalClient.create]⟩
    · rw [AList.lookup_insert_ne hid] at hlookup
      obtain ⟨hcreated, hname⟩ := h.map id k hlookup
      exact ⟨Nat.lt_succ_of_lt hcreated, by simpa [setClient, Nat.ne_of_lt hcreated] using hname⟩

/-- The configuration of a client is no concern of its sessions. -/
theorem keepsSessions_configure (h : s.KeepsSessions) (k : ℕ) (options : SgwExternalClient) :
    (s.setClient k ((s.clients k).configure options)).KeepsSessions := by
  have hsame (m : ℕ) : ((s.setClient k ((s.clients k).configure options)).clients m).system_id_ =
      (s.clients m).system_id_ ∧
      ((s.setClient k ((s.clients k).configure options)).clients m).client.binded_sessions_ =
        (s.clients m).client.binded_sessions_ := by
    simp only [setClient, Function.update_apply]
    split
    · rename_i hm
      rw [hm]
      exact ⟨rfl, rfl⟩
    · exact ⟨rfl, rfl⟩
  refine ⟨h.sessions, h.id, ?_, h.accepted, h.binding, fun j m => ?_, fun j m hm => ?_, fun id m hlookup => ?_,
    h.fault⟩
  · exact (Function.forall_update_iff _ fun _ (c : ExternalClient) => c.Counts).mpr
      ⟨⟨(h.clients k).connected, (h.clients k).up⟩, fun m _ => h.clients m⟩
  · rw [(hsame m).2]
    exact h.bound j m
  · rw [(hsame m).1]
    exact h.named j m hm
  · rw [(hsame m).1]
    exact h.map id m hlookup

theorem keepsSessions_endpoint (h : s.KeepsSessions) (i : ℕ) (ip : Option Bytes) :
    (s.handle (.endpoint i ip)).KeepsSessions := by
  have hi := h.sessions i
  simp only [handle, Connection.step]
  split
  · exact h.of_session ⟨hi.sound, hi.posted, hi.refused⟩ rfl rfl rfl fun a ha => ha
  · exact h.of_session ⟨⟨⟨hi.sound.gate.permitted, hi.sound.gate.phase⟩, hi.sound.orderly, hi.sound.sourced,
      hi.sound.notified⟩, hi.posted, hi.refused⟩ rfl rfl rfl fun a ha => ha

/-- **Every event** leaves each session with one keeper, or with none once it has closed. -/
theorem keepsSessions_step (h : s.KeepsSessions) (e : AcceptorEvent) : (s.step e).KeepsSessions := by
  unfold step
  split
  · exact h
  cases e with
  | accept endpoint => exact keepsSessions_accept h endpoint
  | session i e =>
    simp only [handle]
    split
    · rename_i haccepted
      exact keepsSessions_onSession h haccepted e
    · exact h
  | endpoint i ip => exact keepsSessions_endpoint h i ip
  | insert system_id options => exact keepsSessions_insert h system_id options
  | remove system_id =>
    refine ⟨h.sessions, h.id, h.clients, h.accepted, h.binding, h.bound, h.named, fun id k hlookup => ?_, h.fault⟩
    by_cases hid : id = system_id
    · subst hid
      rw [handle, AList.lookup_erase] at hlookup
      cases hlookup
    · rw [handle, AList.lookup_erase_ne hid] at hlookup
      exact h.map id k hlookup
  | configure k options => exact keepsSessions_configure h k options

/-- What the close handler of a session has been told. -/
def closings (s : Server) (i : ℕ) : List (Option Bytes) := (s.sessions i).connection.closings

/-- The answers to the binds of a session. -/
def answers (s : Server) (i : ℕ) : List BindAnswer := (s.sessions i).connection.answers

/-- A session is in the set of a client. -/
def Bound (s : Server) (i k : ℕ) : Prop := i ∈ (s.clients k).client.binded_sessions_

/-- A session that has not closed is with the server, or with one client. -/
theorem KeepsSessions.one_keeper (h : s.KeepsSessions) (haccepted : i < s.accepted) (hnone : s.closings i = []) :
    (i ∈ s.binding_sessions_ ∧ (∀ k, ¬ s.Bound i k) ∧ ∀ a ∈ s.answers i, a.status ≠ CommandStatus.rok) ∨
      (i ∉ s.binding_sessions_ ∧ ∃ k, (∀ m, s.Bound i m ↔ m = k) ∧
        ∃ a ∈ s.answers i, a.status = CommandStatus.rok ∧ a.request.systemId = (s.clients k).system_id_) := by
  have hkeeper : (s.sessions i).keeper = (s.sessions i).close_handler := if_pos hnone
  have hbinding := h.binding i
  have hbound := h.bound i
  rw [hkeeper] at hbinding
  simp only [hkeeper] at hbound
  cases hhandler : (s.sessions i).close_handler with
  | empty => exact absurd ((h.accepted i).mp hhandler) (Nat.not_le.mpr haccepted)
  | bindingSession =>
    rw [hhandler] at hbinding
    simp only [hhandler] at hbound
    exact .inl ⟨hbinding.mpr rfl, fun k => by simp [Bound, hbound], (h.sessions i).refused hhandler⟩
  | client k =>
    rw [hhandler] at hbinding
    simp only [hhandler] at hbound
    refine .inr ⟨by simp [hbinding], k, fun m => ?_, (h.named i k hhandler).2⟩
    rw [Bound, hbound, CloseHandler.client.injEq, eq_comm]

/-- One that has closed is with nobody. -/
theorem KeepsSessions.no_keeper (h : s.KeepsSessions) (hsome : s.closings i ≠ []) :
    i ∉ s.binding_sessions_ ∧ ∀ k, ¬ s.Bound i k := by
  have hkeeper : (s.sessions i).keeper = .empty := if_neg hsome
  refine ⟨?_, fun k => ?_⟩
  · rw [h.binding, hkeeper]
    exact nofun
  · rw [Bound, h.bound, hkeeper]
    exact nofun

end Server

end SmppGateway.Gateway
