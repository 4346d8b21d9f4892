import SmppGateway.Net.Expirator
import SmppGateway.Pinex.Session

/-!
# The clients of the backend and of the policy server

`p_client` and `p_client_list`: a request is sent on the bound session and its number is armed with a timeout.

## The model

A dereference of an empty `binded_session_`, and of an iterator behind the end of `binded_clients_`, is
undefined: it is the fault `outOfBounds`, which no `catch` catches.
-/

namespace SmppGateway.Pinex

open Foundation Net

/-- `p_client`. -/
structure PClient where
  binded_session_ : Option (Session CommandId CommandStatus Pdu)
  server_id_ : Bytes
  timeout_sec_ : ℕ
  packet_expirator_ : Expirator UInt32 Stream

namespace PClient

/-- `p_client`. -/
def create (timeout_sec : ℕ) : PClient := ⟨none, [], timeout_sec, Expirator.create (10 ^ 6)⟩

/-- `on_bind`. -/
def onBind (c : PClient) (server_id : Bytes) (session : Session CommandId CommandStatus Pdu) : PClient :=
  { c with server_id_ := server_id, binded_session_ := some session }

/-- `on_session_close`. -/
def onSessionClose (c : PClient) : PClient := { c with binded_session_ := none }

/-- `send_request`. -/
def sendRequest (c : PClient) (msg : Bytes) : PClient × Except Fault UInt32 :=
  let pdu : Stream := ⟨msg⟩
  match c.binded_session_ with
  | none => (c, .error .outOfBounds)
  | some session =>
    match Session.sendRequest dialect session (.streamRequest pdu) with
    | (session, .error e) => ({ c with binded_session_ := some session }, .error e)
    | (session, .ok seqNo) =>
      ({ c with
          binded_session_ := some session
          packet_expirator_ := c.packet_expirator_.add seqNo (c.timeout_sec_ * 10 ^ 9) pdu },
        .ok seqNo)

/-- `send_response`. -/
def sendResponse (c : PClient) (msg : Bytes) (seq_no : UInt32) : PClient × Except Fault UInt32 :=
  match c.binded_session_ with
  | none => (c, .error .outOfBounds)
  | some session =>
    match Session.sendImpl dialect session (.streamResponse ⟨msg⟩) seq_no CommandStatus.rok with
    | (session, .error e) => ({ c with binded_session_ := some session }, .error e)
    | (session, .ok ()) => ({ c with binded_session_ := some session }, .ok seq_no)

/-- `on_session_response`, up to the call of `response_handler_`: the body that it is called with. -/
def onSessionResponse (c : PClient) (respPacket : Pdu) (sequenceNumber : UInt32) : PClient × Option Bytes :=
  match respPacket with
  | .streamResponse sm =>
    ({ c with packet_expirator_ := c.packet_expirator_.remove sequenceNumber }, some sm.messageBody)
  | _ => (c, none)

/-- `on_timer` of `packet_expirator_`, after the calls of `on_session_timeout`. -/
def onTimer (c : PClient) : PClient := { c with packet_expirator_ := c.packet_expirator_.onTimer }

/-- A request gets the next number of an open session. -/
theorem sendRequest_of_opened {c : PClient} {session : Session CommandId CommandStatus Pdu}
    (hsession : c.binded_session_ = some session) (hopen : session.state_ = .opened) (msg : Bytes) :
    (c.sendRequest msg).2 = .ok (nextSequenceNumber session.sequence_number_) := by
  have hserialize : (dialect.serializeTo [] (.streamRequest ⟨msg⟩)).2 = .ok () := rfl
  have hnumber := Session.sendRequest_snd_of_ok (D := dialect) hopen hserialize
  simp only [sendRequest, hsession]
  split
  · rename_i heq
    rw [heq] at hnumber
    cases hnumber
  · rename_i heq
    rw [heq] at hnumber
    exact hnumber

theorem sendRequest_of_not_opened {c : PClient} {session : Session CommandId CommandStatus Pdu}
    (hsession : c.binded_session_ = some session) (hopen : session.state_ ≠ .opened) (msg : Bytes) :
    ∃ what, (c.sendRequest msg).2 = .error (.exception what) := by
  obtain ⟨what, hthrown⟩ := Session.sendRequest_of_not_opened (D := dialect) hopen (.streamRequest ⟨msg⟩)
  refine ⟨what, ?_⟩
  simp only [sendRequest, hsession, hthrown]

/-- **A request** leaves the timeouts as they are, or it got the next number of an open session, which is
armed. -/
theorem sendRequest_cases (c : PClient) (msg : Bytes) :
    ∃ binded_session, (∃ e, c.sendRequest msg = ({ c with binded_session_ := binded_session }, .error e)) ∨
      ∃ session seqNo, c.binded_session_ = some session ∧ session.state_ = .opened ∧
        seqNo = nextSequenceNumber session.sequence_number_ ∧
        c.sendRequest msg =
          ({ c with
              binded_session_ := binded_session
              packet_expirator_ := c.packet_expirator_.add seqNo (c.timeout_sec_ * 10 ^ 9) ⟨msg⟩ },
            .ok seqNo) := by
  unfold sendRequest
  simp only
  split
  · exact ⟨c.binded_session_, .inl ⟨_, rfl⟩⟩
  rename_i session hsession
  split
  · exact ⟨_, .inl ⟨_, rfl⟩⟩
  rename_i sent seqNo heq
  obtain ⟨hopen, -, hseqNo⟩ := Session.of_sendRequest_snd (congrArg Prod.snd heq)
  exact ⟨_, .inr ⟨session, seqNo, hsession, hopen, hseqNo, rfl⟩⟩

end PClient

/-- `p_client_list`. -/
structure PClientList where
  /-- The members of `p_client_list_`. -/
  p_client_list_ : ℕ → PClient
  /-- `binded_clients_`, in the order of the keys. -/
  binded_clients_ : List (Bytes × ℕ)
  last_index_ : ℕ

namespace PClientList

/-- A member of `p_client_list_` has changed. -/
def update (l : PClientList) (k : ℕ) (c : PClient) : PClientList :=
  { l with p_client_list_ := Function.update l.p_client_list_ k c }

/-- `insert` of `binded_clients_`. -/
def insertClient (id : Bytes) (k : ℕ) : List (Bytes × ℕ) → List (Bytes × ℕ)
  | [] => [(id, k)]
  | x :: rest =>
    if id = x.1 then x :: rest
    else if id < x.1 then (id, k) :: x :: rest
    else x :: insertClient id k rest

/-- `on_bind`. -/
def onBind (l : PClientList) (k : ℕ) (server_id : Bytes) (session : Session CommandId CommandStatus Pdu) :
    PClientList :=
  { l.update k ((l.p_client_list_ k).onBind server_id session) with
    binded_clients_ := insertClient server_id k l.binded_clients_ }

/-- `on_session_close`. -/
def onSessionClose (l : PClientList) (k : ℕ) (server_id : Bytes) : PClientList :=
  { l.update k (l.p_client_list_ k).onSessionClose with
    binded_clients_ := l.binded_clients_.filter fun x => x.1 ≠ server_id }

/-- `send_request` to one client. -/
def sendRequestTo (l : PClientList) (msg id : Bytes) : PClientList × Except Fault UInt32 :=
  match l.binded_clients_.lookup id with
  | none => (l, .ok 0)
  | some k =>
    match (l.p_client_list_ k).sendRequest msg with
    | (clnt, .ok seqNo) => (l.update k clnt, .ok seqNo)
    | (clnt, .error (.exception _)) => (l.update k clnt, .ok 0)
    | (clnt, .error .outOfBounds) => (l.update k clnt, .error .outOfBounds)

/-- `send_request` to the clients in turn. -/
def sendRequest (l : PClientList) (msg : Bytes) : PClientList × Except Fault (UInt32 × Bytes) :=
  if l.binded_clients_.isEmpty then (l, .ok (0, []))
  else
    match l.binded_clients_[l.last_index_]? with
    | none => (l, .error .outOfBounds)
    | some (id, k) =>
      match (l.p_client_list_ k).sendRequest msg with
      | (clnt, .error e) => (l.update k clnt, .error e)
      | (clnt, .ok seqNo) =>
        ({ l.update k clnt with last_index_ := (l.last_index_ + 1) % l.binded_clients_.length },
          .ok (seqNo, id))

/-- `send_response`. A send does not throw an `out_of_range`, so only the access to the map does. -/
def sendResponse (l : PClientList) (msg : Bytes) (seq_no : UInt32) (id : Bytes) :
    PClientList × Except Fault UInt32 :=
  match l.binded_clients_.lookup id with
  | none => (l, .ok 1)
  | some k =>
    match (l.p_client_list_ k).sendResponse msg seq_no with
    | (clnt, .ok _) => (l.update k clnt, .ok seq_no)
    | (clnt, .error e) => (l.update k clnt, .error e)

/-- `send_request`, to one client or to the clients in turn. -/
def request (l : PClientList) (msg : Bytes) : Option Bytes → PClientList × Except Fault (UInt32 × Bytes)
  | some id => ((l.sendRequestTo msg id).1, (l.sendRequestTo msg id).2.map fun seqNo => (seqNo, id))
  | none => l.sendRequest msg

/-- The client that it chooses. -/
def chosen (l : PClientList) : Option Bytes → Option (Bytes × ℕ)
  | some id => (l.binded_clients_.lookup id).map fun k => (id, k)
  | none => l.binded_clients_[l.last_index_]?

/-- The number that a request to a client gets, or zero. -/
def numberTo (l : PClientList) (id : Bytes) : Except Fault UInt32 :=
  match l.binded_clients_.lookup id with
  | none => .ok 0
  | some k =>
    match (l.p_client_list_ k).binded_session_ with
    | none => .error .outOfBounds
    | some session =>
      if session.state_ = .opened then .ok (nextSequenceNumber session.sequence_number_) else .ok 0

theorem numberTo_ne_exception (l : PClientList) (id what : Bytes) :
    l.numberTo id ≠ .error (.exception what) := by
  unfold numberTo
  split
  · simp
  · split
    · simp
    · split <;> simp

/-- What a request to a client gets. -/
theorem sendRequestTo_snd (l : PClientList) (msg id : Bytes) : (l.sendRequestTo msg id).2 = l.numberTo id := by
  unfold sendRequestTo numberTo
  cases l.binded_clients_.lookup id with
  | none => rfl
  | some k =>
    simp only
    cases hsession : (l.p_client_list_ k).binded_session_ with
    | none => simp [PClient.sendRequest, hsession]
    | some session =>
      by_cases hopen : session.state_ = .opened
      · have hnumber := PClient.sendRequest_of_opened hsession hopen msg
        simp only [if_pos hopen]
        generalize (l.p_client_list_ k).sendRequest msg = outcome at hnumber ⊢
        obtain ⟨clnt, result⟩ := outcome
        obtain rfl : result = _ := hnumber
        rfl
      · obtain ⟨what, hthrown⟩ := PClient.sendRequest_of_not_opened hsession hopen msg
        simp only [if_neg hopen]
        generalize (l.p_client_list_ k).sendRequest msg = outcome at hthrown ⊢
        obtain ⟨clnt, result⟩ := outcome
        obtain rfl : result = _ := hthrown
        rfl

/-- A change of a list that leaves the timeouts as they are. -/
def SameTimeouts (l l' : PClientList) : Prop :=
  l'.binded_clients_ = l.binded_clients_ ∧
    ∀ k, ∃ binded_session, l'.p_client_list_ k = { l.p_client_list_ k with binded_session_ := binded_session }

/-- The number of a request has been armed at the client that was chosen. -/
def Armed (l l' : PClientList) (msg : Bytes) (destination : Option Bytes) (seqNo : UInt32) (id : Bytes) :
    Prop :=
  ∃ k session binded_session, l.chosen destination = some (id, k) ∧
    (l.p_client_list_ k).binded_session_ = some session ∧ session.state_ = .opened ∧
    seqNo = nextSequenceNumber session.sequence_number_ ∧
    l'.binded_clients_ = l.binded_clients_ ∧
    l'.p_client_list_ = Function.update l.p_client_list_ k
      { l.p_client_list_ k with
        binded_session_ := binded_session
        packet_expirator_ := (l.p_client_list_ k).packet_expirator_.add seqNo
          ((l.p_client_list_ k).timeout_sec_ * 10 ^ 9) ⟨msg⟩ }

theorem sameTimeouts_refl (l : PClientList) : l.SameTimeouts l := ⟨rfl, fun _ => ⟨_, rfl⟩⟩

theorem sameTimeouts_update (l : PClientList) (k : ℕ)
    (binded_session : Option (Session CommandId CommandStatus Pdu)) :
    l.SameTimeouts (l.update k { l.p_client_list_ k with binded_session_ := binded_session }) := by
  refine ⟨rfl, ?_⟩
  intro i
  by_cases heq : i = k
  · rw [heq]
    exact ⟨binded_session, Function.update_self ..⟩
  · exact ⟨_, Function.update_of_ne heq ..⟩

/-- What a request does to a list. -/
theorem request_cases (l : PClientList) (msg : Bytes) (destination : Option Bytes) :
    (l.SameTimeouts (l.request msg destination).1 ∧
      ∀ seqNo id, (l.request msg destination).2 = .ok (seqNo, id) → seqNo = 0) ∨
    ∃ seqNo id, (l.request msg destination).2 = .ok (seqNo, id) ∧
      l.Armed (l.request msg destination).1 msg destination seqNo id := by
  cases destination with
  | some id =>
    simp only [request, sendRequestTo]
    cases hlookup : l.binded_clients_.lookup id with
    | none =>
      refine .inl ⟨l.sameTimeouts_refl, ?_⟩
      intro seqNo id' heq
      exact (congrArg Prod.fst (Except.ok.inj heq)).symm
    | some k =>
      obtain ⟨binded_session, ⟨e, heq⟩ | ⟨session, seqNo, hsession, hopen, hseqNo, heq⟩⟩ :=
        (l.p_client_list_ k).sendRequest_cases msg
      · simp only [heq]
        refine .inl ?_
        cases e with
        | outOfBounds => exact ⟨l.sameTimeouts_update k _, fun seqNo id' h => (nomatch h)⟩
        | exception what =>
          refine ⟨l.sameTimeouts_update k _, ?_⟩
          intro seqNo id' h
          exact (congrArg Prod.fst (Except.ok.inj h)).symm
      · simp only [heq]
        refine .inr ⟨_, id, rfl, k, session, binded_session, ?_, hsession, hopen, hseqNo, rfl, rfl⟩
        rw [chosen, hlookup]
        rfl
  | none =>
    simp only [request, sendRequest]
    split
    · refine .inl ⟨l.sameTimeouts_refl, ?_⟩
      intro seqNo id' heq
      exact (congrArg Prod.fst (Except.ok.inj heq)).symm
    split
    · exact .inl ⟨l.sameTimeouts_refl, fun seqNo id' heq => (nomatch heq)⟩
    rename_i id k hchosen
    obtain ⟨binded_session, ⟨e, heq⟩ | ⟨session, seqNo, hsession, hopen, hseqNo, heq⟩⟩ :=
      (l.p_client_list_ k).sendRequest_cases msg
    · rw [heq]
      exact .inl ⟨l.sameTimeouts_update k _, fun seqNo id' h => (nomatch h)⟩
    · rw [heq]
      exact .inr ⟨_, id, rfl, k, session, binded_session, hchosen, hsession, hopen, hseqNo, rfl, rfl⟩

theorem mem_insertClient {id : Bytes} {k : ℕ} {clients : List (Bytes × ℕ)} {x : Bytes × ℕ}
    (h : x ∈ insertClient id k clients) : x = (id, k) ∨ x ∈ clients := by
  induction clients with
  | nil => exact .inl (List.mem_singleton.mp h)
  | cons y rest ih =>
    rw [insertClient] at h
    split at h
    · exact .inr h
    split at h
    · exact List.mem_cons.mp h
    · rcases List.mem_cons.mp h with rfl | hrest
      · exact .inr List.mem_cons_self
      · exact (ih hrest).imp_right fun hmem => List.mem_cons_of_mem y hmem

theorem mem_of_chosen {l : PClientList} {destination : Option Bytes} {x : Bytes × ℕ}
    (h : l.chosen destination = some x) : x ∈ l.binded_clients_ := by
  cases destination with
  | some id =>
    obtain ⟨k, hk, rfl⟩ := Option.map_eq_some_iff.mp h
    obtain ⟨before, behind, heq, -⟩ := List.lookup_eq_some_iff.mp hk
    rw [heq]
    exact List.mem_append_right before List.mem_cons_self
  | none => exact List.mem_of_getElem? h

end PClientList

end SmppGateway.Pinex
