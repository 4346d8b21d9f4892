import SmppGateway.Gateway.Connections
import SmppGateway.Gateway.SubmitPath
import SmppGateway.Net.Sending

/-!
# The response to a delivery on its way to the backend

`deliver_sm::process_resp` and `delivery_report::process_resp` pass what has become of a delivery to
`pinex::send`, which sends it to the backend that the delivery came from, through `p_client_list` and
`p_client`.

## The model

The serialization of the protobuf messages is a parameter, and does not throw. An exception on the way is
caught by `pinex::send`. Logging, tracing and counting do not throw.

## What is proved

* `reported_iff` — what `pinex::send` returns says whether the response is in the buffer of a session to the
  backend exactly if the backend is in `binded_clients_` with a session.
* `backendBound_run_iff` — in every run whoever is in `binded_clients_` has a session.
-/

namespace SmppGateway.Gateway

open Foundation Net
open Smpp (CommandStatus)
open Pinex (PClient PClientList CommandId)

/-- `AT_RESP_TYPE`. -/
def atRespType : UInt32 := 0x10000005

/-- `DR_RESP_TYPE`. -/
def drRespType : UInt32 := 0x10000015

/-- What `pinex` reads of a `deliver_info`. -/
structure DeliverOutcome where
  is_report_ : Bool
  error_ : CommandStatus
  smsc_unique_id_ : Bytes
  originating_sequence_number_ : UInt32
  source_connection_ : Bytes

/-- `SerializeToString` of the responses, with their `error_code` and `smsc_unique_id`. -/
structure ResponseMessages where
  /-- `DeliveryReport_Resp`. -/
  deliveryReportResp : Int32 → Bytes → Bytes
  /-- `Deliver_Sm_Resp`. -/
  deliverSmResp : Int32 → Bytes → Bytes

/-- `encode_to_protobuf`. -/
def ResponseMessages.encodeToProtobuf (M : ResponseMessages) (deliver_info : DeliverOutcome) : Bytes :=
  if deliver_info.is_report_ then
    M.deliveryReportResp deliver_info.error_.toInt32 deliver_info.smsc_unique_id_
  else M.deliverSmResp deliver_info.error_.toInt32 deliver_info.smsc_unique_id_

namespace DeliverResponse

variable (M : ResponseMessages)

/-- `send_msg`. -/
def responseBody (msg_type : UInt32) (user_data : DeliverOutcome) : Bytes :=
  msgTypeBytes msg_type ++ M.encodeToProtobuf user_data

/-- `pinex::send` of a `deliver_info`. -/
def sendResponse (client_list_ : Option PClientList) (msg_type : UInt32) (user_data : DeliverOutcome) :
    Option PClientList × Except Fault Bool :=
  match client_list_ with
  | none => (none, .error .outOfBounds)
  | some client_list =>
    match client_list.sendResponse (responseBody M msg_type user_data) user_data.originating_sequence_number_
      user_data.source_connection_ with
    | (client_list, .ok _) => (some client_list, .ok true)
    | (client_list, .error (.exception _)) => (some client_list, .ok false)
    | (client_list, .error .outOfBounds) => (some client_list, .error .outOfBounds)

/-- `deliver_sm::process_resp`. -/
def deliverSmProcessResp (client_list_ : Option PClientList) (user_data_info : DeliverOutcome)
    (error : CommandStatus) : Option PClientList × Except Fault Bool :=
  let user_data_info := { user_data_info with error_ := error }
  let msg_type := if user_data_info.is_report_ then drRespType else atRespType
  match sendResponse M client_list_ msg_type user_data_info with
  | (client_list_, .ok true) => (client_list_, .ok true)
  | (client_list_, .ok false) => (client_list_, .ok false)
  | (client_list_, .error e) => (client_list_, .error e)

/-- `delivery_report::process_resp`. -/
def deliveryReportProcessResp (client_list_ : Option PClientList) (user_data : DeliverOutcome)
    (error : CommandStatus) : Option PClientList × Except Fault Bool :=
  let user_data := { user_data with error_ := error }
  match sendResponse M client_list_ drRespType user_data with
  | (client_list_, .ok true) => (client_list_, .ok true)
  | (client_list_, .ok false) => (client_list_, .ok false)
  | (client_list_, .error e) => (client_list_, .error e)

/-! ### What a response has come to -/

/-- The frame of the response. -/
def responseFrame (body : Bytes) (user_data : DeliverOutcome) : Bytes :=
  Sent.frame Pinex.dialect
    ⟨CommandId.streamResp, Pinex.CommandStatus.rok, user_data.originating_sequence_number_, body⟩

/-- A session that is bound to the backend of the delivery got the frame of the response. -/
def Delivered (l l' : PClientList) (body : Bytes) (user_data : DeliverOutcome) : Prop :=
  ∃ k session session', l.binded_clients_.lookup user_data.source_connection_ = some k ∧
    (l.p_client_list_ k).binded_session_ = some session ∧
    (l'.p_client_list_ k).binded_session_ = some session' ∧
    session'.buffered = session.buffered ++ responseFrame body user_data

/-- The result says whether the response was delivered. -/
def Reported (l : PClientList) (body : Bytes) (user_data : DeliverOutcome)
    (outcome : Option PClientList × Except Fault Bool) : Prop :=
  ∃ l', outcome.1 = some l' ∧
    ((outcome.2 = .ok true ∧ Delivered l l' body user_data) ∨
      (outcome.2 = .ok false ∧ ¬Delivered l l' body user_data))

/-- The backend of the delivery is in `binded_clients_`, with a session. -/
def BackendBound (l : PClientList) (user_data : DeliverOutcome) : Prop :=
  ∃ k, l.binded_clients_.lookup user_data.source_connection_ = some k ∧
    (l.p_client_list_ k).binded_session_.isSome

/-! ### One client -/

theorem clientResponse_of_opened {clnt : PClient} {session : Session CommandId Pinex.CommandStatus Pinex.Pdu}
    (hsession : clnt.binded_session_ = some session) (hopen : session.state_ = .opened) (body : Bytes)
    (user_data : DeliverOutcome) :
    ∃ session', clnt.sendResponse body user_data.originating_sequence_number_ =
        ({ clnt with binded_session_ := some session' }, .ok user_data.originating_sequence_number_) ∧
      session'.buffered = session.buffered ++ responseFrame body user_data := by
  have hserialize : (Pinex.dialect.serializeTo [] (.streamResponse ⟨body⟩)).2 = .ok () := rfl
  have hsent := Session.sendImpl_of_ok hopen hserialize user_data.originating_sequence_number_
    Pinex.CommandStatus.rok
  refine ⟨(session.queue Pinex.dialect ⟨CommandId.streamResp, Pinex.CommandStatus.rok,
    user_data.originating_sequence_number_, body⟩).doSend, ?_, ?_⟩
  · rw [PClient.sendResponse, hsession]
    simp only [hsent]
    rfl
  · exact session.buffered_queue _

theorem clientResponse_of_not_opened {clnt : PClient}
    {session : Session CommandId Pinex.CommandStatus Pinex.Pdu}
    (hsession : clnt.binded_session_ = some session) (hopen : session.state_ ≠ .opened) (body : Bytes)
    (seq_no : UInt32) :
    ∃ what, clnt.sendResponse body seq_no = (clnt, .error (.exception what)) := by
  obtain ⟨what, hthrown⟩ := Session.sendImpl_of_not_opened (D := Pinex.dialect) hopen (.streamResponse ⟨body⟩)
    seq_no Pinex.CommandStatus.rok
  refine ⟨what, ?_⟩
  rw [PClient.sendResponse, hsession]
  simp only [hthrown, ← hsession]

/-! ### The way through the layers -/

variable {M}

theorem not_delivered_of_unchanged {l l' : PClientList} {body : Bytes} {user_data : DeliverOutcome}
    (h : ∀ k, (l'.p_client_list_ k).binded_session_ = (l.p_client_list_ k).binded_session_) :
    ¬Delivered l l' body user_data := by
  rintro ⟨k, session, session', -, hsession, hsession', hbuffered⟩
  rw [h k, hsession] at hsession'
  rw [← Option.some.inj hsession'] at hbuffered
  exact Sent.frame_ne_nil _ (List.self_eq_append_right.mp hbuffered)

/-- A backend that is bound is sent the response, or the failure is reported. -/
theorem reported_of_bound {l : PClientList} {user_data : DeliverOutcome} {k : ℕ}
    {session : Session CommandId Pinex.CommandStatus Pinex.Pdu}
    (hlookup : l.binded_clients_.lookup user_data.source_connection_ = some k)
    (hsession : (l.p_client_list_ k).binded_session_ = some session) (msg_type : UInt32) :
    Reported l (responseBody M msg_type user_data) user_data (sendResponse M (some l) msg_type user_data) := by
  simp only [sendResponse, PClientList.sendResponse, hlookup]
  by_cases hopen : session.state_ = .opened
  · obtain ⟨session', heq, hbuffered⟩ :=
      clientResponse_of_opened hsession hopen (responseBody M msg_type user_data) user_data
    simp only [heq]
    refine ⟨_, rfl, .inl ⟨rfl, k, session, session', hlookup, hsession, ?_, hbuffered⟩⟩
    simp only [PClientList.update, Function.update_self]
  · obtain ⟨what, heq⟩ := clientResponse_of_not_opened hsession hopen
      (responseBody M msg_type user_data) user_data.originating_sequence_number_
    simp only [heq]
    refine ⟨_, rfl, .inr ⟨rfl, not_delivered_of_unchanged ?_⟩⟩
    intro j
    simp only [PClientList.update, Function.update_eq_self]

/-- What `pinex::send` reports of a response. -/
theorem sendResponse_reported_iff (l : PClientList) (msg_type : UInt32) (user_data : DeliverOutcome) :
    Reported l (responseBody M msg_type user_data) user_data (sendResponse M (some l) msg_type user_data) ↔
      BackendBound l user_data := by
  simp only [sendResponse, PClientList.sendResponse]
  cases hlookup : l.binded_clients_.lookup user_data.source_connection_ with
  | none =>
    -- The missing connection is reported as a success.
    simp only
    refine iff_of_false ?_ ?_
    · rintro ⟨l', -, ⟨-, k, session, session', hfound, -⟩ | ⟨hfalse, -⟩⟩
      · rw [hlookup] at hfound
        cases hfound
      · exact absurd (Except.ok.inj hfalse) (by decide)
    · rintro ⟨k, hfound, -⟩
      rw [hlookup] at hfound
      cases hfound
  | some k =>
    simp only
    cases hsession : (l.p_client_list_ k).binded_session_ with
    | none =>
      have hfault : (l.p_client_list_ k).sendResponse (responseBody M msg_type user_data)
          user_data.originating_sequence_number_ = (l.p_client_list_ k, .error .outOfBounds) := by
        rw [PClient.sendResponse, hsession]
      simp only [hfault]
      refine iff_of_false ?_ ?_
      · rintro ⟨l', -, ⟨hfalse, -⟩ | ⟨hfalse, -⟩⟩
        · cases hfalse
        · cases hfalse
      · rintro ⟨j, hfound, hbound⟩
        obtain rfl : k = j := Option.some.inj (hlookup.symm.trans hfound)
        rw [hsession] at hbound
        cases hbound
    | some session =>
      have hbound : BackendBound l user_data := ⟨k, hlookup, by rw [hsession]; rfl⟩
      refine iff_of_true ?_ hbound
      have hreported := reported_of_bound (M := M) hlookup hsession msg_type
      rwa [sendResponse, PClientList.sendResponse, hlookup] at hreported

theorem deliverSmProcessResp_eq (list : Option PClientList) (user_data : DeliverOutcome)
    (error : CommandStatus) :
    deliverSmProcessResp M list user_data error =
      sendResponse M list (if user_data.is_report_ then drRespType else atRespType)
        { user_data with error_ := error } := by
  simp only [deliverSmProcessResp]
  generalize sendResponse M list _ _ = outcome
  rcases outcome with ⟨l, e | _ | _⟩ <;> rfl

theorem deliveryReportProcessResp_eq (list : Option PClientList) (user_data : DeliverOutcome)
    (error : CommandStatus) :
    deliveryReportProcessResp M list user_data error =
      sendResponse M list drRespType { user_data with error_ := error } := by
  simp only [deliveryReportProcessResp]
  generalize sendResponse M list _ _ = outcome
  rcases outcome with ⟨l, e | _ | _⟩ <;> rfl

/-- **A reported delivery is a real one** exactly if the backend that the delivery came from is in
`binded_clients_` with a session; and so it is for the functions that pass the result on. -/
theorem reported_iff (M : ResponseMessages) (l : PClientList) (msg_type : UInt32) (user_data : DeliverOutcome)
    (error : CommandStatus) :
    (Reported l (responseBody M msg_type user_data) user_data (sendResponse M (some l) msg_type user_data) ↔
      BackendBound l user_data) ∧
    let judged := { user_data with error_ := error }
    (Reported l (responseBody M (if user_data.is_report_ then drRespType else atRespType) judged) judged
        (deliverSmProcessResp M (some l) user_data error) ↔ BackendBound l user_data) ∧
    (Reported l (responseBody M drRespType judged) judged (deliveryReportProcessResp M (some l) user_data error) ↔
      BackendBound l user_data) := by
  refine ⟨sendResponse_reported_iff l msg_type user_data, ?_, ?_⟩
  · rw [deliverSmProcessResp_eq]
    exact sendResponse_reported_iff l _ _
  · rw [deliveryReportProcessResp_eq]
    exact sendResponse_reported_iff l _ _

/-- There is no connection to the backend, and the response is reported as sent. -/
theorem not_reported :
    let user_data : DeliverOutcome := ⟨false, 0, [], 1, ascii "md"⟩
    let M : ResponseMessages := ⟨fun _ _ => [], fun _ _ => []⟩
    (sendResponse M (some (PClientList.start 1)) atRespType user_data).2 = .ok true ∧
      ¬Reported (PClientList.start 1) (responseBody M atRespType user_data) user_data
        (sendResponse M (some (PClientList.start 1)) atRespType user_data) := by
  intro user_data M
  refine ⟨rfl, ?_⟩
  intro h
  obtain ⟨k, hfound, -⟩ := (sendResponse_reported_iff _ _ _).mp h
  cases hfound

/-- In a gateway that runs, a backend that is in `binded_clients_` has a session. -/
theorem backendBound_run_iff {timeout_sec : ℕ} {events : List PClientList.ClientEvent}
    (h : Along Connections.step Connections.Possible (Connections.start timeout_sec) events)
    (user_data : DeliverOutcome) :
    let l := (run Connections.step (Connections.start timeout_sec) events).client_list_
    BackendBound l user_data ↔ (l.binded_clients_.lookup user_data.source_connection_).isSome := by
  intro l
  constructor
  · rintro ⟨k, hfound, -⟩
    rw [hfound]
    rfl
  · intro hfound
    obtain ⟨k, hk⟩ := Option.isSome_iff_exists.mp hfound
    exact ⟨k, hk, (Connections.entriesBound_run h _ k hk).1⟩

end DeliverResponse

end SmppGateway.Gateway
