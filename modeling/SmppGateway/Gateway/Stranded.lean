import SmppGateway.Gateway.SubmitPath

/-!
# A response resolves the submit that waits for it

When a response arrives, the timeout of the request is disarmed before anybody looks at the body. So the
submit that waits for the request is resolved by the handler of the response, or by nobody.

## What is proved

* `SubmitPath.onSessionResponse_resolves_iff` — which bodies resolve the submit.
-/

namespace SmppGateway.Gateway

open Foundation Net Smpp
open Pinex (PClient PClientList)

/-- A send that the session takes. -/
theorem toBool_sendImpl {Id Status Pdu : Type} {D : Dialect Id Status Pdu} (s : Session Id Status Pdu)
    (pdu : Pdu) (sequenceNumber : UInt32) (commandStatus : Status) :
    (Session.sendImpl D s pdu sequenceNumber commandStatus).2.toBool = true ↔
      s.state_ = .opened ∧ (D.serializeTo [] pdu).2 = .ok () := by
  rcases Session.sendImpl_cases (D := D) s pdu sequenceNumber commandStatus with ⟨e, h⟩ | ⟨hopen, hok, h⟩
  · rw [h]
    refine ⟨fun hfalse => (nomatch hfalse), fun ⟨hopen, hok⟩ => ?_⟩
    have hsent := congrArg Prod.snd ((Session.sendImpl_of_ok hopen hok _ _).symm.trans h)
    cases hsent
  · rw [h]
    exact ⟨fun _ => ⟨hopen, hok⟩, fun _ => rfl⟩

namespace SubmitPath

/-! ### What resolves a submit -/

/-- The session of the submit has taken an answer. -/
def Answered (x : SubmitInfo) (s t : SubmitPath) : Prop :=
  ∃ a, t.passed = s.passed ++ [a] ∧ a.submit = x.id ∧ a.sent = true

/-- The submit was passed to the backend. -/
def Forwarded (x : SubmitInfo) (s t : SubmitPath) : Prop := t.forwarded = s.forwarded ++ [x.id]

/-- The submit was answered, or judged by the policy server and passed on. -/
def Resolved (stage : Stage) (x : SubmitInfo) (s t : SubmitPath) : Prop :=
  Answered x s t ∨ (stage = .paper ∧ Forwarded x s t)

/-- The client of the submit has a session, and the one that the submit came from takes an answer with this
id. -/
def Answerable (s : SubmitPath) (x : SubmitInfo) (messageId : Bytes) : Prop :=
  (s.ext_clients x.originating_ext_client_).binded_sessions_ ≠ ∅ ∧
    (s.sessions x.originating_session_).state_ = .opened ∧ messageId.length < 65

variable (X : Externals)

/-- What `pinex::send` comes to: there is a route, and the client that it leads to gives the request a number
other than zero. -/
def sends (s : SubmitPath) (x : SubmitInfo) : Except Fault Bool :=
  match X.encodeToProtobuf (s.ext_clients x.originating_ext_client_) x,
    s.router_ aoReqType x.international_dest_address_, s.pinex_.client_list_ with
  | .error e, _, _ => .error e
  | .ok _, .error e, _ => .error e
  | .ok _, .ok [], _ => .ok false
  | .ok _, .ok (_ :: _), none => .error .outOfBounds
  | .ok _, .ok (destination :: _), some list => (list.numberTo destination).map fun seq_no => seq_no ≠ 0

/-- The verdict leads to an answer, or to the backend, and either is possible. -/
def Judged (s : SubmitPath) (x : SubmitInfo) : Prop :=
  (x.error_ ≠ CommandStatus.rok ∧ s.Answerable x x.message_id_) ∨
    (x.error_ = CommandStatus.rok ∧
      (s.sends X x = .ok true ∨ (s.sends X x = .ok false ∧ s.Answerable x x.message_id_)))

/-- The body resolves a submit. -/
def Resolves (s : SubmitPath) (x : SubmitInfo) (msg_body : Bytes) : Stage → Prop
  | .paper => ∃ status, X.response msg_body = some status ∧ s.run_ = true ∧
      s.Judged X { x with error_ := policyStatus status }
  | .pinex => msgType msg_body = .ok aoRespType ∧
      s.Answerable x (X.submitSmResp (msg_body.drop 4)).mdMessageId

/-- A submit waits for the answer to a request of a `p_client` that has not timed out. -/
structure Waits (s : SubmitPath) (stage : Stage) (list : PClientList) (k : ℕ) (server_id : Bytes)
    (sequence_number : UInt32) (x : SubmitInfo) : Prop where
  client_list : (s.requests stage).client_list_ = some list
  outstanding : (list.p_client_list_ k).packet_expirator_.getInfo sequence_number ≠ none
  waiting : (s.requests stage).user_data_.lookup (requestKey sequence_number server_id) = some x

/-! ### The functions -/

section Functions

variable {X} {s t : SubmitPath} {x : SubmitInfo}

theorem serializeTo_submitSmResp_iff (messageId : Bytes) :
    (dialect.serializeTo [] ⟨.submitSmResp, SubmitSmResp.mk messageId⟩).2 = .ok () ↔ messageId.length < 65 := by
  change (SubmitSmResp.layout.serializeTo [] (SubmitSmResp.mk messageId)).2 = .ok () ↔ _
  constructor
  · intro h
    exact (Layout.fits_of_serializeTo h).1
  · intro h
    have hfits : SubmitSmResp.layout.Fits (SubmitSmResp.mk messageId) := ⟨h, trivial⟩
    rw [Layout.serializeTo_of_fits hfits]

theorem answered_of_passed {a : Passed} (h : t.passed = s.passed ++ [a]) (hsubmit : a.submit = x.id) :
    Answered x s t ↔ a.sent = true := by
  constructor
  · rintro ⟨b, hb, -, hsent⟩
    rw [h] at hb
    simp only [List.append_cancel_left_eq, List.cons.injEq, and_true] at hb
    rwa [hb]
  · exact fun hsent => ⟨a, h, hsubmit, hsent⟩

theorem not_answered_of_passed (h : t.passed = s.passed) : ¬Answered x s t := by
  rintro ⟨a, ha, -⟩
  rw [h] at ha
  simp at ha

/-- **An answer** is taken exactly when it can be. -/
theorem answered_sendResp_iff :
    Answered x s (s.sendResp x) ↔ s.Answerable x x.message_id_ := by
  unfold sendResp sendSubmitResp
  split
  · rename_i hempty
    refine ⟨fun h => absurd h (not_answered_of_passed rfl), fun h => absurd hempty h.1⟩
  · rename_i hbound
    rw [answered_of_passed rfl rfl]
    refine (toBool_sendImpl _ _ _ _).trans ?_
    rw [serializeTo_submitSmResp_iff, Answerable]
    exact ⟨fun h => ⟨hbound, h⟩, fun h => h.2⟩

theorem forwarded_sendResp : (s.sendResp x).forwarded = s.forwarded := by
  unfold sendResp sendSubmitResp
  split <;> rfl

/-- The result of `pinex::send`, and what it leaves as it was. -/
theorem pinexSend_spec (s : SubmitPath) (x : SubmitInfo) :
    (s.pinexSend X aoReqType x).2 = s.sends X x ∧
    (s.pinexSend X aoReqType x).1.ext_clients = s.ext_clients ∧
    (s.pinexSend X aoReqType x).1.sessions = s.sessions ∧
    (s.pinexSend X aoReqType x).1.passed = s.passed ∧
    (s.pinexSend X aoReqType x).1.paper_client_ = s.paper_client_ ∧
    (s.pinexSend X aoReqType x).1.forwarded =
      if s.sends X x = .ok true then s.forwarded ++ [x.id] else s.forwarded := by
  unfold pinexSend sends
  cases X.encodeToProtobuf (s.ext_clients x.originating_ext_client_) x with
  | error e => simp
  | ok encoded =>
    cases s.router_ aoReqType x.international_dest_address_ with
    | error e => simp
    | ok destinations =>
      cases destinations with
      | nil => simp
      | cons destination rest =>
        simp only
        cases s.pinex_.client_list_ with
        | none => simp
        | some list =>
          simp only
          have hnumber := list.sendRequestTo_snd (msgTypeBytes aoReqType ++ encoded) destination
          cases hsend : list.sendRequestTo (msgTypeBytes aoReqType ++ encoded) destination with
          | mk list' result =>
            rw [hsend] at hnumber
            cases result with
            | error e =>
              cases e with
              | outOfBounds => simp [← hnumber, setList, setRequests, Except.map]
              | exception what => exact absurd hnumber.symm (list.numberTo_ne_exception destination what)
            | ok seq_no =>
              by_cases hzero : seq_no = 0
              · simp [← hnumber, hzero, setList, setRequests, Except.map]
              · simp [← hnumber, hzero, setList, setUserData, setRequests, requests, Except.map]

theorem answered_congr {u : SubmitPath} (h : t.passed = s.passed) : Answered x s u ↔ Answered x t u := by
  rw [Answered, Answered, h]

theorem not_forwarded_of_eq (h : t.forwarded = s.forwarded) : ¬Forwarded x s t := by
  rw [Forwarded, h]
  simp

theorem answerable_congr (hclients : t.ext_clients = s.ext_clients) (hsessions : t.sessions = s.sessions)
    (messageId : Bytes) : t.Answerable x messageId ↔ s.Answerable x messageId := by
  rw [Answerable, Answerable, hclients, hsessions]

/-- **A verdict** resolves the submit exactly when what it leads to is possible. -/
theorem resolved_onCheckPoliciesResponce_iff :
    Resolved .paper x s (s.onCheckPoliciesResponce X x).1 ↔ s.run_ = true ∧ s.Judged X x := by
  unfold onCheckPoliciesResponce
  by_cases hrun : s.run_ = true
  · by_cases hok : x.error_ = CommandStatus.rok
    · obtain ⟨hresult, hclients, hsessions, hpassed, -, hforwarded⟩ := pinexSend_spec (X := X) s x
      simp only [hrun, hok, Bool.not_true, Bool.false_eq_true, if_false, if_true, true_and, Judged, ne_eq,
        not_true_eq_false, false_and, false_or]
      cases hsend : s.pinexSend X aoReqType x with
      | mk u result =>
        rw [hsend] at hresult hclients hsessions hpassed hforwarded
        simp only [← hresult] at hforwarded ⊢
        match result with
        | .error e =>
          have hkept : u.forwarded = s.forwarded := by simpa using hforwarded
          simp [Resolved, not_answered_of_passed hpassed, not_forwarded_of_eq hkept]
        | .ok true =>
          have hpassedOn : Forwarded x s u := by simpa [Forwarded] using hforwarded
          simp [Resolved, hpassedOn]
        | .ok false =>
          have hanswer := answered_sendResp_iff (s := u) (x := { x with error_ := CommandStatus.rsyserr })
          rw [← answered_congr hpassed, answerable_congr hclients hsessions] at hanswer
          have hkept := not_forwarded_of_eq (x := x)
            (forwarded_sendResp (x := { x with error_ := CommandStatus.rsyserr }).trans hforwarded)
          simp only [Resolved, hkept, and_false, or_false, Except.ok.injEq, Bool.false_eq_true, true_and,
            false_or]
          exact hanswer
    · simp [hrun, hok, Resolved, Judged, answered_sendResp_iff, not_forwarded_of_eq forwarded_sendResp]
  · simp [hrun, Resolved, not_answered_of_passed, not_forwarded_of_eq]

theorem requests_sendResp (stage : Stage) : (s.sendResp x).requests stage = s.requests stage := by
  unfold sendResp sendSubmitResp
  split
  · rfl
  · cases stage <;> rfl

/-- The verdict changes nothing of `paper_client`. -/
theorem paper_client_onCheckPoliciesResponce :
    (s.onCheckPoliciesResponce X x).1.paper_client_ = s.paper_client_ := by
  obtain ⟨-, -, -, -, hpaper, -⟩ := pinexSend_spec (X := X) s x
  unfold onCheckPoliciesResponce
  split
  · rfl
  split
  · split
    · rename_i heq
      rw [heq] at hpaper
      exact hpaper
    · rename_i heq
      rw [heq] at hpaper
      exact hpaper
    · rename_i heq
      rw [heq] at hpaper
      exact (requests_sendResp .paper).trans hpaper
  · exact requests_sendResp .paper

theorem getInfo_onSessionResponse (list : PClientList) (k : ℕ) (sm : Pinex.Stream) (sequence_number : UInt32) :
    ((list.update k ((list.p_client_list_ k).onSessionResponse (.streamResponse sm)
      sequence_number).1).p_client_list_ k).packet_expirator_.getInfo sequence_number = none := by
  simp [PClientList.update, PClient.onSessionResponse]

/-- **A response of the policy server.** -/
theorem paperReceiveResponse_spec {server_id : Bytes} {sequence_number : UInt32} (msg_body : Bytes)
    (h : s.paper_client_.user_data_.lookup (requestKey sequence_number server_id) = some x) :
    let t := (s.paperReceiveResponse X server_id sequence_number msg_body).1
    t.paper_client_.client_list_ = s.paper_client_.client_list_ ∧
      (Resolved .paper x s t ↔ s.Resolves X x msg_body .paper) := by
  simp only [paperReceiveResponse, Resolves]
  cases X.response msg_body with
  | none => simp [Resolved, not_answered_of_passed, not_forwarded_of_eq]
  | some status =>
    simp only [paperProcessResp, h, Option.some.injEq, exists_eq_left']
    have hpaper := paper_client_onCheckPoliciesResponce (X := X)
      (s := s.setUserData .paper (s.paper_client_.user_data_.erase (requestKey sequence_number server_id)))
      (x := { x with error_ := policyStatus status })
    have hlist := congrArg Requests.client_list_ hpaper
    refine ⟨hlist, ?_⟩
    exact resolved_onCheckPoliciesResponce_iff (x := { x with error_ := policyStatus status })

/-- **A response of the backend.** -/
theorem pinexReceiveResponse_spec {server_id : Bytes} {sequence_number : UInt32} (msg_body : Bytes)
    (h : s.pinex_.user_data_.lookup (requestKey sequence_number server_id) = some x) :
    let t := (s.pinexReceiveResponse X server_id sequence_number msg_body).1
    t.pinex_.client_list_ = s.pinex_.client_list_ ∧
      (Resolved .pinex x s t ↔ s.Resolves X x msg_body .pinex) := by
  simp only [pinexReceiveResponse, pinexResolve, h, Resolves]
  cases msgType msg_body with
  | error e => exact ⟨rfl, by simp [Resolved, not_answered_of_passed, setUserData, setRequests]⟩
  | ok msg_type =>
    by_cases htype : msg_type = aoRespType
    · simp only [htype, if_true, true_and, Resolved, reduceCtorEq, false_and, or_false]
      have hpinex := requests_sendResp
        (s := s.setUserData .pinex (s.pinex_.user_data_.erase (requestKey sequence_number server_id)))
        (x := { x with
          message_id_ := (X.submitSmResp (msg_body.drop 4)).mdMessageId
          error_ := (X.submitSmResp (msg_body.drop 4)).errorCode.toUInt32 }) .pinex
      have hlist := congrArg Requests.client_list_ hpinex
      refine ⟨hlist, ?_⟩
      exact answered_sendResp_iff (x := { x with message_id_ := _, error_ := _ })
    · simp only [htype, if_false]
      exact ⟨rfl, by simp [Resolved, htype, not_answered_of_passed, setUserData, setRequests]⟩

/-- **A response, and the submit that waits for it**: the timeout of the request is disarmed, and the submit is
resolved exactly if the body resolves it. -/
theorem onSessionResponse_resolves_iff {stage : Stage} {list : PClientList} {k : ℕ} {server_id : Bytes}
    {sequence_number : UInt32} (h : s.Waits stage list k server_id sequence_number x) (sm : Pinex.Stream) :
    let t := (s.onSessionResponse X stage list k server_id (.streamResponse sm) sequence_number).1
    (∀ list', (t.requests stage).client_list_ = some list' →
      (list'.p_client_list_ k).packet_expirator_.getInfo sequence_number = none) ∧
    (Resolved stage x s t ↔ s.Resolves X x sm.messageBody stage) := by
  intro t
  have hdisarmed := getInfo_onSessionResponse list k sm sequence_number
  have hwaiting := h.waiting
  cases stage with
  | paper =>
    obtain ⟨hlist, hresolved⟩ := paperReceiveResponse_spec (X := X)
      (s := s.setList .paper (some (list.update k ((list.p_client_list_ k).onSessionResponse
        (.streamResponse sm) sequence_number).1))) sm.messageBody hwaiting
    refine ⟨?_, hresolved⟩
    intro list' hlist'
    obtain rfl := Option.some.inj (hlist'.symm.trans hlist)
    exact hdisarmed
  | pinex =>
    obtain ⟨hlist, hresolved⟩ := pinexReceiveResponse_spec (X := X)
      (s := s.setList .pinex (some (list.update k ((list.p_client_list_ k).onSessionResponse
        (.streamResponse sm) sequence_number).1))) sm.messageBody hwaiting
    refine ⟨?_, hresolved⟩
    intro list' hlist'
    obtain rfl := Option.some.inj (hlist'.symm.trans hlist)
    exact hdisarmed

end Functions

/-- An empty message is a message with its defaults. -/
def emptyMessages : Externals where
  submitSmResp _ := ⟨[], 0⟩
  response msg_body := if msg_body = [] then some 0 else none
  encodeToProtobuf _ _ := .ok []
  policyRequest _ _ _ := .ok []
  convertGsmToUcs2 body := .ok body
  convertAsciiToUcs2 body := .ok body

/-- The submit that session 0 of client 0 has sent under number 7. -/
def seventhSubmit : SubmitInfo where
  id := 0
  originating_sequence_number_ := 7
  originating_ext_client_ := 0
  originating_session_ := 0
  error_ := CommandStatus.rok
  message_id_ := []
  smsc_unique_id_ := []
  data_coding_type_ := .ascii8Bit
  body := []
  header := []
  concat_ref_num_ := 0
  number_of_parts_ := 1
  part_number_ := 1
  international_source_address_ := ascii "9812"
  international_dest_address_ := ascii "9813"
  request := ⟨[], 1, 1, ascii "9812", 1, 1, ascii "9813", EsmClass.fromU8 0, 0, 0, [], [],
    RegisteredDelivery.fromU8 0, 0, 0, 0, [], OParam.empty⟩

/-- The backend `md` has got request 1. -/
def firstRequest : PClientList where
  p_client_list_ _ := ⟨some (.fresh fun _ => true), ascii "md", 10,
    (Expirator.create (10 ^ 6)).add 1 (10 * 10 ^ 9) ⟨msgTypeBytes aoReqType⟩⟩
  binded_clients_ := [(ascii "md", 0)]
  last_index_ := 0

/-- The submit waits for the answer of `md` to request 1. -/
def oneWaiting : SubmitPath :=
  { start true (fun _ => ⟨ascii "esme", {0}, [], false, []⟩) (fun _ => .fresh fun _ => true)
      (fun _ _ => .ok [ascii "md"]) none none with
    pinex_ := ⟨some firstRequest, AList.singleton (requestKey 1 (ascii "md")) seventhSubmit⟩
    received := [⟨0, 0, 7⟩] }

theorem waits_oneWaiting : oneWaiting.Waits .pinex firstRequest 0 (ascii "md") 1 seventhSubmit := by
  have hinfo : (firstRequest.p_client_list_ 0).packet_expirator_.getInfo 1 = some ⟨msgTypeBytes aoReqType⟩ := rfl
  exact ⟨rfl, by simp [hinfo], rfl⟩

theorem onSessionResponse_resolves_iff_oneWaiting :
    Resolved .pinex seventhSubmit oneWaiting
      (oneWaiting.onSessionResponse emptyMessages .pinex firstRequest 0 (ascii "md")
        (.streamResponse ⟨msgTypeBytes aoRespType⟩) 1).1 :=
  (onSessionResponse_resolves_iff waits_oneWaiting ⟨msgTypeBytes aoRespType⟩).2.mpr
    ⟨rfl, by decide, rfl, by decide⟩

/-- A message of another type answers request 1, and nobody answers the submit. -/
theorem not_onSessionResponse_resolves : ¬ ∀ (X : Externals) (s : SubmitPath) (stage : Stage)
    (list : PClientList) (k : ℕ) (server_id : Bytes) (sequence_number : UInt32) (x : SubmitInfo)
    (sm : Pinex.Stream), s.Waits stage list k server_id sequence_number x →
      Resolved stage x s
        (s.onSessionResponse X stage list k server_id (.streamResponse sm) sequence_number).1 := by
  intro h
  have hresolved := h emptyMessages oneWaiting .pinex firstRequest 0 (ascii "md") 1 seventhSubmit
    ⟨msgTypeBytes 5⟩ waits_oneWaiting
  have htype : msgType (msgTypeBytes 5) = .ok aoRespType :=
    ((onSessionResponse_resolves_iff waits_oneWaiting ⟨msgTypeBytes 5⟩).2.mp hresolved).1
  exact absurd htype (by decide)

end SubmitPath

end SmppGateway.Gateway
