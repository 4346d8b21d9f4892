import Mathlib.Data.Finset.Basic
import SmppGateway.Foundation.Run
import SmppGateway.Pinex.PClient
import SmppGateway.Smpp.Session
import SmppGateway.Smpp.ShortMessage

/-!
# The path of a submit

A `submit_sm` is judged by the policy server, when the client has policies, and sent to the backend; while it
waits for either, its `submit_info` is in the `user_data_` of `paper_client` or of `pinex`. What comes back,
or a timeout, takes it out and passes it on or answers it.

## The model

The functions are those of `sgw_external_client`, `submit_sm`, `paper_client` and `pinex` under the source's
names. One thread runs the handlers one after the other, so an event is a whole handler.

* `submit_info` has what the functions read; the texts that are only logged are left out. Logging, tracing
  and counting do not throw.
* `Externals` holds the functions of the protobuf classes and the conversions of the text.
* What a handler makes of the sessions is in the state; what else happens to them, to the connections, to
  the routing and to the configuration is any change, between two handlers.
* An exception that leaves a handler ends the process, and so does an undefined access.
* `received`, `passed` and `forwarded` are the history: the submits that arrived, the answers passed to a
  session, the requests passed to the backend.
-/

namespace SmppGateway.Gateway

open Foundation Net Smpp
open Pinex (PClient PClientList)

/-! ### The data -/

/-- `SMSC::Protobuf::SMPP::Submit_Sm_Resp`. -/
structure SubmitSmRespMessage where
  /-- `md_message_id`. -/
  mdMessageId : Bytes
  /-- `error_code`. -/
  errorCode : Int32

/-- `submit_info`. -/
structure SubmitInfo where
  /-- Its place among the submits that arrived. -/
  id : ℕ
  originating_sequence_number_ : UInt32
  originating_ext_client_ : ℕ
  originating_session_ : ℕ
  error_ : CommandStatus
  message_id_ : Bytes
  smsc_unique_id_ : Bytes
  data_coding_type_ : DataCodingUnicode
  body : Bytes
  header : Bytes
  concat_ref_num_ : UInt16
  number_of_parts_ : UInt8
  part_number_ : UInt8
  international_source_address_ : Bytes
  international_dest_address_ : Bytes
  request : SubmitSm

/-- What `sgw_external_client` reads on the path. -/
structure Submitter where
  system_id_ : Bytes
  /-- The numbers of the `binded_sessions_`. -/
  binded_sessions_ : Finset ℕ
  /-- `policy_commands_`. -/
  policy_commands_ : List ℕ
  srr_state_generator_ : Bool
  srr_state_ : Bytes

/-- What `paper_client` and `pinex` have. -/
structure Requests where
  client_list_ : Option PClientList
  user_data_ : Table Bytes SubmitInfo

/-- Which of them. -/
inductive Stage where
  /-- `paper_client`. -/
  | paper
  /-- `pinex`. -/
  | pinex
  deriving DecidableEq

/-- A `submit_sm` that arrived. -/
structure Received where
  client : ℕ
  session : ℕ
  sequenceNumber : UInt32
  deriving DecidableEq

/-- A `submit_sm_resp` that was passed to a session. -/
structure Passed where
  /-- The place of the submit among those that arrived. -/
  submit : ℕ
  session : ℕ
  sequenceNumber : UInt32
  commandStatus : CommandStatus
  messageId : Bytes
  /-- The session took it. -/
  sent : Bool

/-- The gateway, as far as a submit is concerned. -/
structure SubmitPath where
  /-- What `is_run` says. -/
  run_ : Bool
  ext_clients : ℕ → Submitter
  sessions : ℕ → Session CommandId CommandStatus Pdu
  /-- What `router_->find` finds. -/
  router_ : UInt32 → Bytes → Except Fault (List Bytes)
  paper_client_ : Requests
  pinex_ : Requests
  received : List Received
  passed : List Passed
  /-- The places of the submits that were passed to the backend. -/
  forwarded : List ℕ
  terminated : Bool

/-- The functions of other libraries. -/
structure Externals where
  /-- `Submit_Sm_Resp::ParseFromString`, with the message it leaves whatever it returns. -/
  submitSmResp : Bytes → SubmitSmRespMessage
  /-- `Response::ParseFromString`, with the `status` of the message it has read. -/
  response : Bytes → Option ℤ
  /-- `encode_to_protobuf`. -/
  encodeToProtobuf : Submitter → SubmitInfo → Except Fault Bytes
  /-- The request that `check_policies` makes. -/
  policyRequest : Bytes → SubmitInfo → List ℕ → Except Fault Bytes
  /-- `convert_gsm_to_ucs2`. -/
  convertGsmToUcs2 : Bytes → Except Fault Bytes
  /-- `convert_ascii_to_ucs2`. -/
  convertAsciiToUcs2 : Bytes → Except Fault Bytes

/-- The arrival of a `submit_sm` at `process_submit_req`, with what the calls of the function find. -/
structure Arrival where
  client : ℕ
  session : ℕ
  request : SubmitSm
  sequenceNumber : UInt32
  /-- `receive_flow_control_->check()`. -/
  waitTime : ℕ
  /-- `receive_flow_control_->drop_packet()`. -/
  dropPacket : Bool
  /-- The random `smsc_unique_id_`. -/
  uuid : Bytes
  /-- `session->remote_endpoint()`. -/
  remoteEndpoint : Except Fault Bytes

/-! ### Pure functions -/

/-- `convert_to_international`. -/
def convertToInternational (ton : Ton) (addr : Bytes) : Bytes :=
  let countryCode := ascii "98"
  if addr.isEmpty then addr
  else if ton = 0x00 then
    if addr.getD 0 0 = 0x30 then
      if addr.getD 1 0 = 0x30 then addr.drop 2 else countryCode ++ addr.drop 1
    else if addr.take countryCode.length ≠ countryCode then countryCode ++ addr
    else addr
  else if ton = 0x02 then countryCode ++ addr
  else addr

/-- `AO_REQ_TYPE`. -/
def aoReqType : UInt32 := 0x00000004

/-- `AO_RESP_TYPE`. -/
def aoRespType : UInt32 := 0x10000004

/-- The four bytes that `send` begins a message with. -/
def msgTypeBytes (msgType : UInt32) : Bytes :=
  [msgType.toUInt8, (msgType >>> 8).toUInt8, (msgType >>> 16).toUInt8, (msgType >>> 24).toUInt8]

/-- `*(uint32_t*) msg_body.substr(0, 4).c_str()`: there is a zero behind the last byte, and nothing behind the
zero. -/
def msgType (msgBody : Bytes) : Except Fault UInt32 :=
  match msgBody.take 4 ++ [0] with
  | b0 :: b1 :: b2 :: b3 :: _ => .ok (deserializeU32 b3 b2 b1 b0)
  | _ => .error .outOfBounds

/-- The key of `user_data_`. -/
def requestKey (seqNo : UInt32) (id : Bytes) : Bytes := ascii (toString seqNo.toNat) ++ ascii "@" ++ id

/-- `TIMEOUT`. -/
def paperTimeout : ℤ := 1

/-- `paper_status_to_smpp`. -/
def paperStatusToSmpp : List (ℤ × CommandStatus) :=
  [(0, CommandStatus.rok), (paperTimeout, CommandStatus.rtimeout), (2, CommandStatus.rsyserr),
    (3, CommandStatus.srcHasNoCredit), (4, CommandStatus.rinvdcs), (5, CommandStatus.srcInBlackList),
    (6, CommandStatus.srcNotInWhiteList), (7, CommandStatus.rinvsrcadr), (8, CommandStatus.rinvsrcton),
    (9, CommandStatus.rinvsrcnpi), (10, CommandStatus.rinvdstadr), (11, CommandStatus.rinvdstton),
    (12, CommandStatus.rinvdstnpi), (13, CommandStatus.dstInBlackList), (14, CommandStatus.rok),
    (15, CommandStatus.rsyserr), (16, CommandStatus.rsyserr), (17, CommandStatus.rsyserr),
    (18, CommandStatus.rsyserr), (19, CommandStatus.rsyserr), (20, CommandStatus.rsyserr),
    (21, CommandStatus.rsyserr), (22, CommandStatus.rsyserr), (23, CommandStatus.rsyserr),
    (24, CommandStatus.rsyserr), (25, CommandStatus.srcHasNoCredit), (26, CommandStatus.rsyserr),
    (27, CommandStatus.rinvsrcadr), (100, CommandStatus.rsyserr)]

/-- The status that `process_resp` gives a submit. -/
def policyStatus (status : ℤ) : CommandStatus := (paperStatusToSmpp.lookup status).getD CommandStatus.rsyserr

/-- The receipts that the configuration asks for instead of the request. -/
def Submitter.receipts (c : Submitter) (request : SubmitSm) : SubmitSm :=
  let set (value : UInt8) : SubmitSm :=
    { request with registeredDelivery :=
        { request.registeredDelivery with smscDeliveryReceipt := masked 0x03 value } }
  if c.srr_state_generator_ then
    if c.srr_state_ = ascii "never" then set 0x00
    else if c.srr_state_ = ascii "always" then set 0x01
    else if c.srr_state_ = ascii "on_failed" then set 0x02
    else if c.srr_state_ = ascii "on_succeed" then set 0x03
    else request
  else request

/-- The text of a submit. -/
def Externals.convert (X : Externals) (dataCoding : DataCodingUnicode) (body : Bytes) : Except Fault Bytes :=
  match dataCoding with
  | .ascii7Bit => X.convertGsmToUcs2 body
  | .ascii8Bit => X.convertAsciiToUcs2 body
  | .binary | .ucs2 => .ok body

namespace SubmitPath

/-! ### Answers -/

/-- `paper_client` or `pinex`. -/
def requests (s : SubmitPath) : Stage → Requests
  | .paper => s.paper_client_
  | .pinex => s.pinex_

/-- A change of `paper_client` or `pinex`. -/
def setRequests (s : SubmitPath) (r : Requests) : Stage → SubmitPath
  | .paper => { s with paper_client_ := r }
  | .pinex => { s with pinex_ := r }

/-- A change of a `client_list_`. -/
def setList (s : SubmitPath) (stage : Stage) (list : Option PClientList) : SubmitPath :=
  s.setRequests { s.requests stage with client_list_ := list } stage

/-- A change of a `user_data_`. -/
def setUserData (s : SubmitPath) (stage : Stage) (userData : Table Bytes SubmitInfo) : SubmitPath :=
  s.setRequests { s.requests stage with user_data_ := userData } stage

/-- `send_submit_resp`. -/
def sendSubmitResp (s : SubmitPath) (user_data : SubmitInfo) : SubmitPath × Bool :=
  if (s.ext_clients user_data.originating_ext_client_).binded_sessions_ = ∅ then (s, false)
  else
    let number := user_data.originating_session_
    let pdu : Pdu := ⟨.submitSmResp, SubmitSmResp.mk user_data.message_id_⟩
    let (session, result) := Session.sendImpl dialect (s.sessions number) pdu
      user_data.originating_sequence_number_ user_data.error_
    let answer : Passed := ⟨user_data.id, number, user_data.originating_sequence_number_, user_data.error_,
      user_data.message_id_, result.toBool⟩
    ({ s with sessions := Function.update s.sessions number session, passed := s.passed ++ [answer] },
      result.toBool)

/-- `submit_sm::send_resp`. -/
def sendResp (s : SubmitPath) (user_data : SubmitInfo) : SubmitPath := (s.sendSubmitResp user_data).1

/-- `submit_sm::process_resp`. -/
def processResp (s : SubmitPath) (user_data : SubmitInfo) (response : SubmitSmRespMessage) : SubmitPath :=
  s.sendResp { user_data with
    message_id_ := response.mdMessageId
    error_ := response.errorCode.toUInt32 }

/-! ### The two stages -/

variable (X : Externals)

/-- `pinex::send` of a submit. -/
def pinexSend (s : SubmitPath) (msg_type : UInt32) (user_data : SubmitInfo) : SubmitPath × Except Fault Bool :=
  match X.encodeToProtobuf (s.ext_clients user_data.originating_ext_client_) user_data with
  | .error e => (s, .error e)
  | .ok encoded =>
    let send_msg := msgTypeBytes msg_type ++ encoded
    match s.router_ msg_type user_data.international_dest_address_ with
    | .error e => (s, .error e)
    | .ok [] => (s, .ok false)
    | .ok (destination :: _) =>
      match s.pinex_.client_list_ with
      | none => (s, .error .outOfBounds)
      | some list =>
        match list.sendRequestTo send_msg destination with
        | (list, .error .outOfBounds) => (s.setList .pinex (some list), .error .outOfBounds)
        | (list, .error (.exception _)) => (s.setList .pinex (some list), .ok false)
        | (list, .ok seq_no) =>
          let s := s.setList .pinex (some list)
          if seq_no = 0 then (s, .ok false)
          else
            let userData := s.pinex_.user_data_.insertNew (requestKey seq_no destination) user_data
            ({ s.setUserData .pinex userData with forwarded := s.forwarded ++ [user_data.id] }, .ok true)

/-- `submit_sm::on_check_policies_responce`. -/
def onCheckPoliciesResponce (s : SubmitPath) (user_data : SubmitInfo) : SubmitPath × Except Fault Unit :=
  if !s.run_ then (s, .ok ())
  else if user_data.error_ = CommandStatus.rok then
    match s.pinexSend X aoReqType user_data with
    | (s, .error e) => (s, .error e)
    | (s, .ok true) => (s, .ok ())
    | (s, .ok false) => (s.sendResp { user_data with error_ := CommandStatus.rsyserr }, .ok ())
  else (s.sendResp user_data, .ok ())

/-- `paper_client::check_policies`. -/
def checkPolicies (s : SubmitPath) (rcv_clnt_sys_id : Bytes) (user_data : SubmitInfo) (commands : List ℕ) :
    SubmitPath × Except Fault Bool :=
  match s.paper_client_.client_list_ with
  | none => (s, .ok false)
  | some list =>
    match X.policyRequest rcv_clnt_sys_id user_data commands with
    | .error e => (s, .error e)
    | .ok message =>
      match list.sendRequest message with
      | (list, .error .outOfBounds) => (s.setList .paper (some list), .error .outOfBounds)
      | (list, .error (.exception _)) => (s.setList .paper (some list), .ok false)
      | (list, .ok (seq_no, id)) =>
        let s := s.setList .paper (some list)
        if seq_no = 0 then (s, .ok false)
        else
          let userData := s.paper_client_.user_data_.insertNew (requestKey seq_no id) user_data
          (s.setUserData .paper userData, .ok true)

/-- `paper_client::process_resp`. -/
def paperProcessResp (s : SubmitPath) (client_id : Bytes) (seq_no : UInt32) (status : ℤ) :
    SubmitPath × Except Fault Unit :=
  let key := requestKey seq_no client_id
  match s.paper_client_.user_data_.lookup key with
  | none => (s, .ok ())
  | some submit_data =>
    (s.setUserData .paper (s.paper_client_.user_data_.erase key)).onCheckPoliciesResponce X
      { submit_data with error_ := policyStatus status }

/-- `pinex::receive_response` and `pinex::timeout_request`: what a message of the right type says of the submit
that was found is its answer. -/
def pinexResolve (s : SubmitPath) (client_id : Bytes) (seq_no : UInt32) (msg_body : Bytes) (type : UInt32)
    (response : Bytes → SubmitSmRespMessage) : SubmitPath × Except Fault Unit :=
  let key := requestKey seq_no client_id
  match s.pinex_.user_data_.lookup key with
  | none => (s, .ok ())
  | some orig_submit_info =>
    let s := s.setUserData .pinex (s.pinex_.user_data_.erase key)
    match msgType msg_body with
    | .error e => (s, .error e)
    | .ok msg_type =>
      if msg_type = type then (s.processResp orig_submit_info (response (msg_body.drop 4)), .ok ())
      else (s, .ok ())

/-- `paper_client::receive_response`. -/
def paperReceiveResponse (s : SubmitPath) (client_id : Bytes) (seq_no : UInt32) (msg_body : Bytes) :
    SubmitPath × Except Fault Unit :=
  match X.response msg_body with
  | none => (s, .ok ())
  | some status => s.paperProcessResp X client_id seq_no status

/-- `paper_client::timeout_request`. -/
def paperTimeoutRequest (s : SubmitPath) (client_id : Bytes) (seq_no : UInt32) (_ : Bytes) :
    SubmitPath × Except Fault Unit :=
  s.paperProcessResp X client_id seq_no paperTimeout

/-- `pinex::receive_response`. -/
def pinexReceiveResponse (s : SubmitPath) (client_id : Bytes) (seq_no : UInt32) (msg_body : Bytes) :
    SubmitPath × Except Fault Unit :=
  s.pinexResolve client_id seq_no msg_body aoRespType X.submitSmResp

/-- `pinex::timeout_request`. -/
def pinexTimeoutRequest (s : SubmitPath) (client_id : Bytes) (seq_no : UInt32) (msg_body : Bytes) :
    SubmitPath × Except Fault Unit :=
  s.pinexResolve client_id seq_no msg_body aoReqType fun _ => ⟨[], ⟨CommandStatus.rtimeout⟩⟩

/-- `receive_response` of either. -/
def receiveResponse (s : SubmitPath) : Stage → Bytes → UInt32 → Bytes → SubmitPath × Except Fault Unit
  | .paper => s.paperReceiveResponse X
  | .pinex => s.pinexReceiveResponse X

/-- `timeout_request` of either. -/
def timeoutRequest (s : SubmitPath) : Stage → Bytes → UInt32 → Bytes → SubmitPath × Except Fault Unit
  | .paper => s.paperTimeoutRequest X
  | .pinex => s.pinexTimeoutRequest

/-! ### The arrival of a submit -/

/-- What `process_submit_req` fills in, in its `try`. -/
def prepare (ext_client : Submitter) (a : Arrival) (user_data_info : SubmitInfo) : Except Fault SubmitInfo :=
  match unpackShortMessage a.request.esmClass a.request.dataCoding a.request.shortMessage with
  | .error e => .error e
  | .ok (header, body) =>
    let data_coding_type := extractUnicode a.request.dataCoding
    match X.convert data_coding_type body with
    | .error e => .error e
    | .ok body =>
      match a.remoteEndpoint with
      | .error e => .error e
      | .ok _ =>
        let mpd := header.getMultiPartData
        .ok { user_data_info with
          data_coding_type_ := data_coding_type
          body := body
          smsc_unique_id_ := a.uuid
          number_of_parts_ := mpd.number_of_parts_
          concat_ref_num_ := mpd.concat_sm_ref_num_
          part_number_ := mpd.sequence_number_
          request := ext_client.receipts a.request
          header := header.serialize }

/-- What `process_submit_req` then does, in its `try`. -/
def judge (s : SubmitPath) (ext_client : Submitter) (user_data_info : SubmitInfo) :
    SubmitPath × Except Fault Unit :=
  if ext_client.policy_commands_.isEmpty then
    s.onCheckPoliciesResponce X { user_data_info with error_ := CommandStatus.rok }
  else
    match s.checkPolicies X ext_client.system_id_ user_data_info ext_client.policy_commands_ with
    | (s, .error e) => (s, .error e)
    | (s, .ok true) => (s, .ok ())
    | (s, .ok false) => (s.sendResp { user_data_info with error_ := CommandStatus.rsyserr }, .ok ())

/-- The `try` of `process_submit_req`. -/
def tryProcess (s : SubmitPath) (a : Arrival) (user_data_info : SubmitInfo) : SubmitPath × Except Fault Unit :=
  let ext_client := s.ext_clients a.client
  match prepare X ext_client a user_data_info with
  | .error e => (s, .error e)
  | .ok user_data_info => s.judge X ext_client user_data_info

/-- The `submit_info` that `process_submit_req` begins with. -/
def submitInfo (s : SubmitPath) (a : Arrival) : SubmitInfo where
  id := s.received.length
  originating_sequence_number_ := a.sequenceNumber
  originating_ext_client_ := a.client
  originating_session_ := a.session
  error_ := CommandStatus.rok
  message_id_ := []
  smsc_unique_id_ := []
  data_coding_type_ := .ascii7Bit
  body := []
  header := []
  concat_ref_num_ := 0
  number_of_parts_ := 0
  part_number_ := 0
  international_source_address_ := convertToInternational a.request.sourceAddrTon a.request.sourceAddr
  international_dest_address_ := convertToInternational a.request.destAddrTon a.request.destAddr
  request := a.request

/-- The sessions of a client stop receiving. -/
def pauseReceiving (s : SubmitPath) (client : ℕ) : SubmitPath :=
  { s with sessions := fun number =>
      if number ∈ (s.ext_clients client).binded_sessions_ then (s.sessions number).pauseReceiving
      else s.sessions number }

/-- `process_submit_req`. -/
def processSubmitReq (s : SubmitPath) (a : Arrival) : SubmitPath × Except Fault Unit :=
  let user_data_info := s.submitInfo a
  let s := { s with received := s.received ++ [Received.mk a.client a.session a.sequenceNumber] }
  if a.waitTime ≠ 0 ∧ a.dropPacket then
    (s.sendResp { user_data_info with error_ := CommandStatus.rthrottled }, .ok ())
  else
    let s := if a.waitTime ≠ 0 then s.pauseReceiving a.client else s
    match s.tryProcess X a user_data_info with
    | (s, .ok ()) => (s, .ok ())
    | (s, .error .outOfBounds) => (s, .error .outOfBounds)
    | (s, .error (.exception _)) =>
      (s.sendResp { user_data_info with error_ := CommandStatus.rsyserr }, .ok ())

/-! ### Events -/

/-- The calls of `on_session_timeout`, one for each request whose time is over. -/
def timeouts (s : SubmitPath) (stage : Stage) (server_id : Bytes) :
    List (UInt32 × Pinex.Stream) → SubmitPath × Except Fault Unit
  | [] => (s, .ok ())
  | (sequence_number, sm) :: rest =>
    match s.timeoutRequest X stage server_id sequence_number sm.messageBody with
    | (s, .ok ()) => s.timeouts stage server_id rest
    | (s, .error e) => (s, .error e)

/-- What may happen on the path. -/
inductive SubmitEvent where
  /-- `process_submit_req`. -/
  | submit (a : Arrival)
  /-- `on_session_response` of a `p_client`, by a session that was bound to a server. -/
  | response (stage : Stage) (k : ℕ) (server_id : Bytes) (resp_packet : Pinex.Pdu) (sequence_number : UInt32)
  /-- `on_timer` of the `packet_expirator_` of a `p_client`. -/
  | timer (stage : Stage) (k : ℕ)
  /-- A change of the connections to the servers. -/
  | connect (stage : Stage) (list : Option PClientList)
  /-- A change of the sessions of the clients. -/
  | serve (sessions : ℕ → Session CommandId CommandStatus Pdu)
  /-- A change of the clients. -/
  | configure (ext_clients : ℕ → Submitter)
  /-- A change of the routing. -/
  | route (router : UInt32 → Bytes → Except Fault (List Bytes))

/-- A handler has returned, or an exception has left it. -/
def returned : SubmitPath × Except Fault Unit → SubmitPath
  | (s, .ok ()) => s
  | (s, .error _) => { s with terminated := true }

/-- `p_client::on_session_response`. -/
def onSessionResponse (s : SubmitPath) (stage : Stage) (list : PClientList) (k : ℕ) (server_id : Bytes)
    (resp_packet : Pinex.Pdu) (sequence_number : UInt32) : SubmitPath × Except Fault Unit :=
  match (list.p_client_list_ k).onSessionResponse resp_packet sequence_number with
  | (clnt, none) => (s.setList stage (some (list.update k clnt)), .ok ())
  | (clnt, some body) =>
    (s.setList stage (some (list.update k clnt))).receiveResponse X stage server_id sequence_number body

/-- `on_timer` of the `packet_expirator_` of a `p_client`. -/
def onTimer (s : SubmitPath) (stage : Stage) (list : PClientList) (k : ℕ) : SubmitPath × Except Fault Unit :=
  let clnt := list.p_client_list_ k
  match s.timeouts X stage clnt.server_id_ clnt.packet_expirator_.expiring with
  | (s, .error e) => (s, .error e)
  | (s, .ok ()) =>
    (s.setList stage ((s.requests stage).client_list_.map fun list =>
      list.update k (list.p_client_list_ k).onTimer), .ok ())

/-- What an event makes of the path. -/
def step (s : SubmitPath) (e : SubmitEvent) : SubmitPath :=
  if s.terminated then s
  else
    match e with
    | .submit a => returned (s.processSubmitReq X a)
    | .response stage k server_id resp_packet sequence_number =>
      match (s.requests stage).client_list_ with
      | none => s
      | some list => returned (s.onSessionResponse X stage list k server_id resp_packet sequence_number)
    | .timer stage k =>
      match (s.requests stage).client_list_ with
      | none => s
      | some list => returned (s.onTimer X stage list k)
    | .connect stage list => s.setList stage list
    | .serve sessions => { s with sessions := sessions }
    | .configure ext_clients => { s with ext_clients := ext_clients }
    | .route router => { s with router_ := router }

/-- The gateway before any submit. -/
def start (run : Bool) (ext_clients : ℕ → Submitter) (sessions : ℕ → Session CommandId CommandStatus Pdu)
    (router : UInt32 → Bytes → Except Fault (List Bytes)) (paper pinex : Option PClientList) : SubmitPath where
  run_ := run
  ext_clients := ext_clients
  sessions := sessions
  router_ := router
  paper_client_ := ⟨paper, ∅⟩
  pinex_ := ⟨pinex, ∅⟩
  received := []
  passed := []
  forwarded := []
  terminated := false

end SubmitPath

end SmppGateway.Gateway
