import Mathlib.Data.Finset.Card
import SmppGateway.Gateway.DeliverSm
import SmppGateway.Net.Expirator
import SmppGateway.Smpp.Session

/-!
# Deliveries and their answers

`sgw_external_client::send_deliver_sm` sends a `deliver_sm` on one of the sessions of the client and arms the
dialog timeout under its sequence number. The answer, the timeout or the close of a session completes it.

## The model

The functions are those of `sgw_external_client` under the source's names. One thread runs the handlers one
after the other, so an event is a whole handler. Which session `rand` selects, and what `remote_endpoint` finds,
are part of the event; what else happens to the sessions is any change between two handlers. Logging, tracing
and counting do not throw, and neither does the answer to the backend.

`history` says what was sent and what has come, `completed` lists the calls of `process_deliver_resp` and
`refused` what is answered without having been sent.

## What is proved

* `Deliverer.correlated_run` — a delivery that was sent is completed once, with what it has come to, in every
  run in which the entries under the numbers that are used are those of the session at hand.
-/

namespace SmppGateway.Gateway

open Foundation Net Smpp

/-- `SMSC::Protobuf::SMPP::DeliveryReport_Req`. -/
structure DeliveryReportReq where
  smpp : SmppSm
  body : MessageBody

/-- What `send_deliver_sm` passes to `session->send` for a report. -/
def DeliveryReportReq.deliverSm (request : DeliveryReportReq) : DeliverSm where
  serviceType := request.smpp.serviceType
  sourceAddrTon := u8 request.smpp.sourceAddrTon
  sourceAddrNpi := u8 request.smpp.sourceAddrNpi
  sourceAddr := request.smpp.sourceAddr
  destAddrTon := u8 request.smpp.destAddrTon
  destAddrNpi := u8 request.smpp.destAddrNpi
  destAddr := request.smpp.destAddr
  esmClass := EsmClass.fromU8 (u8 request.smpp.esmClass)
  protocolId := u8 request.smpp.protocolId
  priorityFlag := u8 request.smpp.priorityFlag
  scheduleDeliveryTime := []
  validityPeriod := []
  registeredDelivery := RegisteredDelivery.fromU8 (u8 request.smpp.registeredDelivery)
  replaceIfPresentFlag := u8 request.smpp.replaceIfPresentFlag
  dataCoding := u8 request.body.dataCoding
  smDefaultMsgId := u8 request.smpp.smDefaultMsgId
  shortMessage := request.body.shortMessage
  oparam := OParam.empty

/-- What a `deliver_info` asks for, by its `is_report_`. -/
inductive DeliverRequest where
  /-- `request`. -/
  | request (request : DeliverSmReq)
  /-- `dr_request`. -/
  | report (request : DeliveryReportReq)

/-- The `deliver_sm` of a `deliver_info`, or what is thrown on the way to it. -/
def DeliverRequest.deliverSm : DeliverRequest → Except Fault DeliverSm
  | .request r => r.deliverSm
  | .report r => .ok r.deliverSm

/-- `deliver_info`. -/
structure DeliverInfo where
  /-- The place of its sending in the history. -/
  id : ℕ
  destination_ip_ : Bytes
  error_ : CommandStatus
  request : DeliverRequest

/-- What `sgw_external_client` delivers with. -/
structure Deliverer where
  /-- The numbers of the `binded_sessions_`. -/
  binded_sessions_ : Finset ℕ
  sessions : ℕ → Session CommandId CommandStatus Pdu
  timeout_sec_ : ℕ
  packet_expirator_ : Expirator UInt64 DeliverInfo
  history : List (Happening ℕ UInt32 CommandStatus Unit)
  /-- The calls of `process_deliver_resp`: which delivery, and its `error_`. -/
  completed : List (ℕ × CommandStatus)
  /-- The calls of `deliver_sm::process_resp` for what was not sent. -/
  refused : List DeliverInfo

/-- What may happen to the client. -/
inductive DeliverEvent where
  /-- `set_session`. -/
  | bind (session : ℕ)
  /-- `send_deliver_sm`, which selects a session. -/
  | send (deliver_info : DeliverInfo) (selected_session : ℕ) (remoteEndpoint : Except Fault Bytes)
  /-- `on_session_response`. -/
  | response (session : ℕ) (response_packet : Pdu) (sequence_number : UInt32) (command_status : CommandStatus)
  /-- `on_timer` of `packet_expirator_`. -/
  | timer
  /-- `on_session_close`. -/
  | close (session : ℕ)
  /-- A change of the sessions. -/
  | serve (sessions : ℕ → Session CommandId CommandStatus Pdu)

namespace Deliverer

/-- `process_deliver_resp`. -/
def processDeliverResp (d : Deliverer) (orig_deliver_info : DeliverInfo) : Deliverer :=
  { d with completed := d.completed ++ [(orig_deliver_info.id, orig_deliver_info.error_)] }

/-- `on_packet_expire`. -/
def onPacketExpire (d : Deliverer) (user_data : DeliverInfo) : Deliverer :=
  d.processDeliverResp { user_data with error_ := CommandStatus.rtimeout }

/-- `deliver_sm::process_resp` for what was not sent. -/
def refuse (d : Deliverer) (deliver_info : DeliverInfo) (error : CommandStatus) : Deliverer :=
  { d with refused := d.refused ++ [{ deliver_info with error_ := error }] }

/-- `set_session`. -/
def setSession (d : Deliverer) (session : ℕ) : Deliverer :=
  { d with binded_sessions_ := insert session d.binded_sessions_ }

/-- `send_deliver_sm`. -/
def sendDeliverSm (d : Deliverer) (deliver_info : DeliverInfo) (selected_session : ℕ)
    (remoteEndpoint : Except Fault Bytes) : Deliverer :=
  if d.binded_sessions_ = ∅ then d.refuse deliver_info CommandStatus.dstEsmeNotBound
  else
    match remoteEndpoint with
    | .error _ => d.refuse deliver_info CommandStatus.rsyserr
    | .ok ip_address =>
      let deliver_info := { deliver_info with destination_ip_ := ip_address }
      match deliver_info.request.deliverSm with
      | .error _ => d.refuse deliver_info CommandStatus.rsyserr
      | .ok pdu =>
        let (session, result) := Session.sendRequest dialect (d.sessions selected_session) ⟨.deliverSm, pdu⟩
        let d := { d with sessions := Function.update d.sessions selected_session session }
        match result with
        | .error _ => d.refuse deliver_info CommandStatus.rsyserr
        | .ok seq_no =>
          if seq_no = 0 then d.refuse deliver_info CommandStatus.rsyserr
          else
            { d with
              packet_expirator_ := d.packet_expirator_.add seq_no.toUInt64 (d.timeout_sec_ * 10 ^ 9)
                { deliver_info with id := d.history.length }
              history := d.history ++ [.sent selected_session seq_no] }

/-- `on_session_response`. -/
def onSessionResponse (d : Deliverer) (response_packet : Pdu) (sequence_number : UInt32)
    (command_status : CommandStatus) : Deliverer :=
  if response_packet.1 = .deliverSmResp then
    match d.packet_expirator_.getInfo sequence_number.toUInt64 with
    | none => d
    | some orig_deliver_info =>
      { d with packet_expirator_ := d.packet_expirator_.remove sequence_number.toUInt64 }.processDeliverResp
        { orig_deliver_info with error_ := command_status }
  else d

/-- `on_timer` of `packet_expirator_`. -/
def onTimer (d : Deliverer) : Deliverer :=
  let d := d.packet_expirator_.expiring.foldl (fun d x => d.onPacketExpire x.2) d
  { d with packet_expirator_ := d.packet_expirator_.onTimer }

/-- `on_session_close`. -/
def onSessionClose (d : Deliverer) (session : ℕ) : Deliverer :=
  if session ∈ d.binded_sessions_ then
    let d := { d with binded_sessions_ := d.binded_sessions_.erase session }
    let d := d.packet_expirator_.all.foldl (fun d x => d.onPacketExpire x.2) d
    { d with packet_expirator_ := d.packet_expirator_.expireAll }
  else d

/-- Something has come. -/
def observe (d : Deliverer) (happening : Happening ℕ UInt32 CommandStatus Unit) : Deliverer :=
  { d with history := d.history ++ [happening] }

/-- What an event makes of the client. -/
def step (d : Deliverer) : DeliverEvent → Deliverer
  | .bind session => d.setSession session
  | .send deliver_info selected_session remoteEndpoint =>
    if d.binded_sessions_ = ∅ ∨ selected_session ∈ d.binded_sessions_ then
      d.sendDeliverSm deliver_info selected_session remoteEndpoint
    else d
  | .response session response_packet sequence_number command_status =>
    let d :=
      if response_packet.1 = .deliverSmResp then d.observe (.answered session sequence_number command_status)
      else d
    d.onSessionResponse response_packet sequence_number command_status
  | .timer => (d.observe (.ticked ())).onTimer
  | .close session => (d.observe (.closed session)).onSessionClose session
  | .serve sessions => { d with sessions := sessions }

/-- A client without sessions. -/
def start (sessions : ℕ → Session CommandId CommandStatus Pdu) (timeout_sec : ℕ) : Deliverer where
  binded_sessions_ := ∅
  sessions := sessions
  timeout_sec_ := timeout_sec
  packet_expirator_ := .create (10 ^ 6)
  history := []
  completed := []
  refused := []

/-! ### The condition -/

/-- The delivery of an entry was sent on a session. -/
def SentOn (d : Deliverer) (session : ℕ) (info : DeliverInfo) : Prop :=
  ∃ sequence_number, d.history[info.id]? = some (.sent session sequence_number)

/-- The session takes the `deliver_sm`. -/
def Takes (d : Deliverer) (deliver_info : DeliverInfo) (session : ℕ) : Prop :=
  (d.sessions session).state_ = .opened ∧
    ∃ pdu, deliver_info.request.deliverSm = .ok pdu ∧ (dialect.serializeTo [] ⟨.deliverSm, pdu⟩).2 = .ok ()

/-- A number that a session gives out is not armed; what an answer or the close of a session takes was sent on
that session. -/
def Apart (d : Deliverer) : DeliverEvent → Prop
  | .send deliver_info selected_session _ => d.Takes deliver_info selected_session →
      d.packet_expirator_.getInfo
        (nextSequenceNumber (d.sessions selected_session).sequence_number_).toUInt64 = none
  | .response session _ sequence_number _ =>
      ∀ info, d.packet_expirator_.getInfo sequence_number.toUInt64 = some info → d.SentOn session info
  | .close session => session ∈ d.binded_sessions_ → ∀ x ∈ d.packet_expirator_.all, d.SentOn session x.2
  | _ => True

/-! ### The books -/

/-- The `error_` of a delivery that has come to something. -/
def errorOf : Outcome CommandStatus → CommandStatus
  | .answered command_status => command_status
  | .closed => CommandStatus.rtimeout
  | .timedOut => CommandStatus.rtimeout

/-- The dialog timeout, in ticks. -/
def patience (d : Deliverer) (_ : ℕ) : ℕ := d.timeout_sec_ * 1000

/-- The ledger of what has happened. -/
def books (d : Deliverer) : Ledger ℕ UInt32 CommandStatus := ledger (fun _ => ()) d.patience d.history

/-- The expirator and the completed deliveries are what the ledger says. -/
structure Kept (d : Deliverer) : Prop where
  period : d.packet_expirator_.period_ = 10 ^ 6
  timeout : d.timeout_sec_ * 1000 < 2 ^ 32
  tracks : d.packet_expirator_.Tracks (fun _ => true) DeliverInfo.id
    (fun w => w.number.toUInt64) Waiting.request d.books.waiting
  completed : d.completed.Perm (d.books.settled.map fun x => (x.1, errorOf x.2))
  bound : ∀ w ∈ d.books.waiting, w.channel ∈ d.binded_sessions_

variable {d : Deliverer}

theorem kept_start (sessions : ℕ → Session CommandId CommandStatus Pdu) {timeout_sec : ℕ}
    (h : timeout_sec * 1000 < 2 ^ 32) : (start sessions timeout_sec).Kept where
  period := rfl
  timeout := h
  tracks := Expirator.tracks_create _
  completed := .nil
  bound _ hw := nomatch hw

/-- What `send_deliver_sm` does: it refuses the delivery, or arms the dialog timeout under the number that
the session gave it. -/
theorem sendDeliverSm_cases (d : Deliverer) (deliver_info : DeliverInfo) (selected_session : ℕ)
    (remoteEndpoint : Except Fault Bytes) :
    ∃ sessions refused,
      d.sendDeliverSm deliver_info selected_session remoteEndpoint =
          { d with sessions := sessions, refused := refused } ∨
      (d.binded_sessions_ ≠ ∅ ∧ d.Takes deliver_info selected_session ∧
        ∃ info : DeliverInfo, info.id = d.history.length ∧
          let seq_no := nextSequenceNumber (d.sessions selected_session).sequence_number_
          d.sendDeliverSm deliver_info selected_session remoteEndpoint =
            { d with
              sessions := sessions
              refused := refused
              packet_expirator_ := d.packet_expirator_.add seq_no.toUInt64 (d.timeout_sec_ * 10 ^ 9) info
              history := d.history ++ [.sent selected_session seq_no] }) := by
  unfold sendDeliverSm
  split
  · exact ⟨_, _, .inl rfl⟩
  rename_i hbound
  split
  · exact ⟨_, _, .inl rfl⟩
  simp only
  split
  · exact ⟨_, _, .inl rfl⟩
  rename_i pdu hpdu
  split
  · exact ⟨_, _, .inl rfl⟩
  rename_i seq_no hsent
  obtain ⟨hopen, hok, rfl⟩ := Session.of_sendRequest_snd hsent
  split
  · exact ⟨_, _, .inl rfl⟩
  · exact ⟨_, _, .inr ⟨hbound, ⟨hopen, pdu, hpdu, hok⟩, _, rfl, rfl⟩⟩

/-- What has come is booked: the deliveries that it ends are completed, and the expirator has the others. -/
theorem Kept.after (h : d.Kept) {d' : Deliverer} {happening : Happening ℕ UInt32 CommandStatus Unit}
    (hhistory : d'.history = d.history ++ [happening]) (htimeout : d'.timeout_sec_ = d.timeout_sec_)
    (hperiod : d'.packet_expirator_.period_ = d.packet_expirator_.period_) {ends : Waiting ℕ UInt32 → Bool}
    {o : Outcome CommandStatus}
    (hfate : ∀ w ∈ d.books.waiting, fate (fun _ => ()) w happening = if ends w then some o else none)
    (htracks : d'.packet_expirator_.Tracks (fun _ => true) DeliverInfo.id (fun w => w.number.toUInt64)
      Waiting.request
      (d.books.entered d.patience happening ++
        (d.books.waiting.filter fun w => !ends w).map fun w => w.pass (fun _ => ()) happening))
    (hcompleted : d'.completed.Perm
      (d.completed ++ (d.books.waiting.filter ends).map fun w => (w.request, errorOf o)))
    (hbound : ∀ w ∈ d.books.entered d.patience happening ++ d.books.waiting.filter fun w => !ends w,
      w.channel ∈ d'.binded_sessions_) : d'.Kept := by
  have hpatience : d'.patience = d.patience := by
    funext session
    rw [patience, patience, htimeout]
  have hbooks : d'.books = d.books.record (fun _ => ()) d.patience happening := by
    rw [books, hhistory, hpatience]
    exact ledger_concat _ _
  obtain ⟨hwaiting, hsettled⟩ := d.books.record_eq (fun _ => ()) d.patience happening ends o hfate
  refine ⟨hperiod.trans h.period, htimeout ▸ h.timeout, ?_, ?_, ?_⟩
  · rw [hbooks, hwaiting]
    exact htracks
  · rw [hbooks, hsettled, List.map_append, List.map_map]
    exact hcompleted.trans (h.completed.append_right _)
  · rw [hbooks, hwaiting]
    intro w hw
    rcases List.mem_append.mp hw with hnew | hpassed
    · exact hbound w (List.mem_append_left _ hnew)
    · obtain ⟨v, hv, rfl⟩ := List.mem_map.mp hpassed
      rw [channel_pass]
      exact hbound v (List.mem_append_right _ hv)

/-- A delivery that is sent begins to wait. -/
theorem kept_send (h : d.Kept) {deliver_info : DeliverInfo} {selected_session : ℕ}
    {remoteEndpoint : Except Fault Bytes} (hselected : d.binded_sessions_ = ∅ ∨ selected_session ∈ d.binded_sessions_)
    (hapart : d.Apart (.send deliver_info selected_session remoteEndpoint)) :
    (d.sendDeliverSm deliver_info selected_session remoteEndpoint).Kept := by
  obtain ⟨sessions, refused, heq | ⟨hbound, htakes, info, hid, heq⟩⟩ :=
    d.sendDeliverSm_cases deliver_info selected_session remoteEndpoint
  · rw [heq]
    exact ⟨h.period, h.timeout, h.tracks, h.completed, h.bound⟩
  · rw [heq]
    have hchannel : selected_session ∈ d.binded_sessions_ := hselected.resolve_left hbound
    have hrecorded : d.books.recorded = d.history.length := (ledger_sound (fun _ => ()) d.patience d.history).recorded
    have hticks : (d.timeout_sec_ * 10 ^ 9) / 10 ^ 6 = d.timeout_sec_ * 1000 := by omega
    have hfate (w : Waiting ℕ UInt32) (_ : w ∈ d.books.waiting) :
        fate (fun _ => ()) w (.sent selected_session (nextSequenceNumber
          (d.sessions selected_session).sequence_number_) : Happening ℕ UInt32 CommandStatus Unit) =
        if false then some .closed else none := rfl
    refine h.after rfl rfl rfl hfate ?_ ?_ ?_
    all_goals
      simp only [Ledger.entered, hrecorded, Waiting.pass, Bool.not_false, List.filter_true, List.map_id',
        List.filter_false, List.map_nil, List.append_nil, List.singleton_append]
    · refine h.tracks.add (w := ⟨d.history.length, selected_session, _, d.patience selected_session⟩) rfl
        (hapart htakes) ?_ h.timeout hid
      rw [h.period, hticks]
      rfl
    · exact .refl _
    · exact List.forall_mem_cons.mpr ⟨hchannel, h.bound⟩

theorem channel_of_sentOn {w : Waiting ℕ UInt32} (hw : w ∈ d.books.waiting) {info : DeliverInfo}
    (hid : info.id = w.request) {session : ℕ} (h : d.SentOn session info) : w.channel = session := by
  obtain ⟨sequence_number, hsent⟩ := h
  have hlisted := ((ledger_sound (fun _ => ()) d.patience d.history).waiting w hw).1
  rw [hid] at hsent
  exact (Happening.sent.inj (Option.some.inj (hlisted.symm.trans hsent))).1

/-- What an answer takes, if it takes anything, is the delivery that was sent under its number on its session. -/
theorem taken_iff (h : d.Kept) {session : ℕ} {response_packet : Pdu} {sequence_number : UInt32}
    {command_status : CommandStatus}
    (hapart : d.Apart (.response session response_packet sequence_number command_status))
    {v : Waiting ℕ UInt32} (hv : v ∈ d.books.waiting) :
    (v.channel = session ∧ v.number = sequence_number) ↔ v.number.toUInt64 = sequence_number.toUInt64 := by
  rw [UInt32.toUInt64_inj]
  refine ⟨And.right, fun hnumber => ⟨?_, hnumber⟩⟩
  have hmem : v ∈ d.books.waiting.filter fun w => w.number.toUInt64 = sequence_number.toUInt64 :=
    List.mem_filter.mpr ⟨hv, by rw [hnumber]; exact decide_eq_true rfl⟩
  cases hinfo : d.packet_expirator_.getInfo sequence_number.toUInt64 with
  | none =>
    rw [h.tracks.of_getInfo_none rfl hinfo] at hmem
    cases hmem
  | some info =>
    obtain ⟨w, hw, hid⟩ := h.tracks.of_getInfo rfl hinfo
    rw [hw] at hmem
    obtain rfl := List.mem_singleton.mp hmem
    exact channel_of_sentOn hv hid (hapart info hinfo)

/-- An answer completes the delivery that waits for it. -/
theorem kept_response (h : d.Kept) {session : ℕ} {response_packet : Pdu} {sequence_number : UInt32}
    {command_status : CommandStatus} (hkind : response_packet.1 = .deliverSmResp)
    (hapart : d.Apart (.response session response_packet sequence_number command_status)) :
    ((d.observe (.answered session sequence_number command_status)).onSessionResponse response_packet
      sequence_number command_status).Kept := by
  have hfate (w : Waiting ℕ UInt32) (hw : w ∈ d.books.waiting) :
      fate (fun _ => ()) w (.answered session sequence_number command_status) =
        if decide (w.number.toUInt64 = sequence_number.toUInt64) then some (.answered command_status) else none := by
    simp only [fate, taken_iff h hapart hw, decide_eq_true_eq]
  unfold onSessionResponse
  rw [if_pos hkind]
  split
  · rename_i hinfo
    have hnone := h.tracks.of_getInfo_none rfl hinfo
    have hall : (d.books.waiting.filter fun w => !decide (w.number.toUInt64 = sequence_number.toUInt64)) =
        d.books.waiting := by
      rw [List.filter_eq_nil_iff] at hnone
      exact List.filter_eq_self.mpr fun w hw => by simpa using hnone w hw
    refine h.after rfl rfl rfl hfate ?_ ?_ ?_
    · simp only [Ledger.entered, Waiting.pass, List.map_id', List.nil_append, hall]
      exact h.tracks
    · rw [hnone]
      simp [observe]
    · rw [hall]
      exact h.bound
  · rename_i info hinfo
    obtain ⟨w, hw, hid⟩ := h.tracks.of_getInfo rfl hinfo
    refine h.after rfl rfl rfl hfate ?_ ?_ ?_
    · simp only [Ledger.entered, Waiting.pass, List.map_id', List.nil_append, ← decide_not]
      exact h.tracks.remove sequence_number.toUInt64
    · rw [hw]
      exact .of_eq (by rw [processDeliverResp, List.map_singleton, hid]; rfl)
    · intro v hv
      exact h.bound v (List.mem_filter.mp hv).1

theorem foldl_onPacketExpire (d : Deliverer) (entries : List (UInt64 × DeliverInfo)) :
    entries.foldl (fun d x => d.onPacketExpire x.2) d =
      { d with completed := d.completed ++ entries.map fun x => (x.2.id, CommandStatus.rtimeout) } := by
  induction entries generalizing d with
  | nil => simp
  | cons x entries ih =>
    rw [List.foldl_cons, ih]
    simp [onPacketExpire, processDeliverResp]

/-- A tick completes the deliveries whose dialog timeout is over. -/
theorem kept_onTimer (h : d.Kept) : (d.observe (.ticked ())).onTimer.Kept := by
  obtain ⟨hcalled, hleft⟩ := h.tracks.onTimer (fun w => { w with left := w.left - 1 }) fun _ _ _ => ⟨rfl, rfl, rfl⟩
  have hfate (w : Waiting ℕ UInt32) (_ : w ∈ d.books.waiting) :
      fate (fun _ => ()) w (.ticked () : Happening ℕ UInt32 CommandStatus Unit) =
        if decide (w.left = 0) then some .timedOut else none := by
    simp [fate]
  unfold onTimer
  simp only [foldl_onPacketExpire]
  refine h.after rfl rfl rfl hfate ?_ ?_ ?_
  · simp only [Ledger.entered, Waiting.pass, List.nil_append, if_true, ← decide_not]
    exact hleft
  · have hperm := hcalled.map fun x => (x.2, CommandStatus.rtimeout)
    simp only [List.filter_true, List.map_map, Function.comp_def] at hperm
    exact hperm.append_left _
  · intro v hv
    exact h.bound v (List.mem_filter.mp hv).1

/-- The close of a session completes all deliveries. -/
theorem kept_close (h : d.Kept) {session : ℕ} (hapart : d.Apart (.close session)) :
    ((d.observe (.closed session)).onSessionClose session).Kept := by
  unfold onSessionClose
  by_cases hbound : session ∈ d.binded_sessions_
  · obtain ⟨hcalled, hleft⟩ := h.tracks.expireAll
    have hfate (w : Waiting ℕ UInt32) (hw : w ∈ d.books.waiting) :
        fate (fun _ => ()) w (.closed session : Happening ℕ UInt32 CommandStatus Unit) =
          if true then some .closed else none := by
      have hmem := hcalled.mem_iff.mpr (List.mem_map_of_mem hw)
      obtain ⟨x, hx, heq⟩ := List.mem_map.mp hmem
      have hall : x ∈ d.packet_expirator_.all := (List.mem_filter.mp hx).1
      have hid : x.2.id = w.request := congrArg Prod.snd heq
      simp [fate, channel_of_sentOn hw hid (hapart hbound x hall)]
    simp only [observe, hbound, if_true, foldl_onPacketExpire]
    refine h.after rfl rfl rfl hfate ?_ ?_ ?_
    · simpa [Ledger.entered] using hleft
    · have hperm := hcalled.map fun x => (x.2, CommandStatus.rtimeout)
      simp only [List.filter_true, List.map_map, Function.comp_def] at hperm ⊢
      exact hperm.append_left _
    · simp [Ledger.entered]
  · have hfate (w : Waiting ℕ UInt32) (hw : w ∈ d.books.waiting) :
        fate (fun _ => ()) w (.closed session : Happening ℕ UInt32 CommandStatus Unit) =
          if false then some .closed else none := by
      have hne : w.channel ≠ session := fun heq => hbound (heq ▸ h.bound w hw)
      simp [fate, hne]
    simp only [observe, hbound, if_false]
    refine h.after rfl rfl rfl hfate ?_ ?_ ?_
    all_goals
      simp only [Ledger.entered, Waiting.pass, Bool.not_false, List.filter_true, List.map_id', List.filter_false,
        List.map_nil, List.append_nil, List.nil_append]
    · exact h.tracks
    · exact .refl _
    · exact h.bound

/-- **Every event that keeps the sessions apart** keeps the books right. -/
theorem kept_step (h : d.Kept) {e : DeliverEvent} (hapart : d.Apart e) : (d.step e).Kept := by
  cases e with
  | bind session =>
    exact ⟨h.period, h.timeout, h.tracks, h.completed, fun w hw => Finset.mem_insert_of_mem (h.bound w hw)⟩
  | send deliver_info selected_session remoteEndpoint =>
    simp only [step]
    split
    · rename_i hselected
      exact kept_send h hselected hapart
    · exact h
  | response session response_packet sequence_number command_status =>
    simp only [step]
    split
    · rename_i hkind
      exact kept_response h hkind hapart
    · rename_i hkind
      rwa [onSessionResponse, if_neg hkind]
  | timer => exact kept_onTimer h
  | close session => exact kept_close h hapart
  | serve sessions => exact ⟨h.period, h.timeout, h.tracks, h.completed, h.bound⟩

/-- **Each delivery is completed once, with what it has come to**: for the answer, the close or the end of the
dialog timeout that comes first behind its sending, and not before. -/
def Correlated (d : Deliverer) : Prop :=
  (∀ request session sequence_number, d.history[request]? = some (.sent session sequence_number) →
    d.completed.filter (fun x => x.1 = request) =
      ((outcome (fun _ => ()) ⟨request, session, sequence_number, d.timeout_sec_ * 1000⟩
        (d.history.drop (request + 1))).map fun o => (request, errorOf o)).toList) ∧
  ∀ x ∈ d.completed, ∃ session sequence_number, d.history[x.1]? = some (.sent session sequence_number)

theorem Kept.correlated (h : d.Kept) : d.Correlated := by
  constructor
  · intro request session sequence_number hsent
    obtain ⟨hsettled, -⟩ := ledger_of_sent (fun _ => ()) d.patience hsent
    have hperm := h.completed.filter fun x => x.1 = request
    rw [List.filter_map] at hperm
    change (d.completed.filter fun x => x.1 = request).Perm ((d.books.settledOf request).map _) at hperm
    rw [books, hsettled] at hperm
    change _ = (Option.map _ (outcome _ ⟨request, session, sequence_number, d.patience session⟩ _)).toList
    cases houtcome : outcome (fun _ => ()) ⟨request, session, sequence_number, d.patience session⟩
        (d.history.drop (request + 1)) with
    | none =>
      rw [houtcome] at hperm
      exact hperm.eq_nil
    | some o =>
      rw [houtcome] at hperm
      exact hperm.eq_singleton
  · intro x hx
    obtain ⟨y, hy, rfl⟩ := List.mem_map.mp (h.completed.mem_iff.mp hx)
    exact (ledger_sound (fun _ => ()) d.patience d.history).settled y hy

/-- No delivery is lost: once the dialog timeout is over, it has been completed. -/
theorem Correlated.exists_completed (h : d.Correlated) {request session : ℕ} {sequence_number : UInt32}
    (hsent : d.history[request]? = some (.sent session sequence_number))
    (hticks : d.timeout_sec_ * 1000 < ticks () (d.history.drop (request + 1))) :
    ∃ status, d.completed.filter (fun x => x.1 = request) = [(request, status)] := by
  obtain ⟨o, ho⟩ := Option.ne_none_iff_exists'.mp (outcome_ne_none (fun _ => ())
    (w := ⟨request, session, sequence_number, d.timeout_sec_ * 1000⟩) hticks)
  refine ⟨errorOf o, ?_⟩
  rw [h.1 request session sequence_number hsent, ho]
  rfl

/-- A report without any text. -/
def emptyReport : DeliverInfo :=
  ⟨0, [], CommandStatus.rok, .report ⟨⟨[], 0, 0, [], 0, 0, [], 0, 0, 0, 0, 0, 0⟩, ⟨0, 0, 0, 0, []⟩⟩⟩

/-- A client, all of whose sessions are new, and whose dialog timeout is ten seconds. -/
def newClient : Deliverer := start (fun _ => .fresh fun _ => true) 10

/-- The answer of a session to its first `deliver_sm`. -/
def firstAnswer (session : ℕ) : DeliverEvent :=
  .response session ⟨.deliverSmResp, DeliverSmResp.mk []⟩ 1 CommandStatus.rok

/-- Two sessions wait at a time, each under a number of its own, and the one that was sent on last is answered
first. -/
def twoSessions : List DeliverEvent :=
  [.bind 0, .send emptyReport 0 (.ok []), firstAnswer 0, .bind 1, .send emptyReport 0 (.ok []),
    .send emptyReport 1 (.ok []), .timer, firstAnswer 1,
    .response 0 ⟨.deliverSmResp, DeliverSmResp.mk []⟩ 2 CommandStatus.rok]

end Deliverer

end SmppGateway.Gateway
