import SmppGateway.Gateway.Stranded
import SmppGateway.Net.Sending

/-!
# The sequence numbers of the backend link

A pinex session numbers what it sends of its own accord with a counter of 32 bits. The callers of `send_request`
take the number zero for a failure.

## The model

`Use` is a call of `send_request` or `send_command`, which draws a number, or anything else that happens to a
session, which does not touch the counter.

## What is proved

* `Use.sequence_number_run` — the counter is the number of the draws, up to `2 ^ 32`.
* `registered_iff` — the next number is zero exactly if it is a multiple of `2 ^ 32`, and exactly then a submit
  that goes out under it is reported as failed and not registered.
-/

namespace SmppGateway.Gateway

open Foundation Net
open Pinex (PClient PClientList CommandId CommandStatus Pdu)

/-! ### The counter -/

/-- What is done with a session. -/
inductive Use where
  /-- `send_request`. -/
  | sendRequest (pdu : Pdu)
  /-- `send_command` under the next number. -/
  | sendCommand (commandId : CommandId)
  /-- Anything that draws no number. -/
  | other (change : Session CommandId CommandStatus Pdu → Session CommandId CommandStatus Pdu)
      (h : ∀ s, (change s).sequence_number_ = s.sequence_number_)

namespace Use

/-- What a use makes of a session. -/
def apply (s : Session CommandId CommandStatus Pdu) : Use → Session CommandId CommandStatus Pdu
  | .sendRequest pdu => (Session.sendRequest Pinex.dialect s pdu).1
  | .sendCommand commandId => Session.sendNewCommand Pinex.dialect s commandId
  | .other change _ => change s

/-- The use draws a number. -/
def draws : Use → Bool
  | .other _ _ => false
  | _ => true

variable {s : Session CommandId CommandStatus Pdu}

theorem sequence_number_invoke (call : Callback CommandId CommandStatus Pdu) :
    (s.invoke call).sequence_number_ = s.sequence_number_ := by
  unfold Session.invoke
  split <;> rfl

theorem sequence_number_doSend : s.doSend.sequence_number_ = s.sequence_number_ := by
  unfold Session.doSend
  split
  · rfl
  simp only
  split
  · exact sequence_number_invoke _
  · rfl

theorem sequence_number_sendImpl (pdu : Pdu) (sequenceNumber : UInt32) (commandStatus : CommandStatus) :
    (Session.sendImpl Pinex.dialect s pdu sequenceNumber commandStatus).1.sequence_number_ =
      s.sequence_number_ := by
  rcases Session.sendImpl_cases (D := Pinex.dialect) s pdu sequenceNumber commandStatus with
    ⟨e, heq⟩ | ⟨-, -, heq⟩
  · rw [heq]
  · rw [heq]
    exact sequence_number_doSend

theorem sequence_number_apply (use : Use) :
    (apply s use).sequence_number_ = if use.draws then s.sequence_number_ + 1 else s.sequence_number_ := by
  cases use with
  | sendRequest pdu =>
    simp only [apply, draws, if_true, Session.sendRequest_fst, sequence_number_sendImpl]
    exact Pinex.nextSequenceNumber_eq _
  | sendCommand commandId =>
    simp only [apply, draws, if_true, Session.sendNewCommand, Session.sendCommand_eq, sequence_number_doSend]
    exact Pinex.nextSequenceNumber_eq _
  | other change h => exact h s

/-- The counter after any uses. -/
theorem sequence_number_run (s : Session CommandId CommandStatus Pdu) (uses : List Use) :
    (run apply s uses).sequence_number_ = s.sequence_number_ + UInt32.ofNat (uses.countP draws) := by
  induction uses generalizing s with
  | nil => exact (UInt32.add_zero _).symm
  | cons use uses ih =>
    rw [run_cons, ih, sequence_number_apply, List.countP_cons]
    cases use.draws with
    | false => rfl
    | true =>
      simp only [if_true, UInt32.ofNat_add, UInt32.add_assoc]
      rw [UInt32.add_comm 1]
      rfl

/-- **The next number** of a session that has given out a number of numbers. -/
theorem next_ne_zero_iff (handlers : Handler → Bool) (uses : List Use) :
    Pinex.nextSequenceNumber (run apply (Session.fresh handlers) uses).sequence_number_ ≠ 0 ↔
      ¬2 ^ 32 ∣ uses.countP draws + 1 := by
  rw [Pinex.nextSequenceNumber_eq, sequence_number_run, Nat.dvd_iff_mod_eq_zero, ne_eq, ← UInt32.toNat_inj]
  simp [Session.fresh]

end Use

/-! ### The submit that goes out -/

/-- The frame of a request. -/
def requestFrame (number : UInt32) (body : Bytes) : Bytes :=
  Sent.frame Pinex.dialect ⟨CommandId.streamReq, CommandStatus.rok, number, body⟩

/-- A submit goes out on a session: the router finds the backend that the session is bound to, and the session
is open. -/
structure GoesOut (X : Externals) (s : SubmitPath) (x : SubmitInfo) (destination : Bytes)
    (session : Session CommandId CommandStatus Pdu) (body : Bytes) : Prop where
  encoded : X.encodeToProtobuf (s.ext_clients x.originating_ext_client_) x = .ok body
  routed : ∃ others, s.router_ aoReqType x.international_dest_address_ = .ok (destination :: others)
  bound : ∃ list k, s.pinex_.client_list_ = some list ∧ list.binded_clients_.lookup destination = some k ∧
    (list.p_client_list_ k).binded_session_ = some session
  opened : session.state_ = .opened

/-- The frame has been put into the send buffer of the session to a backend. -/
def Queued (s : SubmitPath) (destination : Bytes) (session : Session CommandId CommandStatus Pdu)
    (frame : Bytes) : Prop :=
  ∃ list k session', s.pinex_.client_list_ = some list ∧ list.binded_clients_.lookup destination = some k ∧
    (list.p_client_list_ k).binded_session_ = some session' ∧ session'.buffered = session.buffered ++ frame

/-- `pinex::send` has returned true, and the submit is in `user_data_`. -/
def Registered (outcome : SubmitPath × Except Fault Bool) (key : Bytes) (x : SubmitInfo) : Prop :=
  outcome.2 = .ok true ∧ outcome.1.pinex_.user_data_.lookup key = some x

theorem clientRequest_of_opened {clnt : PClient} {session : Session CommandId CommandStatus Pdu}
    (hsession : clnt.binded_session_ = some session) (hopen : session.state_ = .opened) (body : Bytes) :
    ∃ clnt' session', clnt.sendRequest body =
        (clnt', .ok (Pinex.nextSequenceNumber session.sequence_number_)) ∧
      clnt'.binded_session_ = some session' ∧ session'.buffered =
        session.buffered ++ requestFrame (Pinex.nextSequenceNumber session.sequence_number_) body := by
  let number := Pinex.nextSequenceNumber session.sequence_number_
  let numbered := { session with sequence_number_ := number }
  let frame : Sent CommandId CommandStatus := ⟨CommandId.streamReq, CommandStatus.rok, number, body⟩
  have hserialize : (Pinex.dialect.serializeTo [] (.streamRequest ⟨body⟩)).2 = .ok () := rfl
  have hsent := Session.sendImpl_of_ok (s := numbered) hopen hserialize number CommandStatus.rok
  have hrequest : Session.sendRequest Pinex.dialect session (.streamRequest ⟨body⟩) =
      ((numbered.queue Pinex.dialect frame).doSend, .ok number) :=
    Prod.ext ((Session.sendRequest_fst session _).trans (congrArg Prod.fst hsent))
      (Session.sendRequest_snd_of_ok hopen hserialize)
  let clnt' : PClient :=
    { clnt with
      binded_session_ := some (numbered.queue Pinex.dialect frame).doSend
      packet_expirator_ := clnt.packet_expirator_.add number (clnt.timeout_sec_ * 10 ^ 9) ⟨body⟩ }
  have hclient : clnt.sendRequest body = (clnt', .ok number) := by
    simp only [PClient.sendRequest, hsession, hrequest]
    rfl
  exact ⟨clnt', _, hclient, rfl, numbered.buffered_queue frame⟩

/-- What comes of a submit that goes out. -/
theorem registered_of_goesOut {X : Externals} {s : SubmitPath} {x : SubmitInfo} {destination : Bytes}
    {session : Session CommandId CommandStatus Pdu} {body : Bytes}
    (h : GoesOut X s x destination session body) :
    let number := Pinex.nextSequenceNumber session.sequence_number_
    Queued (s.pinexSend X aoReqType x).1 destination session
        (requestFrame number (msgTypeBytes aoReqType ++ body)) ∧
      (Registered (s.pinexSend X aoReqType x) (requestKey number destination) x ↔
        number ≠ 0 ∧ (s.pinex_.user_data_.lookup (requestKey number destination) = none ∨
          s.pinex_.user_data_.lookup (requestKey number destination) = some x)) := by
  intro number
  obtain ⟨others, hrouted⟩ := h.routed
  obtain ⟨list, k, hlist, hlookup, hsession⟩ := h.bound
  obtain ⟨clnt', session', hsent, hsession', hbuffered⟩ :=
    clientRequest_of_opened hsession h.opened (msgTypeBytes aoReqType ++ body)
  have hclient : ((list.update k clnt').p_client_list_ k).binded_session_ = some session' := by
    simp only [PClientList.update, Function.update_self]
    exact hsession'
  have hqueued {t : SubmitPath} (ht : t.pinex_.client_list_ = some (list.update k clnt')) :
      Queued t destination session (requestFrame number (msgTypeBytes aoReqType ++ body)) :=
    ⟨_, k, session', ht, hlookup, hclient, hbuffered⟩
  simp only [SubmitPath.pinexSend, h.encoded, hrouted, hlist, PClientList.sendRequestTo, hlookup, hsent]
  by_cases hzero : number = 0
  · rw [if_pos hzero]
    refine ⟨hqueued rfl, iff_of_false ?_ fun hne => hne.1 hzero⟩
    intro hfalse
    exact absurd (Except.ok.inj hfalse.1) (by decide)
  · rw [if_neg hzero]
    refine ⟨hqueued rfl, Iff.trans (and_iff_right rfl) (Iff.trans ?_ (and_iff_right hzero).symm)⟩
    change (s.pinex_.user_data_.insertNew (requestKey number destination) x).lookup _ = some x ↔ _
    cases hkey : s.pinex_.user_data_.lookup (requestKey number destination) with
    | none =>
      rw [Table.insertNew_of_notMem (AList.lookup_eq_none.mp hkey), AList.lookup_insert]
      simp
    | some y =>
      rw [Table.insertNew_of_mem (AList.lookup_isSome.mp (Option.isSome_iff_exists.mpr ⟨y, hkey⟩)), hkey]
      simp

/-- **The sequence numbers of the backend link**: the next number of a session is not zero exactly if it is no
multiple of `2 ^ 32`; and a submit that goes out under it is registered exactly if, besides, its key is free. -/
theorem registered_iff (handlers : Handler → Bool) (uses : List Use) :
    let session := run Use.apply (Session.fresh handlers) uses
    let number := Pinex.nextSequenceNumber session.sequence_number_
    (number ≠ 0 ↔ ¬2 ^ 32 ∣ uses.countP Use.draws + 1) ∧
      ∀ X s x destination body, GoesOut X s x destination session body →
        Queued (s.pinexSend X aoReqType x).1 destination session
            (requestFrame number (msgTypeBytes aoReqType ++ body)) ∧
          (Registered (s.pinexSend X aoReqType x) (requestKey number destination) x ↔
            ¬2 ^ 32 ∣ uses.countP Use.draws + 1 ∧
              (s.pinex_.user_data_.lookup (requestKey number destination) = none ∨
                s.pinex_.user_data_.lookup (requestKey number destination) = some x)) := by
  intro session number
  have hnumber := Use.next_ne_zero_iff handlers uses
  refine ⟨hnumber, ?_⟩
  intro X s x destination body h
  obtain ⟨hqueued, hregistered⟩ := registered_of_goesOut h
  exact ⟨hqueued, hregistered.trans (and_congr_left fun _ => hnumber)⟩

theorem registered_iff_newSession :
    let s := { SubmitPath.oneWaiting with pinex_ := ⟨some SubmitPath.firstRequest, ∅⟩ }
    Registered (s.pinexSend SubmitPath.emptyMessages aoReqType SubmitPath.seventhSubmit)
      (requestKey 1 (ascii "md")) SubmitPath.seventhSubmit := by
  intro s
  have hgoesOut : GoesOut SubmitPath.emptyMessages s SubmitPath.seventhSubmit (ascii "md")
      (run Use.apply (Session.fresh fun _ => true) []) [] :=
    ⟨rfl, ⟨[], rfl⟩, ⟨SubmitPath.firstRequest, 0, rfl, rfl, rfl⟩, rfl⟩
  exact ((registered_iff (fun _ => true) []).2 _ s _ _ _ hgoesOut).2.mpr ⟨by decide, .inl rfl⟩

/-- After all numbers but the last have been drawn, the next number is zero. -/
theorem not_next_ne_zero : ¬ ∀ (handlers : Handler → Bool) (uses : List Use),
    Pinex.nextSequenceNumber (run Use.apply (Session.fresh handlers) uses).sequence_number_ ≠ 0 := by
  intro h
  let uses : List Use := List.replicate (2 ^ 32 - 1) (.sendRequest (.streamRequest ⟨[]⟩))
  have hcount : uses.countP Use.draws = 2 ^ 32 - 1 := List.countP_replicate.trans (if_pos rfl)
  have hdvd := (Use.next_ne_zero_iff (fun _ => true) uses).mp (h _ uses)
  rw [hcount] at hdvd
  exact hdvd (by decide)

end SmppGateway.Gateway
