import SmppGateway.Gateway.DeliverCorrelation

/-!
# The deliveries that are outstanding

All sessions of a client share one `packet_expirator_`, and a gauge counts what is in it.

## The model

`Gauged` is a `Deliverer` with its gauge `wait_for_resp_`, which is a whole number. It is incremented in the
branch of `send_deliver_sm` that arms the dialog timeout, which `armedNumber` follows up to there, and
decremented where `on_session_response` removes it.

## What is proved

* `Deliverer.leavesOthers_iff` — when the close of a session leaves the deliveries of the others alone.
* `Gauged.accurate_run` — the gauge is the number of the entries after every event of a run exactly if no
  number is given out twice at a time, nothing times out, and no session closes before all is answered.
-/

namespace SmppGateway.Gateway

open Foundation Net Smpp

namespace Deliverer

/-! ### The close of a session -/

/-- Another session than the one that closes, which is still open. -/
def StillOpen (d : Deliverer) (closing session : ℕ) : Prop :=
  session ≠ closing ∧ session ∈ d.binded_sessions_ ∧ (d.sessions session).state_ = .opened

/-- The delivery was sent on such a session. -/
def OfOther (d : Deliverer) (closing : ℕ) (info : DeliverInfo) : Prop :=
  ∃ session, d.StillOpen closing session ∧ d.SentOn session info

/-- The ticks that an entry has left. -/
def remaining (d : Deliverer) (index : UInt32) : UInt32 := index - d.packet_expirator_.index_.toUInt32

/-- **The close leaves the others alone**: it completes no delivery of theirs, and their entries stay with the
time that they have left. -/
structure LeavesOthers (d : Deliverer) (closing : ℕ) : Prop where
  completed : ∀ x ∈ (d.onSessionClose closing).completed.drop d.completed.length,
    ∀ info : DeliverInfo, info.id = x.1 → ¬d.OfOther closing info
  waiting : ∀ key index info, d.packet_expirator_.index_keys_.lookup key = some (index, info) →
    d.OfOther closing info → ∃ index',
      (d.onSessionClose closing).packet_expirator_.index_keys_.lookup key = some (index', info) ∧
        (d.onSessionClose closing).remaining index' = d.remaining index

/-- What waits was sent on the session that closes, or on one that is not open. -/
def NothingOfOthers (d : Deliverer) (closing : ℕ) : Prop :=
  ∀ x ∈ d.packet_expirator_.all, ¬d.OfOther closing x.2

variable {d : Deliverer}

theorem ofOther_congr {closing : ℕ} {info info' : DeliverInfo} (hid : info.id = info'.id) :
    d.OfOther closing info ↔ d.OfOther closing info' := by
  simp only [OfOther, SentOn, hid]

/-- What the close of a bound session does. -/
theorem onSessionClose_of_bound {closing : ℕ} (hbound : closing ∈ d.binded_sessions_) :
    (d.onSessionClose closing).completed =
        d.completed ++ d.packet_expirator_.all.map (fun x => (x.2.id, CommandStatus.rtimeout)) ∧
      (d.onSessionClose closing).packet_expirator_ = d.packet_expirator_.expireAll := by
  simp only [onSessionClose, if_pos hbound, foldl_onPacketExpire, and_self]

/-- **The close of a session** leaves the deliveries of the other open sessions alone exactly if the session is
not bound, or none of them waits. -/
theorem leavesOthers_iff (d : Deliverer) (closing : ℕ) :
    d.LeavesOthers closing ↔ (closing ∈ d.binded_sessions_ → d.NothingOfOthers closing) := by
  by_cases hbound : closing ∈ d.binded_sessions_
  · obtain ⟨hcompleted, hexpirator⟩ := onSessionClose_of_bound hbound
    have hnew : (d.onSessionClose closing).completed.drop d.completed.length =
        d.packet_expirator_.all.map fun x => (x.2.id, CommandStatus.rtimeout) := by
      rw [hcompleted, List.drop_left]
    constructor
    · intro h _ x hx hother
      have hmem : (x.2.id, CommandStatus.rtimeout) ∈
          (d.onSessionClose closing).completed.drop d.completed.length := by
        rw [hnew]
        exact List.mem_map_of_mem hx
      exact h.completed _ hmem x.2 rfl hother
    · intro h
      have hnothing := h hbound
      refine ⟨fun x hx info hid hother => ?_, fun key index info hfound hother => ?_⟩
      · rw [hnew] at hx
        obtain ⟨y, hy, rfl⟩ := List.mem_map.mp hx
        exact hnothing y hy ((ofOther_congr hid).mp hother)
      · have hentry := Table.mem_entries_iff.mpr hfound
        have hall : (key, info) ∈ d.packet_expirator_.all :=
          List.mem_map.mpr ⟨_, List.mem_filter.mpr ⟨hentry, rfl⟩, rfl⟩
        exact absurd hother (hnothing _ hall)
  · have hsame : d.onSessionClose closing = d := if_neg hbound
    refine iff_of_true ⟨fun x hx => ?_, fun key index info hfound _ => ?_⟩ fun h => absurd h hbound
    · rw [hsame, List.drop_length] at hx
      cases hx
    · rw [hsame]
      exact ⟨index, hfound, rfl⟩

/-- Two sessions are bound, a delivery waits for the answer of one, and the other closes. -/
theorem not_leavesOthers :
    ¬(run step newClient [.bind 0, .bind 1, .send emptyReport 1 (.ok [])]).LeavesOthers 0 := by
  intro h
  have hcompleted : ((0, CommandStatus.rtimeout) : ℕ × CommandStatus) ∈ [(0, CommandStatus.rtimeout)] :=
    List.mem_singleton_self _
  refine h.completed _ hcompleted emptyReport rfl ⟨1, ⟨by decide, ?_, rfl⟩, ⟨1, rfl⟩⟩
  exact Finset.mem_insert_self 1 _

/-! ### The number that is armed -/

/-- The number under which `send_deliver_sm` calls `add`, when it gets that far. -/
def armedNumber (d : Deliverer) (deliver_info : DeliverInfo) (selected_session : ℕ)
    (remoteEndpoint : Except Fault Bytes) : Option UInt32 :=
  match remoteEndpoint, deliver_info.request.deliverSm with
  | .ok _, .ok pdu =>
    match (Session.sendRequest dialect (d.sessions selected_session) ⟨.deliverSm, pdu⟩).2 with
    | .ok seq_no => if d.binded_sessions_ = ∅ ∨ seq_no = 0 then none else some seq_no
    | .error _ => none
  | _, _ => none

/-- The expirator after `send_deliver_sm`. -/
theorem packet_expirator_sendDeliverSm (d : Deliverer) (deliver_info : DeliverInfo) (selected_session : ℕ)
    (remoteEndpoint : Except Fault Bytes) :
    (d.sendDeliverSm deliver_info selected_session remoteEndpoint).packet_expirator_.size =
      match d.armedNumber deliver_info selected_session remoteEndpoint with
      | none => d.packet_expirator_.size
      | some seq_no =>
        if (d.packet_expirator_.getInfo seq_no.toUInt64).isSome then d.packet_expirator_.size
        else d.packet_expirator_.size + 1 := by
  unfold sendDeliverSm armedNumber
  by_cases hbound : d.binded_sessions_ = ∅
  · rw [if_pos hbound]
    simp only [hbound, true_or, if_true]
    split
    · rfl
    · rename_i heq
      split at heq
      · split at heq <;> cases heq
      · cases heq
  rw [if_neg hbound]
  cases remoteEndpoint with
  | error e => rfl
  | ok ip_address =>
    simp only
    cases deliver_info.request.deliverSm with
    | error e => rfl
    | ok pdu =>
      simp only
      cases (Session.sendRequest dialect (d.sessions selected_session) ⟨.deliverSm, pdu⟩).2 with
      | error e => rfl
      | ok seq_no =>
        simp only [hbound, false_or]
        by_cases hzero : seq_no = 0
        · rw [if_pos hzero, if_pos hzero]
          rfl
        · rw [if_neg hzero, if_neg hzero]
          exact Expirator.size_add _ _ _ _

end Deliverer

/-! ### The gauge -/

/-- A client and its gauge. -/
structure Gauged where
  client : Deliverer
  wait_for_resp_ : ℤ

namespace Gauged

/-- What an event adds to `wait_for_resp_`. -/
def change (d : Deliverer) : DeliverEvent → ℤ
  | .send deliver_info selected_session remoteEndpoint =>
    if d.binded_sessions_ = ∅ ∨ selected_session ∈ d.binded_sessions_ then
      match d.armedNumber deliver_info selected_session remoteEndpoint with
      | some _ => 1
      | none => 0
    else 0
  | .response _ response_packet sequence_number _ =>
    if response_packet.1 = .deliverSmResp then
      match d.packet_expirator_.getInfo sequence_number.toUInt64 with
      | some _ => -1
      | none => 0
    else 0
  | _ => 0

/-- What an event makes of the client and its gauge. -/
def step (g : Gauged) (e : DeliverEvent) : Gauged where
  client := g.client.step e
  wait_for_resp_ := g.wait_for_resp_ + change g.client e

/-- A client without sessions, with its gauge. -/
def start (sessions : ℕ → Session CommandId CommandStatus Pdu) (timeout_sec : ℕ) : Gauged where
  client := Deliverer.start sessions timeout_sec
  wait_for_resp_ := 0

/-- The gauge is the number of the entries. -/
def Accurate (g : Gauged) : Prop := g.wait_for_resp_ = g.client.packet_expirator_.size

instance (g : Gauged) : Decidable g.Accurate :=
  inferInstanceAs (Decidable (g.wait_for_resp_ = g.client.packet_expirator_.size))

/-- No number is armed that is armed already, nothing times out, and a session closes when nothing waits. -/
def Counted (g : Gauged) : DeliverEvent → Prop
  | .send deliver_info selected_session remoteEndpoint =>
    g.client.binded_sessions_ = ∅ ∨ selected_session ∈ g.client.binded_sessions_ →
      ∀ seq_no, g.client.armedNumber deliver_info selected_session remoteEndpoint = some seq_no →
        g.client.packet_expirator_.getInfo seq_no.toUInt64 = none
  | .timer => g.client.packet_expirator_.expiring = []
  | .close session => session ∈ g.client.binded_sessions_ → g.client.packet_expirator_.all = []
  | _ => True

variable {g : Gauged}

/-- What the entries become by an event. -/
theorem accurate_step_iff_size (h : g.Accurate) (e : DeliverEvent) :
    (g.step e).Accurate ↔
      (g.client.step e).packet_expirator_.size = g.client.packet_expirator_.size + change g.client e := by
  have hgauge : g.wait_for_resp_ = g.client.packet_expirator_.size := h
  rw [Accurate, step, hgauge]
  exact eq_comm

theorem accurate_send_iff (h : g.Accurate) (deliver_info : DeliverInfo) (selected_session : ℕ)
    (remoteEndpoint : Except Fault Bytes) :
    (g.step (.send deliver_info selected_session remoteEndpoint)).Accurate ↔
      g.Counted (.send deliver_info selected_session remoteEndpoint) := by
  rw [accurate_step_iff_size h]
  simp only [Deliverer.step, change, Counted]
  by_cases hselected :
      g.client.binded_sessions_ = ∅ ∨ selected_session ∈ g.client.binded_sessions_
  · have hsize :=
      g.client.packet_expirator_sendDeliverSm deliver_info selected_session remoteEndpoint
    simp only [if_pos hselected, forall_prop_of_true hselected]
    cases hnumber : g.client.armedNumber deliver_info selected_session remoteEndpoint with
    | none =>
      rw [hnumber] at hsize
      refine iff_of_true (by rw [hsize, add_zero]) fun seq_no hseq_no => ?_
      cases hseq_no
    | some seq_no =>
      rw [hnumber] at hsize
      cases hinfo : g.client.packet_expirator_.getInfo seq_no.toUInt64 with
      | none =>
        simp only [hinfo, Option.isSome_none, Bool.false_eq_true, if_false] at hsize
        refine iff_of_true (by rw [hsize, Nat.cast_succ]) fun n hn => ?_
        rw [← Option.some.inj hn]
        exact hinfo
      | some info =>
        simp only [hinfo, Option.isSome_some, if_true] at hsize
        have hkept : ¬((g.client.packet_expirator_.size : ℤ) = g.client.packet_expirator_.size + 1) := by omega
        refine iff_of_false (by rwa [hsize]) fun hfree => ?_
        rw [hfree seq_no rfl] at hinfo
        cases hinfo
  · simp [hselected]

theorem accurate_response (h : g.Accurate) (session : ℕ) (response_packet : Pdu) (sequence_number : UInt32)
    (command_status : CommandStatus) :
    (g.step (.response session response_packet sequence_number command_status)).Accurate := by
  rw [accurate_step_iff_size h]
  simp only [Deliverer.step, change, Deliverer.onSessionResponse]
  by_cases hkind : response_packet.1 = .deliverSmResp
  · simp only [if_pos hkind, Deliverer.observe]
    cases hinfo : g.client.packet_expirator_.getInfo sequence_number.toUInt64 with
    | none => exact (add_zero _).symm
    | some info =>
      have hsize := Expirator.size_remove hinfo
      simp only [Deliverer.processDeliverResp]
      omega
  · simp only [if_neg hkind]
    exact (add_zero _).symm

theorem accurate_timer_iff (h : g.Accurate) : (g.step .timer).Accurate ↔ g.Counted .timer := by
  rw [accurate_step_iff_size h]
  have hsize := g.client.packet_expirator_.size_onTimer
  simp only [Deliverer.step, change, Counted, Deliverer.onTimer, Deliverer.foldl_onPacketExpire,
    Deliverer.observe, ← List.length_eq_zero_iff]
  omega

theorem accurate_close_iff (h : g.Accurate) (session : ℕ) :
    (g.step (.close session)).Accurate ↔ g.Counted (.close session) := by
  rw [accurate_step_iff_size h]
  simp only [Deliverer.step, change, Counted]
  by_cases hbound : session ∈ g.client.binded_sessions_
  · have hbound' : session ∈ (g.client.observe (.closed session)).binded_sessions_ := hbound
    obtain ⟨-, hexpirator⟩ := Deliverer.onSessionClose_of_bound hbound'
    have hall := g.client.packet_expirator_.length_all
    rw [hexpirator, Expirator.size_expireAll, ← List.length_eq_zero_iff, hall]
    simp only [hbound, true_imp_iff]
    omega
  · have hsame : (g.client.observe (.closed session)).onSessionClose session =
        g.client.observe (.closed session) := if_neg hbound
    rw [hsame]
    exact iff_of_true (add_zero _).symm fun h => absurd h hbound

/-- What an event does to the gauge. -/
theorem accurate_step_iff (h : g.Accurate) (e : DeliverEvent) : (g.step e).Accurate ↔ g.Counted e := by
  cases e with
  | bind session => exact iff_of_true ((accurate_step_iff_size h _).mpr (add_zero _).symm) trivial
  | send deliver_info selected_session remoteEndpoint => exact accurate_send_iff h _ _ _
  | response session response_packet sequence_number command_status =>
    exact iff_of_true (accurate_response h _ _ _ _) trivial
  | timer => exact accurate_timer_iff h
  | close session => exact accurate_close_iff h session
  | serve sessions => exact iff_of_true ((accurate_step_iff_size h _).mpr (add_zero _).symm) trivial

/-- **The gauge of the outstanding deliveries**: it is the number of the entries after every event exactly if no
armed number is armed again, no delivery times out, and no session closes while a delivery waits. -/
theorem accurate_run (sessions : ℕ → Session CommandId CommandStatus Pdu) (timeout_sec : ℕ)
    (events : List DeliverEvent) :
    Along step (fun g e => (g.step e).Accurate) (start sessions timeout_sec) events ↔
      Along step Counted (start sessions timeout_sec) events := by
  have hall : Along step (fun _ _ => True) (start sessions timeout_sec) events := along_true fun _ _ => trivial
  refine along_iff (I := Accurate) (fun g e h _ => accurate_step_iff h e) ?_ hall rfl
  intro g e h _ hcounted
  exact (accurate_step_iff h e).mpr hcounted

/-- A delivery is sent, and the session closes before it is answered. -/
theorem not_accurate_run :
    ¬(run step (start (fun _ => .fresh fun _ => true) 10)
      [.bind 0, .send Deliverer.emptyReport 0 (.ok []), .close 0]).Accurate := by
  decide

end Gauged

end SmppGateway.Gateway
