import Mathlib.Data.List.Count
import SmppGateway.Gateway.SendQueue

/-!
# Where a delivery is

A delivery that an external client was given waits in the queue, or was sent and waits for its response, or has been
answered: after its response, its timeout or the close of a session, or without having been sent. A report does not
wait in the queue.

## What is proved

* `Deliverer.sendDeliverSm_spec` — `send_deliver_sm` refuses a delivery, or arms its number.
* `SendQueue.accounted_run` — in every run each delivery is in exactly one of these places, or was sent under a number
  that was armed already.
-/

namespace SmppGateway.Gateway

open Foundation Net Smpp

/-- A client without sessions arms nothing. -/
theorem Deliverer.armedNumber_of_unbound {d : Deliverer} (hbound : d.binded_sessions_ = ∅) (deliver_info : DeliverInfo)
    (selected_session : ℕ) (remoteEndpoint : Except Fault Bytes) :
    d.armedNumber deliver_info selected_session remoteEndpoint = none := by
  unfold armedNumber
  split
  · split
    · rw [if_pos (.inl hbound)]
    · rfl
  · rfl

/-- What `send_deliver_sm` does, by the number under which it calls `add`. -/
theorem Deliverer.sendDeliverSm_spec (d : Deliverer) (deliver_info : DeliverInfo) (selected_session : ℕ)
    (remoteEndpoint : Except Fault Bytes) :
    match d.armedNumber deliver_info selected_session remoteEndpoint with
    | none => ∃ sessions info, info.id = deliver_info.id ∧
        d.sendDeliverSm deliver_info selected_session remoteEndpoint =
          { d with sessions := sessions, refused := d.refused ++ [info] }
    | some seq_no => ∃ sessions info, info.id = d.history.length ∧
        d.sendDeliverSm deliver_info selected_session remoteEndpoint =
          { d with
            sessions := sessions
            packet_expirator_ := d.packet_expirator_.add seq_no.toUInt64 (d.timeout_sec_ * 10 ^ 9) info
            history := d.history ++ [.sent selected_session seq_no] } := by
  have hrefuse (sessions : ℕ → Session CommandId CommandStatus Pdu) (info : DeliverInfo) (error : CommandStatus)
      (hid : info.id = deliver_info.id) :
      ∃ sessions' info', info'.id = deliver_info.id ∧ { d with sessions := sessions }.refuse info error =
        { d with sessions := sessions', refused := d.refused ++ [info'] } :=
    ⟨sessions, { info with error_ := error }, hid, rfl⟩
  by_cases hbound : d.binded_sessions_ = ∅
  · simp only [armedNumber_of_unbound hbound]
    unfold sendDeliverSm
    rw [if_pos hbound]
    exact hrefuse d.sessions _ _ rfl
  unfold sendDeliverSm armedNumber
  rw [if_neg hbound]
  cases remoteEndpoint with
  | error e => exact hrefuse d.sessions _ _ rfl
  | ok ip_address =>
    simp only
    cases deliver_info.request.deliverSm with
    | error e => exact hrefuse d.sessions _ _ rfl
    | ok pdu =>
      simp only
      cases (Session.sendRequest dialect (d.sessions selected_session) ⟨.deliverSm, pdu⟩).2 with
      | error e => exact hrefuse _ _ _ rfl
      | ok seq_no =>
        simp only [hbound, false_or]
        by_cases hzero : seq_no = 0
        · rw [if_pos hzero, if_pos hzero]
          exact hrefuse _ _ _ rfl
        · rw [if_neg hzero, if_neg hzero]
          exact ⟨_, _, rfl, rfl⟩

/-- The places in the history of what waits for a response and of what has come to something. -/
def Deliverer.outstanding (d : Deliverer) : List ℕ :=
  (d.packet_expirator_.all.map fun x => x.2.id) ++ d.completed.map Prod.fst

/-- What else may happen completes what it takes out of the expirator. -/
theorem Deliverer.outstanding_step (d : Deliverer) {e : DeliverEvent} (he : e.isOther = true) :
    (d.step e).outstanding.Perm d.outstanding ∧ (d.step e).refused = d.refused ∧
      d.history.length ≤ (d.step e).history.length := by
  have hobserve (happening : Happening ℕ UInt32 CommandStatus Unit) :
      d.history.length ≤ (d.observe happening).history.length := by
    rw [observe, List.length_append]
    exact Nat.le_add_right _ _
  cases e with
  | send => cases he
  | bind session => exact ⟨.refl _, rfl, Nat.le_refl _⟩
  | serve sessions => exact ⟨.refl _, rfl, Nat.le_refl _⟩
  | response session response_packet sequence_number command_status =>
    simp only [step, onSessionResponse]
    by_cases hkind : response_packet.1 = .deliverSmResp
    · simp only [if_pos hkind]
      split
      · exact ⟨.refl _, rfl, hobserve _⟩
      · rename_i info hinfo
        refine ⟨?_, rfl, hobserve _⟩
        have hperm := (Expirator.all_remove (e := d.packet_expirator_) hinfo).map fun x => x.2.id
        simp only [List.perm_iff_count, List.map_cons, List.count_cons] at hperm
        simp only [outstanding, processDeliverResp, observe, List.map_append, List.map_cons, List.map_nil,
          List.perm_iff_count, List.count_append, List.count_cons, List.count_nil]
        intro id
        have hcount := hperm id
        omega
    · rw [if_neg hkind, if_neg hkind]
      exact ⟨.refl _, rfl, Nat.le_refl _⟩
  | timer =>
    simp only [step, onTimer, foldl_onPacketExpire]
    refine ⟨?_, rfl, hobserve _⟩
    have hperm := (d.packet_expirator_.expiring_append_all_onTimer).map fun x => x.2.id
    simp only [List.perm_iff_count, List.map_append, List.count_append] at hperm
    simp only [outstanding, observe, List.map_append, List.map_map, Function.comp_def, List.perm_iff_count,
      List.count_append]
    intro id
    have hcount := hperm id
    omega
  | close session =>
    simp only [step, onSessionClose]
    split
    · simp only [foldl_onPacketExpire]
      refine ⟨?_, rfl, hobserve _⟩
      simp only [outstanding, observe, Expirator.all_expireAll, List.map_nil, List.nil_append, List.map_append,
        List.map_map, Function.comp_def]
      exact List.perm_append_comm
    · exact ⟨.refl _, rfl, hobserve _⟩

namespace SendQueue

/-! ### The places -/

/-- The ids of what waits for a response. -/
def armed (s : SendQueue) : List ℕ := s.deliverer.packet_expirator_.all.map fun x => s.idAt x.2.id

/-- The ids of what has been answered. -/
def answered (s : SendQueue) : List ℕ :=
  (s.deliverer.completed.map fun x => s.idAt x.1) ++ s.deliverer.refused.map DeliverInfo.id

/-- The ids that are found in all places. -/
def places (s : SendQueue) : List ℕ :=
  s.send_queue_.map DeliverInfo.id ++ (s.armed ++ (s.answered ++ s.clashed))

/-- What waits for a response and what has come to something is in the history. -/
def Known (s : SendQueue) : Prop := ∀ place ∈ s.deliverer.outstanding, place < s.deliverer.history.length

variable {s : SendQueue}

theorem places_eq (s : SendQueue) : s.places.Perm (s.send_queue_.map DeliverInfo.id ++
    (s.deliverer.outstanding.map s.idAt ++ (s.deliverer.refused.map DeliverInfo.id ++ s.clashed))) := by
  simp only [places, armed, answered, Deliverer.outstanding, List.map_append, List.map_map, Function.comp_def,
    List.append_assoc]
  exact .refl _

/-- A new place of the history is nobody's yet. -/
theorem Known.map_update (h : s.Known) (id : ℕ) :
    s.deliverer.outstanding.map (Function.update s.idAt s.deliverer.history.length id) =
      s.deliverer.outstanding.map s.idAt :=
  List.map_congr_left fun place hplace => Function.update_of_ne (Nat.ne_of_lt (h place hplace)) _ _

/-- A delivery that is sent is armed, answered or clashes. -/
theorem Known.sendDeliverSm (h : s.Known) (deliver_info : DeliverInfo) (turn : SendTurn) :
    (s.sendDeliverSm deliver_info turn).Known ∧
      (s.sendDeliverSm deliver_info turn).places.Perm (deliver_info.id :: s.places) := by
  have hspec := s.deliverer.sendDeliverSm_spec deliver_info
    (selectSession s.deliverer.binded_sessions_ turn.rand) turn.remoteEndpoint
  have hmap := h.map_update deliver_info.id
  cases hnumber : s.deliverer.armedNumber deliver_info (selectSession s.deliverer.binded_sessions_ turn.rand)
      turn.remoteEndpoint with
  | none =>
    rw [hnumber] at hspec
    obtain ⟨sessions, info, hid, heq⟩ := hspec
    simp only [SendQueue.sendDeliverSm, hnumber, heq, Bool.false_eq_true, if_false]
    refine ⟨h, (places_eq _).trans (.trans ?_ ((places_eq s).symm.cons _))⟩
    show List.Perm (_ ++ (s.deliverer.outstanding.map _ ++ (List.map _ (_ ++ [info]) ++ _))) _
    simp only [hmap, List.map_append, List.map_singleton, hid, List.perm_iff_count, List.count_append,
      List.count_cons, List.count_nil]
    intro id
    omega
  | some seq_no =>
    rw [hnumber] at hspec
    obtain ⟨sessions, info, hid, heq⟩ := hspec
    simp only [SendQueue.sendDeliverSm, hnumber, heq]
    have hold : ∀ place ∈ s.deliverer.outstanding, place < s.deliverer.history.length + 1 :=
      fun place hplace => Nat.lt_succ_of_lt (h place hplace)
    cases hfree : s.deliverer.packet_expirator_.getInfo seq_no.toUInt64 with
    | none =>
      simp only [Option.isSome_none, Bool.false_eq_true, if_false]
      have houtstanding : Deliverer.outstanding { s.deliverer with
          sessions := sessions
          packet_expirator_ := s.deliverer.packet_expirator_.add seq_no.toUInt64 (s.deliverer.timeout_sec_ * 10 ^ 9)
            info
          history := s.deliverer.history ++ [.sent (selectSession s.deliverer.binded_sessions_ turn.rand) seq_no] } =
          s.deliverer.history.length :: s.deliverer.outstanding := by
        simp only [Deliverer.outstanding, Expirator.all_add hfree, List.map_cons, hid, List.cons_append]
      refine ⟨?_, (places_eq _).trans (.trans ?_ ((places_eq s).symm.cons _))⟩
      · simp only [Known, houtstanding, List.length_append, List.length_singleton]
        exact List.forall_mem_cons.mpr ⟨Nat.lt_succ_self _, hold⟩
      · simp only [houtstanding, List.map_cons, hmap, Function.update_self, List.perm_iff_count, List.count_append,
          List.count_cons]
        intro id
        omega
    | some old =>
      simp only [Option.isSome_some, if_true, Expirator.add_of_getInfo hfree]
      refine ⟨?_, (places_eq _).trans (.trans ?_ ((places_eq s).symm.cons _))⟩
      · simp only [Known, List.length_append, List.length_singleton]
        exact hold
      · show List.Perm (_ ++ (s.deliverer.outstanding.map _ ++ _)) _
        simp only [hmap, List.perm_iff_count, List.count_append, List.count_cons, List.count_nil]
        intro id
        omega

/-! ### Runs -/

/-- Every delivery that the client was given is in one place. -/
structure Accounted (s : SendQueue) : Prop where
  known : s.Known
  places : s.places.Perm s.given

/-- What happens to the deliveries that were sent keeps the places. -/
theorem Known.other (h : s.Known) {e : DeliverEvent} (he : e.isOther = true) :
    let t := { s with deliverer := s.deliverer.step e }
    t.Known ∧ t.places.Perm s.places := by
  obtain ⟨houtstanding, hrefused, hlength⟩ := s.deliverer.outstanding_step he
  refine ⟨fun place hplace => Nat.lt_of_lt_of_le (h place (houtstanding.mem_iff.mp hplace)) hlength, ?_⟩
  refine (places_eq _).trans (.trans ?_ (places_eq s).symm)
  simp only [hrefused]
  exact ((houtstanding.map _).append_right _).append_left _

theorem given_sendLoop (queue : List DeliverInfo) (turns : ℕ → SendTurn) (s : SendQueue) :
    (s.sendLoop queue turns).given = s.given := by
  induction queue generalizing s turns with
  | nil => rfl
  | cons user_data queue ih =>
    unfold SendQueue.sendLoop
    split
    · rfl
    · rfl
    · simp only
      split
      · exact ih _ _
      · rfl

/-- The loop of `send_process` moves deliveries out of the queue. -/
theorem Known.sendLoop (queue : List DeliverInfo) (turns : ℕ → SendTurn) (s : SendQueue) (h : s.Known)
    (hqueue : s.send_queue_ = queue) :
    (s.sendLoop queue turns).Known ∧ (s.sendLoop queue turns).places.Perm s.places := by
  induction queue generalizing s turns with
  | nil => exact ⟨h, .refl _⟩
  | cons user_data queue ih =>
    unfold SendQueue.sendLoop
    split
    · exact ⟨h, .refl _⟩
    · exact ⟨h, .refl _⟩
    · rename_i flow wait_time hcheck
      by_cases hpass : wait_time = 0
      · simp only [hpass, if_true]
        obtain ⟨hknown, hperm⟩ := Known.sendDeliverSm (s := { s.checked (turns 0).clocks flow with
          send_queue_ := queue
          handed := s.handed ++ [(user_data, (turns 0).clocks)] }) h user_data (turns 0)
        obtain ⟨hknown', hperm'⟩ := ih (fun i => turns (i + 1)) _ hknown rfl
        refine ⟨hknown', hperm'.trans (hperm.trans ?_)⟩
        simp only [places, hqueue, List.map_cons]
        exact .refl _
      · simp only [hpass, if_false]
        exact ⟨h, .refl _⟩

theorem accounted_handle (h : s.Accounted) (e : SendEvent) : (s.handle e).Accounted := by
  obtain ⟨hknown, hplaces⟩ := h
  cases e with
  | queue deliver_info =>
    refine ⟨hknown, .trans ?_ (hplaces.append_right [deliver_info.id])⟩
    simp only [handle, places, armed, answered, flowControlledSendDeliver, List.map_append, List.map_singleton,
      List.perm_iff_count, List.count_append]
    intro id
    omega
  | report deliver_info turn =>
    obtain ⟨hknown', hperm⟩ := Known.sendDeliverSm (s := { s with given := s.given ++ [deliver_info.id] }) hknown
      deliver_info turn
    refine ⟨hknown', hperm.trans (.trans (hplaces.cons _) ?_)⟩
    exact (List.perm_append_singleton _ _).symm
  | timer completion turns =>
    simp only [handle]
    split
    · obtain ⟨hknown', hperm⟩ := Known.sendLoop s.send_queue_ turns
        { s with timer_ := (s.timer_.complete completion).1 } hknown rfl
      refine ⟨hknown', hperm.trans ?_⟩
      rw [sendProcess, given_sendLoop]
      exact hplaces
    · exact ⟨hknown, hplaces⟩
  | replace event _ =>
    simp only [handle]
    split <;> exact ⟨hknown, hplaces⟩
  | other event he =>
    obtain ⟨hknown', hperm⟩ := hknown.other he
    exact ⟨hknown', hperm.trans hplaces⟩

theorem accounted_step (h : s.Accounted) (e : SendEvent) : (s.step e).Accounted := by
  unfold step
  split
  · exact h
  · exact accounted_handle h e

theorem accounted_start (flow : FlowControl) (sessions : ℕ → Session CommandId CommandStatus Pdu) (timeout_sec : ℕ) :
    (start flow (.start sessions timeout_sec)).Accounted :=
  ⟨fun _ hplace => (nomatch hplace), .refl _⟩

/-- **Where a delivery is**, in every run: each delivery and each report that the client was given is in exactly one
place. It waits in the queue, or for its response, or it has been answered, or it was sent under a number that was
armed already. -/
theorem accounted_run (flow : FlowControl) (sessions : ℕ → Session CommandId CommandStatus Pdu) (timeout_sec : ℕ)
    (events : List SendEvent) :
    let s := run step (start flow (.start sessions timeout_sec)) events
    (s.send_queue_.map DeliverInfo.id ++ (s.armed ++ (s.answered ++ s.clashed))).Perm s.given := by
  have hrun : (run step (start flow (.start sessions timeout_sec)) events).Accounted :=
    (along_true fun _ _ => trivial).invariant (G := fun _ _ => True) (fun _ e h _ => accounted_step h e)
      (accounted_start flow sessions timeout_sec)
  exact hrun.places

theorem given_step_queue (hstop : s.stop = none) (deliver_info : DeliverInfo) :
    (s.step (.queue deliver_info)).given = s.given ++ [deliver_info.id] := by
  rw [step, hstop]
  rfl

theorem given_step_report (hstop : s.stop = none) (deliver_info : DeliverInfo) (turn : SendTurn) :
    (s.step (.report deliver_info turn)).given = s.given ++ [deliver_info.id] := by
  rw [step, hstop]
  rfl

end SendQueue

end SmppGateway.Gateway
