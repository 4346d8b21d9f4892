import Mathlib.Data.Finset.Sort
import SmppGateway.Gateway.FlowTimes
import SmppGateway.Gateway.Outstanding

/-!
# The queue of the deliveries

`flow_controlled_send_deliver` of `sgw_external_client` puts a delivery into `send_queue_`, and `send_process` takes
the deliveries out again, one for every `check` of `send_flow_control_` that returns zero. The timer of the flow
control calls it, and it waits for the timer again before it returns. A report does not go through the queue.

## The model

* The bound sessions are passed through in the order of their numbers, and `rand` selects one.
* A `SendTurn` is what one iteration of the loop reads. A check that does not return stops the client.
* Setting a timer anew leaves the wait that was outstanding to complete, with `operation_aborted` or not.

`queued` lists the deliveries that were put into the queue, `handed` those that were taken out, with the clocks of
their checks, and `checks` all checks with the flow control they met.

## What is proved

* `SendQueue.queued_run` — in every run the deliveries are taken out in order, each once, and one wait for the timer
  is outstanding; when it is over, the queue is emptied up to the first check that refuses.
* `SendQueue.fixedFlow_queued_run` — with the `fixed_flow` method no second has more deliveries than the rate allows.
-/

namespace SmppGateway.Gateway

open Foundation Net Smpp

/-! ### The timer of a flow control -/

/-- `timer_` of a `flow_control`. -/
structure FlowTimer where
  /-- The wait that the timer is set for, in microseconds. -/
  armed : Option UInt64
  /-- The waits that were outstanding when the timer was set anew. -/
  superseded : ℕ
  deriving DecidableEq

/-- How a wait completes. -/
inductive Completion where
  /-- The time that the timer is set for has come. -/
  | expired
  /-- A wait for an earlier setting ends, with `operation_aborted` if its time had not come by then. -/
  | superseded (aborted : Bool)
  deriving DecidableEq

namespace FlowTimer

/-- `wait`. -/
def wait (t : FlowTimer) (microseconds : UInt64) : FlowTimer where
  armed := some microseconds
  superseded := if t.armed.isSome then t.superseded + 1 else t.superseded

/-- A completion, and whether `flow_handler_` is called. -/
def complete (t : FlowTimer) : Completion → FlowTimer × Bool
  | .expired => ({ t with armed := none }, t.armed.isSome)
  | .superseded aborted => ({ t with superseded := t.superseded - 1 }, t.superseded ≠ 0 && !aborted)

end FlowTimer

/-! ### The queue -/

/-- What one iteration of the loop of `send_process` reads. -/
structure SendTurn where
  clocks : Clocks
  /-- `rand()`. -/
  rand : ℕ
  remoteEndpoint : Except Fault Bytes

/-- The session that `send_deliver_sm` selects. -/
def selectSession (binded_sessions : Finset ℕ) (rand : ℕ) : ℕ :=
  (binded_sessions.sort (· ≤ ·)).getD (rand % binded_sessions.card) 0

/-- What an external client sends its deliveries with. -/
structure SendQueue where
  send_queue_ : List DeliverInfo
  send_flow_control_ : FlowControl
  /-- `timer_` of `send_flow_control_`. -/
  timer_ : FlowTimer
  deliverer : Deliverer
  /-- A check has not returned. -/
  stop : Option Stop
  queued : List DeliverInfo
  handed : List (DeliverInfo × Clocks)
  checks : List (FlowControl × Clocks)
  /-- The ids of the deliveries and of the reports that the client was given. -/
  given : List ℕ
  /-- The id of what was sent at a place of the history of the deliverer. -/
  idAt : ℕ → ℕ
  /-- The ids of what was sent under a number that was armed already. -/
  clashed : List ℕ

/-- A runtime change of the configuration. -/
def FlowEvent.isReplace : FlowEvent → Bool
  | .check _ => false
  | _ => true

/-- Something else than a call of `send_deliver_sm`. -/
def DeliverEvent.isOther : DeliverEvent → Bool
  | .send .. => false
  | _ => true

/-- What may happen to the client. -/
inductive SendEvent where
  /-- `flow_controlled_send_deliver`. -/
  | queue (deliver_info : DeliverInfo)
  /-- `send_deliver_sm` of a report. -/
  | report (deliver_info : DeliverInfo) (turn : SendTurn)
  /-- A wait on `timer_` completes; what each iteration would read. -/
  | timer (completion : Completion) (turns : ℕ → SendTurn)
  /-- The configuration of `send_flow_control_` changes. -/
  | replace (event : FlowEvent) (h : event.isReplace = true)
  /-- Something else happens to the sessions and to what was sent. -/
  | other (event : DeliverEvent) (h : event.isOther = true)

/-- Whether the configuration of the flow control changes. -/
def SendEvent.isReplace : SendEvent → Bool
  | .replace .. => true
  | _ => false

namespace SendQueue

/-- `send_deliver_sm`. -/
def sendDeliverSm (s : SendQueue) (deliver_info : DeliverInfo) (turn : SendTurn) : SendQueue :=
  let d := s.deliverer
  let selected_session := selectSession d.binded_sessions_ turn.rand
  let clashes := match d.armedNumber deliver_info selected_session turn.remoteEndpoint with
    | some seq_no => (d.packet_expirator_.getInfo seq_no.toUInt64).isSome
    | none => false
  { s with
    deliverer := d.sendDeliverSm deliver_info selected_session turn.remoteEndpoint
    idAt := Function.update s.idAt d.history.length deliver_info.id
    clashed := if clashes then s.clashed ++ [deliver_info.id] else s.clashed }

/-- `flow_controlled_send_deliver`. -/
def flowControlledSendDeliver (s : SendQueue) (deliver_info : DeliverInfo) : SendQueue :=
  { s with
    send_queue_ := s.send_queue_ ++ [deliver_info]
    queued := s.queued ++ [deliver_info]
    given := s.given ++ [deliver_info.id] }

/-- `wait` of `send_flow_control_`. -/
def wait (s : SendQueue) (microseconds : UInt64) : SendQueue := { s with timer_ := s.timer_.wait microseconds }

/-- The flow control after a check. -/
def checked (s : SendQueue) (clocks : Clocks) (flow : FlowControl) : SendQueue :=
  { s with
    send_flow_control_ := flow
    checks := s.checks ++ [(s.send_flow_control_, clocks)] }

/-- A delivery is taken out of the queue and sent. -/
def popFront (s : SendQueue) (user_data : DeliverInfo) (queue : List DeliverInfo) (turn : SendTurn) : SendQueue :=
  { s with
    send_queue_ := queue
    handed := s.handed ++ [(user_data, turn.clocks)] }.sendDeliverSm user_data turn

/-- The loop of `send_process`, and what follows it. -/
def sendLoop (s : SendQueue) : List DeliverInfo → (ℕ → SendTurn) → SendQueue
  | [], _ => s.wait 1000
  | user_data :: queue, turns =>
    match s.send_flow_control_.check (turns 0).clocks with
    | .error e => { s with stop := some e }
    | .ok (_, none) => { s with stop := some .outOfBounds }
    | .ok (flow, some wait_time) =>
      let s := s.checked (turns 0).clocks flow
      if wait_time = 0 then (s.popFront user_data queue (turns 0)).sendLoop queue fun i => turns (i + 1)
      else s.wait wait_time

/-- `send_process`. -/
def sendProcess (s : SendQueue) (turns : ℕ → SendTurn) : SendQueue := s.sendLoop s.send_queue_ turns

/-- What an event makes of a client that is not stopped. -/
def handle (s : SendQueue) : SendEvent → SendQueue
  | .queue deliver_info => s.flowControlledSendDeliver deliver_info
  | .report deliver_info turn => { s with given := s.given ++ [deliver_info.id] }.sendDeliverSm deliver_info turn
  | .timer completion turns =>
    let (timer, called) := s.timer_.complete completion
    let s := { s with timer_ := timer }
    if called then s.sendProcess turns else s
  | .replace event _ =>
    match s.send_flow_control_.handle event with
    | .ok flow => { s with send_flow_control_ := flow }
    | .error e => { s with stop := some e }
  | .other event _ => { s with deliverer := s.deliverer.step event }

/-- What an event makes of the client. -/
def step (s : SendQueue) (e : SendEvent) : SendQueue := if s.stop.isSome then s else s.handle e

/-- A client that has just been constructed. -/
def start (flow : FlowControl) (deliverer : Deliverer) : SendQueue where
  send_queue_ := []
  send_flow_control_ := flow
  timer_ := FlowTimer.wait ⟨none, 0⟩ 1
  deliverer := deliverer
  stop := none
  queued := []
  handed := []
  checks := []
  given := []
  idAt := fun _ => 0
  clashed := []

variable {s t : SendQueue}

/-! ### What a call of `send_process` does -/

/-- The clocks of the first checks. -/
def clocksOf (turns : ℕ → SendTurn) (n : ℕ) : List Clocks := (List.range n).map fun i => (turns i).clocks

theorem clocksOf_succ (turns : ℕ → SendTurn) (n : ℕ) :
    clocksOf turns (n + 1) = (turns 0).clocks :: clocksOf (fun i => turns (i + 1)) n := by
  rw [clocksOf, List.range_succ_eq_map, List.map_cons, List.map_map]
  rfl

/-- The flow control after the first checks, each of which has returned zero. -/
inductive LetsPass : FlowControl → (ℕ → SendTurn) → ℕ → FlowControl → Prop where
  /-- Nothing was checked. -/
  | none (flow : FlowControl) (turns : ℕ → SendTurn) : LetsPass flow turns 0 flow
  /-- One check more in front. -/
  | cons {flow next last : FlowControl} {turns : ℕ → SendTurn} {n : ℕ}
      (hcheck : flow.check (turns 0).clocks = .ok (next, some 0))
      (hrest : LetsPass next (fun i => turns (i + 1)) n last) : LetsPass flow turns (n + 1) last

/-- Deliveries are sent, one in each turn. -/
def sendAll (d : Deliverer) : List DeliverInfo → (ℕ → SendTurn) → Deliverer
  | [], _ => d
  | user_data :: rest, turns =>
    let sent := d.sendDeliverSm user_data (selectSession d.binded_sessions_ (turns 0).rand) (turns 0).remoteEndpoint
    sendAll sent rest fun i => turns (i + 1)

/-- How `send_process` ends, at a place of the queue and with the flow control that it has there. -/
inductive Ends (s t : SendQueue) (n : ℕ) (turn : SendTurn) (flow : FlowControl) : Prop where
  /-- The check of the next delivery does not return. -/
  | stops {stop : Stop} (hlt : n < s.send_queue_.length)
      (hcheck : flow.check turn.clocks = .error stop ∨
        stop = .outOfBounds ∧ ∃ next, flow.check turn.clocks = .ok (next, none))
      (hstop : t.stop = some stop) (hflow : t.send_flow_control_ = flow) (htimer : t.timer_ = s.timer_)
  /-- The queue is empty. -/
  | empties (hlast : n = s.send_queue_.length) (hstop : t.stop = s.stop) (hflow : t.send_flow_control_ = flow)
      (htimer : t.timer_ = s.timer_.wait 1000)
  /-- The check of the next delivery refuses it. -/
  | refuses {wait_time : UInt64} (hlt : n < s.send_queue_.length) (hne : wait_time ≠ 0)
      (hcheck : flow.check turn.clocks = .ok (t.send_flow_control_, some wait_time)) (hstop : t.stop = s.stop)
      (htimer : t.timer_ = s.timer_.wait wait_time)

/-- `send_process` has taken out and sent the first `n` deliveries, each after a check that returned zero. It has come
to the end of the queue, or to a check that refuses the next one, and waits; or a check has not returned. -/
structure Drained (s t : SendQueue) (turns : ℕ → SendTurn) (n : ℕ) : Prop where
  le_length : n ≤ s.send_queue_.length
  queued : t.queued = s.queued
  send_queue_ : t.send_queue_ = s.send_queue_.drop n
  handed : t.handed = s.handed ++ (s.send_queue_.take n).zip (clocksOf turns n)
  deliverer : t.deliverer = sendAll s.deliverer (s.send_queue_.take n) turns
  ends : ∃ flow, LetsPass s.send_flow_control_ turns n flow ∧ Ends s t n (turns n) flow

/-- One delivery more in front. -/
theorem Drained.popFront {user_data : DeliverInfo} {queue : List DeliverInfo} {turns : ℕ → SendTurn}
    {flow : FlowControl} {n : ℕ} (hqueue : s.send_queue_ = user_data :: queue)
    (hcheck : s.send_flow_control_.check (turns 0).clocks = .ok (flow, some 0))
    (h : Drained ((s.checked (turns 0).clocks flow).popFront user_data queue (turns 0)) t
      (fun i => turns (i + 1)) n) : Drained s t turns (n + 1) := by
  have hrest : ((s.checked (turns 0).clocks flow).popFront user_data queue (turns 0)).send_queue_ = queue := rfl
  obtain ⟨last, hpass, hends⟩ := h.ends
  refine ⟨?_, h.queued, ?_, ?_, ?_, last, .cons hcheck hpass, ?_⟩
  · have hle := h.le_length
    rw [hrest] at hle
    rw [hqueue]
    exact Nat.succ_le_succ hle
  · rw [h.send_queue_, hqueue, hrest]
    rfl
  · rw [h.handed, hqueue, clocksOf_succ, List.take_succ_cons, List.zip_cons_cons, hrest]
    exact List.append_assoc _ _ _
  · rw [h.deliverer, hqueue, hrest]
    rfl
  · have hlength : n + 1 = s.send_queue_.length ↔ n = queue.length := by
      rw [hqueue, List.length_cons, Nat.succ_inj]
    have hshorter (hlt : n < queue.length) : n + 1 < s.send_queue_.length := by
      rw [hqueue]
      exact Nat.succ_lt_succ hlt
    cases hends with
    | stops hlt hcheck hstop hflow htimer => exact .stops (hshorter hlt) hcheck hstop hflow htimer
    | empties hlast hstop hflow htimer => exact .empties (hlength.mpr hlast) hstop hflow htimer
    | refuses hlt hne hcheck hstop htimer => exact .refuses (hshorter hlt) hne hcheck hstop htimer

/-- A loop that ends before it has taken anything out. -/
theorem Ends.drained {turns : ℕ → SendTurn} (hends : Ends s t 0 (turns 0) s.send_flow_control_)
    (hqueued : t.queued = s.queued) (hkept : t.send_queue_ = s.send_queue_) (hhanded : t.handed = s.handed)
    (hdeliverer : t.deliverer = s.deliverer) : ∃ n, Drained s t turns n :=
  ⟨0, Nat.zero_le _, hqueued, hkept, hhanded.trans (List.append_nil _).symm, hdeliverer, _, .none _ _, hends⟩

theorem drained_sendLoop (queue : List DeliverInfo) (turns : ℕ → SendTurn) (s : SendQueue)
    (hqueue : s.send_queue_ = queue) : ∃ n, Drained s (s.sendLoop queue turns) turns n := by
  induction queue generalizing s turns with
  | nil => exact Ends.drained (.empties (by rw [hqueue, List.length_nil]) rfl rfl rfl) rfl rfl rfl rfl
  | cons user_data queue ih =>
    have hlt : 0 < s.send_queue_.length := by
      rw [hqueue]
      exact Nat.succ_pos _
    unfold sendLoop
    split
    · rename_i hcheck
      exact Ends.drained (.stops hlt (.inl hcheck) rfl rfl rfl) rfl rfl rfl rfl
    · rename_i next hcheck
      exact Ends.drained (.stops hlt (.inr ⟨rfl, next, hcheck⟩) rfl rfl rfl) rfl rfl rfl rfl
    · rename_i flow wait_time hcheck
      by_cases hpass : wait_time = 0
      · subst hpass
        simp only [if_true]
        obtain ⟨n, hn⟩ := ih (fun i => turns (i + 1)) ((s.checked (turns 0).clocks flow).popFront user_data queue
          (turns 0)) rfl
        exact ⟨n + 1, hn.popFront hqueue hcheck⟩
      · simp only [hpass, if_false]
        exact Ends.drained (.refuses hlt hpass hcheck rfl rfl) rfl rfl rfl rfl

/-- **What `send_process` does.** -/
theorem drained_sendProcess (s : SendQueue) (turns : ℕ → SendTurn) : ∃ n, Drained s (s.sendProcess turns) turns n :=
  drained_sendLoop s.send_queue_ turns s rfl

/-! ### The order of the deliveries -/

/-- The deliveries are taken out in order, each once, and one wait is outstanding. -/
structure InOrder (s : SendQueue) : Prop where
  queued : s.queued = s.handed.map Prod.fst ++ s.send_queue_
  superseded : s.timer_.superseded = 0
  armed : s.stop = none → s.timer_.armed.isSome

theorem inOrder_start (flow : FlowControl) (deliverer : Deliverer) : (start flow deliverer).InOrder :=
  ⟨rfl, rfl, fun _ => rfl⟩

/-- A call of `send_process` while no wait is outstanding. -/
theorem Drained.inOrder {turns : ℕ → SendTurn} {n : ℕ} (h : Drained s t turns n)
    (hqueued : s.queued = s.handed.map Prod.fst ++ s.send_queue_) (htimer : s.timer_ = ⟨none, 0⟩) : t.InOrder := by
  have hlength : (clocksOf turns n).length = n := by rw [clocksOf, List.length_map, List.length_range]
  have hqueue : t.queued = t.handed.map Prod.fst ++ t.send_queue_ := by
    rw [h.queued, h.handed, h.send_queue_, hqueued, List.map_append, List.map_fst_zip, List.append_assoc,
      List.take_append_drop]
    rw [hlength]
    exact List.length_take_le _ _
  obtain ⟨flow, -, hends⟩ := h.ends
  cases hends with
  | stops _ _ hstop _ heq =>
    rw [htimer] at heq
    refine ⟨hqueue, by rw [heq], fun hnone => ?_⟩
    rw [hstop] at hnone
    cases hnone
  | empties _ _ _ heq =>
    rw [htimer] at heq
    exact ⟨hqueue, by rw [heq]; rfl, fun _ => by rw [heq]; rfl⟩
  | refuses _ _ _ _ heq =>
    rw [htimer] at heq
    exact ⟨hqueue, by rw [heq]; rfl, fun _ => by rw [heq]; rfl⟩

/-- `send_deliver_sm` touches neither the queue nor the flow control. -/
theorem InOrder.sendDeliverSm (h : s.InOrder) (deliver_info : DeliverInfo) (turn : SendTurn) :
    (s.sendDeliverSm deliver_info turn).InOrder := ⟨h.queued, h.superseded, h.armed⟩

theorem inOrder_handle (h : s.InOrder) (hstop : s.stop = none) (e : SendEvent) : (s.handle e).InOrder := by
  cases e with
  | queue deliver_info =>
    refine ⟨?_, h.superseded, h.armed⟩
    show s.queued ++ [deliver_info] = s.handed.map Prod.fst ++ (s.send_queue_ ++ [deliver_info])
    rw [h.queued, List.append_assoc]
  | report deliver_info turn =>
    exact InOrder.sendDeliverSm (s := { s with given := s.given ++ [deliver_info.id] }) ⟨h.1, h.2, h.3⟩ _ _
  | timer completion turns =>
    cases completion with
    | expired =>
      have harmed := h.armed hstop
      obtain ⟨n, hn⟩ := drained_sendProcess { s with timer_ := ⟨none, s.timer_.superseded⟩ } turns
      simp only [handle, FlowTimer.complete, harmed, if_true]
      refine hn.inOrder h.queued ?_
      rw [h.superseded]
    | superseded aborted =>
      simp only [handle, FlowTimer.complete, h.superseded]
      exact ⟨h.queued, rfl, h.armed⟩
  | replace event _ =>
    simp only [handle]
    split
    · exact ⟨h.queued, h.superseded, h.armed⟩
    · exact ⟨h.queued, h.superseded, fun hsome => nomatch hsome⟩
  | other event _ => exact ⟨h.queued, h.superseded, h.armed⟩

theorem inOrder_step (h : s.InOrder) (e : SendEvent) : (s.step e).InOrder := by
  unfold step
  split
  · exact h
  · rename_i hrunning
    exact inOrder_handle h (Option.not_isSome_iff_eq_none.mp hrunning) e

/-- **The queue of the deliveries**, in every run: the deliveries are taken out in order, each once; the timer is set
as long as the client is not stopped, and no other wait is outstanding; and when its time comes, the deliveries are
taken out and sent, each after a check that returned zero, up to the first one that a check refuses. -/
theorem queued_run (flow : FlowControl) (deliverer : Deliverer) (events : List SendEvent) :
    let s := run step (start flow deliverer) events
    s.queued = s.handed.map Prod.fst ++ s.send_queue_ ∧ s.timer_.superseded = 0 ∧
      (s.stop = none → s.timer_.armed.isSome ∧
        ∀ turns, ∃ n, Drained { s with timer_ := ⟨none, 0⟩ } (s.step (.timer .expired turns)) turns n) := by
  have hinOrder : (run step (start flow deliverer) events).InOrder :=
    (along_true fun _ _ => trivial).invariant (G := fun _ _ => True) (fun _ e h _ => inOrder_step h e)
      (inOrder_start flow deliverer)
  refine ⟨hinOrder.queued, hinOrder.superseded, fun hstop => ⟨hinOrder.armed hstop, fun turns => ?_⟩⟩
  have harmed := hinOrder.armed hstop
  simp only [step, hstop, Option.isSome_none, Bool.false_eq_true, if_false, handle, FlowTimer.complete, harmed,
    hinOrder.superseded, if_true]
  exact drained_sendProcess _ turns

/-! ### The rate of the `fixed_flow` method -/

/-- The checks come in the order of time, and none comes at the edge. -/
def Timely (checks : List (FlowControl × Clocks)) : Prop :=
  checks.Pairwise (fun c d => c.2.current_time.toNat ≤ d.2.current_time.toNat) ∧
    ∀ c ∈ checks, ¬c.1.AtEdge c.2.current_time

instance (checks : List (FlowControl × Clocks)) : Decidable (Timely checks) := inferInstanceAs (Decidable (_ ∧ _))

/-- The clocks when the deliveries were taken out. -/
def passed (s : SendQueue) : List Clocks := s.handed.map Prod.snd

/-- The flow control keeps the times of the deliveries that were taken out. -/
def Paced (rate : UInt32) (s : SendQueue) : Prop :=
  Timely s.checks → ∃ last, s.send_flow_control_.KeepsTimes rate last s.passed ∧
    (last = 0 ∨ ∃ c ∈ s.checks, last = c.2.current_time.toNat)

variable {rate : UInt32}

/-- A check counts a delivery exactly if it lets the delivery pass. -/
theorem Paced.checked (h : s.Paced rate) {clocks : Clocks} {flow : FlowControl} {wait_time : UInt64}
    (hcheck : s.send_flow_control_.check clocks = .ok (flow, some wait_time))
    (htimely : Timely (s.checks ++ [(s.send_flow_control_, clocks)])) :
    flow.KeepsTimes rate clocks.current_time.toNat (if wait_time = 0 then s.passed ++ [clocks] else s.passed) := by
  obtain ⟨hsorted, hedge⟩ := htimely
  obtain ⟨hbefore, -, hlast⟩ := List.pairwise_append.mp hsorted
  obtain ⟨last, hkeeps, hwhen⟩ := h ⟨hbefore, fun c hc => hedge c (List.mem_append_left _ hc)⟩
  have hle : last ≤ clocks.current_time.toNat := by
    rcases hwhen with rfl | ⟨c, hc, rfl⟩
    · exact Nat.zero_le _
    · exact hlast c hc _ (List.mem_singleton_self _)
  obtain ⟨r, hr, hnext⟩ := hkeeps.check hle (hedge _ (List.mem_append_right _ (List.mem_singleton_self _)))
  rw [hcheck] at hr
  obtain rfl := Except.ok.inj hr
  simpa only [Option.some_inj] using hnext

theorem paced_sendLoop (queue : List DeliverInfo) (turns : ℕ → SendTurn) (s : SendQueue) (h : s.Paced rate) :
    (s.sendLoop queue turns).Paced rate := by
  induction queue generalizing s turns with
  | nil => exact h
  | cons user_data queue ih =>
    unfold sendLoop
    split
    · exact h
    · exact h
    · rename_i flow wait_time hcheck
      have hnow : ∃ c ∈ s.checks ++ [(s.send_flow_control_, (turns 0).clocks)],
          (turns 0).clocks.current_time.toNat = c.2.current_time.toNat :=
        ⟨_, List.mem_append_right _ (List.mem_singleton_self _), rfl⟩
      by_cases hpass : wait_time = 0
      · simp only [hpass, if_true]
        refine ih _ _ fun htimely => ⟨_, ?_, .inr hnow⟩
        have hkeeps := h.checked hcheck htimely
        rw [if_pos hpass] at hkeeps
        have hpassed : ((s.checked (turns 0).clocks flow).popFront user_data queue (turns 0)).passed =
            s.passed ++ [(turns 0).clocks] := List.map_append
        rw [hpassed]
        exact hkeeps
      · simp only [hpass, if_false]
        refine fun htimely => ⟨_, ?_, .inr hnow⟩
        have hkeeps := h.checked hcheck htimely
        rw [if_neg hpass] at hkeeps
        exact hkeeps

theorem paced_step (h : s.Paced rate) {e : SendEvent} (he : e.isReplace = false) : (s.step e).Paced rate := by
  unfold step
  split
  · exact h
  cases e with
  | timer completion turns =>
    simp only [handle]
    split
    · exact paced_sendLoop _ turns { s with timer_ := (s.timer_.complete completion).1 } h
    · exact h
  | replace event _ => cases he
  | _ => exact h

/-- **The rate of the deliveries**: as long as the configuration stays and the checks come in the order of time, none
of them at the edge, no second has more deliveries taken out of the queue than the rate allows. -/
theorem fixedFlow_queued_run (window slippage : UInt32) (now : ℕ) (deliverer : Deliverer) (events : List SendEvent)
    (hrate : 1 ≤ rate) (hstays : ∀ e ∈ events, e.isReplace = false)
    (htimely : Timely (run step (start (.new rate .fixedFlow window slippage now) deliverer) events).checks) (t : ℕ) :
    (within (microseconds (run step (start (.new rate .fixedFlow window slippage now) deliverer) events).passed) t
      1000000).length ≤ rate.toNat := by
  have hpaced : (run step (start (.new rate .fixedFlow window slippage now) deliverer) events).Paced rate :=
    (along_of_forall hstays).invariant (fun _ _ h he => paced_step h he)
      fun _ => ⟨0, FlowControl.keepsTimes_new rate window slippage now 0, .inl rfl⟩
  obtain ⟨last, hkeeps, -⟩ := hpaced htimely
  have hle := hkeeps.spaced.window_le t
  have hpos := UInt32.le_iff_toNat_le.mp hrate
  rw [UInt32.toNat_one] at hpos
  omega

/-- Two deliveries are queued, and the checks are a microsecond apart. -/
def twoQueued : List SendEvent :=
  [.queue Deliverer.emptyReport, .queue Deliverer.emptyReport,
    .timer .expired fun i => ⟨⟨5000000 + UInt64.ofNat i, 0, 0⟩, 0, .ok []⟩]

theorem fixedFlow_queued_run_twoQueued :
    (within (microseconds (run step (start (.new 1 .fixedFlow 5 0 0) Deliverer.newClient) twoQueued).passed) 5000000
      1000000).length ≤ 1 :=
  fixedFlow_queued_run 5 0 0 Deliverer.newClient twoQueued (by decide) (by simp [twoQueued, SendEvent.isReplace])
    (by decide) 5000000

end SendQueue

end SmppGateway.Gateway
