import Mathlib.Logic.Relation
import SmppGateway.Net.Session

/-!
# The receiving side of a session

## The model

`ReceiveStep` is all that any event of a session can do to its receiving side: what the receive buffer,
the receiving state and the outstanding `async_receive`s go through, whatever the sending side, the timers
and the handlers do. An invariant of the receiving side is proved against these steps.

## What is proved

* `Session.receiveSide_step` — an event makes receive steps only.
-/

namespace SmppGateway.Net

open Foundation Relation

variable {Id Status Pdu : Type}

/-! ### Receive steps -/

/-- A `do_receive` that is active: at the head of its loop, or with a PDU left to consume. -/
def Task.loop : Task Id Status Pdu → Option (Option ℕ)
  | .receive => some none
  | .consume commandLength => some (some commandLength)
  | _ => none

/-- The receiving side of a session, its active `do_receive`s and what stopped it. -/
structure ReceiveSide (Id Status : Type) where
  rx : Receiver Id Status
  loops : List (Option ℕ)
  fault : Option Fault

/-- The receiving side of a session. -/
def Session.receiveSide (s : Session Id Status Pdu) : ReceiveSide Id Status where
  rx := s.rx
  loops := s.tasks.filterMap Task.loop
  fault := s.fault

/-- What can happen to the receiving side of a session. -/
inductive ReceiveStep (F : Framing Id Status) : ReceiveSide Id Status → ReceiveSide Id Status → Prop where
  /-- `pause_receiving`. -/
  | pause {r : ReceiveSide Id Status} (hstate : r.rx.receiving_state_ = .receiving) :
      ReceiveStep F r { r with rx := { r.rx with receiving_state_ := .pendingPause } }
  /-- `resume_receiving` of a session that does not wait for it. -/
  | resume {r : ReceiveSide Id Status} (hstate : r.rx.receiving_state_ ≠ .paused) :
      ReceiveStep F r { r with rx := { r.rx with receiving_state_ := .receiving } }
  /-- `resume_receiving` of a paused session. -/
  | restart {r : ReceiveSide Id Status} (hstate : r.rx.receiving_state_ = .paused) :
      ReceiveStep F r { r with rx := { r.rx with receiving_state_ := .receiving }, loops := none :: r.loops }
  /-- A PDU is handed over. -/
  | dispatch {r : ReceiveSide Id Status} {loops : List (Option ℕ)} {t : Turn Id Status}
      (hloops : r.loops = none :: loops)
      (hturn : F.turn r.rx.receiving_state_ r.rx.receive_buf_ = some t) :
      ReceiveStep F r { r with
        rx := { r.rx with
          dispatched := r.rx.dispatched ++ [(t.header, span r.rx.receive_buf_.buf_ t.first t.last)] }
        loops := some t.header.commandLength.toNat :: loops }
  /-- A body is read from a span that ends before it begins. -/
  | overrun {r : ReceiveSide Id Status} {loops : List (Option ℕ)} {t : Turn Id Status} (hfault : r.fault = none)
      (hloops : r.loops = none :: loops)
      (hturn : F.turn r.rx.receiving_state_ r.rx.receive_buf_ = some t) (hspan : t.last < t.first) :
      ReceiveStep F r { r with loops := loops, fault := some .outOfBounds }
  /-- The loop ends and the session is paused. -/
  | stop {r : ReceiveSide Id Status} {loops : List (Option ℕ)} (hloops : r.loops = none :: loops)
      (hstate : r.rx.receiving_state_ = .pendingPause) :
      ReceiveStep F r { r with rx := { r.rx with receiving_state_ := .paused }, loops := loops }
  /-- The loop ends and more is received. -/
  | prepare {r : ReceiveSide Id Status} {loops : List (Option ℕ)} {buf : ReceiveBuffer} {region : Region}
      (hloops : r.loops = none :: loops)
      (hturn : F.turn r.rx.receiving_state_ r.rx.receive_buf_ = none)
      (hstate : r.rx.receiving_state_ ≠ .pendingPause)
      (hprepare : r.rx.receive_buf_.prepare (64 * 1024) = .ok (buf, region)) :
      ReceiveStep F r { r with
        rx := { r.rx with receive_buf_ := buf, receives := r.rx.receives ++ [region] }
        loops := loops }
  /-- The loop ends and there is no room to receive more. -/
  | overflow {r : ReceiveSide Id Status} {loops : List (Option ℕ)} {e : Fault} (hfault : r.fault = none)
      (hloops : r.loops = none :: loops)
      (hturn : F.turn r.rx.receiving_state_ r.rx.receive_buf_ = none)
      (hstate : r.rx.receiving_state_ ≠ .pendingPause)
      (hprepare : r.rx.receive_buf_.prepare (64 * 1024) = .error e) :
      ReceiveStep F r { r with loops := loops, fault := some e }
  /-- A PDU is consumed. -/
  | consume {r : ReceiveSide Id Status} {loops : List (Option ℕ)} {commandLength : ℕ}
      (hloops : r.loops = some commandLength :: loops) :
      ReceiveStep F r { r with
        rx := { r.rx with receive_buf_ := r.rx.receive_buf_.consume commandLength }
        loops := none :: loops }
  /-- An `async_receive` completes. -/
  | received {r : ReceiveSide Id Status} {data : Bytes} {region : Region} {receives : List Region}
      (hloops : r.loops = []) (hreceives : r.rx.receives = region :: receives)
      (hdata : data.length ≤ region.length) :
      ReceiveStep F r { r with
        rx := { r.rx with
          receive_buf_ := (r.rx.receive_buf_.write region.first data).commit data.length
          receives := receives
          arrived := r.rx.arrived ++ data }
        loops := [none] }
  /-- An `async_receive` fails. -/
  | failed {r : ReceiveSide Id Status} {region : Region} {receives : List Region} (hloops : r.loops = [])
      (hreceives : r.rx.receives = region :: receives) :
      ReceiveStep F r { r with rx := { r.rx with receives := receives, failed := true } }

/-- A session that was stopped stays stopped. -/
theorem ReceiveStep.fault_eq {F : Framing Id Status} {r r' : ReceiveSide Id Status} (h : ReceiveStep F r r')
    {e : Fault} (he : r.fault = some e) : r'.fault = some e := by
  cases h
  case overrun hfault _ _ _ =>
    rw [hfault] at he
    cases he
  case overflow hfault _ _ _ _ =>
    rw [hfault] at he
    cases he
  all_goals exact he

/-- What has arrived stays. -/
theorem ReceiveStep.arrived_prefix {F : Framing Id Status} {r r' : ReceiveSide Id Status}
    (h : ReceiveStep F r r') : r.rx.arrived <+: r'.rx.arrived := by
  cases h
  case received => exact List.prefix_append _ _
  all_goals exact List.prefix_refl _

namespace Session

variable {D : Dialect Id Status Pdu} {s t : Session Id Status Pdu}

@[simp]
theorem receiveSide_invoke (s : Session Id Status Pdu) (call : Callback Id Status Pdu) :
    (s.invoke call).receiveSide = s.receiveSide := by
  unfold invoke
  split <;> rfl

@[simp]
theorem receiveSide_doSend (s : Session Id Status Pdu) : s.doSend.receiveSide = s.receiveSide := by
  unfold doSend
  split
  · rfl
  · simp only
    split
    · rw [receiveSide_invoke]
      rfl
    · rfl

@[simp]
theorem receiveSide_sendCommand (s : Session Id Status Pdu) (commandId : Id) (sequenceNumber : UInt32)
    (commandStatus : Status) :
    (sendCommand D s commandId sequenceNumber commandStatus).receiveSide = s.receiveSide :=
  receiveSide_doSend _

@[simp]
theorem receiveSide_sendNewCommand (s : Session Id Status Pdu) (commandId : Id) :
    (sendNewCommand D s commandId).receiveSide = s.receiveSide :=
  receiveSide_sendCommand _ _ _ _

@[simp]
theorem receiveSide_sendImpl (s : Session Id Status Pdu) (pdu : Pdu) (sequenceNumber : UInt32)
    (commandStatus : Status) :
    (sendImpl D s pdu sequenceNumber commandStatus).1.receiveSide = s.receiveSide := by
  rcases sendImpl_cases (D := D) s pdu sequenceNumber commandStatus with ⟨e, h⟩ | ⟨-, -, h⟩
  · rw [h]
  · rw [h, receiveSide_doSend]
    rfl

@[simp]
theorem receiveSide_sendRequest (s : Session Id Status Pdu) (pdu : Pdu) :
    (sendRequest D s pdu).1.receiveSide = s.receiveSide := by
  rw [sendRequest_fst, receiveSide_sendImpl]
  rfl

@[simp]
theorem receiveSide_written (s : Session Id Status Pdu) : s.written.receiveSide = s.receiveSide := by
  unfold written
  simp only
  split
  · rw [receiveSide_doSend]
    rfl
  · rfl

/-- The receive steps that lead from one session to another. -/
abbrev Receives (D : Dialect Id Status Pdu) (s t : Session Id Status Pdu) : Prop :=
  ReflTransGen (ReceiveStep D.framing) s.receiveSide t.receiveSide

theorem receives_of_eq (h : t.receiveSide = s.receiveSide) : Receives D s t := by
  rw [Receives, h]

theorem receives_of_start {u : Session Id Status Pdu} (h : Receives D t u)
    (hs : t.receiveSide = s.receiveSide) : Receives D s u := by
  rwa [Receives, hs] at h

/-- A task that is no `do_receive` is done. -/
theorem receiveSide_tail {task : Task Id Status Pdu} {tasks : List (Task Id Status Pdu)}
    (htasks : s.tasks = task :: tasks) (htask : task.loop = none) :
    ({ s with tasks := tasks } : Session Id Status Pdu).receiveSide = s.receiveSide := by
  rw [receiveSide, receiveSide, htasks, List.filterMap_cons_none htask]

theorem receives_pauseReceiving (s : Session Id Status Pdu) : Receives D s s.pauseReceiving := by
  unfold pauseReceiving
  split
  · rename_i hstate
    exact .single (.pause hstate)
  · exact .refl

theorem receives_resumeReceiving (s : Session Id Status Pdu) : Receives D s s.resumeReceiving := by
  unfold resumeReceiving
  simp only
  split
  · rename_i hstate
    exact .single (.restart hstate)
  · rename_i hstate
    exact .single (.resume hstate)

theorem receives_close (s : Session Id Status Pdu) (reason : Bytes) : Receives D s (close D s reason) := by
  unfold close
  split
  · exact .refl
  · simp only
    split
    · exact receives_pauseReceiving s
    · exact .refl

theorem receives_react (s : Session Id Status Pdu) (reaction : Reaction Id Status Pdu) :
    Receives D s (react D s reaction) := by
  cases reaction with
  | sendCommand => exact receives_of_eq (receiveSide_sendCommand _ _ _ _)
  | startUnbinding =>
    simp only [react]
    split <;> exact .refl
  | close reason => exact receives_close s reason
  | callback => exact receives_of_eq (receiveSide_invoke _ _)

theorem loops_dispatch (reactions : List (Reaction Id Status Pdu)) (commandLength : ℕ)
    (tasks : List (Task Id Status Pdu)) :
    (reactions.map Task.react ++ Task.consume commandLength :: tasks).filterMap Task.loop =
      some commandLength :: tasks.filterMap Task.loop := by
  have hnone : (reactions.map Task.react).filterMap Task.loop = [] := by
    simp [List.filterMap_map, Function.comp_def, Task.loop]
  rw [List.filterMap_append, hnone]
  rfl

theorem receives_doReceive (hfault : s.fault = none) {tasks : List (Task Id Status Pdu)}
    (htasks : s.tasks = .receive :: tasks) : Receives D s (doReceive D { s with tasks := tasks }) := by
  have hloops : s.receiveSide.loops = none :: tasks.filterMap Task.loop := by
    rw [receiveSide, htasks]
    rfl
  unfold doReceive
  simp only
  split
  case h_1 t hturn =>
    split
    · rename_i hreads
      rw [Bool.and_eq_true, decide_eq_true_eq] at hreads
      exact .single (.overrun hfault hloops hturn hreads.1)
    · have h := ReceiveStep.dispatch hloops hturn
      rw [← loops_dispatch] at h
      exact .single h
  case h_2 hturn =>
    split
    · rename_i hstate
      exact .single (.stop hloops hstate)
    · rename_i hstate
      split
      · rename_i hprepare
        exact .single (.overflow hfault hloops hturn hstate hprepare)
      · rename_i hprepare
        exact .single (.prepare hloops hturn hstate hprepare)

theorem receives_internal (hfault : s.fault = none) : Receives D s (internal D s) := by
  unfold internal
  split
  case h_1 => exact .refl
  case h_2 => exact .refl
  case h_3 htasks =>
    exact receives_of_start (receives_react _ _) (receiveSide_tail htasks rfl)
  case h_4 htasks => exact receives_doReceive hfault htasks
  case h_5 htasks => exact .single (.consume (by rw [receiveSide, htasks]; rfl))
  case h_6 htasks => exact receives_of_start .refl (receiveSide_tail htasks rfl)
  case h_7 htasks => exact receives_of_start .refl (receiveSide_tail htasks rfl)

theorem receives_call (s : Session Id Status Pdu) (c : Call D) : Receives D s (call D s c) := by
  cases c with
  | start => exact receives_of_start (receives_resumeReceiving _) rfl
  | unbind force =>
    simp only [call]
    split
    · split
      · exact .refl
      · exact receives_of_eq (receiveSide_sendNewCommand _ _)
    · exact .refl
  | bind =>
    simp only [call]
    split <;> exact .refl
  | sendResponse => exact receives_of_eq (receiveSide_sendImpl _ _ _ _)
  | sendRequest => exact receives_of_eq (receiveSide_sendRequest _ _)
  | setSendBufThreshold => exact .refl
  | pauseReceiving => exact receives_pauseReceiving s
  | resumeReceiving => exact receives_resumeReceiving s
  | assign => exact .refl

theorem receives_inactivityTimer (s : Session Id Status Pdu) (error : Option Bytes) :
    Receives D s (inactivityTimer D s error) := by
  rcases inactivityTimer_cases D s error with ⟨what, hclose⟩ | hagain
  · rw [hclose]
    exact receives_close s what
  · rw [hagain]
    exact .refl

theorem receives_enquirelinkTimer (s : Session Id Status Pdu) (error : Option Bytes) :
    Receives D s (enquirelinkTimer D s error) := by
  rcases enquirelinkTimer_cases D s error with ⟨what, hclose⟩ | ⟨s', rfl, hsend | hagain⟩
  · rw [hclose]
    exact receives_close s what
  · rw [hsend]
    exact receives_of_eq (receiveSide_sendNewCommand _ _)
  · rw [hagain]
    exact .refl

/-- **What an event does to the receiving side.** -/
theorem receiveSide_step (s : Session Id Status Pdu) (e : Event D) : Receives D s (step D s e) := by
  by_cases hfault : s.fault.isSome
  · exact receives_of_eq (by rw [step, if_pos hfault])
  rw [Option.not_isSome_iff_eq_none] at hfault
  rcases step_takes D s e with hsame | htakes
  · rw [hsame]
  generalize step D s e = t at htakes ⊢
  cases htakes with
  | internal => exact receives_internal hfault
  | call c hcallable => exact receives_call s c
  | returned htasks => exact receives_of_eq (receiveSide_tail htasks rfl)
  | @received data region receives htasks hreceives hdata =>
    have h := ReceiveStep.received (F := D.framing) (r := s.receiveSide) (by rw [receiveSide, htasks]; rfl)
      hreceives hdata
    refine .single ?_
    simpa [receiveSide, Session.received, htasks, Task.loop] using h
  | receiveFailed error htasks hreceives =>
    refine .head ?_ (receives_close _ error)
    exact ReceiveStep.failed (r := s.receiveSide) (by rw [receiveSide, htasks]; rfl) hreceives
  | written htasks hwrites => exact receives_of_eq (receiveSide_written s)
  | writeFailed error htasks hwrites => exact receives_of_start (receives_close _ _) rfl
  | inactivityTimer error htasks hwaits => exact receives_of_start (receives_inactivityTimer _ error) rfl
  | enquirelinkTimer error htasks hwaits => exact receives_of_start (receives_enquirelinkTimer _ error) rfl
  | closeNotified htasks hposted => exact receives_of_eq (by rw [receiveSide, receiveSide, htasks]; rfl)

end Session

end SmppGateway.Net
