import SmppGateway.Smpp.LifeCycle

/-!
# Keeping a session alive

The two timers of an SMPP session. The inactivity timer goes off every `inactivity_threshold_` seconds and closes the
session when nothing was received since it last did; the enquire-link timer, once the session is bound, sends
an `enquire_link` when nothing was received since it last went off.

## The model

`Timed` is a session with the times that matter; an event comes with its own time. What the clocks are relied on for
is `Clocked`: times do not go back, a wait completes without an error not before its time has come, and once it has
come nothing else comes for more than a `delay` before it does.

* A session is started once.
* A `bind` while a wait is outstanding cancels that wait, so the enquire-link timer goes off after the last setting.

## What is proved

* `Timed.ticks_step` — what one event does to the two timers.
* `Timed.keptAlive_run` — in every such run the inactivity timer closes the session, and the enquire-link timer asks,
  only after nothing was received for the time they are set to, and a session that has received nothing for twice that
  time and the delays has asked, if it was bound, and has been closed.
-/

namespace SmppGateway.Net

open Foundation

variable {Id Status Pdu : Type}

/-! ### The timers -/

theorem State.opened_of_rank_le {state next : State} (h : state.rank ≤ next.rank) (hnext : next = .opened) :
    state = .opened := by
  subst hnext
  cases state with
  | opened => rfl
  | unbinding => exact absurd h (by decide)
  | closed => exact absurd h (by decide)

theorem State.closed_of_rank_le {state next : State} (h : state.rank ≤ next.rank) (hstate : state = .closed) :
    next = .closed := by
  subst hstate
  cases next with
  | opened => exact absurd h (by decide)
  | unbinding => exact absurd h (by decide)
  | closed => rfl

/-- What the timers of a session work on. -/
structure TimerSide where
  inactivity_counter_ : UInt32
  enquirelink_counter_ : UInt32
  inactivityWaits : ℕ
  enquirelinkWaits : ℕ

namespace Session

variable {D : Dialect Id Status Pdu} {s : Session Id Status Pdu}

/-- The timers of a session. -/
def timerSide (s : Session Id Status Pdu) : TimerSide :=
  ⟨s.inactivity_counter_, s.enquirelink_counter_, s.inactivityWaits, s.enquirelinkWaits⟩

@[simp]
theorem timerSide_invoke (s : Session Id Status Pdu) (call : Callback Id Status Pdu) :
    (s.invoke call).timerSide = s.timerSide := by
  unfold invoke
  split <;> rfl

@[simp]
theorem timerSide_doSend (s : Session Id Status Pdu) : s.doSend.timerSide = s.timerSide := by
  unfold doSend
  split
  · rfl
  · simp only
    split
    · rw [timerSide_invoke]
      rfl
    · rfl

/-- A command is the last that was sent. -/
theorem sent_sendNewCommand (s : Session Id Status Pdu) (commandId : Id) :
    (sendNewCommand D s commandId).tx.sent =
      s.tx.sent ++ [⟨commandId, D.rok, D.nextSequenceNumber s.sequence_number_, []⟩] := sent_doSend _

theorem timerSide_sendNewCommand (s : Session Id Status Pdu) (commandId : Id) :
    (sendNewCommand D s commandId).timerSide = s.timerSide := timerSide_doSend _

theorem timerSide_sendImpl (s : Session Id Status Pdu) (pdu : Pdu) (sequenceNumber : UInt32)
    (commandStatus : Status) : (sendImpl D s pdu sequenceNumber commandStatus).1.timerSide = s.timerSide := by
  rcases sendImpl_cases (D := D) s pdu sequenceNumber commandStatus with ⟨e, h⟩ | ⟨-, -, h⟩
  · rw [h]
  · rw [h, timerSide_doSend]
    rfl

theorem timerSide_written (s : Session Id Status Pdu) : s.written.timerSide = s.timerSide := by
  unfold written
  simp only
  split
  · rw [timerSide_doSend]
    rfl
  · rfl

theorem timerSide_pauseReceiving (s : Session Id Status Pdu) : s.pauseReceiving.timerSide = s.timerSide := by
  unfold pauseReceiving
  split <;> rfl

theorem timerSide_resumeReceiving (s : Session Id Status Pdu) : s.resumeReceiving.timerSide = s.timerSide := by
  unfold resumeReceiving
  simp only
  split <;> rfl

@[simp]
theorem timerSide_close (s : Session Id Status Pdu) (reason : Bytes) : (close D s reason).timerSide = s.timerSide := by
  unfold close
  split
  · rfl
  · simp only
    split
    · exact timerSide_pauseReceiving s
    · rfl

theorem timerSide_react (s : Session Id Status Pdu) (reaction : Reaction Id Status Pdu) :
    (react D s reaction).timerSide = s.timerSide := by
  cases reaction with
  | sendCommand => exact timerSide_doSend _
  | startUnbinding =>
    simp only [react]
    split <;> rfl
  | close reason => exact timerSide_close s reason
  | callback => exact timerSide_invoke _ _

theorem timerSide_doReceive (s : Session Id Status Pdu) : (doReceive D s).timerSide = s.timerSide := by
  unfold doReceive
  split
  · split <;> rfl
  · split
    · rfl
    · split <;> rfl

theorem timerSide_internal (s : Session Id Status Pdu) : (internal D s).timerSide = s.timerSide := by
  unfold internal
  split
  case h_1 => rfl
  case h_2 => rfl
  case h_3 => exact timerSide_react _ _
  case h_4 => exact timerSide_doReceive _
  case h_5 => rfl
  case h_6 => rfl
  case h_7 => rfl

/-- No call but `start` and `bind` sets a timer. -/
theorem timerSide_call {c : Call D} (hstart : c ≠ .start) (hbind : c ≠ .bind) (s : Session Id Status Pdu) :
    (call D s c).timerSide = s.timerSide := by
  cases c with
  | start => exact absurd rfl hstart
  | unbind force =>
    simp only [call]
    split
    · split
      · rfl
      · exact timerSide_sendNewCommand _ _
    · rfl
  | bind => exact absurd rfl hbind
  | sendResponse => exact timerSide_sendImpl _ _ _ _
  | sendRequest =>
    simp only [call]
    rw [sendRequest_fst, timerSide_sendImpl]
    rfl
  | setSendBufThreshold => rfl
  | pauseReceiving => exact timerSide_pauseReceiving s
  | resumeReceiving => exact timerSide_resumeReceiving s
  | assign => rfl

/-- A closed session has been closed for good. -/
theorem close_closed (s : Session Id Status Pdu) (reason : Bytes) : (close D s reason).state_ = .closed := by
  unfold close
  split
  · assumption
  · rfl

end Session

end SmppGateway.Net

namespace SmppGateway.Smpp

open Foundation Net

/-! ### Times -/

/-- A session, and when what happened to it. -/
structure Timed where
  session : Session CommandId CommandStatus Pdu
  /-- The last event. -/
  now : ℕ
  /-- The last completion of an `async_receive`, or the start. -/
  heard : ℕ
  /-- When the inactivity timer was set last. -/
  inactivitySet : ℕ
  /-- When the enquire-link timer was set last. -/
  enquirelinkSet : ℕ
  /-- The last `bind`, or the start. -/
  bound : ℕ
  /-- An `enquire_link` was sent since something was received. -/
  asked : Bool

/-- No function is active, and no fault has stopped the session. -/
def idle (s : Session CommandId CommandStatus Pdu) : Bool := s.fault.isNone && s.tasks.isEmpty

/-- An `async_receive` completes. -/
def hears (s : Session CommandId CommandStatus Pdu) : Event dialect → Bool
  | .received data => idle s && s.rx.receives.head?.any fun region => data.length ≤ region.length
  | _ => false

/-- `do_set_inactivity_timer` is called again. -/
def setsInactivity (s : Session CommandId CommandStatus Pdu) : Event dialect → Bool
  | .inactivityTimer none => idle s && s.inactivityWaits ≠ 0 && s.inactivity_counter_ < 1
  | _ => false

/-- `bind` sets the enquire-link timer. -/
def binds (s : Session CommandId CommandStatus Pdu) : Event dialect → Bool
  | .call .bind => s.fault.isNone && s.callable && s.state_ = .opened
  | _ => false

/-- `do_set_enquirelink_timer` is called. -/
def setsEnquirelink (s : Session CommandId CommandStatus Pdu) : Event dialect → Bool
  | .enquirelinkTimer none => idle s && s.enquirelinkWaits ≠ 0
  | e => binds s e

/-- The enquire-link timer goes off, and an `enquire_link` is sent. -/
def asks (s : Session CommandId CommandStatus Pdu) : Event dialect → Bool
  | .enquirelinkTimer none =>
    ((Session.step dialect s (.enquirelinkTimer none)).tx.sent.drop s.tx.sent.length).any
      fun sent => sent.commandId = CommandId.enquireLink
  | _ => false

section Step

variable {s : Session CommandId CommandStatus Pdu}

theorem step_of_idle (h : idle s = true) (e : Event dialect) :
    Session.step dialect s e = Session.handle dialect s e ∧ s.tasks = [] := by
  simp only [idle, Bool.and_eq_true, Option.isNone_iff_eq_none, List.isEmpty_iff] at h
  refine ⟨?_, h.2⟩
  rw [Session.step, h.1]
  rfl

/-- While a function is active, or after a fault, no completion comes. -/
theorem step_of_not_idle (h : idle s = false) {e : Event dialect} (hinternal : e ≠ .internal)
    (hcall : ∀ c, e ≠ .call c) (hreturned : e ≠ .returned) : Session.step dialect s e = s := by
  simp only [idle, Bool.and_eq_false_iff, Option.isNone_eq_false_iff, List.isEmpty_eq_false_iff] at h
  rw [Session.step]
  split
  · rfl
  · rename_i hfault
    obtain ⟨task, tasks, htasks⟩ := List.exists_cons_of_ne_nil (h.resolve_left hfault)
    cases e with
    | internal => exact absurd rfl hinternal
    | call c => exact absurd rfl (hcall c)
    | returned => exact absurd rfl hreturned
    | received data => simp only [Session.handle, htasks]
    | receiveFailed error => simp only [Session.handle, htasks]
    | written => simp only [Session.handle, htasks]
    | writeFailed error => simp only [Session.handle, htasks]
    | inactivityTimer error => simp only [Session.handle, htasks]
    | enquirelinkTimer error => simp only [Session.handle, htasks]
    | closeNotified => simp only [Session.handle, htasks]

theorem step_received (data : Bytes) :
    (hears s (.received data) = false ∧ Session.step dialect s (.received data) = s) ∨
      hears s (.received data) = true ∧
        ∃ region receives, Session.step dialect s (.received data) = s.received data region receives := by
  cases hidle : idle s with
  | false =>
    refine .inl ⟨by simp [hears, hidle], step_of_not_idle hidle (by simp) (by simp) (by simp)⟩
  | true =>
    obtain ⟨hstep, htasks⟩ := step_of_idle hidle (.received data)
    rw [hstep]
    simp only [hears, hidle, Bool.true_and, Session.handle, htasks]
    cases hreceives : s.rx.receives with
    | nil => exact .inl ⟨rfl, rfl⟩
    | cons region receives =>
      simp only [List.head?_cons, Option.any_some]
      by_cases hdata : data.length ≤ region.length
      · rw [if_pos hdata]
        exact .inr ⟨decide_eq_true hdata, region, receives, rfl⟩
      · rw [if_neg hdata]
        exact .inl ⟨decide_eq_false hdata, rfl⟩

/-- The inactivity timer goes off, or cannot. -/
theorem step_inactivityTimer :
    (Session.step dialect s (.inactivityTimer none) = s ∧ setsInactivity s (.inactivityTimer none) = false) ∨
      ∃ waits, s.inactivityWaits = waits + 1 ∧
        setsInactivity s (.inactivityTimer none) = decide (s.inactivity_counter_ < 1) ∧
        Session.step dialect s (.inactivityTimer none) =
          Session.inactivityTimer dialect { s with inactivityWaits := waits } none := by
  cases hidle : idle s with
  | false =>
    refine .inl ⟨step_of_not_idle hidle (by simp) (by simp) (by simp), by simp [setsInactivity, hidle]⟩
  | true =>
    obtain ⟨hstep, htasks⟩ := step_of_idle hidle (.inactivityTimer none)
    rw [hstep]
    simp only [setsInactivity, hidle, Bool.true_and, Session.handle, htasks]
    cases hwaits : s.inactivityWaits with
    | zero => exact .inl ⟨rfl, by simp⟩
    | succ waits => exact .inr ⟨waits, rfl, by simp, rfl⟩

/-- The enquire-link timer goes off, or cannot. -/
theorem step_enquirelinkTimer :
    (Session.step dialect s (.enquirelinkTimer none) = s ∧ setsEnquirelink s (.enquirelinkTimer none) = false) ∨
      ∃ waits, s.enquirelinkWaits = waits + 1 ∧ setsEnquirelink s (.enquirelinkTimer none) = true ∧
        Session.step dialect s (.enquirelinkTimer none) =
          Session.enquirelinkTimer dialect { s with enquirelinkWaits := waits } none := by
  cases hidle : idle s with
  | false =>
    refine .inl ⟨step_of_not_idle hidle (by simp) (by simp) (by simp), by simp [setsEnquirelink, hidle]⟩
  | true =>
    obtain ⟨hstep, htasks⟩ := step_of_idle hidle (.enquirelinkTimer none)
    rw [hstep]
    simp only [setsEnquirelink, hidle, Bool.true_and, Session.handle, htasks]
    cases hwaits : s.enquirelinkWaits with
    | zero => exact .inl ⟨rfl, by simp⟩
    | succ waits => exact .inr ⟨waits, rfl, by simp, rfl⟩

/-- `bind` sets the timer of an open session. -/
theorem step_bind :
    (Session.step dialect s (.call .bind) = s ∧ setsEnquirelink s (.call .bind) = false) ∨
      setsEnquirelink s (.call .bind) = true ∧
        Session.step dialect s (.call .bind) = { s with enquirelinkWaits := s.enquirelinkWaits + 1 } := by
  simp only [Session.step, Session.handle, setsEnquirelink, binds]
  cases hfault : s.fault with
  | some fault => exact .inl ⟨rfl, rfl⟩
  | none =>
    cases hcallable : s.callable with
    | false => exact .inl ⟨rfl, rfl⟩
    | true =>
      by_cases hopen : s.state_ = .opened
      · exact .inr ⟨by simp [hopen], by simp [Session.call, dialect, hopen, hfault]⟩
      · exact .inl ⟨by simp [Session.call, hopen], by simp [hopen]⟩

theorem setsEnquirelink_call {c : Net.Call dialect} (hbind : c ≠ .bind) : setsEnquirelink s (.call c) = false := by
  cases c with
  | bind => exact absurd rfl hbind
  | _ => rfl

end Step

namespace Timed

/-- What an event at a time makes of a session. -/
def step (s : Timed) (e : ℕ × Event dialect) : Timed where
  session := Session.step dialect s.session e.2
  now := e.1
  heard := if hears s.session e.2 then e.1 else s.heard
  inactivitySet := if setsInactivity s.session e.2 then e.1 else s.inactivitySet
  enquirelinkSet := if setsEnquirelink s.session e.2 then e.1 else s.enquirelinkSet
  bound := if binds s.session e.2 then e.1 else s.bound
  asked := !hears s.session e.2 && (s.asked || asks s.session e.2)

/-- A session that is started. -/
def start (handlers : Handler → Bool) (time : ℕ) : Timed :=
  ⟨Session.call dialect (.fresh handlers) .start, time, time, time, time, time, false⟩

section Step

variable (s : Timed) (e : ℕ × Event dialect)

theorem heard_step : (s.step e).heard = if hears s.session e.2 then e.1 else s.heard := rfl

theorem inactivitySet_step :
    (s.step e).inactivitySet = if setsInactivity s.session e.2 then e.1 else s.inactivitySet := rfl

theorem enquirelinkSet_step :
    (s.step e).enquirelinkSet = if setsEnquirelink s.session e.2 then e.1 else s.enquirelinkSet := rfl

theorem bound_step : (s.step e).bound = if binds s.session e.2 then e.1 else s.bound := rfl

theorem asked_step : (s.step e).asked = (!hears s.session e.2 && (s.asked || asks s.session e.2)) := rfl

end Step

/-- What the clocks and the owner are relied on for. -/
structure Clocked (inactivity enquirelink delay : ℕ) (s : Timed) (e : ℕ × Event dialect) : Prop where
  forward : s.now ≤ e.1
  startedOnce : e.2 ≠ .call .start
  /-- A wait does not complete early. -/
  notEarly : e.2 = .inactivityTimer none → s.inactivitySet + inactivity ≤ e.1
  enquirelinkNotEarly : e.2 = .enquirelinkTimer none → s.enquirelinkSet + enquirelink ≤ e.1
  /-- A wait does not complete late. -/
  punctual : s.session.inactivityWaits ≠ 0 → e.1 ≤ s.inactivitySet + inactivity + delay
  enquirelinkPunctual : s.session.enquirelinkWaits ≠ 0 → e.1 ≤ s.enquirelinkSet + enquirelink + delay

variable {s : Timed} {e : ℕ × Event dialect}

/-! ### What an event does to the timers -/

/-- What an event finds and makes of the timers, by what it is. -/
inductive Ticks (s : Timed) (e : ℕ × Event dialect) : Prop where
  /-- The event cannot come, or no timer has to do with it. -/
  | other (hears : hears s.session e.2 = false) (inactivity : setsInactivity s.session e.2 = false)
      (enquirelink : setsEnquirelink s.session e.2 = false)
      (timerSide : (s.step e).session.timerSide = s.session.timerSide)
      (timer : (e.2 = .inactivityTimer none ∨ e.2 = .enquirelinkTimer none) → (s.step e).session = s.session)
  /-- Something was received. -/
  | heard (hears : hears s.session e.2 = true) (inactivity : setsInactivity s.session e.2 = false)
      (enquirelink : setsEnquirelink s.session e.2 = false)
      (timer : e.2 ≠ .inactivityTimer none ∧ e.2 ≠ .enquirelinkTimer none)
      (timerSide : (s.step e).session.timerSide = { s.session.timerSide with
        inactivity_counter_ := 0
        enquirelink_counter_ := if s.session.state_ = .opened then 0 else s.session.enquirelink_counter_ })
  /-- `bind`. -/
  | bound (hears : hears s.session e.2 = false) (inactivity : setsInactivity s.session e.2 = false)
      (enquirelink : setsEnquirelink s.session e.2 = true) (bind : e.2 = .call .bind)
      (timerSide : (s.step e).session.timerSide = { s.session.timerSide with
        enquirelinkWaits := s.session.enquirelinkWaits + 1 })
  /-- The inactivity timer goes off and is set again. -/
  | again (hears : hears s.session e.2 = false) (inactivity : setsInactivity s.session e.2 = true)
      (enquirelink : setsEnquirelink s.session e.2 = false) (timer : e.2 = .inactivityTimer none)
      (waits : s.session.inactivityWaits ≠ 0) (counter : s.session.inactivity_counter_ = 0)
      (timerSide : (s.step e).session.timerSide = { s.session.timerSide with inactivity_counter_ := 1 })
      (state : (s.step e).session.state_ = s.session.state_)
  /-- The enquire-link timer goes off and is set again. -/
  | enquired (hears : hears s.session e.2 = false) (inactivity : setsInactivity s.session e.2 = false)
      (enquirelink : setsEnquirelink s.session e.2 = true) (timer : e.2 = .enquirelinkTimer none)
      (timerSide : (s.step e).session.timerSide = { s.session.timerSide with
        enquirelink_counter_ := s.session.enquirelink_counter_ + 1 })
      (waits : s.session.enquirelinkWaits ≠ 0)
      (asks : asks s.session e.2 = true ↔ s.session.enquirelink_counter_ ≠ 0 ∧ s.session.state_ = .opened)
  /-- The session is closed. -/
  | closed (hears : hears s.session e.2 = false) (inactivity : setsInactivity s.session e.2 = false)
      (enquirelink : setsEnquirelink s.session e.2 = false) (timer : e.2 ≠ .enquirelinkTimer none)
      (counter : e.2 = .inactivityTimer none → s.session.inactivity_counter_ ≠ 0)
      (kept : (s.step e).session.inactivity_counter_ = s.session.inactivity_counter_)
      (state : (s.step e).session.state_ = .closed)

/-- An event that is not taken. -/
theorem Ticks.of_same (hsame : (s.step e).session = s.session) (hhears : hears s.session e.2 = false)
    (hinactivity : setsInactivity s.session e.2 = false)
    (henquirelink : setsEnquirelink s.session e.2 = false) : Ticks s e :=
  .other hhears hinactivity henquirelink (by rw [hsame]) fun _ => hsame

/-- An event that closes the session for another reason. -/
theorem Ticks.of_close {t : Session CommandId CommandStatus Pdu} {reason : Bytes}
    (hclose : (s.step e).session = t.close dialect reason)
    (hcounter : t.inactivity_counter_ = s.session.inactivity_counter_) (hhears : hears s.session e.2 = false)
    (hinactivity : setsInactivity s.session e.2 = false)
    (henquirelink : setsEnquirelink s.session e.2 = false)
    (htimer : e.2 ≠ .inactivityTimer none ∧ e.2 ≠ .enquirelinkTimer none) : Ticks s e := by
  refine .closed hhears hinactivity henquirelink htimer.2 (fun h => absurd h htimer.1) ?_ ?_
  · rw [hclose, ← hcounter]
    exact congrArg TimerSide.inactivity_counter_ (Session.timerSide_close t reason)
  · rw [hclose]
    exact Session.close_closed t reason

/-- A wait on the inactivity timer that completes. -/
theorem ticks_inactivityTimer (time : ℕ) : Ticks s (time, .inactivityTimer none) := by
  rcases step_inactivityTimer (s := s.session) with ⟨hsame, hset⟩ | ⟨waits, hwaits, hset, hstep⟩
  · exact .of_same hsame rfl hset rfl
  · have hnext : (s.step (time, .inactivityTimer none)).session =
        Session.inactivityTimer dialect { s.session with inactivityWaits := waits } none := hstep
    by_cases hcounter : s.session.inactivity_counter_ ≥ 1
    · have hclose := hnext.trans (if_pos hcounter)
      refine .closed rfl ?_ rfl (by simp) (fun _ hzero => ?_) ?_ ?_
      · exact hset.trans (decide_eq_false (UInt32.not_lt.mpr hcounter))
      · rw [hzero] at hcounter
        exact absurd hcounter (by decide)
      · rw [hclose]
        exact congrArg TimerSide.inactivity_counter_ (Session.timerSide_close _ _)
      · rw [hclose]
        exact Session.close_closed _ _
    · have hzero : s.session.inactivity_counter_ = 0 := UInt32.lt_one_iff.mp (UInt32.not_le.mp hcounter)
      have hagain := hnext.trans (if_neg hcounter)
      refine .again rfl (hset.trans (decide_eq_true (UInt32.not_le.mp hcounter))) rfl rfl (by omega) hzero ?_ ?_
      · rw [hagain]
        simp only [Session.timerSide, hzero, hwaits]
        rfl
      · rw [hagain]

/-- A wait on the enquire-link timer that completes. -/
theorem ticks_enquirelinkTimer (time : ℕ) : Ticks s (time, .enquirelinkTimer none) := by
  rcases step_enquirelinkTimer (s := s.session) with ⟨hsame, hset⟩ | ⟨waits, hwaits, hset, hstep⟩
  · exact .of_same hsame rfl rfl hset
  · have hnext : (s.step (time, .enquirelinkTimer none)).session =
        Session.enquirelinkTimer dialect { s.session with enquirelinkWaits := waits } none := hstep
    refine .enquired rfl rfl hset rfl ?_ (by omega) ?_
    · rw [hnext, Session.enquirelinkTimer]
      simp only
      split
      · rw [Session.timerSide_sendNewCommand]
        simp only [Session.timerSide, hwaits]
      · simp only [Session.timerSide, hwaits]
    · simp only [asks]
      have hone : s.session.enquirelink_counter_ ≠ 0 ↔ s.session.enquirelink_counter_ ≥ 1 := by
        rw [ge_iff_le, ne_eq, ← UInt32.lt_one_iff, UInt32.not_lt]
      rw [hstep, Session.enquirelinkTimer, hone]
      simp only
      split
      · rename_i hdue
        simp only [Bool.and_eq_true, decide_eq_true_eq] at hdue
        rw [Session.sent_sendNewCommand, List.drop_left]
        exact ⟨fun _ => hdue, fun _ => rfl⟩
      · rename_i hdue
        simp only [Bool.and_eq_true, decide_eq_true_eq] at hdue
        simpa using hdue

/-- **What an event does to the timers**, one case for each thing that can happen. -/
theorem ticks_step (honce : e.2 ≠ .call .start) : Ticks s e := by
  obtain ⟨time, event⟩ := e
  have htakes := Session.step_takes dialect s.session event
  cases event with
  | internal =>
    rcases htakes with hsame | htakes
    · exact .of_same hsame rfl rfl rfl
    · generalize hnext : Session.step dialect s.session .internal = next at htakes
      cases htakes with
      | internal =>
        exact .other rfl rfl rfl ((congrArg Session.timerSide hnext).trans (Session.timerSide_internal _)) (by simp)
  | call c =>
    by_cases hbind : c = .bind
    · subst hbind
      rcases step_bind (s := s.session) with ⟨hsame, hset⟩ | ⟨hset, hstep⟩
      · exact .of_same hsame rfl rfl hset
      · exact .bound rfl rfl hset rfl (congrArg Session.timerSide hstep)
    · have hset : setsEnquirelink s.session (.call c) = false := setsEnquirelink_call hbind
      rcases htakes with hsame | htakes
      · exact .of_same hsame rfl rfl hset
      · generalize hnext : Session.step dialect s.session (.call c) = next at htakes
        cases htakes with
        | call c hcallable =>
          refine .other rfl rfl hset ((congrArg Session.timerSide hnext).trans ?_) (by simp)
          exact Session.timerSide_call (fun h => honce (by rw [h])) hbind s.session
  | returned =>
    rcases htakes with hsame | htakes
    · exact .of_same hsame rfl rfl rfl
    · generalize hnext : Session.step dialect s.session .returned = next at htakes
      cases htakes with
      | returned htasks => exact .other rfl rfl rfl ((congrArg Session.timerSide hnext).trans rfl) (by simp)
  | received data =>
    rcases step_received (s := s.session) data with ⟨hhears, hsame⟩ | ⟨hhears, region, receives, hstep⟩
    · exact .of_same hsame hhears rfl rfl
    · exact .heard hhears rfl rfl (by simp) (congrArg Session.timerSide hstep)
  | receiveFailed error =>
    rcases htakes with hsame | htakes
    · exact .of_same hsame rfl rfl rfl
    · generalize hnext : Session.step dialect s.session (.receiveFailed error) = next at htakes
      cases htakes with
      | receiveFailed htasks hreceives => exact .of_close hnext rfl rfl rfl rfl (by simp)
  | written =>
    rcases htakes with hsame | htakes
    · exact .of_same hsame rfl rfl rfl
    · generalize hnext : Session.step dialect s.session .written = next at htakes
      cases htakes with
      | written htasks hwrites =>
        exact .other rfl rfl rfl ((congrArg Session.timerSide hnext).trans (Session.timerSide_written _)) (by simp)
  | writeFailed error =>
    rcases htakes with hsame | htakes
    · exact .of_same hsame rfl rfl rfl
    · generalize hnext : Session.step dialect s.session (.writeFailed error) = next at htakes
      cases htakes with
      | writeFailed htasks hwrites => exact .of_close hnext rfl rfl rfl rfl (by simp)
  | inactivityTimer error =>
    cases error with
    | none => exact ticks_inactivityTimer time
    | some what =>
      rcases htakes with hsame | htakes
      · exact .of_same hsame rfl rfl rfl
      · generalize hnext : Session.step dialect s.session (.inactivityTimer (some what)) = next at htakes
        cases htakes with
        | inactivityTimer htasks hwaits => exact .of_close hnext rfl rfl rfl rfl (by simp)
  | enquirelinkTimer error =>
    cases error with
    | none => exact ticks_enquirelinkTimer time
    | some what =>
      rcases htakes with hsame | htakes
      · exact .of_same hsame rfl rfl rfl
      · generalize hnext : Session.step dialect s.session (.enquirelinkTimer (some what)) = next at htakes
        cases htakes with
        | enquirelinkTimer htasks hwaits => exact .of_close hnext rfl rfl rfl rfl (by simp)
  | closeNotified =>
    rcases htakes with hsame | htakes
    · exact .of_same hsame rfl rfl rfl
    · generalize hnext : Session.step dialect s.session .closeNotified = next at htakes
      cases htakes with
      | closeNotified htasks hposted =>
        exact .other rfl rfl rfl ((congrArg Session.timerSide hnext).trans rfl) (by simp)

/-! ### The clocks -/

section Clocks

variable {inactivity enquirelink delay : ℕ}

theorem binds_of_setsEnquirelink (h : setsEnquirelink s.session e.2 = false) : binds s.session e.2 = false := by
  obtain ⟨time, event⟩ := e
  cases event with
  | enquirelinkTimer => rfl
  | _ => exact h

theorem asks_of_ne (h : e.2 ≠ .enquirelinkTimer none) : asks s.session e.2 = false := by
  obtain ⟨time, event⟩ := e
  cases event with
  | enquirelinkTimer error =>
    cases error with
    | none => exact absurd rfl h
    | some what => rfl
  | _ => rfl

theorem asks_of_same (h : e.2 = .enquirelinkTimer none → (s.step e).session = s.session) :
    asks s.session e.2 = false := by
  by_cases htimer : e.2 = .enquirelinkTimer none
  · have hsame : Session.step dialect s.session (.enquirelinkTimer none) = s.session := htimer ▸ h htimer
    rw [htimer, asks, hsame, List.drop_length]
    rfl
  · exact asks_of_ne htimer

/-- What the counters of an open session say about when it was heard last. -/
structure Tells (inactivity enquirelink delay : ℕ) (s : Timed) : Prop where
  orderly : s.session.Orderly
  heard : s.heard ≤ s.now
  inactivitySet : s.inactivitySet ≤ s.now
  enquirelinkSet : s.enquirelinkSet ≤ s.now
  waits : s.session.state_ ≠ .closed → s.session.inactivityWaits ≠ 0
  inactivity : (s.session.inactivity_counter_ = 0 ∧ s.inactivitySet ≤ s.heard) ∨
    (s.session.inactivity_counter_ = 1 ∧ s.heard ≤ s.inactivitySet ∧
      s.inactivitySet ≤ s.heard + inactivity + delay)
  silent : s.session.state_ = .opened → s.session.enquirelink_counter_ ≠ 0 → s.heard ≤ s.enquirelinkSet
  enquirelink : s.session.state_ = .opened → s.asked = true ∨
    (s.session.enquirelink_counter_ = 0 ∧
      (s.session.enquirelinkWaits = 0 ∨ s.enquirelinkSet ≤ max s.heard s.bound)) ∨
    (s.session.enquirelink_counter_ = 1 ∧
      s.enquirelinkSet ≤ max s.heard s.bound + enquirelink + delay)

/-- What an event at a time means for the session. -/
structure KeptAlive (inactivity enquirelink delay : ℕ) (s : Timed) (e : ℕ × Event dialect) : Prop where
  /-- The inactivity timer closes the session only after it has received nothing for so long. -/
  closes : e.2 = .inactivityTimer none → s.session.state_ ≠ .closed → (s.step e).session.state_ = .closed →
    s.heard + inactivity ≤ e.1
  /-- The enquire-link timer asks only after nothing was received for so long. -/
  asks : asks s.session e.2 = true → s.heard + enquirelink ≤ e.1
  /-- A session that has received nothing for long is closed. -/
  dropped : s.session.state_ ≠ .closed → e.1 ≤ s.heard + 2 * (inactivity + delay)
  /-- A session that is bound, open and has received nothing for long has asked. -/
  asked : s.session.state_ = .opened → s.session.enquirelinkWaits ≠ 0 → s.asked = false →
    e.1 ≤ max s.heard s.bound + 2 * (enquirelink + delay)

theorem waits_step (h : Tells inactivity enquirelink delay s) (hticks : Ticks s e)
    (hopen : (s.step e).session.state_ ≠ .closed) : (s.step e).session.inactivityWaits ≠ 0 := by
  have hadvances := Session.advances_step orderly_dialect h.orderly e.2
  have hwaits := h.waits fun hclosed => hopen (State.closed_of_rank_le hadvances.forward hclosed)
  cases hticks with
  | other _ _ _ htimerSide => rwa [(TimerSide.mk.inj htimerSide).2.2.1]
  | heard _ _ _ _ htimerSide => rwa [(TimerSide.mk.inj htimerSide).2.2.1]
  | bound _ _ _ _ htimerSide => rwa [(TimerSide.mk.inj htimerSide).2.2.1]
  | again _ _ _ _ _ _ htimerSide => rwa [(TimerSide.mk.inj htimerSide).2.2.1]
  | enquired _ _ _ _ htimerSide => rwa [(TimerSide.mk.inj htimerSide).2.2.1]
  | closed _ _ _ _ _ _ hstate => exact absurd hstate hopen

/-- The inactivity counter says whether the session was heard since its timer was set. -/
theorem inactivity_step (h : Tells inactivity enquirelink delay s)
    (hclocked : Clocked inactivity enquirelink delay s e) (hticks : Ticks s e) :
    ((s.step e).session.inactivity_counter_ = 0 ∧ (s.step e).inactivitySet ≤ (s.step e).heard) ∨
      ((s.step e).session.inactivity_counter_ = 1 ∧ (s.step e).heard ≤ (s.step e).inactivitySet ∧
        (s.step e).inactivitySet ≤ (s.step e).heard + inactivity + delay) := by
  rw [heard_step, inactivitySet_step]
  have hinactivity := h.inactivity
  cases hticks with
  | other hhears hset _ htimerSide =>
    rw [hhears, hset, (TimerSide.mk.inj htimerSide).1]
    exact hinactivity
  | heard hhears hset _ _ htimerSide =>
    rw [hhears, hset, (TimerSide.mk.inj htimerSide).1]
    exact .inl ⟨rfl, h.inactivitySet.trans hclocked.forward⟩
  | bound hhears hset _ _ htimerSide =>
    rw [hhears, hset, (TimerSide.mk.inj htimerSide).1]
    exact hinactivity
  | again hhears hset _ _ hwaits hcounter htimerSide =>
    rw [hhears, hset, (TimerSide.mk.inj htimerSide).1]
    have hpunctual := hclocked.punctual hwaits
    rcases hinactivity with ⟨-, hlast⟩ | ⟨hone, -⟩
    · have hheard := h.heard.trans hclocked.forward
      refine .inr ⟨rfl, hheard, ?_⟩
      simp only [Bool.false_eq_true, if_false, if_true]
      omega
    · rw [hcounter] at hone
      exact absurd hone (by decide)
  | enquired hhears hset _ _ htimerSide =>
    rw [hhears, hset, (TimerSide.mk.inj htimerSide).1]
    exact hinactivity
  | closed hhears hset _ _ _ hkept =>
    rw [hhears, hset, hkept]
    exact hinactivity

/-- The enquire-link counter of an open session that is not zero says that it was not heard since its timer was
set. -/
theorem silent_step (h : Tells inactivity enquirelink delay s)
    (hclocked : Clocked inactivity enquirelink delay s e) (hticks : Ticks s e)
    (hopen : (s.step e).session.state_ = .opened) (hcounter : (s.step e).session.enquirelink_counter_ ≠ 0) :
    (s.step e).heard ≤ (s.step e).enquirelinkSet := by
  have hadvances := Session.advances_step orderly_dialect h.orderly e.2
  have hwas : s.session.state_ = .opened := State.opened_of_rank_le hadvances.forward hopen
  have hheard := h.heard.trans hclocked.forward
  rw [heard_step, enquirelinkSet_step]
  cases hticks with
  | other hhears _ hask htimerSide =>
    rw [(TimerSide.mk.inj htimerSide).2.1] at hcounter
    rw [hhears, hask]
    exact h.silent hwas hcounter
  | heard _ _ _ _ htimerSide => exact absurd ((TimerSide.mk.inj htimerSide).2.1.trans (if_pos hwas)) hcounter
  | bound hhears _ hask =>
    rw [hhears, hask]
    exact hheard
  | again hhears _ hask _ _ _ htimerSide =>
    rw [(TimerSide.mk.inj htimerSide).2.1] at hcounter
    rw [hhears, hask]
    exact h.silent hwas hcounter
  | enquired hhears _ hask =>
    rw [hhears, hask]
    exact hheard
  | closed _ _ _ _ _ _ hstate => exact absurd (hopen.symm.trans hstate) (by decide)

/-- The enquire-link counter of an open session counts up to its question. -/
theorem enquirelink_step (h : Tells inactivity enquirelink delay s)
    (hclocked : Clocked inactivity enquirelink delay s e) (hticks : Ticks s e)
    (hopen : (s.step e).session.state_ = .opened) : (s.step e).asked = true ∨
      ((s.step e).session.enquirelink_counter_ = 0 ∧ ((s.step e).session.enquirelinkWaits = 0 ∨
        (s.step e).enquirelinkSet ≤ max (s.step e).heard (s.step e).bound)) ∨
      ((s.step e).session.enquirelink_counter_ = 1 ∧
        (s.step e).enquirelinkSet ≤ max (s.step e).heard (s.step e).bound + enquirelink + delay) := by
  have hadvances := Session.advances_step orderly_dialect h.orderly e.2
  have hwas : s.session.state_ = .opened := State.opened_of_rank_le hadvances.forward hopen
  have henquirelink := h.enquirelink hwas
  rw [heard_step, enquirelinkSet_step, bound_step, asked_step]
  cases hticks with
  | other hhears _ hask htimerSide hsame =>
    obtain ⟨-, hq, -, hv⟩ := TimerSide.mk.inj htimerSide
    rw [hhears, hask, binds_of_setsEnquirelink hask, hq, hv, asks_of_same fun htimer => hsame (.inr htimer)]
    simpa [Session.timerSide] using henquirelink
  | heard hhears _ hask _ htimerSide =>
    obtain ⟨-, hq, -, hv⟩ := TimerSide.mk.inj htimerSide
    rw [hhears, hask, binds_of_setsEnquirelink hask, hq]
    refine .inr (.inl ⟨if_pos hwas, .inr ?_⟩)
    exact (h.enquirelinkSet.trans hclocked.forward).trans (le_max_left _ _)
  | bound hhears _ hask hbind htimerSide =>
    obtain ⟨-, hq, -, -⟩ := TimerSide.mk.inj htimerSide
    have hbinds : binds s.session e.2 = true := by rwa [hbind] at hask ⊢
    rw [hhears, hask, hbinds, hq, asks_of_ne (hbind ▸ by simp)]
    have hnow : e.1 ≤ max s.heard e.1 := le_max_right _ _
    rcases henquirelink with hasked | ⟨hzero, -⟩ | ⟨hone, -⟩
    · exact .inl (by simp [hasked])
    · exact .inr (.inl ⟨hzero, .inr hnow⟩)
    · exact .inr (.inr ⟨hone, hnow.trans (by simp only [Bool.false_eq_true, if_false, if_true]; omega)⟩)
  | again hhears _ hask htimer _ _ htimerSide =>
    obtain ⟨-, hq, -, hv⟩ := TimerSide.mk.inj htimerSide
    rw [hhears, hask, binds_of_setsEnquirelink hask, hq, hv, asks_of_ne (htimer ▸ by simp)]
    simpa [Session.timerSide] using henquirelink
  | enquired hhears _ hask htimer htimerSide hwaits hiff =>
    obtain ⟨-, hq, -, -⟩ := TimerSide.mk.inj htimerSide
    have hpunctual := hclocked.enquirelinkPunctual hwaits
    rw [hhears, hask, show binds s.session e.2 = false from htimer ▸ rfl, hq]
    rcases henquirelink with hasked | ⟨hzero, hwhen⟩ | ⟨hone, -⟩
    · exact .inl (by simp [hasked])
    · have hset := hwhen.resolve_left hwaits
      refine .inr (.inr ⟨?_, ?_⟩)
      · rw [hzero]
        rfl
      · simp only [Bool.false_eq_true, if_false, if_true]
        omega
    · have hasks := hiff.mpr ⟨by rw [hone]; decide, hwas⟩
      exact .inl (by simp [hasks])
  | closed _ _ _ _ _ _ hstate => exact absurd (hopen.symm.trans hstate) (by decide)

/-- **The clocks keep telling**, whatever the event is. -/
theorem tells_step (h : Tells inactivity enquirelink delay s)
    (hclocked : Clocked inactivity enquirelink delay s e) : Tells inactivity enquirelink delay (s.step e) := by
  have hforward := hclocked.forward
  have hticks : Ticks s e := ticks_step hclocked.startedOnce
  refine ⟨(Session.advances_step orderly_dialect h.orderly e.2).orderly h.orderly, ?_, ?_, ?_, waits_step h hticks,
    inactivity_step h hclocked hticks, silent_step h hclocked hticks, enquirelink_step h hclocked hticks⟩
  · rw [heard_step]
    split
    · exact le_rfl
    · exact h.heard.trans hforward
  · rw [inactivitySet_step]
    split
    · exact le_rfl
    · exact h.inactivitySet.trans hforward
  · rw [enquirelinkSet_step]
    split
    · exact le_rfl
    · exact h.enquirelinkSet.trans hforward

theorem heard_of_closes (h : Tells inactivity enquirelink delay s)
    (hclocked : Clocked inactivity enquirelink delay s e) (htimer : e.2 = .inactivityTimer none)
    (hopen : s.session.state_ ≠ .closed) (hclosed : (s.step e).session.state_ = .closed) :
    s.heard + inactivity ≤ e.1 := by
  have hearly := hclocked.notEarly htimer
  cases ticks_step hclocked.startedOnce with
  | other _ _ _ _ hsame => exact absurd (hsame (.inl htimer) ▸ hclosed) hopen
  | heard _ _ _ hne => exact absurd htimer hne.1
  | bound _ _ _ hbind => exact absurd (htimer.symm.trans hbind) (by simp)
  | again _ _ _ _ _ _ _ hstate => exact absurd (hstate ▸ hclosed) hopen
  | enquired _ _ _ hne => exact absurd (htimer.symm.trans hne) (by simp)
  | closed _ _ _ _ hcounter =>
    rcases h.inactivity with ⟨hzero, -⟩ | ⟨-, hheard, -⟩
    · exact absurd hzero (hcounter htimer)
    · omega

theorem heard_of_asks (h : Tells inactivity enquirelink delay s)
    (hclocked : Clocked inactivity enquirelink delay s e) (hasks : asks s.session e.2 = true) :
    s.heard + enquirelink ≤ e.1 := by
  cases ticks_step hclocked.startedOnce with
  | other _ _ _ _ hsame =>
    have hnot := asks_of_same fun htimer => hsame (.inr htimer)
    exact absurd hasks (by rw [hnot]; decide)
  | heard _ _ _ hne => exact absurd hasks (by rw [asks_of_ne hne.2]; decide)
  | bound _ _ _ hbind => exact absurd hasks (by rw [hbind]; exact Bool.false_ne_true)
  | again _ _ _ htimer => exact absurd hasks (by rw [htimer]; exact Bool.false_ne_true)
  | closed _ _ _ hne => exact absurd hasks (by rw [asks_of_ne hne]; decide)
  | enquired _ _ _ htimer _ _ hiff =>
    obtain ⟨hcounter, hopen⟩ := hiff.mp hasks
    have hsilent := h.silent hopen hcounter
    have hearly := hclocked.enquirelinkNotEarly htimer
    omega

theorem keptAlive_of_tells (h : Tells inactivity enquirelink delay s)
    (hclocked : Clocked inactivity enquirelink delay s e) : KeptAlive inactivity enquirelink delay s e where
  closes := heard_of_closes h hclocked
  asks := heard_of_asks h hclocked
  dropped hopen := by
    have hpunctual := hclocked.punctual (h.waits hopen)
    rcases h.inactivity with ⟨-, hset⟩ | ⟨-, -, hset⟩
    · omega
    · omega
  asked hopen hwaits hasked := by
    have hpunctual := hclocked.enquirelinkPunctual hwaits
    rcases h.enquirelink hopen with htrue | ⟨-, hzero | hset⟩ | ⟨-, hset⟩
    · exact absurd htrue (by simp [hasked])
    · exact absurd hzero hwaits
    · omega
    · omega

theorem tells_start (handlers : Handler → Bool) (time : ℕ) :
    Tells inactivity enquirelink delay (start handlers time) where
  orderly :=
    (Session.advances_step orderly_dialect (Session.orderly_fresh handlers) (.call .start)).orderly
      (Session.orderly_fresh handlers)
  heard := le_rfl
  inactivitySet := le_rfl
  enquirelinkSet := le_rfl
  waits _ := Nat.one_ne_zero
  inactivity := .inl ⟨rfl, le_rfl⟩
  silent _ hcounter := absurd rfl hcounter
  enquirelink _ := .inr (.inl ⟨rfl, .inl rfl⟩)

/-- **A session is kept alive**: in every run in which the clocks can be relied on, the inactivity timer closes it,
and the enquire-link timer asks, only after nothing was received for the time they are set to; and a session that
has received nothing for twice that time and the delays has asked, if it was bound, and has been closed. -/
theorem keptAlive_run (handlers : Handler → Bool) (inactivity enquirelink delay time : ℕ)
    (events : List (ℕ × Event dialect))
    (hclocked : Along step (Clocked inactivity enquirelink delay) (start handlers time) events) :
    Along step (KeptAlive inactivity enquirelink delay) (start handlers time) events :=
  hclocked.of_invariant (fun _ _ h hclocked => tells_step h hclocked)
    (fun _ _ h hclocked => keptAlive_of_tells h hclocked) (tells_start handlers time)

/-- A peer that says nothing is asked once, and the session is closed. -/
theorem keptAlive_run_silent :
    let events : List (ℕ × Event dialect) := [(0, .internal), (1, .call .bind), (11, .inactivityTimer none),
      (11, .enquirelinkTimer none), (21, .enquirelinkTimer none), (21, .internal), (21, .inactivityTimer none)]
    let s := start (fun _ => true) 0
    Along step (KeptAlive 10 10 1) s events ∧ (run step s events).asked = true ∧
      (run step s events).session.state_ = .closed := by
  intro events s
  refine ⟨keptAlive_run (fun _ => true) 10 10 1 0 events ?_, by decide, by decide⟩
  refine ⟨⟨?_, ?_, ?_, ?_, ?_, ?_⟩, ⟨?_, ?_, ?_, ?_, ?_, ?_⟩, ⟨?_, ?_, ?_, ?_, ?_, ?_⟩, ⟨?_, ?_, ?_, ?_, ?_, ?_⟩,
    ⟨?_, ?_, ?_, ?_, ?_, ?_⟩, ⟨?_, ?_, ?_, ?_, ?_, ?_⟩, ⟨?_, ?_, ?_, ?_, ?_, ?_⟩, trivial⟩
  all_goals first
    | decide
    | exact fun _ => by decide
    | nofun

end Clocks

end Timed

end SmppGateway.Smpp
