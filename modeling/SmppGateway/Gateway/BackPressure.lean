import SmppGateway.Gateway.SendQueue
import SmppGateway.Net.Pausing
import SmppGateway.Smpp.Session

/-!
# Back pressure on the submits

When the receive flow control of an external client makes a submit wait and is not to reject it,
`process_submit_req` pauses the receiving of every bound session and sets the timer of the flow control.
Its `flow_handler_` resumes every bound session.

## The model

The sessions are numbered in the order in which they are accepted and started; a started session is
unbound until `set_session` takes it into `binded_sessions_`, and is out of it when it has been closed. A
session does by itself all that `Net.Session` lets it do, at any time and in any order; only
`start`, `pause_receiving` and `resume_receiving` are left to the functions modelled here. `flow_handler_`
goes through the bound sessions one after the other, and what a resumed session receives may be the next
submit, which may pause them all again: `resuming` are those that it has not come to.

* A submit is checked; that it is then processed and answered is something that its session does.
* `held` says of each session that waits for `flow_handler_` what it had handed over when it was paused.

## What is proved

* `BackPressure.paused_run` — after any run a bound session can receive more, or is about to be resumed, or
  the timer is set; and a session that was paused has handed over nothing since.
-/

namespace SmppGateway.Gateway

open Foundation Net Smpp

/-! ### The sessions -/

/-- The sessions of an external client, and its receive flow control. -/
structure BackPressure where
  sessions : ℕ → Session CommandId CommandStatus Smpp.Pdu
  /-- How many sessions were accepted. -/
  accepted : ℕ
  /-- The sessions that no bind was accepted of. -/
  unbound : Finset ℕ
  binded_sessions_ : Finset ℕ
  receive_flow_control_ : FlowControl
  should_reject_packet_ : Bool
  /-- `timer_` of `receive_flow_control_`. -/
  timer_ : FlowTimer
  /-- The sessions that `flow_handler_` has left to resume. -/
  resuming : List ℕ
  /-- A check has not returned. -/
  stop : Option Stop
  submits_rejected_by_flow_control_ : ℕ
  /-- What a session had handed over when it was paused and not resumed since. -/
  held : ℕ → Option (List (Net.Header CommandId CommandStatus × Bytes))

/-- What may happen to the sessions. -/
inductive PressureEvent where
  /-- A connection is accepted, and its session started. -/
  | accept (handlers : Handler → Bool)
  /-- `set_session`. -/
  | bind (session : ℕ)
  /-- `on_session_close`. -/
  | close (session : ℕ)
  /-- A session does something by itself. -/
  | session (session : ℕ) (event : Event dialect) (h : event.isOwner = false)
  /-- `process_submit_req`. -/
  | submit (session : ℕ) (clocks : Clocks)
  /-- A wait on `timer_` completes. -/
  | timer (completion : Completion)
  /-- `flow_handler_` resumes the next session. -/
  | resume
  /-- The configuration of `receive_flow_control_` changes. -/
  | replace (event : FlowEvent) (h : event.isReplace = true)
  /-- `on_should_reject_packet_replace`. -/
  | shouldRejectPacketReplace (value : Bool)

namespace BackPressure

/-- Every bound session is paused, and `wait` sets the timer. -/
def pauseAll (s : BackPressure) (wait_time : UInt64) : BackPressure :=
  { s with
    sessions := fun i => if i ∈ s.binded_sessions_ then (s.sessions i).pauseReceiving else s.sessions i
    timer_ := s.timer_.wait wait_time
    held := fun i =>
      if i ∈ s.binded_sessions_ ∧ s.held i = none then some (s.sessions i).rx.dispatched else s.held i }

/-- The check of `process_submit_req`, and what it does with a submit that has to wait. -/
def processSubmitReq (s : BackPressure) (clocks : Clocks) : BackPressure :=
  match s.receive_flow_control_.check clocks with
  | .error e => { s with stop := some e }
  | .ok (_, none) => { s with stop := some .outOfBounds }
  | .ok (flow, some wait_time) =>
    let s := { s with receive_flow_control_ := flow }
    if wait_time = 0 then s
    else if s.should_reject_packet_ then
      { s with submits_rejected_by_flow_control_ := s.submits_rejected_by_flow_control_ + 1 }
    else s.pauseAll wait_time

/-- `resume_receiving` of the next session. -/
def resume (s : BackPressure) : BackPressure :=
  match s.resuming with
  | [] => s
  | i :: resuming => { s with
      sessions := Function.update s.sessions i (s.sessions i).resumeReceiving
      resuming := resuming
      held := Function.update s.held i none }

/-- What an event makes of sessions that are not stopped. -/
def handle (s : BackPressure) : PressureEvent → BackPressure
  | .accept handlers => { s with
      sessions := Function.update s.sessions s.accepted (Session.call dialect (.fresh handlers) .start)
      accepted := s.accepted + 1
      unbound := insert s.accepted s.unbound }
  | .bind i =>
    if i ∈ s.unbound then { s with unbound := s.unbound.erase i, binded_sessions_ := insert i s.binded_sessions_ }
    else s
  | .close i => { s with unbound := s.unbound.erase i, binded_sessions_ := s.binded_sessions_.erase i }
  | .session i event _ => { s with sessions := Function.update s.sessions i ((s.sessions i).step dialect event) }
  | .submit i clocks => if i ∈ s.binded_sessions_ then s.processSubmitReq clocks else s
  | .timer completion =>
    if s.resuming = [] then
      let (timer, called) := s.timer_.complete completion
      { s with timer_ := timer, resuming := if called then s.binded_sessions_.sort (· ≤ ·) else [] }
    else s
  | .resume => s.resume
  | .replace event _ =>
    match s.receive_flow_control_.handle event with
    | .ok flow => { s with receive_flow_control_ := flow }
    | .error e => { s with stop := some e }
  | .shouldRejectPacketReplace value => { s with should_reject_packet_ := value }

/-- What an event makes of the sessions. -/
def step (s : BackPressure) (e : PressureEvent) : BackPressure := if s.stop.isSome then s else s.handle e

/-- Before the first session is accepted. -/
def start (flow : FlowControl) (should_reject_packet : Bool) : BackPressure where
  sessions := fun _ => .fresh fun _ => false
  accepted := 0
  unbound := ∅
  binded_sessions_ := ∅
  receive_flow_control_ := flow
  should_reject_packet_ := should_reject_packet
  timer_ := ⟨none, 0⟩
  resuming := []
  stop := none
  submits_rejected_by_flow_control_ := 0
  held := fun _ => none

variable {s : BackPressure}

/-! ### One session -/

/-- `flow_handler_` is running or going to run. -/
def Awaited (s : BackPressure) (i : ℕ) : Prop := i ∈ s.resuming ∨ s.timer_.armed.isSome

/-- What is kept of each session. -/
structure Kept (s : BackPressure) (i : ℕ) : Prop where
  /-- More can arrive, unless the session is paused or has failed. -/
  listens : (s.sessions i).receiveSide.Listens
  /-- A session that nothing has paused receives. -/
  free : i ∈ s.unbound ∨ i ∈ s.binded_sessions_ ∧ s.held i = none → (s.sessions i).rx.receiving_state_ = .receiving
  /-- Only a bound session is paused. -/
  unheld : i ∈ s.unbound ∨ s.accepted ≤ i → s.held i = none
  /-- A bound session that is paused will be resumed. -/
  awaited : i ∈ s.binded_sessions_ → s.held i ≠ none → s.Awaited i
  /-- A paused session hands nothing over. -/
  frozen : ∀ dispatched, s.held i = some dispatched →
    (s.sessions i).rx.receiving_state_ ≠ .receiving ∧ (s.sessions i).rx.dispatched = dispatched
  /-- The numbers are given in order. -/
  known : i ∈ s.unbound ∪ s.binded_sessions_ → i < s.accepted
  apart : i ∈ s.unbound → i ∉ s.binded_sessions_

/-- **The invariant**: it is kept of each session. -/
def Pressed (s : BackPressure) : Prop := ∀ i, s.Kept i

theorem listens_fresh (handlers : Handler → Bool) :
    (Session.fresh handlers : Session CommandId CommandStatus Smpp.Pdu).receiveSide.Listens :=
  .inr (.inr (.inr (.inr rfl)))

theorem pressed_start (flow : FlowControl) (should_reject_packet : Bool) :
    (start flow should_reject_packet).Pressed := fun i =>
  { listens := listens_fresh _
    free := by simp [start]
    unheld := fun _ => rfl
    awaited := by simp [start]
    frozen := fun _ h => by cases h
    known := by simp [start]
    apart := by simp [start] }

/-! ### The events -/

/-- An event that changes neither a session nor what it waits for. -/
theorem Kept.of_same {t : BackPressure} {i : ℕ} (h : s.Kept i) (hsession : t.sessions i = s.sessions i)
    (hheld : t.held i = s.held i) (haccepted : s.accepted ≤ t.accepted)
    (hunbound : i ∈ t.unbound → i ∈ s.unbound)
    (hbound : i ∈ t.binded_sessions_ → i ∈ s.binded_sessions_ ∨ i ∈ s.unbound)
    (happart : i ∈ t.unbound → i ∉ t.binded_sessions_)
    (hawaited : i ∈ t.binded_sessions_ → s.Awaited i → t.Awaited i) : t.Kept i := by
  have hfrom : i ∈ t.binded_sessions_ → s.held i ≠ none → i ∈ s.binded_sessions_ := fun hi hne =>
    (hbound hi).resolve_right fun hnot => hne (h.unheld (.inl hnot))
  constructor
  case listens =>
    rw [hsession]
    exact h.listens
  case free =>
    rw [hsession, hheld]
    rintro (hi | ⟨hi, hnone⟩)
    · exact h.free (.inl (hunbound hi))
    · rcases hbound hi with hi | hi
      · exact h.free (.inr ⟨hi, hnone⟩)
      · exact h.free (.inl hi)
  case unheld =>
    rw [hheld]
    exact fun hi => h.unheld (hi.imp hunbound (Nat.le_trans haccepted))
  case awaited =>
    rw [hheld]
    exact fun hi hne => hawaited hi (h.awaited (hfrom hi hne) hne)
  case frozen =>
    rw [hsession, hheld]
    exact h.frozen
  case known =>
    intro hi
    refine Nat.lt_of_lt_of_le (h.known (Finset.mem_union.mpr ?_)) haccepted
    rcases Finset.mem_union.mp hi with hi | hi
    · exact .inl (hunbound hi)
    · exact (hbound hi).symm
  case apart => exact happart

/-- An event that changes nothing of all this. -/
theorem Pressed.of_same {t : BackPressure} (h : s.Pressed) (hsession : t.sessions = s.sessions)
    (hheld : t.held = s.held) (haccepted : t.accepted = s.accepted) (hunbound : t.unbound = s.unbound)
    (hbound : t.binded_sessions_ = s.binded_sessions_)
    (hawaited : ∀ i, i ∈ s.binded_sessions_ → s.Awaited i → t.Awaited i) : t.Pressed := fun i =>
  (h i).of_same (by rw [hsession]) (by rw [hheld]) (by rw [haccepted]) (by rw [hunbound]; exact id)
    (by rw [hbound]; exact .inl) (by rw [hunbound, hbound]; exact (h i).apart) (by rw [hbound]; exact hawaited i)

/-- Something happens to one session only. -/
theorem Pressed.update {t : BackPressure} {i : ℕ} (h : s.Pressed) (hi : t.Kept i)
    (hsession : ∀ j, j ≠ i → t.sessions j = s.sessions j) (hheld : ∀ j, j ≠ i → t.held j = s.held j)
    (haccepted : s.accepted ≤ t.accepted) (hunbound : ∀ j, j ≠ i → j ∈ t.unbound → j ∈ s.unbound)
    (hbound : t.binded_sessions_ = s.binded_sessions_)
    (hawaited : ∀ j, j ≠ i → s.Awaited j → t.Awaited j) : t.Pressed := by
  intro j
  by_cases hj : j = i
  · rw [hj]
    exact hi
  · refine (h j).of_same (hsession j hj) (hheld j hj) haccepted (hunbound j hj) (by rw [hbound]; exact .inl)
      (fun hmem => ?_) fun _ => hawaited j hj
    rw [hbound]
    exact (h j).apart (hunbound j hj hmem)

theorem pressed_accept (h : s.Pressed) (handlers : Handler → Bool) : (s.handle (.accept handlers)).Pressed := by
  have hnew : s.accepted ∉ s.binded_sessions_ := fun hmem =>
    absurd ((h s.accepted).known (Finset.mem_union_right _ hmem)) (Nat.lt_irrefl _)
  have hnone : s.held s.accepted = none := (h s.accepted).unheld (.inr (Nat.le_refl _))
  have hself : (s.handle (.accept handlers)).sessions s.accepted = Session.call dialect (.fresh handlers) .start :=
    Function.update_self _ _ _
  refine h.update (i := s.accepted) ?_ (fun j hj => Function.update_of_ne hj _ _) (fun j hj => rfl)
    (Nat.le_succ _) (fun j hj => (Finset.mem_insert.trans (or_iff_right hj)).mp) rfl fun j hj hawaited => hawaited
  constructor
  case listens =>
    rw [hself]
    exact Session.listens_receives (Session.receives_call (D := dialect) _ .start) (listens_fresh handlers)
  case free =>
    rw [hself]
    exact fun _ => rfl
  case unheld => exact fun _ => hnone
  case awaited => exact fun hmem => absurd hmem hnew
  case frozen =>
    intro dispatched hheld
    rw [show (s.handle (.accept handlers)).held s.accepted = none from hnone] at hheld
    cases hheld
  case known => exact fun _ => Nat.lt_succ_self _
  case apart => exact fun _ => hnew

/-- **What a session does by itself.** -/
theorem pressed_session (h : s.Pressed) (i : ℕ) {event : Event dialect} (hown : event.isOwner = false) :
    (s.handle (.session i event hown)).Pressed := by
  have hs := h i
  have hkeeps := Session.keeps_step (D := dialect) rfl (s.sessions i) hown
  have hself : (s.handle (.session i event hown)).sessions i = (s.sessions i).step dialect event :=
    Function.update_self _ _ _
  refine h.update (i := i) ?_ (fun j hj => Function.update_of_ne hj _ _) (fun j hj => rfl) (Nat.le_refl _)
    (fun j hj => id) rfl fun j hj hawaited => hawaited
  constructor
  case listens =>
    rw [hself]
    exact Session.listens_step hs.listens event
  case free =>
    rw [hself]
    exact fun hfree => hkeeps.receiving (hs.free hfree)
  case unheld => exact hs.unheld
  case awaited => exact hs.awaited
  case frozen =>
    intro dispatched hheld
    obtain ⟨hstate, hdispatched⟩ := hs.frozen dispatched hheld
    rw [hself]
    exact ⟨hkeeps.ne_receiving hstate, (hkeeps.dispatched hstate).trans hdispatched⟩
  case known => exact hs.known
  case apart => exact hs.apart

theorem pressed_bind (h : s.Pressed) (i : ℕ) : (s.handle (.bind i)).Pressed := by
  simp only [handle]
  split
  · rename_i hi
    intro j
    refine (h j).of_same rfl rfl (Nat.le_refl _) (fun hj => Finset.mem_of_mem_erase hj) (fun hj => ?_)
      (fun hj => ?_) fun _ ha => ha
    · rcases Finset.mem_insert.mp hj with rfl | hj
      · exact .inr hi
      · exact .inl hj
    · obtain ⟨hne, hj⟩ := Finset.mem_erase.mp hj
      exact fun hmem => (h j).apart hj (Finset.mem_of_mem_insert_of_ne hmem hne)
  · exact h

theorem pressed_close (h : s.Pressed) (i : ℕ) : (s.handle (.close i)).Pressed := fun j =>
  (h j).of_same rfl rfl (Nat.le_refl _) (fun hj => Finset.mem_of_mem_erase hj)
    (fun hj => .inl (Finset.mem_of_mem_erase hj))
    (fun hj hmem => (h j).apart (Finset.mem_of_mem_erase hj) (Finset.mem_of_mem_erase hmem)) fun _ ha => ha

/-- **A submit that has to wait** pauses the bound sessions, and the timer is set. -/
theorem pressed_pauseAll (h : s.Pressed) (wait_time : UInt64) : (s.pauseAll wait_time).Pressed := by
  intro i
  have hs := h i
  have hawaited : (s.pauseAll wait_time).Awaited i := .inr rfl
  by_cases hbound : i ∈ s.binded_sessions_
  · have hself : (s.pauseAll wait_time).sessions i = (s.sessions i).pauseReceiving := if_pos hbound
    have hunbound : i ∉ s.unbound := fun hi => hs.apart hi hbound
    constructor
    case listens =>
      rw [hself]
      exact Session.listens_receives (Session.receives_pauseReceiving (D := dialect) _) hs.listens
    case free =>
      rintro (hi | ⟨-, hnone⟩)
      · exact absurd hi hunbound
      · exfalso
        simp only [pauseAll] at hnone
        split at hnone
        · cases hnone
        · rename_i hnot
          exact hnot ⟨hbound, hnone⟩
    case unheld =>
      rintro (hi | hi)
      · exact absurd hi hunbound
      · exact absurd (hs.known (Finset.mem_union_right _ hbound)) (Nat.not_lt.mpr hi)
    case awaited => exact fun _ _ => hawaited
    case frozen =>
      intro dispatched hheld
      rw [hself]
      cases hbefore : s.held i with
      | none =>
        have hreceiving := hs.free (.inr ⟨hbound, hbefore⟩)
        simp only [pauseAll, hbound, hbefore, and_self, if_true, Option.some.injEq] at hheld
        rw [Session.pauseReceiving, if_pos hreceiving]
        exact ⟨by simp, hheld⟩
      | some before =>
        obtain ⟨hstate, hdispatched⟩ := hs.frozen before hbefore
        simp only [pauseAll, hbefore, reduceCtorEq, and_false, if_false, Option.some.injEq] at hheld
        rw [Session.pauseReceiving, if_neg hstate]
        exact ⟨hstate, hdispatched.trans hheld⟩
    case known => exact hs.known
    case apart => exact hs.apart
  · exact hs.of_same (if_neg hbound) (if_neg fun hboth => hbound hboth.1) (Nat.le_refl _) id .inl hs.apart
      fun _ _ => hawaited

theorem pressed_processSubmitReq (h : s.Pressed) (clocks : Clocks) : (s.processSubmitReq clocks).Pressed := by
  unfold processSubmitReq
  split
  · exact h.of_same rfl rfl rfl rfl rfl fun _ _ ha => ha
  · exact h.of_same rfl rfl rfl rfl rfl fun _ _ ha => ha
  · rename_i flow wait_time hcheck
    have hflow : ({ s with receive_flow_control_ := flow } : BackPressure).Pressed :=
      h.of_same rfl rfl rfl rfl rfl fun _ _ ha => ha
    simp only
    split
    · exact hflow
    · split
      · exact h.of_same rfl rfl rfl rfl rfl fun _ _ ha => ha
      · exact pressed_pauseAll hflow wait_time

/-- **`flow_handler_`** has every bound session before it, and the timer may be set no more. -/
theorem pressed_timer (h : s.Pressed) (completion : Completion) : (s.handle (.timer completion)).Pressed := by
  simp only [handle]
  split
  · rename_i hnone
    refine h.of_same rfl rfl rfl rfl rfl fun i hi hawaited => ?_
    have harmed : s.timer_.armed.isSome := hawaited.resolve_left (by simp [hnone])
    cases completion with
    | expired =>
      refine .inl ?_
      simp only [FlowTimer.complete, harmed, if_true]
      exact (Finset.mem_sort _).mpr hi
    | superseded aborted => exact .inr harmed
  · exact h

/-- **A session is resumed.** -/
theorem pressed_resume (h : s.Pressed) : s.resume.Pressed := by
  unfold resume
  split
  · exact h
  · rename_i i resuming hresuming
    have hs := h i
    refine h.update (i := i) ?_ (fun j hj => Function.update_of_ne hj _ _)
      (fun j hj => Function.update_of_ne hj _ _) (Nat.le_refl _) (fun j hj => id) rfl fun j hj hawaited => ?_
    · constructor
      case listens =>
        simp only [Function.update_self]
        exact Session.listens_receives (Session.receives_resumeReceiving (D := dialect) _) hs.listens
      case free =>
        simp only [Function.update_self, Session.resumeReceiving]
        intro _
        split <;> rfl
      case unheld => exact fun _ => Function.update_self _ _ _
      case awaited => exact fun _ hne => absurd (Function.update_self _ _ _) hne
      case frozen =>
        intro dispatched hheld
        simp only [Function.update_self] at hheld
        cases hheld
      case known => exact hs.known
      case apart => exact hs.apart
    · rcases hawaited with hmem | harmed
      · rw [hresuming] at hmem
        exact .inl (List.mem_of_ne_of_mem hj hmem)
      · exact .inr harmed

/-- **Every event** keeps the invariant. -/
theorem pressed_step (h : s.Pressed) (e : PressureEvent) : (s.step e).Pressed := by
  unfold step
  split
  · exact h
  · cases e with
    | accept handlers => exact pressed_accept h handlers
    | bind i => exact pressed_bind h i
    | close i => exact pressed_close h i
    | session i event hown => exact pressed_session h i hown
    | submit i clocks =>
      simp only [handle]
      split
      · exact pressed_processSubmitReq h clocks
      · exact h
    | timer completion => exact pressed_timer h completion
    | resume => exact pressed_resume h
    | replace event hreplace =>
      simp only [handle]
      split
      · exact h.of_same rfl rfl rfl rfl rfl fun _ _ ha => ha
      · exact h.of_same rfl rfl rfl rfl rfl fun _ _ ha => ha
    | shouldRejectPacketReplace value => exact h.of_same rfl rfl rfl rfl rfl fun _ _ ha => ha

/-! ### Runs -/

/-- A session that receives and has neither failed nor been stopped waits for more, or works on what it has. -/
theorem Kept.receives {i : ℕ} (h : s.Kept i) (hstate : (s.sessions i).rx.receiving_state_ = .receiving)
    (hfailed : (s.sessions i).rx.failed = false) (hfault : (s.sessions i).fault = none) :
    (s.sessions i).rx.receives ≠ [] ∨ (s.sessions i).receiveSide.loops ≠ [] := by
  rcases h.listens with hstopped | hloops | hreceives | hbroken | hpaused
  · rw [show (s.sessions i).receiveSide.fault = none from hfault] at hstopped
    cases hstopped
  · exact .inr hloops
  · exact .inl hreceives
  · rw [show (s.sessions i).receiveSide.rx.failed = false from hfailed] at hbroken
    cases hbroken
  · rw [show (s.sessions i).receiveSide.rx.receiving_state_ = .receiving from hstate] at hpaused
    cases hpaused

/-- **Back pressure strands no session and lets none through**: after any run, a bound session that has neither
failed to receive nor been stopped has an `async_receive` outstanding or a `do_receive` active and receives, or it
was paused, and then `flow_handler_` is about to resume it or the timer that calls it is set. A session that was
paused and not resumed has handed over nothing since. -/
theorem paused_run (flow : FlowControl) (should_reject_packet : Bool) (events : List PressureEvent) (i : ℕ) :
    let s := run step (start flow should_reject_packet) events
    (i ∈ s.binded_sessions_ → (s.sessions i).rx.failed = false → (s.sessions i).fault = none →
      ((s.sessions i).rx.receiving_state_ = .receiving ∧
        ((s.sessions i).rx.receives ≠ [] ∨ (s.sessions i).receiveSide.loops ≠ [])) ∨
      s.held i ≠ none ∧ (i ∈ s.resuming ∨ s.timer_.armed.isSome)) ∧
    ∀ dispatched, s.held i = some dispatched →
      (s.sessions i).rx.receiving_state_ ≠ .receiving ∧ (s.sessions i).rx.dispatched = dispatched := by
  intro s
  have hrun : s.Pressed :=
    (along_true fun _ _ => trivial).invariant (G := fun _ _ => True) (fun _ e h _ => pressed_step h e)
      (pressed_start flow should_reject_packet)
  have hs := hrun i
  refine ⟨fun hbound hfailed hfault => ?_, hs.frozen⟩
  by_cases hheld : s.held i = none
  · have hstate := hs.free (.inr ⟨hbound, hheld⟩)
    exact .inl ⟨hstate, hs.receives hstate hfailed hfault⟩
  · exact .inr ⟨hheld, hs.awaited hbound hheld⟩

end BackPressure

end SmppGateway.Gateway
