import SmppGateway.Net.Session

/-!
# The life cycle of a session

## The model

A close notification is `posted` first and then a call of the close handler, so the notifications of a session
are the calls of the close handler followed by what is posted.

## What is proved

* `Session.advances_step` — what an event does to the state, the notifications and the calls of the request and
  response handlers, of a session of either dialect.
* `Session.advances_run` — what a run does to them.
-/

namespace SmppGateway.Net

open Foundation

variable {Id Status Pdu : Type}

/-- The order of the states. -/
def State.rank : State → ℕ
  | .opened => 0
  | .unbinding => 1
  | .closed => 2

theorem State.rank_le_closed (state : State) : state.rank ≤ State.closed.rank := by
  cases state <;> decide

/-- What a call of the close handler was told. -/
def Callback.notification : Callback Id Status Pdu → Option (Option Bytes)
  | .close error => some error
  | _ => none

/-- The consumption of a PDU calls no close handler. -/
def Reaction.orderly : Reaction Id Status Pdu → Bool
  | .callback call => call.notification.isNone
  | _ => true

/-- The task calls no close handler. -/
def Task.orderly : Task Id Status Pdu → Bool
  | .react reaction => reaction.orderly
  | _ => true

/-- The consumption of a PDU never calls the close handler. -/
structure Dialect.Orderly (D : Dialect Id Status Pdu) : Prop where
  request : ∀ commandId commandStatus sequenceNumber buf,
    ∀ r ∈ D.consumeRequestPdu commandId commandStatus sequenceNumber buf, r.orderly = true
  response : ∀ commandId commandStatus sequenceNumber buf,
    ∀ r ∈ D.consumeResponsePdu commandId commandStatus sequenceNumber buf, r.orderly = true

namespace Session

/-- No active function is about to call the close handler, but by a notification. -/
def Orderly (s : Session Id Status Pdu) : Prop := ∀ task ∈ s.tasks, task.orderly = true

/-- The close notifications so far. -/
def notifications (s : Session Id Status Pdu) : List (Option Bytes) :=
  s.called.filterMap Callback.notification ++ s.posted

/-- The calls of the request and of the response handler so far. -/
def passedOn (s : Session Id Status Pdu) : List (Callback Id Status Pdu) :=
  s.called.filter Callback.needsOpen

/-- The session has been closed by the way, and a notification says whether it was open. -/
def Closes (s t : Session Id Status Pdu) : Prop :=
  ∃ error, t.notifications = s.notifications ++ [error] ∧ s.state_ ≠ .closed ∧ t.state_ = .closed ∧
    (error.isSome ↔ s.state_ = .opened)

/-- **What may happen to a session**: its state moves forward; when it is closed by the way, there is one
notification more; and when it is not open at the end, no request or response has been passed on. -/
structure Advances (s t : Session Id Status Pdu) : Prop where
  forward : s.state_.rank ≤ t.state_.rank
  notified : (t.notifications = s.notifications ∧ (t.state_ = .closed → s.state_ = .closed)) ∨ Closes s t
  calls : t.state_ ≠ .opened → t.passedOn = s.passedOn
  orderly : s.Orderly → t.Orderly

variable {D : Dialect Id Status Pdu} {s t u : Session Id Status Pdu}

/-! ### The functions -/

theorem advances_of_eq (hstate : t.state_ = s.state_) (hposted : t.posted = s.posted)
    (hcalled : t.called = s.called) (horderly : s.Orderly → t.Orderly) : Advances s t where
  forward := Nat.le_of_eq (by rw [hstate])
  notified := .inl ⟨by rw [notifications, notifications, hposted, hcalled], by rw [hstate]; exact id⟩
  calls _ := by rw [passedOn, passedOn, hcalled]
  orderly := horderly

theorem advances_of_start (h : Advances t u) (hstate : t.state_ = s.state_) (hposted : t.posted = s.posted)
    (hcalled : t.called = s.called) (horderly : s.Orderly → t.Orderly) : Advances s u := by
  have hnotifications : t.notifications = s.notifications := by
    rw [notifications, notifications, hposted, hcalled]
  have hpassedOn : t.passedOn = s.passedOn := by rw [passedOn, passedOn, hcalled]
  obtain ⟨hforward, hnotified, hcalls, hkept⟩ := h
  rw [Closes, hnotifications, hstate] at hnotified
  exact ⟨hstate ▸ hforward, hnotified, fun hopen => (hcalls hopen).trans hpassedOn,
    fun hs => hkept (horderly hs)⟩

theorem advances_refl (s : Session Id Status Pdu) : Advances s s := advances_of_eq rfl rfl rfl id

/-- What leaves the state of a session that is not closed may follow. -/
theorem Advances.followed (h : Advances s t) (hnext : Advances t u) (hstate : u.state_ = t.state_)
    (hclosed : t.state_ ≠ .closed) : Advances s u := by
  have hnotifications : u.notifications = t.notifications := by
    rcases hnext.notified with ⟨hsame, -⟩ | ⟨error, -, -, hu, -⟩
    · exact hsame
    · exact absurd (hstate.symm.trans hu) hclosed
  obtain ⟨hforward, hnotified, hcalls, horderly⟩ := h
  refine ⟨?_, ?_, fun hopen => ?_, fun hs => hnext.orderly (horderly hs)⟩
  · rwa [hstate]
  · rw [Closes, hnotifications, hstate]
    exact hnotified
  · exact (hnext.calls hopen).trans (hcalls (hstate ▸ hopen))

theorem orderly_cons {task : Task Id Status Pdu} {tasks : List (Task Id Status Pdu)}
    (htask : task.orderly = true) (htasks : ∀ x ∈ tasks, x.orderly = true) :
    ∀ x ∈ task :: tasks, x.orderly = true :=
  List.forall_mem_cons.mpr ⟨htask, htasks⟩

theorem advances_invoke (s : Session Id Status Pdu) {call : Callback Id Status Pdu}
    (hcall : call.notification = none) : Advances s (s.invoke call) := by
  unfold invoke
  split
  · rename_i hpresent
    refine ⟨Nat.le_refl _, .inl ⟨?_, id⟩, fun hopen => ?_, orderly_cons rfl⟩
    · simp [notifications, hcall]
    · have hneeds : call.needsOpen = false := by
        simp only [Bool.and_eq_true, Bool.or_eq_true, Bool.not_eq_true', decide_eq_true_eq] at hpresent
        exact hpresent.2.resolve_right hopen
      simp [passedOn, hneeds]
  · exact advances_refl s

theorem advances_doSend (s : Session Id Status Pdu) : Advances s s.doSend := by
  unfold doSend
  split
  · exact advances_refl s
  · simp only
    split
    · exact advances_of_start (advances_invoke _ rfl) rfl rfl rfl (orderly_cons rfl)
    · exact advances_of_eq rfl rfl rfl (orderly_cons rfl)

theorem advances_sendCommand (s : Session Id Status Pdu) (commandId : Id) (sequenceNumber : UInt32)
    (commandStatus : Status) : Advances s (sendCommand D s commandId sequenceNumber commandStatus) :=
  advances_of_start (advances_doSend _) rfl rfl rfl id

theorem advances_sendNewCommand (s : Session Id Status Pdu) (commandId : Id) :
    Advances s (sendNewCommand D s commandId) :=
  advances_of_start (advances_sendCommand _ _ _ _) rfl rfl rfl id

theorem state_doSend (s : Session Id Status Pdu) : s.doSend.state_ = s.state_ := by
  unfold doSend
  split
  · rfl
  simp only
  split
  · unfold invoke
    split <;> rfl
  · rfl

theorem state_sendNewCommand (s : Session Id Status Pdu) (commandId : Id) :
    (sendNewCommand D s commandId).state_ = s.state_ := state_doSend _

theorem advances_sendImpl (s : Session Id Status Pdu) (pdu : Pdu) (sequenceNumber : UInt32)
    (commandStatus : Status) : Advances s (sendImpl D s pdu sequenceNumber commandStatus).1 := by
  rcases sendImpl_cases (D := D) s pdu sequenceNumber commandStatus with ⟨e, h⟩ | ⟨-, -, h⟩
  · rw [h]
    exact advances_refl s
  · rw [h]
    exact advances_of_start (advances_doSend _) rfl rfl rfl id

theorem advances_pauseReceiving (s : Session Id Status Pdu) : Advances s s.pauseReceiving := by
  unfold pauseReceiving
  split <;> exact advances_of_eq rfl rfl rfl id

theorem advances_resumeReceiving (s : Session Id Status Pdu) : Advances s s.resumeReceiving := by
  unfold resumeReceiving
  simp only
  split
  · exact advances_of_eq rfl rfl rfl (orderly_cons rfl)
  · exact advances_of_eq rfl rfl rfl id

/-- **`close`** of a session that is not closed yet. -/
theorem advances_close (s : Session Id Status Pdu) (reason : Bytes) : Advances s (close D s reason) := by
  unfold close
  split
  · exact advances_refl s
  rename_i hclosed
  have hpaused : ∃ r : Session Id Status Pdu,
      (if D.closePauses then s.pauseReceiving else s) = r ∧ r.state_ = s.state_ ∧ r.posted = s.posted ∧
        r.called = s.called ∧ r.tasks = s.tasks := by
    refine ⟨_, rfl, ?_⟩
    split
    · unfold pauseReceiving
      split <;> exact ⟨rfl, rfl, rfl, rfl⟩
    · exact ⟨rfl, rfl, rfl, rfl⟩
  obtain ⟨r, hr, hstate, hposted, hcalled, htasks⟩ := hpaused
  simp only [hr]
  refine ⟨?_, .inr ⟨if s.state_ = .opened then some reason else none, ?_, hclosed, rfl, ?_⟩, fun _ => ?_, ?_⟩
  · exact s.state_.rank_le_closed
  · simp only [notifications, hposted, hcalled, hstate, List.append_assoc]
  · split
    · rename_i hopen
      exact iff_of_true rfl hopen
    · rename_i hopen
      exact iff_of_false Bool.false_ne_true hopen
  · simp only [passedOn, hcalled]
  · intro h
    simp only [Orderly, htasks]
    exact h

/-- The state is left by an unbind. -/
theorem advances_unbinding (hopen : s.state_ = .opened) : Advances s { s with state_ := .unbinding } := by
  refine ⟨?_, .inl ⟨rfl, fun hclosed => ?_⟩, fun _ => rfl, id⟩
  · rw [hopen]
    exact Nat.zero_le _
  · cases hclosed

theorem advances_react (s : Session Id Status Pdu) {reaction : Reaction Id Status Pdu}
    (horderly : reaction.orderly = true) : Advances s (react D s reaction) := by
  cases reaction with
  | sendCommand => exact advances_sendCommand _ _ _ _
  | startUnbinding =>
    simp only [react]
    split
    · rename_i hopen
      exact advances_unbinding hopen
    · exact advances_refl s
  | close reason => exact advances_close _ _
  | callback call => exact advances_invoke _ (Option.isNone_iff_eq_none.mp horderly)

theorem advances_doReceive (hD : D.Orderly) (s : Session Id Status Pdu) : Advances s (doReceive D s) := by
  unfold doReceive
  split
  · rename_i turn _
    split
    · exact advances_of_eq rfl rfl rfl id
    · refine advances_of_eq rfl rfl rfl fun hs task htask => ?_
      rcases List.mem_append.mp htask with hnew | hold
      · obtain ⟨reaction, hreaction, rfl⟩ := List.mem_map.mp hnew
        unfold Dialect.reactionsTo at hreaction
        split at hreaction
        · exact hD.response _ _ _ _ reaction hreaction
        · exact hD.request _ _ _ _ reaction hreaction
      · exact orderly_cons rfl hs task hold
  · split
    · exact advances_of_eq rfl rfl rfl id
    · split <;> exact advances_of_eq rfl rfl rfl id

theorem advances_tail {task : Task Id Status Pdu} {tasks : List (Task Id Status Pdu)}
    (htasks : s.tasks = task :: tasks) :
    s.Orderly → ({ s with tasks := tasks } : Session Id Status Pdu).Orderly := by
  intro hs x hx
  exact hs x (htasks ▸ List.mem_cons_of_mem task hx)

theorem advances_internal (hD : D.Orderly) (hs : s.Orderly) : Advances s (internal D s) := by
  unfold internal
  split
  case h_1 => exact advances_refl s
  case h_2 => exact advances_refl s
  case h_3 htasks =>
    have horderly : Task.orderly (.react _) = true := hs _ (htasks ▸ List.mem_cons_self)
    exact advances_of_start (advances_react _ horderly) rfl rfl rfl (advances_tail htasks)
  case h_4 htasks => exact advances_of_start (advances_doReceive hD _) rfl rfl rfl (advances_tail htasks)
  case h_5 htasks =>
    exact advances_of_eq rfl rfl rfl fun hs => orderly_cons rfl (advances_tail htasks hs)
  case h_6 htasks => exact advances_of_eq rfl rfl rfl (advances_tail htasks)
  case h_7 htasks => exact advances_of_eq rfl rfl rfl (advances_tail htasks)

theorem advances_call (s : Session Id Status Pdu) (c : Call D) : Advances s (call D s c) := by
  cases c with
  | start => exact advances_of_start (advances_resumeReceiving _) rfl rfl rfl id
  | unbind force =>
    simp only [call]
    split
    · rename_i hopen
      have hunbinding := advances_unbinding hopen
      split
      · exact hunbinding
      · have hsent := advances_sendNewCommand (D := D) { s with state_ := .unbinding } D.unbind
        exact hunbinding.followed hsent (state_sendNewCommand _ _) fun hclosed => by cases hclosed
    · exact advances_refl s
  | bind =>
    simp only [call]
    split
    · exact advances_of_eq rfl rfl rfl id
    · exact advances_refl s
  | sendResponse => exact advances_sendImpl _ _ _ _
  | sendRequest pdu =>
    rw [call, sendRequest_fst]
    exact advances_of_start (advances_sendImpl _ _ _ _) rfl rfl rfl id
  | setSendBufThreshold size => exact advances_of_eq rfl rfl rfl id
  | pauseReceiving => exact advances_pauseReceiving s
  | resumeReceiving => exact advances_resumeReceiving s
  | assign => exact advances_of_eq rfl rfl rfl id

theorem advances_written (s : Session Id Status Pdu) : Advances s (written s) := by
  unfold written
  simp only
  split
  · exact advances_of_start (advances_doSend _) rfl rfl rfl id
  · exact advances_of_eq rfl rfl rfl id

theorem advances_inactivityTimer (s : Session Id Status Pdu) (error : Option Bytes) :
    Advances s (inactivityTimer D s error) := by
  rcases inactivityTimer_cases D s error with ⟨what, hclose⟩ | hagain
  · rw [hclose]
    exact advances_close s what
  · rw [hagain]
    exact advances_of_eq rfl rfl rfl id

theorem advances_enquirelinkTimer (s : Session Id Status Pdu) (error : Option Bytes) :
    Advances s (enquirelinkTimer D s error) := by
  rcases enquirelinkTimer_cases D s error with ⟨what, hclose⟩ | ⟨s', rfl, hsend | hagain⟩
  · rw [hclose]
    exact advances_close s what
  · rw [hsend]
    exact advances_of_start (advances_sendNewCommand _ _) rfl rfl rfl id
  · rw [hagain]
    exact advances_of_eq rfl rfl rfl id

/-- A call of the close handler that was posted is a notification already. -/
theorem advances_closeNotified {error : Option Bytes} {posted : List (Option Bytes)}
    (hposted : s.posted = error :: posted) :
    Advances s { s with posted := posted, tasks := [.user, .release], called := s.called ++ [.close error] } where
  forward := Nat.le_refl _
  notified := .inl ⟨by simp [notifications, hposted, Callback.notification], id⟩
  calls _ := by simp [passedOn, Callback.needsOpen]
  orderly _ := orderly_cons rfl (orderly_cons rfl (List.forall_mem_nil _))

/-- **What an event does to the life of a session.** -/
theorem advances_step (hD : D.Orderly) (hs : s.Orderly) (e : Event D) : Advances s (step D s e) := by
  rcases step_takes D s e with hsame | htakes
  · rw [hsame]
    exact advances_refl s
  generalize step D s e = t at htakes ⊢
  cases htakes with
  | internal => exact advances_internal hD hs
  | call c hcallable => exact advances_call s c
  | returned htasks => exact advances_of_eq rfl rfl rfl (advances_tail htasks)
  | received htasks hreceives hdata => exact advances_of_eq rfl rfl rfl (orderly_cons rfl)
  | receiveFailed error htasks hreceives => exact advances_of_start (advances_close _ _) rfl rfl rfl id
  | written htasks hwrites => exact advances_written s
  | writeFailed error htasks hwrites => exact advances_of_start (advances_close _ _) rfl rfl rfl id
  | inactivityTimer error htasks hwaits =>
    exact advances_of_start (advances_inactivityTimer _ error) rfl rfl rfl id
  | enquirelinkTimer error htasks hwaits =>
    exact advances_of_start (advances_enquirelinkTimer _ error) rfl rfl rfl id
  | closeNotified htasks hposted => exact advances_closeNotified hposted

/-! ### Runs -/

/-- The session is closed exactly if there has been a notification, and only one. -/
def Notified (s : Session Id Status Pdu) : Prop :=
  s.notifications.length = if s.state_ = .closed then 1 else 0

theorem Advances.notified_of (h : Advances s t) (hs : s.Notified) : t.Notified := by
  rw [Notified] at hs ⊢
  rcases h.notified with ⟨hsame, hclosed⟩ | ⟨error, hnew, hopen, hclosed, -⟩
  · rw [hsame, hs]
    have hiff : t.state_ = .closed ↔ s.state_ = .closed := by
      refine ⟨hclosed, ?_⟩
      intro hs
      have hforward := h.forward
      rw [hs] at hforward
      cases ht : t.state_ with
      | opened => exact absurd hforward (by rw [ht]; decide)
      | unbinding => exact absurd hforward (by rw [ht]; decide)
      | closed => rfl
    simp only [hiff]
  · rw [hnew, List.length_append, hs, if_neg hopen, if_pos hclosed]
    rfl

/-- A session that is not open does not open again. -/
theorem Advances.not_opened (h : Advances s t) (hs : s.state_ ≠ .opened) : t.state_ ≠ .opened := by
  intro ht
  have hforward := h.forward
  rw [ht] at hforward
  cases hstate : s.state_ with
  | opened => exact hs hstate
  | unbinding => exact absurd hforward (by rw [hstate]; decide)
  | closed => exact absurd hforward (by rw [hstate]; decide)

theorem orderly_run (hD : D.Orderly) (hs : s.Orderly) (events : List (Event D)) :
    (run (step D) s events).Orderly :=
  (along_true fun _ _ => trivial : Along (step D) (fun _ _ => True) s events).invariant
    (fun _ e hs _ => (advances_step hD hs e).orderly hs) hs

/-- **A run moves the state forward**, and once the session is not open it passes nothing on. -/
theorem advances_run (hD : D.Orderly) (hs : s.Orderly) (events : List (Event D)) :
    s.state_.rank ≤ (run (step D) s events).state_.rank ∧
      (s.state_ ≠ .opened → (run (step D) s events).passedOn = s.passedOn) ∧
      (s.Notified → (run (step D) s events).Notified) := by
  induction events generalizing s with
  | nil => exact ⟨Nat.le_refl _, fun _ => rfl, id⟩
  | cons e events ih =>
    have hstep := advances_step hD hs e
    obtain ⟨hforward, hcalls, hnotified⟩ := ih (hstep.orderly hs)
    refine ⟨Nat.le_trans hstep.forward hforward, ?_, fun h => hnotified (hstep.notified_of h)⟩
    intro hopen
    have hnot := hstep.not_opened hopen
    exact (hcalls hnot).trans (hstep.calls hnot)

theorem orderly_fresh (handlers : Handler → Bool) : (fresh handlers : Session Id Status Pdu).Orderly :=
  List.forall_mem_nil _

theorem Notified.length_le (h : s.Notified) : s.notifications.length ≤ 1 := by
  rw [Notified] at h
  split at h <;> omega

end Session

end SmppGateway.Net
