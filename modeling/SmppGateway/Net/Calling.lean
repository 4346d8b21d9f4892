import SmppGateway.Net.Session

/-!
# Which handlers are called

An event calls at most one handler, and only one that is present; a handler that is not present is not
present afterwards, unless the event assigns it.

## What is proved

* `Session.calls_step` — this, for every event of a session of either dialect.
-/

namespace SmppGateway.Net

open Foundation

variable {Id Status Pdu : Type}

/-- The event assigns a handler. -/
def Event.assigns {D : Dialect Id Status Pdu} : Event D → Bool
  | .call (.assign _ _) => true
  | _ => false

/-- At most one handler was called, and no handler has come. -/
structure Calls (s t : Session Id Status Pdu) : Prop where
  handlers : ∀ h, t.handlers h = true → s.handlers h = true
  called : t.called = s.called ∨
    ∃ call, t.called = s.called ++ [call] ∧ call.handler.all s.handlers = true

namespace Session

variable {D : Dialect Id Status Pdu} {s t u : Session Id Status Pdu}

theorem calls_of_eq (hhandlers : t.handlers = s.handlers) (hcalled : t.called = s.called) : Calls s t :=
  ⟨fun h hh => by rwa [hhandlers] at hh, .inl hcalled⟩

theorem calls_of_start (h : Calls t u) (hhandlers : t.handlers = s.handlers) (hcalled : t.called = s.called) :
    Calls s u := by
  obtain ⟨hpresent, hcall⟩ := h
  rw [hhandlers] at hpresent hcall
  rw [hcalled] at hcall
  exact ⟨hpresent, hcall⟩

theorem calls_of_end (h : Calls s t) (hhandlers : u.handlers = t.handlers) (hcalled : u.called = t.called) :
    Calls s u := by
  obtain ⟨hpresent, hcall⟩ := h
  rw [← hhandlers] at hpresent
  rw [← hcalled] at hcall
  exact ⟨hpresent, hcall⟩

theorem calls_invoke (s : Session Id Status Pdu) (call : Callback Id Status Pdu) : Calls s (s.invoke call) := by
  unfold invoke
  split
  · rename_i hpresent
    rw [Bool.and_eq_true] at hpresent
    exact ⟨fun h hh => hh, .inr ⟨call, rfl, hpresent.1⟩⟩
  · exact calls_of_eq rfl rfl

theorem calls_doSend (s : Session Id Status Pdu) : Calls s s.doSend := by
  unfold doSend
  split
  · exact calls_of_eq rfl rfl
  · simp only
    split
    · exact calls_of_start (calls_invoke _ _) rfl rfl
    · exact calls_of_eq rfl rfl

theorem calls_sendCommand (s : Session Id Status Pdu) (commandId : Id) (sequenceNumber : UInt32)
    (commandStatus : Status) : Calls s (sendCommand D s commandId sequenceNumber commandStatus) :=
  calls_of_start (calls_doSend _) rfl rfl

theorem calls_sendNewCommand (s : Session Id Status Pdu) (commandId : Id) :
    Calls s (sendNewCommand D s commandId) :=
  calls_of_start (calls_sendCommand _ _ _ _) rfl rfl

theorem calls_sendImpl (s : Session Id Status Pdu) (pdu : Pdu) (sequenceNumber : UInt32)
    (commandStatus : Status) : Calls s (sendImpl D s pdu sequenceNumber commandStatus).1 := by
  rcases sendImpl_cases (D := D) s pdu sequenceNumber commandStatus with ⟨e, h⟩ | ⟨-, -, h⟩
  · rw [h]
    exact calls_of_eq rfl rfl
  · rw [h]
    exact calls_of_start (calls_doSend _) rfl rfl

theorem calls_pauseReceiving (s : Session Id Status Pdu) : Calls s s.pauseReceiving := by
  unfold pauseReceiving
  split <;> exact calls_of_eq rfl rfl

theorem calls_resumeReceiving (s : Session Id Status Pdu) : Calls s s.resumeReceiving := by
  unfold resumeReceiving
  simp only
  split <;> exact calls_of_eq rfl rfl

theorem calls_close (s : Session Id Status Pdu) (reason : Bytes) : Calls s (close D s reason) := by
  unfold close
  split
  · exact calls_of_eq rfl rfl
  · simp only
    split
    · exact calls_of_end (calls_pauseReceiving s) rfl rfl
    · exact calls_of_eq rfl rfl

theorem calls_react (s : Session Id Status Pdu) (reaction : Reaction Id Status Pdu) :
    Calls s (react D s reaction) := by
  cases reaction with
  | sendCommand => exact calls_sendCommand _ _ _ _
  | startUnbinding =>
    simp only [react]
    split <;> exact calls_of_eq rfl rfl
  | close reason => exact calls_close _ _
  | callback call => exact calls_invoke _ _

theorem calls_doReceive (s : Session Id Status Pdu) : Calls s (doReceive D s) := by
  unfold doReceive
  split
  · split <;> exact calls_of_eq rfl rfl
  · split
    · exact calls_of_eq rfl rfl
    · split <;> exact calls_of_eq rfl rfl

theorem calls_internal (s : Session Id Status Pdu) : Calls s (internal D s) := by
  unfold internal
  split
  case h_1 => exact calls_of_eq rfl rfl
  case h_2 => exact calls_of_eq rfl rfl
  case h_3 => exact calls_of_start (calls_react _ _) rfl rfl
  case h_4 => exact calls_of_start (calls_doReceive _) rfl rfl
  case h_5 => exact calls_of_eq rfl rfl
  case h_6 => exact calls_of_eq rfl rfl
  case h_7 => exact ⟨fun _ h => (nomatch h), .inl rfl⟩

theorem calls_call (s : Session Id Status Pdu) (c : Call D) (h : (Event.call c).assigns = false) :
    Calls s (call D s c) := by
  cases c with
  | start => exact calls_of_start (calls_resumeReceiving _) rfl rfl
  | unbind force =>
    simp only [call]
    split
    · split
      · exact calls_of_eq rfl rfl
      · exact calls_of_start (calls_sendNewCommand _ _) rfl rfl
    · exact calls_of_eq rfl rfl
  | bind =>
    simp only [call]
    split <;> exact calls_of_eq rfl rfl
  | sendResponse => exact calls_sendImpl _ _ _ _
  | sendRequest pdu =>
    rw [call, sendRequest_fst]
    exact calls_of_start (calls_sendImpl _ _ _ _) rfl rfl
  | setSendBufThreshold size => exact calls_of_eq rfl rfl
  | pauseReceiving => exact calls_pauseReceiving s
  | resumeReceiving => exact calls_resumeReceiving s
  | assign => cases h

theorem calls_written (s : Session Id Status Pdu) : Calls s s.written := by
  unfold written
  simp only
  split
  · exact calls_of_start (calls_doSend _) rfl rfl
  · exact calls_of_eq rfl rfl

theorem calls_inactivityTimer (s : Session Id Status Pdu) (error : Option Bytes) :
    Calls s (inactivityTimer D s error) := by
  rcases inactivityTimer_cases D s error with ⟨what, hclose⟩ | hagain
  · rw [hclose]
    exact calls_close s what
  · rw [hagain]
    exact calls_of_eq rfl rfl

theorem calls_enquirelinkTimer (s : Session Id Status Pdu) (error : Option Bytes) :
    Calls s (enquirelinkTimer D s error) := by
  rcases enquirelinkTimer_cases D s error with ⟨what, hclose⟩ | ⟨s', rfl, hsend | hagain⟩
  · rw [hclose]
    exact calls_close s what
  · rw [hsend]
    exact calls_of_start (calls_sendNewCommand _ _) rfl rfl
  · rw [hagain]
    exact calls_of_eq rfl rfl

/-- **What an event calls**, and what it leaves of the handlers. -/
theorem calls_step (s : Session Id Status Pdu) {e : Event D} (h : e.assigns = false) :
    Calls s (step D s e) := by
  rcases step_takes D s e with hsame | htakes
  · rw [hsame]
    exact calls_of_eq rfl rfl
  generalize step D s e = t at htakes ⊢
  cases htakes with
  | internal => exact calls_internal s
  | call c hcallable => exact calls_call s c h
  | returned htasks => exact calls_of_eq rfl rfl
  | received htasks hreceives hdata => exact calls_of_eq rfl rfl
  | receiveFailed error htasks hreceives => exact calls_of_start (calls_close _ _) rfl rfl
  | written htasks hwrites => exact calls_written s
  | writeFailed error htasks hwrites => exact calls_of_start (calls_close _ _) rfl rfl
  | inactivityTimer error htasks hwaits => exact calls_of_start (calls_inactivityTimer _ error) rfl rfl
  | enquirelinkTimer error htasks hwaits => exact calls_of_start (calls_enquirelinkTimer _ error) rfl rfl
  | closeNotified htasks hposted => exact ⟨fun _ hh => hh, .inr ⟨_, rfl, rfl⟩⟩

end Session

end SmppGateway.Net
