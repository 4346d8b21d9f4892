import SmppGateway.Net.Receiving

/-!
# Who pauses a session

`pause_receiving` and `resume_receiving` belong to the owner of a session. What the session does by itself
keeps the receiving state, but for a pause that is pending and takes effect at the end of `do_receive`.

## What is proved

* `Session.listens_step` — a session that is not paused has an `async_receive` outstanding or a `do_receive`
  active, unless an `async_receive` has failed or a fault has stopped it.
* `Session.keeps_step` — where `close` does not pause, no event but the owner's calls starts or stops
  the receiving, and while the session does not receive nothing is handed over.
-/

namespace SmppGateway.Net

open Foundation Relation

variable {Id Status Pdu : Type}

/-- `start`, `pause_receiving` and `resume_receiving`, which are left to the owner. -/
def Event.isOwner {D : Dialect Id Status Pdu} : Event D → Bool
  | .call .start => true
  | .call .pauseReceiving => true
  | .call .resumeReceiving => true
  | _ => false

/-- More can arrive, or somebody has to resume the receiving first, or nothing can be done any more. -/
def ReceiveSide.Listens (r : ReceiveSide Id Status) : Prop :=
  r.fault.isSome ∨ r.loops ≠ [] ∨ r.rx.receives ≠ [] ∨ r.rx.failed = true ∨ r.rx.receiving_state_ = .paused

/-- What a session makes of its receiver while its owner leaves it alone. -/
structure Receiver.Keeps (rx rx' : Receiver Id Status) : Prop where
  state : rx'.receiving_state_ = rx.receiving_state_ ∨
    rx.receiving_state_ = .pendingPause ∧ rx'.receiving_state_ = .paused
  dispatched : rx.receiving_state_ ≠ .receiving → rx'.dispatched = rx.dispatched

theorem Receiver.Keeps.of_eq {rx rx' : Receiver Id Status} (h : rx' = rx) : rx.Keeps rx' := by
  subst h
  exact ⟨.inl rfl, fun _ => rfl⟩

/-- A session that does not receive goes on so. -/
theorem Receiver.Keeps.ne_receiving {rx rx' : Receiver Id Status} (h : rx.Keeps rx')
    (hne : rx.receiving_state_ ≠ .receiving) : rx'.receiving_state_ ≠ .receiving := by
  rcases h.state with hsame | ⟨-, hpaused⟩
  · rw [hsame]
    exact hne
  · rw [hpaused]
    simp

/-- So does one that receives. -/
theorem Receiver.Keeps.receiving {rx rx' : Receiver Id Status} (h : rx.Keeps rx')
    (hreceiving : rx.receiving_state_ = .receiving) : rx'.receiving_state_ = .receiving := by
  rcases h.state with hsame | ⟨hpending, -⟩
  · rw [hsame, hreceiving]
  · rw [hreceiving] at hpending
    cases hpending

/-! ### More can arrive -/

/-- **A receive step** ends with a `do_receive` that is active, an `async_receive`, a pause or a fault. -/
theorem listens_receiveStep {F : Framing Id Status} {r r' : ReceiveSide Id Status} (h : ReceiveStep F r r')
    (hr : r.Listens) : r'.Listens := by
  cases h with
  | pause hstate =>
    rcases hr with hfault | hloops | hreceives | hfailed | hpaused
    · exact .inl hfault
    · exact .inr (.inl hloops)
    · exact .inr (.inr (.inl hreceives))
    · exact .inr (.inr (.inr (.inl hfailed)))
    · rw [hstate] at hpaused
      cases hpaused
  | resume hstate =>
    rcases hr with hfault | hloops | hreceives | hfailed | hpaused
    · exact .inl hfault
    · exact .inr (.inl hloops)
    · exact .inr (.inr (.inl hreceives))
    · exact .inr (.inr (.inr (.inl hfailed)))
    · exact absurd hpaused hstate
  | restart hstate => exact .inr (.inl (List.cons_ne_nil _ _))
  | dispatch hloops hturn => exact .inr (.inl (List.cons_ne_nil _ _))
  | overrun hfault hloops hturn => exact .inl rfl
  | stop hloops hstate => exact .inr (.inr (.inr (.inr rfl)))
  | prepare hloops hturn hstate hprepare => exact .inr (.inr (.inl (List.append_ne_nil_of_right_ne_nil _ (by simp))))
  | overflow hfault hloops hturn hstate hprepare => exact .inl rfl
  | consume hloops => exact .inr (.inl (List.cons_ne_nil _ _))
  | received hloops hreceives hdata => exact .inr (.inl (List.cons_ne_nil _ _))
  | failed hloops hreceives => exact .inr (.inr (.inr (.inl rfl)))

namespace Session

variable {D : Dialect Id Status Pdu} {s t : Session Id Status Pdu}

theorem listens_receives (h : Receives D s t) (hs : s.receiveSide.Listens) : t.receiveSide.Listens := by
  unfold Receives at h
  generalize t.receiveSide = r at h ⊢
  induction h with
  | refl => exact hs
  | tail _ hstep ih => exact listens_receiveStep hstep ih

/-- **More can arrive** after any event, if it could before. -/
theorem listens_step (hs : s.receiveSide.Listens) (e : Event D) : (step D s e).receiveSide.Listens :=
  listens_receives (receiveSide_step s e) hs

/-! ### The receiving state -/

theorem rx_of_receiveSide (h : t.receiveSide = s.receiveSide) : t.rx = s.rx := congrArg ReceiveSide.rx h

theorem rx_close (hD : D.closePauses = false) (s : Session Id Status Pdu) (reason : Bytes) :
    (close D s reason).rx = s.rx := by
  unfold close
  split
  · rfl
  · rw [hD]
    rfl

theorem rx_react (hD : D.closePauses = false) (s : Session Id Status Pdu) (reaction : Reaction Id Status Pdu) :
    (react D s reaction).rx = s.rx := by
  cases reaction with
  | sendCommand => exact rx_of_receiveSide (receiveSide_sendCommand _ _ _ _)
  | startUnbinding =>
    simp only [react]
    split <;> rfl
  | close reason => exact rx_close hD s reason
  | callback => exact rx_of_receiveSide (receiveSide_invoke _ _)

/-- A PDU is handed over only by a session that receives. -/
theorem keeps_doReceive (s : Session Id Status Pdu) : s.rx.Keeps (doReceive D s).rx := by
  unfold doReceive
  split
  case h_1 t hturn =>
    split
    · exact .of_eq rfl
    · exact ⟨.inl rfl, fun hne => absurd (Framing.turn_some hturn).1 hne⟩
  case h_2 =>
    split
    · rename_i hpending
      exact ⟨.inr ⟨hpending, rfl⟩, fun _ => rfl⟩
    · split
      · exact .of_eq rfl
      · exact ⟨.inl rfl, fun _ => rfl⟩

theorem keeps_internal (hD : D.closePauses = false) (s : Session Id Status Pdu) :
    s.rx.Keeps (internal D s).rx := by
  unfold internal
  split
  case h_1 => exact .of_eq rfl
  case h_2 => exact .of_eq rfl
  case h_3 => exact .of_eq (rx_react hD _ _)
  case h_4 tasks _ => exact keeps_doReceive { s with tasks := tasks }
  case h_5 => exact ⟨.inl rfl, fun _ => rfl⟩
  case h_6 => exact .of_eq rfl
  case h_7 => exact .of_eq rfl

theorem rx_call {c : Call D} (hc : (Event.call c).isOwner = false) (s : Session Id Status Pdu) :
    (call D s c).rx = s.rx := by
  cases c with
  | start => cases hc
  | unbind force =>
    simp only [call]
    split
    · split
      · rfl
      · exact rx_of_receiveSide (receiveSide_sendNewCommand _ _)
    · rfl
  | bind =>
    simp only [call]
    split <;> rfl
  | sendResponse => exact rx_of_receiveSide (receiveSide_sendImpl _ _ _ _)
  | sendRequest => exact rx_of_receiveSide (receiveSide_sendRequest _ _)
  | setSendBufThreshold => rfl
  | pauseReceiving => cases hc
  | resumeReceiving => cases hc
  | assign => rfl

theorem rx_inactivityTimer (hD : D.closePauses = false) (s : Session Id Status Pdu) (error : Option Bytes) :
    (inactivityTimer D s error).rx = s.rx := by
  rcases inactivityTimer_cases D s error with ⟨what, hclose⟩ | hagain
  · rw [hclose]
    exact rx_close hD s what
  · rw [hagain]

theorem rx_enquirelinkTimer (hD : D.closePauses = false) (s : Session Id Status Pdu) (error : Option Bytes) :
    (enquirelinkTimer D s error).rx = s.rx := by
  rcases enquirelinkTimer_cases D s error with ⟨what, hclose⟩ | ⟨s', rfl, hsend | hagain⟩
  · rw [hclose]
    exact rx_close hD s what
  · rw [hsend]
    exact rx_of_receiveSide (receiveSide_sendNewCommand _ _)
  · rw [hagain]

/-- **What a session does by itself** neither starts nor stops the receiving, and hands nothing over while
it does not receive. -/
theorem keeps_step (hD : D.closePauses = false) (s : Session Id Status Pdu) {e : Event D}
    (he : e.isOwner = false) : s.rx.Keeps (step D s e).rx := by
  rcases step_takes D s e with hsame | htakes
  · exact .of_eq (congrArg Session.rx hsame)
  generalize step D s e = t at htakes ⊢
  cases htakes with
  | internal => exact keeps_internal hD s
  | call c hcallable => exact .of_eq (rx_call he s)
  | returned htasks => exact .of_eq rfl
  | received htasks hreceives hdata => exact ⟨.inl rfl, fun _ => rfl⟩
  | @receiveFailed error _ receives htasks hreceives =>
    have hrx := rx_close hD { s with rx := { s.rx with receives := receives, failed := true } } error
    rw [hrx]
    exact ⟨.inl rfl, fun _ => rfl⟩
  | written htasks hwrites => exact .of_eq (rx_of_receiveSide (receiveSide_written s))
  | writeFailed error htasks hwrites => exact .of_eq (rx_close hD _ error)
  | inactivityTimer error htasks hwaits => exact .of_eq (rx_inactivityTimer hD _ error)
  | enquirelinkTimer error htasks hwaits => exact .of_eq (rx_enquirelinkTimer hD _ error)
  | closeNotified htasks hposted => exact .of_eq rfl

end Session

end SmppGateway.Net
