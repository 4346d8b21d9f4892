import SmppGateway.Net.LifeCycle
import SmppGateway.Smpp.Session

/-!
# The life cycle of an SMPP session

## What is proved

* `lifeCycle_run` — the state moves forward only, there is one close notification at most, which says whether
  the session was open, and a session that is not open passes nothing on and takes nothing.
-/

namespace SmppGateway.Smpp

open Foundation Net

section Consume

variable (commandId : CommandId) (commandStatus : CommandStatus) (sequenceNumber : UInt32) (buf : Bytes)

theorem orderly_consumeRequestPdu :
    ∀ r ∈ consumeRequestPdu commandId commandStatus sequenceNumber buf, r.orderly = true := by
  unfold consumeRequestPdu
  split
  · exact List.forall_mem_singleton.mpr rfl
  split
  · exact List.forall_mem_cons.mpr ⟨rfl, List.forall_mem_singleton.mpr rfl⟩
  split
  · split
    · exact List.forall_mem_singleton.mpr rfl
    · exact List.forall_mem_singleton.mpr rfl
  · exact List.forall_mem_cons.mpr ⟨rfl, List.forall_mem_singleton.mpr rfl⟩

theorem orderly_consumeResponsePdu :
    ∀ r ∈ consumeResponsePdu commandId commandStatus sequenceNumber buf, r.orderly = true := by
  unfold consumeResponsePdu
  split
  · exact List.forall_mem_nil _
  split
  · exact List.forall_mem_singleton.mpr rfl
  split
  · split
    · exact List.forall_mem_singleton.mpr rfl
    · exact List.forall_mem_singleton.mpr rfl
  · exact List.forall_mem_singleton.mpr rfl

end Consume

/-- `consume_request_pdu` and `consume_response_pdu` call no close handler. -/
theorem orderly_dialect : dialect.Orderly := ⟨orderly_consumeRequestPdu, orderly_consumeResponsePdu⟩

/-- **The life of an SMPP session**, over every run and every cut of it. -/
theorem lifeCycle_run (handlers : Handler → Bool) (before after : List (Event dialect)) :
    let s := run (Session.step dialect) (Session.fresh handlers) before
    let t := run (Session.step dialect) s after
    s.state_.rank ≤ t.state_.rank ∧ t.notifications.length ≤ 1 ∧
      (∀ e, let u := Session.step dialect s e
        (u.notifications = s.notifications ∧ (u.state_ = .closed → s.state_ = .closed)) ∨ s.Closes u) ∧
      (s.state_ ≠ .opened → t.passedOn = s.passedOn ∧ ∀ pdu sequenceNumber commandStatus,
        (∃ what, Session.sendImpl dialect s pdu sequenceNumber commandStatus = (s, .error (.exception what))) ∧
        (∃ what, (Session.sendRequest dialect s pdu).2 = .error (.exception what)) ∧
        (Session.sendRequest dialect s pdu).1.tx = s.tx) := by
  intro s t
  have horderly := Session.orderly_run orderly_dialect (Session.orderly_fresh handlers) before
  obtain ⟨-, -, hfirst⟩ := Session.advances_run orderly_dialect (Session.orderly_fresh handlers) before
  obtain ⟨hforward, hcalls, hsecond⟩ := Session.advances_run orderly_dialect horderly after
  refine ⟨hforward, (hsecond (hfirst rfl)).length_le, fun e => ?_, fun hopen => ⟨hcalls hopen, ?_⟩⟩
  · exact (Session.advances_step orderly_dialect horderly e).notified
  · intro pdu sequenceNumber commandStatus
    obtain ⟨what, hrequest⟩ := Session.sendRequest_of_not_opened (D := dialect) hopen pdu
    refine ⟨Session.sendImpl_of_not_opened hopen pdu sequenceNumber commandStatus, ⟨what, ?_⟩, ?_⟩
    · rw [hrequest]
    · rw [hrequest]

/-- A session that is unbound, and whose inactivity timer is cancelled then. -/
theorem lifeCycle_run_unbind :
    let before : List (Event dialect) := [.call .start, .internal, .call (.unbind true)]
    let s := run (Session.step dialect) (Session.fresh fun _ => true) before
    (run (Session.step dialect) s [.inactivityTimer (some (ascii "Operation canceled"))]).passedOn =
      s.passedOn := by
  intro before s
  have hunbinding : s.state_ = .unbinding := rfl
  have hopen : s.state_ ≠ .opened := by
    rw [hunbinding]
    decide
  exact ((lifeCycle_run (fun _ => true) before _).2.2.2 hopen).1

end SmppGateway.Smpp
