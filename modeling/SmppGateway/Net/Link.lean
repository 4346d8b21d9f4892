import SmppGateway.Foundation.Family
import SmppGateway.Net.Delivery
import SmppGateway.Net.HandOver
import SmppGateway.Net.Sending

/-!
# Two sessions on one connection

The session of a client and the session of the server that accepted it. Each sends what it is asked to, and commands
of its own; the connection brings the bytes that one hands to `async_write` to the other, in their order, in pieces of
any size and whenever it likes.

## The model

`Peer` is a session and what it has been asked to send. The two peers run next to each other, and an event is addressed
to one of them. What the connection is relied on for is `Carried`: the bytes that have arrived are the first of those
that the other side has handed over. Operations may fail at any time, and handlers may do what they like.

* A connection that is lost is one that brings nothing more.

## What is proved

* `transmitted_step` — whether or not its writes succeed, a session hands over the beginning of the frames of
  what it was asked to send.
* `exchanged_link` — what one peer hands to its handlers is what the other was asked to send, in order and each PDU
  once; and all of it, once everything has arrived at a session that serves.
-/

namespace SmppGateway.Net

open Foundation Relation

variable {Id Status Pdu : Type}

/-! ### What a session hands over -/

/-- A PDU as the other side finds it: its header and its body. -/
def Sent.pdu (D : Dialect Id Status Pdu) (x : Sent Id Status) : Header Id Status × Bytes :=
  (⟨UInt32.ofNat (D.framing.headerLength + x.body.length), x.commandId, x.commandStatus, x.sequenceNumber⟩, x.body)

/-- A PDU that leaves room in the receive buffer of the other side. -/
def Sent.Fits (D : Dialect Id Status Pdu) (x : Sent Id Status) : Prop :=
  D.framing.headerLength + x.body.length ≤ maxFrame

instance (D : Dialect Id Status Pdu) (x : Sent Id Status) : Decidable (x.Fits D) :=
  inferInstanceAs (Decidable (_ ≤ maxFrame))

section Frames

variable {D : Dialect Id Status Pdu} {x : Sent Id Status}

theorem Sent.pduOf_frame (x : Sent Id Status) : D.framing.pduOf (x.frame D) = x.pdu D := by
  rw [Framing.pduOf, frame, List.take_left' (D.length_serializeHeader ..),
    List.drop_left' (D.length_serializeHeader ..), D.deserializeHeader_serializeHeader, pdu]

theorem Sent.callsOf_response (h : D.isResponse x.commandId = true) : D.callsOf (x.pdu D) =
    (D.consumeResponsePdu x.commandId x.commandStatus x.sequenceNumber x.body).filterMap Reaction.passes :=
  congrArg (List.filterMap Reaction.passes) (if_pos h)

theorem Sent.callsOf_request (h : D.isResponse x.commandId = false) : D.callsOf (x.pdu D) =
    (D.consumeRequestPdu x.commandId x.commandStatus x.sequenceNumber x.body).filterMap Reaction.passes :=
  congrArg (List.filterMap Reaction.passes) (if_neg (Bool.not_eq_true _ ▸ h))

theorem Sent.Fits.isFrame (h : x.Fits D) : D.framing.IsFrame (x.frame D) ∧ (x.frame D).length ≤ maxFrame := by
  have hlen := x.length_frame (D := D)
  refine ⟨⟨by omega, ?_⟩, hlen ▸ h⟩
  have hshort : D.framing.headerLength + x.body.length < 2 ^ 32 := Nat.lt_of_le_of_lt h (by decide)
  exact ((x.headerOk_iff (D := D)).mpr hshort).1

end Frames

section Sending

variable {D : Dialect Id Status Pdu} {P : Sent Id Status → Prop} {t t' : SendSide Id Status}

/-- A write that fails leaves what was being written where it is, and nothing more is handed over. -/
theorem transmitted_failed {writes : ℕ} (ht : Transmitted D P t) (hwrites : t.tx.writes = writes + 1) :
    Transmitted D P ⟨{ t.tx with writes := writes }, t.swaps⟩ :=
  ⟨ht.bytes, Nat.le_trans (by simp only; omega) ht.writing, ht.sent⟩

/-- What has been handed over stays. -/
theorem handed_sendSteps (h : ReflTransGen (SendStep D P) t t') : t.tx.handed <+: t'.tx.handed := by
  induction h with
  | refl => exact List.prefix_refl _
  | tail _ hstep ih =>
    refine ih.trans ?_
    cases hstep with
    | write => exact List.prefix_append _ _
    | _ => exact List.prefix_refl _

end Sending

namespace Session

variable {D : Dialect Id Status Pdu} {s : Session Id Status Pdu}

/-- A write that fails is no longer outstanding, and the session is closed. -/
theorem sendSide_writeFailed (error : Bytes) : step D s (.writeFailed error) = s ∨
    ∃ writes, s.tx.writes = writes + 1 ∧
      (step D s (.writeFailed error)).sendSide = ⟨{ s.tx with writes := writes }, s.sendSide.swaps⟩ := by
  rcases step_takes D s (.writeFailed error) with hsame | htakes
  · exact .inl hsame
  · generalize step D s (.writeFailed error) = t at htakes ⊢
    cases htakes with
    | @writeFailed _ writes htasks hwrites => exact .inr ⟨writes, hwrites, sendSide_close _ _⟩

/-- The PDUs that an event asks for can be sent to the other side. -/
def Asks (D : Dialect Id Status Pdu) (Ok : Pdu → Prop) (s : Session Id Status Pdu) (e : Event D) : Prop :=
  ∀ asked ∈ asks D s e, Ok asked.1 ∧ (D.sentOf asked).Fits D

theorem sends_of_asks {Ok : Pdu → Prop} {e : Event D} (hfault : s.fault = none) (h : Asks D Ok s e)
    (hcallable : ∀ c, e = .call c → s.callable = true) : Sends (Sent.Fits D) s e := by
  cases e with
  | call c =>
    have hready := hcallable c rfl
    cases c with
    | sendResponse pdu hpdu sequenceNumber commandStatus =>
      intro hopen hok
      refine (h (pdu, sequenceNumber, commandStatus) ?_).2
      have hsent := sendImpl_of_ok hopen hok sequenceNumber commandStatus
      simp [asks, hfault, hready, hsent, Except.isOk, Except.toBool]
    | sendRequest pdu hpdu =>
      intro hopen hok
      refine (h (pdu, D.nextSequenceNumber s.sequence_number_, D.rok) ?_).2
      have hsent := sendRequest_snd_of_ok hopen hok
      simp [asks, hfault, hready, hsent, Except.isOk, Except.toBool]
    | _ => trivial
  | _ => trivial

/-- **A session hands over what it was asked to send**, whether or not its writes succeed. -/
theorem transmitted_step (hD : D.framing.headerLength ≤ maxFrame) {Ok : Pdu → Prop} {e : Event D}
    (hasks : Asks D Ok s e) (hs : Transmitted D (Sent.Fits D) s.sendSide) :
    Transmitted D (Sent.Fits D) (step D s e).sendSide ∧ s.tx.handed <+: (step D s e).tx.handed := by
  have hsame (h : step D s e = s) :
      Transmitted D (Sent.Fits D) (step D s e).sendSide ∧ s.tx.handed <+: (step D s e).tx.handed := by
    rw [h]
    exact ⟨hs, List.prefix_refl _⟩
  cases hfault : s.fault with
  | some fault => exact hsame (by rw [step, hfault]; rfl)
  | none =>
    by_cases hcallable : ∀ c, e = .call c → s.callable = true
    · have hsends := sends_of_asks hfault hasks hcallable
      have hcommand : ∀ x : Sent Id Status, x.body = [] → x.Fits D := fun x hx => by
        rw [Sent.Fits, hx]
        exact hD
      by_cases hwrites : WritesSucceed e
      · have hsteps := sendSide_step hcommand hwrites hsends
        exact ⟨transmitted_sendSteps hsteps hs, handed_sendSteps hsteps⟩
      · cases e with
        | writeFailed error =>
          rcases sendSide_writeFailed (D := D) (s := s) error with h | ⟨writes, hcount, h⟩
          · exact hsame h
          · refine ⟨h ▸ transmitted_failed hs hcount, ?_⟩
            have htx : (step D s (.writeFailed error)).tx.handed = s.tx.handed :=
              congrArg (fun side => side.tx.handed) h
            exact htx ▸ List.prefix_refl _
        | _ => exact absurd trivial hwrites
    · cases e with
      | call c =>
        refine hsame ?_
        have hnot : s.callable = false := by
          by_contra hne
          exact hcallable fun _ _ => by simpa using hne
        rw [step, hfault]
        simp [handle, hnot]
      | _ => exact absurd (fun c hc => by cases hc) hcallable

end Session

/-! ### The peers -/

/-- The two sides of a connection. -/
inductive Side where
  /-- The side that connected. -/
  | client
  /-- The side that accepted. -/
  | server
  deriving DecidableEq, Repr

/-- The side across. -/
def Side.other : Side → Side
  | .client => .server
  | .server => .client

theorem Side.other_ne (side : Side) : side.other ≠ side := by
  cases side <;> decide

theorem Side.eq_other {side other : Side} (h : side ≠ other) : side.other = other := by
  cases side <;> cases other <;> first | rfl | exact absurd rfl h

/-- A session, and the PDUs it was asked to send and could, each with its number and its status. -/
structure Peer (D : Dialect Id Status Pdu) where
  session : Session Id Status Pdu
  asked : List (Pdu × UInt32 × Status)

/-- The call that a PDU is to lead to at the other side. -/
def Dialect.callOf (D : Dialect Id Status Pdu) (asked : Pdu × UInt32 × Status) : Callback Id Status Pdu :=
  if D.isResponsePdu asked.1 then .response asked.1 asked.2.1 asked.2.2 else .request asked.1 asked.2.1

/-- The PDUs that are looked after are read as they were written, and commands lead to no call that is looked at. -/
structure Dialect.Conveys (D : Dialect Id Status Pdu) (Ok : Pdu → Prop) (looked : Callback Id Status Pdu → Bool) :
    Prop where
  pdu : ∀ asked : Pdu × UInt32 × Status, Ok asked.1 → (D.serializeTo [] asked.1).2 = .ok () →
    D.callsOf ((D.sentOf asked).pdu D) = [D.callOf asked]
  command : ∀ x, D.Command x → (D.callsOf (x.pdu D)).filter looked = []
  orderly : D.Orderly
  header : D.framing.headerLength ≤ maxFrame

section Peers

variable {D : Dialect Id Status Pdu} {Ok : Pdu → Prop} {looked : Callback Id Status Pdu → Bool} {p : Peer D}

namespace Peer

/-- What an event makes of a peer. -/
def step (p : Peer D) (e : Event D) : Peer D where
  session := Session.step D p.session e
  asked := p.asked ++ Session.asks D p.session e

/-- A session that is constructed. -/
def start (handlers : Handler → Bool) : Peer D := ⟨.fresh handlers, []⟩

/-- The calls that what was sent leads to are those of what was asked for. -/
structure Truthful (looked : Callback Id Status Pdu → Bool) (p : Peer D) : Prop where
  hands : p.session.HandsOver D
  transmitted : Transmitted D (Sent.Fits D) p.session.sendSide
  sent : (p.session.tx.sent.flatMap fun x => D.callsOf (x.pdu D)).filter looked = (p.asked.map D.callOf).filter looked

theorem serializeTo_of_asks {s : Session Id Status Pdu} {e : Event D} {asked : Pdu × UInt32 × Status}
    (h : asked ∈ Session.asks D s e) : (D.serializeTo [] asked.1).2 = .ok () := by
  have hwritten {t : Session Id Status Pdu} {pdu : Pdu} {sequenceNumber : UInt32} {commandStatus : Status}
      (hok : (Session.sendImpl D t pdu sequenceNumber commandStatus).2.isOk = true) :
      (D.serializeTo [] pdu).2 = .ok () := by
    rcases Session.sendImpl_cases (D := D) t pdu sequenceNumber commandStatus with ⟨e, hs⟩ | ⟨-, hs, -⟩
    · rw [hs] at hok
      cases hok
    · exact hs
  cases e with
  | call c =>
    cases c with
    | sendResponse pdu hpdu sequenceNumber commandStatus =>
      simp only [Session.asks] at h
      split at h
      · rename_i hready
        rw [List.mem_singleton.mp h]
        exact hwritten (Bool.and_eq_true_iff.mp hready).2
      · cases h
    | sendRequest pdu hpdu =>
      simp only [Session.asks] at h
      split at h
      · rename_i hready
        rw [List.mem_singleton.mp h]
        exact hwritten (Session.isOk_sendRequest s pdu ▸ (Bool.and_eq_true_iff.mp hready).2)
      · cases h
    | _ => cases h
  | _ => cases h

theorem truthful_step (hD : D.Conveys Ok looked) (hp : p.Truthful looked) {e : Event D}
    (hasks : Session.Asks D Ok p.session e) : (p.step e).Truthful looked := by
  refine ⟨Session.handsOver_step hp.hands e, (Session.transmitted_step hD.header hasks hp.transmitted).1, ?_⟩
  obtain ⟨xs, hsent, hxs⟩ := Session.sent_step hp.hands.sourced e
  have hnew : (xs.flatMap fun x => D.callsOf (x.pdu D)).filter looked =
      ((Session.asks D p.session e).map D.callOf).filter looked := by
    rcases hxs with rfl | ⟨hnone, hcommands⟩
    · refine congrArg (List.filter looked) ?_
      rw [List.flatMap_map]
      have hconveyed : ∀ asked ∈ Session.asks D p.session e,
          D.callsOf ((D.sentOf asked).pdu D) = [D.callOf asked] := fun asked hmem =>
        hD.pdu asked (hasks asked hmem).1 (serializeTo_of_asks hmem)
      rw [List.flatMap_congr hconveyed, List.map_eq_flatMap]
    · rw [hnone, List.filter_flatMap]
      exact List.flatMap_eq_nil_iff.mpr fun x hx => hD.command x (hcommands x hx)
  simp only [step, hsent, List.flatMap_append, List.filter_append, List.map_append, hp.sent, hnew]

theorem truthful_start (handlers : Handler → Bool) : (start handlers : Peer D).Truthful looked where
  hands := Session.handsOver_fresh handlers
  transmitted := ⟨rfl, Nat.le_refl 0, by simp [start, Session.fresh, Session.sendSide]⟩
  sent := rfl

end Peer

/-! ### The connection -/

/-- The bytes that arrive at a peer are the next of those that the other has handed over. -/
def Carried (link : Side → Peer D) (e : Side × Event D) : Prop :=
  ∀ data, e.2 = .received data →
    (link e.1).session.rx.arrived ++ data <+: (link e.1.other).session.tx.handed

/-- Nothing is on its way from one peer to the other, and neither is at work. -/
structure Quiet (sender receiver : Peer D) : Prop where
  written : sender.session.tasks = []
  pending : sender.session.tx.pending_send_buf_ = []
  arrived : receiver.session.rx.arrived = sender.session.tx.handed
  taken : receiver.session.tasks = []
  receiving : receiver.session.rx.receiving_state_ ≠ .paused

/-- What one peer takes and hands to its handlers, against what the other was asked to send. -/
structure Exchanged (looked : Callback Id Status Pdu → Bool) (sender receiver : Peer D) : Prop where
  /-- Nothing stops it. -/
  fault : receiver.session.fault = none
  /-- What is taken is what was sent, from the first on. -/
  dispatched : receiver.session.rx.dispatched <+: sender.session.tx.sent.map (Sent.pdu D)
  /-- The handlers are called with what was asked for, in order and each once. -/
  calls : (receiver.session.passedOn.filter looked).Sublist ((sender.asked.map D.callOf).filter looked)

theorem Peer.Truthful.bytes_prefix (hp : p.Truthful looked) :
    p.session.tx.handed <+: (p.session.tx.sent.map (Sent.frame D)).flatten := by
  have hbytes := hp.transmitted.bytes
  rw [List.append_assoc] at hbytes
  exact ⟨_, hbytes⟩

theorem Peer.Truthful.allFit (hp : p.Truthful looked) : D.framing.AllFit (p.session.tx.sent.map (Sent.frame D)) := by
  intro frame hframe
  obtain ⟨x, hx, rfl⟩ := List.mem_map.mp hframe
  exact (hp.transmitted.sent x hx).isFrame

/-- What has arrived at a peer is the beginning of what the other has handed over, whoever does what. -/
theorem carried_step (hD : D.Conveys Ok looked) {link : Side → Peer D} {e : Side × Event D}
    (hlink : ∀ side, (link side).Truthful looked ∧
      (link side).session.rx.arrived <+: (link side.other).session.tx.handed)
    (hcarried : Carried link e) (hasks : Session.Asks D Ok (link e.1).session e.2) (side : Side) :
    (family Peer.step link e side).Truthful looked ∧
      (family Peer.step link e side).session.rx.arrived <+:
        (family Peer.step link e side.other).session.tx.handed := by
  by_cases hside : side = e.1
  · subst hside
    obtain ⟨htruthful, harrived⟩ := hlink e.1
    rw [family_self, family_of_ne (Side.other_ne _)]
    refine ⟨Peer.truthful_step hD htruthful hasks, ?_⟩
    have hmoves := (Session.moves_step htruthful.hands.sourced e.2).arrived
    rcases hmoves with hsame | ⟨data, he, hmore⟩
    · rw [Peer.step, hsame]
      exact harrived
    · rw [Peer.step, hmore]
      exact hcarried data he
  · obtain ⟨htruthful, harrived⟩ := hlink side
    have hother : side.other = e.1 := Side.eq_other hside
    rw [family_of_ne hside, hother, family_self]
    refine ⟨htruthful, harrived.trans ?_⟩
    rw [hother]
    exact (Session.transmitted_step hD.header hasks (hlink e.1).1.transmitted).2

theorem map_pduOf_frame (xs : List (Sent Id Status)) :
    (xs.map (Sent.frame D)).map D.framing.pduOf = xs.map (Sent.pdu D) := by
  rw [List.map_map]
  exact List.map_congr_left fun x _ => Sent.pduOf_frame x

/-- The calls for what was sent are those for what was asked for. -/
theorem Peer.Truthful.calls (hp : p.Truthful looked) :
    ((p.session.tx.sent.map (Sent.pdu D)).flatMap D.callsOf).filter looked = (p.asked.map D.callOf).filter looked := by
  rw [List.flatMap_map]
  exact hp.sent

theorem exchanged_of_truthful {sender receiver : Peer D} (hsender : sender.Truthful looked)
    (hreceiver : receiver.Truthful looked) (hdelivers : Delivers D.framing receiver.session.receiveSide)
    (harrived : receiver.session.rx.arrived <+: sender.session.tx.handed) : Exchanged looked sender receiver := by
  have hdispatched : receiver.session.rx.dispatched <+: sender.session.tx.sent.map (Sent.pdu D) := by
    rw [← map_pduOf_frame]
    exact hdelivers.dispatched_prefix hsender.allFit (harrived.trans hsender.bytes_prefix)
  refine ⟨hdelivers.fault, hdispatched, ?_⟩
  rw [← hsender.calls]
  refine List.Sublist.filter looked ?_
  have hmade : receiver.session.passedOn.Sublist (receiver.session.passedOn ++ receiver.session.due) :=
    List.sublist_append_left _ _
  refine (hmade.trans hreceiver.hands.calls).trans ?_
  obtain ⟨more, hmore⟩ := hdispatched
  rw [← hmore, List.flatMap_append]
  exact List.sublist_append_left _ _

/-- When all is quiet, every call that a session has not dropped has been made. -/
theorem calls_of_quiet {sender receiver : Peer D} (hsender : sender.Truthful looked)
    (hdelivers : Delivers D.framing receiver.session.receiveSide) (hquiet : Quiet sender receiver)
    (hall : receiver.session.passedOn ++ receiver.session.due = receiver.session.rx.dispatched.flatMap D.callsOf) :
    receiver.session.passedOn.filter looked = (sender.asked.map D.callOf).filter looked := by
  have hbytes : receiver.session.rx.arrived = (sender.session.tx.sent.map (Sent.frame D)).flatten := by
    have hswaps : sender.session.sendSide.swaps = 0 := by
      rw [Session.sendSide, hquiet.written]
      rfl
    have hbytes := hsender.transmitted.bytes
    rw [hswaps, if_pos rfl, List.append_nil, show sender.session.sendSide.tx = sender.session.tx from rfl,
      hquiet.pending, List.append_nil] at hbytes
    exact hquiet.arrived.trans hbytes
  have hwhole := hdelivers.dispatched_eq hsender.allFit hbytes hquiet.taken hquiet.receiving
  have hdue : receiver.session.due = [] := by
    rw [Session.due, hquiet.taken]
    rfl
  rw [hdue, List.append_nil, hwhole, map_pduOf_frame] at hall
  rw [hall, hsender.calls]

/-- **An exchange between two sessions**, over every run of the two and the connection between them: what one hands to
its handlers is what the other was asked to send, in order and each PDU once; and all of it, once everything has arrived
at a session that serves. -/
theorem exchanged_link (hD : D.Conveys Ok looked) (handlers : Side → Handler → Bool)
    {events : List (Side × Event D)}
    (h : Along (family Peer.step) (fun link e => Carried link e ∧ Session.Asks D Ok (link e.1).session e.2)
      (fun side => Peer.start (handlers side)) events) (side : Side) :
    let link := run (family Peer.step) (fun side => Peer.start (handlers side)) events
    Exchanged looked (link side.other) (link side) ∧
      ((∀ e ∈ addressed side events, e.assigns = false) → Quiet (link side.other) (link side) →
        (link side).session.Serving →
        (link side).session.passedOn.filter looked = ((link side.other).asked.map D.callOf).filter looked) := by
  intro link
  have hlink : ∀ side, (link side).Truthful looked ∧
      (link side).session.rx.arrived <+: (link side.other).session.tx.handed := by
    refine h.invariant (I := fun link : Side → Peer D => ∀ side, (link side).Truthful looked ∧
      (link side).session.rx.arrived <+: (link side.other).session.tx.handed)
      (fun link e hlink he => carried_step hD hlink he.1 he.2)
      fun side => ⟨Peer.truthful_start (handlers side), List.nil_prefix⟩
  have hsession : (link side).session = run (Session.step D) (.fresh (handlers side)) (addressed side events) := by
    rw [show link side = run Peer.step (Peer.start (handlers side)) (addressed side events) from
      run_family Peer.step _ events side]
    exact run_map Peer.session (fun _ _ => rfl) _ _
  obtain ⟨hreceiver, harrived⟩ := hlink side
  have hsender := (hlink side.other).1
  have hdelivers : Delivers D.framing (link side).session.receiveSide := by
    rw [hsession]
    refine delivers_run hsender.allFit (handlers side) (addressed side events) ?_
    rw [← hsession]
    exact harrived.trans hsender.bytes_prefix
  refine ⟨exchanged_of_truthful hsender hreceiver hdelivers harrived, fun hassigns hquiet hserving => ?_⟩
  refine calls_of_quiet hsender hdelivers hquiet ?_
  rw [hsession] at hserving ⊢
  exact Session.handsAll_run hD.orderly (handlers side) hassigns hserving

end Peers

end SmppGateway.Net
