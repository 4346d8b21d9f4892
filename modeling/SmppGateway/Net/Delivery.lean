import SmppGateway.Net.Receiving

/-!
# What arrives is consumed

The peer sends whole frames that the receive buffer has room for, each of the length it announces. Nothing
is asked of how the bytes are split into completions, of when the session is paused and resumed, or of
what the handlers do.

## What is proved

* `delivers_run` — at any time the frames consumed and the bytes buffered behind them are what has
  arrived; while no `do_receive` is active and the session is not paused, the buffer does not hold a whole
  frame, and one `async_receive` is outstanding unless one has failed.
* `Delivers.dispatched_prefix`, `Delivers.dispatched_eq` — hence the PDUs are those of the frames, in
  order, and all of them when every byte has arrived.
-/

namespace SmppGateway.Net

open Foundation Relation

variable {Id Status Pdu : Type}

/-- The PDU in a frame. -/
def Framing.pduOf (F : Framing Id Status) (frame : Bytes) : Header Id Status × Bytes :=
  (F.deserializeHeader (frame.take F.headerLength), frame.drop F.headerLength)

/-- The largest frame that leaves room for 64 KiB more. -/
def maxFrame : ℕ := 2 ^ 20 - 2 ^ 16

/-- Whole frames that fit. -/
def Framing.AllFit (F : Framing Id Status) (frames : List Bytes) : Prop :=
  ∀ frame ∈ frames, F.IsFrame frame ∧ frame.length ≤ maxFrame

/-- The frames that were consumed and the bytes behind them are what has arrived. -/
def Cut (F : Framing Id Status) (rx : Receiver Id Status) (behind : Bytes) : Prop :=
  ∃ consumed : List Bytes, (∀ frame ∈ consumed, F.IsFrame frame) ∧
    rx.dispatched = consumed.map F.pduOf ∧ consumed.flatten ++ behind = rx.arrived

/-- No `do_receive` is active: either one `async_receive` is outstanding, into the region behind the
contents, or the session is paused or has failed to receive. -/
def Waiting (rx : Receiver Id Status) : Prop :=
  (rx.receives = [⟨rx.receive_buf_.out_, 64 * 1024⟩] ∧
    rx.receive_buf_.last_ = rx.receive_buf_.out_ + 64 * 1024 ∧ rx.receiving_state_ ≠ .paused) ∨
  (rx.receives = [] ∧ (rx.receiving_state_ = .paused ∨ rx.failed = true))

/-- The receiver of a session, by what is active. -/
def Standing (F : Framing Id Status) (rx : Receiver Id Status) : List (Option ℕ) → Prop
  | [] => Waiting rx ∧ (rx.receiving_state_ ≠ .paused → F.Incomplete rx.receive_buf_.contents)
  | [_] => rx.receives = [] ∧ rx.receiving_state_ ≠ .paused
  | _ => False

/-- The bytes behind what was consumed; a PDU that is being consumed is still in the buffer. -/
def ReceiveSide.behind (r : ReceiveSide Id Status) : Bytes :=
  match r.loops with
  | some commandLength :: _ => r.rx.receive_buf_.contents.drop commandLength
  | _ => r.rx.receive_buf_.contents

/-- **The receiving side** of a session that loses nothing. -/
structure Delivers (F : Framing Id Status) (r : ReceiveSide Id Status) : Prop where
  cut : Cut F r.rx r.behind
  standing : Standing F r.rx r.loops
  fault : r.fault = none

/-! ### What is next in the buffer -/

section Ahead

variable {F : Framing Id Status} {rx : Receiver Id Status} {behind : Bytes} {frames : List Bytes}

/-- The bytes behind the consumed frames begin the frames that are still to come. -/
theorem Cut.ahead (hcut : Cut F rx behind) (hframes : F.AllFit frames) (harrived : rx.arrived <+: frames.flatten) :
    ∃ more, F.AllFit more ∧ behind <+: more.flatten := by
  obtain ⟨consumed, hconsumed, -, hflat⟩ := hcut
  obtain ⟨t, ht⟩ := harrived
  rw [← hflat, List.append_assoc] at ht
  obtain ⟨more, rfl, hmore⟩ :=
    F.isPrefixCode.eq_append_of_flatten hconsumed (fun frame h => (hframes frame h).1) ht
  exact ⟨more, fun frame h => hframes frame (List.mem_append_right _ h), ⟨t, hmore⟩⟩

theorem Cut.announced (hcut : Cut F rx behind) (hframes : F.AllFit frames)
    (harrived : rx.arrived <+: frames.flatten) (hlen : F.headerLength ≤ behind.length) :
    F.headerLength ≤ F.announced behind ∧ F.announced behind ≤ maxFrame ∧
      (F.announced behind ≤ behind.length → F.IsFrame (behind.take (F.announced behind))) := by
  obtain ⟨more, hmore, t, ht⟩ := hcut.ahead hframes harrived
  cases more with
  | nil =>
    have hnil : behind = [] := (List.append_eq_nil_iff.mp ht).1
    rw [hnil] at hlen
    exact absurd F.headerLength_pos (Nat.not_lt.mpr hlen)
  | cons frame more =>
    obtain ⟨hframe, hfit⟩ := hmore frame List.mem_cons_self
    rw [List.flatten_cons] at ht
    have hfront : F.announced (behind ++ t) = F.announced behind := Framing.announced_append hlen
    have hsame : F.announced behind = frame.length := by
      rw [← hfront, ht, Framing.announced_append hframe.1, hframe.2]
    refine ⟨hsame ▸ hframe.1, hsame ▸ hfit, ?_⟩
    intro hwhole
    rw [hsame] at hwhole ⊢
    have htake : (behind ++ t).take frame.length = behind.take frame.length :=
      List.take_append_of_le_length hwhole
    rwa [← htake, ht, List.take_left]

theorem Cut.length_le (hcut : Cut F rx behind) (hframes : F.AllFit frames)
    (harrived : rx.arrived <+: frames.flatten) (hpart : F.Incomplete behind) : behind.length ≤ maxFrame := by
  by_cases hlen : F.headerLength ≤ behind.length
  · obtain ⟨-, hfit, -⟩ := hcut.announced hframes harrived hlen
    rcases hpart with hpart | hpart <;> omega
  · obtain ⟨more, hmore, t, ht⟩ := hcut.ahead hframes harrived
    cases more with
    | nil => simp [(List.append_eq_nil_iff.mp ht).1]
    | cons frame more =>
      obtain ⟨hframe, hfit⟩ := hmore frame List.mem_cons_self
      have := hframe.1
      omega

theorem Cut.dispatch (hcut : Cut F rx behind) {n : ℕ} (hframe : F.IsFrame (behind.take n)) :
    Cut F { rx with dispatched := rx.dispatched ++ [F.pduOf (behind.take n)] } (behind.drop n) := by
  obtain ⟨consumed, hconsumed, hdispatched, hflat⟩ := hcut
  refine ⟨consumed ++ [behind.take n], ?_, by simp [hdispatched], by simpa using hflat⟩
  simpa [or_imp, forall_and] using ⟨hconsumed, hframe⟩

end Ahead

/-! ### The receive steps -/

section Steps

variable {F : Framing Id Status} {r r' : ReceiveSide Id Status} {frames : List Bytes}

/-- What a turn of the loop hands over is the frame at the front of the buffer. -/
theorem turn_pduOf {receivingState : ReceivingState} {buf : ReceiveBuffer} {t : Turn Id Status}
    (hturn : F.turn receivingState buf = some t) (hannounced : F.headerLength ≤ F.announced buf.contents) :
    (t.header, span buf.buf_ t.first t.last) = F.pduOf (buf.contents.take (F.announced buf.contents)) := by
  obtain ⟨-, -, hwhole, rfl⟩ := Framing.turn_some hturn
  rw [Framing.pduOf, List.take_take, Nat.min_eq_left hannounced]
  exact congrArg _ (buf.span_begin hwhole)

theorem behind_of_loops (h : ∀ commandLength ∈ r.loops, commandLength = none) :
    r.behind = r.rx.receive_buf_.contents := by
  unfold ReceiveSide.behind
  split
  · rename_i hloops
    exact absurd (h _ (hloops ▸ List.mem_cons_self)) (by simp)
  · rfl

theorem behind_of_nil (hloops : r.loops = []) : r.behind = r.rx.receive_buf_.contents :=
  behind_of_loops (by simp [hloops])

theorem behind_of_none (hloops : r.loops = [none]) : r.behind = r.rx.receive_buf_.contents :=
  behind_of_loops (by simp [hloops])

theorem standing_loop {loops : List (Option ℕ)} (hr : Standing F r.rx r.loops) (hloops : r.loops = none :: loops) :
    loops = [] ∧ r.rx.receives = [] ∧ r.rx.receiving_state_ ≠ .paused ∧ r.behind = r.rx.receive_buf_.contents := by
  rw [hloops] at hr
  match loops, hr with
  | [], ⟨hnone, hstate⟩ => exact ⟨rfl, hnone, hstate, behind_of_none hloops⟩

/-- When the loop ends and the session receives on, the buffer does not hold a whole frame. -/
theorem incomplete_of_turn {rx : Receiver Id Status} (hturn : F.turn rx.receiving_state_ rx.receive_buf_ = none)
    (hpending : rx.receiving_state_ ≠ .pendingPause) (hpaused : rx.receiving_state_ ≠ .paused) :
    F.Incomplete rx.receive_buf_.contents := by
  refine (Framing.turn_none hturn).resolve_left fun hnot => ?_
  cases hreceiving : rx.receiving_state_ with
  | receiving => exact hnot hreceiving
  | pendingPause => exact hpending hreceiving
  | paused => exact hpaused hreceiving

theorem standing_state {rx : Receiver Id Status} {loops : List (Option ℕ)} {receivingState : ReceivingState}
    (hr : Standing F rx loops) (hold : rx.receiving_state_ ≠ .paused) (hnew : receivingState ≠ .paused) :
    Standing F { rx with receiving_state_ := receivingState } loops := by
  match loops, hr with
  | [], ⟨hwaiting, hpart⟩ =>
    refine ⟨?_, fun _ => hpart hold⟩
    rcases hwaiting with ⟨hone, hlast, -⟩ | ⟨hnone, hpaused | hfailed⟩
    · exact .inl ⟨hone, hlast, hnew⟩
    · exact absurd hpaused hold
    · exact .inr ⟨hnone, .inr hfailed⟩
  | [_], ⟨hnone, _⟩ => exact ⟨hnone, hnew⟩

theorem standing_paused {rx : Receiver Id Status} {loops : List (Option ℕ)} (hr : Standing F rx loops)
    (hstate : rx.receiving_state_ = .paused) : loops = [] ∧ rx.receives = [] := by
  match loops, hr with
  | [], ⟨.inl ⟨_, _, hnot⟩, _⟩ => exact absurd hstate hnot
  | [], ⟨.inr ⟨hnone, _⟩, _⟩ => exact ⟨rfl, hnone⟩
  | [_], ⟨_, hnot⟩ => exact absurd hstate hnot

/-- A receive step leaves the receiver standing, unless it stops the session. -/
theorem standing_step (h : ReceiveStep F r r') (hr : Standing F r.rx r.loops) (hfault : r'.fault = none) :
    Standing F r'.rx r'.loops := by
  cases h with
  | pause hstate => exact standing_state hr (by simp [hstate]) (by simp)
  | resume hstate => exact standing_state hr hstate (by simp)
  | restart hstate =>
    obtain ⟨hloops, hnone⟩ := standing_paused hr hstate
    rw [hloops]
    exact ⟨hnone, by simp⟩
  | dispatch hloops hturn =>
    obtain ⟨rfl, hnone, hstate, -⟩ := standing_loop hr hloops
    exact ⟨hnone, hstate⟩
  | overrun _ hloops hturn hspan => cases hfault
  | stop hloops hstate =>
    obtain ⟨rfl, hnone, -⟩ := standing_loop hr hloops
    exact ⟨.inr ⟨hnone, .inl rfl⟩, fun h => absurd rfl h⟩
  | prepare hloops hturn hstate hprepare =>
    obtain ⟨rfl, hnone, hpaused, -⟩ := standing_loop hr hloops
    obtain ⟨hcontents, rfl, hlast⟩ := FlatBuffer.contents_prepare hprepare
    refine ⟨.inl ⟨by rw [hnone]; rfl, hlast, hpaused⟩, fun _ => ?_⟩
    rw [hcontents]
    exact incomplete_of_turn hturn hstate hpaused
  | overflow _ hloops hturn hstate hprepare => cases hfault
  | @consume loops commandLength hloops =>
    rw [hloops] at hr
    match loops, hr with
    | [], ⟨hnone, hstate⟩ => exact ⟨hnone, hstate⟩
  | received hloops hreceives hdata =>
    rw [hloops] at hr
    rcases hr.1 with ⟨hone, -, hpaused⟩ | ⟨hnone, -⟩
    · rw [hone] at hreceives
      cases hreceives
      exact ⟨rfl, hpaused⟩
    · rw [hnone] at hreceives
      cases hreceives
  | failed hloops hreceives =>
    rw [hloops] at hr ⊢
    obtain ⟨hwaiting, hpart⟩ := hr
    refine ⟨?_, hpart⟩
    rcases hwaiting with ⟨hone, -⟩ | ⟨hnone, -⟩
    · rw [hone] at hreceives
      cases hreceives
      exact .inr ⟨rfl, .inr rfl⟩
    · rw [hnone] at hreceives
      cases hreceives

/-- What a receive step does to the bytes behind: nothing, or a PDU is cut off, or bytes arrive. -/
inductive Advance (F : Framing Id Status) (r r' : ReceiveSide Id Status) : Prop where
  /-- Nothing. -/
  | stays (hbehind : r'.behind = r.behind) (harrived : r'.rx.arrived = r.rx.arrived)
      (hdispatched : r'.rx.dispatched = r.rx.dispatched)
  /-- A PDU is cut off. -/
  | cuts {t : Turn Id Status} (hturn : F.turn r.rx.receiving_state_ r.rx.receive_buf_ = some t)
      (hcontents : r.behind = r.rx.receive_buf_.contents) (hbehind : r'.behind = r.behind.drop (F.announced r.behind))
      (harrived : r'.rx.arrived = r.rx.arrived)
      (hdispatched : r'.rx.dispatched =
        r.rx.dispatched ++ [(t.header, span r.rx.receive_buf_.buf_ t.first t.last)])
  /-- Bytes arrive. -/
  | grows {data : Bytes} (hbehind : r'.behind = r.behind ++ data) (harrived : r'.rx.arrived = r.rx.arrived ++ data)
      (hdispatched : r'.rx.dispatched = r.rx.dispatched)

theorem advance_step (h : ReceiveStep F r r') (hr : Standing F r.rx r.loops) : Advance F r r' := by
  cases h with
  | pause hstate => exact .stays rfl rfl rfl
  | resume hstate => exact .stays rfl rfl rfl
  | restart hstate => exact .stays (behind_of_nil (standing_paused hr hstate).1).symm rfl rfl
  | dispatch hloops hturn =>
    obtain ⟨-, -, -, hbehind⟩ := standing_loop hr hloops
    obtain ⟨-, -, -, ht⟩ := Framing.turn_some hturn
    refine .cuts hturn hbehind ?_ rfl rfl
    rw [hbehind, ht]
    rfl
  | overrun _ hloops hturn hspan =>
    obtain ⟨rfl, -, -, hbehind⟩ := standing_loop hr hloops
    exact .stays hbehind.symm rfl rfl
  | stop hloops hstate =>
    obtain ⟨rfl, -, -, hbehind⟩ := standing_loop hr hloops
    exact .stays hbehind.symm rfl rfl
  | prepare hloops hturn hstate hprepare =>
    obtain ⟨rfl, -, -, hbehind⟩ := standing_loop hr hloops
    exact .stays ((FlatBuffer.contents_prepare hprepare).1.trans hbehind.symm) rfl rfl
  | overflow _ hloops hturn hstate hprepare =>
    obtain ⟨rfl, -, -, hbehind⟩ := standing_loop hr hloops
    exact .stays hbehind.symm rfl rfl
  | consume hloops =>
    refine .stays ?_ rfl rfl
    rw [ReceiveSide.behind, ReceiveSide.behind, hloops]
    exact FlatBuffer.contents_consume _ _
  | @received data region receives hloops hreceives hdata =>
    have hbehind := behind_of_nil hloops
    rw [hloops] at hr
    rcases hr.1 with ⟨hone, hlast, -⟩ | ⟨hnone, -⟩
    · rw [hone] at hreceives
      cases hreceives
      have hmin : min data.length (r.rx.receive_buf_.last_ - r.rx.receive_buf_.out_) = data.length := by
        simp only at hdata
        omega
      have hcontents := r.rx.receive_buf_.contents_commit (Nat.le_of_eq hmin)
      rw [hmin, List.take_length, ← hbehind] at hcontents
      exact .grows hcontents rfl rfl
    · rw [hnone] at hreceives
      cases hreceives
  | failed hloops hreceives => exact .stays rfl rfl rfl

/-- **What stops a session**: a body that is read from a span that ends before it begins, or too much of
an incomplete PDU in the buffer. -/
theorem fault_step (h : ReceiveStep F r r') (hr : Standing F r.rx r.loops) (hfault : r.fault = none) :
    r'.fault = none ∨
    (r'.fault = some .outOfBounds ∧ F.headerLength ≤ r.behind.length ∧ F.announced r.behind < F.headerLength) ∨
    (F.Incomplete r.behind ∧ maxFrame < r.behind.length) := by
  cases h
  case overrun t _ hloops hturn hspan =>
    obtain ⟨-, -, -, hbehind⟩ := standing_loop hr hloops
    obtain ⟨-, hlen, -, rfl⟩ := Framing.turn_some hturn
    rw [hbehind, FlatBuffer.length_contents]
    simp only at hspan
    exact .inr (.inl ⟨rfl, hlen, by omega⟩)
  case overflow _ hloops hturn hstate hprepare =>
    obtain ⟨-, -, hpaused, hbehind⟩ := standing_loop hr hloops
    rw [hbehind]
    refine .inr (.inr ⟨incomplete_of_turn hturn hstate hpaused, ?_⟩)
    by_contra hsize
    rw [FlatBuffer.length_contents, maxFrame] at hsize
    obtain ⟨_, _, hok⟩ := FlatBuffer.exists_prepare (b := r.rx.receive_buf_) (n := 64 * 1024) (by omega)
    rw [hok] at hprepare
    cases hprepare
  all_goals exact .inl hfault

/-- **A receive step loses nothing** of frames that fit. -/
theorem delivers_step (hframes : F.AllFit frames) (h : ReceiveStep F r r')
    (harrived : r.rx.arrived <+: frames.flatten) (hr : Delivers F r) : Delivers F r' := by
  obtain ⟨hcut, hstanding, hfault⟩ := hr
  have hrunning : r'.fault = none := by
    rcases fault_step h hstanding hfault with hnone | ⟨-, hlen, hshort⟩ | ⟨hpart, hmore⟩
    · exact hnone
    · obtain ⟨hannounced, -⟩ := hcut.announced hframes harrived hlen
      omega
    · have hsize := hcut.length_le hframes harrived hpart
      omega
  refine ⟨?_, standing_step h hstanding hrunning, hrunning⟩
  cases advance_step h hstanding with
  | stays hbehind hsame hdispatched => rwa [Cut, hbehind, hsame, hdispatched]
  | cuts hturn hcontents hbehind hsame hdispatched =>
    obtain ⟨-, hlen, hwhole, -⟩ := Framing.turn_some hturn
    rw [← FlatBuffer.length_contents, ← hcontents] at hlen
    obtain ⟨hannounced, -, hframe⟩ := hcut.announced hframes harrived hlen
    rw [hcontents] at hannounced
    rw [turn_pduOf hturn hannounced, ← hcontents] at hdispatched
    rw [← FlatBuffer.length_contents, ← hcontents] at hwhole
    rw [Cut, hbehind, hsame, hdispatched]
    exact hcut.dispatch (hframe hwhole)
  | grows hbehind hmore hdispatched =>
    obtain ⟨consumed, hconsumed, hpdus, hflat⟩ := hcut
    rw [Cut, hbehind, hmore, hdispatched]
    exact ⟨consumed, hconsumed, hpdus, by rw [← List.append_assoc, hflat]⟩

theorem delivers_steps (hframes : F.AllFit frames) (h : ReflTransGen (ReceiveStep F) r r')
    (harrived : r'.rx.arrived <+: frames.flatten) (hr : Delivers F r) : Delivers F r' := by
  induction h with
  | refl => exact hr
  | tail _ hstep ih =>
    have hprev := hstep.arrived_prefix.trans harrived
    exact delivers_step hframes hstep hprev (ih hprev)

theorem arrived_prefix_steps (h : ReflTransGen (ReceiveStep F) r r') : r.rx.arrived <+: r'.rx.arrived := by
  induction h with
  | refl => exact List.prefix_refl _
  | tail _ hstep ih => exact ih.trans hstep.arrived_prefix

end Steps

/-! ### Runs -/

section Runs

variable {D : Dialect Id Status Pdu} {frames : List Bytes} {s : Session Id Status Pdu}

theorem delivers_fresh (handlers : Handler → Bool) :
    Delivers D.framing (Session.fresh handlers : Session Id Status Pdu).receiveSide :=
  ⟨⟨[], by simp, rfl, rfl⟩, ⟨.inr ⟨rfl, .inl rfl⟩, fun h => absurd rfl h⟩, rfl⟩

/-- **Nothing is lost in a run** in which what arrives is the beginning of the frames. -/
theorem delivers_run (hframes : D.framing.AllFit frames) (handlers : Handler → Bool) (events : List (Event D))
    (harrived : (run (Session.step D) (.fresh handlers) events).rx.arrived <+: frames.flatten) :
    Delivers D.framing (run (Session.step D) (.fresh handlers) events).receiveSide := by
  refine invariant_of_end (I := fun s : Session Id Status Pdu => Delivers D.framing s.receiveSide)
    (B := fun s => s.rx.arrived <+: frames.flatten) (fun s e h => ?_) (fun s e hs h => ?_)
    (delivers_fresh handlers) harrived
  · exact (arrived_prefix_steps (Session.receiveSide_step s e)).trans h
  · exact delivers_steps hframes (Session.receiveSide_step s e) h hs

theorem Delivers.dispatched_prefix (hframes : D.framing.AllFit frames) (hs : Delivers D.framing s.receiveSide)
    (harrived : s.rx.arrived <+: frames.flatten) : s.rx.dispatched <+: frames.map D.framing.pduOf := by
  obtain ⟨consumed, hconsumed, hdispatched, hflat⟩ := hs.cut
  have hdispatched : s.rx.dispatched = consumed.map D.framing.pduOf := hdispatched
  rw [hdispatched]
  refine List.IsPrefix.map D.framing.pduOf ?_
  refine D.framing.isPrefixCode.prefix_of_flatten hconsumed (fun frame h => (hframes frame h).1) ?_
  exact List.IsPrefix.trans ⟨s.receiveSide.behind, hflat⟩ harrived

theorem Delivers.standing_idle (hs : Delivers D.framing s.receiveSide) (htasks : s.tasks = []) :
    s.receiveSide.behind = s.rx.receive_buf_.contents ∧ Waiting s.rx ∧
      (s.rx.receiving_state_ ≠ .paused → D.framing.Incomplete s.rx.receive_buf_.contents) := by
  have hloops : s.receiveSide.loops = [] := by
    rw [Session.receiveSide, htasks]
    rfl
  have hstanding := hs.standing
  rw [hloops] at hstanding
  exact ⟨behind_of_nil hloops, hstanding⟩

/-- When every byte has arrived, no function is active and the session is not paused, they are those of
all the frames. -/
theorem Delivers.dispatched_eq (hframes : D.framing.AllFit frames) (hs : Delivers D.framing s.receiveSide)
    (harrived : s.rx.arrived = frames.flatten) (htasks : s.tasks = [])
    (hstate : s.rx.receiving_state_ ≠ .paused) : s.rx.dispatched = frames.map D.framing.pduOf := by
  obtain ⟨hbehind, -, hpart⟩ := hs.standing_idle htasks
  obtain ⟨consumed, hconsumed, hdispatched, hflat⟩ := hs.cut
  rw [hbehind] at hflat
  obtain ⟨more, rfl, hmore⟩ :=
    D.framing.isPrefixCode.eq_append_of_flatten hconsumed (fun frame h => (hframes frame h).1)
      (hflat.trans harrived)
  cases more with
  | nil => rw [List.append_nil]; exact hdispatched
  | cons frame more =>
    have hframe := (hframes frame (by simp)).1
    refine absurd (hpart hstate) ?_
    rw [hmore, List.flatten_cons]
    exact Framing.not_incomplete_of_frame hframe

theorem Delivers.receives_le (hs : Delivers D.framing s.receiveSide) : s.rx.receives.length ≤ 1 := by
  have hstanding := hs.standing
  match s.receiveSide.loops, hstanding with
  | [], ⟨.inl ⟨hone, _⟩, _⟩ => exact hone ▸ Nat.le_refl 1
  | [], ⟨.inr ⟨hnone, _⟩, _⟩ => exact hnone ▸ Nat.zero_le 1
  | [_], ⟨hnone, _⟩ => exact hnone ▸ Nat.zero_le 1

/-- While no function is active, one is, unless the session is paused or has failed to receive. -/
theorem Delivers.receives_eq (hs : Delivers D.framing s.receiveSide) (htasks : s.tasks = [])
    (hstate : s.rx.receiving_state_ ≠ .paused) (hfailed : s.rx.failed = false) :
    s.rx.receives.length = 1 := by
  obtain ⟨-, hwaiting, -⟩ := hs.standing_idle htasks
  rcases hwaiting with ⟨hone, -⟩ | ⟨-, hpaused | hfailed'⟩
  · exact congrArg List.length hone
  · exact absurd hpaused hstate
  · rw [hfailed'] at hfailed
    cases hfailed

end Runs

end SmppGateway.Net
