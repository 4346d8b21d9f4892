import SmppGateway.Net.Delivery
import SmppGateway.Pinex.Session
import SmppGateway.Smpp.Session

/-!
# When the receive buffer overflows

`do_receive` asks for 64 KiB behind what is buffered and does not look at the length a header announces,
so `prepare` throws once more than `maxFrame` bytes of one PDU are buffered and it is not complete.

## What is proved

* `noOverflow_run` — in a run of an SMPP or of a pinex session `prepare` does not throw as long as no
  header that one comes to, cutting what has arrived at the announced lengths, announces more than
  `maxFrame + 1` bytes of which more than `maxFrame` have arrived. The loop cuts a header that announces
  less than its own length at that length too, so such headers are cut here as well.
* `exists_overflow` — a stream that begins with such a PDU has chunks that make it throw.
-/

namespace SmppGateway.Net

open Foundation Relation

variable {Id Status Pdu : Type}

/-- Cutting the bytes at the announced lengths, one comes to a PDU that the buffer has no room for and of
which too much is there. A header that announces less than its own length is cut like any other. -/
inductive Framing.Oversized (F : Framing Id Status) : Bytes → Prop where
  /-- It is the first one. -/
  | here {bytes : Bytes} (hlen : F.headerLength ≤ bytes.length) (hbig : maxFrame + 1 < F.announced bytes)
      (hmore : maxFrame < bytes.length) : F.Oversized bytes
  /-- It comes after what the header announces. -/
  | later {bytes : Bytes} (hlen : F.headerLength ≤ bytes.length) (hwhole : F.announced bytes ≤ bytes.length)
      (hrest : F.Oversized (bytes.drop (F.announced bytes))) : F.Oversized bytes

/-- Cutting the bytes at the announced lengths, one comes to what is left of them. -/
inductive Framing.Leads (F : Framing Id Status) : Bytes → Bytes → Prop where
  /-- Nothing is cut off. -/
  | refl (bytes : Bytes) : F.Leads bytes bytes
  /-- What the first header announces is cut off. -/
  | cut {bytes rest : Bytes} (hlen : F.headerLength ≤ bytes.length) (hwhole : F.announced bytes ≤ bytes.length)
      (h : F.Leads (bytes.drop (F.announced bytes)) rest) : F.Leads bytes rest

/-! ### Streams -/

section Streams

variable {F : Framing Id Status} {bytes rest more : Bytes}

theorem length_le_append (bytes more : Bytes) : bytes.length ≤ (bytes ++ more).length := by
  rw [List.length_append]
  exact Nat.le_add_right _ _

theorem Framing.Leads.append (h : F.Leads bytes rest) (more : Bytes) : F.Leads (bytes ++ more) (rest ++ more) := by
  induction h with
  | refl bytes => exact .refl _
  | @cut bytes rest hlen hwhole _ ih =>
    have hsame : F.announced (bytes ++ more) = F.announced bytes := Framing.announced_append hlen
    refine .cut (Nat.le_trans hlen (length_le_append _ _)) ?_ ?_
    · rw [hsame]
      exact Nat.le_trans hwhole (length_le_append _ _)
    · rw [hsame, List.drop_append_of_le_length hwhole]
      exact ih

theorem Framing.Leads.next (h : F.Leads bytes rest) (hlen : F.headerLength ≤ rest.length)
    (hwhole : F.announced rest ≤ rest.length) : F.Leads bytes (rest.drop (F.announced rest)) := by
  induction h with
  | refl bytes => exact .cut hlen hwhole (.refl _)
  | cut hlen' hwhole' _ ih => exact .cut hlen' hwhole' (ih hlen hwhole)

theorem Framing.Leads.oversized (h : F.Leads bytes rest) (hrest : F.Oversized rest) : F.Oversized bytes := by
  induction h with
  | refl bytes => exact hrest
  | cut hlen hwhole _ ih => exact .later hlen hwhole (ih hrest)

theorem Framing.Oversized.append (h : F.Oversized bytes) (more : Bytes) : F.Oversized (bytes ++ more) := by
  induction h with
  | here hlen hbig hmore =>
    refine .here (Nat.le_trans hlen (length_le_append _ _)) ?_ (Nat.lt_of_lt_of_le hmore (length_le_append _ _))
    rwa [Framing.announced_append hlen]
  | later hlen hwhole _ ih =>
    refine .later (Nat.le_trans hlen (length_le_append _ _)) ?_ ?_
    · rw [Framing.announced_append hlen]
      exact Nat.le_trans hwhole (length_le_append _ _)
    · rw [Framing.announced_append hlen, List.drop_append_of_le_length hwhole]
      exact ih

end Streams

/-! ### The receive steps -/

section Steps

variable {F : Framing Id Status} {r r' : ReceiveSide Id Status}

/-- **The receiving side** of a session, of whatever arrives: what is behind what was consumed is what the
announced lengths lead to, or a body that is not there was read. -/
def Bounded (F : Framing Id Status) (r : ReceiveSide Id Status) : Prop :=
  r.fault = some .outOfBounds ∨
    (F.Leads r.rx.arrived r.behind ∧ Standing F r.rx r.loops ∧ r.fault = none)

/-- **A receive step does not overflow** a buffer in which no PDU is too large. -/
theorem bounded_step (hshort : F.headerLength ≤ maxFrame) (h : ReceiveStep F r r')
    (hfit : ¬ F.Oversized r.rx.arrived) (hr : Bounded F r) : Bounded F r' := by
  rcases hr with hstopped | ⟨hleads, hstanding, hfault⟩
  · exact .inl (h.fault_eq hstopped)
  rcases fault_step h hstanding hfault with hrunning | ⟨hstops, -⟩ | ⟨hpart, hmore⟩
  · refine .inr ⟨?_, standing_step h hstanding hrunning, hrunning⟩
    cases advance_step h hstanding with
    | stays hbehind harrived => rwa [hbehind, harrived]
    | cuts hturn hcontents hbehind harrived =>
      obtain ⟨-, hlen, hwhole, -⟩ := Framing.turn_some hturn
      rw [← FlatBuffer.length_contents, ← hcontents] at hlen hwhole
      rw [hbehind, harrived]
      exact hleads.next hlen hwhole
    | grows hbehind harrived =>
      rw [hbehind, harrived]
      exact hleads.append _
  · exact .inl hstops
  · have hheader : F.headerLength ≤ r.behind.length := by omega
    refine absurd (hleads.oversized (.here hheader ?_ hmore)) hfit
    rcases hpart with hpart | hpart <;> omega

theorem bounded_steps (hshort : F.headerLength ≤ maxFrame) (h : ReflTransGen (ReceiveStep F) r r')
    (hfit : ¬ F.Oversized r'.rx.arrived) (hr : Bounded F r) : Bounded F r' := by
  induction h with
  | refl => exact hr
  | tail _ hstep ih =>
    have hprev : ¬ F.Oversized _ := fun hover => by
      obtain ⟨more, hmore⟩ := hstep.arrived_prefix
      exact hfit (hmore ▸ hover.append more)
    exact bounded_step hshort hstep hprev (ih hprev)

theorem Bounded.fault (hr : Bounded F r) : r.fault ≠ some FlatBuffer.overflow := by
  rcases hr with hr | ⟨-, -, hr⟩
  · rw [hr]
    exact fun h => nomatch h
  · rw [hr]
    exact fun h => nomatch h

end Steps

/-! ### Runs -/

section Runs

variable {D : Dialect Id Status Pdu}

theorem bounded_fresh (handlers : Handler → Bool) :
    Bounded D.framing (Session.fresh handlers : Session Id Status Pdu).receiveSide :=
  .inr ⟨.refl [], (delivers_fresh handlers).standing, rfl⟩

/-- No run overflows the buffer while no PDU that has arrived is too large. -/
theorem bounded_run (hshort : D.framing.headerLength ≤ maxFrame) (handlers : Handler → Bool)
    (events : List (Event D))
    (hfit : ¬ D.framing.Oversized (run (Session.step D) (.fresh handlers) events).rx.arrived) :
    Bounded D.framing (run (Session.step D) (.fresh handlers) events).receiveSide := by
  refine invariant_of_end (I := fun s : Session Id Status Pdu => Bounded D.framing s.receiveSide)
    (B := fun s => ¬ D.framing.Oversized s.rx.arrived) (fun s e h hover => ?_) (fun s e hs h => ?_)
    (bounded_fresh handlers) hfit
  · obtain ⟨more, hmore⟩ := arrived_prefix_steps (Session.receiveSide_step s e)
    have harrived : s.rx.arrived ++ more = (Session.step D s e).rx.arrived := hmore
    exact h (harrived ▸ hover.append more)
  · exact bounded_steps hshort (Session.receiveSide_step s e) h hs

/-- **The receive buffer does not overflow**, in any run of an SMPP session or of a pinex session in which no
PDU that has arrived is too large. -/
theorem noOverflow_run (handlers : Handler → Bool) :
    (∀ events : List (Event Smpp.dialect),
      let s := run (Session.step Smpp.dialect) (.fresh handlers) events
      ¬ Smpp.framing.Oversized s.rx.arrived → s.fault ≠ some FlatBuffer.overflow) ∧
    (∀ events : List (Event Pinex.dialect),
      let s := run (Session.step Pinex.dialect) (.fresh handlers) events
      ¬ Pinex.framing.Oversized s.rx.arrived → s.fault ≠ some FlatBuffer.overflow) :=
  ⟨fun events hfit => (bounded_run (D := Smpp.dialect) (by decide) handlers events hfit).fault,
    fun events hfit => (bounded_run (D := Pinex.dialect) (by decide) handlers events hfit).fault⟩

theorem Framing.not_oversized_of_length_le {F : Framing Id Status} {bytes : Bytes}
    (h : bytes.length ≤ maxFrame) : ¬ F.Oversized bytes := by
  intro hover
  induction hover with
  | here hlen hbig hmore => omega
  | later hlen hwhole _ ih =>
    refine ih (Nat.le_trans ?_ h)
    rw [List.length_drop]
    exact Nat.sub_le _ _

/-- An `enquire_link` that announces a byte less than its header, and the byte that is left of it. -/
def shortEnquireLink : List (Event Smpp.dialect) :=
  [.call .start, .internal,
    .received (Smpp.serializeHeader 15 Smpp.CommandId.enquireLink 1 Smpp.CommandStatus.rok),
    .internal, .internal, .internal, .internal, .internal]

theorem noOverflow_run_shortEnquireLink :
    (run (Session.step Smpp.dialect) (.fresh fun _ => true) shortEnquireLink).fault ≠
      some FlatBuffer.overflow :=
  (noOverflow_run fun _ => true).1 shortEnquireLink (Framing.not_oversized_of_length_le (by decide))

end Runs

/-! ### Streams that overflow it -/

section Overflows

variable {D : Dialect Id Status Pdu} {s : Session Id Status Pdu} {bytes data : Bytes}

/-- A session that has no function active, has not consumed anything of what has arrived, and waits for
more. -/
structure Ready (s : Session Id Status Pdu) (bytes : Bytes) : Prop where
  tasks : s.tasks = []
  fault : s.fault = none
  receiving : s.rx.receiving_state_ = .receiving
  receives : s.rx.receives = [⟨s.rx.receive_buf_.out_, 64 * 1024⟩]
  last : s.rx.receive_buf_.last_ = s.rx.receive_buf_.out_ + 64 * 1024
  contents : s.rx.receive_buf_.contents = bytes
  arrived : s.rx.arrived = bytes

theorem Framing.turn_of_incomplete {F : Framing Id Status} {buf : ReceiveBuffer}
    (h : F.Incomplete buf.contents) : F.turn .receiving buf = none := by
  cases hturn : F.turn .receiving buf with
  | none => rfl
  | some t =>
    obtain ⟨-, hlen, hwhole, -⟩ := Framing.turn_some hturn
    rw [Framing.Incomplete, FlatBuffer.length_contents] at h
    omega

theorem doReceive_of_incomplete (hreceiving : s.rx.receiving_state_ = .receiving)
    (hpart : D.framing.Incomplete s.rx.receive_buf_.contents) :
    (maxFrame < s.rx.receive_buf_.contents.length →
      Session.doReceive D s = { s with fault := some FlatBuffer.overflow }) ∧
    (s.rx.receive_buf_.contents.length ≤ maxFrame → ∃ buf,
      buf.contents = s.rx.receive_buf_.contents ∧ buf.last_ = buf.out_ + 64 * 1024 ∧
      Session.doReceive D s = { s with rx := { s.rx with
        receive_buf_ := buf
        receives := s.rx.receives ++ [⟨buf.out_, 64 * 1024⟩] } }) := by
  have hturn : D.framing.turn .receiving s.rx.receive_buf_ = none := Framing.turn_of_incomplete hpart
  rw [FlatBuffer.length_contents, maxFrame]
  constructor
  · intro hmore
    have hprepare : s.rx.receive_buf_.prepare (64 * 1024) = .error FlatBuffer.overflow := by
      rw [FlatBuffer.prepare_error_iff]
      omega
    simp [Session.doReceive, hreceiving, hturn, hprepare]
  · intro hroom
    obtain ⟨buf, region, hprepare⟩ :=
      FlatBuffer.exists_prepare (b := s.rx.receive_buf_) (n := 64 * 1024) (by omega)
    obtain ⟨hcontents, rfl, hlast⟩ := FlatBuffer.contents_prepare hprepare
    exact ⟨buf, hcontents, hlast, by simp [Session.doReceive, hreceiving, hturn, hprepare]⟩

theorem ready_started (handlers : Handler → Bool) :
    Ready (run (Session.step D) (.fresh handlers) [.call .start, .internal]) [] := by
  obtain ⟨s, hs⟩ : ∃ s, s = Session.call D (.fresh handlers) .start := ⟨_, rfl⟩
  have hrun : run (Session.step D) (.fresh handlers) [.call .start, .internal] =
      Session.doReceive D { s with tasks := [] } := by rw [hs]; rfl
  have hempty : s.rx = ⟨.receiving, .empty, [], false, [], []⟩ := by rw [hs]; rfl
  have hfault : s.fault = none := by rw [hs]; rfl
  have hpart : D.framing.Incomplete s.rx.receive_buf_.contents := .inl (by
    rw [hempty]
    exact D.framing.headerLength_pos)
  obtain ⟨buf, hcontents, hlast, hstep⟩ := (doReceive_of_incomplete (D := D) (s := { s with tasks := [] })
    (congrArg Receiver.receiving_state_ hempty) hpart).2 (by simp [hempty])
  rw [hrun, hstep]
  simp only [hempty] at hcontents ⊢
  exact ⟨rfl, hfault, rfl, rfl, hlast, hcontents, rfl⟩

/-- Bytes arrive, and the session goes to the end of its loop. -/
theorem Ready.received (hs : Ready s bytes) (hdata : data.length ≤ 64 * 1024)
    (hpart : D.framing.Incomplete (bytes ++ data)) :
    let s' := run (Session.step D) s [.received data, .internal]
    (maxFrame < (bytes ++ data).length →
      s'.fault = some FlatBuffer.overflow ∧ s'.rx.arrived = bytes ++ data) ∧
    ((bytes ++ data).length ≤ maxFrame → Ready s' (bytes ++ data)) := by
  obtain ⟨t, ht⟩ : ∃ t, t = s.received data ⟨s.rx.receive_buf_.out_, 64 * 1024⟩ [] := ⟨_, rfl⟩
  have hfirst : Session.step D s (.received data) = t := by
    simp [Session.step, Session.handle, hs.fault, hs.tasks, hs.receives, hdata, ht]
  have hsecond : Session.step D t .internal = Session.doReceive D { t with tasks := [] } := by
    simp [Session.step, Session.handle, Session.internal, ht, Session.received, hs.fault, hs.tasks]
  have hcontents : t.rx.receive_buf_.contents = bytes ++ data := by
    have hmin : min data.length (s.rx.receive_buf_.last_ - s.rx.receive_buf_.out_) = data.length := by
      rw [hs.last]
      omega
    rw [ht, Session.received]
    simp only
    rw [FlatBuffer.contents_commit _ (Nat.le_of_eq hmin), hmin, List.take_length, hs.contents]
  have harrived : t.rx.arrived = bytes ++ data := by rw [ht, ← hs.arrived]; rfl
  have hreceiving : t.rx.receiving_state_ = .receiving := by rw [ht, ← hs.receiving]; rfl
  have hfault : t.fault = none := by rw [ht, ← hs.fault]; rfl
  have hreceives : t.rx.receives = [] := by rw [ht]; rfl
  obtain ⟨hover, hready⟩ := doReceive_of_incomplete (D := D) (s := { t with tasks := [] }) hreceiving
    (hcontents ▸ hpart)
  simp only [hcontents] at hover hready
  simp only [run_cons, run_nil, hfirst, hsecond]
  constructor
  · intro hmore
    rw [hover hmore]
    exact ⟨rfl, harrived⟩
  · intro hroom
    obtain ⟨buf, hbuf, hlast, hstep⟩ := hready hroom
    rw [hstep]
    exact ⟨rfl, hfault, hreceiving, by simp [hreceives], hlast, hbuf, harrived⟩

/-- The events in which bytes arrive chunk by chunk. -/
def feed (D : Dialect Id Status Pdu) (chunks : List Bytes) : List (Event D) :=
  chunks.flatMap fun data => [.received data, .internal]

/-- The beginning of a PDU that is too large is not a whole one. -/
theorem incomplete_of_prefix {F : Framing Id Status} {stream : Bytes}
    (hbig : maxFrame + 1 < F.announced stream) (h : bytes <+: stream)
    (hle : bytes.length ≤ maxFrame + 1) : F.Incomplete bytes := by
  by_cases hlen : F.headerLength ≤ bytes.length
  · obtain ⟨more, rfl⟩ := h
    rw [Framing.announced_append hlen] at hbig
    exact .inr (by omega)
  · exact .inl (Nat.not_le.mp hlen)

/-- Such a PDU arrives as far as there is room for it. -/
theorem Ready.fed {stream : Bytes} (hbig : maxFrame + 1 < D.framing.announced stream) (hs : Ready s bytes)
    {chunks : List Bytes} (hchunks : ∀ data ∈ chunks, data.length ≤ 64 * 1024)
    (hstream : bytes ++ chunks.flatten <+: stream) (hroom : (bytes ++ chunks.flatten).length ≤ maxFrame) :
    Ready (run (Session.step D) s (feed D chunks)) (bytes ++ chunks.flatten) := by
  induction chunks generalizing s bytes with
  | nil => simpa [feed] using hs
  | cons data chunks ih =>
    obtain ⟨hdata, hrest⟩ := List.forall_mem_cons.mp hchunks
    rw [List.flatten_cons, ← List.append_assoc] at hstream hroom ⊢
    have hfirst : bytes ++ data <+: stream := (List.prefix_append _ _).trans hstream
    have hle : (bytes ++ data).length ≤ maxFrame := by
      rw [List.length_append] at hroom
      omega
    have hpart := incomplete_of_prefix hbig hfirst (Nat.le_succ_of_le hle)
    have hready := (hs.received (D := D) hdata hpart).2 hle
    have hfeed : feed D (data :: chunks) = [.received data, .internal] ++ feed D chunks := rfl
    rw [hfeed, run_append]
    exact ih hready hrest hstream hroom

/-- The first pieces of a stream that is cut into pieces of one size. -/
def pieces (size : ℕ) (stream : Bytes) (count : ℕ) : List Bytes :=
  (List.range count).map fun i => (stream.drop (i * size)).take size

theorem flatten_pieces (size : ℕ) (stream : Bytes) (count : ℕ) :
    (pieces size stream count).flatten = stream.take (count * size) := by
  induction count with
  | zero => simp [pieces]
  | succ count ih =>
    have hsucc : pieces size stream (count + 1) =
        pieces size stream count ++ [(stream.drop (count * size)).take size] := by
      simp [pieces, List.range_succ]
    rw [hsucc, List.flatten_append, ih, List.flatten_singleton, Nat.succ_mul, List.take_add]

/-- **A stream that begins with a PDU that is too large** overflows the buffer of a new session, if it arrives
in pieces of 64 KiB and one byte more. -/
theorem exists_overflow (D : Dialect Id Status Pdu) (handlers : Handler → Bool) {stream : Bytes}
    (hbig : maxFrame + 1 < D.framing.announced stream) (hmore : maxFrame < stream.length) :
    ∃ events, (run (Session.step D) (.fresh handlers) events).rx.arrived <+: stream ∧
      (run (Session.step D) (.fresh handlers) events).fault = some FlatBuffer.overflow := by
  have hlen : (stream.take maxFrame).length = maxFrame := by
    rw [List.length_take, Nat.min_eq_left (Nat.le_of_lt hmore)]
  have hflat : (pieces (64 * 1024) stream 15).flatten = stream.take maxFrame := flatten_pieces _ stream 15
  have hpieces : ∀ data ∈ pieces (64 * 1024) stream 15, data.length ≤ 64 * 1024 := by
    intro data hmem
    obtain ⟨i, -, rfl⟩ := List.mem_map.mp hmem
    exact List.length_take_le _ _
  have hready := (ready_started (D := D) handlers).fed hbig hpieces
    (by rw [hflat]; exact List.take_prefix _ _) (by rw [hflat]; exact Nat.le_of_eq hlen)
  rw [List.nil_append, hflat] at hready
  obtain ⟨last, hlast⟩ : ∃ last, stream.take (maxFrame + 1) = stream.take maxFrame ++ [last] :=
    ⟨stream[maxFrame], (List.take_append_getElem hmore).symm⟩
  have hstream : stream.take maxFrame ++ [last] <+: stream := hlast ▸ List.take_prefix _ _
  have hsize : (stream.take maxFrame ++ [last]).length = maxFrame + 1 := by
    rw [List.length_append, hlen, List.length_singleton]
  have hpart := incomplete_of_prefix hbig hstream (Nat.le_of_eq hsize)
  obtain ⟨hfault, harrived⟩ := (hready.received (D := D) (by simp) hpart).1 (by omega)
  refine ⟨[.call .start, .internal] ++ feed D (pieces (64 * 1024) stream 15) ++
    [.received [last], .internal], ?_, ?_⟩
  · rw [run_append, run_append, harrived]
    exact hstream
  · rw [run_append, run_append]
    exact hfault

/-- A header that announces 1 MiB, and as many zero bytes. -/
def largePdu : Bytes :=
  Smpp.serializeHeader 0x00100000 Smpp.CommandId.enquireLink 0 Smpp.CommandStatus.rok ++
    List.replicate (2 ^ 20) 0

theorem not_noOverflow : ¬ ∀ (handlers : Handler → Bool) (events : List (Event Smpp.dialect)),
    (run (Session.step Smpp.dialect) (.fresh handlers) events).fault ≠ some FlatBuffer.overflow := by
  intro h
  have hannounced : Smpp.dialect.framing.announced largePdu = 0x00100000 := by
    rw [largePdu, Framing.announced_append (Nat.le_refl 16)]
    rfl
  have hbig : maxFrame + 1 < Smpp.dialect.framing.announced largePdu := by
    rw [hannounced]
    decide
  have hmore : maxFrame < largePdu.length := by
    rw [largePdu, List.length_append, List.length_replicate, maxFrame]
    omega
  obtain ⟨events, -, hfault⟩ := exists_overflow Smpp.dialect (fun _ => true) hbig hmore
  exact h _ events hfault

end Overflows

end SmppGateway.Net
