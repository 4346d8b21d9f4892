import SmppGateway.Logging.SegmentedLogger

/-!
# The loggers at the end

`sgw_logger` holds four loggers and closes their files when the gateway stops; a logger that is destroyed closes
its file as well. Closing a file does not write the buffer.

## The model

A logger is made, takes records, and is closed or destroyed. `sgw_logger::close` reads the steady clock for each
of its loggers.

## What is proved

* `records_record_eq_nil_iff` — when a record leaves the buffer empty.
* `flushed_iff` — every accepted record is in a file at the end exactly if the last one left the buffer empty.
* `lost_lt_run` — the records that are lost are the last ones, fewer than the size of the buffer; without a
  buffer none is lost.
-/

namespace SmppGateway.Logging

open Foundation

namespace SegmentedLogger

/-! ### The end of a logger -/

/-- `~segmented_logger`. -/
def destroy (s : SegmentedLogger) (now : ℤ) : SegmentedLogger := s.closeFile now

/-- A call of `record`. -/
def recordCall (s : SegmentedLogger) (call : Bytes × Readings) : SegmentedLogger := s.record call.1 call.2

end SegmentedLogger

/-- The loggers of an `sgw_logger`. -/
inductive LoggerName where
  | reject
  | ao
  | at
  | dr
  deriving DecidableEq, Repr

/-- `sgw_logger`. -/
structure SgwLogger where
  reject_logger_ : Option SegmentedLogger
  ao_logger_ : Option SegmentedLogger
  at_logger_ : Option SegmentedLogger
  dr_logger_ : Option SegmentedLogger
  deriving DecidableEq, Repr

namespace SgwLogger

/-- A logger by its name. -/
def get (g : SgwLogger) : LoggerName → Option SegmentedLogger
  | .reject => g.reject_logger_
  | .ao => g.ao_logger_
  | .at => g.at_logger_
  | .dr => g.dr_logger_

/-- `sgw_logger::close`. -/
def close (g : SgwLogger) (now : LoggerName → ℤ) : SgwLogger where
  reject_logger_ := g.reject_logger_.map fun s => s.closeFile (now .reject)
  ao_logger_ := g.ao_logger_.map fun s => s.closeFile (now .ao)
  at_logger_ := g.at_logger_.map fun s => s.closeFile (now .at)
  dr_logger_ := g.dr_logger_.map fun s => s.closeFile (now .dr)

theorem get_close (g : SgwLogger) (now : LoggerName → ℤ) (name : LoggerName) :
    (g.close now).get name = (g.get name).map fun s => s.closeFile (now name) := by
  cases name <;> rfl

end SgwLogger

namespace SegmentedLogger

variable {s : SegmentedLogger} {log : Bytes} {clock : Readings}

/-! ### What a record leaves in the buffer -/

/-- The next record leaves nothing in the buffer: all that waits goes into the file with it, and the buffer is
full or the file is due. -/
def Flushes (s : SegmentedLogger) (clock : Readings) : Prop :=
  s.records_.length + 1 ≤ s.room ∧ (s.buffer_size_.toNat ≤ s.records_.length + 1 ∨ s.isDue clock)

instance (s : SegmentedLogger) (clock : Readings) : Decidable (s.Flushes clock) := by
  unfold Flushes
  infer_instance

/-- A check for a flush writes a full buffer, and once more if the file is due. -/
theorem records_checkForFlush : (s.checkForFlush clock).records_ =
    if (s.writeFullBuffer clock.openDay).isDue clock then
      (s.writeFullBuffer clock.openDay).records_.drop (s.writeFullBuffer clock.openDay).room
    else (s.writeFullBuffer clock.openDay).records_ := by
  simp only [checkForFlush]
  split
  · simp [rotate]
  · rfl

/-- After a full buffer was written, what waits does not fit into the file. -/
theorem Filled.drop_room_writeBufferToFile (h : s.Filled) (day : ℤ) :
    (s.writeBufferToFile day).records_.drop (s.writeBufferToFile day).room =
      (s.writeBufferToFile day).records_ := by
  have hroom := h.room_eq
  have hroom' := (h.writeBufferToFile day).room_eq
  rw [toLoggerSettings_writeBufferToFile, fileRecords_writeBufferToFile, List.length_append, List.length_take]
    at hroom'
  rw [records_writeBufferToFile]
  rcases Nat.le_total s.records_.length s.room with hfits | hfull
  · rw [List.drop_of_length_le hfits, List.drop_nil]
  · rw [show (s.writeBufferToFile day).room = 0 by omega, List.drop_zero]

/-- What a check leaves: where the buffer is full or the file is due, what does not fit into the file. -/
theorem Filled.records_checkForFlush (h : s.Filled) :
    (s.checkForFlush clock).records_ =
      if s.buffer_size_.toNat ≤ s.records_.length ∨ s.isDue clock then s.records_.drop s.room
      else s.records_ := by
  rw [SegmentedLogger.records_checkForFlush, writeFullBuffer]
  by_cases hfull : s.records_.length ≥ s.buffer_size_.toNat
  · rw [if_pos hfull, if_pos (Or.inl hfull), h.drop_room_writeBufferToFile, ite_self, records_writeBufferToFile]
  · have hfull' : ¬s.buffer_size_.toNat ≤ s.records_.length := hfull
    rw [if_neg hfull]
    simp only [hfull', false_or]

theorem number_lt_checkForFlush (h : 0 < s.number_of_records_threshold_) :
    (s.checkForFlush clock).number_of_records_in_file_ < s.number_of_records_threshold_ := by
  have hthreshold : (s.writeFullBuffer clock.openDay).number_of_records_threshold_ =
      s.number_of_records_threshold_ := by
    unfold writeFullBuffer
    split
    · rw [toLoggerSettings_writeBufferToFile]
    · rfl
  simp only [checkForFlush]
  split
  · exact h
  · rename_i hdue
    rw [isDue, not_or, hthreshold] at hdue
    exact UInt32.not_le.mp hdue.1

/-- A logger that takes records into files that are not full. -/
structure Taking (s : SegmentedLogger) : Prop where
  enabled : s.is_enabled_ = true
  filled : s.Filled
  lt : s.number_of_records_in_file_ < s.number_of_records_threshold_

theorem Taking.record (h : s.Taking) (log : Bytes) (clock : Readings) : (s.record log clock).Taking := by
  have hlt : (s.record log clock).number_of_records_in_file_ < s.number_of_records_threshold_ := by
    rw [SegmentedLogger.record, if_pos h.enabled]
    exact number_lt_checkForFlush (Nat.lt_of_le_of_lt (Nat.zero_le _) h.lt)
  refine ⟨?_, h.filled.record log clock, ?_⟩
  · rw [toLoggerSettings_record, h.enabled]
  · rwa [toLoggerSettings_record]

theorem Taking.room_pos (h : s.Taking) : 0 < s.room := by
  have hlt := UInt32.lt_iff_toNat_lt.mp h.lt
  have hcount := h.filled.count
  rw [h.filled.room_eq]
  omega

theorem Taking.records_record (h : s.Taking) (log : Bytes) (clock : Readings) :
    (s.record log clock).records_ =
      if s.buffer_size_.toNat ≤ s.records_.length + 1 ∨ s.isDue clock then (s.records_ ++ [log]).drop s.room
      else s.records_ ++ [log] := by
  have hfilled : Filled { s with records_ := s.records_ ++ [log] } :=
    ⟨h.filled.count, h.filled.le, h.filled.closed⟩
  rw [SegmentedLogger.record, if_pos h.enabled, hfilled.records_checkForFlush]
  simp only [List.length_append, List.length_singleton]
  rfl

/-- What leaves the buffer empty, decided before the record is taken. -/
theorem Taking.records_record_eq_nil_iff (h : s.Taking) (log : Bytes) (clock : Readings) :
    (s.record log clock).records_ = [] ↔ s.Flushes clock := by
  rw [h.records_record, Flushes]
  split
  · rename_i hwrites
    simp [hwrites]
  · rename_i hkeeps
    simp [hkeeps]

/-- The buffer never holds more than its size when a record has been taken. -/
theorem Taking.length_records_record_lt (h : s.Taking) (hlt : s.records_.length < max 1 s.buffer_size_.toNat)
    (log : Bytes) (clock : Readings) : (s.record log clock).records_.length < max 1 s.buffer_size_.toNat := by
  have hroom := h.room_pos
  rw [h.records_record]
  split
  · rw [List.length_drop, List.length_append, List.length_singleton]
    omega
  · rename_i hkeeps
    rw [List.length_append, List.length_singleton]
    exact Nat.lt_of_not_le fun hle => hkeeps (Or.inl (Nat.le_trans (Nat.le_max_right _ _) hle))

/-! ### Runs -/

theorem taking_create {config : LoggerConfig} (henabled : config.enabled = true)
    (hthreshold : 1 ≤ config.records_threshold) (incomplete : ℕ) (mday now : ℤ) :
    (create config incomplete mday now).Taking :=
  ⟨henabled, filled_create config incomplete mday now, UInt32.lt_iff_toNat_lt.mpr hthreshold⟩

theorem Taking.taking_run (h : s.Taking) (calls : List (Bytes × Readings)) :
    (run recordCall s calls).Taking := by
  induction calls generalizing s with
  | nil => exact h
  | cons call calls ih => exact ih (h.record call.1 call.2)

/-- A logger that stays enabled accepts every record. -/
theorem Taking.content_run (h : s.Taking) (calls : List (Bytes × Readings)) :
    (run recordCall s calls).content = s.content ++ calls.map Prod.fst := by
  induction calls generalizing s with
  | nil => exact (List.append_nil _).symm
  | cons call calls ih =>
    have hnext : (s.recordCall call).content = s.content ++ [call.1] := by
      rw [recordCall, content_record, if_pos h.enabled]
    rw [run_cons, ih (s := s.recordCall call) (h.record call.1 call.2), hnext, List.append_assoc]
    rfl

theorem Taking.written_iff (h : s.Taking) (hs : s.content = []) (calls : List (Bytes × Readings)) :
    (run recordCall s calls).written = calls.map Prod.fst ↔
      (run recordCall s calls).records_ = [] := by
  have hcontent := h.content_run calls
  rw [hs, List.nil_append, content] at hcontent
  rw [← hcontent, List.self_eq_append_right]

/-- The last call of `record`, if there was one, left the buffer empty. -/
def LastFlushes (s : SegmentedLogger) (calls : List (Bytes × Readings)) : Prop :=
  ∀ earlier last, calls = earlier ++ [last] → (run recordCall s earlier).Flushes last.2

theorem Taking.lastFlushes_iff (h : s.Taking) (hs : s.content = []) (calls : List (Bytes × Readings)) :
    (run recordCall s calls).written = calls.map Prod.fst ↔ s.LastFlushes calls := by
  rw [h.written_iff hs]
  rcases List.eq_nil_or_concat calls with rfl | ⟨earlier, last, rfl⟩
  · have hnil : s.records_ = [] := (List.append_eq_nil_iff.mp hs).2
    refine ⟨?_, fun _ => hnil⟩
    intro _ earlier last heq
    exact absurd heq.symm (List.concat_ne_nil _ _)
  · rw [List.concat_eq_append, run_concat, recordCall, (h.taking_run earlier).records_record_eq_nil_iff]
    constructor
    · rintro hflushes earlier' last' heq
      obtain ⟨rfl, rfl⟩ := List.append_singleton_inj.mp heq
      exact hflushes
    · intro hlast
      exact hlast earlier last rfl

/-- **Nothing is lost at the end exactly if the last record left the buffer empty**: the closing writes no
record. The logger may be destroyed, or closed with the others. -/
theorem flushed_iff (config : LoggerConfig) (incomplete : ℕ) (mday now : ℤ) (calls : List (Bytes × Readings))
    (henabled : config.enabled = true) (hthreshold : 1 ≤ config.records_threshold) :
    let s₀ := create config incomplete mday now
    let s := run recordCall s₀ calls
    (∀ closeTime, (s.destroy closeTime).written = calls.map Prod.fst ↔ s₀.LastFlushes calls) ∧
      ∀ g name closeTimes, SgwLogger.get g name = some s →
        (((g.close closeTimes).get name).map written = some (calls.map Prod.fst) ↔ s₀.LastFlushes calls) := by
  have htaking := taking_create henabled hthreshold incomplete mday now
  have hiff := htaking.lastFlushes_iff rfl calls
  refine ⟨fun closeTime => ?_, fun g name closeTimes hg => ?_⟩
  · rw [destroy, written_closeFile, hiff]
  · rw [SgwLogger.get_close, hg, Option.map_some, Option.map_some, written_closeFile, Option.some_inj, hiff]

/-- The logger is closed when its buffer of two records has just been written for the second time. -/
theorem flushed_iff_buffered :
    let records : List Bytes := [ascii "a", ascii "b", ascii "c", ascii "d"]
    let calls := records.map fun text => (text, (⟨7, 7, 0, 7, 0⟩ : Readings))
    let s := run recordCall (create ⟨true, ascii "text", 2, 10000, 86400⟩ 0 7 0) calls
    (run recordCall s [(ascii "e", ⟨7, 7, 0, 7, 0⟩)]).records_ = [ascii "e"] ∧ (s.destroy 0).written = records := by
  intro records calls s
  refine ⟨by decide, ((flushed_iff ⟨true, ascii "text", 2, 10000, 86400⟩ 0 7 0 calls rfl (by decide)).1 0).mpr ?_⟩
  intro earlier last heq
  obtain ⟨rfl, rfl⟩ := List.append_singleton_inj.mp (show earlier ++ [last] = calls.take 3 ++ [_] from heq.symm)
  decide

/-- A record is lost with a buffer of a thousand records: of two records of one day the second waits, and no
file is open when the logger is closed. -/
theorem not_flushed :
    let calls : List (Bytes × Readings) := [(ascii "a", ⟨7, 7, 0, 7, 0⟩), (ascii "b", ⟨7, 7, 0, 7, 0⟩)]
    let s := run recordCall (create ⟨true, ascii "text", 1000, 10000, 86400⟩ 0 0 0) calls
    (s.destroy 0).written ≠ calls.map Prod.fst ∧ (s.destroy 0).records_ = [ascii "b"] ∧
      ((SgwLogger.close ⟨none, some s, none, none⟩ fun _ => 0).get .ao).map written ≠
        some (calls.map Prod.fst) := by
  decide

/-- **What is lost** at the end are the last records, fewer than the size of the buffer. -/
theorem lost_lt_run {config : LoggerConfig} (henabled : config.enabled = true)
    (hthreshold : 1 ≤ config.records_threshold) (incomplete : ℕ) (mday now closeTime : ℤ)
    (calls : List (Bytes × Readings)) :
    ∃ lost, ((run recordCall (create config incomplete mday now) calls).destroy closeTime).written ++ lost =
      calls.map Prod.fst ∧ lost.length < max 1 config.buffer_size.toNat := by
  have htaking := taking_create henabled hthreshold incomplete mday now
  refine ⟨(run recordCall (create config incomplete mday now) calls).records_, ?_, ?_⟩
  · rw [destroy, written_closeFile]
    exact htaking.content_run calls
  · have hcalls : Along recordCall (fun _ _ => True) (create config incomplete mday now) calls :=
      along_true fun _ _ => trivial
    have hrun := hcalls.invariant (I := fun s : SegmentedLogger => s.Taking ∧
        s.buffer_size_ = config.buffer_size ∧ s.records_.length < max 1 config.buffer_size.toNat)
      (fun s call hs _ => ?_) ⟨htaking, rfl, Nat.lt_of_lt_of_le Nat.one_pos (Nat.le_max_left _ _)⟩
    · exact hrun.2.2
    · obtain ⟨hs, hsize, hlt⟩ := hs
      rw [← hsize] at hlt ⊢
      refine ⟨hs.record call.1 call.2, ?_, hs.length_records_record_lt hlt call.1 call.2⟩
      rw [recordCall, toLoggerSettings_record]

/-- A logger that does not buffer loses nothing. -/
theorem nothing_lost_run {config : LoggerConfig} (henabled : config.enabled = true)
    (hthreshold : 1 ≤ config.records_threshold) (hbuffer : config.buffer_size ≤ 1) (incomplete : ℕ)
    (mday now closeTime : ℤ) (calls : List (Bytes × Readings)) :
    ((run recordCall (create config incomplete mday now) calls).destroy closeTime).written =
      calls.map Prod.fst := by
  obtain ⟨lost, hall, hlt⟩ := lost_lt_run henabled hthreshold incomplete mday now closeTime calls
  have hsize := UInt32.le_iff_toNat_le.mp hbuffer
  have hnone : lost = [] := List.eq_nil_of_length_eq_zero (by rw [UInt32.toNat_one] at hsize; omega)
  rwa [hnone, List.append_nil] at hall

end SegmentedLogger

end SmppGateway.Logging
