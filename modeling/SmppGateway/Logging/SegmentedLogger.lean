import Mathlib.Data.Int.Notation
import SmppGateway.Foundation.Run
import SmppGateway.Foundation.Text

/-!
# The logger of the call-detail records

`segmented_logger`: records wait in a buffer, are written to a file in chunks, and the file is closed and
another one opened when it is full, when it has been open for long enough, or when the day changes.

## The model

* Opening, writing and renaming a file succeed, and an opened file is a new one. A file is what was written to
  it; of its names only the sequence number is kept.
* `Readings` are the clocks as they are read on the way: a day of the month, or a steady time in nanoseconds.
  Nothing is assumed of them.
* `number_of_records_in_file_` and the configured limits are `unsigned int`s, with their wrapping subtraction.

## What is proved

* `content_record` — what `record` makes of the written records and the buffer together: it appends an accepted
  record.
* `conserved_run` — over whole runs, what was written and then what waits are the accepted records, in order,
  each once; and no file holds more records than the threshold as long as the threshold stays.
* `content_file_run` — a text file is its header, a line for each of its records and, once closed, its footer.
-/

namespace SmppGateway.Logging

open Foundation

/-! ### Files and clocks -/

/-- `details::file_mode`. -/
inductive FileMode where
  | text
  | binary
  deriving DecidableEq, Repr

/-- The `file_mode` of a configuration: what is neither name is taken for text. -/
def FileMode.ofConfig (conf : Bytes) : FileMode :=
  if conf = ascii "text" then .text else if conf = ascii "binary" then .binary else .text

/-- A file that is being written. -/
structure LogFile where
  /-- All the bytes. -/
  content : Bytes
  /-- The records among them. -/
  records : List Bytes
  deriving DecidableEq, Repr

/-- A file that was closed. -/
structure ClosedFile extends LogFile where
  /-- The sequence number in its name. -/
  seq_no : ℕ
  deriving DecidableEq, Repr

/-- What the clocks say while a record is taken. -/
structure Readings where
  /-- The day on which `open_new_file` opens a file for a full buffer. -/
  openDay : ℤ
  /-- `currentTime_tm.tm_mday`. -/
  day : ℤ
  /-- The steady clock at the comparison with `last_write_`. -/
  now : ℤ
  /-- The day on which `open_new_file` opens a file that is to be closed. -/
  reopenDay : ℤ
  /-- The steady clock in `close_file`. -/
  closeTime : ℤ
  deriving DecidableEq, Repr

/-- What a logger reads from its configuration. -/
structure LoggerConfig where
  enabled : Bool
  file_mode : Bytes
  buffer_size : UInt32
  records_threshold : UInt32
  time_threshold : UInt32
  deriving DecidableEq, Repr

/-! ### The logger -/

/-- What the configuration and the owner of a logger set. -/
structure LoggerSettings where
  is_enabled_ : Bool
  file_mode_ : FileMode
  text_file_header_ : Bytes
  text_file_footer_ : Bytes
  /-- Records in the buffer from which on it is written. -/
  buffer_size_ : UInt32
  number_of_records_threshold_ : UInt32
  /-- In seconds. -/
  time_threshold_ : UInt32
  deriving DecidableEq, Repr

/-- `segmented_logger`. -/
structure SegmentedLogger extends LoggerSettings where
  file_seq_no_ : ℕ
  number_of_records_in_file_ : UInt32
  /-- `creation_time_tm_.tm_mday`, which nothing sets before the first file is opened. -/
  creation_mday : ℤ
  last_write_ : ℤ
  /-- The buffer. -/
  records_ : List Bytes
  /-- The file that is open, if one is. -/
  file_handler_ : Option LogFile
  /-- The files that were closed, in the order of their closing. -/
  closed : List ClosedFile
  deriving DecidableEq, Repr

namespace SegmentedLogger

/-- The constructor, which finds a number of incomplete files and renames them, at a steady time. -/
def create (config : LoggerConfig) (incomplete : ℕ) (creation_mday now : ℤ) : SegmentedLogger where
  is_enabled_ := config.enabled
  file_mode_ := FileMode.ofConfig config.file_mode
  text_file_header_ := []
  text_file_footer_ := []
  buffer_size_ := config.buffer_size
  number_of_records_threshold_ := config.records_threshold
  time_threshold_ := config.time_threshold
  file_seq_no_ := 1 + incomplete
  number_of_records_in_file_ := 0
  creation_mday := creation_mday
  last_write_ := now
  records_ := []
  file_handler_ := none
  closed := []

/-- The line feed that ends a line of a text file. -/
def lineFeed : UInt8 := 10

/-- What stands in front of the records of a new file. -/
def prologue (s : SegmentedLogger) : Bytes :=
  if s.file_mode_ = .text ∧ s.text_file_header_.length ≠ 0 then s.text_file_header_ ++ [lineFeed] else []

/-- What stands behind the records of a closed file. -/
def epilogue (s : SegmentedLogger) : Bytes :=
  if s.file_mode_ = .text ∧ s.text_file_footer_.length ≠ 0 then s.text_file_footer_ else []

/-- `open_new_file`. -/
def openNewFile (s : SegmentedLogger) (day : ℤ) : SegmentedLogger :=
  { s with creation_mday := day, file_handler_ := some ⟨s.prologue, []⟩ }

/-- The bytes of a record in a file. -/
def line (mode : FileMode) (str : Bytes) : Bytes :=
  if mode = .text then str ++ [lineFeed] else str

/-- The body of the loop in `write_buffer_to_file`. -/
def writeRecord (s : SegmentedLogger) (str : Bytes) : SegmentedLogger :=
  { s with
    file_handler_ := s.file_handler_.map fun f => ⟨f.content ++ line s.file_mode_ str, f.records ++ [str]⟩
    number_of_records_in_file_ := s.number_of_records_in_file_ + 1 }

/-- The records that still go into the file: a difference of two `unsigned int`s. -/
def room (s : SegmentedLogger) : ℕ := (s.number_of_records_threshold_ - s.number_of_records_in_file_).toNat

/-- `write_buffer_to_file`. -/
def writeBufferToFile (s : SegmentedLogger) (day : ℤ) : SegmentedLogger :=
  if s.records_ = [] then s
  else
    let s := if s.file_handler_.isSome then s else s.openNewFile day
    let chunk := min s.records_.length s.room
    { (s.records_.take chunk).foldl writeRecord s with records_ := s.records_.drop chunk }

/-- `close_file`, at a steady time. -/
def closeFile (s : SegmentedLogger) (now : ℤ) : SegmentedLogger :=
  match s.file_handler_ with
  | none => s
  | some f =>
    { s with
      file_handler_ := none
      closed := s.closed ++ [⟨⟨f.content ++ s.epilogue, f.records⟩, s.file_seq_no_⟩]
      number_of_records_in_file_ := 0
      last_write_ := now
      file_seq_no_ := if s.file_seq_no_ + 1 ≥ 10000 then 1 else s.file_seq_no_ + 1 }

/-- The nanoseconds of a second. -/
def second : ℤ := 1000000000

/-- The file is to be closed: it is full, the time is over, or the day has changed. -/
def isDue (s : SegmentedLogger) (clock : Readings) : Prop :=
  s.number_of_records_in_file_ ≥ s.number_of_records_threshold_ ∨
    (clock.now - s.last_write_).tdiv second ≥ s.time_threshold_.toNat ∨ clock.day ≠ s.creation_mday

instance (s : SegmentedLogger) (clock : Readings) : Decidable (s.isDue clock) := by
  unfold isDue
  infer_instance

/-- The start of `check_for_flush`: a buffer that is full is written. -/
def writeFullBuffer (s : SegmentedLogger) (day : ℤ) : SegmentedLogger :=
  if s.records_.length ≥ s.buffer_size_.toNat then s.writeBufferToFile day else s

/-- The rest of `check_for_flush` for a file that is due. -/
def rotate (s : SegmentedLogger) (clock : Readings) : SegmentedLogger :=
  let s := (s.writeBufferToFile clock.reopenDay).closeFile clock.closeTime
  let s := { s with number_of_records_in_file_ := 0 }
  -- The write may have opened a file, so that the day is no longer the one that made the file due.
  { s with file_seq_no_ := if clock.day ≠ s.creation_mday then 1 else s.file_seq_no_ }

/-- `check_for_flush`. -/
def checkForFlush (s : SegmentedLogger) (clock : Readings) : SegmentedLogger :=
  let s := s.writeFullBuffer clock.openDay
  if s.isDue clock then s.rotate clock else s

/-- `record`. -/
def record (s : SegmentedLogger) (log : Bytes) (clock : Readings) : SegmentedLogger :=
  if s.is_enabled_ then { s with records_ := s.records_ ++ [log] }.checkForFlush clock else s

end SegmentedLogger

/-- What happens to a logger. -/
inductive LoggerEvent where
  /-- `record`. -/
  | record (log : Bytes) (clock : Readings)
  /-- `close_file`. -/
  | closeFile (now : ℤ)
  /-- `set_header`. -/
  | setHeader (header : Bytes)
  /-- `set_footer`. -/
  | setFooter (footer : Bytes)
  /-- `on_enabled_replace`. -/
  | onEnabledReplace (enabled : Bool)
  /-- `on_buffer_size_replace`. -/
  | onBufferSizeReplace (buffer_size : UInt32)
  /-- `on_records_threshold_replace`. -/
  | onRecordsThresholdReplace (records_threshold : UInt32)
  /-- `on_time_threshold_replace`. -/
  | onTimeThresholdReplace (time_threshold : UInt32)
  deriving DecidableEq, Repr

/-- The records that are accepted: those that come while the logger is enabled. -/
def accepted : Bool → List LoggerEvent → List Bytes
  | _, [] => []
  | enabled, .record log _ :: events => (if enabled then [log] else []) ++ accepted enabled events
  | _, .onEnabledReplace enabled :: events => accepted enabled events
  | enabled, _ :: events => accepted enabled events

namespace SegmentedLogger

/-- What an event makes of a logger. -/
def step (s : SegmentedLogger) : LoggerEvent → SegmentedLogger
  | .record log clock => s.record log clock
  | .closeFile now => s.closeFile now
  | .setHeader header => { s with text_file_header_ := header }
  | .setFooter footer => { s with text_file_footer_ := footer }
  | .onEnabledReplace enabled => { s with is_enabled_ := enabled }
  | .onBufferSizeReplace buffer_size => { s with buffer_size_ := buffer_size }
  | .onRecordsThresholdReplace records_threshold => { s with number_of_records_threshold_ := records_threshold }
  | .onTimeThresholdReplace time_threshold => { s with time_threshold_ := time_threshold }

/-! ### What the functions do -/

variable {s : SegmentedLogger} {log : Bytes} {clock : Readings} {day now : ℤ}

/-- The file that the next record is written to. -/
def nextFile (s : SegmentedLogger) : LogFile := s.file_handler_.getD ⟨s.prologue, []⟩

@[simp]
theorem room_openNewFile : (s.openNewFile day).room = s.room := rfl

@[simp]
theorem records_openNewFile : (s.openNewFile day).records_ = s.records_ := rfl

/-- The loop of `write_buffer_to_file`. -/
theorem foldl_writeRecord {f : LogFile} (hf : s.file_handler_ = some f) (logs : List Bytes) :
    logs.foldl writeRecord s = { s with
      file_handler_ := some ⟨f.content ++ logs.flatMap (line s.file_mode_), f.records ++ logs⟩
      number_of_records_in_file_ := s.number_of_records_in_file_ + UInt32.ofNat logs.length } := by
  induction logs generalizing s f with
  | nil => simp [← hf]
  | cons log logs ih =>
    rw [List.foldl_cons, ih (s := s.writeRecord log) (by rw [writeRecord, hf, Option.map_some])]
    simp only [writeRecord, List.flatMap_cons, List.append_assoc, List.singleton_append, List.length_cons]
    rw [Nat.add_comm logs.length 1, UInt32.ofNat_add, ← UInt32.add_assoc]
    rfl

theorem writeBufferToFile_of_nil (h : s.records_ = []) (day : ℤ) : s.writeBufferToFile day = s := if_pos h

/-- `write_buffer_to_file` writes to the next file as many of the records as still go into it. -/
theorem writeBufferToFile_of_ne_nil (h : s.records_ ≠ []) (day : ℤ) :
    s.writeBufferToFile day = { s with
      creation_mday := if s.file_handler_.isSome then s.creation_mday else day
      file_handler_ := some ⟨s.nextFile.content ++ (s.records_.take s.room).flatMap (line s.file_mode_),
        s.nextFile.records ++ s.records_.take s.room⟩
      number_of_records_in_file_ :=
        s.number_of_records_in_file_ + UInt32.ofNat (min s.room s.records_.length)
      records_ := s.records_.drop s.room } := by
  have htake : s.records_.take (min s.records_.length s.room) = s.records_.take s.room := by
    rw [Nat.min_comm, ← List.take_eq_take_min]
  have hdrop : s.records_.drop (min s.records_.length s.room) = s.records_.drop s.room := by
    rw [Nat.min_comm, ← List.drop_eq_drop_min]
  rw [writeBufferToFile, if_neg h]
  cases hfile : s.file_handler_ with
  | some f =>
    simp only [Option.isSome_some, if_true, htake, hdrop]
    rw [foldl_writeRecord hfile]
    simp [nextFile, hfile, List.length_take]
  | none =>
    simp only [Option.isSome_none, Bool.false_eq_true, if_false, room_openNewFile, records_openNewFile, htake,
      hdrop]
    rw [foldl_writeRecord (f := ⟨s.prologue, []⟩) rfl]
    simp [nextFile, hfile, openNewFile, List.length_take]

theorem file_handler_closeFile : (s.closeFile now).file_handler_ = none := by
  unfold closeFile
  split
  · assumption
  · rfl

/-- What writing, closing and numbering keep is kept by a check for a flush. -/
theorem checkForFlush_rule {P : SegmentedLogger → Prop}
    (hwrite : ∀ s day, P s → P (s.writeBufferToFile day)) (hclose : ∀ s now, P s → P (s.closeFile now))
    (hnumber : ∀ s seq, s.file_handler_ = none → P s →
      P { s with number_of_records_in_file_ := 0, file_seq_no_ := seq }) (h : P s) :
    P (s.checkForFlush clock) := by
  have hfull : P (s.writeFullBuffer clock.openDay) := by
    unfold writeFullBuffer
    split
    · exact hwrite s _ h
    · exact h
  simp only [checkForFlush]
  split
  · have hclosed := hclose _ clock.closeTime (hwrite _ clock.reopenDay hfull)
    exact hnumber (closeFile _ _) _ file_handler_closeFile hclosed
  · exact hfull

/-! ### No record is lost or written twice -/

/-- The files, one after the other. -/
def files (s : SegmentedLogger) : List LogFile := s.closed.map ClosedFile.toLogFile ++ s.file_handler_.toList

/-- The records that were written, in the order of the writing: one file is written after the other. -/
def written (s : SegmentedLogger) : List Bytes := s.files.flatMap LogFile.records

/-- The records of the file that is open. -/
def fileRecords (s : SegmentedLogger) : List Bytes := (s.file_handler_.map LogFile.records).getD []

theorem written_eq : s.written = s.closed.flatMap (fun f => f.records) ++ s.fileRecords := by
  unfold written files fileRecords
  cases s.file_handler_ <;> simp [List.flatMap_map]

/-- What was written, and then what waits. -/
def content (s : SegmentedLogger) : List Bytes := s.written ++ s.records_

@[simp]
theorem records_nextFile : s.nextFile.records = s.fileRecords := by
  unfold nextFile fileRecords
  cases s.file_handler_ <;> rfl

@[simp]
theorem records_writeBufferToFile : (s.writeBufferToFile day).records_ = s.records_.drop s.room := by
  by_cases h : s.records_ = []
  · rw [writeBufferToFile_of_nil h, h, List.drop_nil]
  · rw [writeBufferToFile_of_ne_nil h]

@[simp]
theorem fileRecords_writeBufferToFile :
    (s.writeBufferToFile day).fileRecords = s.fileRecords ++ s.records_.take s.room := by
  by_cases h : s.records_ = []
  · rw [writeBufferToFile_of_nil h, h, List.take_nil, List.append_nil]
  · rw [writeBufferToFile_of_ne_nil h, ← records_nextFile (s := s)]
    rfl

@[simp]
theorem closed_writeBufferToFile : (s.writeBufferToFile day).closed = s.closed := by
  by_cases h : s.records_ = []
  · rw [writeBufferToFile_of_nil h]
  · rw [writeBufferToFile_of_ne_nil h]

theorem number_writeBufferToFile : (s.writeBufferToFile day).number_of_records_in_file_ =
    s.number_of_records_in_file_ + UInt32.ofNat (min s.room s.records_.length) := by
  by_cases h : s.records_ = []
  · rw [writeBufferToFile_of_nil h, h, List.length_nil, Nat.min_zero]
    exact (UInt32.add_zero _).symm
  · rw [writeBufferToFile_of_ne_nil h]

/-- A write moves records from the buffer to the file. -/
@[simp]
theorem content_writeBufferToFile : (s.writeBufferToFile day).content = s.content := by
  simp [content, written_eq]

@[simp]
theorem written_closeFile : (s.closeFile now).written = s.written := by
  unfold closeFile
  split
  · rfl
  · rename_i f hfile
    simp [written_eq, fileRecords, hfile]

@[simp]
theorem records_closeFile : (s.closeFile now).records_ = s.records_ := by
  unfold closeFile
  split <;> rfl

theorem content_closeFile : (s.closeFile now).content = s.content := by
  rw [content, written_closeFile, records_closeFile, content]

@[simp]
theorem content_checkForFlush : (s.checkForFlush clock).content = s.content := by
  refine checkForFlush_rule (P := fun t => t.content = s.content) (fun t day h => ?_) (fun t now h => ?_)
    (fun _ _ _ h => h) rfl
  · rw [content_writeBufferToFile, h]
  · rw [content_closeFile, h]

/-- **A record** that is accepted is appended to what was written and what waits. -/
theorem content_record :
    (s.record log clock).content = s.content ++ if s.is_enabled_ then [log] else [] := by
  unfold record
  split
  · rw [content_checkForFlush]
    exact (List.append_assoc _ _ _).symm
  · rw [List.append_nil]

/-! ### The settings stay -/

@[simp]
theorem toLoggerSettings_writeBufferToFile :
    (s.writeBufferToFile day).toLoggerSettings = s.toLoggerSettings := by
  by_cases h : s.records_ = []
  · rw [writeBufferToFile_of_nil h]
  · rw [writeBufferToFile_of_ne_nil h]

@[simp]
theorem toLoggerSettings_closeFile : (s.closeFile now).toLoggerSettings = s.toLoggerSettings := by
  unfold closeFile
  split <;> rfl

/-- A record changes no setting. -/
@[simp]
theorem toLoggerSettings_record : (s.record log clock).toLoggerSettings = s.toLoggerSettings := by
  unfold record
  split
  · refine checkForFlush_rule (P := fun t => t.toLoggerSettings = s.toLoggerSettings) (fun t day h => ?_)
      (fun t now h => ?_) (fun _ _ _ h => h) rfl
    · rw [toLoggerSettings_writeBufferToFile, h]
    · rw [toLoggerSettings_closeFile, h]
  · rfl

/-! ### No file is overfull -/

/-- The counter counts the records of the open file, and no file holds more than the threshold allows. -/
structure Filled (s : SegmentedLogger) : Prop where
  count : s.number_of_records_in_file_.toNat = s.fileRecords.length
  le : s.fileRecords.length ≤ s.number_of_records_threshold_.toNat
  closed : ∀ f ∈ s.closed, f.records.length ≤ s.number_of_records_threshold_.toNat

theorem Filled.room_eq (h : s.Filled) :
    s.room = s.number_of_records_threshold_.toNat - s.fileRecords.length := by
  have hle : s.number_of_records_in_file_ ≤ s.number_of_records_threshold_ :=
    UInt32.le_iff_toNat_le.mpr (h.count ▸ h.le)
  rw [room, UInt32.toNat_sub_of_le _ _ hle, h.count]

theorem Filled.writeBufferToFile (h : s.Filled) (day : ℤ) : (s.writeBufferToFile day).Filled := by
  have hroom := h.room_eq
  have hle := h.le
  have hcount := h.count
  have hthreshold := s.number_of_records_threshold_.toNat_lt
  constructor
  · rw [number_writeBufferToFile, fileRecords_writeBufferToFile, List.length_append, List.length_take,
      UInt32.toNat_add, UInt32.toNat_ofNat']
    omega
  · rw [toLoggerSettings_writeBufferToFile, fileRecords_writeBufferToFile, List.length_append, List.length_take]
    omega
  · rw [toLoggerSettings_writeBufferToFile, closed_writeBufferToFile]
    exact h.closed

theorem Filled.closeFile (h : s.Filled) (now : ℤ) : (s.closeFile now).Filled := by
  unfold SegmentedLogger.closeFile
  split
  · exact h
  · rename_i f hfile
    refine ⟨rfl, Nat.zero_le _, ?_⟩
    intro g hg
    rcases List.mem_append.mp hg with hold | hnew
    · exact h.closed g hold
    · obtain rfl := List.mem_singleton.mp hnew
      have hle := h.le
      rwa [fileRecords, hfile] at hle

theorem Filled.record (h : s.Filled) (log : Bytes) (clock : Readings) : (s.record log clock).Filled := by
  unfold SegmentedLogger.record
  split
  · refine checkForFlush_rule (fun t day ht => ht.writeBufferToFile day) (fun t now ht => ht.closeFile now)
      (fun t seq hfile ht => ⟨?_, ht.le, ht.closed⟩) ⟨h.count, h.le, h.closed⟩
    simp [fileRecords, hfile]
  · exact h

/-! ### Runs -/

theorem Filled.step (h : s.Filled) {event : LoggerEvent}
    (hevent : ∀ threshold, event ≠ .onRecordsThresholdReplace threshold) : (s.step event).Filled := by
  cases event with
  | record log clock => exact h.record log clock
  | closeFile now => exact h.closeFile now
  | setHeader header => exact ⟨h.count, h.le, h.closed⟩
  | setFooter footer => exact ⟨h.count, h.le, h.closed⟩
  | onEnabledReplace enabled => exact ⟨h.count, h.le, h.closed⟩
  | onBufferSizeReplace buffer_size => exact ⟨h.count, h.le, h.closed⟩
  | onRecordsThresholdReplace threshold => exact absurd rfl (hevent threshold)
  | onTimeThresholdReplace time_threshold => exact ⟨h.count, h.le, h.closed⟩

theorem threshold_step {event : LoggerEvent}
    (hevent : ∀ threshold, event ≠ .onRecordsThresholdReplace threshold) :
    (s.step event).number_of_records_threshold_ = s.number_of_records_threshold_ := by
  cases event with
  | record log clock => exact congrArg LoggerSettings.number_of_records_threshold_ toLoggerSettings_record
  | closeFile now => exact congrArg LoggerSettings.number_of_records_threshold_ toLoggerSettings_closeFile
  | onRecordsThresholdReplace threshold => exact absurd rfl (hevent threshold)
  | _ => rfl

/-- What is written and waits after a run from any state. -/
theorem content_run (s : SegmentedLogger) (events : List LoggerEvent) :
    (run step s events).content = s.content ++ accepted s.is_enabled_ events := by
  induction events generalizing s with
  | nil => exact (List.append_nil _).symm
  | cons event events ih =>
    rw [run_cons, ih]
    cases event with
    | record log clock =>
      have henabled : (s.record log clock).is_enabled_ = s.is_enabled_ :=
        congrArg LoggerSettings.is_enabled_ toLoggerSettings_record
      rw [step, content_record, henabled, accepted, List.append_assoc]
    | closeFile now =>
      have henabled : (s.closeFile now).is_enabled_ = s.is_enabled_ :=
        congrArg LoggerSettings.is_enabled_ toLoggerSettings_closeFile
      rw [step, content_closeFile, henabled]
      rfl
    | _ => rfl

theorem filled_create (config : LoggerConfig) (incomplete : ℕ) (mday now : ℤ) :
    (create config incomplete mday now).Filled :=
  ⟨rfl, Nat.zero_le _, List.forall_mem_nil _⟩

theorem Filled.files (h : s.Filled) :
    ∀ f ∈ s.files, f.records.length ≤ s.number_of_records_threshold_.toNat := by
  intro f hf
  rcases List.mem_append.mp hf with hclosed | hopen
  · obtain ⟨g, hg, rfl⟩ := List.mem_map.mp hclosed
    exact h.closed g hg
  · have hfile : s.file_handler_ = some f := Option.mem_toList.mp hopen
    have hle := h.le
    rwa [fileRecords, hfile] at hle

/-- **The records are conserved**, whatever the configuration is and becomes, and whatever the clocks say: what
was written, and then what waits, are the accepted records. As long as the threshold stays as it was configured,
no file holds more records than that. -/
theorem conserved_run (config : LoggerConfig) (incomplete : ℕ) (mday now : ℤ) (events : List LoggerEvent) :
    let s := run step (create config incomplete mday now) events
    s.written ++ s.records_ = accepted config.enabled events ∧
      ((∀ threshold, .onRecordsThresholdReplace threshold ∉ events) →
        ∀ f ∈ s.files, f.records.length ≤ config.records_threshold.toNat) := by
  refine ⟨content_run _ events, ?_⟩
  intro hthreshold
  have hevents : ∀ event ∈ events, ∀ threshold, event ≠ LoggerEvent.onRecordsThresholdReplace threshold := by
    rintro event hevent threshold rfl
    exact hthreshold threshold hevent
  have halong : Along step (fun _ event => ∀ threshold, event ≠ .onRecordsThresholdReplace threshold)
    (create config incomplete mday now) events := along_of_forall hevents
  have hrun := halong.invariant
    (I := fun t => t.Filled ∧ t.number_of_records_threshold_ = config.records_threshold)
    (fun t event ht hevent => ⟨ht.1.step hevent, (threshold_step hevent).trans ht.2⟩)
    ⟨filled_create config incomplete mday now, rfl⟩
  exact hrun.2 ▸ hrun.1.files

/-- Three records for files of two: the buffer is full at the third. -/
theorem conserved_run_threeRecords :
    let clock : Readings := ⟨7, 7, 0, 7, 0⟩
    let s := run step (create ⟨true, ascii "text", 3, 2, 86400⟩ 0 7 0)
      [.record (ascii "a") clock, .record (ascii "b") clock, .record (ascii "c") clock]
    s.written ++ s.records_ = [ascii "a", ascii "b", ascii "c"] ∧ ∀ f ∈ s.files, f.records.length ≤ 2 :=
  have h := conserved_run ⟨true, ascii "text", 3, 2, 86400⟩ 0 7 0
    [.record (ascii "a") ⟨7, 7, 0, 7, 0⟩, .record (ascii "b") ⟨7, 7, 0, 7, 0⟩,
      .record (ascii "c") ⟨7, 7, 0, 7, 0⟩]
  ⟨h.1, h.2 (by simp)⟩

/-! ### What stands in a file -/

/-- The lines of a file under the settings it was written under. -/
def body (s : SegmentedLogger) (f : LogFile) : Bytes := s.prologue ++ f.records.flatMap (line s.file_mode_)

/-- A file is its header and its records and, if it is closed, its footer. -/
structure Lined (s : SegmentedLogger) : Prop where
  opened : ∀ f, s.file_handler_ = some f → f.content = s.body f
  closed : ∀ f ∈ s.closed, f.content = s.body f.toLogFile ++ s.epilogue

theorem Lined.nextFile (h : s.Lined) : s.nextFile.content = s.body s.nextFile := by
  unfold SegmentedLogger.nextFile
  cases hfile : s.file_handler_ with
  | none => exact (List.append_nil _).symm
  | some f => exact h.opened f hfile

theorem Lined.writeBufferToFile (h : s.Lined) (day : ℤ) : (s.writeBufferToFile day).Lined := by
  by_cases hnil : s.records_ = []
  · rwa [writeBufferToFile_of_nil hnil]
  rw [writeBufferToFile_of_ne_nil hnil]
  refine ⟨?_, h.closed⟩
  intro f hf
  obtain rfl := Option.some.inj hf
  simp only [h.nextFile, body, List.flatMap_append, List.append_assoc]
  rfl

theorem Lined.closeFile (h : s.Lined) (now : ℤ) : (s.closeFile now).Lined := by
  unfold SegmentedLogger.closeFile
  split
  · exact h
  · rename_i f hfile
    constructor
    · intro g hg
      cases hg
    · intro g hg
      rcases List.mem_append.mp hg with hold | hnew
      · exact h.closed g hold
      · obtain rfl := List.mem_singleton.mp hnew
        exact congrArg (· ++ s.epilogue) (h.opened f hfile)

theorem Lined.record (h : s.Lined) (log : Bytes) (clock : Readings) : (s.record log clock).Lined := by
  unfold SegmentedLogger.record
  split
  · exact checkForFlush_rule (fun t day ht => ht.writeBufferToFile day) (fun t now ht => ht.closeFile now)
      (fun t seq hfile ht => ⟨ht.opened, ht.closed⟩) ⟨h.opened, h.closed⟩
  · exact h

/-- The event sets neither the header nor the footer. -/
def KeepsFrame : LoggerEvent → Prop
  | .setHeader _ => False
  | .setFooter _ => False
  | _ => True

theorem Lined.step (h : s.Lined) {event : LoggerEvent} (hevent : KeepsFrame event) : (s.step event).Lined := by
  cases event with
  | record log clock => exact h.record log clock
  | closeFile now => exact h.closeFile now
  | setHeader header => exact hevent.elim
  | setFooter footer => exact hevent.elim
  | onEnabledReplace enabled => exact ⟨h.opened, h.closed⟩
  | onBufferSizeReplace buffer_size => exact ⟨h.opened, h.closed⟩
  | onRecordsThresholdReplace threshold => exact ⟨h.opened, h.closed⟩
  | onTimeThresholdReplace time_threshold => exact ⟨h.opened, h.closed⟩

/-- **What stands in a file**, as long as header and footer stay: the header, each record, and the footer once
the file is closed. -/
theorem content_file_run (hs : s.file_handler_ = none) (hclosed : s.closed = []) {events : List LoggerEvent}
    (hevents : ∀ event ∈ events, KeepsFrame event) : (run step s events).Lined := by
  have halong : Along step (fun _ event => KeepsFrame event) s events := along_of_forall hevents
  have hstart : s.Lined := by
    constructor
    · intro f hf
      rw [hs] at hf
      cases hf
    · intro f hf
      rw [hclosed] at hf
      cases hf
  exact halong.invariant (I := Lined) (fun t event ht hevent => ht.step hevent) hstart

end SegmentedLogger

end SmppGateway.Logging
