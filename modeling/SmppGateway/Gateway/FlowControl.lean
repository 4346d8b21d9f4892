import Mathlib.Algebra.BigOperators.Group.List.Basic
import Mathlib.Algebra.GroupWithZero.Nat
import SmppGateway.Foundation.Run

/-!
# Flow control

`io::flow_control` decides whether a packet may pass now. The `credit` method keeps the credit that each of
the last seconds left over in a circular array, the `limit_credit` method counts the packets of each of the
last seconds in a queue; both have `credit_windows_size_` entries.

## The model

`check` gets what it reads from the clocks and the random time of the `normal` method as an argument. It
ends in a `Stop` where the source has no behaviour or none that ends. What it returns is `none` where the
source reads the first entry of an empty queue. The runtime changes of the configuration are events like the
checks.

## What is proved

* `coupled_run` — the members of the two methods stay consistent as long as the adaptive method computes the
  configured window, and the window is replaced while no packet is counted by one that has the index in it.
* `coupled_handle_iff` — no other event keeps them consistent.
* `not_coupled_run` — replacing the window by one of the same size breaks them.
-/

namespace SmppGateway.Gateway

open Foundation

/-! ### The data -/

/-- `flow_method`. -/
inductive FlowMethod where
  | disabled
  | fixedFlow
  | adaptive
  | normalDistro
  | credit
  | limitCredit
  deriving DecidableEq, Repr

/-- The method of a configuration text. -/
def FlowMethod.ofConf : String → Option FlowMethod
  | "disabled" => some .disabled
  | "fixed_flow" => some .fixedFlow
  | "normal" => some .normalDistro
  | "adaptive" => some .adaptive
  | "credit" => some .credit
  | "limit_credit" => some .limitCredit
  | _ => none

/-- How a `check` can end without a result. -/
inductive Stop where
  /-- An access outside a container. -/
  | outOfBounds
  /-- A division by zero. -/
  | divisionByZero
  /-- An `int` passes its largest value. -/
  | overflow
  /-- The settlement has made `credit_windows_size_ + 1` iterations and goes on. -/
  | endless
  deriving DecidableEq, Repr

/-- `flow_control`. -/
structure FlowControl where
  max_packets_per_second_ : UInt32
  flow_method_ : FlowMethod
  /-- In microseconds. -/
  flow_times_normal_ : List UInt64
  /-- In microseconds. -/
  flow_times_fixed_ : List UInt64
  available_credit_ : UInt32
  credit_arr_ind_ : UInt32
  /-- Not set by the constructor, and not read before it is set. -/
  npack_in_sec_ : UInt32
  last_sec_ : UInt64
  credit_arr_ : List UInt32
  credit_windows_size_ : UInt32
  max_slippage_ : UInt32
  window_total_packets_ : UInt32
  elements_packet_count_ : List UInt32
  /-- On the steady clock, in nanoseconds. -/
  last_time_ : ℕ
  deriving DecidableEq, Repr

/-- What a `check` reads. -/
structure Clocks where
  /-- The system clock, in microseconds. -/
  current_time : UInt64
  /-- It and 300 milliseconds times a normally distributed number. -/
  jittered_time : UInt64
  /-- The steady clock, in nanoseconds. -/
  now : ℕ
  deriving DecidableEq, Repr

/-- The constructor. -/
def FlowControl.new (max_packets_per_second : UInt32) (flow_method : FlowMethod)
    (credit_windows_size max_slippage : UInt32) (now : ℕ) : FlowControl where
  max_packets_per_second_ := max_packets_per_second
  flow_method_ := flow_method
  flow_times_normal_ := []
  flow_times_fixed_ := []
  available_credit_ := 0
  credit_arr_ind_ := 0
  npack_in_sec_ := 0
  last_sec_ := 0
  credit_arr_ := List.replicate credit_windows_size.toNat 0
  credit_windows_size_ := credit_windows_size
  max_slippage_ := max_slippage
  window_total_packets_ := 0
  elements_packet_count_ := List.replicate credit_windows_size.toNat 0
  last_time_ := now

/-! ### Loops -/

/-- A body that is run a number of times. -/
def repeated {σ : Type} (body : σ → Except Stop σ) : ℕ → σ → Except Stop σ
  | 0, s => .ok s
  | n + 1, s => (body s).bind (repeated body n)

/-- A read of a vector. -/
def readEntry (entries : List UInt32) (i : UInt32) : Except Stop UInt32 :=
  match entries[i.toNat]? with
  | some entry => .ok entry
  | none => .error .outOfBounds

/-- A loop that sets the first entries of a vector. -/
def fill (entries : List UInt32) (n value : UInt32) : Except Stop (List UInt32) :=
  if n.toNat ≤ entries.length then .ok (List.replicate n.toNat value ++ entries.drop n.toNat)
  else .error .outOfBounds

/-- An index after it is increased, at the end of the window the first one. -/
def nextIndex (window i : UInt32) : UInt32 := if window ≤ i + 1 then 0 else i + 1

/-- The variables of the loop that settles an overdraft. -/
structure Settling where
  extra_used_credit : UInt32
  ind : UInt32
  credit_arr_ : List UInt32
  deriving DecidableEq, Repr

namespace Settling

/-- Its body. -/
def body (window : UInt32) (s : Settling) : Except Stop Settling :=
  (readEntry s.credit_arr_ s.ind).bind fun entry =>
    if entry < s.extra_used_credit then
      .ok ⟨s.extra_used_credit - entry, nextIndex window s.ind, s.credit_arr_.set s.ind.toNat 0⟩
    else .ok ⟨0, s.ind, s.credit_arr_.set s.ind.toNat (entry - s.extra_used_credit)⟩

/-- A bounded number of its iterations. -/
def loop (window : UInt32) : ℕ → Settling → Except Stop Settling
  | 0, s => if s.extra_used_credit = 0 then .ok s else .error .endless
  | n + 1, s => if s.extra_used_credit = 0 then .ok s else (s.body window).bind (loop window n)

end Settling

namespace FlowControl

/-! ### `check` -/

/-- `remove_past_data`. -/
def removePastData (s : FlowControl) (time_in_micro : UInt64) : FlowControl :=
  match s.flow_method_ with
  | .adaptive => { s with flow_times_fixed_ :=
      s.flow_times_fixed_.dropWhile fun time => s.credit_windows_size_.toUInt64 < time_in_micro - time }
  | .fixedFlow => { s with flow_times_fixed_ :=
      s.flow_times_fixed_.dropWhile fun time => 1000000 < time_in_micro - time }
  | .normalDistro => { s with flow_times_normal_ :=
      s.flow_times_normal_.dropWhile fun time => time < time_in_micro - 1000000 }
  | _ => s

/-- How long the first packet keeps the others waiting. -/
def waitFor (times : List UInt64) (span time : UInt64) : Option UInt64 :=
  times.head?.map fun first => first + span - time

/-- The window of the adaptive method. -/
def adaptiveWindow (size : ℕ) (max_packets_per_second : UInt32) : UInt32 :=
  let window := (UInt64.ofNat size * 1000000 / max_packets_per_second.toUInt64 + 1).toUInt32
  let threshold :=
    if max_packets_per_second < 1000000 then 10000000 / max_packets_per_second
    else max_packets_per_second / 100000
  if threshold < window then threshold else window

/-- `check` with the `normal` method. -/
def checkNormal (s : FlowControl) (clocks : Clocks) : FlowControl × Option UInt64 :=
  let s := s.removePastData clocks.current_time
  if s.flow_times_normal_.length < s.max_packets_per_second_.toNat then
    ({ s with flow_times_normal_ := s.flow_times_normal_ ++ [clocks.jittered_time] }, some 0)
  else (s, waitFor s.flow_times_normal_ 1000000 clocks.current_time)

/-- `check` with the `fixed_flow` method. -/
def checkFixed (s : FlowControl) (clocks : Clocks) : FlowControl × Option UInt64 :=
  let s := s.removePastData clocks.current_time
  if s.flow_times_fixed_.length < s.max_packets_per_second_.toNat then
    ({ s with flow_times_fixed_ := s.flow_times_fixed_ ++ [clocks.current_time] }, some 0)
  else (s, waitFor s.flow_times_fixed_ 1000000 clocks.current_time)

/-- `check` with the `adaptive` method. -/
def checkAdaptive (s : FlowControl) (clocks : Clocks) : Except Stop (FlowControl × Option UInt64) :=
  if s.max_packets_per_second_ = 0 then .error .divisionByZero
  else
    let s := { s with
      credit_windows_size_ := adaptiveWindow s.flow_times_fixed_.length s.max_packets_per_second_ }
    let s := s.removePastData clocks.current_time
    if UInt64.ofNat s.flow_times_fixed_.length ≤
        s.max_packets_per_second_.toUInt64 * s.credit_windows_size_.toUInt64 / 1000000 then
      .ok ({ s with flow_times_fixed_ := s.flow_times_fixed_ ++ [clocks.current_time] }, some 0)
    else .ok (s, waitFor s.flow_times_fixed_ s.credit_windows_size_.toUInt64 clocks.current_time)

/-- The first `check` with the `credit` method. -/
def initCredit (s : FlowControl) (current_time_sec : UInt64) : Except Stop FlowControl :=
  (fill s.credit_arr_ s.credit_windows_size_ 0).bind fun entries => .ok { s with
    available_credit_ := s.max_packets_per_second_
    credit_arr_ind_ := 0
    last_sec_ := current_time_sec
    credit_arr_ := entries
    npack_in_sec_ := 0 }

/-- A second in which nothing was checked leaves its whole credit. -/
def idleSecond (s : FlowControl) : Except Stop FlowControl :=
  (readEntry s.credit_arr_ s.credit_arr_ind_).bind fun entry => .ok { s with
    available_credit_ := s.available_credit_ - entry + s.max_packets_per_second_
    credit_arr_ := s.credit_arr_.set s.credit_arr_ind_.toNat s.max_packets_per_second_
    credit_arr_ind_ := nextIndex s.credit_windows_size_ s.credit_arr_ind_ }

/-- The seconds between the last one and the current one. -/
def catchUp (s : FlowControl) (passed : UInt64) : Except Stop FlowControl :=
  if s.credit_windows_size_.toUInt64 ≤ passed then
    (fill s.credit_arr_ s.credit_windows_size_ s.max_packets_per_second_).bind fun entries => .ok { s with
      available_credit_ := s.max_packets_per_second_ * s.credit_windows_size_
      credit_arr_ind_ := 0
      credit_arr_ := entries }
  else repeated idleSecond (passed.toNat - 1) s

/-- What the last second left over goes into its entry. -/
def closeSecond (s : FlowControl) (left : UInt32) : Except Stop FlowControl :=
  (readEntry s.credit_arr_ s.credit_arr_ind_).bind fun entry => .ok { s with
    available_credit_ := s.available_credit_ - entry
    credit_arr_ := s.credit_arr_.set s.credit_arr_ind_.toNat left
    credit_arr_ind_ := nextIndex s.credit_windows_size_ s.credit_arr_ind_
    npack_in_sec_ := 0 }

/-- The end of the last second. -/
def settle (s : FlowControl) (current_time_sec : UInt64) : Except Stop FlowControl :=
  let s := { s with
    last_sec_ := current_time_sec
    available_credit_ := s.available_credit_ + (s.max_packets_per_second_ - s.npack_in_sec_) }
  if s.npack_in_sec_ ≤ s.max_packets_per_second_ then
    s.closeSecond (s.max_packets_per_second_ - s.npack_in_sec_)
  else
    (Settling.loop s.credit_windows_size_ (s.credit_windows_size_.toNat + 1)
      ⟨s.npack_in_sec_ - s.max_packets_per_second_, s.credit_arr_ind_, s.credit_arr_⟩).bind fun settled =>
        closeSecond { s with credit_arr_ := settled.credit_arr_ } 0

/-- A packet passes on credit. -/
def takeCredit (s : FlowControl) (clocks : Clocks) : FlowControl × Option UInt64 :=
  if s.npack_in_sec_ < s.available_credit_ then ({ s with npack_in_sec_ := s.npack_in_sec_ + 1 }, some 0)
  else (s, waitFor s.flow_times_fixed_ 1000000 clocks.current_time)

/-- What `check` with the `credit` method does before it looks at the packet. -/
def turnSecond (s : FlowControl) (current_time_sec : UInt64) : Except Stop FlowControl :=
  if s.last_sec_ = 0 then s.initCredit current_time_sec
  else if s.last_sec_ ≠ current_time_sec then
    (s.catchUp (current_time_sec - s.last_sec_)).bind fun s => s.settle current_time_sec
  else .ok s

/-- `check` with the `credit` method. -/
def checkCredit (s : FlowControl) (clocks : Clocks) : Except Stop (FlowControl × Option UInt64) :=
  (s.turnSecond (clocks.current_time / 1000000)).map fun s => s.takeCredit clocks

/-- The counters move on by a second. -/
def slide (s : FlowControl) : Except Stop FlowControl :=
  match s.elements_packet_count_ with
  | [] => .error .outOfBounds
  | front :: rest => .ok { s with
      window_total_packets_ := s.window_total_packets_ - front
      elements_packet_count_ := rest ++ [0] }

/-- A packet is counted, if there is room for it. -/
def countPacket (s : FlowControl) : Except Stop (FlowControl × Option UInt64) :=
  match s.elements_packet_count_.getLast? with
  | none => .error .outOfBounds
  | some back =>
    if s.max_packets_per_second_ + s.max_slippage_ ≤ back ∨
        s.max_packets_per_second_ * s.credit_windows_size_ ≤ s.window_total_packets_ then
      .ok (s, some 1000000)
    else .ok ({ s with
      elements_packet_count_ := s.elements_packet_count_.dropLast ++ [back + 1]
      window_total_packets_ := s.window_total_packets_ + 1 }, some 0)

/-- `check` with the `limit_credit` method. -/
def checkLimitCredit (s : FlowControl) (clocks : Clocks) : Except Stop (FlowControl × Option UInt64) :=
  let diff := (clocks.now - s.last_time_) / 1000000000
  if 2 ^ 31 ≤ diff then .error .overflow
  else (repeated slide diff s).bind fun s =>
    countPacket { s with last_time_ := if diff = 0 then s.last_time_ else clocks.now }

/-- `check`. -/
def check (s : FlowControl) (clocks : Clocks) : Except Stop (FlowControl × Option UInt64) :=
  match s.flow_method_ with
  | .normalDistro => .ok (s.checkNormal clocks)
  | .fixedFlow => .ok (s.checkFixed clocks)
  | .adaptive => s.checkAdaptive clocks
  | .credit => s.checkCredit clocks
  | .limitCredit => s.checkLimitCredit clocks
  | .disabled => .ok (s, some 0)

end FlowControl

/-! ### Events -/

/-- A call of `check`, or a runtime change of the configuration. -/
inductive FlowEvent where
  /-- `check`. -/
  | check (clocks : Clocks)
  /-- `on_max_packets_per_second_replace`. -/
  | maxPacketsPerSecondReplace (value : UInt32)
  /-- `on_flow_method_replace`. -/
  | flowMethodReplace (conf : String)
  /-- `on_credit_windows_size_replace`. -/
  | creditWindowsSizeReplace (value : UInt32)
  /-- `on_max_slippage_replace`. -/
  | maxSlippageReplace (value : UInt32)
  deriving DecidableEq, Repr

/-- One event. -/
def FlowControl.handle (s : FlowControl) : FlowEvent → Except Stop FlowControl
  | .check clocks => (s.check clocks).map Prod.fst
  | .maxPacketsPerSecondReplace value => .ok { s with max_packets_per_second_ := value }
  | .flowMethodReplace conf =>
    match FlowMethod.ofConf conf with
    | some flow_method => .ok { s with flow_method_ := flow_method }
    | none => .ok s
  | .creditWindowsSizeReplace value => .ok { s with
      credit_windows_size_ := value
      credit_arr_ := List.replicate value.toNat 0
      elements_packet_count_ := List.replicate value.toNat 0 }
  | .maxSlippageReplace value => .ok { s with max_slippage_ := value }

/-- A run goes on as long as the checks return. -/
def flowStep (s : Except Stop FlowControl) (e : FlowEvent) : Except Stop FlowControl := s.bind (·.handle e)

/-! ### What a call leaves -/

/-- A call that returns leaves a condition true, and none accesses anything outside a container. -/
def Leaves {σ : Type} (P : σ → Prop) : Except Stop σ → Prop
  | .ok s => P s
  | .error e => e ≠ .outOfBounds

section Leaves

variable {σ τ : Type} {P Q : σ → Prop} {R : τ → Prop} {r : Except Stop σ} {s : σ}

theorem Leaves.ok (h : Leaves P (.ok s)) : P s := h

theorem Leaves.bind {f : σ → Except Stop τ} (h : Leaves P r) (hf : ∀ s, P s → Leaves R (f s)) :
    Leaves R (r.bind f) := by
  cases r with
  | ok s => exact hf s h
  | error e => exact h

theorem Leaves.map {f : σ → τ} (h : Leaves P r) (hf : ∀ s, P s → R (f s)) : Leaves R (r.map f) := by
  cases r with
  | ok s => exact hf s h
  | error e => exact h

/-- The rule of the loop. -/
theorem leaves_repeated {body : σ → Except Stop σ} (hbody : ∀ s, P s → Leaves P (body s)) (n : ℕ)
    (hs : P s) : Leaves P (repeated body n s) := by
  induction n generalizing s with
  | zero => exact hs
  | succ n ih => exact (hbody s hs).bind fun s hs => ih hs

end Leaves

/-! ### What a call that returns has done -/

theorem bind_ok {σ τ : Type} {r : Except Stop σ} {f : σ → Except Stop τ} {t : τ} (h : r.bind f = .ok t) :
    ∃ s, r = .ok s ∧ f s = .ok t := by
  cases r with
  | ok s => exact ⟨s, rfl, h⟩
  | error stop => cases h

theorem map_ok {σ τ : Type} {r : Except Stop σ} {f : σ → τ} {t : τ} (h : r.map f = .ok t) :
    ∃ s, r = .ok s ∧ f s = t := by
  cases r with
  | ok s => exact ⟨s, rfl, Except.ok.inj h⟩
  | error stop => cases h

/-- The rule of the loop for a relation between the states before and after. -/
theorem repeated_rel {σ : Type} {body : σ → Except Stop σ} {R : σ → σ → Prop} (hrefl : ∀ s, R s s)
    (htrans : ∀ s t u, R s t → R t u → R s u) (hbody : ∀ s t, body s = .ok t → R s t) {n : ℕ} {s t : σ}
    (h : repeated body n s = .ok t) : R s t := by
  induction n generalizing s with
  | zero => exact Except.ok.inj h ▸ hrefl s
  | succ n ih =>
    obtain ⟨u, hu, hrest⟩ := bind_ok h
    exact htrans s u t (hbody s u hu) (ih hrest)

theorem leaves_readEntry {entries : List UInt32} {i : UInt32} (h : i.toNat < entries.length) :
    Leaves (fun entry => entries[i.toNat]? = some entry) (readEntry entries i) := by
  rw [readEntry, List.getElem?_eq_getElem h]
  rfl

/-- The whole vector is filled. -/
theorem fill_eq {entries : List UInt32} {n : UInt32} (h : entries.length = n.toNat) (value : UInt32) :
    fill entries n value = .ok (List.replicate n.toNat value) := by
  rw [fill, if_pos (Nat.le_of_eq h.symm), ← h, List.drop_length, List.append_nil]

theorem leaves_fill {entries : List UInt32} {n : UInt32} (h : entries.length = n.toNat) (value : UInt32) :
    Leaves (fun filled => filled = List.replicate n.toNat value) (fill entries n value) := by
  rw [fill_eq h]
  rfl

theorem nextIndex_lt {window i : UInt32} (h : 0 < window.toNat) : (nextIndex window i).toNat < window.toNat := by
  rw [nextIndex]
  split
  · exact h
  · rename_i hlt
    exact UInt32.lt_iff_toNat_lt.mp (UInt32.not_le.mp hlt)

theorem Settling.leaves_loop {window : UInt32} (n : ℕ) {s : Settling} (hw : window.toNat = s.credit_arr_.length)
    (hind : s.ind.toNat < window.toNat) :
    Leaves (fun t => t.credit_arr_.length = s.credit_arr_.length) (loop window n s) := by
  induction n generalizing s with
  | zero =>
    rw [loop]
    split
    · rfl
    · exact Stop.noConfusion
  | succ n ih =>
    rw [loop]
    split
    · rfl
    · refine Leaves.bind (P := fun t => t.credit_arr_.length = s.credit_arr_.length ∧ t.ind.toNat < window.toNat)
        ?_ fun t ht => ?_
      · refine (leaves_readEntry (hw ▸ hind)).bind fun entry _ => ?_
        split
        · exact ⟨List.length_set, nextIndex_lt (Nat.zero_lt_of_lt hind)⟩
        · exact ⟨List.length_set, hind⟩
      · rw [← ht.1]
        exact ih (hw.trans ht.1.symm) ht.2

/-! ### The consistent states -/

/-- The packets or the credit in a container. -/
def total (entries : List UInt32) : ℕ := (entries.map UInt32.toNat).sum

/-- The members of the `credit` and the `limit_credit` method fit together. -/
structure FlowControl.Coupled (s : FlowControl) : Prop where
  credit_arr_ : s.credit_arr_.length = s.credit_windows_size_.toNat
  elements_packet_count_ : s.elements_packet_count_.length = s.credit_windows_size_.toNat
  credit_arr_ind_ : s.credit_arr_ind_.toNat < s.credit_arr_.length
  window_total_packets_ : s.window_total_packets_.toNat = total s.elements_packet_count_

/-- An event that finds the adaptive method compute the configured window, or replaces the window when no
packet is counted by one that has the index in it. -/
def FlowControl.Harmless (s : FlowControl) : FlowEvent → Prop
  | .check _ => s.flow_method_ = .adaptive → s.max_packets_per_second_ ≠ 0 →
      adaptiveWindow s.flow_times_fixed_.length s.max_packets_per_second_ = s.credit_windows_size_
  | .creditWindowsSizeReplace value => s.credit_arr_ind_ < value ∧ s.window_total_packets_ = 0
  | _ => True

@[simp]
theorem total_nil : total [] = 0 := rfl

@[simp]
theorem total_cons (entry : UInt32) (entries : List UInt32) :
    total (entry :: entries) = entry.toNat + total entries := by simp [total]

@[simp]
theorem total_append (xs ys : List UInt32) : total (xs ++ ys) = total xs + total ys := by simp [total]

@[simp]
theorem total_replicate (n : ℕ) (value : UInt32) : total (List.replicate n value) = n * value.toNat := by
  simp [total]

namespace FlowControl

variable {s s' : FlowControl} {clocks : Clocks}

theorem Coupled.window_pos (h : s.Coupled) : 0 < s.credit_windows_size_.toNat :=
  h.credit_arr_ ▸ Nat.zero_lt_of_lt h.credit_arr_ind_

theorem coupled_new {window : UInt32} (h : 1 ≤ window) (rate : UInt32) (method : FlowMethod)
    (slippage : UInt32) (now : ℕ) : (new rate method window slippage now).Coupled where
  credit_arr_ := List.length_replicate
  elements_packet_count_ := List.length_replicate
  credit_arr_ind_ := by
    rw [new, List.length_replicate]
    exact UInt32.le_iff_toNat_le.mp h
  window_total_packets_ := by simp [new]

/-- Nothing but the queues of times changes. -/
theorem removePastData_eq (s : FlowControl) (time : UInt64) : ∃ normal fixed,
    s.removePastData time = { s with flow_times_normal_ := normal, flow_times_fixed_ := fixed } := by
  rw [removePastData]
  split
  · exact ⟨_, _, rfl⟩
  · exact ⟨_, _, rfl⟩
  · exact ⟨_, _, rfl⟩
  · exact ⟨s.flow_times_normal_, s.flow_times_fixed_, rfl⟩

theorem Coupled.removePastData (h : s.Coupled) (time : UInt64) : (s.removePastData time).Coupled := by
  obtain ⟨normal, fixed, heq⟩ := removePastData_eq s time
  rw [heq]
  exact ⟨h.1, h.2, h.3, h.4⟩

theorem Coupled.checkNormal (h : s.Coupled) (clocks : Clocks) : (s.checkNormal clocks).1.Coupled := by
  have hpast := h.removePastData clocks.current_time
  rw [FlowControl.checkNormal]
  split
  · exact ⟨hpast.1, hpast.2, hpast.3, hpast.4⟩
  · exact hpast

theorem Coupled.checkFixed (h : s.Coupled) (clocks : Clocks) : (s.checkFixed clocks).1.Coupled := by
  have hpast := h.removePastData clocks.current_time
  rw [FlowControl.checkFixed]
  split
  · exact ⟨hpast.1, hpast.2, hpast.3, hpast.4⟩
  · exact hpast

theorem Coupled.takeCredit (h : s.Coupled) (clocks : Clocks) : (s.takeCredit clocks).1.Coupled := by
  rw [FlowControl.takeCredit]
  split
  · exact ⟨h.1, h.2, h.3, h.4⟩
  · exact h

/-- The `credit` method keeps its array and its index in the array. -/
theorem Coupled.initCredit (h : s.Coupled) (sec : UInt64) : Leaves Coupled (s.initCredit sec) := by
  refine (leaves_fill h.credit_arr_ 0).bind fun entries hentries => ?_
  have hlength : entries.length = s.credit_windows_size_.toNat := by rw [hentries, List.length_replicate]
  exact ⟨hlength, h.2, Nat.lt_of_lt_of_eq h.window_pos hlength.symm, h.4⟩

theorem Coupled.idleSecond (h : s.Coupled) : Leaves Coupled s.idleSecond := by
  refine (leaves_readEntry h.credit_arr_ind_).bind fun entry _ => ?_
  have hnext : (nextIndex s.credit_windows_size_ s.credit_arr_ind_).toNat < s.credit_arr_.length :=
    h.credit_arr_ ▸ nextIndex_lt h.window_pos
  exact ⟨List.length_set.trans h.1, h.2, Nat.lt_of_lt_of_eq hnext List.length_set.symm, h.4⟩

theorem Coupled.closeSecond (h : s.Coupled) (left : UInt32) : Leaves Coupled (s.closeSecond left) := by
  refine (leaves_readEntry h.credit_arr_ind_).bind fun entry _ => ?_
  have hnext : (nextIndex s.credit_windows_size_ s.credit_arr_ind_).toNat < s.credit_arr_.length :=
    h.credit_arr_ ▸ nextIndex_lt h.window_pos
  exact ⟨List.length_set.trans h.1, h.2, Nat.lt_of_lt_of_eq hnext List.length_set.symm, h.4⟩

theorem Coupled.catchUp (h : s.Coupled) (passed : UInt64) : Leaves Coupled (s.catchUp passed) := by
  rw [FlowControl.catchUp]
  split
  · refine (leaves_fill h.credit_arr_ s.max_packets_per_second_).bind fun entries hentries => ?_
    have hlength : entries.length = s.credit_windows_size_.toNat := by rw [hentries, List.length_replicate]
    exact ⟨hlength, h.2, Nat.lt_of_lt_of_eq h.window_pos hlength.symm, h.4⟩
  · exact leaves_repeated (fun s hs => hs.idleSecond) _ h

theorem Coupled.settle (h : s.Coupled) (sec : UInt64) : Leaves Coupled (s.settle sec) := by
  have hclosing {entries : List UInt32} (hlength : entries.length = s.credit_arr_.length) : Coupled { s with
      last_sec_ := sec
      available_credit_ := s.available_credit_ + (s.max_packets_per_second_ - s.npack_in_sec_)
      credit_arr_ := entries } :=
    ⟨hlength.trans h.1, h.2, Nat.lt_of_lt_of_eq h.3 hlength.symm, h.4⟩
  rw [FlowControl.settle]
  split
  · exact (hclosing rfl).closeSecond _
  · have hind : s.credit_arr_ind_.toNat < s.credit_windows_size_.toNat := h.credit_arr_ ▸ h.credit_arr_ind_
    exact (Settling.leaves_loop _ h.credit_arr_.symm hind).bind fun settled hlength =>
      (hclosing hlength).closeSecond 0

theorem Coupled.turnSecond (h : s.Coupled) (sec : UInt64) : Leaves Coupled (s.turnSecond sec) := by
  rw [FlowControl.turnSecond]
  split
  · exact h.initCredit sec
  · split
    · exact (h.catchUp _).bind fun s hs => hs.settle sec
    · exact h

/-- The `limit_credit` method keeps the number of its counters and their sum. -/
theorem Coupled.slide (h : s.Coupled) : Leaves Coupled s.slide := by
  have hpos := h.window_pos
  rw [← h.elements_packet_count_] at hpos
  rw [FlowControl.slide]
  cases hcounts : s.elements_packet_count_ with
  | nil => simp [hcounts] at hpos
  | cons front rest =>
    have hsum : s.window_total_packets_.toNat = front.toNat + total rest := by
      rw [h.window_total_packets_, hcounts, total_cons]
    refine ⟨h.1, ?_, h.3, ?_⟩
    · rw [← h.elements_packet_count_, hcounts]
      simp
    · have hle : front ≤ s.window_total_packets_ := UInt32.le_iff_toNat_le.mpr (by omega)
      show (s.window_total_packets_ - front).toNat = total (rest ++ [0])
      rw [UInt32.toNat_sub_of_le _ _ hle, hsum]
      simp

theorem Coupled.countPacket (h : s.Coupled) : Leaves (fun r => r.1.Coupled) s.countPacket := by
  have hpos := h.window_pos
  rw [← h.elements_packet_count_] at hpos
  have hne : s.elements_packet_count_ ≠ [] := List.length_pos_iff.mp hpos
  obtain ⟨back, hback⟩ : ∃ back, s.elements_packet_count_.getLast? = some back :=
    ⟨_, List.getLast?_eq_some_getLast hne⟩
  rw [FlowControl.countPacket, hback]
  simp only
  split
  · exact h
  · rename_i hroom
    have hsplit : s.elements_packet_count_.dropLast ++ [back] = s.elements_packet_count_ :=
      List.dropLast_append_getLast? back hback
    have hsum : s.window_total_packets_.toNat = total s.elements_packet_count_.dropLast + back.toNat := by
      rw [h.window_total_packets_, ← hsplit]
      simp
    -- the limit is no number above 2^32, so that the counters do not wrap
    have hlt := UInt32.lt_iff_toNat_lt.mp (UInt32.not_le.mp (not_or.mp hroom).2)
    have hlimit := (s.max_packets_per_second_ * s.credit_windows_size_).toNat_lt
    refine ⟨h.1, ?_, h.3, ?_⟩
    · rw [← h.elements_packet_count_]
      simp only [List.length_append, List.length_dropLast, List.length_singleton]
      omega
    · show (s.window_total_packets_ + 1).toNat = total (s.elements_packet_count_.dropLast ++ [back + 1])
      rw [total_append, total_cons, total_nil, UInt32.toNat_add, UInt32.toNat_add, UInt32.toNat_one]
      omega

theorem Coupled.checkLimitCredit (h : s.Coupled) (clocks : Clocks) :
    Leaves (fun r => r.1.Coupled) (s.checkLimitCredit clocks) := by
  rw [FlowControl.checkLimitCredit]
  split
  · exact Stop.noConfusion
  · refine (leaves_repeated (fun s hs => hs.slide) _ h).bind fun s hs => ?_
    exact Coupled.countPacket ⟨hs.1, hs.2, hs.3, hs.4⟩

/-- The `adaptive` method writes the window. -/
theorem checkAdaptive_eq (hrate : s.max_packets_per_second_ ≠ 0) (clocks : Clocks) : ∃ normal fixed answer,
    s.checkAdaptive clocks = .ok ({ s with
      flow_times_normal_ := normal
      flow_times_fixed_ := fixed
      credit_windows_size_ := adaptiveWindow s.flow_times_fixed_.length s.max_packets_per_second_ }, answer) := by
  obtain ⟨normal, fixed, heq⟩ := removePastData_eq { s with
    credit_windows_size_ := adaptiveWindow s.flow_times_fixed_.length s.max_packets_per_second_ }
    clocks.current_time
  rw [FlowControl.checkAdaptive, if_neg hrate]
  simp only [heq]
  split
  · exact ⟨normal, _, _, rfl⟩
  · exact ⟨normal, fixed, _, rfl⟩

/-- **A harmless event** keeps the members consistent. -/
theorem Coupled.handle (h : s.Coupled) {e : FlowEvent} (he : s.Harmless e) : Leaves Coupled (s.handle e) := by
  cases e with
  | check clocks =>
    refine Leaves.map (P := fun r => r.1.Coupled) ?_ fun r hr => hr
    rw [FlowControl.check]
    split
    · exact h.checkNormal clocks
    · exact h.checkFixed clocks
    · rename_i hmethod
      by_cases hrate : s.max_packets_per_second_ = 0
      · rw [FlowControl.checkAdaptive, if_pos hrate]
        exact Stop.noConfusion
      · obtain ⟨normal, fixed, answer, heq⟩ := checkAdaptive_eq hrate clocks
        rw [heq, he hmethod hrate]
        exact ⟨h.1, h.2, h.3, h.4⟩
    · exact (h.turnSecond _).map fun s hs => hs.takeCredit clocks
    · exact h.checkLimitCredit clocks
    · exact h
  | maxPacketsPerSecondReplace value => exact ⟨h.1, h.2, h.3, h.4⟩
  | flowMethodReplace conf =>
    rw [FlowControl.handle]
    split
    · exact ⟨h.1, h.2, h.3, h.4⟩
    · exact h
  | creditWindowsSizeReplace value =>
    refine ⟨List.length_replicate, List.length_replicate, ?_, ?_⟩
    · exact Nat.lt_of_lt_of_eq (UInt32.lt_iff_toNat_lt.mp he.1) List.length_replicate.symm
    · show s.window_total_packets_.toNat = total (List.replicate value.toNat 0)
      rw [he.2, total_replicate]
      rfl
  | maxSlippageReplace value => exact ⟨h.1, h.2, h.3, h.4⟩

/-- **No other event does.** -/
theorem coupled_handle_iff (h : s.Coupled) {e : FlowEvent} (hs : s.handle e = .ok s') :
    s'.Coupled ↔ s.Harmless e := by
  refine ⟨fun h' => ?_, fun he => ?_⟩
  swap
  · have hleaves := h.handle he
    rw [hs] at hleaves
    exact hleaves
  cases e with
  | check clocks =>
    intro hmethod hrate
    obtain ⟨normal, fixed, answer, heq⟩ := checkAdaptive_eq hrate clocks
    have hs' : s.handle (.check clocks) = (s.checkAdaptive clocks).map Prod.fst := by
      rw [FlowControl.handle, FlowControl.check, hmethod]
    rw [hs, heq] at hs'
    have hlength := h'.credit_arr_
    rw [Except.ok.inj hs'] at hlength
    exact UInt32.toNat_inj.mp (hlength.symm.trans h.credit_arr_)
  | maxPacketsPerSecondReplace value => trivial
  | flowMethodReplace conf => trivial
  | creditWindowsSizeReplace value =>
    obtain rfl := Except.ok.inj hs
    refine ⟨?_, ?_⟩
    · have hlt := h'.credit_arr_ind_
      simp only [List.length_replicate] at hlt
      exact UInt32.lt_iff_toNat_lt.mpr hlt
    · have htotal := h'.window_total_packets_
      simp only [total_replicate] at htotal
      exact UInt32.toNat_inj.mp (by simpa using htotal)
  | maxSlippageReplace value => trivial

/-- **The members of the two methods stay consistent** in a run of harmless events, and no access is outside
a container. -/
theorem coupled_run (rate window slippage : UInt32) (method : FlowMethod) (now : ℕ) (events : List FlowEvent)
    (hwindow : 1 ≤ window)
    (h : Along flowStep (fun s e => ∀ t, s = .ok t → t.Harmless e) (.ok (new rate method window slippage now))
      events) :
    let s := run flowStep (.ok (new rate method window slippage now)) events
    s ≠ .error .outOfBounds ∧ ∀ t, s = .ok t → t.Coupled := by
  intro s
  have hs : Leaves Coupled s := by
    refine h.invariant (I := Leaves Coupled) ?_ (coupled_new hwindow rate method slippage now)
    intro s e hs he
    cases s with
    | ok t => exact Coupled.handle hs (he t rfl)
    | error stop => exact hs
  cases hres : s with
  | ok t =>
    rw [hres] at hs
    exact ⟨fun hstop => (nomatch hstop), fun t ht => Except.ok.inj ht ▸ hs⟩
  | error stop =>
    rw [hres] at hs
    exact ⟨fun hstop => hs (Except.error.inj hstop), fun t ht => nomatch ht⟩

/-- Checks with the `adaptive` method that compute the window they find, which is replaced before the first packet
is counted with `limit_credit`. -/
def adaptiveFirst : List FlowEvent :=
  [.check ⟨5, 0, 0⟩, .check ⟨6, 0, 0⟩, .creditWindowsSizeReplace 3, .flowMethodReplace "limit_credit",
    .check ⟨7, 0, 0⟩, .maxSlippageReplace 2]

theorem coupled_run_adaptiveFirst :
    let s := run flowStep (.ok (new 2000000 .adaptive 1 0 0)) adaptiveFirst
    s ≠ .error .outOfBounds ∧ ∀ t, s = .ok t → t.Coupled := by
  refine coupled_run 2000000 1 0 .adaptive 0 adaptiveFirst (by decide) ⟨?_, ?_, ?_, ?_, ?_, ?_, trivial⟩
  all_goals
    intro t ht
    obtain rfl := Except.ok.inj ht
  · exact fun _ _ => by decide
  · exact fun _ _ => by decide
  · exact ⟨by decide, by decide⟩
  · exact trivial
  · exact fun hmethod => nomatch hmethod
  · exact trivial

/-- A packet that is counted when the window is replaced stays counted. -/
theorem not_coupled_run : ¬ ∀ (rate window slippage : UInt32) (method : FlowMethod) (now : ℕ)
    (events : List FlowEvent), 1 ≤ window → (∀ v, .creditWindowsSizeReplace v ∈ events → 1 ≤ v) →
    ∀ t, run flowStep (.ok (new rate method window slippage now)) events = .ok t → t.Coupled := by
  intro h
  have hcoupled := h 3 5 0 .limitCredit 0 [.check ⟨0, 0, 0⟩, .creditWindowsSizeReplace 5] (by decide)
    (by simp) _ rfl
  exact absurd hcoupled.window_total_packets_ (by decide)

end FlowControl

end SmppGateway.Gateway
