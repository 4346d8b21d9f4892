import SmppGateway.Net.FlatBuffer
import SmppGateway.Foundation.Run

/-!
# The receive buffer as a bounded queue

Any calls of `prepare`, `commit` and `consume`, one after the other, where a `commit` comes right behind a
`prepare` that has not thrown.

## The model

Here the cursors of `detail::flat_buffer` are what the code computes, with nothing known about them: pointers,
counted from `buf_.begin()` in 64 bits, where sums and differences wrap around. `FlatBuffer` has them in order
by its type. The caller of `prepare` fills the region it is given; where it does not, it is taken to write what is
there already.

## What is proved

* `Simulates.prepare`, `Simulates.commit`, `Simulates.consume` — with its cursors in order, the buffer does what
  `FlatBuffer` does.
* `queued_run` — after any calls it stands for some `FlatBuffer` that holds the queue.
* `run_queue` — it is a bounded queue, and the cursors stay in the array.
-/

namespace SmppGateway.Net

open Foundation

/-- `flat_buffer<uint8_t, N>`, with its pointers as offsets. -/
structure RawBuffer (N : UInt64) where
  buf_ : ℕ → UInt8
  in_ : UInt64
  out_ : UInt64
  last_ : UInt64

/-- `dist`. -/
def dist (first last : UInt64) : UInt64 := last - first

namespace RawBuffer

variable {N : UInt64}

/-- A buffer as it is constructed. -/
def empty : RawBuffer N := ⟨fun _ => 0, 0, 0, 0⟩

/-- `size`. -/
def size (b : RawBuffer N) : UInt64 := dist b.in_ b.out_

/-- `capacity`. -/
def capacity (_ : RawBuffer N) : UInt64 := N

/-- What `begin()` to `end()` holds. -/
def contents (b : RawBuffer N) : Bytes := span b.buf_ b.in_.toNat b.out_.toNat

/-- `std::memmove(buf_.begin(), in_, len)`. -/
def moved (b : RawBuffer N) (len : UInt64) : ℕ → UInt8 :=
  fun i => if i < len.toNat then b.buf_ (b.in_.toNat + i) else b.buf_ i

/-- `prepare`. -/
def prepare (b : RawBuffer N) (n : UInt64) : RawBuffer N × Except Fault Region :=
  if n ≤ dist b.out_ N then ({ b with last_ := b.out_ + n }, .ok ⟨b.out_.toNat, n.toNat⟩)
  else
    let len := b.size
    if n > b.capacity - len then (b, .error FlatBuffer.overflow)
    else
      let buf_ := if len > 0 then b.moved len else b.buf_
      let in_ : UInt64 := 0
      let out_ := in_ + len
      let last_ := out_ + n
      (⟨buf_, in_, out_, last_⟩, .ok ⟨out_.toNat, n.toNat⟩)

/-- What whoever was given a region from `first` on puts there. -/
def write (b : RawBuffer N) (first : ℕ) (data : Bytes) : RawBuffer N :=
  { b with buf_ := fun i => if first ≤ i then data.getD (i - first) (b.buf_ i) else b.buf_ i }

/-- `commit`. -/
def commit (b : RawBuffer N) (n : UInt64) : RawBuffer N := { b with out_ := b.out_ + min n (b.last_ - b.out_) }

/-- `consume`. -/
def consume (b : RawBuffer N) (n : UInt64) : RawBuffer N :=
  if n ≥ b.size then { b with in_ := 0, out_ := 0 } else { b with in_ := b.in_ + n }

end RawBuffer

/-! ### The buffer with its cursors in order -/

/-- Inside the array a sum does not wrap around. -/
theorem toNat_add_of_le {N a n : UInt64} (h : a.toNat + n.toNat ≤ N.toNat) :
    (a + n).toNat = a.toNat + n.toNat := by
  rw [UInt64.toNat_add, Nat.mod_eq_of_lt (Nat.lt_of_le_of_lt h N.toNat_lt)]

/-- The buffers have the same cells and the same cursors. -/
structure Simulates {N : UInt64} (b : RawBuffer N) (f : FlatBuffer UInt8 N.toNat) : Prop where
  buf_ : b.buf_ = f.buf_
  in_ : b.in_.toNat = f.in_
  out_ : b.out_.toNat = f.out_
  last_ : b.last_.toNat = f.last_

namespace Simulates

variable {N : UInt64} {b : RawBuffer N} {f : FlatBuffer UInt8 N.toNat}

theorem empty : Simulates (RawBuffer.empty : RawBuffer N) FlatBuffer.empty := ⟨rfl, rfl, rfl, rfl⟩

theorem contents (h : Simulates b f) : b.contents = f.contents := by
  rw [RawBuffer.contents, FlatBuffer.contents, h.buf_, h.in_, h.out_]

theorem write (h : Simulates b f) (first : ℕ) (data : Bytes) :
    Simulates (b.write first data) (f.write first data) where
  buf_ := by rw [RawBuffer.write, FlatBuffer.write, h.buf_]
  in_ := h.in_
  out_ := h.out_
  last_ := h.last_

theorem toNat_size (h : Simulates b f) : b.size.toNat = f.size := by
  have hle : b.in_ ≤ b.out_ := by
    rw [UInt64.le_iff_toNat_le, h.in_, h.out_]
    exact f.in_le_out
  rw [RawBuffer.size, dist, UInt64.toNat_sub_of_le _ _ hle, h.in_, h.out_, FlatBuffer.size]

/-- How much may be prepared behind what has been committed. -/
theorem le_dist_iff (h : Simulates b f) (n : UInt64) : n ≤ dist b.out_ N ↔ n.toNat ≤ N.toNat - f.out_ := by
  have hle : b.out_ ≤ N := by
    rw [UInt64.le_iff_toNat_le, h.out_]
    exact f.out_le
  rw [UInt64.le_iff_toNat_le, dist, UInt64.toNat_sub_of_le _ _ hle, h.out_]

/-- How much may be prepared at all. -/
theorem gt_capacity_iff (h : Simulates b f) (n : UInt64) :
    n > b.capacity - b.size ↔ n.toNat > N.toNat - f.size := by
  have hle : b.size ≤ N := by
    rw [UInt64.le_iff_toNat_le, h.toNat_size]
    exact f.size_le
  rw [gt_iff_lt, UInt64.lt_iff_toNat_lt, RawBuffer.capacity, UInt64.toNat_sub_of_le _ _ hle, h.toNat_size]

/-- **`prepare`** does the same, and throws where `FlatBuffer` does, with the buffer as it was. -/
theorem prepare (h : Simulates b f) (n : UInt64) :
    (∃ b' f' region, b.prepare n = (b', .ok region) ∧ f.prepare n.toNat = .ok (f', region) ∧ Simulates b' f') ∨
    (b.prepare n = (b, .error FlatBuffer.overflow) ∧ f.prepare n.toNat = .error FlatBuffer.overflow) := by
  rw [RawBuffer.prepare, FlatBuffer.prepare]
  by_cases hfit : n.toNat ≤ N.toNat - f.out_
  · rw [if_pos ((h.le_dist_iff n).mpr hfit), dif_pos hfit, h.out_]
    refine .inl ⟨_, _, _, rfl, rfl, h.buf_, h.in_, h.out_, ?_⟩
    have hroom : b.out_.toNat + n.toNat ≤ N.toNat := by
      rw [h.out_]
      have := f.out_le
      omega
    rw [toNat_add_of_le hroom, h.out_]
  rw [if_neg (fun hraw => hfit ((h.le_dist_iff n).mp hraw)), dif_neg hfit]
  by_cases hover : n.toNat > N.toNat - f.size
  · have hraw := (h.gt_capacity_iff n).mpr hover
    simp only [if_pos hraw, dif_pos hover]
    exact .inr ⟨trivial, trivial⟩
  · have hraw : ¬ n > b.capacity - b.size := fun hraw => hover ((h.gt_capacity_iff n).mp hraw)
    simp only [if_neg hraw, dif_neg hover]
    have hout : (0 + b.size).toNat = f.size := by rw [UInt64.zero_add, h.toNat_size]
    refine .inl ⟨_, _, _, rfl, by rw [hout], ?_, rfl, hout, ?_⟩
    · have hpos : (b.size > 0) = (f.size > 0) := by
        rw [gt_iff_lt, UInt64.lt_iff_toNat_lt, h.toNat_size]
        rfl
      have hmoved : b.moved b.size = f.moved f.size := by
        funext i
        rw [RawBuffer.moved, FlatBuffer.moved, h.toNat_size, h.buf_, h.in_]
      simp only [hpos, hmoved, h.buf_]
    · have hroom : (0 + b.size).toNat + n.toNat ≤ N.toNat := by
        rw [hout]
        have := f.size_le
        omega
      rw [toNat_add_of_le hroom, hout]

/-- **`commit`** does the same. -/
theorem commit (h : Simulates b f) (n : UInt64) : Simulates (b.commit n) (f.commit n.toNat) := by
  have hlast : (b.last_ - b.out_).toNat = f.last_ - f.out_ := by
    have hle : b.out_ ≤ b.last_ := by
      rw [UInt64.le_iff_toNat_le, h.out_, h.last_]
      exact f.out_le_last
    rw [UInt64.toNat_sub_of_le _ _ hle, h.last_, h.out_]
  have hmin : (min n (b.last_ - b.out_)).toNat = min n.toNat (f.last_ - f.out_) := by
    have hdef : min n (b.last_ - b.out_) = if n ≤ b.last_ - b.out_ then n else b.last_ - b.out_ := rfl
    rw [hdef, ← hlast, Nat.min_def]
    simp only [UInt64.le_iff_toNat_le]
    split <;> rfl
  refine ⟨h.buf_, h.in_, ?_, h.last_⟩
  have hroom : b.out_.toNat + (min n (b.last_ - b.out_)).toNat ≤ N.toNat := by
    rw [hmin, h.out_]
    have := f.out_le_last
    have := f.last_le
    omega
  rw [RawBuffer.commit, FlatBuffer.commit, toNat_add_of_le hroom, hmin, h.out_]

/-- **`consume`** does the same. -/
theorem consume (h : Simulates b f) (n : UInt64) : Simulates (b.consume n) (f.consume n.toNat) := by
  have hall : n ≥ b.size ↔ n.toNat ≥ f.size := by rw [ge_iff_le, UInt64.le_iff_toNat_le, h.toNat_size]
  rw [RawBuffer.consume, FlatBuffer.consume]
  by_cases hn : n.toNat ≥ f.size
  · rw [if_pos (hall.mpr hn), dif_pos hn]
    exact ⟨h.buf_, rfl, rfl, h.last_⟩
  · rw [if_neg (fun hraw => hn (hall.mp hraw)), dif_neg hn]
    refine ⟨h.buf_, ?_, h.out_, h.last_⟩
    have hroom : b.in_.toNat + n.toNat ≤ N.toNat := by
      rw [h.in_]
      have := f.in_add_size
      have := f.out_le
      omega
    rw [toNat_add_of_le hroom, h.in_]

end Simulates

/-! ### The queue -/

/-- A call. -/
inductive BufferCall where
  /-- `prepare`, and what the caller then puts into the region. -/
  | prepare (n : UInt64) (data : Bytes)
  | commit (n : UInt64)
  | consume (n : UInt64)
  deriving DecidableEq, Repr

/-- A buffer and a queue of bytes. -/
structure Queued (N : UInt64) where
  buffer : RawBuffer N
  queue : Bytes
  /-- What has been put into a region that may be committed now. -/
  written : Option Bytes

namespace Queued

variable {N : UInt64}

/-- A new buffer and an empty queue. -/
def new : Queued N := ⟨RawBuffer.empty, [], none⟩

/-- A call. The queue takes the first bytes that were written at a `commit`, and drops bytes at a `consume`. -/
def step (s : Queued N) : BufferCall → Queued N
  | .prepare n data =>
    match s.buffer.prepare n with
    | (b, .ok region) => ⟨b.write region.first data, s.queue, some data⟩
    | (b, .error _) => ⟨b, s.queue, none⟩
  | .commit n => ⟨s.buffer.commit n, s.queue ++ (s.written.getD []).take n.toNat, none⟩
  | .consume n => ⟨s.buffer.consume n, s.queue.drop n.toNat, none⟩

/-- The caller fills the region, and commits right behind a `prepare` that has not thrown. -/
def Admissible (s : Queued N) : BufferCall → Prop
  | .prepare n data => data.length = n.toNat
  | .commit _ => s.written ≠ none
  | .consume _ => True

/-- **The invariant**: the buffer stands for a `FlatBuffer` that holds the queue, and what has been written is in
the region behind it. -/
def Holds (s : Queued N) : Prop :=
  ∃ f : FlatBuffer UInt8 N.toNat, Simulates s.buffer f ∧ f.contents = s.queue ∧
    ∀ data ∈ s.written, ∃ f₀ : FlatBuffer UInt8 N.toNat,
      f = f₀.write f₀.out_ data ∧ f₀.last_ = f₀.out_ + data.length

theorem holds_new : (new : Queued N).Holds :=
  ⟨FlatBuffer.empty, .empty, rfl, fun _ hdata => nomatch hdata⟩

theorem holds_step (s : Queued N) (call : BufferCall) (hs : s.Holds) (hcall : s.Admissible call) :
    (s.step call).Holds := by
  obtain ⟨f, hsim, hqueue, hwritten⟩ := hs
  cases call with
  | prepare n data =>
    obtain ⟨b', f', region, hb, hf, hsim'⟩ | ⟨hb, -⟩ := hsim.prepare n
    · obtain ⟨hcontents, rfl, hlast⟩ := FlatBuffer.contents_prepare hf
      simp only [step, hb]
      refine ⟨f'.write f'.out_ data, hsim'.write f'.out_ data, ?_, ?_⟩
      · rw [FlatBuffer.contents_write, hcontents, hqueue]
      · rintro _ ⟨rfl⟩
        exact ⟨f', rfl, by rw [hlast, hcall]⟩
    · simp only [step, hb]
      exact ⟨f, hsim, hqueue, fun _ hdata => nomatch hdata⟩
  | commit n =>
    obtain ⟨data, hdata⟩ := Option.ne_none_iff_exists'.mp hcall
    obtain ⟨f₀, rfl, hlast⟩ := hwritten data hdata
    have hroom : f₀.last_ - f₀.out_ = data.length := by omega
    refine ⟨_, hsim.commit n, ?_, fun _ hnone => nomatch hnone⟩
    calc ((f₀.write f₀.out_ data).commit n.toNat).contents
        = f₀.contents ++ data.take (min n.toNat data.length) := by
          rw [f₀.contents_commit (by omega), hroom]
      _ = s.queue ++ (s.written.getD []).take n.toNat := by
          rw [← hqueue, FlatBuffer.contents_write, hdata, Option.getD_some, ← List.take_eq_take_min]
  | consume n =>
    refine ⟨_, hsim.consume n, ?_, fun _ hnone => nomatch hnone⟩
    rw [FlatBuffer.contents_consume, hqueue]
    rfl

/-- **After any calls** the invariant holds. -/
theorem holds_run {calls : List BufferCall} (h : Along step Admissible (new : Queued N) calls) :
    (run step (new : Queued N) calls).Holds :=
  h.invariant holds_step holds_new

/-- **The buffer is a bounded queue**: what it holds is the queue, its cursors stay in order and in the array, and
`prepare` throws exactly when the free cells are too few, and then changes nothing. -/
theorem run_queue {calls : List BufferCall} (h : Along step Admissible (new : Queued N) calls) :
    let s := run step (new : Queued N) calls
    s.buffer.contents = s.queue ∧ s.buffer.size.toNat = s.queue.length ∧
    (s.buffer.in_ ≤ s.buffer.out_ ∧ s.buffer.out_ ≤ s.buffer.last_ ∧ s.buffer.last_ ≤ N) ∧
    ∀ n : UInt64,
      ((∃ e, (s.buffer.prepare n).2 = .error e) ↔ n.toNat > N.toNat - s.buffer.size.toNat) ∧
      ∀ e, (s.buffer.prepare n).2 = .error e → (s.buffer.prepare n).1 = s.buffer := by
  intro s
  obtain ⟨f, hsim, hqueue, -⟩ : s.Holds := holds_run h
  refine ⟨by rw [hsim.contents, hqueue], by rw [hsim.toNat_size, ← hqueue, f.length_contents], ?_, ?_⟩
  · simp only [UInt64.le_iff_toNat_le, hsim.in_, hsim.out_, hsim.last_]
    exact ⟨f.in_le_out, f.out_le_last, f.last_le⟩
  · intro n
    rw [hsim.toNat_size, ← f.prepare_error_iff]
    obtain ⟨b', f', region, hb, hf, -⟩ | ⟨hb, hf⟩ := hsim.prepare n
    · rw [hb, hf]
      simp
    · rw [hb, hf]
      simp

/-- Four cells: the second region is made by moving a byte to the front, and a third one is too much. -/
def sixCalls : List BufferCall :=
  [.prepare 3 [1, 2, 3], .commit 2, .consume 1, .prepare 3 [7, 8, 9], .commit 5, .prepare 1 [0]]

theorem run_queue_sixCalls :
    let s := run step (new : Queued 4) sixCalls
    s.buffer.contents = [2, 7, 8, 9] ∧ s.written = none ∧ ∃ e, (s.buffer.prepare 1).2 = .error e := by
  have hcalls : Along step Admissible (new : Queued 4) sixCalls := by
    refine ⟨rfl, ?_, trivial, rfl, ?_, rfl, trivial⟩
    · exact fun hnone => nomatch hnone
    · exact fun hnone => nomatch hnone
  obtain ⟨hcontents, hsize, -, hprepare⟩ := run_queue hcalls
  have hqueue : (run step (new : Queued 4) sixCalls).queue = [2, 7, 8, 9] := by decide
  rw [hqueue] at hcontents hsize
  refine ⟨hcontents, by decide, (hprepare 1).1.mpr ?_⟩
  rw [hsize]
  decide

end Queued

end SmppGateway.Net
