import Mathlib.Data.Int.Notation
import SmppGateway.Foundation.Text

/-!
# Trace messages

`message_tracer::produce` (`src/logging/message_tracer.cpp`) gives a trace message to the Kafka producer. It does
so in a loop that goes on while the error is `RD_KAFKA_RESP_ERR_UNKNOWN`.

## The model

What a call of `producer_->produce` comes to is a stream of outcomes, the first for the first call of the loop.
A `continue` inside the `switch` goes to the condition of the loop, as the `break` does. The loop is cut off after
a number of calls.

## What is proved

* `produceLoop_eq_some_iff` — the loop ends at the first outcome that is not the unknown error, and the producer
  has taken the message exactly if that outcome is a success.
* `produce_sends_iff` — a message is sent, and not dropped for a full queue, exactly if that outcome is not a
  full queue.
-/

namespace SmppGateway.Logging

open Foundation

/-- `RD_KAFKA_RESP_ERR_UNKNOWN`. -/
def respErrUnknown : ℤ := -1

/-- `RD_KAFKA_RESP_ERR_NO_ERROR`. -/
def respErrNoError : ℤ := 0

/-- `RD_KAFKA_RESP_ERR__QUEUE_FULL`. -/
def respErrQueueFull : ℤ := -184

/-- `RD_KAFKA_RESP_ERR__UNKNOWN_TOPIC`. -/
def respErrUnknownTopic : ℤ := -188

/-- What a call of `producer_->produce` comes to. -/
inductive ProduceOutcome where
  /-- The producer takes the message. -/
  | success
  /-- A `cppkafka::HandleException` with an error code. -/
  | handleException (error : ℤ)
  deriving DecidableEq, Repr

/-- A call of the producer. -/
inductive ProducerCall where
  /-- `poll`, with its time in milliseconds. -/
  | poll (timeout : ℕ)
  | produce (topic payload : Bytes)
  deriving DecidableEq, Repr

/-- `cppkafka::Producer`: the calls it has got and the messages it has taken. -/
structure Producer where
  calls : List ProducerCall
  enqueued : List (Bytes × Bytes)
  deriving DecidableEq, Repr

namespace Producer

/-- `poll`. -/
def poll (p : Producer) (timeout : ℕ) : Producer := { p with calls := p.calls ++ [.poll timeout] }

/-- `produce`, with what it comes to. -/
def produce (p : Producer) (topic payload : Bytes) : ProduceOutcome → Producer
  | .success => ⟨p.calls ++ [.produce topic payload], p.enqueued ++ [(topic, payload)]⟩
  | .handleException _ => ⟨p.calls ++ [.produce topic payload], p.enqueued⟩

/-- The calls of `produce`. -/
def produceCalls (p : Producer) : ℕ :=
  p.calls.countP fun call => match call with
    | .poll _ => false
    | .produce _ _ => true

@[simp]
theorem produceCalls_poll (p : Producer) (timeout : ℕ) : (p.poll timeout).produceCalls = p.produceCalls := by
  simp [produceCalls, poll]

@[simp]
theorem produceCalls_produce (p : Producer) (topic payload : Bytes) (outcome : ProduceOutcome) :
    (p.produce topic payload outcome).produceCalls = p.produceCalls + 1 := by
  cases outcome <;> simp [produceCalls, produce]

end Producer

/-- `message_tracer`. -/
structure MessageTracer where
  producer_ : Producer
  topic_ : Bytes
  deriving DecidableEq, Repr

/-- The body of the loop of `produce`, with the error it leaves in `err`. -/
def attempt (topic data : Bytes) (p : Producer) (outcome : ProduceOutcome) : Producer × ℤ :=
  let p := p.produce topic data outcome
  match outcome with
  | .success => (p, respErrNoError)
  | .handleException err =>
    -- each of the three branches goes on at the condition of the loop
    if err = respErrQueueFull then (p.poll 100, err)
    else if err = respErrUnknownTopic then (p, err)
    else (p, err)

/-- The loop of `produce` from its `k`-th call on, if it ends within a number of calls. -/
def produceLoop (topic data : Bytes) (outcomes : ℕ → ProduceOutcome) : ℕ → ℕ → Producer → Option Producer
  | 0, _, _ => none
  | n + 1, k, p =>
    let (p, err) := attempt topic data p (outcomes k)
    if err = respErrUnknown then produceLoop topic data outcomes n (k + 1) p else some p

/-- `message_tracer::produce`, if its loop ends within a number of calls. -/
def MessageTracer.produce (t : MessageTracer) (data : Bytes) (outcomes : ℕ → ProduceOutcome) (n : ℕ) :
    Option MessageTracer :=
  (produceLoop t.topic_ data outcomes n 0 (t.producer_.poll 0)).map fun p => { t with producer_ := p }

/-! ### The loop -/

section Loop

variable {topic data : Bytes} {outcomes : ℕ → ProduceOutcome}

/-- The one outcome behind which the loop goes on. -/
def unknownError : ProduceOutcome := .handleException respErrUnknown

theorem attempt_err_iff (p : Producer) (outcome : ProduceOutcome) :
    (attempt topic data p outcome).2 = respErrUnknown ↔ outcome = unknownError := by
  cases outcome with
  | success => simp [attempt, unknownError, respErrNoError, respErrUnknown]
  | handleException err =>
    have herr : (attempt topic data p (.handleException err)).2 = err := by
      simp only [attempt]
      split_ifs <;> rfl
    simp [herr, unknownError]

/-- A call of `produce` each time. -/
@[simp]
theorem produceCalls_attempt (p : Producer) (outcome : ProduceOutcome) :
    (attempt topic data p outcome).1.produceCalls = p.produceCalls + 1 := by
  cases outcome with
  | success => simp [attempt]
  | handleException err =>
    simp only [attempt]
    split_ifs <;> simp

/-- Only a success leaves a message with the producer. -/
theorem enqueued_attempt (p : Producer) (outcome : ProduceOutcome) :
    (attempt topic data p outcome).1.enqueued =
      p.enqueued ++ if outcome = .success then [(topic, data)] else [] := by
  cases outcome with
  | success => rfl
  | handleException err =>
    simp only [attempt]
    split_ifs <;> simp_all [Producer.poll, Producer.produce]

/-- The producer behind `j` unknown errors. -/
def afterUnknown (topic data : Bytes) (p : Producer) : ℕ → Producer
  | 0 => p
  | j + 1 => afterUnknown topic data (attempt topic data p unknownError).1 j

@[simp]
theorem produceCalls_afterUnknown (p : Producer) (j : ℕ) :
    (afterUnknown topic data p j).produceCalls = p.produceCalls + j := by
  induction j generalizing p with
  | zero => rfl
  | succ j ih => rw [afterUnknown, ih, produceCalls_attempt]; omega

@[simp]
theorem enqueued_afterUnknown (p : Producer) (j : ℕ) :
    (afterUnknown topic data p j).enqueued = p.enqueued := by
  induction j generalizing p with
  | zero => rfl
  | succ j ih => rw [afterUnknown, ih, enqueued_attempt]; simp [unknownError]

/-- **The loop** ends at the first outcome that is not the unknown error. -/
theorem produceLoop_eq_some_iff (n k : ℕ) (p p' : Producer) :
    produceLoop topic data outcomes n k p = some p' ↔
      ∃ j < n, (∀ i < j, outcomes (k + i) = unknownError) ∧ outcomes (k + j) ≠ unknownError ∧
        p' = (attempt topic data (afterUnknown topic data p j) (outcomes (k + j))).1 := by
  induction n generalizing k p with
  | zero => simp [produceLoop]
  | succ n ih =>
    rw [produceLoop]
    by_cases hunknown : outcomes k = unknownError
    · have hshift : ∀ i, k + 1 + i = k + (i + 1) := fun i => by omega
      simp only [(attempt_err_iff p (outcomes k)).mpr hunknown, if_true, ih, hshift]
      constructor
      · rintro ⟨j, hj, hbefore, hend, hp⟩
        refine ⟨j + 1, by omega, ?_, hend, ?_⟩
        · intro i hi
          cases i with
          | zero => exact hunknown
          | succ i => exact hbefore i (by omega)
        · rw [hp, afterUnknown, hunknown]
      · rintro ⟨j, hj, hbefore, hend, hp⟩
        cases j with
        | zero => exact absurd hunknown hend
        | succ j =>
          refine ⟨j, by omega, fun i hi => hbefore (i + 1) (by omega), hend, ?_⟩
          rw [hp, afterUnknown, hunknown]
    · have hends : (attempt topic data p (outcomes k)).2 ≠ respErrUnknown :=
        fun herr => hunknown ((attempt_err_iff p (outcomes k)).mp herr)
      simp only [if_neg hends, Option.some.injEq]
      constructor
      · rintro rfl
        exact ⟨0, by omega, fun i hi => absurd hi (Nat.not_lt_zero i), hunknown, rfl⟩
      · rintro ⟨j, hj, hbefore, -, hp⟩
        cases j with
        | zero => exact hp.symm
        | succ j => exact absurd (hbefore 0 (by omega)) hunknown

end Loop

/-! ### What becomes of a message -/

/-- As many full queues as it says, and then a success. -/
def FullThenSuccess (m : ℕ) (outcomes : ℕ → ProduceOutcome) : Prop :=
  (∀ i < m, outcomes i = .handleException respErrQueueFull) ∧ outcomes m = .success

/-- The first outcome that is not the unknown error is a full queue. -/
def FullFirst (outcomes : ℕ → ProduceOutcome) : Prop :=
  ∃ k, (∀ i < k, outcomes i = unknownError) ∧ outcomes k = .handleException respErrQueueFull

namespace MessageTracer

/-- `produce` returns, with so many calls of the producer and the message enqueued once. -/
def Sends (t : MessageTracer) (data : Bytes) (outcomes : ℕ → ProduceOutcome) (calls : ℕ) : Prop :=
  ∃ n t', t.produce data outcomes n = some t' ∧
    t'.producer_.produceCalls = t.producer_.produceCalls + calls ∧
    t'.producer_.enqueued = t.producer_.enqueued ++ [(t.topic_, data)]

/-- `produce` returns without the message enqueued, and the last call of the producer was a full queue. -/
def DropsFull (t : MessageTracer) (data : Bytes) (outcomes : ℕ → ProduceOutcome) : Prop :=
  ∃ n t' k, t.produce data outcomes n = some t' ∧
    t'.producer_.produceCalls = t.producer_.produceCalls + (k + 1) ∧
    outcomes k = .handleException respErrQueueFull ∧ t'.producer_.enqueued = t.producer_.enqueued

variable {t t' : MessageTracer} {data : Bytes} {outcomes : ℕ → ProduceOutcome}

/-- What `produce` leaves at the outcome that ends its loop, the `j`-th one. -/
def ended (t : MessageTracer) (data : Bytes) (outcomes : ℕ → ProduceOutcome) (j : ℕ) : MessageTracer :=
  let p := afterUnknown t.topic_ data (t.producer_.poll 0) j
  { t with producer_ := (attempt t.topic_ data p (outcomes j)).1 }

@[simp]
theorem produceCalls_ended (j : ℕ) :
    (t.ended data outcomes j).producer_.produceCalls = t.producer_.produceCalls + (j + 1) := by
  rw [ended, produceCalls_attempt, produceCalls_afterUnknown, Producer.produceCalls_poll, Nat.add_assoc]

@[simp]
theorem enqueued_ended (j : ℕ) :
    (t.ended data outcomes j).producer_.enqueued =
      t.producer_.enqueued ++ if outcomes j = .success then [(t.topic_, data)] else [] := by
  rw [ended, enqueued_attempt, enqueued_afterUnknown]
  rfl

theorem produce_eq_some_iff {n : ℕ} :
    t.produce data outcomes n = some t' ↔
      ∃ j < n, (∀ i < j, outcomes i = unknownError) ∧ outcomes j ≠ unknownError ∧
        t' = t.ended data outcomes j := by
  rw [produce, Option.map_eq_some_iff]
  constructor
  · rintro ⟨p, hp, rfl⟩
    obtain ⟨j, hj, hbefore, hend, rfl⟩ := (produceLoop_eq_some_iff n 0 _ _).mp hp
    simp only [Nat.zero_add] at hbefore hend ⊢
    exact ⟨j, hj, hbefore, hend, rfl⟩
  · rintro ⟨j, hj, hbefore, hend, rfl⟩
    refine ⟨_, (produceLoop_eq_some_iff n 0 _ _).mpr ⟨j, hj, ?_, ?_, rfl⟩, ?_⟩
    · simpa only [Nat.zero_add] using hbefore
    · simpa only [Nat.zero_add] using hend
    · rw [Nat.zero_add, ended]

/-- After some full queues and a success, the message is sent exactly if there was no full queue. -/
theorem sends_iff {m : ℕ} (h : FullThenSuccess m outcomes) : t.Sends data outcomes (m + 1) ↔ m = 0 := by
  constructor
  · rintro ⟨n, t', ht, hcalls, -⟩
    obtain ⟨j, -, hbefore, -, rfl⟩ := produce_eq_some_iff.mp ht
    rw [produceCalls_ended] at hcalls
    have hjm : j = m := by omega
    subst hjm
    by_contra hne
    have hfirst := h.1 0 (Nat.pos_of_ne_zero hne)
    rw [hbefore 0 (Nat.pos_of_ne_zero hne)] at hfirst
    exact absurd hfirst (by decide)
  · rintro rfl
    have hend : outcomes 0 ≠ unknownError := by
      rw [h.2]
      exact fun hcase => nomatch hcase
    exact ⟨1, _, produce_eq_some_iff.mpr ⟨0, Nat.one_pos, by simp, hend, rfl⟩, produceCalls_ended 0,
      by rw [enqueued_ended, if_pos h.2]⟩

/-- A message is dropped for a full queue exactly if that is the outcome that ends the loop. -/
theorem dropsFull_iff : t.DropsFull data outcomes ↔ FullFirst outcomes := by
  constructor
  · rintro ⟨n, t', k, ht, hcalls, hfull, -⟩
    obtain ⟨j, -, hbefore, -, rfl⟩ := produce_eq_some_iff.mp ht
    rw [produceCalls_ended] at hcalls
    have hjk : j = k := by omega
    subst hjk
    exact ⟨j, hbefore, hfull⟩
  · rintro ⟨k, hbefore, hfull⟩
    have hend : outcomes k ≠ unknownError := by
      rw [hfull]
      decide
    refine ⟨k + 1, _, k, produce_eq_some_iff.mpr ⟨k, Nat.lt_succ_self k, hbefore, hend, rfl⟩,
      produceCalls_ended k, hfull, ?_⟩
    rw [enqueued_ended, hfull]
    simp

end MessageTracer

variable {outcomes : ℕ → ProduceOutcome}

/-- Of these streams, the ones that begin with a full queue. -/
theorem fullFirst_iff {m : ℕ} (h : FullThenSuccess m outcomes) : FullFirst outcomes ↔ 0 < m := by
  constructor
  · rintro ⟨k, hbefore, hfull⟩
    by_contra hm
    obtain rfl : m = 0 := by omega
    cases k with
    | zero => rw [h.2] at hfull; cases hfull
    | succ k =>
      have hfirst := hbefore 0 (Nat.succ_pos k)
      rw [h.2] at hfirst
      cases hfirst
  · exact fun hm => ⟨0, by simp, h.1 0 hm⟩

/-- **A message is sent after any number of full queues, and never dropped for one**, exactly if the first
outcome that is not the unknown error is not a full queue; so among the streams of full queues followed by a
success, for the one without a full queue. -/
theorem produce_sends_iff (t : MessageTracer) (data : Bytes) (outcomes : ℕ → ProduceOutcome) :
    (((∀ m, FullThenSuccess m outcomes → t.Sends data outcomes (m + 1)) ∧ ¬ t.DropsFull data outcomes) ↔
      ¬ FullFirst outcomes) ∧
    ∀ m, FullThenSuccess m outcomes → (FullFirst outcomes ↔ 0 < m) := by
  refine ⟨⟨?_, ?_⟩, fun m h => fullFirst_iff h⟩
  · rintro ⟨-, hdrop⟩
    rwa [MessageTracer.dropsFull_iff] at hdrop
  · intro hfirst
    refine ⟨fun m h => ?_, fun hdrop => hfirst (MessageTracer.dropsFull_iff.mp hdrop)⟩
    rw [fullFirst_iff h] at hfirst
    exact (MessageTracer.sends_iff h).mpr (by omega)

/-- The queue is full once. -/
def fullOnce : ℕ → ProduceOutcome
  | 0 => .handleException respErrQueueFull
  | _ + 1 => .success

/-- A message that is dropped for a full queue: the producer is called once and polled, and takes nothing. -/
theorem produce_fullOnce :
    let t : MessageTracer := ⟨⟨[], []⟩, ascii "trace"⟩
    let data := ascii "message"
    FullThenSuccess 1 fullOnce ∧ ¬ t.Sends data fullOnce 2 ∧ t.DropsFull data fullOnce ∧
      t.produce data fullOnce 1 =
        some ⟨⟨[.poll 0, .produce (ascii "trace") (ascii "message"), .poll 100], []⟩, ascii "trace"⟩ := by
  have hfull : FullThenSuccess 1 fullOnce := ⟨by simp [fullOnce], rfl⟩
  refine ⟨hfull, ?_, ?_, by rfl⟩
  · rw [MessageTracer.sends_iff hfull]
    exact Nat.one_ne_zero
  · exact MessageTracer.dropsFull_iff.mpr ((fullFirst_iff hfull).mpr Nat.one_pos)

end SmppGateway.Logging
