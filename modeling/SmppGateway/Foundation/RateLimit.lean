import Mathlib.Algebra.BigOperators.Group.List.Basic
import Mathlib.Algebra.Order.BigOperators.Group.List
import Mathlib.Algebra.Order.Group.Nat
import Mathlib.Algebra.Ring.Nat

/-!
# Rate limits

What a limiter that lets something pass now and then has let pass in any stretch of time, from what it keeps to
when it lets the next one pass. Time is a natural number.

## What is proved

* `Spaced.window_le` — if an entry and the one `m` places after it are at least `span` apart, any window of that
  length has at most `m` entries.
* `WindowsLe.concat`, `WindowsLe.raise` — the sums of the windows of a list that grows at its end.
* `Bucket.window_le` — a limiter that saves up what it does not spend spends in any `n` units of time what `n`
  units earn, and what it can have saved up.
-/

namespace SmppGateway.Foundation

/-! ### A distance between entries -/

/-- The times in a window. -/
def within (times : List ℕ) (start span : ℕ) : List ℕ :=
  times.filter fun time => start ≤ time ∧ time < start + span

/-- An entry and every one that is more than `k` places after it are `span` apart. -/
def Spaced (k span : ℕ) : List ℕ → Prop
  | [] => True
  | time :: times => (∀ later ∈ times.drop k, time + span ≤ later) ∧ Spaced k span times

namespace Spaced

variable {k span time : ℕ} {times : List ℕ}

/-- An entry at the end. -/
theorem concat (h : Spaced k span times) (hlast : ∀ t ∈ times.take (times.length - k), t + span ≤ time) :
    Spaced k span (times ++ [time]) := by
  induction times with
  | nil => exact ⟨by simp, trivial⟩
  | cons first times ih =>
    rw [List.length_cons] at hlast
    rw [List.cons_append]
    refine ⟨fun later hlater => ?_, ih h.2 fun t ht => ?_⟩
    · by_cases hk : k ≤ times.length
      · rw [List.drop_append_of_le_length hk, List.mem_append, List.mem_singleton] at hlater
        rcases hlater with hlater | rfl
        · exact h.1 later hlater
        · refine hlast first ?_
          rw [Nat.succ_sub hk, List.take_succ_cons]
          exact List.mem_cons_self
      · rw [List.drop_eq_nil_of_le (by rw [List.length_append, List.length_singleton]; omega)] at hlater
        exact absurd hlater List.not_mem_nil
    · refine hlast t ?_
      have hk : k ≤ times.length := by
        by_contra hlong
        rw [Nat.sub_eq_zero_of_le (Nat.le_of_not_le hlong), List.take_zero] at ht
        exact List.not_mem_nil ht
      rw [Nat.succ_sub hk, List.take_succ_cons]
      exact List.mem_cons_of_mem _ ht

/-- **A window** of that length has at most one entry more. -/
theorem window_le (h : Spaced k span times) (start : ℕ) : (within times start span).length ≤ k + 1 := by
  induction times with
  | nil => exact Nat.zero_le _
  | cons first times ih =>
    by_cases hfirst : start ≤ first ∧ first < start + span
    · have hlater : within (times.drop k) start span = [] := by
        refine List.filter_eq_nil_iff.mpr fun later hmem => ?_
        have hfar := h.1 later hmem
        simp only [decide_eq_true_eq]
        omega
      have hsplit : within times start span = within (times.take k) start span := by
        conv_lhs => rw [← List.take_append_drop k times]
        rw [within, List.filter_append]
        exact (congrArg _ hlater).trans (List.append_nil _)
      rw [within, List.filter_cons_of_pos (by simpa using hfirst), List.length_cons]
      refine Nat.succ_le_succ ?_
      rw [← within, hsplit]
      exact (List.length_filter_le _ _).trans (List.length_take_le _ _)
    · rw [within, List.filter_cons_of_neg (by simpa using hfirst)]
      exact ih h.2

end Spaced

/-! ### Sums of windows -/

/-- Any `width` consecutive entries sum up to at most `bound`. -/
def WindowsLe (width bound : ℕ) (counts : List ℕ) : Prop :=
  ∀ i, ((counts.drop i).take width).sum ≤ bound

namespace WindowsLe

variable {width bound count : ℕ} {counts : List ℕ}

theorem replicate_zero (width bound n : ℕ) : WindowsLe width bound (List.replicate n 0) := by
  intro i
  simp

/-- An entry at the end, of a sum that the last window has room for. -/
theorem concat (h : WindowsLe width bound counts)
    (hlast : ((counts ++ [count]).drop (counts.length + 1 - width)).sum ≤ bound) :
    WindowsLe width bound (counts ++ [count]) := by
  intro i
  by_cases hi : i + width ≤ counts.length
  · rw [List.drop_append_of_le_length (by omega), List.take_append_of_le_length (by
      rw [List.length_drop]
      omega)]
    exact h i
  · have hsplit : i = (counts.length + 1 - width) + (i - (counts.length + 1 - width)) := by omega
    rw [hsplit, ← List.drop_drop]
    exact (((List.take_sublist _ _).trans (List.drop_sublist _ _)).sum_le_sum (by simp)).trans hlast

theorem of_concat (h : WindowsLe width bound (counts ++ [count])) : WindowsLe width bound counts := by
  intro i
  have hwindow := h i
  rw [List.drop_append, List.take_append, List.sum_append] at hwindow
  exact Nat.le_of_add_right_le hwindow

theorem append_zeros (h : WindowsLe width bound counts) (n : ℕ) :
    WindowsLe width bound (counts ++ List.replicate n 0) := by
  intro i
  rw [List.drop_append, List.take_append, List.sum_append, List.drop_replicate, List.take_replicate]
  simpa using h i

/-- The last entry is raised by one, and the last window has room for it. -/
theorem raise (hwidth : 0 < width) (h : WindowsLe width bound (counts ++ [count]))
    (hroom : ((counts ++ [count]).drop (counts.length + 1 - width)).sum < bound) :
    WindowsLe width bound (counts ++ [count + 1]) := by
  refine h.of_concat.concat ?_
  have hlast : counts.length + 1 - width ≤ counts.length := by omega
  rw [List.drop_append_of_le_length hlast, List.sum_append, List.sum_singleton] at hroom ⊢
  omega

end WindowsLe

/-! ### Savings -/

/-- How many entries of a log lie in a stretch of time. -/
def spentIn (log : List ℕ) (start stop : ℕ) : ℕ := (log.filter fun time => start ≤ time ∧ time < stop).length

/-- A limiter earns `rate` in every unit of time and keeps at most `burst` of what it has not spent. It has
spent `spent` in the current unit, at most what is saved and what the unit earns; the log says when something
was spent. -/
structure Bucket (rate burst now saved spent : ℕ) (log : List ℕ) : Prop where
  spent_le : spent ≤ saved + rate
  saved_le : saved ≤ burst
  log_le : ∀ time ∈ log, time ≤ now
  current : ∀ start ≤ now, spentIn log start (now + 1) + saved ≤ burst + (now - start) * rate + spent
  past : ∀ start stop, start ≤ stop → stop ≤ now → spentIn log start stop ≤ burst + (stop - start) * rate

section SpentIn

variable {log : List ℕ} {start stop now time : ℕ}

theorem spentIn_concat (log : List ℕ) (time start stop : ℕ) :
    spentIn (log ++ [time]) start stop = spentIn log start stop + if start ≤ time ∧ time < stop then 1 else 0 := by
  rw [spentIn, List.filter_append, List.length_append, spentIn]
  by_cases h : start ≤ time ∧ time < stop
  · simp [h]
  · simp [h]

theorem spentIn_congr (h : ∀ time ∈ log, time < stop ↔ time < now) :
    spentIn log start stop = spentIn log start now := by
  refine congrArg List.length (List.filter_congr fun time htime => ?_)
  simp only [h time htime]

theorem spentIn_eq_zero (h : ∀ time ∈ log, time < start) : spentIn log start stop = 0 := by
  refine List.length_eq_zero_iff.mpr (List.filter_eq_nil_iff.mpr fun time htime => ?_)
  have hbefore := h time htime
  simp only [decide_eq_true_eq]
  omega

end SpentIn

namespace Bucket

variable {rate burst now saved spent : ℕ} {log : List ℕ}

theorem empty (rate burst now : ℕ) : Bucket rate burst now 0 0 [] where
  spent_le := Nat.zero_le _
  saved_le := Nat.zero_le _
  log_le := List.forall_mem_nil _
  current _ _ := Nat.zero_le _
  past _ _ _ _ := Nat.zero_le _

theorem spend (h : Bucket rate burst now saved spent log) (hroom : spent < saved + rate) :
    Bucket rate burst now saved (spent + 1) (log ++ [now]) where
  spent_le := hroom
  saved_le := h.saved_le
  log_le := by
    intro time htime
    rcases List.mem_append.mp htime with htime | htime
    · exact h.log_le time htime
    · exact Nat.le_of_eq (List.mem_singleton.mp htime)
  current start hstart := by
    have hcurrent := h.current start hstart
    rw [spentIn_concat, if_pos ⟨hstart, Nat.lt_succ_self now⟩]
    omega
  past start stop hle hstop := by
    rw [spentIn_concat, if_neg (fun hnow => Nat.not_lt.mpr hstop hnow.2)]
    exact h.past start stop hle hstop

/-- What is spent in the current unit is spent, at any later end of a stretch. -/
theorem spentIn_le (h : Bucket rate burst now saved spent log) {start stop : ℕ} (hle : start ≤ stop) :
    spentIn log start stop ≤ burst + (stop - start) * rate := by
  by_cases hstop : stop ≤ now
  · exact h.past start stop hle hstop
  have hsame : spentIn log start stop = spentIn log start (now + 1) :=
    spentIn_congr fun time htime => by
      have hnow := h.log_le time htime
      omega
  by_cases hstart : start ≤ now
  · have hcurrent := h.current start hstart
    have hspent := h.spent_le
    have hunits : (now - start + 1) * rate ≤ (stop - start) * rate := Nat.mul_le_mul_right _ (by omega)
    rw [Nat.succ_mul] at hunits
    omega
  · rw [spentIn_eq_zero fun time htime => by
      have hnow := h.log_le time htime
      omega]
    exact Nat.zero_le _

/-- Time goes on: what is saved then is at most what was saved and what the units in between have earned, less
what was spent. -/
theorem turn {later saved' : ℕ} (h : Bucket rate burst now saved spent log) (hlater : now < later)
    (hsaved : saved' + spent ≤ saved + (later - now) * rate) (hburst : saved' ≤ burst) :
    Bucket rate burst later saved' 0 log where
  spent_le := Nat.zero_le _
  saved_le := hburst
  log_le time htime := Nat.le_of_lt (Nat.lt_of_le_of_lt (h.log_le time htime) hlater)
  current start hstart := by
    by_cases hbefore : start ≤ now
    · have hcurrent := h.current start hbefore
      have hsame : spentIn log start (later + 1) = spentIn log start (now + 1) :=
        spentIn_congr fun time htime => by
          have hnow := h.log_le time htime
          omega
      have hunits : (later - start) * rate = (now - start) * rate + (later - now) * rate := by
        rw [← Nat.add_mul]
        congr 1
        omega
      omega
    · rw [spentIn_eq_zero fun time htime => by
        have hnow := h.log_le time htime
        omega]
      omega
  past start stop hle _ := h.spentIn_le hle

/-- **Any `n` units of time.** -/
theorem window_le (h : Bucket rate burst now saved spent log) (start n : ℕ) :
    spentIn log start (start + n) ≤ n * rate + burst := by
  have hle := h.spentIn_le (Nat.le_add_right start n)
  rw [Nat.add_sub_cancel_left] at hle
  omega

end Bucket

end SmppGateway.Foundation
