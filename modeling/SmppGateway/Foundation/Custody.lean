import Mathlib.Data.Multiset.ZeroCons
import Mathlib.Data.Multiset.UnionInter
import SmppGateway.Foundation.Run

/-!
# Items that are handed on

A component makes numbered items and keeps each in some place: where it is worked on, where it waits, where
it has been delivered to. The numbers that are found in all places together say whether an item is in two of
them.

## What is proved

* `Custody.nodup_run` — where every event only moves items, loses them or makes the next one, no item is ever
  found twice.
-/

namespace SmppGateway.Foundation

variable {σ ε : Type*}

/-- Where the items of a component are. -/
structure Custody (step : σ → ε → σ) where
  /-- How many items were made. -/
  made : σ → ℕ
  /-- The numbers of the items in all places. -/
  held : σ → Multiset ℕ
  /-- What every event keeps. -/
  Good : σ → Prop
  good_step (s : σ) (e : ε) : Good s → Good (step s e)
  /-- An event moves items and loses them, and makes at most the next one. -/
  step_le (s : σ) (e : ε) : Good s →
    (made (step s e) = made s ∧ held (step s e) ≤ held s) ∨
      (made (step s e) = made s + 1 ∧ held (step s e) ≤ made s ::ₘ held s)

namespace Custody

variable {step : σ → ε → σ} (C : Custody step)

/-- Every item is in one place, and was made. -/
structure Sound (s : σ) : Prop where
  good : C.Good s
  nodup : (C.held s).Nodup
  lt : ∀ i ∈ C.held s, i < C.made s

variable {C} {s : σ}

theorem sound_step (h : C.Sound s) (e : ε) : C.Sound (step s e) := by
  have hgood := C.good_step s e h.good
  rcases C.step_le s e h.good with ⟨hmade, hheld⟩ | ⟨hmade, hheld⟩
  · exact ⟨hgood, Multiset.nodup_of_le hheld h.nodup, fun i hi => hmade ▸ h.lt i (Multiset.mem_of_le hheld hi)⟩
  · have hnew : C.made s ∉ C.held s := fun hmem => Nat.lt_irrefl _ (h.lt _ hmem)
    refine ⟨hgood, Multiset.nodup_of_le hheld (Multiset.nodup_cons.mpr ⟨hnew, h.nodup⟩), ?_⟩
    intro i hi
    rw [hmade]
    rcases Multiset.mem_cons.mp (Multiset.mem_of_le hheld hi) with rfl | hold
    · exact Nat.lt_succ_self _
    · exact Nat.lt_succ_of_lt (h.lt i hold)

/-- **No item is found twice** after a run from a state without items. -/
theorem nodup_run (C : Custody step) (hgood : C.Good s) (hs : C.held s = 0) (events : List ε) :
    C.Sound (run step s events) := by
  have hadmissible : Along step (fun _ _ => True) s events := along_true fun _ _ => trivial
  refine hadmissible.invariant (fun t e ht _ => sound_step ht e) ⟨hgood, ?_, ?_⟩
  · rw [hs]
    exact Multiset.nodup_zero
  · intro i hi
    rw [hs] at hi
    exact absurd hi (Multiset.notMem_zero i)

end Custody

end SmppGateway.Foundation
