import SmppGateway.Foundation.Run
import Mathlib.Logic.Function.Basic

/-!
# Families of components

Components of one kind that run next to each other, each under a name of its own. An event is addressed to one of
them, and the others stay as they are; so a run of the family is an interleaving of one run of each.

## What is proved

* `run_family` — what a run makes of a member is what the events addressed to it make of it alone.
-/

namespace SmppGateway.Foundation

variable {ι σ ε : Type*} [DecidableEq ι]

/-- An event is taken by the member that it is addressed to. -/
def family (step : σ → ε → σ) (s : ι → σ) (e : ι × ε) : ι → σ := Function.update s e.1 (step (s e.1) e.2)

/-- The events that are addressed to a member. -/
def addressed (i : ι) (events : List (ι × ε)) : List ε :=
  events.filterMap fun e => if e.1 = i then some e.2 else none

section Rules

variable {step : σ → ε → σ} {s : ι → σ} {e : ι × ε} {i : ι}

@[simp]
theorem family_self : family step s e e.1 = step (s e.1) e.2 := Function.update_self ..

theorem family_of_ne (h : i ≠ e.1) : family step s e i = s i := Function.update_of_ne h ..

theorem addressed_cons_self (h : e.1 = i) (events : List (ι × ε)) :
    addressed i (e :: events) = e.2 :: addressed i events :=
  List.filterMap_cons_some (if_pos h)

theorem addressed_cons_of_ne (h : e.1 ≠ i) (events : List (ι × ε)) :
    addressed i (e :: events) = addressed i events :=
  List.filterMap_cons_none (if_neg h)

/-- **A member in a run of its family.** -/
theorem run_family (step : σ → ε → σ) (s : ι → σ) (events : List (ι × ε)) (i : ι) :
    run (family step) s events i = run step (s i) (addressed i events) := by
  induction events generalizing s with
  | nil => rfl
  | cons e events ih =>
    rw [run_cons, ih]
    by_cases he : e.1 = i
    · subst he
      rw [addressed_cons_self rfl, run_cons, family_self]
    · rw [addressed_cons_of_ne he, family_of_ne (Ne.symm he)]

end Rules

end SmppGateway.Foundation
