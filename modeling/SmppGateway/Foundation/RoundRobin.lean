import Mathlib.Data.List.Rotate

/-!
# Going round a list

The elements of a list that a cursor comes to when it goes from one to the next, and from the last one back to
the first.

## What is proved

* `visits_round` — once round from a cursor gives the list rotated by it.
* `count_visits` — a number of full rounds comes to every element of a list without duplicates that many
  times, from wherever the cursor stands.
-/

namespace SmppGateway.Foundation

variable {α : Type*} {l : List α}

/-- The elements a cursor at `c` comes to in `n` steps. -/
def visits (l : List α) (c n : ℕ) : List α := (List.range n).filterMap fun i => l[(c + i) % l.length]?

@[simp]
theorem visits_zero (l : List α) (c : ℕ) : visits l c 0 = [] := rfl

theorem visits_add (l : List α) (c n k : ℕ) : visits l c (n + k) = visits l c n ++ visits l (c + n) k := by
  rw [visits, List.range_add, List.filterMap_append, List.filterMap_map]
  simp only [visits, Function.comp_def, Nat.add_assoc]

/-- Only the place of the cursor in the list matters. -/
theorem visits_mod (l : List α) (c n : ℕ) : visits l (c % l.length) n = visits l c n := by
  simp only [visits, Nat.mod_add_mod]

/-- Stepping from the first element on gives the list. -/
theorem filterMap_range_getElem? (l : List α) : (List.range l.length).filterMap (l[·]?) = l := by
  induction l with
  | nil => rfl
  | cons x l ih =>
    rw [List.length_cons, List.range_succ_eq_map, List.filterMap_cons, List.filterMap_map]
    simpa [Function.comp_def] using ih

/-- **Once round.** -/
theorem visits_round (l : List α) (c : ℕ) : visits l c l.length = l.rotate c := by
  have hstep : ∀ i ∈ List.range l.length, l[(c + i) % l.length]? = (l.rotate c)[i]? := by
    intro i hi
    rw [List.getElem?_rotate (List.mem_range.mp hi), Nat.add_comm]
  rw [visits, List.filterMap_congr hstep, ← List.length_rotate l c]
  exact filterMap_range_getElem? (l.rotate c)

/-- **Full rounds** come to each element once a round. -/
theorem count_visits [BEq α] [LawfulBEq α] (h : l.Nodup) {x : α} (hx : x ∈ l) (c k : ℕ) :
    (visits l c (l.length * k)).count x = k := by
  induction k with
  | zero => rfl
  | succ k ih =>
    have hone : (visits l (c + l.length * k) l.length).count x = 1 := by
      rw [visits_round, (List.rotate_perm l _).count_eq, List.count_eq_one_of_mem h hx]
    rw [Nat.mul_succ, visits_add, List.count_append, ih, hone]

end SmppGateway.Foundation
