import Mathlib.Data.List.Basic
import SmppGateway.Foundation.Text

/-!
# The targets of the router

`targets_list_` of `router`: the backends that are connected, in the order of their names.

## What is proved

* `removeFrom_eq_filter`, `mem_addTarget` — what is added and removed.
* `nodup_addTarget`, `nodup_removeTarget` — no name is there twice.
-/

namespace SmppGateway.Routing

open Foundation

/-- `router`, as far as its targets are concerned. -/
structure Router where
  targets_list_ : List Bytes
  last_index_ : ℕ

/-- `session_stat`. -/
inductive SessionStat where
  /-- `open`. -/
  | opened
  /-- `bind`. -/
  | bind
  /-- `close`. -/
  | close
  deriving DecidableEq

namespace Router

/-- `add_target`. -/
def addTarget (r : Router) (target : Bytes) : Router :=
  if r.targets_list_.all fun name => target ≠ name then
    { r with targets_list_ := (r.targets_list_ ++ [target]).mergeSort fun x y => x ≤ y }
  else r

/-- The loop of `remove_target`: behind an element that is erased, the next one is passed over. -/
def removeFrom (target : Bytes) : List Bytes → List Bytes
  | [] => []
  | [name] => if name = target then [] else [name]
  | name :: next :: rest =>
    if name = target then next :: removeFrom target rest else name :: removeFrom target (next :: rest)

/-- `remove_target`. -/
def removeTarget (r : Router) (target : Bytes) : Router :=
  { targets_list_ := removeFrom target r.targets_list_, last_index_ := 0 }

/-- `session_state_changed` of `pinex`. -/
def sessionStateChanged (r : Router) (name : Bytes) : SessionStat → Router
  | .opened => r.removeTarget name
  | .bind => r.addTarget name
  | .close => r.removeTarget name

/-- The loop erases a name that is there once. -/
theorem removeFrom_eq_filter {targets : List Bytes} (h : targets.Nodup) (target : Bytes) :
    removeFrom target targets = targets.filter fun name => name ≠ target := by
  fun_induction removeFrom target targets with
  | case1 => rfl
  | case2 => simp
  | case3 name heq => simp [heq]
  | case4 next rest ih =>
    obtain ⟨hfirst, hrest⟩ := List.nodup_cons.mp h
    have hnext : next ≠ target := fun heq => hfirst (heq ▸ List.mem_cons_self)
    rw [ih (List.nodup_cons.mp hrest).2, List.filter_cons_of_neg (by simp),
      List.filter_cons_of_pos (by simp [hnext])]
  | case5 name next rest hne ih =>
    have hkept : decide (name ≠ target) = true := decide_eq_true hne
    rw [ih (List.nodup_cons.mp h).2]
    exact (List.filter_cons_of_pos (p := fun name => decide (name ≠ target)) hkept).symm

variable {r : Router}

theorem mem_addTarget {target name : Bytes} :
    name ∈ (r.addTarget target).targets_list_ ↔ name = target ∨ name ∈ r.targets_list_ := by
  unfold addTarget
  split
  · simp [List.mem_mergeSort, or_comm]
  · rename_i hthere
    simp only [List.all_eq_true, decide_eq_true_eq, not_forall, not_not] at hthere
    obtain ⟨there, hmem, heq⟩ := hthere
    refine ⟨.inr, ?_⟩
    intro h
    rcases h with rfl | h
    · rw [heq]
      exact hmem
    · exact h

theorem nodup_addTarget (h : r.targets_list_.Nodup) (target : Bytes) :
    (r.addTarget target).targets_list_.Nodup := by
  unfold addTarget
  split
  · rename_i habsent
    simp only [List.all_eq_true, decide_eq_true_eq] at habsent
    refine (List.mergeSort_perm _ _).nodup_iff.mpr ?_
    refine List.nodup_append.mpr ⟨h, List.pairwise_singleton _ _, ?_⟩
    intro x hx y hy heq
    rw [List.mem_singleton.mp hy] at heq
    exact habsent x hx heq.symm
  · exact h

theorem mem_removeTarget (h : r.targets_list_.Nodup) {target name : Bytes} :
    name ∈ (r.removeTarget target).targets_list_ ↔ name ∈ r.targets_list_ ∧ name ≠ target := by
  rw [removeTarget, removeFrom_eq_filter h]
  simp

theorem nodup_removeTarget (h : r.targets_list_.Nodup) (target : Bytes) :
    (r.removeTarget target).targets_list_.Nodup := by
  rw [removeTarget, removeFrom_eq_filter h]
  exact h.filter _

end Router

end SmppGateway.Routing
