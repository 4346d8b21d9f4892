import Mathlib.Data.List.Induction

/-!
# Runs of a component

A component is a state and a function that says what one event makes of it; a run is a list
of events, taken one after the other. The functions are total: an assumption about when an
event may come is a condition on the events of a run, not a case of the step.

## What is proved

* `Along.invariant` — an invariant that every admissible event keeps holds after the run.
* `Along.invariant_timed` — the same where the events come in the order of time.
* `Along.simulation` — two components that every admissible event keeps related are related
  after the run.
* `simulation_replies` — two components that reply alike to every admissible call have replied alike after
  the run.
* `along_iff` — the exact condition under which a property holds after every event.
* `run_map`, `along_map` — a component that carries more than another runs through the other's states.
* `invariant_of_end` — an invariant that rests on a bound, when the bound is known at the end.
* `history_run` — a history holds what the events of the run have put out.
* `along_of_mono` — a bound on a counter that never falls holds at every event before.
-/

namespace SmppGateway.Foundation

variable {σ τ ε ρ : Type*}

/-- The state a list of events leads to. -/
def run (step : σ → ε → σ) (s : σ) (events : List ε) : σ := events.foldl step s

/-- Every event of a run is admissible in the state it meets. -/
def Along (step : σ → ε → σ) (G : σ → ε → Prop) (s : σ) : List ε → Prop
  | [] => True
  | e :: events => G s e ∧ Along step G (step s e) events

/-- One call of a component that replies, with the replies so far. -/
def reply (serve : σ → ε → σ × ρ) (s : σ × List ρ) (e : ε) : σ × List ρ :=
  ((serve s.1 e).1, s.2 ++ [(serve s.1 e).2])

/-- What the events of a run put out, in their order. -/
def outputs (step : σ → ε → σ) (out : σ → ε → List ρ) (s : σ) : List ε → List ρ
  | [] => []
  | e :: events => out s e ++ outputs step out (step s e) events

section Rules

variable {step : σ → ε → σ} {G H : σ → ε → Prop} {s : σ} {events : List ε}

@[simp]
theorem run_nil (step : σ → ε → σ) (s : σ) : run step s [] = s := rfl

@[simp]
theorem run_cons (step : σ → ε → σ) (s : σ) (e : ε) (events : List ε) :
    run step s (e :: events) = run step (step s e) events := rfl

theorem run_append (step : σ → ε → σ) (s : σ) (xs ys : List ε) :
    run step s (xs ++ ys) = run step (run step s xs) ys := List.foldl_append

theorem run_concat (step : σ → ε → σ) (s : σ) (events : List ε) (e : ε) :
    run step s (events ++ [e]) = step (run step s events) e := run_append step s events [e]

theorem along_append {xs ys : List ε} :
    Along step G s (xs ++ ys) ↔ Along step G s xs ∧ Along step G (run step s xs) ys := by
  induction xs generalizing s with
  | nil => simp [Along]
  | cons e xs ih => simp [Along, ih, and_assoc]

/-- Without a condition every run is admissible. -/
theorem along_true (h : ∀ s e, G s e) : Along step G s events := by
  induction events generalizing s with
  | nil => trivial
  | cons e events ih => exact ⟨h s e, ih⟩

/-- A condition on the events alone. -/
theorem along_of_forall {A : ε → Prop} (h : ∀ e ∈ events, A e) : Along step (fun _ e => A e) s events := by
  induction events generalizing s with
  | nil => trivial
  | cons e events ih =>
    obtain ⟨he, hrest⟩ := List.forall_mem_cons.mp h
    exact ⟨he, ih hrest⟩

/-- Two conditions. -/
theorem Along.and (hG : Along step G s events) (hH : Along step H s events) :
    Along step (fun s e => G s e ∧ H s e) s events := by
  induction events generalizing s with
  | nil => trivial
  | cons e events ih => exact ⟨⟨hG.1, hH.1⟩, ih hG.2 hH.2⟩

/-- A weaker condition. -/
theorem Along.imp (hGH : ∀ s e, G s e → H s e) (h : Along step G s events) : Along step H s events := by
  induction events generalizing s with
  | nil => trivial
  | cons e events ih => exact ⟨hGH s e h.1, ih h.2⟩

/-- **The invariant rule.** -/
theorem Along.invariant {I : σ → Prop} (hstep : ∀ s e, I s → G s e → I (step s e))
    (h : Along step G s events) (hs : I s) : I (run step s events) := by
  induction events generalizing s with
  | nil => exact hs
  | cons e events ih => exact ih h.2 (hstep s e hs h.1)

/-- **The invariant rule for events in the order of time**: the invariant may speak of the time of the last
event. -/
theorem Along.invariant_timed {I : ℕ → σ → Prop} {time : ε → ℕ} {t : ℕ}
    (hstep : ∀ t s e, I t s → G s e → t ≤ time e → I (time e) (step s e)) (h : Along step G s events)
    (hsorted : events.Pairwise fun d e => time d ≤ time e) (ht : ∀ e ∈ events, t ≤ time e) (hs : I t s) :
    ∃ t, I t (run step s events) := by
  induction events generalizing s t with
  | nil => exact ⟨t, hs⟩
  | cons e events ih =>
    obtain ⟨hfirst, hrest⟩ := List.pairwise_cons.mp hsorted
    exact ih h.2 hrest hfirst (hstep t s e hs h.1 (ht e List.mem_cons_self))

/-- **The simulation rule**: the condition may speak of the first component only. -/
theorem Along.simulation {astep : τ → ε → τ} {R : σ → τ → Prop} {t : τ}
    (hstep : ∀ s t e, R s t → G s e → R (step s e) (astep t e)) (h : Along step G s events)
    (hs : R s t) : R (run step s events) (run astep t events) := by
  induction events generalizing s t with
  | nil => exact hs
  | cons e events ih => exact ih h.2 (hstep s t e hs h.1)

/-- **The simulation rule for replies**: components that stay related and reply alike to admissible calls
have replied alike after a run. -/
theorem simulation_replies {serve : σ → ε → σ × ρ} {aserve : τ → ε → τ × ρ} {R : σ → τ → Prop}
    {A : ε → Prop} {t : τ}
    (hstep : ∀ s t e, R s t → A e → R (serve s e).1 (aserve t e).1 ∧ (serve s e).2 = (aserve t e).2)
    (h : ∀ e ∈ events, A e) (hs : R s t) :
    R (run (reply serve) (s, []) events).1 (run (reply aserve) (t, []) events).1 ∧
      (run (reply serve) (s, []) events).2 = (run (reply aserve) (t, []) events).2 := by
  have hadmissible : Along (reply serve) (fun _ e => A e) (s, []) events := along_of_forall h
  refine hadmissible.simulation (R := fun x y => R x.1 y.1 ∧ x.2 = y.2) (t := (t, []))
    (fun x y e hxy he => ?_) ⟨hs, rfl⟩
  obtain ⟨hnext, hreply⟩ := hstep x.1 y.1 e hxy.1 he
  exact ⟨hnext, by rw [reply, reply, hxy.2, hreply]⟩

/-- What follows from an invariant and the condition holds at every event. -/
theorem Along.of_invariant {I : σ → Prop} (hstep : ∀ s e, I s → G s e → I (step s e))
    (hH : ∀ s e, I s → G s e → H s e) (h : Along step G s events) (hs : I s) :
    Along step H s events := by
  induction events generalizing s with
  | nil => trivial
  | cons e events ih => exact ⟨hH s e hs h.1, ih h.2 (hstep s e hs h.1)⟩

/-- **The exact condition**: what an event does is decided by a condition on it, as long as the invariant holds;
so it does what it should at every event of a run exactly if the condition holds at every event. -/
theorem along_iff {I : σ → Prop} {P : σ → ε → Prop} (hdecide : ∀ s e, I s → G s e → (P s e ↔ H s e))
    (hstep : ∀ s e, I s → G s e → H s e → I (step s e)) (h : Along step G s events) (hs : I s) :
    Along step P s events ↔ Along step H s events := by
  induction events generalizing s with
  | nil => exact Iff.rfl
  | cons e events ih =>
    have hhead := hdecide s e hs h.1
    constructor
    · rintro ⟨hP, hrest⟩
      have hH := hhead.mp hP
      exact ⟨hH, (ih h.2 (hstep s e hs h.1 hH)).mp hrest⟩
    · rintro ⟨hH, hrest⟩
      exact ⟨hhead.mpr hH, (ih h.2 (hstep s e hs h.1 hH)).mpr hrest⟩

/-- A component that carries more than another passes through the other's states. -/
theorem run_map {fine : τ → ε → τ} (π : τ → σ) (hπ : ∀ t e, π (fine t e) = step (π t) e) (t : τ)
    (events : List ε) : π (run fine t events) = run step (π t) events := by
  induction events generalizing t with
  | nil => rfl
  | cons e events ih => rw [run_cons, run_cons, ih, hπ]

theorem along_map {fine : τ → ε → τ} (π : τ → σ) (hπ : ∀ t e, π (fine t e) = step (π t) e)
    (G : σ → ε → Prop) (t : τ) (events : List ε) :
    Along fine (fun t e => G (π t) e) t events ↔ Along step G (π t) events := by
  induction events generalizing t with
  | nil => exact Iff.rfl
  | cons e events ih => rw [Along, Along, ih, hπ]

/-- An invariant that needs a bound on the state an event leads to: where no event brings the state back
under the bound, it is enough to know the bound at the end. -/
theorem invariant_of_end {I B : σ → Prop} (hback : ∀ s e, B (step s e) → B s)
    (hstep : ∀ s e, I s → B (step s e) → I (step s e)) (hs : I s) (hend : B (run step s events)) :
    I (run step s events) := by
  induction events using List.reverseRecOn with
  | nil => exact hs
  | append_singleton events e ih =>
    rw [run_concat] at hend ⊢
    exact hstep _ e (ih (hback _ e hend)) hend

/-- A history to which every event adds what it puts out holds what the run has put out. -/
theorem history_run {out : σ → ε → List ρ} (history : σ → List ρ)
    (hstep : ∀ s e, history (step s e) = history s ++ out s e) (s : σ) (events : List ε) :
    history (run step s events) = history s ++ outputs step out s events := by
  induction events generalizing s with
  | nil => exact (List.append_nil _).symm
  | cons e events ih => rw [run_cons, ih, hstep, outputs, List.append_assoc]

/-- A number that no event lowers is no higher at the start than at the end. -/
theorem le_run_of_mono {f : σ → ℕ} (hmono : ∀ s e, f s ≤ f (step s e)) (s : σ) (events : List ε) :
    f s ≤ f (run step s events) := by
  induction events generalizing s with
  | nil => exact Nat.le_refl _
  | cons e events ih => exact Nat.le_trans (hmono s e) (ih (step s e))

/-- A bound on such a number at the end holds after every event on the way. -/
theorem along_of_mono {f : σ → ℕ} (hmono : ∀ s e, f s ≤ f (step s e)) {b : ℕ}
    (h : f (run step s events) ≤ b) : Along step (fun s e => f (step s e) ≤ b) s events := by
  induction events generalizing s with
  | nil => trivial
  | cons e events ih => exact ⟨Nat.le_trans (le_run_of_mono hmono (step s e) events) h, ih h⟩

end Rules

end SmppGateway.Foundation
