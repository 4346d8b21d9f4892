import Mathlib.Data.List.Basic
import SmppGateway.Foundation.Run

/-!
# Requests and what they come to

Requests are sent on channels, under numbers that every channel gives out by itself. An answer names the
channel and the number; a channel may be closed; and the clock of a channel may tick until the patience of a
request is over. A request comes to the first of these.

## The model

A history is a list of such happenings, and a request is known by the place of its sending in it. `outcome`
reads what a request comes to off the history behind that place. A `Ledger` is kept as the history goes on.

## What is proved

* `ledger_of_sent` — what the ledger has settled of a request is what the request has come to, and a request
  that has come to nothing yet waits.
* `ledger_sound` — nothing else waits, and nothing else is settled.
* `outcome_ne_none` — patience ends.
-/

namespace SmppGateway.Foundation

/-- What happens. -/
inductive Happening (χ ν α κ : Type*) where
  /-- A request is sent. -/
  | sent (channel : χ) (number : ν)
  /-- An answer arrives. -/
  | answered (channel : χ) (number : ν) (answer : α)
  /-- A channel is closed. -/
  | closed (channel : χ)
  /-- A clock ticks. -/
  | ticked (clock : κ)

/-- What a request comes to. -/
inductive Outcome (α : Type*) where
  /-- An answer. -/
  | answered (answer : α)
  /-- The end of its channel. -/
  | closed
  /-- The end of patience. -/
  | timedOut
  deriving DecidableEq

/-- A request that waits. -/
structure Waiting (χ ν : Type*) where
  /-- The place of its sending. -/
  request : ℕ
  channel : χ
  number : ν
  /-- The ticks that it lets pass. -/
  left : ℕ

/-- What waits, and what does not wait any more. -/
structure Ledger (χ ν α : Type*) where
  /-- How much has happened. -/
  recorded : ℕ
  waiting : List (Waiting χ ν)
  settled : List (ℕ × Outcome α)

variable {χ ν α κ : Type*} [DecidableEq χ] [DecidableEq ν] [DecidableEq κ]

/-- What a happening brings a request that waits. -/
def fate (clock : χ → κ) (w : Waiting χ ν) : Happening χ ν α κ → Option (Outcome α)
  | .sent _ _ => none
  | .answered c n answer => if w.channel = c ∧ w.number = n then some (.answered answer) else none
  | .closed c => if w.channel = c then some .closed else none
  | .ticked k => if clock w.channel = k ∧ w.left = 0 then some .timedOut else none

/-- A request that waits on has waited for a tick more, if its clock has ticked. -/
def Waiting.pass (clock : χ → κ) (w : Waiting χ ν) : Happening χ ν α κ → Waiting χ ν
  | .ticked k => if clock w.channel = k then { w with left := w.left - 1 } else w
  | _ => w

/-- What a request comes to. -/
def outcome (clock : χ → κ) (w : Waiting χ ν) : List (Happening χ ν α κ) → Option (Outcome α)
  | [] => none
  | h :: rest =>
    match fate clock w h with
    | some o => some o
    | none => outcome clock (w.pass clock h) rest

/-- How often a clock has ticked. -/
def ticks (k : κ) : List (Happening χ ν α κ) → ℕ
  | [] => 0
  | .ticked k' :: rest => (if k = k' then 1 else 0) + ticks k rest
  | _ :: rest => ticks k rest

namespace Ledger

/-- Nothing has happened. -/
def empty : Ledger χ ν α := ⟨0, [], []⟩

/-- A request that is sent begins to wait. -/
def entered (patience : χ → ℕ) (l : Ledger χ ν α) : Happening χ ν α κ → List (Waiting χ ν)
  | .sent c n => [⟨l.recorded, c, n, patience c⟩]
  | _ => []

/-- A happening is recorded. -/
def record (clock : χ → κ) (patience : χ → ℕ) (l : Ledger χ ν α) (h : Happening χ ν α κ) : Ledger χ ν α where
  recorded := l.recorded + 1
  waiting := l.entered patience h ++
    (l.waiting.filter fun w => (fate clock w h).isNone).map fun w => w.pass clock h
  settled := l.settled ++ l.waiting.filterMap fun w => (fate clock w h).map fun o => (w.request, o)

/-- What waits of a request. -/
def waitingOf (l : Ledger χ ν α) (request : ℕ) : List (Waiting χ ν) :=
  l.waiting.filter fun w => w.request = request

/-- What is settled of a request. -/
def settledOf (l : Ledger χ ν α) (request : ℕ) : List (ℕ × Outcome α) :=
  l.settled.filter fun x => x.1 = request

end Ledger

/-- The ledger of a history. -/
def ledger (clock : χ → κ) (patience : χ → ℕ) (history : List (Happening χ ν α κ)) : Ledger χ ν α :=
  run (Ledger.record clock patience) .empty history

variable {clock : χ → κ} {patience : χ → ℕ}

omit [DecidableEq χ] [DecidableEq ν] in
/-- Only the patience of a request passes. -/
theorem pass_eq (w : Waiting χ ν) (h : Happening χ ν α κ) :
    w.pass clock h = { w with left := (w.pass clock h).left } := by
  cases h with
  | ticked k =>
    unfold Waiting.pass
    simp only
    split <;> rfl
  | _ => rfl

omit [DecidableEq χ] [DecidableEq ν] in
@[simp]
theorem request_pass (w : Waiting χ ν) (h : Happening χ ν α κ) : (w.pass clock h).request = w.request := by
  rw [pass_eq]

omit [DecidableEq χ] [DecidableEq ν] in
@[simp]
theorem channel_pass (w : Waiting χ ν) (h : Happening χ ν α κ) : (w.pass clock h).channel = w.channel := by
  rw [pass_eq]

omit [DecidableEq χ] [DecidableEq ν] in
/-- Passing a happening, requests stay on their channels. -/
theorem filter_map_pass (clock : χ → κ) (h : Happening χ ν α κ) (p : χ → Bool) (ws : List (Waiting χ ν)) :
    (ws.map fun w => w.pass clock h).filter (fun w => p w.channel) =
      (ws.filter fun w => p w.channel).map fun w => w.pass clock h := by
  simp only [List.filter_map, Function.comp_def, channel_pass]

omit [DecidableEq χ] [DecidableEq ν] in
@[simp]
theorem number_pass (w : Waiting χ ν) (h : Happening χ ν α κ) : (w.pass clock h).number = w.number := by
  rw [pass_eq]

omit [DecidableEq χ] [DecidableEq ν] in
theorem left_pass_le (w : Waiting χ ν) (h : Happening χ ν α κ) : (w.pass clock h).left ≤ w.left := by
  cases h with
  | ticked k =>
    unfold Waiting.pass
    simp only
    split
    · exact Nat.sub_le _ _
    · exact Nat.le_refl _
  | _ => exact Nat.le_refl _

/-- **Patience ends**: a request whose clock ticks often enough comes to something. -/
theorem outcome_ne_none (clock : χ → κ) {w : Waiting χ ν} {history : List (Happening χ ν α κ)}
    (h : w.left < ticks (clock w.channel) history) : outcome clock w history ≠ none := by
  induction history generalizing w with
  | nil => exact absurd h (Nat.not_lt_zero _)
  | cons happening rest ih =>
    rw [outcome]
    cases hfate : fate clock w happening with
    | some o => exact Option.some_ne_none o
    | none =>
      refine ih ?_
      rw [channel_pass]
      cases happening with
      | ticked k =>
        rw [ticks] at h
        simp only [fate, ite_eq_right_iff, reduceCtorEq, imp_false, not_and] at hfate
        by_cases hclock : clock w.channel = k
        · have hleft := hfate hclock
          simp only [Waiting.pass, if_pos hclock] at h ⊢
          omega
        · simp only [Waiting.pass, if_neg hclock] at h ⊢
          omega
      | sent c n => exact h
      | answered c n answer => exact h
      | closed c => exact h

namespace Ledger

variable {l : Ledger χ ν α} {history : List (Happening χ ν α κ)}

/-! ### One request -/

theorem waitingOf_record (l : Ledger χ ν α) (clock : χ → κ) (patience : χ → ℕ) (request : ℕ)
    (h : Happening χ ν α κ) :
    (l.record clock patience h).waitingOf request =
      ((l.entered patience h).filter fun w => w.request = request) ++
        ((l.waitingOf request).filter fun w => (fate clock w h).isNone).map fun w => w.pass clock h := by
  simp only [waitingOf, record, List.filter_append, List.filter_map, List.filter_filter, Function.comp_def,
    request_pass, Bool.and_comm]

omit [DecidableEq χ] [DecidableEq ν] [DecidableEq κ] in
/-- What is sent later is another request. -/
theorem entered_of_lt {request : ℕ} (hlt : request < l.recorded) (h : Happening χ ν α κ) :
    (l.entered patience h).filter (fun w => w.request = request) = [] := by
  cases h with
  | sent c n =>
    have hne : l.recorded ≠ request := Nat.ne_of_gt hlt
    simp [entered, hne]
  | _ => rfl

theorem settledOf_record (l : Ledger χ ν α) (clock : χ → κ) (patience : χ → ℕ) (request : ℕ)
    (h : Happening χ ν α κ) :
    (l.record clock patience h).settledOf request = l.settledOf request ++
      (l.waitingOf request).filterMap fun w => (fate clock w h).map fun o => (w.request, o) := by
  have hfilter (ws : List (Waiting χ ν)) :
      (ws.filterMap fun w => (fate clock w h).map fun o => (w.request, o)).filter (fun x => x.1 = request) =
        (ws.filter fun w => w.request = request).filterMap fun w =>
          (fate clock w h).map fun o => (w.request, o) := by
    induction ws with
    | nil => rfl
    | cons w ws ih =>
      by_cases hrequest : w.request = request
      · cases hfate : fate clock w h with
        | none => simpa [hfate, hrequest] using ih
        | some o => simpa [hfate, hrequest] using ih
      · cases hfate : fate clock w h with
        | none => simpa [hfate, hrequest] using ih
        | some o => simpa [hfate, hrequest] using ih
  simp only [settledOf, waitingOf, record, List.filter_append, hfilter]

/-- **A request that does not wait** stays as it is. -/
theorem run_of_done {request : ℕ} (hlt : request < l.recorded) (hdone : l.waitingOf request = [])
    (history : List (Happening χ ν α κ)) :
    (run (record clock patience) l history).waitingOf request = [] ∧
      (run (record clock patience) l history).settledOf request = l.settledOf request := by
  induction history generalizing l with
  | nil => exact ⟨hdone, rfl⟩
  | cons h rest ih =>
    have hwaiting : (l.record clock patience h).waitingOf request = [] := by
      rw [waitingOf_record, entered_of_lt hlt, hdone]
      rfl
    have hsettled : (l.record clock patience h).settledOf request = l.settledOf request := by
      rw [settledOf_record, hdone]
      exact List.append_nil _
    obtain ⟨hnone, hsame⟩ := ih (Nat.lt_succ_of_lt hlt) hwaiting
    exact ⟨hnone, hsame.trans hsettled⟩

/-- **A request that waits** comes to its outcome, or waits on. -/
theorem run_of_waiting {w : Waiting χ ν} (hlt : w.request < l.recorded) (hwaits : l.waitingOf w.request = [w])
    (hopen : l.settledOf w.request = []) (history : List (Happening χ ν α κ)) :
    (run (record clock patience) l history).settledOf w.request =
        ((outcome clock w history).map fun o => (w.request, o)).toList ∧
      (outcome clock w history = none → ∃ v : Waiting χ ν,
        (run (record clock patience) l history).waitingOf w.request = [v] ∧
          v.channel = w.channel ∧ v.number = w.number) := by
  induction history generalizing l w with
  | nil => exact ⟨hopen, fun _ => ⟨w, hwaits, rfl, rfl⟩⟩
  | cons h rest ih =>
    have hwaiting := l.waitingOf_record clock patience w.request h
    have hsettled := l.settledOf_record clock patience w.request h
    rw [entered_of_lt hlt, hwaits] at hwaiting
    rw [hopen, hwaits] at hsettled
    rw [outcome]
    cases hfate : fate clock w h with
    | some o =>
      simp only [List.filter_cons, hfate, Option.isNone_some, Bool.false_eq_true, if_false, List.filter_nil,
        List.map_nil, List.nil_append] at hwaiting
      simp only [List.filterMap_cons, hfate, Option.map_some, List.filterMap_nil, List.nil_append] at hsettled
      obtain ⟨-, hsame⟩ := run_of_done (Nat.lt_succ_of_lt hlt) hwaiting rest
      exact ⟨hsame.trans hsettled, fun hnone => (nomatch hnone)⟩
    | none =>
      simp only [List.filter_cons, hfate, Option.isNone_none, if_true, List.filter_nil, List.map_cons,
        List.map_nil, List.nil_append] at hwaiting
      simp only [List.filterMap_cons, hfate, Option.map_none, List.filterMap_nil, List.nil_append] at hsettled
      have hrest := ih (w := w.pass clock h) (l := l.record clock patience h) (by
        rw [request_pass]
        exact Nat.lt_succ_of_lt hlt) (by rw [request_pass, hwaiting]) (by rw [request_pass, hsettled])
      simp only [request_pass, channel_pass, number_pass] at hrest
      exact hrest

/-- **A happening that ends the wait of some**, and of all of them alike. -/
theorem record_eq (l : Ledger χ ν α) (clock : χ → κ) (patience : χ → ℕ) (h : Happening χ ν α κ)
    (ends : Waiting χ ν → Bool) (o : Outcome α)
    (hfate : ∀ w ∈ l.waiting, fate clock w h = if ends w then some o else none) :
    (l.record clock patience h).waiting =
        l.entered patience h ++ (l.waiting.filter fun w => !ends w).map (fun w => w.pass clock h) ∧
      (l.record clock patience h).settled =
        l.settled ++ (l.waiting.filter ends).map fun w => (w.request, o) := by
  have hwaits : (l.waiting.filter fun w => (fate clock w h).isNone) = l.waiting.filter fun w => !ends w :=
    List.filter_congr fun w hw => by
      rw [hfate w hw]
      cases ends w <;> rfl
  have hsettles : (l.waiting.filterMap fun w => (fate clock w h).map fun o => (w.request, o)) =
      (l.waiting.filter ends).map fun w => (w.request, o) := by
    rw [← List.filterMap_eq_map, List.filterMap_filter]
    refine List.filterMap_congr fun w hw => ?_
    rw [hfate w hw]
    cases ends w <;> rfl
  exact ⟨by rw [record, hwaits], by rw [record, hsettles]⟩

/-! ### What is in the ledger -/

/-- What waits and what is settled was sent. -/
structure Sound (patience : χ → ℕ) (history : List (Happening χ ν α κ)) (l : Ledger χ ν α) : Prop where
  recorded : l.recorded = history.length
  waiting : ∀ w ∈ l.waiting, history[w.request]? = some (.sent w.channel w.number) ∧ w.left ≤ patience w.channel
  settled : ∀ x ∈ l.settled, ∃ channel number, history[x.1]? = some (.sent channel number)

/-- A happening keeps the ledger sound. -/
theorem Sound.record (hl : l.Sound patience history) (h : Happening χ ν α κ) :
    (l.record clock patience h).Sound patience (history ++ [h]) := by
  have hold {i : ℕ} {x : Happening χ ν α κ} (hi : history[i]? = some x) : (history ++ [h])[i]? = some x := by
    rw [List.getElem?_append_left (List.getElem?_eq_some_iff.mp hi).1]
    exact hi
  refine ⟨by rw [Ledger.record, hl.recorded, List.length_append]; rfl, ?_, ?_⟩
  · intro w hw
    rcases List.mem_append.mp hw with hnew | hpassed
    · cases h with
      | sent c n =>
        obtain rfl := List.mem_singleton.mp hnew
        refine ⟨?_, Nat.le_refl _⟩
        rw [hl.recorded, List.getElem?_concat_length]
      | _ => cases hnew
    · obtain ⟨v, hv, rfl⟩ := List.mem_map.mp hpassed
      obtain ⟨hsent, hleft⟩ := hl.waiting v (List.mem_filter.mp hv).1
      rw [request_pass, channel_pass, number_pass]
      exact ⟨hold hsent, Nat.le_trans (left_pass_le v h) hleft⟩
  · intro x hx
    rcases List.mem_append.mp hx with hsettled | hnew
    · obtain ⟨channel, number, hsent⟩ := hl.settled x hsettled
      exact ⟨channel, number, hold hsent⟩
    · obtain ⟨w, hw, heq⟩ := List.mem_filterMap.mp hnew
      obtain ⟨o, -, rfl⟩ := Option.map_eq_some_iff.mp heq
      exact ⟨_, _, hold (hl.waiting w hw).1⟩

end Ledger

theorem ledger_concat (history : List (Happening χ ν α κ)) (h : Happening χ ν α κ) :
    ledger clock patience (history ++ [h]) = (ledger clock patience history).record clock patience h :=
  run_concat _ _ _ _

/-- **Nothing else** waits, and nothing else is settled. -/
theorem ledger_sound (clock : χ → κ) (patience : χ → ℕ) (history : List (Happening χ ν α κ)) :
    (ledger clock patience history).Sound patience history := by
  induction history using List.reverseRecOn with
  | nil => exact ⟨rfl, fun w hw => (nomatch hw), fun x hx => (nomatch hx)⟩
  | append_singleton history h ih =>
    rw [ledger_concat]
    exact ih.record h

/-- A request begins to wait when it is sent. -/
theorem Ledger.Sound.record_sent {history : List (Happening χ ν α κ)} {l : Ledger χ ν α}
    (hl : l.Sound patience history) (clock : χ → κ) (channel : χ) (number : ν) :
    (l.record clock patience (.sent channel number)).waitingOf history.length =
        [⟨history.length, channel, number, patience channel⟩] ∧
      (l.record clock patience (.sent channel number)).settledOf history.length = [] := by
  have hearlier {i : ℕ} {x : Happening χ ν α κ} (hi : history[i]? = some x) : i ≠ history.length :=
    Nat.ne_of_lt (List.getElem?_eq_some_iff.mp hi).1
  have hwaiting : l.waitingOf history.length = [] := by
    refine List.filter_eq_nil_iff.mpr ?_
    intro v hv
    simpa using hearlier (hl.waiting v hv).1
  have hsettled : l.settledOf history.length = [] := by
    refine List.filter_eq_nil_iff.mpr ?_
    intro x hx
    obtain ⟨c, n, hsent⟩ := hl.settled x hx
    simpa using hearlier hsent
  rw [waitingOf_record, settledOf_record, hwaiting, hsettled]
  simp [entered, hl.recorded]

/-- **A request, from its sending on**: the ledger has settled what it has come to, and while it has come to
nothing, it waits. -/
theorem ledger_of_sent (clock : χ → κ) (patience : χ → ℕ) {history : List (Happening χ ν α κ)} {request : ℕ}
    {channel : χ} {number : ν} (h : history[request]? = some (.sent channel number)) :
    let w : Waiting χ ν := ⟨request, channel, number, patience channel⟩
    (ledger clock patience history).settledOf request =
        ((outcome clock w (history.drop (request + 1))).map fun o => (request, o)).toList ∧
      (outcome clock w (history.drop (request + 1)) = none → ∃ v : Waiting χ ν,
        (ledger clock patience history).waitingOf request = [v] ∧ v.channel = channel ∧ v.number = number) := by
  intro w
  obtain ⟨hlt, hget⟩ := List.getElem?_eq_some_iff.mp h
  have hlength : (history.take request).length = request := List.length_take_of_le (Nat.le_of_lt hlt)
  have hbefore := ledger_sound clock patience (history.take request)
  obtain ⟨hwaiting, hsettled⟩ := hbefore.record_sent clock channel number
  rw [hlength] at hwaiting hsettled
  have hrun : ledger clock patience history = run (Ledger.record clock patience)
      ((ledger clock patience (history.take request)).record clock patience (.sent channel number))
      (history.drop (request + 1)) := by
    have hsplit : history = history.take request ++ .sent channel number :: history.drop (request + 1) := by
      rw [← hget, List.getElem_cons_drop, List.take_append_drop]
    conv_lhs => rw [hsplit]
    rw [ledger, run_append, run_cons]
    rfl
  have hrecorded : w.request < ((ledger clock patience (history.take request)).record clock patience
      (.sent channel number)).recorded := by
    change request < (ledger clock patience (history.take request)).recorded + 1
    rw [hbefore.recorded, hlength]
    exact Nat.lt_succ_self request
  rw [hrun]
  exact Ledger.run_of_waiting (w := w) hrecorded hwaiting hsettled _

end SmppGateway.Foundation
