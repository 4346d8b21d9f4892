import SmppGateway.Foundation.Run
import SmppGateway.Net.Expirator

/-!
# How an armed key ends

A key that is armed waits for a number of ticks. The index of the expirator and those of the entries go round, and
`expire_all` starts the index anew.

## The model

A run is a list of calls of an expirator, none from within the handler; a key that is armed is not armed again,
and waits for fewer than 2^32 ticks.

## What is proved

* `timerWheel_run` — an armed key ends once: by `remove`, by `expire_all`, or by the tick after those that it waits
  for; until then `get_info` finds its info, and the handler is called for it at no other time.
-/

namespace SmppGateway.Net

open Foundation

/-- A call of an expirator. -/
inductive TimerEvent (κ ι : Type) where
  /-- `add`, with a number of nanoseconds. -/
  | add (key : κ) (expirationCount : ℕ) (info : ι)
  /-- `remove`. -/
  | remove (key : κ)
  /-- `on_timer`. -/
  | onTimer
  /-- `expire_all`. -/
  | expireAll
  deriving DecidableEq, Repr

namespace Expirator

variable {κ ι : Type} [DecidableEq κ]

/-! ### Runs -/

/-- What a call leaves, and what it calls the handler with. -/
def handle (e : Expirator κ ι) : TimerEvent κ ι → Expirator κ ι × List (κ × ι)
  | .add key expirationCount info => (e.add key expirationCount info, [])
  | .remove key => (e.remove key, [])
  | .onTimer => (e.onTimer, e.expiring)
  | .expireAll => (e.expireAll, e.all)

/-- A call in a run. -/
def wheelStep (e : Expirator κ ι) (event : TimerEvent κ ι) : Expirator κ ι := (e.handle event).1

/-- What the handler is called with in a run. -/
def handlerCalls (e : Expirator κ ι) : List (TimerEvent κ ι) → List (κ × ι)
  | [] => []
  | event :: events => (e.handle event).2 ++ handlerCalls (e.wheelStep event) events

/-- The calls of the handler for one key. -/
def callsFor (key : κ) (calls : List (κ × ι)) : List (κ × ι) := calls.filter fun x => x.1 = key

/-- A key that is armed is not armed again, and a key waits for fewer than 2^32 ticks. -/
def Fits (e : Expirator κ ι) : TimerEvent κ ι → Prop
  | .add key expirationCount _ => e.getInfo key = none ∧ expirationCount / e.period_ < 2 ^ 32
  | _ => True

/-- A key is removed, all keys expire, or more ticks come than the key waits for. -/
def Ended (key : κ) (ticks : ℕ) (events : List (TimerEvent κ ι)) : Prop :=
  .remove key ∈ events ∨ .expireAll ∈ events ∨
    ticks < events.countP fun event => match event with | .onTimer => true | _ => false

/-- No event arms a key. -/
def NeverAdds (key : κ) (events : List (TimerEvent κ ι)) : Prop :=
  ∀ expirationCount info, .add key expirationCount info ∉ events

/-! ### One key -/

/-- A key is armed: it waits for a number of ticks more. -/
def Armed (e : Expirator κ ι) (key : κ) (left : ℕ) (info : ι) : Prop :=
  left < 2 ^ 32 ∧ e.index_keys_.lookup key = some ((e.index_ + UInt64.ofNat left).toUInt32, info)

/-- A key is not armed. -/
def Idle (e : Expirator κ ι) (key : κ) : Prop := e.index_keys_.lookup key = none

variable {e : Expirator κ ι} {key k : κ} {left : ℕ} {info : ι} {event : TimerEvent κ ι}
  {events : List (TimerEvent κ ι)}

/-- What the handler is called with for a key is in the entry found under it. -/
theorem callsFor_calls (e : Expirator κ ι) (p : UInt32 → Bool) (key : κ) :
    callsFor key (e.calls p) =
      ((e.index_keys_.lookup key).bind fun x => if p x.1 then some (key, x.2) else none).toList := by
  have hcalls (entries : List (Σ _ : κ, UInt32 × ι)) :
      callsFor key ((entries.filter fun x => p x.2.1).map fun x => (x.1, x.2.2)) =
        entries.filterMap fun x => if x.1 = key ∧ p x.2.1 then some (x.1, x.2.2) else none := by
    induction entries with
    | nil => rfl
    | cons x entries ih =>
      rw [callsFor] at ih ⊢
      by_cases hp : p x.2.1 = true
      · by_cases hk : x.1 = key
        · simp [hp, hk, ih]
        · simp [hp, hk, ih]
      · simp [hp, ih]
  have hlookup := e.index_keys_.filterMap_eq_lookup key
    (fun x => if x.1 = key ∧ p x.2.1 then some (x.1, x.2.2) else none)
    (fun x _ hne => if_neg fun h => hne h.1)
  rw [calls, hcalls, hlookup]
  simp only [true_and]

/-- A key that is not armed is not called for. -/
theorem Idle.callsFor_calls (h : e.Idle key) (p : UInt32 → Bool) : callsFor key (e.calls p) = [] := by
  rw [Expirator.callsFor_calls, h]
  rfl

theorem Idle.getInfo (h : e.Idle key) : e.getInfo key = none := by
  rw [Expirator.getInfo, h]
  rfl

theorem Armed.getInfo (h : e.Armed key left info) : e.getInfo key = some info := by
  rw [Expirator.getInfo, h.2]
  rfl

/-- **A key that is not armed** stays so until it is added, and the handler is not called for it. -/
theorem Idle.handle (h : e.Idle key) (hadd : ∀ expirationCount info, event ≠ .add key expirationCount info) :
    (e.wheelStep event).Idle key ∧ callsFor key (e.handle event).2 = [] := by
  cases event with
  | add k expirationCount info =>
    have hne : key ≠ k := by
      rintro rfl
      exact hadd _ _ rfl
    refine ⟨?_, rfl⟩
    show (e.index_keys_.insertNew k _).lookup key = none
    by_cases hk : k ∈ e.index_keys_
    · rwa [Table.insertNew_of_mem hk]
    · rwa [Table.insertNew_of_notMem hk, AList.lookup_insert_ne hne]
  | remove k =>
    refine ⟨?_, rfl⟩
    show (e.index_keys_.erase k).lookup key = none
    by_cases hk : key = k
    · rw [hk, AList.lookup_erase]
    · rwa [AList.lookup_erase_ne hk]
  | onTimer =>
    refine ⟨?_, h.callsFor_calls fun index => index = e.index_.toUInt32⟩
    show (e.index_keys_.filter _).lookup key = none
    rw [Table.lookup_filter, h]
    rfl
  | expireAll => exact ⟨rfl, h.callsFor_calls fun _ => true⟩

/-- **A key that is added** is armed. -/
theorem armed_add (hfits : e.Fits (.add key left info)) :
    (e.wheelStep (.add key left info)).Armed key (left / e.period_) info := by
  refine ⟨hfits.2, ?_⟩
  show (e.index_keys_.insertNew key _).lookup key = _
  rw [Table.insertNew_of_notMem (notMem_of_getInfo hfits.1), AList.lookup_insert]
  rfl

/-- **A tick of an armed key**: it waits for one tick less, or the handler is called for it. -/
theorem Armed.onTimer (h : e.Armed key left info) :
    (left = 0 ∧ callsFor key e.expiring = [(key, info)] ∧ e.onTimer.Idle key) ∨
    (0 < left ∧ callsFor key e.expiring = [] ∧ e.onTimer.Armed key (left - 1) info) := by
  obtain ⟨hlt, hlookup⟩ := h
  have hdue : (e.index_ + UInt64.ofNat left).toUInt32 = e.index_.toUInt32 ↔ left = 0 := index_eq_iff hlt
  have hnext : e.onTimer.index_keys_.lookup key =
      (some ((e.index_ + UInt64.ofNat left).toUInt32, info)).filter fun x => x.1 ≠ e.index_.toUInt32 := by
    rw [← hlookup]
    exact Table.lookup_filter _ _ _
  by_cases hleft : left = 0
  · refine .inl ⟨hleft, ?_, ?_⟩
    · rw [expiring, callsFor_calls, hlookup]
      simp [hdue.mpr hleft]
    · rw [Idle, hnext]
      simp [hdue.mpr hleft]
  · have hne := hdue.not.mpr hleft
    refine .inr ⟨Nat.pos_of_ne_zero hleft, ?_, Nat.lt_of_le_of_lt (Nat.sub_le _ _) hlt, ?_⟩
    · rw [expiring, callsFor_calls, hlookup]
      simp only [Option.bind_some, decide_eq_true_eq, if_neg hne, Option.toList_none]
    · rw [hnext]
      have hindex : e.onTimer.index_ + UInt64.ofNat (left - 1) = e.index_ + UInt64.ofNat left := by
        show e.index_ + 1 + UInt64.ofNat (left - 1) = _
        rw [UInt64.add_assoc, ← UInt64.ofNat_one, ← UInt64.ofNat_add,
          Nat.add_sub_cancel' (Nat.pos_of_ne_zero hleft)]
      rw [hindex, Option.filter_some, if_pos (by simpa only [decide_not, Bool.not_eq_true', decide_eq_false_iff_not,
        ne_eq] using hne)]

/-- `expire_all` calls the handler for an armed key. -/
theorem Armed.all (h : e.Armed key left info) : callsFor key e.all = [(key, info)] := by
  rw [Expirator.all, callsFor_calls, h.2]
  simp

/-- What another call leaves of an armed key. -/
theorem Armed.keep {e' : Expirator κ ι} (h : e.Armed key left info) (hindex : e'.index_ = e.index_)
    (hlookup : e'.index_keys_.lookup key = e.index_keys_.lookup key) : e'.Armed key left info :=
  ⟨h.1, by rw [hlookup, hindex]; exact h.2⟩

/-! ### When a key has ended -/

omit [DecidableEq κ] in
theorem not_ended_nil (key : κ) (ticks : ℕ) : ¬Ended key ticks ([] : List (TimerEvent κ ι)) := by
  simp [Ended]

omit [DecidableEq κ] in
theorem ended_add (k : κ) (expirationCount : ℕ) (i : ι) (events : List (TimerEvent κ ι)) :
    Ended key left (.add k expirationCount i :: events) ↔ Ended key left events := by simp [Ended]

omit [DecidableEq κ] in
theorem ended_remove_of_ne (hne : k ≠ key) (events : List (TimerEvent κ ι)) :
    Ended key left (.remove k :: events) ↔ Ended key left events := by simp [Ended, hne.symm]

omit [DecidableEq κ] in
theorem ended_onTimer (hleft : 0 < left) (events : List (TimerEvent κ ι)) :
    Ended key left (.onTimer :: events) ↔ Ended key (left - 1) events := by
  simp only [Ended, List.mem_cons, reduceCtorEq, false_or, List.countP_cons, if_true]
  refine or_congr_right (or_congr_right ?_)
  omega

/-! ### Runs of one key -/

/-- A key that is not armed, and is not added in a run. -/
theorem Idle.run (h : e.Idle key) (hadds : NeverAdds key events) :
    (Foundation.run wheelStep e events).Idle key ∧ callsFor key (e.handlerCalls events) = [] := by
  induction events generalizing e with
  | nil => exact ⟨h, rfl⟩
  | cons event events ih =>
    obtain ⟨hnext, hcalls⟩ := h.handle fun count info heq => hadds count info (heq ▸ List.mem_cons_self)
    obtain ⟨hlast, hrest⟩ := ih hnext fun count info hmem => hadds count info (List.mem_cons_of_mem _ hmem)
    refine ⟨hlast, ?_⟩
    rw [handlerCalls, callsFor, List.filter_append]
    exact List.append_eq_nil_iff.mpr ⟨hcalls, hrest⟩

/-- **A key that has not ended** waits on, and the handler is not called for it. -/
theorem Armed.run (h : e.Armed key left info) (hfits : Along wheelStep Fits e events)
    (hended : ¬Ended key left events) : ∃ left', (Foundation.run wheelStep e events).Armed key left' info ∧
      callsFor key (e.handlerCalls events) = [] ∧
      ∀ rest, Ended key left (events ++ rest) ↔ Ended key left' rest := by
  induction events generalizing e left with
  | nil => exact ⟨left, h, rfl, fun rest => Iff.rfl⟩
  | cons event events ih =>
    obtain ⟨hfit, hrest⟩ := hfits
    -- what remains to be shown of a call that leaves the key armed
    have hgo {left' : ℕ} (hnext : (e.wheelStep event).Armed key left' info)
        (hcalls : callsFor key (e.handle event).2 = [])
        (hiff : ∀ rest, Ended key left (event :: rest) ↔ Ended key left' rest) :
        ∃ left'', (Foundation.run wheelStep e (event :: events)).Armed key left'' info ∧
          callsFor key (e.handlerCalls (event :: events)) = [] ∧
          ∀ rest, Ended key left (event :: events ++ rest) ↔ Ended key left'' rest := by
      obtain ⟨left'', hlast, hnone, hends⟩ := ih hnext hrest ((hiff events).not.mp hended)
      refine ⟨left'', hlast, ?_, fun rest => (hiff _).trans (hends rest)⟩
      rw [handlerCalls, callsFor, List.filter_append]
      exact List.append_eq_nil_iff.mpr ⟨hcalls, hnone⟩
    cases event with
    | add k expirationCount i =>
      have hne : key ≠ k := by
        rintro rfl
        have hinfo := h.getInfo
        rw [hfit.1] at hinfo
        cases hinfo
      refine hgo (h.keep rfl ?_) rfl (ended_add k expirationCount i)
      show (e.index_keys_.insertNew k _).lookup key = _
      rw [Table.insertNew_of_notMem (notMem_of_getInfo hfit.1), AList.lookup_insert_ne hne]
    | remove k =>
      have hne : key ≠ k := by
        rintro rfl
        exact hended (.inl List.mem_cons_self)
      exact hgo (h.keep rfl (AList.lookup_erase_ne hne)) rfl (ended_remove_of_ne hne.symm)
    | onTimer =>
      rcases h.onTimer with ⟨hzero, -, -⟩ | ⟨hpos, hcalls, hnext⟩
      · exact absurd (.inr (.inr (by simp [hzero]))) hended
      · exact hgo hnext hcalls (ended_onTimer hpos)
    | expireAll => exact absurd (.inr (.inl List.mem_cons_self)) hended

/-- **The call that ends a key** calls the handler for it, unless it removes it. -/
theorem Armed.ends (h : e.Armed key left info) (hended : Ended key left [event]) :
    (e.wheelStep event).Idle key ∧
      ((event = .remove key ∧ callsFor key (e.handle event).2 = []) ∨
        (event ≠ .remove key ∧ callsFor key (e.handle event).2 = [(key, info)])) := by
  cases event with
  | add k expirationCount i => exact absurd ((ended_add k expirationCount i []).mp hended) (not_ended_nil key left)
  | remove k =>
    by_cases hk : k = key
    · subst hk
      exact ⟨AList.lookup_erase _ _, .inl ⟨rfl, rfl⟩⟩
    · exact absurd ((ended_remove_of_ne hk []).mp hended) (not_ended_nil key left)
  | onTimer =>
    rcases h.onTimer with ⟨-, hcalls, hidle⟩ | ⟨hpos, -, -⟩
    · exact ⟨hidle, .inr ⟨by simp, hcalls⟩⟩
    · exact absurd ((ended_onTimer hpos []).mp hended) (not_ended_nil key _)
  | expireAll => exact ⟨rfl, .inr ⟨by simp, h.all⟩⟩

theorem handlerCalls_append (e : Expirator κ ι) (xs ys : List (TimerEvent κ ι)) :
    e.handlerCalls (xs ++ ys) = e.handlerCalls xs ++ (Foundation.run wheelStep e xs).handlerCalls ys := by
  induction xs generalizing e with
  | nil => rfl
  | cons event xs ih =>
    rw [List.cons_append, handlerCalls, handlerCalls, ih, List.append_assoc]
    rfl

/-- How an entry that is added lives and ends: until a call ends it, `get_info` finds its info and the handler is
not called for it; from then on nothing is found, and the handler has been called for it once, or not at all if
it was removed, as long as it is not added again. -/
structure EndsOnce (e : Expirator κ ι) (key : κ) (ticks : ℕ) (info : ι) : Prop where
  live : ∀ events, Along wheelStep Fits e events → ¬Ended key ticks events →
    (Foundation.run wheelStep e events).getInfo key = some info ∧ callsFor key (e.handlerCalls events) = []
  ends : ∀ events event later, Along wheelStep Fits e (events ++ event :: later) → ¬Ended key ticks events →
    Ended key ticks (events ++ [event]) → NeverAdds key later →
    (Foundation.run wheelStep e (events ++ event :: later)).getInfo key = none ∧
    ((event = .remove key ∧ callsFor key (e.handlerCalls (events ++ event :: later)) = []) ∨
      (event ≠ .remove key ∧ callsFor key (e.handlerCalls (events ++ event :: later)) = [(key, info)]))

/-- An armed key ends once. -/
theorem Armed.endsOnce (h : e.Armed key left info) : e.EndsOnce key left info where
  live events hfits hended := by
    obtain ⟨left', hlast, hcalls, -⟩ := h.run hfits hended
    exact ⟨hlast.getInfo, hcalls⟩
  ends events event later hfits hended hend hadds := by
    obtain ⟨left', hlast, hcalls, hends⟩ := h.run (along_append.mp hfits).1 hended
    obtain ⟨hidle, hhow⟩ := hlast.ends ((hends [event]).mp hend)
    obtain ⟨hstays, hnone⟩ := hidle.run hadds
    have hsplit : callsFor key (e.handlerCalls (events ++ event :: later)) =
        callsFor key ((Foundation.run wheelStep e events).handle event).2 := by
      rw [callsFor] at hcalls hnone
      rw [handlerCalls_append, handlerCalls, callsFor, List.filter_append, List.filter_append, hcalls, hnone,
        List.nil_append, List.append_nil, callsFor]
    rw [hsplit, run_append]
    exact ⟨hstays.getInfo, hhow⟩

/-- **The timer wheel is exact.** From any index and through any run, an entry that is added ends once: when it is
removed, when everything expires, or at the tick after as many ticks as its time has periods; and what is not
added is not called for. -/
theorem timerWheel_run (period : ℕ) (index : UInt64) (events : List (TimerEvent κ ι))
    (hfits : Along wheelStep Fits (⟨period, index, ∅⟩ : Expirator κ ι) events) :
    (∀ before key expirationCount info after, events = before ++ .add key expirationCount info :: after →
      (Foundation.run wheelStep (⟨period, index, ∅⟩ : Expirator κ ι)
        (before ++ [.add key expirationCount info])).EndsOnce key (expirationCount / period) info) ∧
    ∀ key, NeverAdds key events →
      (Foundation.run wheelStep (⟨period, index, ∅⟩ : Expirator κ ι) events).getInfo key = none ∧
        callsFor key ((⟨period, index, ∅⟩ : Expirator κ ι).handlerCalls events) = [] := by
  have hperiod (e : Expirator κ ι) (es : List (TimerEvent κ ι)) :
      (Foundation.run wheelStep e es).period_ = e.period_ := by
    induction es generalizing e with
    | nil => rfl
    | cons event es ih =>
      refine (ih (e.wheelStep event)).trans ?_
      cases event <;> rfl
  constructor
  · rintro before key expirationCount info after rfl
    have hadd := (along_append.mp hfits).2.1
    have harmed := armed_add hadd
    rw [hperiod] at harmed
    rw [run_concat]
    exact harmed.endsOnce
  · intro key hadds
    have hnew : (⟨period, index, ∅⟩ : Expirator κ ι).Idle key := rfl
    obtain ⟨hidle, hcalls⟩ := hnew.run hadds
    exact ⟨hidle.getInfo, hcalls⟩

theorem timerWheel_run_wrap :
    (Foundation.run wheelStep (⟨10, 4294967295, ∅⟩ : Expirator ℕ ℕ) [.add 1 25 7]).EndsOnce 1 2 7 :=
  (timerWheel_run 10 4294967295 [.add 1 25 7, .onTimer, .onTimer] ⟨⟨rfl, by decide⟩, trivial, trivial, trivial⟩).1
    [] 1 25 7 [.onTimer, .onTimer] rfl

end Expirator

end SmppGateway.Net
