import SmppGateway.Gateway.FlowTimes

/-!
# The `limit_credit` method

The method counts the packets of each of the last seconds in a slot of its own, and their sum. A packet passes if
its slot and the sum have room for it.

## The model

A run is compared with the slots of all seconds so far, of which the method keeps the last ones.

## What is proved

* `limitCredit_run` — the counters are those of the last slots, no slot and no window has more packets than the
  limits allow, and nothing underflows, exactly as long as no check comes 2^31 seconds after the last one that
  has begun a slot.
* `not_limitCredit_run` — at such a check the `int` that counts the seconds overflows.
-/

namespace SmppGateway.Gateway

open Foundation

namespace FlowControl

variable {s : FlowControl} {clocks : Clocks} {slots : List ℕ} {rate window slippage : UInt32}

/-! ### The slots of a run -/

/-- The whole seconds since the last check that has begun a slot. -/
def secondsPassed (s : FlowControl) (clocks : Clocks) : ℕ := (clocks.now - s.last_time_) / 1000000000

/-- A packet goes into the newest slot. -/
def countIn (slots : List ℕ) : List ℕ := slots.dropLast ++ [slots.getLastD 0 + 1]

/-- The slots after a check: every second that has passed has one, and a packet that passes is counted. -/
def nextSlots (slots : List ℕ) (seconds : ℕ) (passed : Bool) : List ℕ :=
  let slots := slots ++ List.replicate seconds 0
  if passed then countIn slots else slots

/-- A check in a run, with the slots so far. -/
def slotStep (s : Except Stop (FlowControl × List ℕ)) (clocks : Clocks) :
    Except Stop (FlowControl × List ℕ) :=
  s.bind fun s => (s.1.check clocks).map fun r =>
    (r.1, nextSlots s.2 (s.1.secondsPassed clocks) (r.2 = some 0))

/-- The counters are those of the last slots, and all slots keep to the limits. -/
structure CountsSlots (rate window slippage : UInt32) (s : FlowControl) (slots : List ℕ) : Prop where
  flow_method_ : s.flow_method_ = .limitCredit
  max_packets_per_second_ : s.max_packets_per_second_ = rate
  credit_windows_size_ : s.credit_windows_size_ = window
  max_slippage_ : s.max_slippage_ = slippage
  length_eq : s.elements_packet_count_.length = window.toNat
  last_slots : s.elements_packet_count_.map UInt32.toNat = slots.drop (slots.length - window.toNat)
  total_eq : s.window_total_packets_.toNat = total s.elements_packet_count_
  slot_le : ∀ n ∈ slots, n ≤ rate.toNat + slippage.toNat
  window_le : WindowsLe window.toNat (rate.toNat * window.toNat) slots

/-- What a check does with the counters: no slot that is taken out of the sum is more than the sum, and a packet
passes exactly if it is counted in the newest slot and in the sum. -/
structure CountsCheck (s : FlowControl) (clocks : Clocks) (r : FlowControl × Option UInt64) : Prop where
  no_underflow : ∀ k < s.secondsPassed clocks, ∃ t front, repeated slide k s = .ok t ∧
    t.elements_packet_count_.head? = some front ∧ front ≤ t.window_total_packets_
  counted : ∃ t back, repeated slide (s.secondsPassed clocks) s = .ok t ∧
    t.elements_packet_count_.getLast? = some back ∧
    (r.2 = some 0 ↔ r.1.elements_packet_count_.getLast? = some (back + 1) ∧
      r.1.window_total_packets_ = t.window_total_packets_ + 1)

/-! ### The slots move on -/

/-- The slots that are kept are no more than there are. -/
theorem CountsSlots.window_le_length (h : CountsSlots rate window slippage s slots) :
    window.toNat ≤ slots.length := by
  have hlength := congrArg List.length h.last_slots
  rw [List.length_map, h.length_eq, List.length_drop] at hlength
  omega

/-- The sum is that of the last slots. -/
theorem CountsSlots.sum_last (h : CountsSlots rate window slippage s slots) :
    (slots.drop (slots.length - window.toNat)).sum = s.window_total_packets_.toNat := by
  rw [← h.last_slots, h.total_eq, total]

theorem CountsSlots.slide (h : CountsSlots rate window slippage s slots) (hwindow : 0 < window.toNat) :
    ∃ t front, s.slide = .ok t ∧ s.elements_packet_count_.head? = some front ∧
      front ≤ s.window_total_packets_ ∧ CountsSlots rate window slippage t (slots ++ [0]) := by
  have hlong := h.window_le_length
  cases hcounts : s.elements_packet_count_ with
  | nil =>
    have hlength := h.length_eq
    rw [hcounts, List.length_nil] at hlength
    omega
  | cons front rest =>
    have hsum : s.window_total_packets_.toNat = front.toNat + total rest := by
      rw [h.total_eq, hcounts, total_cons]
    have hle : front ≤ s.window_total_packets_ := UInt32.le_iff_toNat_le.mpr (by omega)
    have hslide : s.slide = .ok { s with
        window_total_packets_ := s.window_total_packets_ - front
        elements_packet_count_ := rest ++ [0] } := by rw [FlowControl.slide, hcounts]
    refine ⟨_, front, hslide, rfl, hle, h.1, h.2, h.3, h.4, ?_, ?_, ?_, ?_, ?_⟩
    · have hlength := h.length_eq
      rw [hcounts, List.length_cons] at hlength
      simpa using hlength
    · have hlast := h.last_slots
      rw [hcounts, List.map_cons] at hlast
      rw [List.map_append, List.length_append, List.length_singleton,
        List.drop_append_of_le_length (by omega), Nat.succ_sub hlong, ← List.tail_drop, ← hlast]
      rfl
    · show (s.window_total_packets_ - front).toNat = total (rest ++ [0])
      rw [UInt32.toNat_sub_of_le _ _ hle, hsum]
      simp
    · intro n hn
      rcases List.mem_append.mp hn with hn | hn
      · exact h.slot_le n hn
      · rw [List.mem_singleton.mp hn]
        exact Nat.zero_le _
    · exact h.window_le.append_zeros 1

theorem CountsSlots.slides (h : CountsSlots rate window slippage s slots) (hwindow : 0 < window.toNat) (n : ℕ) :
    ∃ t, repeated FlowControl.slide n s = .ok t ∧
      CountsSlots rate window slippage t (slots ++ List.replicate n 0) := by
  induction n generalizing s slots with
  | zero => exact ⟨s, rfl, by simpa using h⟩
  | succ n ih =>
    obtain ⟨t, front, ht, -, -, hnext⟩ := h.slide hwindow
    obtain ⟨u, hu, hslots⟩ := ih hnext
    refine ⟨u, by rw [repeated, ht]; exact hu, ?_⟩
    rwa [List.append_assoc] at hslots

/-! ### A packet is counted -/

/-- A packet goes into the newest slot and into the sum. -/
theorem CountsSlots.counted {counts : List UInt32} {back : UInt32} {past : List ℕ} {newest : ℕ}
    (h : CountsSlots rate window slippage s (past ++ [newest])) (hwindow : 0 < window.toNat)
    (hcounts : s.elements_packet_count_ = counts ++ [back]) (hback : back.toNat < rate.toNat + slippage.toNat)
    (htotal : s.window_total_packets_.toNat < rate.toNat * window.toNat)
    (hslot : rate.toNat + slippage.toNat < 2 ^ 32) (hlimit : rate.toNat * window.toNat < 2 ^ 32) :
    CountsSlots rate window slippage { s with
      elements_packet_count_ := counts ++ [back + 1]
      window_total_packets_ := s.window_total_packets_ + 1 } (past ++ [newest + 1]) := by
  have hlong := h.window_le_length
  rw [List.length_append, List.length_singleton] at hlong
  have hdrop : past.length + 1 - window.toNat ≤ past.length := by omega
  have hlast := h.last_slots
  rw [hcounts, List.map_append, List.length_append, List.length_singleton,
    List.drop_append_of_le_length hdrop] at hlast
  obtain ⟨hpast, hnewest⟩ := List.append_inj' hlast rfl
  have hnewest : back.toNat = newest := List.head_eq_of_cons_eq hnewest
  have hsucc : (back + 1).toNat = newest + 1 := by
    rw [UInt32.toNat_add, UInt32.toNat_one, Nat.mod_eq_of_lt (by omega), hnewest]
  refine ⟨h.1, h.2, h.3, h.4, ?_, ?_, ?_, ?_, ?_⟩
  · rw [← h.length_eq, hcounts, List.length_append, List.length_append]
    rfl
  · rw [List.map_append, hpast, List.length_append, List.length_singleton, List.drop_append_of_le_length hdrop,
      ← hsucc]
    rfl
  · have heq := h.total_eq
    rw [hcounts, total_append, total_cons, total_nil] at heq
    rw [total_append, total_cons, total_nil, hsucc, UInt32.toNat_add, UInt32.toNat_one,
      Nat.mod_eq_of_lt (by omega)]
    omega
  · intro n hn
    rcases List.mem_append.mp hn with hn | hn
    · exact h.slot_le n (List.mem_append_left _ hn)
    · rw [List.mem_singleton.mp hn]
      omega
  · refine h.window_le.raise hwindow ?_
    have hsum := h.sum_last
    rw [List.length_append, List.length_singleton] at hsum
    rw [hsum]
    exact htotal

/-- A check lets the packet pass exactly if the newest slot and the sum have room for it. -/
theorem CountsSlots.countPacket (h : CountsSlots rate window slippage s slots) (hwindow : 0 < window.toNat)
    (hslot : rate.toNat + slippage.toNat < 2 ^ 32) (hlimit : rate.toNat * window.toNat < 2 ^ 32) :
    ∃ r back, s.countPacket = .ok r ∧ s.elements_packet_count_.getLast? = some back ∧
      (r.2 = some 0 ↔ r.1.elements_packet_count_.getLast? = some (back + 1) ∧
        r.1.window_total_packets_ = s.window_total_packets_ + 1) ∧
      CountsSlots rate window slippage r.1 (nextSlots slots 0 (r.2 = some 0)) := by
  have hne : s.elements_packet_count_ ≠ [] := by
    rw [← List.length_pos_iff, h.length_eq]
    exact hwindow
  obtain ⟨counts, back, hcounts⟩ : ∃ counts back, s.elements_packet_count_ = counts ++ [back] :=
    ⟨_, _, (List.dropLast_append_getLast hne).symm⟩
  have hback : s.elements_packet_count_.getLast? = some back := by rw [hcounts, List.getLast?_concat]
  rw [FlowControl.countPacket, hback]
  by_cases hfull : s.max_packets_per_second_ + s.max_slippage_ ≤ back ∨
      s.max_packets_per_second_ * s.credit_windows_size_ ≤ s.window_total_packets_
  · refine ⟨_, back, if_pos hfull, rfl, iff_of_false (by simp) fun hcounted => ?_, by simpa [nextSlots] using h⟩
    rw [hback] at hcounted
    simpa using Option.some.inj hcounted.1
  · refine ⟨_, back, if_neg hfull, rfl, iff_of_true rfl ⟨List.getLast?_concat, rfl⟩, ?_⟩
    rw [not_or, UInt32.not_le, UInt32.not_le, UInt32.lt_iff_toNat_lt, UInt32.lt_iff_toNat_lt, UInt32.toNat_add,
      UInt32.toNat_mul, h.max_packets_per_second_, h.max_slippage_, h.credit_windows_size_,
      Nat.mod_eq_of_lt hslot, Nat.mod_eq_of_lt hlimit] at hfull
    obtain ⟨past, newest, rfl⟩ : ∃ past newest, slots = past ++ [newest] := by
      have hslots : slots ≠ [] := by
        have hlong := h.window_le_length
        rw [← List.length_pos_iff]
        omega
      exact ⟨_, _, (List.dropLast_append_getLast hslots).symm⟩
    have hnext := h.counted hwindow hcounts hfull.1 hfull.2 hslot hlimit
    rw [hcounts, List.dropLast_concat]
    simpa [nextSlots, countIn] using hnext

/-! ### Checks -/

/-- A check that does not overflow. -/
theorem CountsSlots.check (h : CountsSlots rate window slippage s slots) (hwindow : 0 < window.toNat)
    (hslot : rate.toNat + slippage.toNat < 2 ^ 32) (hlimit : rate.toNat * window.toNat < 2 ^ 32)
    (hseconds : s.secondsPassed clocks < 2 ^ 31) :
    ∃ r, s.check clocks = .ok r ∧ s.CountsCheck clocks r ∧
      CountsSlots rate window slippage r.1 (nextSlots slots (s.secondsPassed clocks) (r.2 = some 0)) := by
  obtain ⟨t, ht, hslides⟩ := h.slides hwindow (s.secondsPassed clocks)
  have hturned : CountsSlots rate window slippage
      { t with last_time_ := if s.secondsPassed clocks = 0 then t.last_time_ else clocks.now }
      (slots ++ List.replicate (s.secondsPassed clocks) 0) :=
    ⟨hslides.1, hslides.2, hslides.3, hslides.4, hslides.5, hslides.6, hslides.7, hslides.8, hslides.9⟩
  obtain ⟨r, back, hr, hback, hcounted, hnext⟩ := hturned.countPacket hwindow hslot hlimit
  refine ⟨r, ?_, ⟨fun k _ => ?_, t, back, ht, hback, hcounted⟩, ?_⟩
  · rw [FlowControl.check, h.flow_method_]
    show s.checkLimitCredit clocks = _
    rw [checkLimitCredit]
    exact (if_neg (Nat.not_le.mpr hseconds)).trans ((congrArg (Except.bind · _) ht).trans hr)
  · obtain ⟨u, hu, hmiddle⟩ := h.slides hwindow k
    obtain ⟨-, front, -, hfront, hle, -⟩ := hmiddle.slide hwindow
    exact ⟨u, front, hu, hfront, hle⟩
  · simpa [nextSlots] using hnext

theorem check_overflow (hmethod : s.flow_method_ = .limitCredit) (hseconds : ¬s.secondsPassed clocks < 2 ^ 31) :
    s.check clocks = .error .overflow := by
  rw [FlowControl.check, hmethod]
  show s.checkLimitCredit clocks = _
  rw [checkLimitCredit]
  exact if_pos (Nat.not_lt.mp hseconds)

theorem countsSlots_new (rate window slippage : UInt32) (now : ℕ) :
    CountsSlots rate window slippage (new rate .limitCredit window slippage now)
      (List.replicate window.toNat 0) where
  flow_method_ := rfl
  max_packets_per_second_ := rfl
  credit_windows_size_ := rfl
  max_slippage_ := rfl
  length_eq := List.length_replicate
  last_slots := by simp [new]
  total_eq := by simp [new]
  slot_le n hn := by
    rw [List.eq_of_mem_replicate hn]
    exact Nat.zero_le _
  window_le := .replicate_zero _ _ _

/-! ### Runs -/

/-- What a check of a run does, and the slots after it. -/
def KeepsLimits (rate window slippage : UInt32) (s : Except Stop (FlowControl × List ℕ)) (clocks : Clocks) :
    Prop :=
  ∃ t slots r, s = .ok (t, slots) ∧ t.check clocks = .ok r ∧ t.CountsCheck clocks r ∧
    CountsSlots rate window slippage r.1 (nextSlots slots (t.secondsPassed clocks) (r.2 = some 0))

/-- **The limits are kept** at every check of a run exactly if no check comes 2^31 seconds or more after the last
one that has begun a slot. -/
theorem limitCredit_run (rate window slippage : UInt32) (now : ℕ) (events : List Clocks) (hwindow : 1 ≤ window)
    (hlimit : rate.toNat * window.toNat < 2 ^ 32) (hslot : rate.toNat + slippage.toNat < 2 ^ 32) :
    let start : Except Stop (FlowControl × List ℕ) :=
      .ok (new rate .limitCredit window slippage now, List.replicate window.toNat 0)
    Along slotStep (KeepsLimits rate window slippage) start events ↔
      Along slotStep (fun s clocks => ∀ t slots, s = .ok (t, slots) → t.secondsPassed clocks < 2 ^ 31) start
        events := by
  have hpos : 0 < window.toNat := UInt32.le_iff_toNat_le.mp hwindow
  refine along_iff (G := fun _ _ => True)
    (I := fun s => ∃ t slots, s = .ok (t, slots) ∧ CountsSlots rate window slippage t slots) ?_ ?_
    (along_true fun _ _ => trivial) ⟨_, _, rfl, countsSlots_new rate window slippage now⟩
  · rintro _ clocks ⟨t, slots, rfl, hslots⟩ -
    constructor
    · rintro ⟨t', slots', r, heq, hcheck, -⟩ u counts hu
      obtain ⟨rfl, rfl⟩ := Prod.mk.inj (Except.ok.inj heq)
      obtain ⟨rfl, rfl⟩ := Prod.mk.inj (Except.ok.inj hu)
      by_contra hseconds
      rw [check_overflow hslots.flow_method_ hseconds] at hcheck
      cases hcheck
    · intro hseconds
      obtain ⟨r, hcheck, hcounts, hnext⟩ := hslots.check hpos hslot hlimit (hseconds t slots rfl)
      exact ⟨t, slots, r, rfl, hcheck, hcounts, hnext⟩
  · rintro _ clocks ⟨t, slots, rfl, hslots⟩ - hseconds
    obtain ⟨r, hcheck, -, hnext⟩ := hslots.check hpos hslot hlimit (hseconds t slots rfl)
    refine ⟨_, _, ?_, hnext⟩
    show (t.check clocks).map _ = _
    rw [hcheck]
    rfl

theorem limitCredit_run_twoSeconds :
    Along slotStep (KeepsLimits 3 2 1)
      (.ok (new 3 .limitCredit 2 1 0, List.replicate 2 0)) [⟨0, 0, 500000000⟩, ⟨0, 0, 1500000000⟩] :=
  (limitCredit_run 3 2 1 0 [⟨0, 0, 500000000⟩, ⟨0, 0, 1500000000⟩] (by decide) (by decide) (by decide)).mpr (by
    refine ⟨?_, ?_, trivial⟩
    all_goals
      intro t slots h
      obtain ⟨rfl, -⟩ := Prod.mk.inj (Except.ok.inj h)
      decide)

/-- A check that comes 2^31 seconds after the constructor. -/
theorem not_limitCredit_run : ¬ ∀ (rate window slippage : UInt32) (now : ℕ) (events : List Clocks),
    1 ≤ window → rate.toNat * window.toNat < 2 ^ 32 → rate.toNat + slippage.toNat < 2 ^ 32 →
    events.Pairwise (fun c d => c.now ≤ d.now) → (∀ c ∈ events, now ≤ c.now) →
    Along slotStep (KeepsLimits rate window slippage)
      (.ok (new rate .limitCredit window slippage now, List.replicate window.toNat 0)) events := by
  intro h
  have hrun := h 3 2 1 0 [⟨0, 0, 2 ^ 31 * 1000000000⟩] (by decide) (by decide) (by decide)
    (List.pairwise_singleton _ _) (by simp)
  obtain ⟨t, slots, r, heq, hcheck, -⟩ := hrun.1
  obtain ⟨rfl, -⟩ := Prod.mk.inj (Except.ok.inj heq)
  rw [check_overflow rfl (by decide)] at hcheck
  cases hcheck

end FlowControl

end SmppGateway.Gateway
