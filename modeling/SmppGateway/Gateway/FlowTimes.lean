import Mathlib.Data.List.TakeWhile
import SmppGateway.Foundation.RateLimit
import SmppGateway.Gateway.FlowControl

/-!
# The queues of times

The `fixed_flow` method keeps the times of the packets that it has let pass, and forgets those that are more than
a second ago.

## What is proved

* `fixedFlow_run` — no second has more packets than the rate allows, as long as no check comes when as many as it
  allows are kept and the oldest is a second old to the microsecond.
* `not_fixedFlow_run` — two packets that pass in one second with a rate of one.
-/

namespace SmppGateway.Gateway

open Foundation

/-! ### Runs of checks -/

/-- A check in a run, with what the clocks were when one has returned zero: those are the packets that the
callers let pass. -/
def passStep (s : Except Stop (FlowControl × List Clocks)) (clocks : Clocks) :
    Except Stop (FlowControl × List Clocks) :=
  s.bind fun s => (s.1.check clocks).map fun r =>
    (r.1, if r.2 = some 0 then s.2 ++ [clocks] else s.2)

/-- The times of some checks, in microseconds. -/
def microseconds (passed : List Clocks) : List ℕ := passed.map fun clocks => clocks.current_time.toNat

namespace FlowControl

variable {s : FlowControl} {time : UInt64} {clocks : Clocks} {passed : List Clocks}

/-! ### The `fixed_flow` method -/

/-- As many packets as the rate allows are kept and are no more than a second ago, and one is a second ago to the
microsecond. -/
def AtEdge (s : FlowControl) (time : UInt64) : Prop :=
  s.max_packets_per_second_.toNat ≤ (s.flow_times_fixed_.filter fun t => time - t ≤ 1000000).length ∧
    ∃ first ∈ s.flow_times_fixed_, time - first = 1000000

instance (s : FlowControl) (time : UInt64) : Decidable (s.AtEdge time) := inferInstanceAs (Decidable (_ ∧ _))

/-- The times that are kept are the last ones of the packets that have passed, up to the reading `last`. -/
structure KeepsTimes (rate : UInt32) (last : ℕ) (s : FlowControl) (passed : List Clocks) : Prop where
  flow_method_ : s.flow_method_ = .fixedFlow
  max_packets_per_second_ : s.max_packets_per_second_ = rate
  split : ∃ gone, microseconds passed = gone ++ s.flow_times_fixed_.map UInt64.toNat ∧
    ∀ t ∈ gone, t + 1000000 ≤ last
  sorted : s.flow_times_fixed_.Pairwise (· ≤ ·)
  le_last : ∀ t ∈ s.flow_times_fixed_, t.toNat ≤ last
  spaced : Spaced (rate.toNat - 1) 1000000 (microseconds passed)

/-- What is forgotten is more than a second ago. -/
theorem KeepsTimes.removePastData {rate : UInt32} {last : ℕ} (h : KeepsTimes rate last s passed)
    (hle : last ≤ time.toNat) : KeepsTimes rate time.toNat (s.removePastData time) passed := by
  obtain ⟨gone, hsplit, hgone⟩ := h.split
  have hmethod := h.flow_method_
  rw [FlowControl.removePastData, hmethod]
  have hsuffix := List.dropWhile_suffix (l := s.flow_times_fixed_) fun t => decide (1000000 < time - t)
  refine ⟨rfl, h.max_packets_per_second_, ?_, h.sorted.sublist hsuffix.sublist, fun t ht => ?_, h.spaced⟩
  · have hjoin := List.takeWhile_append_dropWhile (l := s.flow_times_fixed_)
      (p := fun t => decide (1000000 < time - t))
    refine ⟨gone ++ (s.flow_times_fixed_.takeWhile fun t => decide (1000000 < time - t)).map UInt64.toNat, ?_, ?_⟩
    · rw [hsplit, List.append_assoc, ← List.map_append, hjoin]
    · intro t ht
      rcases List.mem_append.mp ht with ht | ht
      · exact Nat.le_trans (hgone t ht) hle
      · obtain ⟨t, hmem, rfl⟩ := List.mem_map.mp ht
        have hold : 1000000 < time - t := by simpa using List.mem_takeWhile_imp hmem
        have hpast := Nat.le_trans (h.le_last t ((List.takeWhile_sublist _).subset hmem)) hle
        rw [UInt64.lt_iff_toNat_lt, UInt64.toNat_sub_of_le _ _ (UInt64.le_iff_toNat_le.mpr hpast)] at hold
        simp only [UInt64.reduceToNat] at hold
        omega
  · exact Nat.le_trans (h.le_last t (hsuffix.subset ht)) hle

/-- A packet that passes is kept. -/
theorem KeepsTimes.pass {rate : UInt32} (h : KeepsTimes rate clocks.current_time.toNat s passed)
    (hroom : s.flow_times_fixed_.length < rate.toNat) :
    KeepsTimes rate clocks.current_time.toNat
      { s with flow_times_fixed_ := s.flow_times_fixed_ ++ [clocks.current_time] } (passed ++ [clocks]) := by
  obtain ⟨gone, hsplit, hgone⟩ := h.split
  have hconcat : microseconds (passed ++ [clocks]) = microseconds passed ++ [clocks.current_time.toNat] := by
    rw [microseconds, List.map_append]
    rfl
  refine ⟨h.flow_method_, h.max_packets_per_second_, ⟨gone, ?_, hgone⟩, ?_, ?_, ?_⟩
  · rw [hconcat, hsplit, List.map_append, List.append_assoc]
    rfl
  · refine List.pairwise_append.mpr ⟨h.sorted, List.pairwise_singleton _ _, fun t ht u hu => ?_⟩
    rw [List.mem_singleton.mp hu]
    exact UInt64.le_iff_toNat_le.mpr (h.le_last t ht)
  · intro t ht
    rcases List.mem_append.mp ht with ht | ht
    · exact h.le_last t ht
    · rw [List.mem_singleton.mp ht]
  · rw [hconcat]
    refine h.spaced.concat fun t ht => hgone t ?_
    -- the entries before the last `rate - 1` ones are forgotten, since fewer than `rate` are kept
    have hcount : (microseconds passed).length - (rate.toNat - 1) ≤ gone.length := by
      rw [hsplit, List.length_append, List.length_map]
      omega
    rw [hsplit, List.length_append, List.length_map] at ht
    rw [List.take_append_of_le_length (by
      rw [hsplit, List.length_append, List.length_map] at hcount
      exact hcount)] at ht
    exact List.mem_of_mem_take ht

/-- A packet that is refused is told to wait, unless the oldest time is at the edge. -/
theorem KeepsTimes.waitFor_ne {rate : UInt32} {last : ℕ} (h : KeepsTimes rate last s passed)
    (hle : last ≤ time.toNat) (hedge : ¬s.AtEdge time)
    (hfull : rate.toNat ≤ (s.removePastData time).flow_times_fixed_.length) :
    waitFor (s.removePastData time).flow_times_fixed_ 1000000 time ≠ some 0 := by
  intro hwait
  have hkept := h.removePastData hle
  rw [FlowControl.removePastData, h.flow_method_] at hkept hfull hwait
  simp only at hkept hfull hwait
  have hsuffix := List.dropWhile_suffix (l := s.flow_times_fixed_) fun t => decide (1000000 < time - t)
  cases hqueue : s.flow_times_fixed_.dropWhile fun t => decide (1000000 < time - t) with
  | nil =>
    rw [hqueue] at hwait
    cases hwait
  | cons first times =>
    rw [hqueue] at hsuffix hwait hfull hkept
    have hage : time - first = 1000000 := by
      have hzero : first + 1000000 - time = 0 := Option.some.inj hwait
      grind
    have hsorted := hkept.sorted
    have hnow := hkept.le_last
    simp only at hsorted hnow
    refine hedge ⟨?_, first, hsuffix.subset List.mem_cons_self, hage⟩
    -- the ones that are kept are no older than the first
    have hall : ∀ t ∈ first :: times, time - t ≤ 1000000 := by
      intro t ht
      have hfirst : first ≤ t := by
        rcases List.mem_cons.mp ht with rfl | ht
        · exact UInt64.le_refl _
        · exact List.rel_of_pairwise_cons hsorted ht
      have hfirst_le := UInt64.le_iff_toNat_le.mpr (hnow first List.mem_cons_self)
      have ht_le := UInt64.le_iff_toNat_le.mpr (hnow t ht)
      rw [← hage, UInt64.le_iff_toNat_le, UInt64.toNat_sub_of_le _ _ ht_le, UInt64.toNat_sub_of_le _ _ hfirst_le]
      exact Nat.sub_le_sub_left (UInt64.le_iff_toNat_le.mp hfirst) _
    rw [h.max_packets_per_second_]
    refine hfull.trans ?_
    have hfilter := (hsuffix.sublist.filter fun t => decide (time - t ≤ 1000000)).length_le
    rwa [List.filter_eq_self.mpr (by simpa using hall)] at hfilter

/-- A check that is not at the edge lets a packet pass only if it keeps its time. -/
theorem KeepsTimes.check {rate : UInt32} {last : ℕ} (h : KeepsTimes rate last s passed)
    (hle : last ≤ clocks.current_time.toNat) (hedge : ¬s.AtEdge clocks.current_time) :
    ∃ r, s.check clocks = .ok r ∧ KeepsTimes rate clocks.current_time.toNat r.1
      (if r.2 = some 0 then passed ++ [clocks] else passed) := by
  have hkept := h.removePastData hle
  refine ⟨s.checkFixed clocks, by rw [FlowControl.check, h.flow_method_], ?_⟩
  have hrate := hkept.max_packets_per_second_
  rw [checkFixed]
  by_cases hroom : (s.removePastData clocks.current_time).flow_times_fixed_.length <
      (s.removePastData clocks.current_time).max_packets_per_second_.toNat
  · rw [if_pos hroom, if_pos rfl]
    exact hkept.pass (by rwa [hrate] at hroom)
  · rw [if_neg hroom]
    rw [hrate, Nat.not_lt] at hroom
    rw [if_neg (h.waitFor_ne hle hedge hroom)]
    exact hkept

theorem keepsTimes_new (rate window slippage : UInt32) (now last : ℕ) :
    KeepsTimes rate last (new rate .fixedFlow window slippage now) [] where
  flow_method_ := rfl
  max_packets_per_second_ := rfl
  split := ⟨[], rfl, List.forall_mem_nil _⟩
  sorted := List.Pairwise.nil
  le_last := List.forall_mem_nil _
  spaced := trivial

/-- **No second has more packets than the rate allows**, wherever it starts, in a run of checks in the order of
time that do not come at the edge. -/
theorem fixedFlow_run (rate window slippage : UInt32) (now : ℕ) (events : List Clocks) (hrate : 1 ≤ rate)
    (hsorted : events.Pairwise fun c d => c.current_time.toNat ≤ d.current_time.toNat)
    (hedge : Along passStep (fun s clocks => ∀ t passed, s = .ok (t, passed) → ¬t.AtEdge clocks.current_time)
      (.ok (new rate .fixedFlow window slippage now, [])) events) :
    ∃ s passed, run passStep (.ok (new rate .fixedFlow window slippage now, [])) events = .ok (s, passed) ∧
      ∀ t, (within (microseconds passed) t 1000000).length ≤ rate.toNat := by
  obtain ⟨last, s, passed, hrun, hkeeps⟩ := hedge.invariant_timed
    (I := fun last r => ∃ s passed, r = .ok (s, passed) ∧ KeepsTimes rate last s passed) (t := 0)
    (fun last r clocks hr hG hle => by
      obtain ⟨s, passed, rfl, hkeeps⟩ := hr
      obtain ⟨r, hcheck, hnext⟩ := hkeeps.check hle (hG s passed rfl)
      refine ⟨r.1, if r.2 = some 0 then passed ++ [clocks] else passed, ?_, hnext⟩
      show (s.check clocks).map _ = _
      rw [hcheck]
      rfl)
    hsorted (fun _ _ => Nat.zero_le _) ⟨_, _, rfl, keepsTimes_new rate window slippage now 0⟩
  refine ⟨s, passed, hrun, fun t => ?_⟩
  have hle := hkeeps.spaced.window_le t
  have hpos := UInt32.le_iff_toNat_le.mp hrate
  rw [UInt32.toNat_one] at hpos
  omega

theorem fixedFlow_run_twoPackets : ∃ s passed,
    run passStep (.ok (new 1 .fixedFlow 5 0 0, [])) [⟨5000000, 0, 0⟩, ⟨5500000, 0, 0⟩, ⟨6000001, 0, 0⟩] =
      .ok (s, passed) ∧ ∀ t, (within (microseconds passed) t 1000000).length ≤ 1 :=
  fixedFlow_run 1 5 0 0 [⟨5000000, 0, 0⟩, ⟨5500000, 0, 0⟩, ⟨6000001, 0, 0⟩] (by decide) (by simp) (by
    refine ⟨?_, ?_, ?_, trivial⟩
    all_goals
      intro t passed h
      obtain ⟨rfl, -⟩ := Prod.mk.inj (Except.ok.inj h)
      decide)

/-- Two packets pass when the one that was let pass is a second ago to the microsecond. -/
theorem not_fixedFlow_run : ¬ ∀ (rate window slippage : UInt32) (now : ℕ) (events : List Clocks), 1 ≤ rate →
    events.Pairwise (fun c d => c.current_time.toNat ≤ d.current_time.toNat) →
    ∀ s passed, run passStep (.ok (new rate .fixedFlow window slippage now, [])) events = .ok (s, passed) →
    ∀ t, (within (microseconds passed) t 1000000).length ≤ rate.toNat := by
  intro h
  have hwindow := h 1 5 0 0 [⟨5000000, 0, 0⟩, ⟨6000000, 0, 0⟩, ⟨6000000, 0, 0⟩] (by decide) (by simp) _ _ rfl
    6000000
  exact absurd hwindow (by decide)

/-! ### What a check changes -/

/-- Only the members of the `credit` method differ. -/
def SameButCredit (s t : FlowControl) : Prop :=
  ∃ available ind npack last entries, t = { s with
    available_credit_ := available
    credit_arr_ind_ := ind
    npack_in_sec_ := npack
    last_sec_ := last
    credit_arr_ := entries }

theorem SameButCredit.refl (s : FlowControl) : s.SameButCredit s := ⟨_, _, _, _, _, rfl⟩

theorem SameButCredit.trans (s t u : FlowControl) (hst : s.SameButCredit t) (htu : t.SameButCredit u) :
    s.SameButCredit u := by
  obtain ⟨_, _, _, _, _, rfl⟩ := hst
  obtain ⟨_, _, _, _, _, rfl⟩ := htu
  exact ⟨_, _, _, _, _, rfl⟩

theorem idleSecond_same {t : FlowControl} (h : s.idleSecond = .ok t) : s.SameButCredit t := by
  obtain ⟨entry, -, heq⟩ := bind_ok h
  exact ⟨_, _, _, _, _, (Except.ok.inj heq).symm⟩

theorem closeSecond_same {left : UInt32} {t : FlowControl} (h : s.closeSecond left = .ok t) :
    s.SameButCredit t := by
  obtain ⟨entry, -, heq⟩ := bind_ok h
  exact ⟨_, _, _, _, _, (Except.ok.inj heq).symm⟩

/-- The turn of a second. -/
theorem turnSecond_same {sec : UInt64} {t : FlowControl} (h : s.turnSecond sec = .ok t) : s.SameButCredit t := by
  rw [turnSecond] at h
  split at h
  · obtain ⟨entries, -, heq⟩ := bind_ok h
    exact ⟨_, _, _, _, _, (Except.ok.inj heq).symm⟩
  split at h
  · obtain ⟨u, hcatch, hsettle⟩ := bind_ok h
    have hu : s.SameButCredit u := by
      rw [catchUp] at hcatch
      split at hcatch
      · obtain ⟨entries, -, heq⟩ := bind_ok hcatch
        exact ⟨_, _, _, _, _, (Except.ok.inj heq).symm⟩
      · exact repeated_rel SameButCredit.refl SameButCredit.trans (fun _ _ => idleSecond_same) hcatch
    refine SameButCredit.trans s u t hu ?_
    rw [settle] at hsettle
    split at hsettle
    · exact SameButCredit.trans _ _ t ⟨_, _, _, _, _, rfl⟩ (closeSecond_same hsettle)
    · obtain ⟨settled, -, hclose⟩ := bind_ok hsettle
      exact SameButCredit.trans _ _ t ⟨_, _, _, _, _, rfl⟩ (closeSecond_same hclose)
  · exact Except.ok.inj h ▸ .refl s

/-- What no check changes. -/
structure SameConfig (s t : FlowControl) : Prop where
  max_packets_per_second_ : t.max_packets_per_second_ = s.max_packets_per_second_
  flow_method_ : t.flow_method_ = s.flow_method_

theorem SameConfig.refl (s : FlowControl) : s.SameConfig s := ⟨rfl, rfl⟩

theorem SameConfig.trans (s t u : FlowControl) (hst : s.SameConfig t) (htu : t.SameConfig u) :
    s.SameConfig u :=
  ⟨htu.1.trans hst.1, htu.2.trans hst.2⟩

theorem slide_sameConfig {t : FlowControl} (h : s.slide = .ok t) : s.SameConfig t := by
  rw [slide] at h
  split at h
  · cases h
  · obtain rfl := Except.ok.inj h
    exact ⟨rfl, rfl⟩

/-- A packet is refused, or it is counted in the newest slot and in the total. -/
theorem countPacket_ok {r : FlowControl × Option UInt64} (h : s.countPacket = .ok r) :
    r = (s, some 1000000) ∨ ∃ back, s.elements_packet_count_.getLast? = some back ∧ r = ({ s with
      elements_packet_count_ := s.elements_packet_count_.dropLast ++ [back + 1]
      window_total_packets_ := s.window_total_packets_ + 1 }, some 0) := by
  rw [countPacket] at h
  split at h
  · cases h
  · rename_i back hback
    split at h
    · exact .inl (Except.ok.inj h).symm
    · exact .inr ⟨back, hback, (Except.ok.inj h).symm⟩

/-- A check leaves the configuration, and the `credit` method leaves the queue, too. -/
theorem check_same {r : FlowControl × Option UInt64} (h : s.check clocks = .ok r) :
    s.SameConfig r.1 ∧ (s.flow_method_ = .credit → r.1.flow_times_fixed_ = s.flow_times_fixed_) := by
  obtain ⟨normal, fixed, hpast⟩ := removePastData_eq s clocks.current_time
  rw [check] at h
  cases hmethod : s.flow_method_ with
  | disabled =>
    rw [hmethod] at h
    obtain rfl := Except.ok.inj h
    exact ⟨⟨rfl, rfl⟩, fun _ => rfl⟩
  | fixedFlow =>
    rw [hmethod] at h
    obtain rfl := Except.ok.inj h
    refine ⟨?_, fun hcredit => by cases hcredit⟩
    rw [checkFixed, hpast]
    split
    · exact ⟨rfl, rfl⟩
    · exact ⟨rfl, rfl⟩
  | normalDistro =>
    rw [hmethod] at h
    obtain rfl := Except.ok.inj h
    refine ⟨?_, fun hcredit => by cases hcredit⟩
    rw [checkNormal, hpast]
    split
    · exact ⟨rfl, rfl⟩
    · exact ⟨rfl, rfl⟩
  | adaptive =>
    rw [hmethod] at h
    refine ⟨?_, fun hcredit => by cases hcredit⟩
    by_cases hrate : s.max_packets_per_second_ = 0
    · simp only [checkAdaptive, if_pos hrate] at h
      cases h
    · obtain ⟨normal, fixed, answer, heq⟩ := checkAdaptive_eq hrate clocks
      obtain rfl := Except.ok.inj (heq.symm.trans h)
      exact ⟨rfl, rfl⟩
  | credit =>
    rw [hmethod] at h
    obtain ⟨t, hturn, rfl⟩ := map_ok h
    obtain ⟨_, _, _, _, _, rfl⟩ := turnSecond_same hturn
    rw [takeCredit]
    split
    · exact ⟨⟨rfl, rfl⟩, fun _ => rfl⟩
    · exact ⟨⟨rfl, rfl⟩, fun _ => rfl⟩
  | limitCredit =>
    rw [hmethod] at h
    refine ⟨?_, fun hcredit => by cases hcredit⟩
    simp only [checkLimitCredit] at h
    split at h
    · cases h
    · obtain ⟨t, hslides, hcount⟩ := bind_ok h
      obtain ⟨hrate, hsame⟩ : s.SameConfig t := repeated_rel SameConfig.refl SameConfig.trans
        (fun _ _ => slide_sameConfig) hslides
      obtain rfl | ⟨back, -, rfl⟩ := countPacket_ok hcount
      · exact ⟨hrate, hsame⟩
      · exact ⟨hrate, hsame⟩

/-! ### Runs of checks alone -/

/-- A check in a run. -/
def checkStep (s : Except Stop FlowControl) (clocks : Clocks) : Except Stop FlowControl := flowStep s (.check clocks)

end FlowControl

end SmppGateway.Gateway
