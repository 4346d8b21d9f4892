import SmppGateway.Gateway.CreditSettlement
import SmppGateway.Gateway.FlowTimes

/-!
# The first time in a queue

Every method that refuses a packet says how long to wait from the first time in a queue, `limit_credit` apart. The
`credit` method puts no time into the one that it reads.

## What is proved

* `turnSecond_of_changed` — the credit at the turn of a second.
* `not_readsEmptyQueue_iff` — the exact condition on one check.
* `readsEmptyQueue_run` — no check of a run reads the first time of an empty queue exactly if the `credit` method
  never refuses a packet.
* `not_readsEmptyQueue_run` — it refuses the second packet of a second with a rate of one.
-/

namespace SmppGateway.Gateway

open Foundation

/-! ### What a settlement takes from the first entry -/

namespace Settling

variable {window : UInt32} {s t : Settling} {n : ℕ}

theorem loop_ok_zero (h : loop window n s = .ok t) {i : ℕ} (hi : s.credit_arr_[i]? = some 0) :
    t.credit_arr_[i]? = some 0 := by
  induction n generalizing s with
  | zero =>
    rw [loop] at h
    split at h
    · exact Except.ok.inj h ▸ hi
    · cases h
  | succ n ih =>
    by_cases hextra : s.extra_used_credit = 0
    · rw [loop_of_zero _ hextra] at h
      exact Except.ok.inj h ▸ hi
    obtain hout | ⟨entry, hentry, ⟨-, hnext⟩ | ⟨hle, hdone⟩⟩ := loop_succ_cases window hextra
    · cases (hout n).symm.trans h
    · refine ih ((hnext n).symm.trans h) ?_
      rw [List.getElem?_set]
      split
      · rename_i heq
        rw [if_pos (heq ▸ (List.getElem?_eq_some_iff.mp hi).1)]
      · exact hi
    · obtain rfl := Except.ok.inj ((hdone n).symm.trans h)
      have hne : s.ind.toNat ≠ i := by
        rintro rfl
        obtain rfl := Option.some.inj (hi.symm.trans hentry)
        exact hextra (UInt32.le_zero_iff.mp hle)
      rw [List.getElem?_set_ne hne, hi]

/-- The first entry is used up, or it covers the overdraft. -/
theorem loop_ok_first (h : loop window n s = .ok t) {entry : UInt32}
    (hentry : s.credit_arr_[s.ind.toNat]? = some entry) : t.credit_arr_[s.ind.toNat]? =
      some (if entry < s.extra_used_credit then 0 else entry - s.extra_used_credit) := by
  have hbound : s.ind.toNat < s.credit_arr_.length := (List.getElem?_eq_some_iff.mp hentry).1
  cases n with
  | zero =>
    rw [loop] at h
    split at h
    · rename_i hzero
      rw [← Except.ok.inj h, hentry, hzero, if_neg UInt32.not_lt_zero, UInt32.sub_zero]
    · cases h
  | succ n =>
    by_cases hextra : s.extra_used_credit = 0
    · rw [loop_of_zero _ hextra] at h
      rw [← Except.ok.inj h, hentry, hextra, if_neg UInt32.not_lt_zero, UInt32.sub_zero]
    obtain hout | ⟨entry', hentry', ⟨hlt, hnext⟩ | ⟨hle, hdone⟩⟩ := loop_succ_cases window hextra
    · cases (hout n).symm.trans h
    · obtain rfl := Option.some.inj (hentry.symm.trans hentry')
      rw [if_pos hlt]
      exact loop_ok_zero ((hnext n).symm.trans h) (List.getElem?_set_self hbound)
    · obtain rfl := Option.some.inj (hentry.symm.trans hentry')
      obtain rfl := Except.ok.inj ((hdone n).symm.trans h)
      rw [if_neg (UInt32.not_lt.mpr hle)]
      exact List.getElem?_set_self hbound

end Settling

/-! ### The credit at the turn of a second -/

namespace FlowControl

variable {s t : FlowControl} {clocks : Clocks} {sec : UInt64} {entry : UInt32}

/-- What is left of an entry when the packets beyond the rate are taken from it. -/
def leftOf (s : FlowControl) (entry : UInt32) : UInt32 :=
  if s.npack_in_sec_ ≤ s.max_packets_per_second_ then entry
  else
    let extra_used_credit := s.npack_in_sec_ - s.max_packets_per_second_
    if entry < extra_used_credit then 0 else entry - extra_used_credit

/-- The available credit and the entry that is replaced next, when some seconds have passed since the last check:
those in which nothing was checked have left all of their credit in place of what their entries had. -/
def caughtUp (s : FlowControl) (passed : UInt64) : UInt32 × UInt32 :=
  if s.credit_windows_size_.toUInt64 ≤ passed then
    (s.max_packets_per_second_ * s.credit_windows_size_, s.max_packets_per_second_)
  else
    ((s.entries.take (passed.toNat - 1)).foldl
        (fun available_credit entry => available_credit - entry + s.max_packets_per_second_) s.available_credit_,
      s.entries.getD (passed.toNat - 1) 0)

/-- The credit of a check that finds the second changed: what the last second has left over comes in for what the
next entry still has. -/
def turnedCredit (s : FlowControl) (passed : UInt64) : UInt32 :=
  (s.caughtUp passed).1 + (s.max_packets_per_second_ - s.npack_in_sec_) - s.leftOf (s.caughtUp passed).2

theorem head?_entries (h : s.Coupled) : s.entries.head? = s.credit_arr_[s.credit_arr_ind_.toNat]? :=
  List.head?_rotate h.credit_arr_ind_

theorem idleSecond_available (h : s.Coupled) (hs : s.idleSecond = .ok t) :
    ∃ entry, s.entries = entry :: s.entries.tail ∧
      t.available_credit_ = s.available_credit_ - entry + s.max_packets_per_second_ := by
  obtain ⟨entry, hentry, hread⟩ := h.exists_entry
  rw [idleSecond, hread] at hs
  refine ⟨entry, (List.cons_head?_tail (by rw [head?_entries h, hentry]; rfl)).symm, ?_⟩
  rw [← Except.ok.inj hs]

theorem repeated_idleSecond_available {n : ℕ} (h : s.Coupled) (hn : n ≤ s.credit_windows_size_.toNat)
    (hs : repeated idleSecond n s = .ok t) : t.available_credit_ = (s.entries.take n).foldl
      (fun available_credit entry => available_credit - entry + s.max_packets_per_second_) s.available_credit_ := by
  induction n generalizing s with
  | zero =>
    rw [← Except.ok.inj hs]
    rfl
  | succ n ih =>
    obtain ⟨u, hu, hcoupled, hentries, -, hrate, -, hwindow, -⟩ := idleSecond_spec h
    obtain ⟨entry, hsplit, havailable⟩ := idleSecond_available h hu
    rw [repeated, hu] at hs
    have hrest := ih hcoupled (by rw [hwindow]; exact Nat.le_of_succ_le hn) hs
    have hlong : n ≤ s.entries.tail.length := by
      rw [List.length_tail, length_entries, h.credit_arr_]
      omega
    rw [hrest, hentries, List.take_append_of_le_length hlong, hrate, havailable, hsplit, List.take_succ_cons,
      List.foldl_cons, List.tail_cons]

theorem catchUp_caughtUp (h : s.Coupled) {passed : UInt64} (hs : s.catchUp passed = .ok t) :
    s.caughtUp passed = (t.available_credit_, t.entries.headD 0) := by
  have hpos := h.window_pos
  by_cases hlong : s.credit_windows_size_.toUInt64 ≤ passed
  · rw [catchUp, if_pos hlong, fill_eq h.credit_arr_] at hs
    rw [caughtUp, if_pos hlong, ← Except.ok.inj hs]
    obtain ⟨n, hn⟩ := Nat.exists_eq_succ_of_ne_zero (Nat.ne_of_gt hpos)
    simp [entries, hn, List.replicate_succ]
  · have hshort : passed.toNat < s.credit_windows_size_.toNat := by
      rw [UInt64.le_iff_toNat_le, UInt32.toNat_toUInt64] at hlong
      exact Nat.not_le.mp hlong
    have hn : passed.toNat - 1 < s.credit_windows_size_.toNat := by omega
    rw [catchUp, if_neg hlong] at hs
    obtain ⟨u, hu, -, hentries, -⟩ := repeated_idleSecond_spec h (Nat.le_of_lt hn)
    obtain rfl := Except.ok.inj (hu.symm.trans hs)
    have hbound : passed.toNat - 1 < s.entries.length := by rwa [length_entries, h.credit_arr_]
    rw [caughtUp, if_neg hlong, ← repeated_idleSecond_available h (Nat.le_of_lt hn) hs, hentries,
      List.drop_eq_getElem_cons hbound, List.getD_eq_getElem?_getD, List.getElem?_eq_getElem hbound]
    rfl

/-- What the end of a second leaves of it. -/
theorem settle_available (hs : s.settle sec = .ok t)
    (hentry : s.credit_arr_[s.credit_arr_ind_.toNat]? = some entry) : t.npack_in_sec_ = 0 ∧
      t.available_credit_ =
        s.available_credit_ + (s.max_packets_per_second_ - s.npack_in_sec_) - s.leftOf entry := by
  have hread {entries : List UInt32} {entry : UInt32} (h : entries[s.credit_arr_ind_.toNat]? = some entry) :
      readEntry entries s.credit_arr_ind_ = .ok entry := by rw [readEntry, h]
  rw [settle] at hs
  rw [leftOf]
  by_cases hle : s.npack_in_sec_ ≤ s.max_packets_per_second_
  · rw [if_pos hle, closeSecond] at hs
    obtain ⟨e, he, hclose⟩ := bind_ok hs
    obtain rfl := Except.ok.inj ((hread hentry).symm.trans he)
    rw [if_pos hle, ← Except.ok.inj hclose]
    exact ⟨rfl, rfl⟩
  · rw [if_neg hle] at hs
    obtain ⟨settled, hloop, hclose⟩ := bind_ok hs
    rw [closeSecond] at hclose
    obtain ⟨e, he, hclose⟩ := bind_ok hclose
    have hfirst := Settling.loop_ok_first hloop hentry
    obtain rfl := Except.ok.inj ((hread hfirst).symm.trans he)
    rw [if_neg hle, ← Except.ok.inj hclose]
    exact ⟨rfl, rfl⟩

/-- **The turn of a second**, as the state before it has it. -/
theorem turnSecond_of_changed (h : s.Coupled) (hcover : s.Covered clocks) (hfirst : s.last_sec_ ≠ 0)
    (hchanged : s.last_sec_ ≠ clocks.current_time / 1000000) :
    ∃ t, s.turnSecond (clocks.current_time / 1000000) = .ok t ∧ t.npack_in_sec_ = 0 ∧
      t.available_credit_ = s.turnedCredit (clocks.current_time / 1000000 - s.last_sec_) := by
  obtain ⟨t, ht, -⟩ := turnSecond_spec h hcover
  refine ⟨t, ht, ?_⟩
  rw [turnSecond, if_neg hfirst, if_pos hchanged] at ht
  obtain ⟨u, hu, hsettle⟩ := bind_ok ht
  obtain ⟨u', hu', hcoupled, -, -, hrate, hpackets, -⟩ :=
    catchUp_spec h (clocks.current_time / 1000000 - s.last_sec_)
  obtain rfl := Except.ok.inj (hu'.symm.trans hu)
  obtain ⟨entry, hentry, -⟩ := hcoupled.exists_entry
  obtain ⟨hzero, havailable⟩ := settle_available hsettle hentry
  have hhead : u'.entries.headD 0 = entry := by
    rw [List.headD_eq_head?_getD, head?_entries hcoupled, hentry]
    rfl
  refine ⟨hzero, ?_⟩
  rw [havailable, turnedCredit, catchUp_caughtUp h hu, hhead, leftOf, leftOf, hrate, hpackets]

-- with a window of one second, one packet in a second leaves nothing for the next
example : (run checkStep (.ok (new 1 .credit 1 0 0)) [⟨5000000, 0, 0⟩]).map (turnedCredit · 1) = .ok 0 := rfl

/-! ### The first time in a queue -/

/-- A check computes the waiting time from the first time of an empty queue. -/
def ReadsEmptyQueue (s : FlowControl) (clocks : Clocks) : Prop := ∃ t, s.check clocks = .ok (t, none)

/-- A check with the `credit` method finds fewer packets in its second than there is credit: the packets that are
counted, or none at the turn of a second, which does not end without a window. -/
def Affords (s : FlowControl) (clocks : Clocks) : Prop :=
  let sec := clocks.current_time / 1000000
  s.flow_method_ = .credit → s.last_sec_ ≠ 0 →
    if s.last_sec_ = sec then s.npack_in_sec_ < s.available_credit_
    else s.credit_windows_size_ = 0 ∨ s.turnedCredit (sec - s.last_sec_) ≠ 0

instance (s : FlowControl) (clocks : Clocks) : Decidable (s.Affords clocks) :=
  inferInstanceAs (Decidable (_ → _ → ite _ _ _))

theorem waitFor_ne_none {times : List UInt64} (h : 0 < times.length) (span time : UInt64) :
    waitFor times span time ≠ none := by
  cases times with
  | nil => exact absurd h (Nat.lt_irrefl 0)
  | cons first times => exact Option.some_ne_none _

theorem not_readsEmptyQueue {r : FlowControl × Option UInt64} (h : s.check clocks = .ok r) (hr : r.2 ≠ none) :
    ¬s.ReadsEmptyQueue clocks := by
  rintro ⟨t, hcheck⟩
  obtain rfl := Except.ok.inj (h.symm.trans hcheck)
  exact hr rfl

/-- A check that refuses a packet of one of these methods finds the queue full. -/
theorem not_readsEmptyQueue_of_queue (hrate : 1 ≤ s.max_packets_per_second_)
    (hmethod : s.flow_method_ = .normalDistro ∨ s.flow_method_ = .fixedFlow ∨ s.flow_method_ = .adaptive) :
    ¬s.ReadsEmptyQueue clocks := by
  have hpos : 0 < s.max_packets_per_second_.toNat := UInt32.le_iff_toNat_le.mp hrate
  obtain ⟨normal, fixed, hpast⟩ := removePastData_eq s clocks.current_time
  rcases hmethod with hmethod | hmethod | hmethod
  · refine not_readsEmptyQueue (by rw [check, hmethod]) ?_
    rw [checkNormal, hpast]
    split
    · exact Option.some_ne_none _
    · rename_i hfull
      exact waitFor_ne_none (Nat.lt_of_lt_of_le hpos (Nat.not_lt.mp hfull)) _ _
  · refine not_readsEmptyQueue (by rw [check, hmethod]) ?_
    rw [checkFixed, hpast]
    split
    · exact Option.some_ne_none _
    · rename_i hfull
      exact waitFor_ne_none (Nat.lt_of_lt_of_le hpos (Nat.not_lt.mp hfull)) _ _
  · rintro ⟨t, hcheck⟩
    rw [check, hmethod] at hcheck
    have hne : s.max_packets_per_second_ ≠ 0 := fun hzero => by rw [hzero] at hpos; exact absurd hpos (by decide)
    simp only [checkAdaptive, if_neg hne] at hcheck
    split at hcheck
    · cases hcheck
    · rename_i hfull
      refine waitFor_ne_none ?_ _ _ (congrArg Prod.snd (Except.ok.inj hcheck))
      refine Nat.pos_of_ne_zero fun hzero => hfull ?_
      rw [hzero]
      exact UInt64.zero_le

/-- The `limit_credit` method refuses a packet with a waiting time of its own. -/
theorem not_readsEmptyQueue_of_limitCredit (hmethod : s.flow_method_ = .limitCredit) :
    ¬s.ReadsEmptyQueue clocks := by
  rintro ⟨t, hcheck⟩
  rw [check, hmethod] at hcheck
  simp only [checkLimitCredit] at hcheck
  split at hcheck
  · cases hcheck
  · obtain ⟨u, -, hcount⟩ := bind_ok hcheck
    obtain heq | ⟨back, -, heq⟩ := countPacket_ok hcount
    · cases heq
    · cases heq

/-- The turns of the seconds end, or there are no entries in which a second could be settled. -/
def Settles (s : FlowControl) : Prop :=
  s.Coupled ∧ (s.last_sec_ = 0 ∨ s.Solvent) ∨ s.credit_windows_size_ = 0 ∧ s.credit_arr_ = []

/-- The `credit` method refuses a packet by the first time of a queue it never fills. -/
theorem readsEmptyQueue_iff_of_credit (hmethod : s.flow_method_ = .credit) (hqueue : s.flow_times_fixed_ = []) :
    s.ReadsEmptyQueue clocks ↔
      ∃ t, s.turnSecond (clocks.current_time / 1000000) = .ok t ∧ ¬t.npack_in_sec_ < t.available_credit_ := by
  have hcheck : s.check clocks = s.checkCredit clocks := by rw [check, hmethod]
  rw [ReadsEmptyQueue, hcheck]
  constructor
  · rintro ⟨t, hreads⟩
    obtain ⟨u, hturn, htake⟩ := map_ok hreads
    refine ⟨u, hturn, fun hlt => ?_⟩
    rw [takeCredit, if_pos hlt] at htake
    cases htake
  · rintro ⟨t, hturn, hspent⟩
    refine ⟨t, ?_⟩
    obtain ⟨_, _, _, _, _, heq⟩ := turnSecond_same hturn
    have hempty : t.flow_times_fixed_ = [] := by rw [heq, ← hqueue]
    rw [checkCredit, hturn]
    show Except.ok (t.takeCredit clocks) = _
    rw [takeCredit, if_neg hspent, hempty]
    rfl

/-- Where there are no entries, the turn of a second does not end. -/
theorem turnSecond_of_nil (hwindow : s.credit_windows_size_ = 0) (hnone : s.credit_arr_ = [])
    (hfirst : s.last_sec_ ≠ 0) (hchanged : s.last_sec_ ≠ sec) : s.turnSecond sec ≠ .ok t := by
  intro hturn
  rw [turnSecond, if_neg hfirst, if_pos hchanged] at hturn
  obtain ⟨u, hcatch, hsettle⟩ := bind_ok hturn
  have hnil : u.credit_arr_ = [] := by
    have hlong : s.credit_windows_size_.toUInt64 ≤ sec - s.last_sec_ := by
      rw [hwindow]
      exact UInt64.zero_le
    rw [catchUp, if_pos hlong, fill, hnone, hwindow] at hcatch
    rw [← Except.ok.inj hcatch]
    rfl
  have hread (i : UInt32) : readEntry ([] : List UInt32) i = .error .outOfBounds := rfl
  rw [settle] at hsettle
  split at hsettle
  · rw [closeSecond, hnil, hread] at hsettle
    cases hsettle
  · rename_i hover
    have hextra : u.npack_in_sec_ - u.max_packets_per_second_ ≠ 0 := fun hzero =>
      hover (UInt32.le_of_eq ((UInt32.sub_eq_iff_eq_add.mp hzero).trans (UInt32.zero_add _)))
    rw [hnil, Settling.loop_succ hextra, Settling.body, hread] at hsettle
    cases hsettle

theorem not_readsEmptyQueue_iff_of_credit (hrate : 1 ≤ s.max_packets_per_second_) (hmethod : s.flow_method_ = .credit)
    (hqueue : s.flow_times_fixed_ = []) (hs : s.Settles) : ¬s.ReadsEmptyQueue clocks ↔ s.Affords clocks := by
  rw [readsEmptyQueue_iff_of_credit hmethod hqueue, Affords]
  by_cases hfirst : s.last_sec_ = 0
  · refine iff_of_true ?_ fun _ hne => absurd hfirst hne
    rintro ⟨t, hturn, hspent⟩
    rw [turnSecond, if_pos hfirst] at hturn
    obtain ⟨entries, -, hinit⟩ := bind_ok hturn
    rw [← Except.ok.inj hinit] at hspent
    have hpos : (0 : UInt32) < 1 := by decide
    exact hspent (UInt32.lt_of_lt_of_le hpos hrate)
  by_cases hsame : s.last_sec_ = clocks.current_time / 1000000
  · rw [turnSecond, if_neg hfirst, if_neg (not_not.mpr hsame), if_pos hsame]
    simp [hmethod, hfirst]
  simp only [hmethod, hfirst, hsame, if_false, true_imp_iff, ne_eq, not_false_eq_true]
  rcases hs with ⟨hcoupled, hsolvent⟩ | ⟨hwindow, hnone⟩
  · obtain ⟨t, hturn, hzero, havailable⟩ :=
      turnSecond_of_changed hcoupled (Solvent.covered hsolvent hcoupled clocks) hfirst hsame
    have hwindow : s.credit_windows_size_ ≠ 0 := fun hnone => by
      have hpos := hcoupled.window_pos
      rw [hnone] at hpos
      exact Nat.lt_irrefl 0 hpos
    rw [hturn, or_iff_right hwindow, ← havailable]
    constructor
    · rintro hreads havailable
      exact hreads ⟨t, rfl, by rw [havailable]; exact UInt32.not_lt_zero⟩
    · rintro hne ⟨u, hu, hspent⟩
      obtain rfl := Except.ok.inj hu
      rw [hzero] at hspent
      exact hspent (UInt32.pos_iff_ne_zero.mpr hne)
  · refine iff_of_true ?_ (.inl hwindow)
    rintro ⟨t, hturn, -⟩
    exact turnSecond_of_nil hwindow hnone hfirst hsame hturn

theorem affords_of_ne (hmethod : s.flow_method_ ≠ .credit) : s.Affords clocks :=
  fun hcredit => absurd hcredit hmethod

/-- The `credit` method fills no queue. -/
def Unqueued (s : FlowControl) : Prop := s.flow_method_ = .credit → s.flow_times_fixed_ = [] ∧ s.Settles

/-- **The exact condition on a check.** The `credit` method has no first time to read when it refuses a packet; the
others find one. -/
theorem not_readsEmptyQueue_iff (hrate : 1 ≤ s.max_packets_per_second_) (hqueue : s.Unqueued) :
    ¬s.ReadsEmptyQueue clocks ↔ s.Affords clocks := by
  by_cases hcredit : s.flow_method_ = .credit
  · exact not_readsEmptyQueue_iff_of_credit hrate hcredit (hqueue hcredit).1 (hqueue hcredit).2
  refine iff_of_true ?_ (affords_of_ne hcredit)
  cases hmethod : s.flow_method_ with
  | disabled => exact not_readsEmptyQueue (by rw [check, hmethod]) (Option.some_ne_none _)
  | fixedFlow => exact not_readsEmptyQueue_of_queue hrate (.inr (.inl hmethod))
  | normalDistro => exact not_readsEmptyQueue_of_queue hrate (.inl hmethod)
  | adaptive => exact not_readsEmptyQueue_of_queue hrate (.inr (.inr hmethod))
  | limitCredit => exact not_readsEmptyQueue_of_limitCredit hmethod
  | credit => exact absurd hmethod hcredit

/-! ### Runs -/

theorem settles_new (rate window slippage : UInt32) (method : FlowMethod) (now : ℕ) :
    (new rate method window slippage now).Settles := by
  by_cases hwindow : window = 0
  · exact .inr ⟨hwindow, by rw [hwindow]; rfl⟩
  · have hpos := UInt32.lt_iff_toNat_lt.mp (UInt32.pos_iff_ne_zero.mpr hwindow)
    have hone : 1 ≤ window := UInt32.le_iff_toNat_le.mpr hpos
    exact .inl ⟨coupled_new hone rate method slippage now, .inl rfl⟩

/-- A check with the `credit` method leaves the entries as they have to be. -/
theorem Settles.check (hs : s.Settles) (hmethod : s.flow_method_ = .credit) {r : FlowControl × Option UInt64}
    (h : s.check clocks = .ok r) : r.1.Settles := by
  have hhandle : s.handle (.check clocks) = .ok r.1 := by rw [handle, h]; rfl
  rcases hs with ⟨hcoupled, hsolvent⟩ | ⟨hwindow, hnone⟩
  · have hleaves := credit_step ⟨hcoupled, hmethod⟩ (e := .check clocks) trivial
    obtain ⟨t, ht, hsolvent'⟩ := solvent_step ⟨hcoupled, hmethod⟩ hsolvent (e := .check clocks) trivial trivial
    rw [hhandle] at hleaves
    obtain rfl := Except.ok.inj (hhandle.symm.trans ht)
    exact .inl ⟨hleaves.1, hsolvent'⟩
  · rw [FlowControl.check, hmethod] at h
    obtain ⟨t, hturn, rfl⟩ := map_ok h
    have hkept : t.credit_windows_size_ = 0 ∧ t.credit_arr_ = [] := by
      by_cases hfirst : s.last_sec_ = 0
      · rw [turnSecond, if_pos hfirst, initCredit, fill, hnone, hwindow] at hturn
        rw [← Except.ok.inj hturn]
        exact ⟨rfl, rfl⟩
      by_cases hsame : s.last_sec_ = clocks.current_time / 1000000
      · rw [turnSecond, if_neg hfirst, if_neg (not_not.mpr hsame)] at hturn
        exact Except.ok.inj hturn ▸ ⟨hwindow, hnone⟩
      · exact absurd hturn (turnSecond_of_nil hwindow hnone hfirst hsame)
    rw [takeCredit]
    split
    · exact .inr hkept
    · exact .inr hkept

/-- **No check of a run reads the first time of an empty queue** exactly if no check with the `credit` method
refuses a packet. -/
theorem readsEmptyQueue_run (rate window slippage : UInt32) (method : FlowMethod) (now : ℕ)
    (events : List Clocks) (hrate : 1 ≤ rate) :
    Along checkStep (fun s clocks => ∀ t, s = .ok t → ¬t.ReadsEmptyQueue clocks)
        (.ok (new rate method window slippage now)) events ↔
      Along checkStep (fun s clocks => ∀ t, s = .ok t → t.Affords clocks)
        (.ok (new rate method window slippage now)) events := by
  refine along_iff (G := fun _ _ => True)
    (I := fun s => ∀ t, s = .ok t → 1 ≤ t.max_packets_per_second_ ∧ t.Unqueued) ?_ ?_
    (along_true fun _ _ => trivial) ?_
  · intro s clocks hs _
    refine forall_congr' fun t => forall_congr' fun ht => ?_
    obtain ⟨hpos, hqueue⟩ := hs t ht
    exact not_readsEmptyQueue_iff hpos hqueue
  · intro s clocks hs _ _ t ht
    obtain ⟨u, rfl, hhandle⟩ := bind_ok ht
    obtain ⟨r, hcheck, rfl⟩ := map_ok hhandle
    obtain ⟨hpos, hqueue⟩ := hs u rfl
    obtain ⟨⟨hmax, hmethod⟩, hsame⟩ := check_same hcheck
    refine ⟨by rw [hmax]; exact hpos, fun hcredit => ?_⟩
    rw [hmethod] at hcredit
    obtain ⟨hempty, hsettles⟩ := hqueue hcredit
    exact ⟨by rw [hsame hcredit, hempty], hsettles.check hcredit hcheck⟩
  · rintro t ht
    obtain rfl := Except.ok.inj ht
    exact ⟨hrate, fun _ => ⟨rfl, settles_new rate window slippage method now⟩⟩

/-- Two packets in the first second, one in the next, and one after a pause that is longer than the window. -/
def affordedChecks : List Clocks :=
  [⟨5000000, 0, 0⟩, ⟨5500000, 0, 0⟩, ⟨6200000, 0, 0⟩, ⟨9700000, 0, 0⟩]

theorem readsEmptyQueue_run_affordedChecks :
    Along checkStep (fun s clocks => ∀ t, s = .ok t → ¬t.ReadsEmptyQueue clocks)
      (.ok (new 2 .credit 3 0 0)) affordedChecks := by
  refine (readsEmptyQueue_run 2 3 0 .credit 0 affordedChecks (by decide)).mpr ⟨?_, ?_, ?_, ?_, trivial⟩
  all_goals
    intro t ht
    obtain rfl := Except.ok.inj ht
    decide

/-- The second packet of a second with a rate of one. -/
theorem not_readsEmptyQueue_run : ¬ ∀ (rate window slippage : UInt32) (method : FlowMethod) (now : ℕ)
    (events : List Clocks), 1 ≤ rate → 1 ≤ window →
    Along checkStep (fun s clocks => ∀ t, s = .ok t → ¬t.ReadsEmptyQueue clocks)
      (.ok (new rate method window slippage now)) events := by
  intro h
  have hrun := h 1 1 0 .credit 0 [⟨5000000, 0, 0⟩, ⟨5000001, 0, 0⟩] (by decide) (by decide)
  exact hrun.2.1 _ rfl ⟨_, rfl⟩

end FlowControl

end SmppGateway.Gateway
