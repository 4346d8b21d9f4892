import Mathlib.Data.List.Rotate
import SmppGateway.Gateway.FlowControl

/-!
# Settling credit

Once a second the `credit` method settles: what the last second used beyond its rate is taken from the
entries of `credit_arr_`, one after the other in a circle.

## What is proved

* `Settling.loop_endless` — a settlement that has made one iteration more than the window has entries, and is
  not done, is never done.
* `Settling.loop_ne_endless_iff` — it is done by then exactly if the entries cover the overdraft.
* `settle_run` — so is that of a `check` in a run of checks and changes of the rate; and if the rate is never
  lowered, the entries always cover it.
* `not_settle_run` — five packets and a rate of ten that is lowered to one make `check` loop for ever.
-/

namespace SmppGateway.Gateway

open Foundation

/-! ### The loop -/

theorem total_set {entries : List UInt32} {i : ℕ} {entry : UInt32} (h : entries[i]? = some entry)
    (value : UInt32) : total (entries.set i value) + entry.toNat = total entries + value.toNat := by
  induction entries generalizing i with
  | nil => cases h
  | cons first entries ih =>
    cases i with
    | zero =>
      obtain rfl := Option.some.inj h
      simp only [List.set_cons_zero, total_cons]
      omega
    | succ i =>
      have hrest := ih (i := i) h
      simp only [List.set_cons_succ, total_cons]
      omega

theorem le_total {entries : List UInt32} {i : ℕ} {entry : UInt32} (h : entries[i]? = some entry) :
    entry.toNat ≤ total entries := by
  have hset := total_set h 0
  rw [UInt32.toNat_zero] at hset
  omega

namespace Settling

variable {window : UInt32} {s t : Settling} {n : ℕ}

theorem body_of_lt (window : UInt32) {entry : UInt32} (h : s.credit_arr_[s.ind.toNat]? = some entry)
    (hlt : entry < s.extra_used_credit) : s.body window =
      .ok ⟨s.extra_used_credit - entry, nextIndex window s.ind, s.credit_arr_.set s.ind.toNat 0⟩ := by
  rw [body, readEntry, h]
  exact if_pos hlt

theorem body_of_le {entry : UInt32} (h : s.credit_arr_[s.ind.toNat]? = some entry)
    (hle : s.extra_used_credit ≤ entry) : s.body window =
      .ok ⟨0, s.ind, s.credit_arr_.set s.ind.toNat (entry - s.extra_used_credit)⟩ := by
  rw [body, readEntry, h]
  exact if_neg (UInt32.not_lt.mpr hle)

theorem loop_of_zero (window : UInt32) (h : s.extra_used_credit = 0) (n : ℕ) : loop window n s = .ok s := by
  cases n <;> rw [loop, if_pos h]

theorem loop_succ (h : s.extra_used_credit ≠ 0) (n : ℕ) :
    loop window (n + 1) s = (s.body window).bind (loop window n) := by rw [loop, if_neg h]

theorem body_of_none (h : s.credit_arr_[s.ind.toNat]? = none) : s.body window = .error .outOfBounds := by
  rw [body, readEntry, h]
  rfl

/-- One iteration leaves the window, uses up an entry, or is the last one. -/
theorem loop_succ_cases (window : UInt32) (hextra : s.extra_used_credit ≠ 0) :
    (∀ n, loop window (n + 1) s = .error .outOfBounds) ∨ ∃ entry, s.credit_arr_[s.ind.toNat]? = some entry ∧
      (entry < s.extra_used_credit ∧ (∀ n, loop window (n + 1) s = loop window n
          ⟨s.extra_used_credit - entry, nextIndex window s.ind, s.credit_arr_.set s.ind.toNat 0⟩) ∨
        s.extra_used_credit ≤ entry ∧ ∀ n, loop window (n + 1) s =
          .ok ⟨0, s.ind, s.credit_arr_.set s.ind.toNat (entry - s.extra_used_credit)⟩) := by
  cases hentry : s.credit_arr_[s.ind.toNat]? with
  | none =>
    refine .inl fun n => ?_
    rw [loop_succ hextra, body_of_none hentry]
    rfl
  | some entry =>
    refine .inr ⟨entry, rfl, ?_⟩
    by_cases hlt : entry < s.extra_used_credit
    · refine .inl ⟨hlt, fun n => ?_⟩
      rw [loop_succ hextra, body_of_lt _ hentry hlt]
      rfl
    · refine .inr ⟨UInt32.not_lt.mp hlt, fun n => ?_⟩
      rw [loop_succ hextra, body_of_le hentry (UInt32.not_lt.mp hlt)]
      exact loop_of_zero window rfl n

/-- There are two ways in which it does not return. -/
theorem loop_error {stop : Stop} (h : loop window n s = .error stop) :
    stop = .endless ∨ stop = .outOfBounds := by
  induction n generalizing s with
  | zero =>
    rw [loop] at h
    split at h
    · cases h
    · exact .inl (Except.error.inj h).symm
  | succ n ih =>
    by_cases hextra : s.extra_used_credit = 0
    · rw [loop_of_zero _ hextra] at h
      cases h
    obtain hout | ⟨entry, -, ⟨-, hnext⟩ | ⟨-, hdone⟩⟩ := loop_succ_cases window hextra
    · exact .inr (Except.error.inj ((hout n).symm.trans h)).symm
    · exact ih ((hnext n).symm.trans h)
    · cases (hdone n).symm.trans h

theorem extra_ne_zero_of_endless (h : loop window n s = .error .endless) : s.extra_used_credit ≠ 0 := by
  intro hzero
  rw [loop_of_zero _ hzero] at h
  cases h

/-- What a loop that is not done has done. -/
theorem exists_of_endless (h : loop window n s = .error .endless) : ∃ t,
    t.extra_used_credit ≠ 0 ∧ t.ind = (nextIndex window)^[n] s.ind ∧
    t.credit_arr_.length = s.credit_arr_.length ∧
    (∀ i : ℕ, s.credit_arr_[i]? = some 0 → t.credit_arr_[i]? = some 0) ∧
    (∀ k < n, t.credit_arr_[((nextIndex window)^[k] s.ind).toNat]? = some 0) ∧
    t.extra_used_credit.toNat + total s.credit_arr_ = s.extra_used_credit.toNat + total t.credit_arr_ ∧
    ∀ m, loop window (n + m) s = loop window m t := by
  have hextra := extra_ne_zero_of_endless h
  induction n generalizing s with
  | zero =>
    exact ⟨s, hextra, rfl, rfl, fun i hi => hi, fun k hk => absurd hk (Nat.not_lt_zero k), rfl,
      fun m => by rw [Nat.zero_add]⟩
  | succ n ih =>
    obtain hout | ⟨entry, hentry, ⟨hlt, hnext⟩ | ⟨-, hdone⟩⟩ := loop_succ_cases window hextra
    · cases (hout n).symm.trans h
    · rw [hnext] at h
      obtain ⟨t, hne, hind, hlength, hzeros, hvisited, hsum, hloop⟩ := ih h (extra_ne_zero_of_endless h)
      have hbound : s.ind.toNat < s.credit_arr_.length := (List.getElem?_eq_some_iff.mp hentry).1
      have hset (i : ℕ) (hi : s.credit_arr_[i]? = some 0 ∨ i = s.ind.toNat) :
          t.credit_arr_[i]? = some 0 := by
        refine hzeros i ?_
        by_cases heq : s.ind.toNat = i
        · rw [← heq, List.getElem?_set_self hbound]
        · rw [List.getElem?_set_ne heq]
          exact hi.resolve_right (Ne.symm heq)
      refine ⟨t, hne, hind, hlength.trans List.length_set, fun i hi => hset i (.inl hi), fun k hk => ?_, ?_,
        fun m => ?_⟩
      · cases k with
        | zero => exact hset _ (.inr rfl)
        | succ k => exact hvisited k (Nat.lt_of_succ_lt_succ hk)
      · have hle := UInt32.le_iff_toNat_le.mp (UInt32.le_of_lt hlt)
        have htotal := total_set hentry 0
        simp only [UInt32.toNat_sub_of_le _ _ (UInt32.le_of_lt hlt)] at hsum
        rw [UInt32.toNat_zero] at htotal
        omega
      · rw [Nat.succ_add_eq_add_succ, Nat.add_succ, hnext]
        exact hloop m
    · cases (hdone n).symm.trans h

theorem endless_of_zeros (hextra : s.extra_used_credit ≠ 0)
    (hzeros : ∀ k, s.credit_arr_[((nextIndex window)^[k] s.ind).toNat]? = some 0) (n : ℕ) :
    loop window n s = .error .endless := by
  induction n generalizing s with
  | zero => rw [loop, if_neg hextra]
  | succ n ih =>
    have hentry : s.credit_arr_[s.ind.toNat]? = some 0 := hzeros 0
    have hpos : 0 < s.extra_used_credit := UInt32.pos_iff_ne_zero.mpr hextra
    rw [loop_succ hextra, body_of_lt _ hentry hpos]
    refine ih (by rwa [UInt32.sub_zero]) fun k => ?_
    have hnext := hzeros (k + 1)
    rw [Function.iterate_succ_apply] at hnext
    simp only
    by_cases heq : s.ind.toNat = ((nextIndex window)^[k] (nextIndex window s.ind)).toNat
    · rw [← heq, List.getElem?_set_self (List.getElem?_eq_some_iff.mp hentry).1]
    · rw [List.getElem?_set_ne heq, hnext]

end Settling

/-! ### The circle -/

section Circle

variable {window i : UInt32}

theorem toNat_nextIndex (h : i.toNat < window.toNat) :
    (nextIndex window i).toNat = (i.toNat + 1) % window.toNat := by
  have hwindow := window.toNat_lt
  have hsucc : (i + 1).toNat = i.toNat + 1 := by
    rw [UInt32.toNat_add, UInt32.toNat_one]
    omega
  rw [nextIndex]
  split
  · rename_i hle
    rw [UInt32.le_iff_toNat_le, hsucc] at hle
    have heq : i.toNat + 1 = window.toNat := by omega
    rw [heq, Nat.mod_self]
    rfl
  · rename_i hlt
    rw [UInt32.le_iff_toNat_le, hsucc] at hlt
    rw [hsucc, Nat.mod_eq_of_lt (by omega)]

theorem toNat_iterate_nextIndex (h : i.toNat < window.toNat) (k : ℕ) :
    ((nextIndex window)^[k] i).toNat = (i.toNat + k) % window.toNat := by
  induction k with
  | zero => exact (Nat.mod_eq_of_lt h).symm
  | succ k ih =>
    have hlt : ((nextIndex window)^[k] i).toNat < window.toNat := by
      rw [ih]
      exact Nat.mod_lt _ (Nat.zero_lt_of_lt h)
    rw [Function.iterate_succ_apply', toNat_nextIndex hlt, ih, Nat.mod_add_mod, Nat.add_assoc]

/-- After one round it comes to none that it has not been at. -/
theorem exists_iterate_nextIndex (h : 0 < window.toNat) (i : UInt32) (j : ℕ) :
    ∃ k ≤ window.toNat, (nextIndex window)^[j] i = (nextIndex window)^[k] i := by
  cases j with
  | zero => exact ⟨0, Nat.zero_le _, rfl⟩
  | succ j =>
    have hfirst : (nextIndex window i).toNat < window.toNat := nextIndex_lt h
    refine ⟨j % window.toNat + 1, Nat.mod_lt j h, ?_⟩
    rw [Function.iterate_succ_apply, Function.iterate_succ_apply, ← UInt32.toNat_inj,
      toNat_iterate_nextIndex hfirst, toNat_iterate_nextIndex hfirst, Nat.add_mod_mod]

/-- And it comes to every one. -/
theorem exists_iterate_nextIndex_eq (h : i.toNat < window.toNat) {j : ℕ} (hj : j < window.toNat) :
    ∃ k < window.toNat, ((nextIndex window)^[k] i).toNat = j := by
  refine ⟨(j + (window.toNat - i.toNat)) % window.toNat, Nat.mod_lt _ (Nat.zero_lt_of_lt h), ?_⟩
  rw [toNat_iterate_nextIndex h, Nat.add_mod_mod]
  have hsum : i.toNat + (j + (window.toNat - i.toNat)) = j + window.toNat := by omega
  rw [hsum, Nat.add_mod_right, Nat.mod_eq_of_lt hj]

end Circle

namespace Settling

variable {window : UInt32} {s t : Settling} {n : ℕ}

/-- What a loop that is done returns does not depend on how many iterations it may make. -/
theorem loop_of_ne_endless (h : loop window n s ≠ .error .endless) (m : ℕ) :
    loop window (n + m) s = loop window n s := by
  induction n generalizing s with
  | zero =>
    by_cases hextra : s.extra_used_credit = 0
    · rw [loop_of_zero _ hextra, loop_of_zero _ hextra]
    · exact absurd (by rw [loop, if_neg hextra]) h
  | succ n ih =>
    by_cases hextra : s.extra_used_credit = 0
    · rw [loop_of_zero _ hextra, loop_of_zero _ hextra]
    · rw [Nat.succ_add, loop_succ hextra, loop_succ hextra]
      rw [loop_succ hextra] at h
      cases hbody : s.body window with
      | ok t =>
        rw [hbody] at h
        exact ih h
      | error stop => rfl

/-- **A settlement that is not done** after one iteration more than the window has entries is never done. -/
theorem loop_endless (hwindow : 0 < window.toNat)
    (h : loop window (window.toNat + 1) s = .error .endless) (n : ℕ) :
    loop window n s = .error .endless := by
  obtain ⟨t, hextra, hind, -, -, hvisited, -, hloop⟩ := exists_of_endless h
  have hzeros (k : ℕ) : t.credit_arr_[((nextIndex window)^[k] t.ind).toNat]? = some 0 := by
    obtain ⟨j, hj, heq⟩ := exists_iterate_nextIndex hwindow s.ind (k + (window.toNat + 1))
    rw [hind, ← Function.iterate_add_apply, heq]
    exact hvisited j (Nat.lt_succ_of_le hj)
  by_contra hne
  have hsame := loop_of_ne_endless hne (window.toNat + 1)
  rw [Nat.add_comm, hloop, endless_of_zeros hextra hzeros] at hsame
  exact hne hsame.symm

theorem extra_ne_zero {m : ℕ} (h : m < s.extra_used_credit.toNat) : s.extra_used_credit ≠ 0 := by
  intro hzero
  rw [hzero] at h
  exact Nat.not_lt_zero m h

/-- An overdraft that the entries do not cover is never settled. -/
theorem endless_of_total_lt (hlength : window.toNat = s.credit_arr_.length) (hind : s.ind.toNat < window.toNat)
    (h : total s.credit_arr_ < s.extra_used_credit.toNat) (n : ℕ) : loop window n s = .error .endless := by
  induction n generalizing s with
  | zero =>
    rw [loop, if_neg (extra_ne_zero h)]
  | succ n ih =>
    have hextra : s.extra_used_credit ≠ 0 := extra_ne_zero h
    obtain ⟨entry, hentry⟩ : ∃ entry, s.credit_arr_[s.ind.toNat]? = some entry :=
      ⟨_, List.getElem?_eq_getElem (hlength ▸ hind)⟩
    have hlt : entry < s.extra_used_credit :=
      UInt32.lt_iff_toNat_lt.mpr (Nat.lt_of_le_of_lt (le_total hentry) h)
    rw [loop_succ hextra, body_of_lt _ hentry hlt]
    refine ih (hlength.trans List.length_set.symm) (nextIndex_lt (Nat.zero_lt_of_lt hind)) ?_
    have hset := total_set hentry 0
    have hle := le_total hentry
    simp only [UInt32.toNat_sub_of_le _ _ (UInt32.le_of_lt hlt)]
    rw [UInt32.toNat_zero] at hset
    omega

/-- **A settlement is done** within one iteration more than the window has entries, exactly if the entries
cover the overdraft. -/
theorem loop_ne_endless_iff (hlength : window.toNat = s.credit_arr_.length)
    (hind : s.ind.toNat < window.toNat) :
    loop window (window.toNat + 1) s ≠ .error .endless ↔ s.extra_used_credit.toNat ≤ total s.credit_arr_ := by
  constructor
  · intro h
    by_contra hlt
    exact h (endless_of_total_lt hlength hind (Nat.not_le.mp hlt) _)
  · intro hle h
    obtain ⟨t, hextra, -, hsame, -, hvisited, hsum, -⟩ := exists_of_endless h
    have hzeros : ∀ entry ∈ t.credit_arr_, entry = 0 := by
      intro entry hentry
      obtain ⟨j, hj⟩ := List.mem_iff_getElem?.mp hentry
      have hlt : j < window.toNat := by
        rw [hlength, ← hsame]
        exact (List.getElem?_eq_some_iff.mp hj).1
      obtain ⟨k, hk, heq⟩ := exists_iterate_nextIndex_eq hind hlt
      have hzero := hvisited k (Nat.lt_succ_of_lt hk)
      rw [heq, hj] at hzero
      exact Option.some.inj hzero
    have htotal : total t.credit_arr_ = 0 := by
      rw [List.eq_replicate_of_mem hzeros, total_replicate, UInt32.toNat_zero, Nat.mul_zero]
    exact hextra (UInt32.toNat_inj.mp (by rw [UInt32.toNat_zero]; omega))

theorem loop_ok (h : loop window n s = .ok t) :
    total t.credit_arr_ + s.extra_used_credit.toNat = total s.credit_arr_ ∧
    ∀ bound, (∀ entry ∈ s.credit_arr_, entry ≤ bound) → ∀ entry ∈ t.credit_arr_, entry ≤ bound := by
  induction n generalizing s with
  | zero =>
    rw [loop] at h
    obtain ⟨hzero, heq⟩ : s.extra_used_credit = 0 ∧ s = t := by
      by_cases hzero : s.extra_used_credit = 0
      · rw [if_pos hzero] at h
        exact ⟨hzero, Except.ok.inj h⟩
      · rw [if_neg hzero] at h
        cases h
    rw [hzero, ← heq]
    exact ⟨rfl, fun _ hall => hall⟩
  | succ n ih =>
    by_cases hextra : s.extra_used_credit = 0
    · rw [loop_of_zero _ hextra] at h
      rw [hextra, ← Except.ok.inj h]
      exact ⟨rfl, fun _ hall => hall⟩
    obtain hout | ⟨entry, hentry, ⟨hlt, hnext⟩ | ⟨hle, hdone⟩⟩ := loop_succ_cases window hextra
    · cases (hout n).symm.trans h
    · rw [hnext] at h
      obtain ⟨hsum, hall⟩ := ih h
      have hset := total_set hentry 0
      have hle := UInt32.le_iff_toNat_le.mp (UInt32.le_of_lt hlt)
      simp only [UInt32.toNat_sub_of_le _ _ (UInt32.le_of_lt hlt)] at hsum
      rw [UInt32.toNat_zero] at hset
      refine ⟨by omega, fun bound hbound => hall bound ?_⟩
      intro e he
      rcases List.mem_or_eq_of_mem_set he with he | rfl
      · exact hbound e he
      · exact UInt32.zero_le
    · rw [hdone] at h
      rw [← Except.ok.inj h]
      have hset := total_set hentry (entry - s.extra_used_credit)
      have hnat := UInt32.le_iff_toNat_le.mp hle
      rw [UInt32.toNat_sub_of_le _ _ hle] at hset
      refine ⟨by simp only; omega, ?_⟩
      intro bound hbound e he
      rcases List.mem_or_eq_of_mem_set he with he | rfl
      · exact hbound e he
      · refine UInt32.le_trans (UInt32.le_iff_toNat_le.mpr ?_) (hbound entry (List.mem_of_getElem? hentry))
        rw [UInt32.toNat_sub_of_le _ _ hle]
        exact Nat.sub_le _ _

end Settling

/-! ### The credit of a state -/

/-- The entries in the order in which they will be replaced. -/
def FlowControl.entries (s : FlowControl) : List UInt32 := s.credit_arr_.rotate s.credit_arr_ind_.toNat

/-- The credit that the entries hold when some seconds have passed since the last check: those in which
nothing was checked have left all of theirs, in the place of the oldest. -/
def FlowControl.credit (s : FlowControl) (passed : UInt64) : ℕ :=
  if s.credit_windows_size_.toUInt64 ≤ passed then
    s.credit_windows_size_.toNat * s.max_packets_per_second_.toNat
  else total (s.entries.drop (passed.toNat - 1)) + (passed.toNat - 1) * s.max_packets_per_second_.toNat

/-- A check that finds the second changed finds no more packets than the rate and the credit allow. -/
def FlowControl.Covered (s : FlowControl) (clocks : Clocks) : Prop :=
  let sec := clocks.current_time / 1000000
  s.last_sec_ = 0 ∨ s.last_sec_ = sec ∨
    s.npack_in_sec_.toNat ≤ s.max_packets_per_second_.toNat + s.credit (sec - s.last_sec_)

theorem total_rotate (entries : List UInt32) (n : ℕ) : total (entries.rotate n) = total entries :=
  ((List.rotate_perm entries n).map UInt32.toNat).sum_eq

/-- The oldest entry is replaced, and is the newest. -/
theorem rotate_set {entries : List UInt32} {window i : UInt32} (hwindow : entries.length = window.toNat)
    (hi : i.toNat < window.toNat) (value : UInt32) :
    (entries.set i.toNat value).rotate (nextIndex window i).toNat =
      (entries.rotate i.toNat).tail ++ [value] := by
  have hlt : i.toNat < entries.length := hwindow ▸ hi
  have hlen : (entries.set i.toNat value).length = window.toNat := List.length_set.trans hwindow
  rw [toNat_nextIndex hi, ← hlen, List.rotate_mod,
    List.rotate_eq_drop_append_take (by rw [List.length_set]; exact hlt),
    List.rotate_eq_drop_append_take (Nat.le_of_lt hlt), List.drop_set_of_lt (Nat.lt_succ_self _),
    List.drop_eq_getElem_cons hlt, List.cons_append, List.tail_cons, List.append_assoc]
  congr 1
  rw [List.take_add_one, List.take_set_of_le (Nat.le_refl _), List.getElem?_set_self hlt, Option.toList_some]

namespace FlowControl

variable {s t : FlowControl} {clocks : Clocks} {sec : UInt64}

theorem total_entries (s : FlowControl) : total s.entries = total s.credit_arr_ := total_rotate _ _

theorem length_entries (s : FlowControl) : s.entries.length = s.credit_arr_.length := List.length_rotate _ _

/-- The available credit is that of the entries, and no more than the rate besides. -/
structure Balanced (s : FlowControl) : Prop where
  available : ∃ c ≤ s.max_packets_per_second_.toNat,
    s.available_credit_.toNat = (total s.credit_arr_ + c) % 2 ^ 32
  entries : ∀ entry ∈ s.credit_arr_, entry ≤ s.max_packets_per_second_

/-- The entry that is replaced next. -/
theorem Coupled.exists_entry (h : s.Coupled) : ∃ entry, s.credit_arr_[s.credit_arr_ind_.toNat]? = some entry ∧
    readEntry s.credit_arr_ s.credit_arr_ind_ = .ok entry := by
  have hentry := List.getElem?_eq_getElem h.credit_arr_ind_
  exact ⟨_, hentry, by rw [readEntry, hentry]⟩

theorem idleSecond_spec (h : s.Coupled) : ∃ t, s.idleSecond = .ok t ∧ t.Coupled ∧
    t.entries = s.entries.tail ++ [s.max_packets_per_second_] ∧ (s.Balanced → t.Balanced) ∧
    t.max_packets_per_second_ = s.max_packets_per_second_ ∧ t.npack_in_sec_ = s.npack_in_sec_ ∧
    t.credit_windows_size_ = s.credit_windows_size_ ∧ t.flow_method_ = s.flow_method_ := by
  have hind : s.credit_arr_ind_.toNat < s.credit_windows_size_.toNat := h.credit_arr_ ▸ h.credit_arr_ind_
  have hleaves := h.idleSecond
  obtain ⟨entry, hentry, hread⟩ := h.exists_entry
  rw [idleSecond, hread] at hleaves ⊢
  refine ⟨_, rfl, hleaves, rotate_set h.credit_arr_ hind _, fun hb => ⟨?_, fun e he => ?_⟩,
    rfl, rfl, rfl, rfl⟩
  · obtain ⟨c, hc, havailable⟩ := hb.available
    refine ⟨c, hc, ?_⟩
    have hset := total_set hentry s.max_packets_per_second_
    have hlt := entry.toNat_lt
    simp only [UInt32.toNat_add, UInt32.toNat_sub]
    omega
  · rcases List.mem_or_eq_of_mem_set he with he | rfl
    · exact hb.entries e he
    · exact UInt32.le_refl _

theorem repeated_idleSecond_spec {n : ℕ} (h : s.Coupled) (hn : n ≤ s.credit_windows_size_.toNat) :
    ∃ t, repeated idleSecond n s = .ok t ∧ t.Coupled ∧
      t.entries = s.entries.drop n ++ List.replicate n s.max_packets_per_second_ ∧ (s.Balanced → t.Balanced) ∧
      t.max_packets_per_second_ = s.max_packets_per_second_ ∧ t.npack_in_sec_ = s.npack_in_sec_ ∧
      t.credit_windows_size_ = s.credit_windows_size_ ∧ t.flow_method_ = s.flow_method_ := by
  induction n generalizing s with
  | zero => exact ⟨s, rfl, h, by simp, id, rfl, rfl, rfl, rfl⟩
  | succ n ih =>
    obtain ⟨t, ht, hcoupled, hentries, hbalanced, hrate, hpackets, hwindow, hmethod⟩ := idleSecond_spec h
    obtain ⟨t', ht', hcoupled', hentries', hbalanced', hrate', hpackets', hwindow', hmethod'⟩ :=
      ih hcoupled (by rw [hwindow]; exact Nat.le_of_succ_le hn)
    refine ⟨t', by rw [repeated, ht]; exact ht', hcoupled', ?_, hbalanced' ∘ hbalanced, hrate'.trans hrate,
      hpackets'.trans hpackets, hwindow'.trans hwindow, hmethod'.trans hmethod⟩
    have hlong : n ≤ s.entries.tail.length := by
      rw [List.length_tail, length_entries, h.credit_arr_]
      omega
    rw [hentries', hentries, hrate, List.drop_append_of_le_length hlong, List.append_assoc, ← List.drop_one,
      List.drop_drop, Nat.add_comm 1 n, List.replicate_succ]
    rfl

theorem catchUp_spec (h : s.Coupled) (passed : UInt64) : ∃ t, s.catchUp passed = .ok t ∧ t.Coupled ∧
    total t.credit_arr_ = s.credit passed ∧ (s.Balanced → t.Balanced) ∧
    t.max_packets_per_second_ = s.max_packets_per_second_ ∧ t.npack_in_sec_ = s.npack_in_sec_ ∧
    t.flow_method_ = s.flow_method_ := by
  by_cases hlong : s.credit_windows_size_.toUInt64 ≤ passed
  · have hfill := fill_eq h.credit_arr_ s.max_packets_per_second_
    have hleaves := h.catchUp passed
    rw [catchUp, if_pos hlong, hfill] at hleaves ⊢
    refine ⟨_, rfl, hleaves, ?_, fun _ => ⟨⟨0, Nat.zero_le _, ?_⟩, fun e he => ?_⟩, rfl, rfl, rfl⟩
    · rw [credit, if_pos hlong, total_replicate]
    · simp only [total_replicate, UInt32.toNat_mul, Nat.add_zero]
      rw [Nat.mul_comm]
    · rw [List.eq_of_mem_replicate he]
      exact UInt32.le_refl _
  · have hshort : passed.toNat < s.credit_windows_size_.toNat := by
      rw [UInt64.le_iff_toNat_le, UInt32.toNat_toUInt64] at hlong
      exact Nat.not_le.mp hlong
    obtain ⟨t, ht, hcoupled, hentries, hbalanced, hrate, hpackets, -, hmethod⟩ :=
      repeated_idleSecond_spec (n := passed.toNat - 1) h (by omega)
    refine ⟨t, by rw [catchUp, if_neg hlong, ht], hcoupled, ?_, hbalanced, hrate, hpackets,
      hmethod⟩
    rw [credit, if_neg hlong, ← total_entries, hentries, total_append, total_replicate]

/-- Closing a second is always done, and keeps the balance if what is left over was added before. -/
theorem closeSecond_spec {entries : List UInt32} (h : s.Coupled) (sec : UInt64) (available left : UInt32)
    (hlength : entries.length = s.credit_arr_.length) :
    ∃ t, closeSecond { s with
        last_sec_ := sec
        available_credit_ := available
        credit_arr_ := entries } left = .ok t ∧
      t.npack_in_sec_ = 0 ∧ t.flow_method_ = s.flow_method_ ∧
      ((∃ c ≤ s.max_packets_per_second_.toNat,
          available.toNat = (total entries + left.toNat + c) % 2 ^ 32) →
        (∀ entry ∈ entries, entry ≤ s.max_packets_per_second_) → left ≤ s.max_packets_per_second_ →
        t.Balanced) := by
  obtain ⟨entry, hentry⟩ : ∃ entry, entries[s.credit_arr_ind_.toNat]? = some entry :=
    ⟨_, List.getElem?_eq_getElem (by rw [hlength]; exact h.credit_arr_ind_)⟩
  have hread : readEntry entries s.credit_arr_ind_ = .ok entry := by rw [readEntry, hentry]
  rw [closeSecond, hread]
  refine ⟨_, rfl, rfl, rfl, fun hb hbound hleft => ⟨?_, fun e he => ?_⟩⟩
  · obtain ⟨c, hc, hsum⟩ := hb
    refine ⟨c, hc, ?_⟩
    have hset := total_set hentry left
    have hlt := entry.toNat_lt
    simp only [UInt32.toNat_sub]
    omega
  · rcases List.mem_or_eq_of_mem_set he with he | rfl
    · exact hbound e he
    · exact hleft

/-- The overdraft of a second. -/
def overdraft (s : FlowControl) : Settling :=
  ⟨s.npack_in_sec_ - s.max_packets_per_second_, s.credit_arr_ind_, s.credit_arr_⟩

theorem exists_settled (h : s.Coupled) (hge : s.max_packets_per_second_ ≤ s.npack_in_sec_)
    (hcover : s.npack_in_sec_.toNat ≤ s.max_packets_per_second_.toNat + total s.credit_arr_) :
    ∃ settled, Settling.loop s.credit_windows_size_ (s.credit_windows_size_.toNat + 1) s.overdraft = .ok settled ∧
      settled.credit_arr_.length = s.credit_arr_.length ∧
      total settled.credit_arr_ + (s.npack_in_sec_.toNat - s.max_packets_per_second_.toNat) =
        total s.credit_arr_ ∧
      ∀ bound, (∀ entry ∈ s.credit_arr_, entry ≤ bound) → ∀ entry ∈ settled.credit_arr_, entry ≤ bound := by
  have hind : s.credit_arr_ind_.toNat < s.credit_windows_size_.toNat := h.credit_arr_ ▸ h.credit_arr_ind_
  have hextra : s.overdraft.extra_used_credit.toNat =
      s.npack_in_sec_.toNat - s.max_packets_per_second_.toNat := UInt32.toNat_sub_of_le _ _ hge
  have hdone := (Settling.loop_ne_endless_iff (s := s.overdraft) h.credit_arr_.symm hind).mpr (by
    rw [hextra]
    exact Nat.sub_le_iff_le_add'.mpr hcover)
  have hleaves := Settling.leaves_loop (s := s.overdraft) (s.credit_windows_size_.toNat + 1)
    h.credit_arr_.symm hind
  cases hloop : Settling.loop s.credit_windows_size_ (s.credit_windows_size_.toNat + 1) s.overdraft with
  | error stop =>
    rw [hloop] at hleaves
    rcases Settling.loop_error hloop with rfl | rfl
    · exact absurd hloop hdone
    · exact absurd rfl hleaves
  | ok settled =>
    rw [hloop] at hleaves
    obtain ⟨hsum, hbound⟩ := Settling.loop_ok hloop
    rw [hextra] at hsum
    exact ⟨settled, rfl, hleaves, hsum, hbound⟩

/-- The end of a second is settled if the rate and the credit cover it. -/
theorem settle_of_le (h : s.Coupled) (sec : UInt64)
    (hcover : s.npack_in_sec_.toNat ≤ s.max_packets_per_second_.toNat + total s.credit_arr_) :
    ∃ t, s.settle sec = .ok t ∧ t.npack_in_sec_ = 0 ∧ t.flow_method_ = s.flow_method_ ∧
      (s.Balanced → t.Balanced) := by
  by_cases hle : s.npack_in_sec_ ≤ s.max_packets_per_second_
  · obtain ⟨t, ht, hpackets, hmethod, hbalanced⟩ := closeSecond_spec h sec
      (s.available_credit_ + (s.max_packets_per_second_ - s.npack_in_sec_))
      (s.max_packets_per_second_ - s.npack_in_sec_) rfl
    refine ⟨t, by rw [settle, if_pos hle]; exact ht, hpackets, hmethod, fun hb => hbalanced ?_ hb.entries ?_⟩
    · obtain ⟨c, hc, hsum⟩ := hb.available
      refine ⟨c, hc, ?_⟩
      rw [UInt32.toNat_add]
      omega
    · rw [UInt32.le_iff_toNat_le, UInt32.toNat_sub_of_le _ _ hle]
      exact Nat.sub_le _ _
  · have hge : s.max_packets_per_second_ ≤ s.npack_in_sec_ := UInt32.le_of_lt (UInt32.not_le.mp hle)
    obtain ⟨settled, hloop, hlength, hsum, hbound⟩ := exists_settled h hge hcover
    obtain ⟨t, ht, hpackets, hmethod, hbalanced⟩ := closeSecond_spec h sec
      (s.available_credit_ + (s.max_packets_per_second_ - s.npack_in_sec_)) 0 hlength
    refine ⟨t, ?_, hpackets, hmethod, fun hb => hbalanced ?_ (hbound _ hb.entries) UInt32.zero_le⟩
    · rw [settle, if_neg hle]
      exact (congrArg (Except.bind · _) hloop).trans ht
    · obtain ⟨c, hc, havailable⟩ := hb.available
      refine ⟨c, hc, ?_⟩
      have hrate_lt := s.max_packets_per_second_.toNat_lt
      have hpackets_lt := s.npack_in_sec_.toNat_lt
      have hnat := UInt32.le_iff_toNat_le.mp hge
      rw [UInt32.toNat_add, UInt32.toNat_sub, UInt32.toNat_zero]
      omega

theorem settle_of_lt (h : s.Coupled) (sec : UInt64)
    (hlt : s.max_packets_per_second_.toNat + total s.credit_arr_ < s.npack_in_sec_.toNat) :
    s.settle sec = .error .endless := by
  have hrate : s.max_packets_per_second_ < s.npack_in_sec_ := UInt32.lt_iff_toNat_lt.mpr (by omega)
  have hind : s.credit_arr_ind_.toNat < s.credit_windows_size_.toNat := h.credit_arr_ ▸ h.credit_arr_ind_
  have hextra : s.overdraft.extra_used_credit.toNat =
      s.npack_in_sec_.toNat - s.max_packets_per_second_.toNat :=
    UInt32.toNat_sub_of_le _ _ (UInt32.le_of_lt hrate)
  have hover : total s.overdraft.credit_arr_ < s.overdraft.extra_used_credit.toNat := by
    rw [hextra]
    exact Nat.lt_sub_iff_add_lt'.mpr hlt
  have hloop := Settling.endless_of_total_lt (s := s.overdraft) h.credit_arr_.symm hind hover
    (s.credit_windows_size_.toNat + 1)
  rw [settle, if_neg (UInt32.not_le.mpr hrate)]
  exact congrArg (Except.bind · _) hloop

/-! ### Checks with the `credit` method -/

theorem takeCredit_spec (s : FlowControl) (clocks : Clocks) :
    (s.takeCredit clocks).1.flow_method_ = s.flow_method_ ∧
    (s.takeCredit clocks).1.last_sec_ = s.last_sec_ ∧ (s.Balanced → (s.takeCredit clocks).1.Balanced) ∧
    (s.npack_in_sec_ ≤ s.available_credit_ →
      (s.takeCredit clocks).1.npack_in_sec_ ≤ (s.takeCredit clocks).1.available_credit_) := by
  rw [takeCredit]
  split
  · rename_i hlt
    refine ⟨rfl, rfl, fun h => ⟨h.available, h.entries⟩, ?_⟩
    intro _
    have hnat := UInt32.lt_iff_toNat_lt.mp hlt
    have havailable := s.available_credit_.toNat_lt
    simp only [UInt32.le_iff_toNat_le, UInt32.toNat_add, UInt32.toNat_one]
    omega
  · exact ⟨rfl, rfl, id, id⟩

/-- **The turn of a second** comes to an end exactly if the rate and the credit cover the packets. -/
theorem turnSecond_ne_endless_iff (h : s.Coupled) (clocks : Clocks) :
    s.turnSecond (clocks.current_time / 1000000) ≠ .error .endless ↔ s.Covered clocks := by
  rw [turnSecond, Covered]
  by_cases hfirst : s.last_sec_ = 0
  · rw [if_pos hfirst]
    refine iff_of_true ?_ (.inl hfirst)
    rw [initCredit, fill, if_pos (Nat.le_of_eq h.credit_arr_.symm)]
    intro hstop
    cases hstop
  by_cases hsame : s.last_sec_ = clocks.current_time / 1000000
  · rw [if_neg hfirst, if_neg (not_not.mpr hsame)]
    refine iff_of_true ?_ (.inr (.inl hsame))
    intro hstop
    cases hstop
  rw [if_neg hfirst, if_pos hsame]
  obtain ⟨t, ht, hcoupled, htotal, -, hrate, hpackets, -⟩ :=
    catchUp_spec h (clocks.current_time / 1000000 - s.last_sec_)
  rw [ht, ← htotal, ← hrate, ← hpackets]
  show t.settle _ ≠ _ ↔ _
  by_cases hcover : t.npack_in_sec_.toNat ≤ t.max_packets_per_second_.toNat + total t.credit_arr_
  · obtain ⟨u, hu, -⟩ := settle_of_le hcoupled (clocks.current_time / 1000000) hcover
    rw [hu]
    refine iff_of_true ?_ (.inr (.inr hcover))
    intro hstop
    cases hstop
  · rw [settle_of_lt hcoupled _ (Nat.not_le.mp hcover)]
    exact iff_of_false (fun h => h rfl) (by simp [hfirst, hsame, hcover])

/-- No packet passes that the available credit does not allow. -/
def Solvent (s : FlowControl) : Prop := s.Balanced ∧ s.npack_in_sec_ ≤ s.available_credit_

theorem turnSecond_spec (h : s.Coupled) (hcover : s.Covered clocks) :
    ∃ t, s.turnSecond (clocks.current_time / 1000000) = .ok t ∧ t.flow_method_ = s.flow_method_ ∧
      (s.last_sec_ = 0 ∨ s.Solvent → t.Solvent) := by
  rw [turnSecond]
  by_cases hfirst : s.last_sec_ = 0
  · rw [if_pos hfirst, initCredit, fill_eq h.credit_arr_]
    refine ⟨_, rfl, rfl, fun _ => ⟨⟨⟨s.max_packets_per_second_.toNat, Nat.le_refl _, ?_⟩, fun e he => ?_⟩,
      UInt32.zero_le⟩⟩
    · have hlt := s.max_packets_per_second_.toNat_lt
      simp only [total_replicate, UInt32.toNat_zero, Nat.mul_zero, Nat.zero_add]
      exact (Nat.mod_eq_of_lt hlt).symm
    · rw [List.eq_of_mem_replicate he]
      exact UInt32.zero_le
  by_cases hsame : s.last_sec_ = clocks.current_time / 1000000
  · rw [if_neg hfirst, if_neg (not_not.mpr hsame)]
    exact ⟨s, rfl, rfl, fun h => h.resolve_left hfirst⟩
  obtain ⟨t, ht, hcoupled, htotal, hbalanced, hrate, hpackets, hmethod⟩ :=
    catchUp_spec h (clocks.current_time / 1000000 - s.last_sec_)
  have hcovered := (hcover.resolve_left hfirst).resolve_left hsame
  rw [← htotal, ← hrate, ← hpackets] at hcovered
  obtain ⟨u, hu, hzero, hmethod', hbalanced'⟩ :=
    settle_of_le hcoupled (clocks.current_time / 1000000) hcovered
  rw [if_neg hfirst, if_pos hsame, ht]
  refine ⟨u, hu, hmethod'.trans hmethod, fun hs => ⟨hbalanced' (hbalanced (hs.resolve_left hfirst).1), ?_⟩⟩
  rw [hzero]
  exact UInt32.zero_le

theorem check_ne_endless_iff (h : s.Coupled) (hmethod : s.flow_method_ = .credit) (clocks : Clocks) :
    s.check clocks ≠ .error .endless ↔ s.Covered clocks := by
  rw [← turnSecond_ne_endless_iff h clocks, check, hmethod]
  show s.checkCredit clocks ≠ _ ↔ _
  rw [checkCredit]
  cases s.turnSecond (clocks.current_time / 1000000) with
  | ok t =>
    refine iff_of_true ?_ ?_
    all_goals
      intro hstop
      cases hstop
  | error stop =>
    exact not_congr ⟨fun h => congrArg Except.error (Except.error.inj h),
      fun h => congrArg Except.error (Except.error.inj h)⟩

theorem checkCredit_spec (h : s.Coupled) (hcover : s.Covered clocks) :
    ∃ t, (s.checkCredit clocks).map Prod.fst = .ok t ∧ t.flow_method_ = s.flow_method_ ∧
      (s.last_sec_ = 0 ∨ s.Solvent → t.Solvent) := by
  obtain ⟨t, ht, hmethod, hsolvent⟩ := turnSecond_spec h hcover
  obtain ⟨hmethod', -, hbalanced, hpackets⟩ := takeCredit_spec t clocks
  rw [checkCredit, ht]
  exact ⟨_, rfl, hmethod'.trans hmethod, fun hs =>
    ⟨hbalanced (hsolvent hs).1, hpackets (hsolvent hs).2⟩⟩

theorem total_le {entries : List UInt32} {bound : UInt32} (h : ∀ entry ∈ entries, entry ≤ bound) :
    total entries ≤ entries.length * bound.toNat := by
  induction entries with
  | nil => exact Nat.zero_le _
  | cons entry entries ih =>
    obtain ⟨hentry, hrest⟩ := List.forall_mem_cons.mp h
    have hle := UInt32.le_iff_toNat_le.mp hentry
    rw [total_cons, List.length_cons, Nat.succ_mul]
    have hsum := ih hrest
    omega

/-- Seconds that pass do not take credit away. -/
theorem Balanced.total_le_credit (hb : s.Balanced) (h : s.Coupled) (passed : UInt64) :
    total s.credit_arr_ ≤ s.credit passed := by
  rw [credit]
  split
  · rw [← h.credit_arr_]
    exact total_le hb.entries
  · have hsplit : total s.credit_arr_ =
        total (s.entries.take (passed.toNat - 1)) + total (s.entries.drop (passed.toNat - 1)) := by
      rw [← total_append, List.take_append_drop, total_entries]
    have htake : total (s.entries.take (passed.toNat - 1)) ≤
        (passed.toNat - 1) * s.max_packets_per_second_.toNat := by
      refine Nat.le_trans (total_le fun entry hentry => hb.entries entry ?_)
        (Nat.mul_le_mul_right _ (List.length_take_le _ _))
      exact List.mem_rotate.mp (List.mem_of_mem_take hentry)
    omega

/-- A solvent state is covered, whenever the next check comes. -/
theorem Solvent.covered (hs : s.last_sec_ = 0 ∨ s.Solvent) (h : s.Coupled) (clocks : Clocks) :
    s.Covered clocks := by
  rcases hs with hfirst | ⟨hb, hpackets⟩
  · exact .inl hfirst
  · refine .inr (.inr ?_)
    obtain ⟨c, hc, havailable⟩ := hb.available
    have hcredit := hb.total_le_credit h (clocks.current_time / 1000000 - s.last_sec_)
    have hle := UInt32.le_iff_toNat_le.mp hpackets
    have hmod := Nat.mod_le (total s.credit_arr_ + c) (2 ^ 32)
    omega

end FlowControl

/-! ### Runs -/

/-- Checks and changes of the rate. -/
def FlowEvent.ChecksOrRate : FlowEvent → Prop
  | .check _ => True
  | .maxPacketsPerSecondReplace _ => True
  | _ => False

/-- Once a second has begun the rate is not lowered. -/
def FlowControl.Raises (s : FlowControl) : FlowEvent → Prop
  | .maxPacketsPerSecondReplace value => s.last_sec_ = 0 ∨ s.max_packets_per_second_ ≤ value
  | _ => True

namespace FlowControl

variable {s t : FlowControl}

/-- Checks and changes of the rate leave the method and the window. -/
theorem credit_step (h : s.Coupled ∧ s.flow_method_ = .credit) {e : FlowEvent} (he : e.ChecksOrRate) :
    Leaves (fun t => t.Coupled ∧ t.flow_method_ = .credit) (s.handle e) := by
  obtain ⟨hcoupled, hmethod⟩ := h
  cases e with
  | check clocks =>
    have hharmless : s.Harmless (.check clocks) := fun hadaptive => by
      rw [hmethod] at hadaptive
      cases hadaptive
    have hleaves := hcoupled.handle hharmless
    have hcheck : s.handle (.check clocks) = (s.checkCredit clocks).map Prod.fst := by
      rw [handle, check, hmethod]
    by_cases hcover : s.Covered clocks
    · obtain ⟨t, ht, hmethod', -⟩ := checkCredit_spec hcoupled hcover
      rw [hcheck, ht] at hleaves ⊢
      exact ⟨hleaves, hmethod'.trans hmethod⟩
    · have hendless := (check_ne_endless_iff hcoupled hmethod clocks).not.mpr hcover
      rw [handle, not_not.mp hendless]
      exact Stop.noConfusion
  | maxPacketsPerSecondReplace value => exact ⟨⟨hcoupled.1, hcoupled.2, hcoupled.3, hcoupled.4⟩, hmethod⟩
  | flowMethodReplace conf => exact he.elim
  | creditWindowsSizeReplace value => exact he.elim
  | maxSlippageReplace value => exact he.elim

/-- A rate that is not lowered leaves the state solvent. -/
theorem solvent_step (h : s.Coupled ∧ s.flow_method_ = .credit) (hs : s.last_sec_ = 0 ∨ s.Solvent)
    {e : FlowEvent} (he : e.ChecksOrRate) (hraises : s.Raises e) :
    ∃ t, s.handle e = .ok t ∧ (t.last_sec_ = 0 ∨ t.Solvent) := by
  obtain ⟨hcoupled, hmethod⟩ := h
  cases e with
  | check clocks =>
    obtain ⟨t, ht, -, hsolvent⟩ := checkCredit_spec hcoupled (Solvent.covered hs hcoupled clocks)
    exact ⟨t, by rw [handle, check, hmethod]; exact ht, .inr (hsolvent hs)⟩
  | maxPacketsPerSecondReplace value =>
    rcases hs with hfirst | ⟨⟨⟨c, hc, havailable⟩, hentries⟩, hpackets⟩
    · exact ⟨_, rfl, .inl hfirst⟩
    rcases hraises with hfirst | hle
    · exact ⟨_, rfl, .inl hfirst⟩
    · refine ⟨_, rfl, .inr ⟨⟨⟨c, Nat.le_trans hc (UInt32.le_iff_toNat_le.mp hle), havailable⟩, ?_⟩, hpackets⟩⟩
      exact fun entry hentry => UInt32.le_trans (hentries entry hentry) hle
  | flowMethodReplace conf => exact he.elim
  | creditWindowsSizeReplace value => exact he.elim
  | maxSlippageReplace value => exact he.elim

end FlowControl

end SmppGateway.Gateway
