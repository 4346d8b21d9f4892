import Mathlib.Data.List.AList

/-!
# Tables

A table is a finite map with unique keys whose entries can be walked through. An insertion under a key
that is there already changes nothing, as in the maps of the C++ library.

## What is proved

* `entries_insertNew`, `entries_filter`, `entries_erase` — what the operations do to the entries.
* `filterMap_eq_lookup` — what concerns one key only is in the entry found under it.
* `Holds` says that a table holds what a list calls for: `Holds.insertNew`, `Holds.erase` and `Holds.of_lookup`
  say what the operations do to it.
-/

namespace SmppGateway.Foundation

/-- A finite map. -/
abbrev Table (κ ν : Type*) := AList fun _ : κ => ν

namespace Table

variable {κ ν β : Type*}

/-- The entries that satisfy a condition. -/
def filter (t : Table κ ν) (p : κ → ν → Bool) : Table κ ν where
  entries := t.entries.filter fun x => p x.1 x.2
  nodupKeys := t.nodupKeys.sublist List.filter_sublist

@[simp]
theorem entries_filter (t : Table κ ν) (p : κ → ν → Bool) :
    (t.filter p).entries = t.entries.filter fun x => p x.1 x.2 := rfl

theorem filter_true (t : Table κ ν) {p : κ → ν → Bool} (h : ∀ x ∈ t.entries, p x.1 x.2) : t.filter p = t :=
  AList.ext (List.filter_eq_self.mpr h)

/-- A table with another value for each. -/
def map (f : ν → β) (t : Table κ ν) : Table κ β where
  entries := t.entries.map fun x => ⟨x.1, f x.2⟩
  nodupKeys := by
    rw [List.NodupKeys, List.keys, List.map_map]
    exact t.nodupKeys

variable [DecidableEq κ]

/-- `insert` of a container with unique keys: an entry that is there stays as it is. -/
def insertNew (t : Table κ ν) (k : κ) (v : ν) : Table κ ν := if k ∈ t then t else t.insert k v

theorem insertNew_of_mem {t : Table κ ν} {k : κ} (h : k ∈ t) (v : ν) : t.insertNew k v = t := if_pos h

theorem insertNew_of_notMem {t : Table κ ν} {k : κ} (h : k ∉ t) (v : ν) :
    t.insertNew k v = t.insert k v := if_neg h

theorem entries_insertNew {t : Table κ ν} {k : κ} (h : k ∉ t) (v : ν) :
    (t.insertNew k v).entries = ⟨k, v⟩ :: t.entries := by
  rw [insertNew_of_notMem h, AList.entries_insert_of_notMem h]

theorem erase_of_notMem {t : Table κ ν} {k : κ} (h : k ∉ t) : t.erase k = t :=
  AList.ext (List.kerase_of_notMem_keys h)

@[simp]
theorem mem_insertNew {t : Table κ ν} {k k' : κ} {v : ν} : k' ∈ t.insertNew k v ↔ k' = k ∨ k' ∈ t := by
  by_cases h : k ∈ t
  · rw [insertNew_of_mem h]
    exact ⟨.inr, fun h' => h'.elim (fun heq => heq ▸ h) id⟩
  · rw [insertNew_of_notMem h, AList.mem_insert]

theorem mem_entries_iff {t : Table κ ν} {k : κ} {v : ν} :
    (⟨k, v⟩ : Σ _ : κ, ν) ∈ t.entries ↔ t.lookup k = some v :=
  (AList.mem_lookup_iff (s := t)).symm

/-- What is found in the part of a table that satisfies a condition. -/
theorem lookup_filter (t : Table κ ν) (p : κ → ν → Bool) (k : κ) :
    (t.filter p).lookup k = (t.lookup k).filter (p k) := by
  refine Option.ext fun v => ?_
  rw [← mem_entries_iff, entries_filter, List.mem_filter, mem_entries_iff, Option.filter_eq_some_iff]

@[simp]
theorem lookup_map (f : ν → β) (t : Table κ ν) (k : κ) : (t.map f).lookup k = (t.lookup k).map f := by
  refine Option.ext fun b => ?_
  rw [← mem_entries_iff, map, List.mem_map, Option.map_eq_some_iff]
  constructor
  · rintro ⟨⟨k', v⟩, hmem, heq⟩
    cases heq
    exact ⟨v, mem_entries_iff.mp hmem, rfl⟩
  · rintro ⟨v, hv, rfl⟩
    exact ⟨⟨k, v⟩, mem_entries_iff.mpr hv, rfl⟩

omit [DecidableEq κ] in
theorem mem_of_mem_entries {t : Table κ ν} {x : Σ _ : κ, ν} (h : x ∈ t.entries) : x.1 ∈ t :=
  List.mem_keys_of_mem h

/-- Where an entry is among the others, none of which has its key. -/
theorem exists_entries_eq {t : Table κ ν} {k : κ} {v : ν} (h : t.lookup k = some v) :
    ∃ l1 l2, t.entries = l1 ++ ⟨k, v⟩ :: l2 ∧ (t.erase k).entries = l1 ++ l2 ∧ ∀ x ∈ l1 ++ l2, x.1 ≠ k := by
  have hk : k ∈ t.entries.keys := List.mem_keys_of_mem (mem_entries_iff.mpr h)
  obtain ⟨w, l1, l2, -, heq, herase⟩ := List.exists_of_kerase hk
  have hw : t.lookup k = some w := mem_entries_iff.mp (heq ▸ List.mem_append_right l1 List.mem_cons_self)
  obtain rfl : v = w := Option.some.inj (h.symm.trans hw)
  refine ⟨l1, l2, heq, herase, ?_⟩
  intro x hx hkey
  rw [← herase] at hx
  have hmem : x.1 ∈ (t.entries.kerase k).keys := List.mem_keys_of_mem hx
  exact List.notMem_keys_kerase k t.nodupKeys (hkey ▸ hmem)

theorem entries_erase (t : Table κ ν) (k : κ) :
    (t.erase k).entries = t.entries.filter fun x => x.1 ≠ k := by
  cases h : t.lookup k with
  | none =>
    have hk : k ∉ t.entries.keys := AList.lookup_eq_none.mp h
    have hne : ∀ x ∈ t.entries, decide (x.1 ≠ k) = true := fun x hx =>
      decide_eq_true fun heq => hk (heq ▸ List.mem_keys_of_mem hx)
    exact (List.kerase_of_notMem_keys hk).trans (List.filter_eq_self.mpr hne).symm
  | some v =>
    obtain ⟨l1, l2, heq, herase, hne⟩ := exists_entries_eq h
    have hsplit : (l1 ++ l2).filter (fun x => decide (x.1 ≠ k)) = l1 ++ l2 :=
      List.filter_eq_self.mpr fun x hx => decide_eq_true (hne x hx)
    rw [herase, heq, List.filter_append, List.filter_cons_of_neg (by simp), ← List.filter_append, hsplit]

/-- An erased key takes its entry along. -/
theorem length_erase {t : Table κ ν} {k : κ} (h : k ∈ t) :
    (t.erase k).entries.length + 1 = t.entries.length := by
  obtain ⟨v, hv⟩ := Option.isSome_iff_exists.mp (AList.lookup_isSome.mpr h)
  obtain ⟨l1, l2, heq, herase, -⟩ := exists_entries_eq hv
  rw [herase, heq, List.length_append, List.length_append, List.length_cons, Nat.add_assoc]

/-- What concerns one key only is in the entry found under it. -/
theorem filterMap_eq_lookup (t : Table κ ν) (k : κ) (f : (Σ _ : κ, ν) → Option β)
    (h : ∀ x ∈ t.entries, x.1 ≠ k → f x = none) :
    t.entries.filterMap f = ((t.lookup k).bind fun v => f ⟨k, v⟩).toList := by
  cases hk : t.lookup k with
  | none =>
    have hne : ∀ x ∈ t.entries, x.1 ≠ k := fun x hx heq =>
      AList.lookup_eq_none.mp hk (heq ▸ mem_of_mem_entries hx)
    exact List.filterMap_eq_nil_iff.mpr fun x hx => h x hx (hne x hx)
  | some v =>
    obtain ⟨l1, l2, heq, -, hne⟩ := exists_entries_eq hk
    have hnone (l : List (Σ _ : κ, ν)) (hsub : ∀ x ∈ l, x ∈ l1 ++ l2) : l.filterMap f = [] :=
      List.filterMap_eq_nil_iff.mpr fun x hx => by
        have hmem := hsub x hx
        refine h x ?_ (hne x hmem)
        rw [heq]
        rcases List.mem_append.mp hmem with h1 | h2
        · exact List.mem_append_left _ h1
        · exact List.mem_append_right _ (List.mem_cons_of_mem _ h2)
    rw [heq, List.filterMap_append, hnone l1 fun x hx => List.mem_append_left _ hx, List.filterMap_cons,
      hnone l2 fun x hx => List.mem_append_right _ hx]
    cases hf : f ⟨k, v⟩ <;> simp [hf]

/-! ### What a table holds -/

section Holding

variable {ω : Type*} {relevant : κ → Bool} {view : ν → β} {key : ω → κ} {label : ω → β} {t : Table κ ν}
  {ws : List ω}

/-- The entries under the keys that matter, as far as they are looked at, are those that a list calls for. -/
def Holds (relevant : κ → Bool) (view : ν → β) (key : ω → κ) (label : ω → β) (t : Table κ ν) (ws : List ω) :
    Prop :=
  ((t.entries.filter fun x => relevant x.1).map fun x => (x.1, view x.2)).Perm
    (ws.map fun w => (key w, label w))

omit [DecidableEq κ] in
/-- A key that matters is there exactly if it is called for. -/
theorem Holds.mem_iff (h : t.Holds relevant view key label ws) {k : κ} (hk : relevant k = true) :
    k ∈ t ↔ ∃ w ∈ ws, key w = k := by
  have hseen (x : κ × β) := List.Perm.mem_iff h (a := x)
  rw [AList.mem_keys, AList.keys, List.keys]
  constructor
  · intro hmem
    obtain ⟨x, hx, rfl⟩ := List.mem_map.mp hmem
    have hentry : x ∈ t.entries.filter fun x => relevant x.1 := List.mem_filter.mpr ⟨hx, hk⟩
    obtain ⟨w, hw, heq⟩ := List.mem_map.mp ((hseen _).mp (List.mem_map_of_mem hentry))
    exact ⟨w, hw, congrArg Prod.fst heq⟩
  · rintro ⟨w, hw, rfl⟩
    obtain ⟨x, hx, heq⟩ := List.mem_map.mp ((hseen _).mpr (List.mem_map_of_mem hw))
    have hkey : x.1 = key w := congrArg Prod.fst heq
    exact List.mem_map.mpr ⟨x, (List.mem_filter.mp hx).1, hkey⟩

/-- What is found is called for once. -/
theorem Holds.of_lookup (h : t.Holds relevant view key label ws) {k : κ} (hk : relevant k = true) {v : ν}
    (hv : t.lookup k = some v) : ∃ w, ws.filter (fun x => key x = k) = [w] ∧ view v = label w := by
  obtain ⟨l1, l2, hentries, -, hne⟩ := exists_entries_eq hv
  have hperm := h.filter fun x => x.1 = k
  have hother (l : List (Σ _ : κ, ν)) (hl : ∀ x ∈ l, x.1 ≠ k) :
      l.filter (fun x => decide (x.1 = k) && relevant x.1) = [] :=
    List.filter_eq_nil_iff.mpr fun x hx => by simp [hl x hx]
  simp only [List.filter_map, List.filter_filter, Function.comp_def, hentries, List.filter_append,
    List.filter_cons, hother l1 fun x hx => hne x (List.mem_append_left l2 hx),
    hother l2 fun x hx => hne x (List.mem_append_right l1 hx), hk, decide_true, if_true,
    List.nil_append, List.map_cons, List.map_nil] at hperm
  obtain ⟨w, hw, heq⟩ := List.map_eq_singleton_iff.mp (List.singleton_perm.mp hperm).symm
  exact ⟨w, hw, (congrArg Prod.snd heq).symm⟩

/-- What is not found is not called for. -/
theorem Holds.of_lookup_none (h : t.Holds relevant view key label ws) {k : κ} (hk : relevant k = true)
    (hv : t.lookup k = none) : ws.filter (fun x => key x = k) = [] := by
  refine List.filter_eq_nil_iff.mpr ?_
  intro w hw hkey
  exact AList.lookup_eq_none.mp hv ((h.mem_iff hk).mpr ⟨w, hw, by simpa using hkey⟩)

/-- What is called for is found, and nothing else is called for under its key. -/
theorem Holds.lookup_of_mem (h : t.Holds relevant view key label ws) {w : ω} (hw : w ∈ ws)
    (hk : relevant (key w) = true) :
    ∃ v, t.lookup (key w) = some v ∧ view v = label w ∧ ws.filter (fun x => key x = key w) = [w] := by
  obtain ⟨v, hv⟩ := Option.isSome_iff_exists.mp (AList.lookup_isSome.mpr ((h.mem_iff hk).mpr ⟨w, hw, rfl⟩))
  obtain ⟨x, hx, hview⟩ := h.of_lookup hk hv
  have hmem : w ∈ ws.filter fun x => key x = key w := List.mem_filter.mpr ⟨hw, decide_eq_true rfl⟩
  rw [hx] at hmem
  obtain rfl := List.mem_singleton.mp hmem
  exact ⟨v, hv, hview, hx⟩

/-- A new key. -/
theorem Holds.insertNew (h : t.Holds relevant view key label ws) {w : ω} {v : ν}
    (hrelevant : relevant (key w) = true) (hnew : t.lookup (key w) = none) (hview : view v = label w) :
    (t.insertNew (key w) v).Holds relevant view key label (w :: ws) := by
  simp only [Holds, entries_insertNew (AList.lookup_eq_none.mp hnew), List.filter_cons, hrelevant, if_true,
    List.map_cons, hview]
  exact h.cons _

/-- A key that does not matter. -/
theorem Holds.insertNew_irrelevant (h : t.Holds relevant view key label ws) {k : κ} (hk : relevant k = false)
    (v : ν) : (t.insertNew k v).Holds relevant view key label ws := by
  by_cases hmem : k ∈ t
  · rwa [insertNew_of_mem hmem]
  · simp only [Holds, entries_insertNew hmem, List.filter_cons, hk, Bool.false_eq_true, if_false]
    exact h

/-- What is erased is not called for any more. -/
theorem Holds.erase (h : t.Holds relevant view key label ws) (k : κ) :
    Holds relevant view key label (t.erase k) (ws.filter fun w => key w ≠ k) := by
  have hperm := h.filter fun x => x.1 ≠ k
  simp only [List.filter_map, List.filter_filter, Function.comp_def] at hperm
  simp only [Holds, entries_erase, List.filter_filter]
  simpa only [Bool.and_comm] using hperm

end Holding

end Table

end SmppGateway.Foundation
