import Mathlib.Algebra.Group.Nat.Defs
import SmppGateway.Foundation.Ledger
import SmppGateway.Foundation.Table

/-!
# Timeouts of keys

`io::expirator`, of which the gateway and the pinex library have a copy each.

## The model

The map goes both ways: a key is in it once, with the index at which it expires. The index of an entry is an
`unsigned int`, and the index of the expirator is narrowed when it is compared with one. The handler is called
by the owner for what `expiring` finds, before `onTimer`.

## What is proved

* `Tracks` relates an expirator to the requests of a ledger that wait: `Tracks.add`, `Tracks.remove`,
  `Tracks.onTimer` and `Tracks.expireAll` say that it stays so, and whom the handler is called for.
-/

namespace SmppGateway.Net

open Foundation

/-- `io::expirator`. -/
structure Expirator (κ ι : Type) where
  /-- `period_`, in nanoseconds. -/
  period_ : ℕ
  index_ : UInt64
  /-- `index_keys_`: of a key, the index at which it expires, and its info. -/
  index_keys_ : Table κ (UInt32 × ι)

namespace Expirator

variable {κ ι : Type}

/-- `expirator`. -/
def create (period : ℕ) : Expirator κ ι := ⟨period, 0, ∅⟩

/-- What `on_timer` and `expire_all` call the handler with: keys with their infos. -/
def calls (e : Expirator κ ι) (p : UInt32 → Bool) : List (κ × ι) :=
  (e.index_keys_.entries.filter fun x => p x.2.1).map fun x => (x.1, x.2.2)

/-- What `on_timer` calls the handler with. -/
def expiring (e : Expirator κ ι) : List (κ × ι) := e.calls fun index => index = e.index_.toUInt32

/-- `on_timer`, after the handler has been called. -/
def onTimer (e : Expirator κ ι) : Expirator κ ι :=
  { e with
    index_ := e.index_ + 1
    index_keys_ := e.index_keys_.filter fun _ x => x.1 ≠ e.index_.toUInt32 }

/-- What `expire_all` calls the handler with. -/
def all (e : Expirator κ ι) : List (κ × ι) := e.calls fun _ => true

/-- `expire_all`, after the handler has been called. -/
def expireAll (e : Expirator κ ι) : Expirator κ ι := { e with index_ := 0, index_keys_ := ∅ }

variable [DecidableEq κ]

/-- `add`, with a number of nanoseconds. -/
def add (e : Expirator κ ι) (key : κ) (expirationCount : ℕ) (info : ι) : Expirator κ ι :=
  { e with
    index_keys_ :=
      e.index_keys_.insertNew key ((e.index_ + UInt64.ofNat (expirationCount / e.period_)).toUInt32, info) }

/-- `get_info`. -/
def getInfo (e : Expirator κ ι) (key : κ) : Option ι := (e.index_keys_.lookup key).map Prod.snd

/-- `remove`. -/
def remove (e : Expirator κ ι) (key : κ) : Expirator κ ι :=
  { e with index_keys_ := e.index_keys_.erase key }

/-- A removed key is not armed. -/
@[simp]
theorem getInfo_remove (e : Expirator κ ι) (key : κ) : (e.remove key).getInfo key = none := by
  simp [getInfo, remove]

/-! ### How many keys are armed -/

/-- The number of entries. -/
def size (e : Expirator κ ι) : ℕ := e.index_keys_.entries.length

theorem notMem_of_getInfo {e : Expirator κ ι} {key : κ} (h : e.getInfo key = none) : key ∉ e.index_keys_ :=
  AList.lookup_eq_none.mp (Option.map_eq_none_iff.mp h)

theorem mem_of_getInfo {e : Expirator κ ι} {key : κ} {info : ι} (h : e.getInfo key = some info) :
    key ∈ e.index_keys_ := by
  obtain ⟨x, hx, -⟩ := Option.map_eq_some_iff.mp h
  exact AList.lookup_isSome.mp (Option.isSome_iff_exists.mpr ⟨x, hx⟩)

/-- A key that is armed already is not armed again. -/
theorem size_add (e : Expirator κ ι) (key : κ) (expirationCount : ℕ) (info : ι) :
    (e.add key expirationCount info).size = if (e.getInfo key).isSome then e.size else e.size + 1 := by
  rw [size, add]
  cases hinfo : e.getInfo key with
  | none =>
    rw [Table.entries_insertNew (notMem_of_getInfo hinfo)]
    rfl
  | some old =>
    rw [Table.insertNew_of_mem (mem_of_getInfo hinfo)]
    rfl

theorem size_remove {e : Expirator κ ι} {key : κ} {info : ι} (h : e.getInfo key = some info) :
    (e.remove key).size + 1 = e.size := Table.length_erase (mem_of_getInfo h)

omit [DecidableEq κ] in
theorem size_onTimer (e : Expirator κ ι) : e.onTimer.size + e.expiring.length = e.size := by
  have hsplit := List.length_eq_length_filter_add (l := e.index_keys_.entries)
    fun x => x.2.1 = e.index_.toUInt32
  simp only [size, onTimer, expiring, calls, Table.entries_filter, List.length_map, ne_eq, decide_not]
  omega

omit [DecidableEq κ] in
theorem size_expireAll (e : Expirator κ ι) : e.expireAll.size = 0 := rfl

omit [DecidableEq κ] in
theorem length_all (e : Expirator κ ι) : e.all.length = e.size := by
  rw [all, calls, List.length_map, List.filter_true, size]

/-! ### Which keys are armed -/

theorem all_add {e : Expirator κ ι} {key : κ} (h : e.getInfo key = none) (expirationCount : ℕ) (info : ι) :
    (e.add key expirationCount info).all = (key, info) :: e.all := by
  rw [all, calls, add, Table.entries_insertNew (notMem_of_getInfo h)]
  rfl

theorem add_of_getInfo {e : Expirator κ ι} {key : κ} {old : ι} (h : e.getInfo key = some old) (expirationCount : ℕ)
    (info : ι) : e.add key expirationCount info = e := by
  rw [add, Table.insertNew_of_mem (mem_of_getInfo h)]

theorem all_remove {e : Expirator κ ι} {key : κ} {info : ι} (h : e.getInfo key = some info) :
    e.all.Perm ((key, info) :: (e.remove key).all) := by
  obtain ⟨x, hx, rfl⟩ := Option.map_eq_some_iff.mp h
  obtain ⟨l1, l2, hentries, herase, -⟩ := Table.exists_entries_eq hx
  simp only [all, calls, remove, List.filter_true, hentries, herase, List.map_append, List.map_cons]
  exact List.perm_middle

omit [DecidableEq κ] in
/-- A tick calls the handler for some keys and leaves the others. -/
theorem expiring_append_all_onTimer (e : Expirator κ ι) : (e.expiring ++ e.onTimer.all).Perm e.all := by
  simp only [expiring, all, calls, onTimer, Table.entries_filter, List.filter_true, ne_eq, decide_not,
    ← List.map_append]
  exact (List.filter_append_perm _ _).map _

omit [DecidableEq κ] in
theorem all_expireAll (e : Expirator κ ι) : e.expireAll.all = [] := rfl

/-! ### The requests that wait -/

section Tracking

variable {χ ν β : Type} {relevant : κ → Bool} {mark : ι → β} {key : Waiting χ ν → κ} {label : Waiting χ ν → β}
  {e : Expirator κ ι} {ws : List (Waiting χ ν)}

/-- The entries are those of the requests that wait: each has the key of its request, and expires when the
request has no tick left. -/
structure Tracks (relevant : κ → Bool) (mark : ι → β) (key : Waiting χ ν → κ) (label : Waiting χ ν → β)
    (e : Expirator κ ι) (ws : List (Waiting χ ν)) : Prop where
  holds : e.index_keys_.Holds relevant (fun x => (x.1, mark x.2)) key
    (fun w => ((e.index_ + UInt64.ofNat w.left).toUInt32, label w)) ws
  left_lt : ∀ w ∈ ws, w.left < 2 ^ 32

omit [DecidableEq κ] in
theorem tracks_create (period : ℕ) :
    (create period : Expirator κ ι).Tracks relevant mark key label ([] : List (Waiting χ ν)) :=
  ⟨.nil, fun _ hw => (nomatch hw)⟩

/-- Whom an armed key is for. -/
theorem Tracks.of_getInfo (h : e.Tracks relevant mark key label ws) {k : κ} (hk : relevant k = true) {info : ι}
    (hinfo : e.getInfo k = some info) :
    ∃ w, ws.filter (fun v => key v = k) = [w] ∧ mark info = label w := by
  obtain ⟨x, hlookup, rfl⟩ := Option.map_eq_some_iff.mp hinfo
  obtain ⟨w, hw, heq⟩ := h.holds.of_lookup hk hlookup
  exact ⟨w, hw, congrArg Prod.snd heq⟩

/-- A key that is not armed is for nobody. -/
theorem Tracks.of_getInfo_none (h : e.Tracks relevant mark key label ws) {k : κ} (hk : relevant k = true)
    (hinfo : e.getInfo k = none) : ws.filter (fun v => key v = k) = [] :=
  h.holds.of_lookup_none hk (Option.map_eq_none_iff.mp hinfo)

/-- A request that gets a key that is not armed begins to wait. -/
theorem Tracks.add (h : e.Tracks relevant mark key label ws) {w : Waiting χ ν} {expirationCount : ℕ} {info : ι}
    (hrelevant : relevant (key w) = true) (hfree : e.getInfo (key w) = none)
    (hleft : w.left = expirationCount / e.period_) (hlt : w.left < 2 ^ 32) (hmark : mark info = label w) :
    (e.add (key w) expirationCount info).Tracks relevant mark key label (w :: ws) :=
  ⟨h.holds.insertNew hrelevant (Option.map_eq_none_iff.mp hfree) (by rw [hleft, hmark]),
    List.forall_mem_cons.mpr ⟨hlt, h.left_lt⟩⟩

/-- An entry under a key that does not matter. -/
theorem Tracks.add_irrelevant (h : e.Tracks relevant mark key label ws) {k : κ} (hk : relevant k = false)
    (expirationCount : ℕ) (info : ι) : (e.add k expirationCount info).Tracks relevant mark key label ws :=
  ⟨h.holds.insertNew_irrelevant hk _, h.left_lt⟩

/-- A removed key ends the wait of whoever has it. -/
theorem Tracks.remove (h : e.Tracks relevant mark key label ws) (k : κ) :
    (e.remove k).Tracks relevant mark key label (ws.filter fun w => key w ≠ k) :=
  ⟨h.holds.erase k, fun w hw => h.left_lt w (List.mem_filter.mp hw).1⟩

omit [DecidableEq κ] in
/-- An index is reached when there is no tick left. -/
theorem index_eq_iff {index : UInt64} {left : ℕ} (hlt : left < 2 ^ 32) :
    (index + UInt64.ofNat left).toUInt32 = index.toUInt32 ↔ left = 0 := by
  rw [← UInt32.toNat_inj]
  simp only [UInt64.toNat_toUInt32, UInt64.toNat_add, UInt64.toNat_ofNat']
  omega

omit [DecidableEq κ] in
/-- **A tick**: the handler is called for the requests that have no tick left, and the others wait on. -/
theorem Tracks.onTimer (h : e.Tracks relevant mark key label ws) (pass : Waiting χ ν → Waiting χ ν)
    (hpass : ∀ w ∈ ws, w.left ≠ 0 →
      key (pass w) = key w ∧ label (pass w) = label w ∧ (pass w).left = w.left - 1) :
    ((e.expiring.filter fun x => relevant x.1).map fun x => (x.1, mark x.2)).Perm
        ((ws.filter fun w => w.left = 0).map fun w => (key w, label w)) ∧
      e.onTimer.Tracks relevant mark key label ((ws.filter fun w => w.left ≠ 0).map pass) := by
  have hdue (w : Waiting χ ν) (hw : w ∈ ws) :
      (e.index_ + UInt64.ofNat w.left).toUInt32 = e.index_.toUInt32 ↔ w.left = 0 :=
    index_eq_iff (h.left_lt w hw)
  constructor
  · have hperm := (h.holds.filter fun x => x.2.1 = e.index_.toUInt32).map fun x => (x.1, x.2.2)
    have hsame : ws.filter (fun w => (e.index_ + UInt64.ofNat w.left).toUInt32 = e.index_.toUInt32) =
        ws.filter fun w => w.left = 0 := List.filter_congr fun w hw => decide_eq_decide.mpr (hdue w hw)
    simp only [List.filter_map, List.filter_filter, List.map_map, Function.comp_def, hsame] at hperm
    simp only [expiring, calls, List.filter_map, List.filter_filter, List.map_map, Function.comp_def]
    simpa only [Bool.and_comm] using hperm
  · have hperm := h.holds.filter fun x => x.2.1 ≠ e.index_.toUInt32
    have hsame : ws.filter (fun w => (e.index_ + UInt64.ofNat w.left).toUInt32 ≠ e.index_.toUInt32) =
        ws.filter fun w => w.left ≠ 0 := List.filter_congr fun w hw => decide_eq_decide.mpr (hdue w hw).not
    simp only [List.filter_map, List.filter_filter, Function.comp_def, hsame] at hperm
    refine ⟨?_, ?_⟩
    · have hindex : ((ws.filter fun w => w.left ≠ 0).map pass).map
            (fun w => (key w, (e.index_ + 1 + UInt64.ofNat w.left).toUInt32, label w)) =
          (ws.filter fun w => w.left ≠ 0).map fun w =>
            (key w, (e.index_ + UInt64.ofNat w.left).toUInt32, label w) := by
        rw [List.map_map]
        refine List.map_congr_left ?_
        intro w hw
        obtain ⟨hmem, hpos⟩ := List.mem_filter.mp hw
        have hpos : w.left ≠ 0 := by simpa using hpos
        obtain ⟨hkey, hlabel, hleft⟩ := hpass w hmem hpos
        simp only [Function.comp_apply, hkey, hlabel, hleft, UInt64.add_assoc, ← UInt64.ofNat_one,
          ← UInt64.ofNat_add, Nat.add_sub_cancel' (Nat.pos_of_ne_zero hpos)]
      change List.Perm _ (List.map (fun w : Waiting χ ν =>
        (key w, (e.index_ + 1 + UInt64.ofNat w.left).toUInt32, label w)) _)
      rw [hindex]
      simp only [Expirator.onTimer, Table.entries_filter, List.filter_filter]
      simpa only [Bool.and_comm] using hperm
    · intro w hw
      obtain ⟨v, hv, rfl⟩ := List.mem_map.mp hw
      obtain ⟨hmem, hpos⟩ := List.mem_filter.mp hv
      rw [(hpass v hmem (by simpa using hpos)).2.2]
      exact Nat.lt_of_le_of_lt (Nat.sub_le _ _) (h.left_lt v hmem)

omit [DecidableEq κ] in
/-- `expire_all` calls the handler for everybody. -/
theorem Tracks.expireAll (h : e.Tracks relevant mark key label ws) :
    ((e.all.filter fun x => relevant x.1).map fun x => (x.1, mark x.2)).Perm
        (ws.map fun w => (key w, label w)) ∧
      e.expireAll.Tracks relevant mark key label ([] : List (Waiting χ ν)) := by
  refine ⟨?_, .nil, fun _ hw => (nomatch hw)⟩
  have hperm := h.holds.map fun x => (x.1, x.2.2)
  simp only [List.map_map, Function.comp_def] at hperm
  simp only [all, calls, List.filter_true, List.filter_map, List.map_map, Function.comp_def]
  exact hperm

end Tracking

end Expirator

end SmppGateway.Net
