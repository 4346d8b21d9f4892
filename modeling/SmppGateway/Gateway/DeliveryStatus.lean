import Mathlib.Algebra.Group.Nat.Defs
import SmppGateway.Foundation.Splitting
import SmppGateway.Foundation.Text

/-!
# The status of a delivery report

`delivery_report::extract_dr_status` (`src/smpp/delivery_report.cpp`) looks for the word `stat` in the text of a
report and takes the token behind it. It is called for every report that the backend sends.

## The model

`boost::split` is a parameter: it splits at runs of spaces and colons. `i` is an `unsigned`. The loop is cut
off after a number of iterations.

## What is proved

* `findStatus_eq_some_iff` — the loop ends at the first `stat` or behind the last token, if an `unsigned` gets
  there.
* `extractDrStatus_iff` — the status of the report is found exactly for a text that has its status extracted.
* `extracts_iff_of_length` — for a text of less than 4 GiB this is a text that does not end in its only `stat`.
-/

namespace SmppGateway.Gateway

open SmppGateway.Foundation

/-- `boost::is_any_of(" :")`. -/
def isDelimiter (c : UInt8) : Bool := c == 32 || c == 58

/-- The loop of `extract_dr_status` from an index on, if it ends within a number of iterations. -/
def findStatus (splited_body_vector : List Bytes) (dr_status : Bytes) : ℕ → UInt32 → Option (Except Fault Bytes)
  | 0, _ => none
  | n + 1, i =>
    match splited_body_vector[i.toNat]? with
    | none => some (.ok dr_status)
    | some token =>
      if token = ascii "stat" then
        match splited_body_vector[(i + 1).toNat]? with
        | none => some (.error .outOfBounds)
        | some next => some (.ok next)
      else findStatus splited_body_vector dr_status n (i + 1)

/-- `extract_dr_status`, if its loop ends within a number of iterations. -/
def extractDrStatus (split : Bytes → List Bytes) (original_body dr_status : Bytes) (n : ℕ) :
    Option (Except Fault Bytes) :=
  findStatus (split original_body) dr_status n 0

/-- Where the first `stat` is, or how many tokens there are. -/
def statIndex (tokens : List Bytes) : ℕ := tokens.idxOf (ascii "stat")

/-- The token behind the first `stat`, or else the old status. -/
def statusAfter (tokens : List Bytes) (dr_status : Bytes) : Bytes :=
  tokens[statIndex tokens + 1]?.getD dr_status

/-- The text ends in a token `stat` and has no other one. -/
def Dangling (body : Bytes) : Prop :=
  ∃ before, body = before ++ ascii "stat" ∧ (∀ c ∈ before.getLast?, isDelimiter c = true) ∧
    ascii "stat" ∉ splitRuns isDelimiter before

/-- **A text that has its status extracted**: it is not dangling, and an `unsigned` counts the tokens as far as
the one behind `stat`. At the last index, the token behind it is the first one of all. -/
def Extracts (body dr_status : Bytes) : Prop :=
  let tokens := splitRuns isDelimiter body
  if statIndex tokens + 1 < 2 ^ 32 then ¬ Dangling body
  else statIndex tokens + 1 = 2 ^ 32 ∧
    (statIndex tokens = tokens.length ∨ tokens.head? = some (statusAfter tokens dr_status))

/-! ### The loop -/

variable {tokens : List Bytes} {dr_status : Bytes}

/-- How the loop ends where it stops. -/
def endOf (tokens : List Bytes) (dr_status : Bytes) : Except Fault Bytes :=
  if statIndex tokens = tokens.length then .ok dr_status
  else match tokens[(statIndex tokens + 1) % 2 ^ 32]? with
    | none => .error .outOfBounds
    | some next => .ok next

theorem statIndex_le (tokens : List Bytes) : statIndex tokens ≤ tokens.length := List.idxOf_le_length

theorem findStatus_succ {i : ℕ} (hi : i < statIndex tokens) (hlt : i < 2 ^ 32) (n : ℕ) :
    findStatus tokens dr_status (n + 1) (UInt32.ofNat i) =
      findStatus tokens dr_status n (UInt32.ofNat (i + 1)) := by
  have hlen : i < tokens.length := Nat.lt_of_lt_of_le hi (statIndex_le tokens)
  have hother : tokens[i] ≠ ascii "stat" := by
    simpa using List.not_of_lt_findIdx hi
  rw [findStatus, UInt32.toNat_ofNat_of_lt' hlt, List.getElem?_eq_getElem hlen]
  simp only [if_neg hother, UInt32.ofNat_add]
  rfl

theorem findStatus_add {j : ℕ} (hj : j ≤ statIndex tokens) (hlt : j ≤ 2 ^ 32) (n : ℕ) :
    findStatus tokens dr_status (n + j) 0 = findStatus tokens dr_status n (UInt32.ofNat j) := by
  induction j generalizing n with
  | zero => rfl
  | succ j ih =>
    rw [Nat.add_comm j 1, ← Nat.add_assoc, ih (by omega) (by omega), Nat.add_comm 1 j,
      findStatus_succ (by omega) (by omega)]

theorem findStatus_statIndex (h : statIndex tokens < 2 ^ 32) (n : ℕ) :
    findStatus tokens dr_status (n + 1) (UInt32.ofNat (statIndex tokens)) = some (endOf tokens dr_status) := by
  have hnext : (UInt32.ofNat (statIndex tokens) + 1).toNat = (statIndex tokens + 1) % 2 ^ 32 := by
    rw [UInt32.toNat_add, UInt32.toNat_ofNat_of_lt' h]
    rfl
  rw [findStatus, UInt32.toNat_ofNat_of_lt' h, hnext, endOf]
  obtain hend | hlen := (statIndex_le tokens).eq_or_lt
  · rw [if_pos hend, List.getElem?_eq_none hend.ge]
  · have hstat : tokens[statIndex tokens] = ascii "stat" := List.getElem_idxOf hlen
    rw [if_neg hlen.ne, List.getElem?_eq_getElem hlen]
    simp only [hstat, if_true]
    split <;> rfl

/-- Where an `unsigned` cannot get to the first `stat`, it starts over and over. -/
theorem findStatus_eq_none (h : 2 ^ 32 ≤ statIndex tokens) (n : ℕ) : findStatus tokens dr_status n 0 = none := by
  induction n using Nat.strong_induction_on with
  | _ n ih =>
    obtain hlt | hle := Nat.lt_or_ge (2 ^ 32) n
    · obtain ⟨m, rfl⟩ := Nat.exists_eq_add_of_lt hlt
      rw [show 2 ^ 32 + m + 1 = m + 1 + 2 ^ 32 by omega, findStatus_add h (Nat.le_refl _)]
      exact ih (m + 1) (by omega)
    · rw [← Nat.zero_add n, findStatus_add (by omega) hle]
      rfl

/-- **The loop ends** only there. -/
theorem findStatus_eq_some_iff (r : Except Fault Bytes) :
    (∃ n, findStatus tokens dr_status n 0 = some r) ↔
      statIndex tokens < 2 ^ 32 ∧ r = endOf tokens dr_status := by
  constructor
  · rintro ⟨n, hn⟩
    have hlt : statIndex tokens < 2 ^ 32 := by
      by_contra hle
      rw [findStatus_eq_none (Nat.le_of_not_lt hle)] at hn
      cases hn
    have hgt : statIndex tokens < n := by
      by_contra hle
      rw [← Nat.zero_add n, findStatus_add (Nat.le_of_not_lt hle) (by omega)] at hn
      cases hn
    refine ⟨hlt, ?_⟩
    obtain ⟨m, rfl⟩ := Nat.exists_eq_add_of_lt hgt
    rw [show statIndex tokens + m + 1 = m + 1 + statIndex tokens by omega,
      findStatus_add (Nat.le_refl _) hlt.le, findStatus_statIndex hlt] at hn
    exact (Option.some.inj hn).symm
  · rintro ⟨hlt, rfl⟩
    exact ⟨1 + statIndex tokens,
      (findStatus_add (Nat.le_refl _) hlt.le 1).trans (findStatus_statIndex hlt 0)⟩

/-! ### The text -/

theorem dangling_iff (body : Bytes) : Dangling body ↔
    statIndex (splitRuns isDelimiter body) + 1 = (splitRuns isDelimiter body).length := by
  have hstat : ∀ c ∈ ascii "stat", isDelimiter c = false := by
    simpa using List.any_eq_false.mp (show (ascii "stat").any isDelimiter = false by decide)
  constructor
  · rintro ⟨before, rfl, hdelim, hnot⟩
    have htokens := ((split_splitRuns before).append hdelim hstat).eq_splitRuns
    have hfirst : ascii "stat" ∉ (splitRuns isDelimiter before).dropLast :=
      fun hmem => hnot (List.dropLast_subset _ hmem)
    rw [← htokens, statIndex, List.idxOf_append_of_notMem hfirst]
    simp
  · intro hlast
    obtain ⟨before, word, rfl, hdelim, hword⟩ := exists_last_token isDelimiter body
    have htokens := ((split_splitRuns before).append hdelim hword).eq_splitRuns
    rw [← htokens, statIndex, List.length_append, List.length_singleton, Nat.add_right_cancel_iff] at hlast
    have hfirst : ascii "stat" ∉ (splitRuns isDelimiter before).dropLast := by
      intro hmem
      rw [List.idxOf_append_of_mem hmem] at hlast
      exact absurd (List.idxOf_lt_length_of_mem hmem) hlast.not_lt
    have hword' : word = ascii "stat" := by
      rw [List.idxOf_append_of_notMem hfirst, Nat.add_eq_left] at hlast
      by_contra hne
      rw [List.idxOf_cons_ne _ hne] at hlast
      cases hlast
    -- Behind a delimiter, and at the beginning, the last token of the text so far is empty.
    have hbefore := ((split_splitRuns before).append hdelim (List.forall_mem_nil _)).eq_splitRuns
    rw [List.append_nil] at hbefore
    refine ⟨before, by rw [hword'], hdelim, ?_⟩
    rw [← hbefore, List.mem_append, not_or, List.mem_singleton]
    exact ⟨hfirst, by decide⟩

/-- **The status** of a report is the token behind the first `stat` exactly for these texts. -/
theorem extractDrStatus_iff {split : Bytes → List Bytes} (h : ∀ body, Split isDelimiter body (split body))
    (original_body dr_status : Bytes) :
    (∃ n, extractDrStatus split original_body dr_status n =
        some (.ok (statusAfter (split original_body) dr_status))) ↔ Extracts original_body dr_status := by
  simp only [extractDrStatus, findStatus_eq_some_iff]
  rw [(h original_body).eq_splitRuns, Extracts, dangling_iff]
  generalize splitRuns isDelimiter original_body = tokens
  have hle := statIndex_le tokens
  obtain hlt | heq | hgt := Nat.lt_trichotomy (statIndex tokens + 1) (2 ^ 32)
  · rw [if_pos hlt, and_iff_right (by omega), endOf, statusAfter, Nat.mod_eq_of_lt hlt]
    obtain hend | hend := hle.eq_or_lt
    · rw [if_pos hend, List.getElem?_eq_none (by omega)]
      exact iff_of_true rfl (by omega)
    rw [if_neg hend.ne]
    obtain hlast | hnext := (Nat.succ_le_of_lt hend).eq_or_lt
    · rw [List.getElem?_eq_none (Nat.le_of_eq hlast.symm)]
      exact iff_of_false (fun hok => by cases hok) (not_not_intro hlast)
    · rw [List.getElem?_eq_getElem hnext]
      exact iff_of_true rfl hnext.ne
  · rw [if_neg (by omega), and_iff_right (by omega), and_iff_right heq, endOf, heq, Nat.mod_self]
    obtain hend | hend := hle.eq_or_lt
    · rw [if_pos hend, statusAfter, List.getElem?_eq_none (by omega)]
      exact iff_of_true rfl (Or.inl hend)
    · rw [if_neg hend.ne, or_iff_right hend.ne, List.head?_eq_getElem?,
        List.getElem?_eq_getElem (Nat.zero_lt_of_lt hend), Except.ok.injEq, Option.some.injEq, eq_comm]
  · rw [if_neg (by omega)]
    exact iff_of_false (fun hand => by omega) (fun hand => by omega)

theorem extractDrStatus_iff_delivered : Extracts (ascii "id:1 stat:DELIVRD err:0") [] ∧
    extractDrStatus (splitRuns isDelimiter) (ascii "id:1 stat:DELIVRD err:0") [] 3 =
      some (.ok (ascii "DELIVRD")) :=
  ⟨(extractDrStatus_iff split_splitRuns (ascii "id:1 stat:DELIVRD err:0") []).mp ⟨3, by decide⟩, by decide⟩

/-- A report that is only the word `stat` is read behind its only token. -/
theorem not_extractDrStatus : ¬ ∀ split : Bytes → List Bytes, (∀ body, Split isDelimiter body (split body)) →
    ∀ original_body dr_status : Bytes, ∃ n, extractDrStatus split original_body dr_status n =
      some (.ok (statusAfter (split original_body) dr_status)) := by
  intro h
  obtain ⟨-, hend⟩ := (findStatus_eq_some_iff _).mp (h _ split_splitRuns (ascii "stat") [])
  revert hend
  decide

/-- A text of less than 4 GiB has its status extracted unless it is dangling. -/
theorem extracts_iff_of_length {body : Bytes} (h : body.length < 2 ^ 32 - 2) (dr_status : Bytes) :
    Extracts body dr_status ↔ ¬ Dangling body := by
  have hcount := (split_splitRuns (p := isDelimiter) body).length_le
  have hle := statIndex_le (splitRuns isDelimiter body)
  rw [Extracts, if_pos (by omega)]

end SmppGateway.Gateway
