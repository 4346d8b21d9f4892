import Mathlib.Data.List.Infix

/-!
# Longest prefixes

The longest prefix of a list that satisfies a condition, as a list search and by recursion on the list.

## What is proved

* `longestPrefix_eq_some_iff`, `longestPrefix_eq_none_iff` — what it finds.
* `longestPrefix_cons` — how it goes on from the first element.
* `longestPrefix_eq_dropLast` — how it goes back from the last one.
-/

namespace SmppGateway.Foundation

variable {α : Type*} {p : List α → Bool} {l q : List α}

/-- The longest prefix of a list that satisfies a condition. -/
def longestPrefix (p : List α → Bool) (l : List α) : Option (List α) := l.inits.reverse.find? p

@[simp]
theorem longestPrefix_nil (p : List α → Bool) :
    longestPrefix p [] = if p [] then some [] else none := by
  cases h : p [] <;> simp [longestPrefix, h]

/-- The longer ones all begin with the first element. -/
theorem longestPrefix_cons (p : List α → Bool) (x : α) (l : List α) :
    longestPrefix p (x :: l) =
      ((longestPrefix (fun q => p (x :: q)) l).map (x :: ·)).or (if p [] then some [] else none) := by
  have hlast : List.find? p [[]] = if p [] then some [] else none := by
    cases h : p [] <;> simp [h]
  rw [longestPrefix, List.inits_cons, List.reverse_cons, List.find?_append, ← List.map_reverse,
    List.find?_map, hlast]
  rfl

theorem longestPrefix_eq_none_iff : longestPrefix p l = none ↔ ∀ q, q <+: l → p q = false := by
  simp [longestPrefix, List.find?_eq_none]

/-- **What is found** is a prefix that satisfies the condition, and no longer one does. -/
theorem longestPrefix_eq_some_iff :
    longestPrefix p l = some q ↔ q <+: l ∧ p q = true ∧ ∀ r, r <+: l → p r = true → r.length ≤ q.length := by
  induction l generalizing p q with
  | nil =>
    rw [longestPrefix_nil]
    constructor
    · intro h
      obtain ⟨hp, heq⟩ := Option.ite_none_right_eq_some.mp h
      obtain rfl := Option.some.inj heq
      exact ⟨List.nil_prefix, hp, fun r hr _ => hr.length_le⟩
    · rintro ⟨hq, hp, -⟩
      obtain rfl := List.prefix_nil.mp hq
      rw [if_pos hp]
  | cons x l ih =>
    rw [longestPrefix_cons]
    cases hrest : longestPrefix (fun q => p (x :: q)) l with
    | none =>
      have hnone := longestPrefix_eq_none_iff.mp hrest
      have hnil {r : List α} (hr : r <+: x :: l) (hp : p r = true) : r = [] := by
        rcases List.prefix_cons_iff.mp hr with rfl | ⟨s, rfl, hs⟩
        · rfl
        · exact absurd hp (by rw [hnone s hs]; decide)
      simp only [Option.map_none, Option.none_or]
      constructor
      · intro h
        obtain ⟨hp, heq⟩ := Option.ite_none_right_eq_some.mp h
        obtain rfl := Option.some.inj heq
        exact ⟨List.nil_prefix, hp, fun r hr hpr => by rw [hnil hr hpr]⟩
      · rintro ⟨hq, hp, -⟩
        obtain rfl := hnil hq hp
        rw [if_pos hp]
    | some r =>
      obtain ⟨hr, hp, hmax⟩ := ih.mp hrest
      have hbest : ∀ r', r' <+: x :: l → p r' = true → r'.length ≤ (x :: r).length := by
        intro r' hr' hp'
        rcases List.prefix_cons_iff.mp hr' with rfl | ⟨s, rfl, hs⟩
        · exact Nat.zero_le _
        · exact Nat.succ_le_succ (hmax s hs hp')
      have hcons : x :: r <+: x :: l := (List.prefix_cons_inj x).mpr hr
      simp only [Option.map_some, Option.some_or, Option.some.injEq]
      constructor
      · rintro rfl
        exact ⟨hcons, hp, hbest⟩
      · rintro ⟨hq, hpq, hmaxq⟩
        have hle := hbest q hq hpq
        have hge := hmaxq (x :: r) hcons hp
        have hlen : (x :: r).length = q.length := Nat.le_antisymm hge hle
        exact (List.prefix_of_prefix_length_le hcons hq (Nat.le_of_eq hlen)).eq_of_length hlen

/-- It is the whole list, or is found without the last element. -/
theorem longestPrefix_eq_dropLast (p : List α → Bool) (l : List α) :
    longestPrefix p l = if p l then some l else longestPrefix p l.dropLast := by
  by_cases hp : p l = true
  · rw [if_pos hp]
    exact longestPrefix_eq_some_iff.mpr ⟨List.prefix_rfl, hp, fun r hr _ => hr.length_le⟩
  · rw [if_neg hp]
    have hshorter {r : List α} (hr : r <+: l) (hpr : p r = true) : r <+: l.dropLast := by
      rcases List.eq_nil_or_concat l with rfl | ⟨l', x, rfl⟩
      · exact hr
      · rw [List.concat_eq_append, List.prefix_concat_iff] at hr
        rcases hr with rfl | hr
        · exact absurd hpr (by rwa [List.concat_eq_append] at hp)
        · simpa using hr
    cases h : longestPrefix p l.dropLast with
    | none =>
      refine longestPrefix_eq_none_iff.mpr fun q hq => Bool.eq_false_iff.mpr fun hpq => ?_
      exact Bool.eq_false_iff.mp (longestPrefix_eq_none_iff.mp h q (hshorter hq hpq)) hpq
    | some q =>
      obtain ⟨hq, hpq, hmax⟩ := longestPrefix_eq_some_iff.mp h
      exact longestPrefix_eq_some_iff.mpr
        ⟨hq.trans (List.dropLast_prefix l), hpq, fun r hr hpr => hmax r (hshorter hr hpr) hpr⟩

end SmppGateway.Foundation
