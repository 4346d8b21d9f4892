import Mathlib.Data.List.Basic

/-!
# Prefix codes

A set of words of which none is a proper prefix of another, and none is empty. A stream that is a
concatenation of code words can be cut in one way only.

## What is proved

* `PrefixCode.prefix_of_flatten` — words whose concatenation begins a stream are the first words of
  the stream.
* `PrefixCode.eq_append_of_flatten` — what a stream has after some of its words is the
  concatenation of its other words.
-/

namespace SmppGateway.Foundation

variable {α : Type*}

/-- No code word is empty and none is a proper prefix of another. -/
structure PrefixCode (W : List α → Prop) : Prop where
  ne_nil : ∀ w, W w → w ≠ []
  eq_of_prefix : ∀ v w, W v → W w → v <+: w → v = w

namespace PrefixCode

variable {W : List α → Prop} {vs ws : List (List α)}

/-- Two words that begin the same stream are the same word. -/
theorem eq_of_append (hW : PrefixCode W) {v w s t : List α} (hv : W v) (hw : W w) (h : v ++ s = w ++ t) :
    v = w := by
  rcases List.prefix_or_prefix_of_prefix ⟨s, h⟩ (List.prefix_append w t) with hpre | hpre
  · exact hW.eq_of_prefix v w hv hw hpre
  · exact (hW.eq_of_prefix w v hw hv hpre).symm

/-- **A stream has its words in one order only.** -/
theorem prefix_of_flatten (hW : PrefixCode W) (hvs : ∀ v ∈ vs, W v) (hws : ∀ w ∈ ws, W w)
    (h : vs.flatten <+: ws.flatten) : vs <+: ws := by
  induction vs generalizing ws with
  | nil => exact List.nil_prefix
  | cons v vs ih =>
    have hv : W v := hvs v List.mem_cons_self
    obtain ⟨t, ht⟩ := h
    rw [List.flatten_cons, List.append_assoc] at ht
    cases ws with
    | nil => exact absurd (List.append_eq_nil_iff.mp ht).1 (hW.ne_nil v hv)
    | cons w ws =>
      rw [List.flatten_cons] at ht
      obtain rfl : v = w := hW.eq_of_append hv (hws w List.mem_cons_self) ht
      have hrest : vs.flatten <+: ws.flatten := ⟨t, List.append_cancel_left ht⟩
      obtain ⟨more, hmore⟩ := ih (fun x hx => hvs x (List.mem_cons_of_mem _ hx))
        (fun x hx => hws x (List.mem_cons_of_mem _ hx)) hrest
      exact ⟨more, by rw [List.cons_append, hmore]⟩

/-- **What is left of a stream** after some of its words. -/
theorem eq_append_of_flatten (hW : PrefixCode W) (hvs : ∀ v ∈ vs, W v) (hws : ∀ w ∈ ws, W w)
    {rest : List α} (h : vs.flatten ++ rest = ws.flatten) : ∃ more, ws = vs ++ more ∧ rest = more.flatten := by
  obtain ⟨more, rfl⟩ := hW.prefix_of_flatten hvs hws ⟨rest, h⟩
  refine ⟨more, rfl, ?_⟩
  rw [List.flatten_append] at h
  exact List.append_cancel_left h

end PrefixCode

end SmppGateway.Foundation
