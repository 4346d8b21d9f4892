import Mathlib.Data.List.DropRight
import Mathlib.Data.List.TakeWhile

/-!
# Splitting

How a text is split into tokens where every run of delimiters separates two of them.

## The model

`Split` says what the tokens of a text are, and `splitRuns` computes them. A delimiter at an end of the text
has an empty token behind or before it, so there is always one token more than there are runs.

## What is proved

* `split_splitRuns`, `Split.eq_splitRuns` — a text has exactly the tokens that are computed.
* `Split.append` — what a last token is behind a delimiter.
* `exists_last_token` — every text has a last token.
-/

namespace SmppGateway.Foundation

variable {α : Type*} (p : α → Bool)

/-- The tokens of a text between the longest runs of delimiters. -/
inductive Split : List α → List (List α) → Prop
  /-- A text without a delimiter is one token. -/
  | last {token : List α} (h : ∀ c ∈ token, p c = false) : Split token [token]
  /-- A token, a run of delimiters and the text behind them. -/
  | step {token run rest : List α} {tokens : List (List α)} (h : ∀ c ∈ token, p c = false) (hne : run ≠ [])
    (hrun : ∀ c ∈ run, p c = true) (hrest : ∀ c ∈ rest.head?, p c = false) (htokens : Split rest tokens) :
    Split (token ++ (run ++ rest)) (token :: tokens)

/-- The tokens, from right to left. -/
def splitRuns : List α → List (List α)
  | [] => [[]]
  | c :: s =>
    if p c then if (s.head?.map p).getD false then splitRuns s else [] :: splitRuns s
    else (splitRuns s).modifyHead (c :: ·)

variable {p}

theorem splitRuns_append_of_clean {token : List α} (h : ∀ c ∈ token, p c = false) (s : List α) :
    splitRuns p (token ++ s) = (splitRuns p s).modifyHead (token ++ ·) := by
  induction token with
  | nil => exact (congrFun List.modifyHead_id _).symm
  | cons c token ih =>
    rw [List.cons_append, splitRuns, h c List.mem_cons_self, if_neg Bool.false_ne_true,
      ih fun d hd => h d (List.mem_cons_of_mem c hd), List.modifyHead_modifyHead]
    rfl

theorem splitRuns_append_run {run rest : List α} (hne : run ≠ []) (hrun : ∀ c ∈ run, p c = true)
    (hrest : ∀ c ∈ rest.head?, p c = false) : splitRuns p (run ++ rest) = [] :: splitRuns p rest := by
  induction run with
  | nil => exact absurd rfl hne
  | cons c run ih =>
    rw [List.cons_append, splitRuns, if_pos (hrun c List.mem_cons_self)]
    cases run with
    | nil =>
      have hhead : (rest.head?.map p).getD false = false := by
        cases rest with
        | nil => rfl
        | cons d rest => exact hrest d rfl
      rw [List.nil_append, hhead, if_neg Bool.false_ne_true]
    | cons d run =>
      have hd : p d = true := hrun d (by simp)
      rw [ih (List.cons_ne_nil d run) fun e he => hrun e (List.mem_cons_of_mem c he)]
      exact if_pos hd

theorem Split.eq_splitRuns {text : List α} {tokens : List (List α)} (h : Split p text tokens) :
    tokens = splitRuns p text := by
  induction h with
  | @last token h =>
    have happend := splitRuns_append_of_clean h []
    rw [List.append_nil] at happend
    rw [happend]
    simp [splitRuns]
  | step h hne hrun hrest _ ih =>
    rw [splitRuns_append_of_clean h, splitRuns_append_run hne hrun hrest, ih]
    simp

/-- A run of delimiters at the beginning may be longer. -/
theorem Split.cons_delimiter {c d : α} {s : List α} {tokens : List (List α)} (hc : p c = true) (hd : p d = true)
    (h : Split p (d :: s) tokens) : Split p (c :: d :: s) tokens := by
  generalize htext : d :: s = text at h ⊢
  cases h with
  | last h => exact absurd hd (by rw [h d (htext ▸ List.mem_cons_self)]; exact Bool.false_ne_true)
  | @step token run rest tokens h hne hrun hrest htokens =>
    cases token with
    | nil =>
      have hlonger : ∀ e ∈ c :: run, p e = true := List.forall_mem_cons.mpr ⟨hc, hrun⟩
      exact Split.step h (List.cons_ne_nil c run) hlonger hrest htokens
    | cons e token =>
      obtain ⟨rfl, -⟩ := List.cons.inj htext
      exact absurd hd (by rw [h d List.mem_cons_self]; exact Bool.false_ne_true)

theorem split_splitRuns (text : List α) : Split p text (splitRuns p text) := by
  induction text with
  | nil => exact Split.last (List.forall_mem_nil _)
  | cons c s ih =>
    rw [splitRuns]
    generalize splitRuns p s = tokens at ih ⊢
    split
    next hc =>
      have hrun : ∀ d ∈ [c], p d = true := fun d hd => by rwa [List.mem_singleton.mp hd]
      split
      next hnext =>
        cases s with
        | nil => cases hnext
        | cons d s => exact ih.cons_delimiter hc hnext
      next hnext =>
        have hrest : ∀ d ∈ s.head?, p d = false := by
          intro d hd
          rw [Option.mem_def.mp hd] at hnext
          exact Bool.eq_false_iff.mpr hnext
        have hempty : ∀ d ∈ ([] : List α), p d = false := List.forall_mem_nil _
        exact Split.step hempty (List.cons_ne_nil c []) hrun hrest ih
    next hc =>
      have hclean {token : List α} (h : ∀ d ∈ token, p d = false) : ∀ d ∈ c :: token, p d = false :=
        List.forall_mem_cons.mpr ⟨Bool.eq_false_iff.mpr hc, h⟩
      cases ih with
      | last h => exact Split.last (hclean h)
      | step h hne hrun hrest htokens => exact Split.step (hclean h) hne hrun hrest htokens

/-- There is at most one token more than there are characters. -/
theorem Split.length_le {text : List α} {tokens : List (List α)} (h : Split p text tokens) :
    tokens.length ≤ text.length + 1 := by
  induction h with
  | last => exact Nat.le_add_left 1 _
  | step h hne hrun hrest htokens ih =>
    have hpos := List.length_pos_of_ne_nil hne
    rw [List.length_append, List.length_append, List.length_cons]
    omega

/-! ### The last token -/

theorem Split.ne_nil {text : List α} {tokens : List (List α)} (h : Split p text tokens) : tokens ≠ [] := by
  cases h <;> exact List.cons_ne_nil _ _

/-- **A word behind a delimiter** is the last token, in the place of the empty one behind the delimiter. -/
theorem Split.append {text word : List α} {tokens : List (List α)} (h : Split p text tokens)
    (hlast : ∀ c ∈ text.getLast?, p c = true) (hword : ∀ c ∈ word, p c = false) :
    Split p (text ++ word) (tokens.dropLast ++ [word]) := by
  induction h with
  | @last token h =>
    have hnil : token = [] := by
      by_contra hne
      have hdelim := hlast _ (List.getLast?_eq_some_getLast hne)
      rw [h _ (List.getLast_mem hne)] at hdelim
      cases hdelim
    rw [hnil]
    exact Split.last hword
  | @step token run rest tokens h hne hrun hrest htokens ih =>
    have htail : ∀ c ∈ rest.getLast?, p c = true := by
      intro c hc
      refine hlast c ?_
      rw [List.getLast?_append, List.getLast?_append, Option.mem_def.mp hc]
      rfl
    have hhead : ∀ c ∈ (rest ++ word).head?, p c = false := by
      cases rest with
      | nil => exact fun c hc => hword c (List.mem_of_head? hc)
      | cons d rest => exact hrest
    rw [List.dropLast_cons_of_ne_nil htokens.ne_nil, List.append_assoc, List.append_assoc]
    exact Split.step h hne hrun hhead (ih htail)

/-- **Every text** ends in a token behind a delimiter or at the beginning. -/
theorem exists_last_token (p : α → Bool) (text : List α) : ∃ before word, text = before ++ word ∧
    (∀ c ∈ before.getLast?, p c = true) ∧ ∀ c ∈ word, p c = false := by
  refine ⟨text.rdropWhile (!p ·), text.rtakeWhile (!p ·), List.rdropWhile_append_rtakeWhile.symm, ?_, ?_⟩
  · intro c hc
    have hne : text.rdropWhile (!p ·) ≠ [] := by
      intro hnil
      rw [hnil] at hc
      cases hc
    have hlast := List.rdropWhile_last_not _ text hne
    rw [List.getLast?_eq_some_getLast hne] at hc
    rw [← Option.some_inj.mp hc]
    simpa using hlast
  · intro c hc
    simpa using List.mem_rtakeWhile_imp hc

end SmppGateway.Foundation
