import Mathlib.Data.List.Flatten

/-!
# Delimited texts

Tables as text: a line for each row, ended by `eol`, in which `sep` stands between two fields.

## What is proved

* `undelimited_of_mem_readTable` — what is read has neither delimiter in a field, whatever the text is.
* `readTable_lines`, `readTable_cons` — lines are read one by one.
* `splitOn_intercalate_iff` — a line is read back exactly if no field has the separator in it.
-/

namespace SmppGateway.Foundation

variable {α : Type*} [DecidableEq α] {sep eol : α}

/-- A field in which neither delimiter stands. -/
def Undelimited (sep eol : α) (field : List α) : Prop := sep ∉ field ∧ eol ∉ field

instance (sep eol : α) (field : List α) : Decidable (Undelimited sep eol field) := inferInstanceAs (Decidable (_ ∧ _))

/-- The rows of a text and their fields. What stands behind the last `eol` is no row. -/
def readTable (sep eol : α) (text : List α) : List (List (List α)) :=
  (text.splitOn eol).dropLast.map (List.splitOn sep)

/-! ### What a text is split into -/

/-- A piece is a part of the text, and the delimiter does not stand in it. -/
theorem mem_splitOn {piece text : List α} (h : piece ∈ text.splitOn sep) : sep ∉ piece ∧ piece ⊆ text := by
  induction text generalizing piece with
  | nil =>
    rw [List.splitOn_nil, List.mem_singleton] at h
    subst h
    exact ⟨List.not_mem_nil, List.nil_subset _⟩
  | cons c text ih =>
    rw [List.splitOn_cons_eq_if_modifyHead] at h
    split at h
    · rcases List.mem_cons.mp h with rfl | hrest
      · exact ⟨List.not_mem_nil, List.nil_subset _⟩
      · exact ⟨(ih hrest).1, List.subset_cons_of_subset c (ih hrest).2⟩
    · rename_i hc
      obtain ⟨first, others, hsplit⟩ := List.exists_cons_of_ne_nil (List.splitOn_ne_nil sep text)
      rw [hsplit, List.modifyHead_cons] at h
      rw [hsplit] at ih
      rcases List.mem_cons.mp h with rfl | hrest
      · obtain ⟨hclean, hsubset⟩ := ih List.mem_cons_self
        refine ⟨fun hmem => ?_, List.cons_subset_cons c hsubset⟩
        rcases List.mem_cons.mp hmem with rfl | hmem
        · exact hc (beq_self_eq_true _)
        · exact hclean hmem
      · obtain ⟨hclean, hsubset⟩ := ih (List.mem_cons_of_mem _ hrest)
        exact ⟨hclean, List.subset_cons_of_subset c hsubset⟩

/-- **A line is read back** exactly if no field has the separator in it. -/
theorem splitOn_intercalate_iff {fields : List (List α)} (hne : fields ≠ []) :
    ([sep].intercalate fields).splitOn sep = fields ↔ ∀ field ∈ fields, sep ∉ field :=
  ⟨fun h _ hfield => (mem_splitOn (h ▸ hfield)).1, fun h => List.splitOn_intercalate sep h hne⟩

omit [DecidableEq α] in
theorem mem_intercalate {c : α} {fields : List (List α)} :
    c ∈ [sep].intercalate fields → c = sep ∨ ∃ field ∈ fields, c ∈ field := by
  induction fields with
  | nil => exact fun h => absurd h List.not_mem_nil
  | cons field fields ih =>
    intro h
    by_cases hnil : fields = []
    · rw [hnil, List.intercalate_singleton] at h
      exact .inr ⟨field, List.mem_cons_self, h⟩
    · rw [List.intercalate_cons_of_ne_nil hnil, List.append_assoc] at h
      rcases List.mem_append.mp h with hfield | h
      · exact .inr ⟨field, List.mem_cons_self, hfield⟩
      rcases List.mem_append.mp h with hsep | hrest
      · exact .inl (List.mem_singleton.mp hsep)
      · obtain hsep | ⟨g, hg, hc⟩ := ih hrest
        · exact .inl hsep
        · exact .inr ⟨g, List.mem_cons_of_mem _ hg, hc⟩

/-! ### Reading -/

/-- Nothing that is read has a delimiter in it. -/
theorem undelimited_of_mem_readTable {text field : List α} {row : List (List α)} (hrow : row ∈ readTable sep eol text)
    (hfield : field ∈ row) : Undelimited sep eol field := by
  obtain ⟨line, hline, rfl⟩ := List.mem_map.mp hrow
  obtain ⟨heol, -⟩ := mem_splitOn (List.dropLast_subset _ hline)
  obtain ⟨hsep, hsubset⟩ := mem_splitOn hfield
  exact ⟨hsep, fun hmem => heol (hsubset hmem)⟩

theorem readTable_cons {line : List α} (h : eol ∉ line) (text : List α) :
    readTable sep eol (line ++ [eol] ++ text) = line.splitOn sep :: readTable sep eol text := by
  rw [readTable, List.append_assoc, List.singleton_append, List.splitOn_append_cons_self_of_not_mem h,
    List.dropLast_cons_of_ne_nil (List.splitOn_ne_nil _ _)]
  rfl

/-- **Lines** are read one by one. -/
theorem readTable_lines {lines : List (List α)} (h : ∀ line ∈ lines, eol ∉ line) :
    readTable sep eol (lines.flatMap (· ++ [eol])) = lines.map (List.splitOn sep) := by
  induction lines with
  | nil => rfl
  | cons line lines ih =>
    rw [List.flatMap_cons, readTable_cons (h line List.mem_cons_self),
      ih fun l hl => h l (List.mem_cons_of_mem _ hl)]
    rfl

end SmppGateway.Foundation
