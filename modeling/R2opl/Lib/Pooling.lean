import Mathlib.Algebra.BigOperators.Group.List.Basic

/-!
# Pooled sums

A sum over the rows of a table, collected from parts that hold each row once.
-/

namespace Pooling

variable {M : Type} [AddCommMonoid M] {β : Type}

/-- The parts hold each of the first `n` rows once. -/
def Partition (n : Nat) (parts : List (List Nat)) : Prop :=
  parts.flatten.Perm (List.range n)

/-- What the parts collect is what the whole table holds. -/
theorem Partition.sum {n : Nat} {parts : List (List Nat)} (h : Partition n parts) (f : Nat → M) :
    (parts.map fun part => (part.map f).sum).sum = ((List.range n).map f).sum := by
  have hflatten : ∀ parts : List (List Nat),
      (parts.map fun part => (part.map f).sum).sum = (parts.flatten.map f).sum := by
    intro parts
    induction parts with
    | nil => rfl
    | cons part rest ih =>
      rw [List.map_cons, List.sum_cons, ih, List.flatten_cons, List.map_append, List.sum_append]
  rw [hflatten]
  exact (h.map f).sum_eq

/-- A part that numbers its rows anew collects the same. -/
theorem sum_range_of_rows {part : List Nat} {f g : Nat → M}
    (h : ∀ (i : Nat) (row : Nat), part[i]? = some row → g i = f row) :
    ((List.range part.length).map g).sum = (part.map f).sum := by
  have hvalues : (List.range part.length).map g = part.map f := by
    apply List.ext_getElem
    · rw [List.length_map, List.length_map, List.length_range]
    · intro i hleft hright
      rw [List.getElem_map, List.getElem_map, List.getElem_range]
      exact h i _ (List.getElem?_eq_getElem (by simpa using hright))
  rw [hvalues]

/-- Rows that hold nothing may be left out. -/
theorem sum_filter {rows : List β} {p : β → Bool} {f : β → M}
    (h : ∀ row ∈ rows, p row = false → f row = 0) :
    ((rows.filter p).map f).sum = (rows.map f).sum := by
  induction rows with
  | nil => rfl
  | cons row rest ih =>
    have hrest := ih fun other hother => h other (List.mem_cons_of_mem _ hother)
    cases hrow : p row with
    | false =>
      rw [List.filter_cons_of_neg (by rw [hrow]; exact Bool.false_ne_true), hrest, List.map_cons,
        List.sum_cons, h row List.mem_cons_self hrow, zero_add]
    | true =>
      rw [List.filter_cons_of_pos hrow, List.map_cons, List.sum_cons, hrest, List.map_cons,
        List.sum_cons]

end Pooling
