import Mathlib.Data.List.Basic

/-!
# Joined fields

A text joined from fields at a separator is read back when all but one of its fields are
free of the separator: from the left up to that field, from the right down to it.
-/

namespace Separated

variable {α : Type} {sep : α}

/-- A first field without the separator is read from the left. -/
theorem left_inj {first first' rest rest' : List α} (hfirst : sep ∉ first) (hfirst' : sep ∉ first')
    (h : first ++ sep :: rest = first' ++ sep :: rest') : first = first' ∧ rest = rest' := by
  induction first generalizing first' with
  | nil =>
    cases first' with
    | nil => exact ⟨rfl, (List.cons.inj h).2⟩
    | cons c _ =>
      have hc := (List.cons.inj h).1
      rw [hc] at hfirst'
      exact absurd List.mem_cons_self hfirst'
  | cons c first ih =>
    cases first' with
    | nil =>
      have hc := (List.cons.inj h).1
      rw [hc] at hfirst
      exact absurd List.mem_cons_self hfirst
    | cons c' first' =>
      obtain ⟨rfl, htail⟩ := List.cons.inj h
      obtain ⟨rfl, hrest⟩ := ih (List.not_mem_of_not_mem_cons hfirst)
        (List.not_mem_of_not_mem_cons hfirst') htail
      exact ⟨rfl, hrest⟩

/-- A last field without the separator is read from the right. -/
theorem right_inj {rest rest' last last' : List α} (hlast : sep ∉ last) (hlast' : sep ∉ last')
    (h : rest ++ sep :: last = rest' ++ sep :: last') : rest = rest' ∧ last = last' := by
  have hreverse := congrArg List.reverse h
  simp only [List.reverse_append, List.reverse_cons, List.append_assoc, List.cons_append,
    List.nil_append] at hreverse
  have hparts := left_inj (fun hmem => hlast (List.mem_reverse.mp hmem))
    (fun hmem => hlast' (List.mem_reverse.mp hmem)) hreverse
  exact ⟨List.reverse_inj.mp hparts.2, List.reverse_inj.mp hparts.1⟩

/-- A word whose first letter occurs nowhere else in it ends before a later word with that
    first letter starts. -/
theorem words_apart {a : α} {before word after before' word' after' : List α}
    (hword : ∃ tail, word = a :: tail ∧ a ∉ tail) (hword' : word'.head? = some a)
    (h : before' ++ word' ++ after' = before ++ word ++ after)
    (hlt : before.length < before'.length) : before ++ word <+: before' := by
  obtain ⟨tail, rfl, hfree⟩ := hword
  obtain ⟨tail', rfl⟩ := List.head?_eq_some_iff.mp hword'
  obtain ⟨extra, rfl⟩ : before <+: before' := by
    have hleft : before <+: before ++ (a :: tail ++ after) := List.prefix_append _ _
    have hright : before' <+: before' ++ (a :: tail' ++ after') := List.prefix_append _ _
    rw [← List.append_assoc] at hleft hright
    rw [h] at hright
    exact List.prefix_of_prefix_length_le hleft hright (Nat.le_of_lt hlt)
  simp only [List.append_assoc, List.append_cancel_left_eq] at h
  rcases List.append_eq_append_iff.mp h with ⟨middle, hsplit, hmiddle⟩ | ⟨middle, rfl, _⟩
  · cases middle with
    | nil =>
      rw [List.append_nil] at hsplit
      exact hsplit ▸ List.prefix_refl _
    | cons c middle =>
      -- the later word would start inside the tail of the first
      obtain ⟨rfl, _⟩ := List.cons.inj hmiddle
      cases extra with
      | nil =>
        rw [List.append_nil] at hlt
        exact absurd hlt (Nat.lt_irrefl _)
      | cons d extra =>
        obtain ⟨_, rfl⟩ := List.cons.inj hsplit
        exact absurd (List.mem_append_right _ List.mem_cons_self) hfree
  · exact ⟨middle, by rw [List.append_assoc]⟩

end Separated
