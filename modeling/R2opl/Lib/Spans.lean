import Mathlib.Data.List.Basic
import Mathlib.Order.Lattice
import Mathlib.Order.MinMax

/-!
# Spans

Half-open spans of a linear order, and lists of spans that stand apart: none is empty, and
each ends before the next one starts.  A span joins such a list at its end, or extends the last
span of it; what is covered grows by the span.
-/

namespace Spans

variable {α : Type} [LinearOrder α]

def Contains (span : α × α) (x : α) : Prop := span.1 ≤ x ∧ x < span.2

/-- Some span of the list contains `x`. -/
def Covered (spans : List (α × α)) (x : α) : Prop := ∃ span ∈ spans, Contains span x

/-- The spans are sorted, disjoint and not touching, and none is empty. -/
structure Apart (spans : List (α × α)) : Prop where
  nonempty : ∀ span ∈ spans, span.1 < span.2
  apart : spans.Pairwise fun left right => left.2 < right.1

variable {spans left right : List (α × α)} {span last : α × α} {stop x : α}

theorem covered_append : Covered (left ++ right) x ↔ Covered left x ∨ Covered right x := by
  unfold Covered
  simp only [List.mem_append, or_and_right, exists_or]

theorem covered_singleton : Covered [span] x ↔ Contains span x := by
  unfold Covered
  simp

theorem covered_congr (h : ∀ span, span ∈ left ↔ span ∈ right) :
    Covered left x ↔ Covered right x := by
  unfold Covered
  simp only [h]

/-- An empty span contains nothing. -/
theorem not_contains_of_le (h : span.2 ≤ span.1) : ¬ Contains span x := by
  rintro ⟨hstart, hstop⟩
  exact absurd (lt_of_lt_of_le hstop h) (not_lt.mpr hstart)

/-- A span that starts in another one or at its end extends it. -/
theorem contains_extend (hstart : last.1 ≤ span.1) (hjoin : span.1 ≤ last.2) :
    Contains (last.1, max last.2 span.2) x ↔ Contains last x ∨ Contains span x := by
  unfold Contains
  rw [lt_max_iff]
  constructor
  · rintro ⟨hlast, hx | hx⟩
    · exact Or.inl ⟨hlast, hx⟩
    · rcases lt_or_ge x last.2 with hlt | hge
      · exact Or.inl ⟨hlast, hlt⟩
      · exact Or.inr ⟨le_trans hjoin hge, hx⟩
  · rintro (⟨hlast, hx⟩ | ⟨hspan, hx⟩)
    · exact ⟨hlast, Or.inl hx⟩
    · exact ⟨le_trans hstart hspan, Or.inr hx⟩

theorem apart_nil : Apart ([] : List (α × α)) := ⟨nofun, .nil⟩

theorem apart_singleton (h : span.1 < span.2) : Apart [span] where
  nonempty := by
    intro other hother
    rw [List.mem_singleton.mp hother]
    exact h
  apart := List.pairwise_singleton _ _

theorem apart_append_singleton :
    Apart (spans ++ [span]) ↔
      Apart spans ∧ span.1 < span.2 ∧ ∀ other ∈ spans, other.2 < span.1 := by
  constructor
  · rintro ⟨hnonempty, hapart⟩
    obtain ⟨hspans, _, hbefore⟩ := List.pairwise_append.mp hapart
    exact ⟨⟨fun other hother => hnonempty other (List.mem_append_left _ hother), hspans⟩,
      hnonempty span (List.mem_append_right _ List.mem_cons_self),
      fun other hother => hbefore other hother span List.mem_cons_self⟩
  · rintro ⟨⟨hnonempty, hapart⟩, hspan, hbefore⟩
    constructor
    · intro other hother
      rcases List.mem_append.mp hother with hmem | hmem
      · exact hnonempty other hmem
      · rw [List.mem_singleton.mp hmem]
        exact hspan
    · refine List.pairwise_append.mpr ⟨hapart, List.pairwise_singleton _ _, ?_⟩
      intro other hother next hnext
      rw [List.mem_singleton.mp hnext]
      exact hbefore other hother

/-- A span after the last one joins the list. -/
theorem Apart.append (h : Apart (spans ++ [last])) (hspan : span.1 < span.2)
    (hafter : last.2 < span.1) : Apart (spans ++ [last] ++ [span]) := by
  refine apart_append_singleton.mpr ⟨h, hspan, ?_⟩
  obtain ⟨_, hlast, hbefore⟩ := apart_append_singleton.mp h
  intro other hother
  rcases List.mem_append.mp hother with hmem | hmem
  · exact lt_trans (lt_trans (hbefore other hmem) hlast) hafter
  · rw [List.mem_singleton.mp hmem]
    exact hafter

/-- The last span may end later. -/
theorem Apart.extend (h : Apart (spans ++ [last])) (hstop : last.2 ≤ stop) :
    Apart (spans ++ [(last.1, stop)]) := by
  obtain ⟨hspans, hlast, hbefore⟩ := apart_append_singleton.mp h
  exact apart_append_singleton.mpr ⟨hspans, lt_of_lt_of_le hlast hstop, hbefore⟩

end Spans
