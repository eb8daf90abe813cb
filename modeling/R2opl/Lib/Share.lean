import Mathlib.Algebra.Order.Field.Basic
import Mathlib.Data.Fintype.Perm
import Mathlib.Data.List.Perm.Basic

/-!
# Shares

The share of the members of a list that satisfy a predicate, as a number of an
ordered field; and counts over an index range, which no reordering of the
indices changes.
-/

namespace Share

variable {K : Type} [Field K] [LinearOrder K] [IsStrictOrderedRing K] {α : Type}

omit [LinearOrder K] [IsStrictOrderedRing K] in
/-- `|{x ∈ members | p x}| / |members|`. -/
def share (K : Type) [Field K] (p : α → Bool) (members : List α) : K :=
  ((members.filter p).length : K) / members.length

theorem share_lt_one {p : α → Bool} {members : List α} {x : α} (hx : x ∈ members)
    (hp : p x = false) : share K p members < 1 := by
  have hpos : (0 : K) < members.length :=
    Nat.cast_pos.mpr (List.length_pos_iff.mpr (List.ne_nil_of_mem hx))
  rw [share, div_lt_one hpos, Nat.cast_lt]
  refine Nat.lt_of_le_of_ne (List.length_filter_le _ _) ?_
  intro heq
  have hall := List.length_filter_eq_length_iff.mp heq x hx
  rw [hp] at hall
  cases hall

theorem share_le_one (p : α → Bool) (members : List α) : share K p members ≤ 1 := by
  apply div_le_one_of_le₀
  · exact Nat.cast_le.mpr (List.length_filter_le _ _)
  · exact Nat.cast_nonneg _

omit [IsStrictOrderedRing K] [LinearOrder K] in
theorem share_eq_one [CharZero K] {p : α → Bool} {members : List α} {x : α} (hx : x ∈ members)
    (hall : ∀ y ∈ members, p y = true) : share K p members = 1 := by
  have hne : (members.length : K) ≠ 0 :=
    Nat.cast_ne_zero.mpr (List.length_pos_iff.mpr (List.ne_nil_of_mem hx)).ne'
  rw [share, List.filter_eq_self.mpr hall, div_self hne]

omit [IsStrictOrderedRing K] [LinearOrder K] in
theorem share_congr {p q : α → Bool} {members : List α} (h : ∀ x ∈ members, p x = q x) :
    share K p members = share K q members := by
  rw [share, share, List.filter_congr h]

theorem share_pos {p : α → Bool} {members : List α} {x : α} (hx : x ∈ members)
    (hp : p x = true) : 0 < share K p members := by
  have hmem : x ∈ members.filter p := List.mem_filter.mpr ⟨hx, hp⟩
  apply div_pos
  · exact Nat.cast_pos.mpr (List.length_pos_iff.mpr (List.ne_nil_of_mem hmem))
  · exact Nat.cast_pos.mpr (List.length_pos_iff.mpr (List.ne_nil_of_mem hx))

/-- A permutation that keeps the first `n` indices among themselves reorders the
    range. -/
theorem map_range_perm {n : Nat} (source : Equiv.Perm Nat)
    (hkeeps : ∀ i, source i < n ↔ i < n) :
    ((List.range n).map source).Perm (List.range n) := by
  apply (List.perm_ext_iff_of_nodup (List.nodup_range.map source.injective)
    List.nodup_range).mpr
  intro i
  rw [List.mem_map, List.mem_range]
  constructor
  · rintro ⟨j, hj, rfl⟩
    exact (hkeeps j).mpr (List.mem_range.mp hj)
  · intro hi
    refine ⟨source.symm i, List.mem_range.mpr ?_, source.apply_symm_apply i⟩
    rw [← hkeeps, source.apply_symm_apply]
    exact hi

theorem length_filter_range_comp {n : Nat} (source : Equiv.Perm Nat)
    (hkeeps : ∀ i, source i < n ↔ i < n) (p : Nat → Bool) :
    ((List.range n).filter fun i => p (source i)).length =
      ((List.range n).filter p).length := by
  have hmap : ((List.range n).map source).filter p =
      ((List.range n).filter fun i => p (source i)).map source := by
    rw [List.filter_map]
    rfl
  rw [← List.length_map source, ← hmap]
  exact ((map_range_perm source hkeeps).filter p).length_eq

/-- A statement about every index below `n` can be read through the permutation. -/
theorem forall_lt_comp {n : Nat} (source : Equiv.Perm Nat)
    (hkeeps : ∀ i, source i < n ↔ i < n) (P : Nat → Prop) :
    (∀ i < n, P (source i)) ↔ ∀ i < n, P i := by
  constructor
  · intro h i hi
    have hback : source.symm i < n := by
      rw [← hkeeps, source.apply_symm_apply]
      exact hi
    simpa using h (source.symm i) hback
  · intro h i hi
    exact h (source i) ((hkeeps i).mpr hi)

theorem exists_lt_comp {n : Nat} (source : Equiv.Perm Nat)
    (hkeeps : ∀ i, source i < n ↔ i < n) (P : Nat → Prop) :
    (∃ i < n, P (source i)) ↔ ∃ i < n, P i := by
  have h := not_congr (forall_lt_comp source hkeeps fun i => ¬ P i)
  simpa using h

omit [LinearOrder K] [IsStrictOrderedRing K] in
/-- Shares over a range do not depend on the order of the indices. -/
theorem share_filter_range_comp {n : Nat} (source : Equiv.Perm Nat)
    (hkeeps : ∀ i, source i < n ↔ i < n) (p q : Nat → Bool) :
    share K (fun i => q (source i)) ((List.range n).filter fun i => p (source i)) =
      share K q ((List.range n).filter p) := by
  rw [share, share, List.filter_filter, List.filter_filter,
    length_filter_range_comp source hkeeps p,
    length_filter_range_comp source hkeeps fun i => q i && p i]

end Share
