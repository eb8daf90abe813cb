import Mathlib.Algebra.BigOperators.Ring.List
import Mathlib.Algebra.Order.BigOperators.Group.Finset
import Mathlib.Algebra.Order.Field.Basic
import Mathlib.Tactic.Linarith

/-!
# Exponential, logarithm and normalised weights

An exponential and a logarithm on an ordered field, and what sums of exponentials need of
them: weights shifted by their `logSumExp` add up to one, those at distinct places to at most
one, and the divergence of one distribution from a part of another is not negative.
-/

structure Exponentials (K : Type) [Field K] [LinearOrder K] where
  exp : K → K
  log : K → K
  exp_pos : ∀ x, 0 < exp x
  exp_add : ∀ x y, exp (x + y) = exp x * exp y
  exp_log : ∀ x, 0 < x → exp (log x) = x
  add_one_le_exp : ∀ x, x + 1 ≤ exp x

namespace Exponentials

variable {K : Type} [Field K] [LinearOrder K] (e : Exponentials K)

/-- The logarithm of the sum of the exponentials. -/
def logSumExp (values : List K) : K := e.log (values.map e.exp).sum

theorem exp_sub (x y : K) : e.exp (x - y) = e.exp x / e.exp y := by
  rw [eq_div_iff (e.exp_pos y).ne', ← e.exp_add, sub_add_cancel]

variable [IsStrictOrderedRing K]

theorem sum_exp_pos {values : List K} (hne : values ≠ []) : 0 < (values.map e.exp).sum := by
  cases values with
  | nil => exact absurd rfl hne
  | cons value rest =>
    rw [List.map_cons, List.sum_cons]
    apply add_pos_of_pos_of_nonneg (e.exp_pos value)
    apply List.sum_nonneg
    intro weight hweight
    obtain ⟨other, _, rfl⟩ := List.mem_map.mp hweight
    exact (e.exp_pos other).le

theorem exp_logSumExp {values : List K} (hne : values ≠ []) :
    e.exp (e.logSumExp values) = (values.map e.exp).sum :=
  e.exp_log _ (e.sum_exp_pos hne)

/-- Shifted by their `logSumExp` the exponentials add up to one. -/
theorem sum_exp_normalised {values : List K} (hne : values ≠ []) :
    (values.map fun value => e.exp (value - e.logSumExp values)).sum = 1 := by
  have hshift : (fun value => e.exp (value - e.logSumExp values)) =
      fun value => e.exp value * (e.exp (e.logSumExp values))⁻¹ := by
    funext value
    rw [e.exp_sub, div_eq_mul_inv]
  rw [hshift, List.sum_map_mul_right, e.exp_logSumExp hne]
  exact mul_inv_cancel₀ (e.sum_exp_pos hne).ne'

/-- The shifted exponentials at distinct places add up to one at most. -/
theorem sum_exp_normalised_le {n : Nat} {value : Nat → K} {places : List Nat}
    (hnodup : places.Nodup) (hplaces : ∀ place ∈ places, place < n) (hn : n ≠ 0) :
    (places.map fun place =>
      e.exp (value place - e.logSumExp ((List.range n).map value))).sum ≤ 1 := by
  have hne : (List.range n).map value ≠ [] := by
    rw [Ne, List.map_eq_nil_iff, List.range_eq_nil]
    exact hn
  rw [← e.sum_exp_normalised hne, List.map_map, ← List.sum_toFinset _ hnodup,
    ← List.sum_toFinset _ List.nodup_range]
  apply Finset.sum_le_sum_of_subset_of_nonneg
  · intro place hplace
    rw [List.mem_toFinset] at hplace ⊢
    exact List.mem_range.mpr (hplaces place hplace)
  · intro place _ _
    exact (e.exp_pos _).le

/-- The tangent of the exponential, at a weight and its logarithm. -/
theorem exp_le_exp_add (x y : K) : e.exp x ≤ e.exp y + e.exp x * (x - y) := by
  have htangent := mul_le_mul_of_nonneg_left (e.add_one_le_exp (y - x)) (e.exp_pos x).le
  rw [← e.exp_add, add_sub_cancel] at htangent
  linarith

/-- **Gibbs' inequality** for a distribution and a part of another one. -/
theorem divergence_nonneg {ι : Type} {places : List ι} {x y : ι → K}
    (hx : (places.map fun place => e.exp (x place)).sum = 1)
    (hy : (places.map fun place => e.exp (y place)).sum ≤ 1) :
    0 ≤ (places.map fun place => e.exp (x place) * (x place - y place)).sum := by
  have hsum : (places.map fun place => e.exp (x place)).sum ≤
      (places.map fun place =>
        e.exp (y place) + e.exp (x place) * (x place - y place)).sum :=
    List.sum_le_sum fun place _ => e.exp_le_exp_add (x place) (y place)
  rw [hx, List.sum_map_add] at hsum
  linarith

end Exponentials
