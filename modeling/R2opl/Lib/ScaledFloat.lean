import Mathlib.Algebra.Order.Field.Basic
import R2opl.Lib.ExactFloat

/-!
# Scaling by a positive number

A positive finite factor keeps infinities and NaN, so that it may be taken out of any sum.
-/

namespace Flt

variable {K : Type} [Field K] [LinearOrder K] {c d : K}

theorem inf_mul_pos (negative : Bool) (hc : 0 < c) :
    (inf negative : Flt K) * fin c = inf negative := by
  change scaleInf c negative = inf negative
  unfold scaleInf
  rw [if_neg hc.ne', if_pos hc]

theorem add_mul_pos (a b : Flt K) (hc : 0 < c) : (a + b) * fin c = a * fin c + b * fin c := by
  cases a with
  | fin x =>
    cases b with
    | fin y => rw [fin_add, fin_mul, fin_mul, fin_mul, fin_add, add_mul]
    | inf negative =>
      rw [inf_mul_pos negative hc, fin_mul]
      exact inf_mul_pos negative hc
    | nan => rfl
  | inf left =>
    cases b with
    | fin y =>
      rw [inf_mul_pos left hc, fin_mul]
      exact inf_mul_pos left hc
    | inf right =>
      rw [inf_mul_pos left hc, inf_mul_pos right hc]
      change (if left = right then inf left else nan) * fin c =
        if left = right then inf left else nan
      split
      · exact inf_mul_pos left hc
      · rfl
    | nan =>
      rw [inf_mul_pos left hc]
      rfl
  | nan =>
    cases b with
    | fin y => rfl
    | inf right =>
      rw [inf_mul_pos right hc]
      rfl
    | nan => rfl

theorem sum_mul_pos {α : Type} (xs : List α) (f : α → Flt K) (hc : 0 < c) :
    (xs.map f).sum * fin c = (xs.map fun x => f x * fin c).sum := by
  induction xs with
  | nil =>
    rw [List.map_nil, List.sum_nil, zero_eq, fin_mul, zero_mul]
    rfl
  | cons x xs ih =>
    rw [List.map_cons, List.sum_cons, add_mul_pos _ _ hc, ih, List.map_cons, List.sum_cons]

variable [IsStrictOrderedRing K]

/-- Dividing by a positive number is scaling. -/
theorem div_pos_eq (a : Flt K) (hc : 0 < c) : a / fin c = a * fin c⁻¹ := by
  cases a with
  | fin x => rw [fin_div x hc.ne', fin_mul, div_eq_mul_inv]
  | inf negative =>
    rw [inf_mul_pos negative (inv_pos.mpr hc)]
    exact if_pos hc.le
  | nan => rfl

theorem mul_mul_pos (a : Flt K) (hc : 0 < c) (hd : 0 < d) :
    a * fin c * fin d = a * fin (c * d) := by
  cases a with
  | fin x => rw [fin_mul, fin_mul, fin_mul, mul_assoc]
  | inf negative => rw [inf_mul_pos _ hc, inf_mul_pos _ hd, inf_mul_pos _ (mul_pos hc hd)]
  | nan => rfl

end Flt
