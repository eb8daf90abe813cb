import Mathlib.Algebra.Order.Group.Defs
import Mathlib.Algebra.BigOperators.Group.List.Basic
import Mathlib.Data.List.Count
import Mathlib.Data.List.Sort

/-!
# Differencing

Two vectors are added the one against the order of the other: the largest entry of the one
to the smallest of the other.  The entries of the sum differ by no more than those of the two
vectors did, and no entry is left empty that could be filled.
-/

namespace Differencing

section Spread

variable {G : Type} [AddCommGroup G] [LinearOrder G] {bound : G} {left right : List G}

/-- The entries differ by at most `bound`. -/
def Within (bound : G) (entries : List G) : Prop := ∀ x ∈ entries, ∀ y ∈ entries, x - y ≤ bound

theorem Within.perm (h : Within bound left) (hperm : right.Perm left) : Within bound right :=
  fun x hx y hy => h x (hperm.mem_iff.mp hx) y (hperm.mem_iff.mp hy)

/-- An entry of the sum of two vectors, the one falling and the other rising, is larger than one
    behind it by what it is larger in the first vector, at most. -/
theorem Within.zipWith [IsOrderedAddMonoid G] (hleft : left.Pairwise (· ≥ ·))
    (hright : right.Pairwise (· ≤ ·)) (hboundLeft : Within bound left) (hboundRight : Within bound right) :
    Within bound (List.zipWith (· + ·) left right) := by
  have hpair {i j : Nat} (hij : i ≤ j) (hi : i < left.length) (hj : j < left.length)
      (hi' : i < right.length) (hj' : j < right.length) :
      left[i] + right[i] - (left[j] + right[j]) ≤ bound ∧
        left[j] + right[j] - (left[i] + right[i]) ≤ bound := by
    have hfalls : left[j] ≤ left[i] := by
      rcases hij.lt_or_eq with hlt | rfl
      · exact List.pairwise_iff_getElem.mp hleft i j hi hj hlt
      · exact le_refl _
    have hrises : right[i] ≤ right[j] := by
      rcases hij.lt_or_eq with hlt | rfl
      · exact List.pairwise_iff_getElem.mp hright i j hi' hj' hlt
      · exact le_refl _
    constructor
    · calc left[i] + right[i] - (left[j] + right[j])
          = (left[i] - left[j]) + (right[i] - right[j]) := add_sub_add_comm _ _ _ _
        _ ≤ left[i] - left[j] := by simpa using hrises
        _ ≤ bound := hboundLeft _ (List.getElem_mem hi) _ (List.getElem_mem hj)
    · calc left[j] + right[j] - (left[i] + right[i])
          = (left[j] - left[i]) + (right[j] - right[i]) := add_sub_add_comm _ _ _ _
        _ ≤ right[j] - right[i] := by simpa using hfalls
        _ ≤ bound := hboundRight _ (List.getElem_mem hj') _ (List.getElem_mem hi')
  intro x hx y hy
  obtain ⟨i, hi, rfl⟩ := List.mem_iff_getElem.mp hx
  obtain ⟨j, hj, rfl⟩ := List.mem_iff_getElem.mp hy
  rw [List.length_zipWith, lt_min_iff] at hi hj
  simp only [List.getElem_zipWith]
  rcases Nat.le_total i j with hij | hij
  · exact (hpair hij hi.1 hj.1 hi.2 hj.2).1
  · exact (hpair hij hj.1 hi.1 hj.2 hi.2).2

end Spread

/-- Where the filled entries of the one are first and those of the other last, as many are filled
    of the sum as both fill, up to all of them. -/
theorem countP_zip_or {α β : Type} {p : α → Bool} {q : β → Bool} {left : List α} {right : List β}
    (hlength : left.length = right.length) (hleft : left.Pairwise fun a b => p b → p a)
    (hright : right.Pairwise fun a b => q a → q b) :
    (left.zip right).countP (fun entry => p entry.1 || q entry.2) =
      min left.length (left.countP p + right.countP q) := by
  induction left generalizing right with
  | nil => simp
  | cons a left ih =>
    cases right with
    | nil => simp at hlength
    | cons b right =>
      rw [List.length_cons, List.length_cons, Nat.add_right_cancel_iff] at hlength
      rw [List.pairwise_cons] at hleft hright
      have hrest := ih hlength hleft.2 hright.2
      have hfew : right.countP q ≤ left.length := hlength ▸ List.countP_le_length
      simp only [List.zip_cons_cons, List.countP_cons, hrest, List.length_cons]
      cases ha : p a with
      | true =>
        cases hb : q b with
        | true =>
          -- all entries behind a filled one of the rising vector are filled
          have hall : right.countP q = right.length :=
            List.countP_eq_length.mpr fun x hx => hright.1 x hx hb
          simp only [Bool.or_self, if_true]
          omega
        | false =>
          simp only [Bool.or_false, if_true, Bool.false_eq_true, if_false]
          omega
      | false =>
        have hnone : left.countP p = 0 := by
          rw [List.countP_eq_zero]
          intro x hx hpx
          rw [hleft.1 x hx hpx] at ha
          cases ha
        simp only [Bool.false_or, Bool.false_eq_true, if_false]
        split <;> omega

end Differencing
