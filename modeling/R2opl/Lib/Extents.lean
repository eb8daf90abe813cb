import Mathlib.Data.List.Basic
import Mathlib.Algebra.Order.Ring.Nat

/-!
# Extents

Items laid out one after the other, each over some positive number of units (characters over
their bytes).  `ended` and `begun` count the items that end within, and that begin before, a
number of units; both are read off the unit at which an item starts.
-/

namespace Extents

variable {α : Type} (width : α → Nat)

/-- The units of the items together. -/
def units (items : List α) : Nat := (items.map width).sum

/-- How many items end within the first `n` units. -/
def ended : List α → Nat → Nat
  | [], _ => 0
  | item :: rest, n => if width item ≤ n then ended rest (n - width item) + 1 else 0

/-- How many items begin before unit `n`. -/
def begun : List α → Nat → Nat
  | [], _ => 0
  | item :: rest, n => if 0 < n then begun rest (n - width item) + 1 else 0

variable {width} {items : List α} {n k : Nat}

@[simp] theorem units_cons (item : α) (rest : List α) :
    units width (item :: rest) = width item + units width rest := List.sum_cons

theorem units_append (left right : List α) :
    units width (left ++ right) = units width left + units width right := by
  unfold units
  rw [List.map_append, List.sum_append]

theorem le_ended_iff (hk : k ≤ items.length) :
    k ≤ ended width items n ↔ units width (items.take k) ≤ n := by
  induction items generalizing n k with
  | nil =>
    obtain rfl := Nat.le_zero.mp hk
    exact ⟨fun _ => Nat.zero_le n, fun _ => Nat.le_refl 0⟩
  | cons item rest ih =>
    cases k with
    | zero => exact ⟨fun _ => Nat.zero_le n, fun _ => Nat.zero_le _⟩
    | succ k =>
      have hrest := ih (n := n - width item) (Nat.le_of_succ_le_succ hk)
      unfold ended
      rw [List.take_succ_cons, units_cons]
      by_cases hfit : width item ≤ n
      · rw [if_pos hfit, Nat.succ_le_succ_iff, hrest, Nat.le_sub_iff_add_le' hfit]
      · rw [if_neg hfit]
        constructor
        · exact fun h => absurd h (Nat.not_succ_le_zero k)
        · exact fun h => absurd (Nat.le_of_add_right_le h) hfit

theorem lt_begun_iff (hpos : ∀ item ∈ items, 0 < width item) (hn : n ≤ units width items)
    (hk : k ≤ items.length) : k < begun width items n ↔ units width (items.take k) < n := by
  induction items generalizing n k with
  | nil =>
    obtain rfl := Nat.le_zero.mp hn
    exact ⟨fun h => absurd h (Nat.not_lt_zero k), fun h => absurd h (Nat.not_lt_zero _)⟩
  | cons item rest ih =>
    rw [units_cons] at hn
    unfold begun
    by_cases hzero : 0 < n
    · rw [if_pos hzero]
      cases k with
      | zero => exact ⟨fun _ => hzero, fun _ => Nat.succ_pos _⟩
      | succ k =>
        rw [Nat.succ_lt_succ_iff, ih (fun other hother => hpos other (List.mem_cons_of_mem item hother))
          (Nat.sub_le_iff_le_add'.mpr hn) (Nat.le_of_succ_le_succ hk), List.take_succ_cons,
          units_cons, Nat.lt_sub_iff_add_lt']
    · rw [if_neg hzero, Nat.eq_zero_of_not_pos hzero]
      exact ⟨fun h => absurd h (Nat.not_lt_zero k), fun h => absurd h (Nat.not_lt_zero _)⟩

theorem ended_le_length : ended width items n ≤ items.length := by
  induction items generalizing n with
  | nil => exact Nat.le_refl 0
  | cons item rest ih =>
    unfold ended
    by_cases hfit : width item ≤ n
    · rw [if_pos hfit]
      exact Nat.succ_le_succ ih
    · rw [if_neg hfit]
      exact Nat.zero_le _

theorem begun_le_length : begun width items n ≤ items.length := by
  induction items generalizing n with
  | nil => exact Nat.le_refl 0
  | cons item rest ih =>
    unfold begun
    by_cases hpos : 0 < n
    · rw [if_pos hpos]
      exact Nat.succ_le_succ ih
    · rw [if_neg hpos]
      exact Nat.zero_le _

theorem ended_lt_iff (hk : k ≤ items.length) :
    ended width items n < k ↔ n < units width (items.take k) := by
  rw [← Nat.not_le, le_ended_iff hk, Nat.not_le]

theorem begun_le_iff (hpos : ∀ item ∈ items, 0 < width item) (hn : n ≤ units width items)
    (hk : k ≤ items.length) : begun width items n ≤ k ↔ n ≤ units width (items.take k) := by
  rw [← Nat.not_lt, lt_begun_iff hpos hn hk, Nat.not_lt]

theorem begun_mono (hpos : ∀ item ∈ items, 0 < width item) {m : Nat}
    (hm : m ≤ units width items) (hnm : n ≤ m) :
    begun width items n ≤ begun width items m := by
  rw [begun_le_iff hpos (hnm.trans hm) begun_le_length]
  exact hnm.trans ((begun_le_iff hpos hm begun_le_length).mp (Nat.le_refl _))

/-- All items but at most one of those that begin also end. -/
theorem begun_le_succ_ended (hpos : ∀ item ∈ items, 0 < width item) (hn : n ≤ units width items) :
    begun width items n ≤ ended width items n + 1 := by
  by_contra hlt
  rw [Nat.not_le] at hlt
  have hlength : ended width items n + 1 ≤ items.length := hlt.le.trans begun_le_length
  have hbefore := (lt_begun_iff hpos hn hlength).mp hlt
  have hafter := (ended_lt_iff hlength).mp (Nat.lt_succ_self (ended width items n))
  exact Nat.lt_asymm hbefore hafter

theorem ended_le_begun (hpos : ∀ item ∈ items, 0 < width item) (hn : n ≤ units width items) :
    ended width items n ≤ begun width items n := by
  by_contra hlt
  rw [Nat.not_le] at hlt
  have hlength : begun width items n + 1 ≤ items.length :=
    Nat.le_trans hlt ended_le_length
  have hfit := (le_ended_iff hlength).mp hlt
  have hreach := (begun_le_iff hpos hn begun_le_length).mp (Nat.le_refl (begun width items n))
  have hunits : units width (items.take (begun width items n + 1)) =
      units width (items.take (begun width items n)) +
        width (items.get ⟨begun width items n, hlength⟩) := by
    rw [List.take_add_one, units_append, List.getElem?_eq_getElem hlength]
    rfl
  have hwidth := hpos _ (List.get_mem items ⟨begun width items n, hlength⟩)
  omega

theorem ended_all (h : units width items ≤ n) : ended width items n = items.length := by
  apply Nat.le_antisymm ended_le_length
  rw [le_ended_iff (Nat.le_refl _), List.take_length]
  exact h

end Extents
