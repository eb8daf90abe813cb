import Mathlib.Algebra.Order.Field.Basic
import Mathlib.Algebra.BigOperators.Group.List.Basic
import Mathlib.Algebra.Order.BigOperators.Group.List

/-!
# Floating point without rounding

Numbers of an ordered field together with the two infinities and NaN.  Special
values propagate as in IEEE arithmetic; finite results are exact.  On finite
operands every operation is the field's own, which is what the simp set says.
-/

instance atLeastTwo_two : Nat.AtLeastTwo 2 := ⟨Nat.le_refl 2⟩

inductive Flt (K : Type) where
  | fin (x : K)
  | inf (negative : Bool)
  | nan
deriving DecidableEq, Repr

namespace Flt

variable {K : Type}

instance [ToString K] : ToString (Flt K) where
  toString
    | fin x => toString x
    | inf negative => if negative then "-inf" else "inf"
    | nan => "nan"

def isFinite : Flt K → Bool
  | fin _ => true
  | _ => false

@[simp] theorem isFinite_fin (x : K) : (fin x).isFinite = true := rfl

theorem isFinite_iff {a : Flt K} : a.isFinite = true ↔ ∃ x, a = fin x := by
  cases a with
  | fin x => simp
  | inf negative => simp [isFinite]
  | nan => simp [isFinite]

/-! ### Ring operations -/

section Ring

variable [Field K]

instance : Zero (Flt K) := ⟨fin 0⟩

instance : One (Flt K) := ⟨fin 1⟩

instance : Add (Flt K) where
  add
    | fin x, fin y => fin (x + y)
    | fin _, inf negative => inf negative
    | inf negative, fin _ => inf negative
    | inf left, inf right => if left = right then inf left else nan
    | _, _ => nan

instance : Neg (Flt K) where
  neg
    | fin x => fin (-x)
    | inf negative => inf (!negative)
    | nan => nan

instance : Sub (Flt K) := ⟨fun a b => a + -b⟩

/-- A mask value as a number. -/
def ofBool (b : Bool) : Flt K := if b then fin 1 else fin 0

@[simp] theorem zero_eq : (0 : Flt K) = fin 0 := rfl

@[simp] theorem one_eq : (1 : Flt K) = fin 1 := rfl

@[simp] theorem fin_add (x y : K) : fin x + fin y = fin (x + y) := rfl

@[simp] theorem neg_fin (x : K) : -fin x = fin (-x) := rfl

@[simp] theorem fin_sub (x y : K) : fin x - fin y = fin (x - y) := by
  rw [sub_eq_add_neg]
  rfl

/-- Sums with infinities do not depend on their order either. -/
instance : AddCommMonoid (Flt K) where
  add_assoc := by
    rintro (x | (_ | _) | _) (y | (_ | _) | _) (z | (_ | _) | _) <;>
      first | rfl | exact congrArg fin (add_assoc x y z)
  zero_add := by
    rintro (x | _ | _)
    · exact congrArg fin (zero_add x)
    · rfl
    · rfl
  add_zero := by
    rintro (x | _ | _)
    · exact congrArg fin (add_zero x)
    · rfl
    · rfl
  add_comm := by
    rintro (x | (_ | _) | _) (y | (_ | _) | _) <;>
      first | rfl | exact congrArg fin (add_comm x y)
  nsmul := nsmulRec

@[simp] theorem ofBool_true : (ofBool true : Flt K) = fin 1 := rfl

@[simp] theorem ofBool_false : (ofBool false : Flt K) = fin 0 := rfl

theorem sum_map_fin {α : Type} (values : List α) (f : α → K) :
    (values.map fun value => fin (f value)).sum = fin (values.map f).sum := by
  induction values with
  | nil => rfl
  | cons value rest ih => rw [List.map_cons, List.sum_cons, ih, List.map_cons, List.sum_cons,
      fin_add]

/-- The sum of mask values counts the true ones. -/
theorem sum_ofBool {α : Type} (values : List α) (p : α → Bool) :
    (values.map fun value => (ofBool (p value) : Flt K)).sum =
      fin ((values.filter p).length : K) := by
  induction values with
  | nil => simp
  | cons value rest ih =>
    rw [List.map_cons, List.sum_cons, ih, List.filter_cons]
    cases p value with
    | false => simp
    | true => simp [add_comm]

end Ring

/-! ### Comparisons -/

section Order

variable [LinearOrder K]

/-- Comparisons with NaN are false. -/
def lt : Flt K → Flt K → Bool
  | fin x, fin y => decide (x < y)
  | fin _, inf negative => !negative
  | inf negative, fin _ => negative
  | inf left, inf right => left && !right
  | _, _ => false

def eq : Flt K → Flt K → Bool
  | nan, _ => false
  | _, nan => false
  | a, b => decide (a = b)

def le (a b : Flt K) : Bool := lt a b || eq a b

/-- `torch.clamp_min`: NaN stays NaN. -/
def clampMin (a low : Flt K) : Flt K := if lt a low then low else a

def clampMax (a high : Flt K) : Flt K := if lt high a then high else a

/-- `torch.clamp(a, min=low, max=high)`. -/
def clamp (a low high : Flt K) : Flt K := clampMax (clampMin a low) high

@[simp] theorem lt_fin (x y : K) : lt (fin x) (fin y) = decide (x < y) := rfl

@[simp] theorem eq_fin (x y : K) : eq (fin x) (fin y) = decide (x = y) := by
  simp [eq]

@[simp] theorem le_fin (x y : K) : le (fin x) (fin y) = decide (x ≤ y) := by
  rw [le, lt_fin, eq_fin, ← Bool.decide_or]
  exact decide_eq_decide.mpr le_iff_lt_or_eq.symm

theorem eq_iff {a b : Flt K} : eq a b = true ↔ a = b ∧ a ≠ nan := by
  cases a <;> cases b <;> simp [eq]

theorem clampMin_fin (x low : K) : clampMin (fin x) (fin low) = fin (max x low) := by
  by_cases h : x < low
  · simp [clampMin, h, max_eq_right h.le]
  · simp [clampMin, h, max_eq_left (not_lt.mp h)]

theorem clampMax_fin (x high : K) : clampMax (fin x) (fin high) = fin (min x high) := by
  by_cases h : high < x
  · simp [clampMax, h, min_eq_right h.le]
  · simp [clampMax, h, min_eq_left (not_lt.mp h)]

theorem clamp_fin (x low high : K) :
    clamp (fin x) (fin low) (fin high) = fin (min (max x low) high) := by
  rw [clamp, clampMin_fin, clampMax_fin]

end Order

/-! ### Products, quotients and means -/

section OrderedField

variable [Field K] [LinearOrder K]

/-- A finite factor of an infinity decides the sign of the product. -/
def scaleInf (x : K) (negative : Bool) : Flt K :=
  if x = 0 then nan else if 0 < x then inf negative else inf (!negative)

instance : Mul (Flt K) where
  mul
    | fin x, fin y => fin (x * y)
    | fin x, inf negative => scaleInf x negative
    | inf negative, fin y => scaleInf y negative
    | inf left, inf right => inf (left != right)
    | _, _ => nan

/-- Zeros carry no sign here: `x / 0` takes its sign from `x`. -/
instance : Div (Flt K) where
  div
    | fin x, fin y =>
        if y = 0 then (if x = 0 then nan else inf (decide (x < 0))) else fin (x / y)
    | fin _, inf _ => fin 0
    | inf negative, fin y => if 0 ≤ y then inf negative else inf (!negative)
    | _, _ => nan

def abs (a : Flt K) : Flt K := if lt a (fin 0) then -a else a

def mean (values : List (Flt K)) : Flt K := values.sum / fin (values.length : K)

/-- The mean, or zero when there is nothing to average. -/
def meanOrZero (values : List (Flt K)) : Flt K := if values = [] then 0 else mean values

@[simp] theorem fin_mul (x y : K) : fin x * fin y = fin (x * y) := rfl

theorem fin_div (x : K) {y : K} (hy : y ≠ 0) : fin x / fin y = fin (x / y) :=
  if_neg hy

/-- The mean of mask values is the share of true ones. -/
theorem mean_ofBool [CharZero K] {α : Type} {values : List α} (hne : values ≠ [])
    (p : α → Bool) : mean (values.map fun value => (ofBool (p value) : Flt K)) =
      fin (((values.filter p).length : K) / values.length) := by
  have hlength : (values.length : K) ≠ 0 := by
    rw [Nat.cast_ne_zero]
    exact (List.length_pos_iff.mpr hne).ne'
  rw [mean, sum_ofBool, List.length_map, fin_div _ hlength]

end OrderedField

end Flt
