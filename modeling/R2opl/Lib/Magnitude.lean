import Mathlib.Data.Rat.Lemmas
import Mathlib.Algebra.Order.Field.Rat
import Mathlib.Tactic.Ring
import Mathlib.Tactic.Linarith

/-!
# The magnitude of rationals

A rational is below a bound when the absolute values of its numerator and of its denominator
are.  Bounds of operands give bounds of what the arithmetic operations make of them.
-/

structure Below (bound : ℕ) (q : ℚ) : Prop where
  num : q.num.natAbs < bound
  den : q.den < bound

namespace Below

variable {bound bound' : ℕ} {p q : ℚ}

theorem mono (h : Below bound q) (hle : bound ≤ bound') : Below bound' q :=
  ⟨lt_of_lt_of_le h.num hle, lt_of_lt_of_le h.den hle⟩

theorem one_lt (h : Below bound q) : 1 < bound := lt_of_le_of_lt q.den_pos h.den

theorem natCast {n : ℕ} (hn : n < bound) (hbound : 1 < bound) : Below bound n where
  num := by rwa [Rat.num_natCast, Int.natAbs_natCast]
  den := by rwa [Rat.den_natCast]

/-- A quotient in lowest terms is no larger than it is written. -/
theorem mkRat {a : ℤ} {b : ℕ} (hb : b ≠ 0) (ha : a.natAbs < bound) (hbound : b < bound) :
    Below bound (mkRat a b) := by
  have hb' : (b : ℤ) ≠ 0 := Int.natCast_ne_zero.mpr hb
  rw [Rat.mkRat_eq_divInt]
  constructor
  · by_cases hzero : a = 0
    · rw [hzero, Rat.zero_divInt, Rat.num_zero]
      exact lt_of_le_of_lt (Nat.zero_le b) hbound
    · have hdvd := Int.natAbs_dvd_natAbs.mpr (Rat.num_dvd a hb')
      exact lt_of_le_of_lt (Nat.le_of_dvd (Int.natAbs_pos.mpr hzero) hdvd) ha
  · have hdvd := Int.natCast_dvd_natCast.mp (Rat.den_dvd a b)
    exact lt_of_le_of_lt (Nat.le_of_dvd (Nat.pos_of_ne_zero hb) hdvd) hbound

theorem neg (h : Below bound q) : Below bound (-q) where
  num := by
    rw [Rat.num_neg_eq_neg_num, Int.natAbs_neg]
    exact h.num
  den := h.den

theorem inv (h : Below bound q) : Below bound q⁻¹ := by
  by_cases hzero : q = 0
  · rw [hzero, inv_zero]
    exact hzero ▸ h
  · have hnum : q.num ≠ 0 := Rat.num_ne_zero.mpr hzero
    constructor
    · rw [Rat.num_inv, Int.natAbs_mul, Int.natAbs_sign_of_ne_zero hnum, one_mul,
        Int.natAbs_natCast]
      exact h.den
    · rw [Rat.den_inv, if_neg hnum]
      exact h.num

theorem mul (hp : Below bound p) (hq : Below bound' q) : Below (bound * bound') (p * q) := by
  rw [Rat.mul_def']
  apply mkRat (Nat.mul_ne_zero p.den_nz q.den_nz)
  · rw [Int.natAbs_mul]
    exact Nat.mul_lt_mul'' hp.num hq.num
  · exact Nat.mul_lt_mul'' hp.den hq.den

theorem div (hp : Below bound p) (hq : Below bound' q) : Below (bound * bound') (p / q) := by
  rw [div_eq_mul_inv]
  exact hp.mul hq.inv

theorem add (hp : Below bound p) (hq : Below bound' q) :
    Below (2 * (bound * bound')) (p + q) := by
  have hleft : p.num.natAbs * q.den < bound * bound' := Nat.mul_lt_mul'' hp.num hq.den
  have hright : q.num.natAbs * p.den < bound * bound' := by
    rw [mul_comm bound]
    exact Nat.mul_lt_mul'' hq.num hp.den
  have hden : p.den * q.den < bound * bound' := Nat.mul_lt_mul'' hp.den hq.den
  rw [Rat.add_def']
  apply mkRat (Nat.mul_ne_zero p.den_nz q.den_nz)
  · have hsum := Int.natAbs_add_le (p.num * q.den) (q.num * p.den)
    rw [Int.natAbs_mul, Int.natAbs_mul, Int.natAbs_natCast, Int.natAbs_natCast] at hsum
    omega
  · omega

theorem sub (hp : Below bound p) (hq : Below bound' q) :
    Below (2 * (bound * bound')) (p - q) := by
  rw [sub_eq_add_neg]
  exact hp.add hq.neg

/-- Powers up to `limit` of a number below `bound`. -/
theorem pow_lt {x limit n : ℕ} (hx : x < bound) (hbound : 1 < bound) (hn : n ≤ limit)
    (hlimit : limit ≠ 0) : x ^ n < bound ^ limit := by
  calc x ^ n ≤ (bound - 1) ^ n := Nat.pow_le_pow_left (by omega) n
    _ ≤ (bound - 1) ^ limit := Nat.pow_le_pow_right (by omega) hn
    _ < bound ^ limit := Nat.pow_lt_pow_left (by omega) hlimit

theorem pow (h : Below bound q) {n limit : ℕ} (hn : n ≤ limit) (hlimit : limit ≠ 0) :
    Below (bound ^ limit) (q ^ n) where
  num := by
    rw [Rat.num_pow, Int.natAbs_pow]
    exact pow_lt h.num h.one_lt hn hlimit
  den := by
    rw [Rat.den_pow]
    exact pow_lt h.den h.one_lt hn hlimit

theorem zpow (h : Below bound q) {n : ℤ} {limit : ℕ} (hn : n.natAbs ≤ limit)
    (hlimit : limit ≠ 0) : Below (bound ^ limit) (q ^ n) := by
  cases n with
  | ofNat n =>
    rw [Int.ofNat_eq_natCast, zpow_natCast]
    exact h.pow hn hlimit
  | negSucc n =>
    rw [zpow_negSucc]
    exact (h.pow hn hlimit).inv

end Below
