import Mathlib.Data.Int.Log
import Mathlib.Algebra.Order.Floor.Ring
import Mathlib.Tactic.Linarith
import Mathlib.Tactic.Ring
import Mathlib.Tactic.NormNum
import R2opl.Lib.ExactFloat

/-!
# Binary floating point

A binary format with gradual underflow.  A number is rounded to the nearest multiple of its
quantum, a tie to the even multiple, and becomes an infinity where the result would need a larger
exponent than the format has.
-/

/-! ### Rounding to integers -/

section HalfEven

variable {K : Type} [Field K] [LinearOrder K] [FloorRing K]

/-- The nearest integer, of two equally near ones the even one. -/
def halfEven (x : K) : ℤ :=
  if Int.fract x < 1 / 2 then ⌊x⌋
  else if 1 / 2 < Int.fract x then ⌊x⌋ + 1
  else if Even ⌊x⌋ then ⌊x⌋
  else ⌊x⌋ + 1

variable [IsStrictOrderedRing K] {x : K} {m : ℤ}

theorem halfEven_le_of_lt (h : x < m + 1 / 2) : halfEven x ≤ m := by
  have hfract : (⌊x⌋ : K) + Int.fract x = x := Int.floor_add_fract x
  have hpos : 0 ≤ Int.fract x := Int.fract_nonneg x
  have hfloor : ⌊x⌋ ≤ m := by
    have hlt : (⌊x⌋ : K) < m + 1 := by linarith
    exact Int.lt_add_one_iff.mp (by exact_mod_cast hlt)
  have hbelow : ¬ Int.fract x < 1 / 2 → ⌊x⌋ + 1 ≤ m := by
    intro hhalf
    have hlt : (⌊x⌋ : K) < m := by linarith
    exact_mod_cast hlt
  unfold halfEven
  split
  · exact hfloor
  · next hhalf =>
    split
    · exact hbelow hhalf
    · split
      · exact hfloor
      · exact hbelow hhalf

theorem lt_halfEven_of_lt (h : m + 1 / 2 < x) : m < halfEven x := by
  have hfract : (⌊x⌋ : K) + Int.fract x = x := Int.floor_add_fract x
  have hone : Int.fract x < 1 := Int.fract_lt_one x
  have hfloor : m ≤ ⌊x⌋ := by
    have hlt : (m : K) < ⌊x⌋ + 1 := by linarith
    exact Int.lt_add_one_iff.mp (by exact_mod_cast hlt)
  have habove : ¬ 1 / 2 < Int.fract x → m < ⌊x⌋ := by
    intro hhalf
    have hlt : (m : K) < ⌊x⌋ := by linarith
    exact_mod_cast hlt
  unfold halfEven
  split
  · next hhalf => exact habove (not_lt.mpr hhalf.le)
  · split
    · exact Int.lt_add_one_of_le hfloor
    · next hhalf =>
      split
      · exact habove hhalf
      · exact Int.lt_add_one_of_le hfloor

theorem halfEven_tie (m : ℤ) : halfEven ((m : K) + 1 / 2) = if Even m then m else m + 1 := by
  have hfloor : ⌊(m : K) + 1 / 2⌋ = m := by
    rw [Int.floor_intCast_add, add_eq_left]
    norm_num
  have hfract : Int.fract ((m : K) + 1 / 2) = 1 / 2 := by
    rw [Int.fract, hfloor]
    ring
  unfold halfEven
  rw [hfract, hfloor, if_neg (lt_irrefl _), if_neg (lt_irrefl _)]

theorem halfEven_le_iff_of_even (hm : Even m) : halfEven x ≤ m ↔ x ≤ m + 1 / 2 := by
  constructor
  · intro hle
    by_contra hlt
    exact absurd (lt_halfEven_of_lt (not_le.mp hlt)) (not_lt.mpr hle)
  · intro hle
    rcases hle.lt_or_eq with hlt | rfl
    · exact halfEven_le_of_lt hlt
    · rw [halfEven_tie, if_pos hm]

theorem halfEven_le_iff_of_odd (hm : ¬ Even m) : halfEven x ≤ m ↔ x < m + 1 / 2 := by
  constructor
  · intro hle
    rcases lt_trichotomy x (m + 1 / 2) with hlt | rfl | hgt
    · exact hlt
    · rw [halfEven_tie, if_neg hm] at hle
      omega
    · exact absurd (lt_halfEven_of_lt hgt) (not_lt.mpr hle)
  · exact halfEven_le_of_lt

theorem halfEven_le (h : x ≤ m) : halfEven x ≤ m := by
  apply halfEven_le_of_lt
  linarith

theorem le_halfEven (h : (m : K) ≤ x) : m ≤ halfEven x := by
  have hlt : ((m - 1 : ℤ) : K) + 1 / 2 < x := by
    push_cast
    linarith
  have := lt_halfEven_of_lt hlt
  omega

end HalfEven

/-! ### Formats -/

/-- A format by the digits of its significand, the exponent of its smallest positive number and
    the exponent of the first power of two above its numbers. -/
structure BinaryFormat where
  precision : ℕ
  leastExponent : ℤ
  limitExponent : ℤ
  two_le_precision : 2 ≤ precision
  one_normal : leastExponent + precision ≤ 1
  one_below_limit : precision + 2 ≤ limitExponent

namespace BinaryFormat

variable (f : BinaryFormat) {K : Type} [Field K] [LinearOrder K] [FloorRing K]
  [IsStrictOrderedRing K]

/-- The exponent of the last digit that is kept of a positive number. -/
def quantumExponent (x : K) : ℤ := max (Int.log 2 x + 1 - f.precision) f.leastExponent

def quantum (x : K) : K := 2 ^ f.quantumExponent x

/-- Rounding of a number that is not negative, as if there were no largest one. -/
def roundMagnitude (x : K) : K := halfEven (x / f.quantum x) * f.quantum x

def roundValue (x : K) : K := if x < 0 then -f.roundMagnitude (-x) else f.roundMagnitude x

def round : Flt K → Flt K
  | .fin x =>
      if |f.roundValue x| < 2 ^ f.limitExponent then .fin (f.roundValue x) else .inf (decide (x < 0))
  | .inf negative => .inf negative
  | .nan => .nan

/-- The largest number of the format. -/
def largest : K := (2 ^ f.precision - 1) * 2 ^ (f.limitExponent - f.precision)

/-- Half way from the largest number to the next power of two: what rounds to an infinity starts
    here. -/
def overflow : K := (2 ^ f.precision - 1 / 2) * 2 ^ (f.limitExponent - f.precision)

/-- A number of the format. -/
def Represents (x : K) : Prop := f.roundValue x = x

/-! ### The quantum -/

section Quantum

variable {f} {x : K} {k : ℤ}

omit [IsStrictOrderedRing K] in
theorem leastExponent_le_quantum : f.leastExponent ≤ f.quantumExponent x := le_max_right _ _

theorem quantum_pos : 0 < f.quantum x := zpow_pos two_pos _

/-- A number up to a power of two has a quantum that divides the power. -/
theorem quantumExponent_le (hx : 0 < x) (hle : x ≤ 2 ^ k) (hk : f.leastExponent ≤ k) :
    f.quantumExponent x ≤ k := by
  have hlog : Int.log 2 x ≤ k := by
    by_contra hlt
    have hpow : (2 : K) ^ (k + 1) ≤ x := by
      have := (Int.zpow_le_iff_le_log (R := K) one_lt_two hx).mpr (not_le.mp hlt)
      exact_mod_cast this
    have hstrict : (2 : K) ^ k < 2 ^ (k + 1) := zpow_lt_zpow_right₀ one_lt_two (lt_add_one k)
    exact absurd (hpow.trans hle) (not_le.mpr hstrict)
  have hprecision : (2 : ℤ) ≤ f.precision := by exact_mod_cast f.two_le_precision
  exact max_le (by omega) hk

/-- In the binade of a normal power of two the quantum is that of the power. -/
theorem quantumExponent_eq (hle : 2 ^ k ≤ x) (hlt : x < 2 ^ (k + 1))
    (hk : f.leastExponent ≤ k + 1 - f.precision) :
    f.quantumExponent x = k + 1 - f.precision := by
  have hx : 0 < x := lt_of_lt_of_le (zpow_pos two_pos k) hle
  have hlow : k ≤ Int.log 2 x :=
    (Int.zpow_le_iff_le_log (R := K) one_lt_two hx).mp (by exact_mod_cast hle)
  have hhigh : Int.log 2 x < k + 1 :=
    (Int.lt_zpow_iff_log_lt (R := K) one_lt_two hx).mp (by exact_mod_cast hlt)
  unfold quantumExponent
  rw [show Int.log 2 x = k by omega]
  exact max_eq_left hk

theorem pow_eq_mul_quantum (hk : f.quantumExponent x ≤ k) :
    (2 : K) ^ k = ((2 ^ (k - f.quantumExponent x).toNat : ℤ) : K) * f.quantum x := by
  unfold quantum
  push_cast
  rw [← zpow_natCast, ← zpow_add₀ two_ne_zero, Int.toNat_of_nonneg (by omega), sub_add_cancel]

/-- A multiple of the quantum is not crossed by rounding. -/
theorem roundMagnitude_le_mul {m : ℤ} (h : x ≤ m * f.quantum x) :
    f.roundMagnitude x ≤ m * f.quantum x := by
  apply mul_le_mul_of_nonneg_right _ quantum_pos.le
  have hle := halfEven_le ((div_le_iff₀ quantum_pos).mpr h)
  exact_mod_cast hle

theorem mul_le_roundMagnitude {m : ℤ} (h : m * f.quantum x ≤ x) :
    m * f.quantum x ≤ f.roundMagnitude x := by
  apply mul_le_mul_of_nonneg_right _ quantum_pos.le
  have hle := le_halfEven ((le_div_iff₀ quantum_pos).mpr h)
  exact_mod_cast hle

end Quantum

/-! ### Bounds of the rounded number -/

section Bounds

variable {f} {x : K} {k : ℤ}

@[simp] theorem roundMagnitude_zero : f.roundMagnitude (0 : K) = 0 := by
  have hzero : halfEven (0 : K) = 0 := by
    unfold halfEven
    rw [Int.fract_zero, Int.floor_zero, if_pos (by norm_num)]
  unfold roundMagnitude
  rw [zero_div, hzero, Int.cast_zero, zero_mul]

theorem roundMagnitude_nonneg (hx : 0 ≤ x) : 0 ≤ f.roundMagnitude x := by
  have h := mul_le_roundMagnitude (f := f) (x := x) (m := 0) (by rwa [Int.cast_zero, zero_mul])
  rwa [Int.cast_zero, zero_mul] at h

theorem roundMagnitude_le_pow (hx : 0 ≤ x) (hle : x ≤ 2 ^ k) (hk : f.leastExponent ≤ k) :
    f.roundMagnitude x ≤ 2 ^ k := by
  rcases hx.eq_or_lt with rfl | hpos
  · rw [roundMagnitude_zero]
    exact (zpow_pos two_pos k).le
  · have hpow := pow_eq_mul_quantum (quantumExponent_le hpos hle hk)
    rw [hpow] at hle ⊢
    exact roundMagnitude_le_mul hle

theorem pow_le_roundMagnitude (hle : 2 ^ k ≤ x) (hk : f.leastExponent ≤ k) :
    2 ^ k ≤ f.roundMagnitude x := by
  have hx : 0 < x := lt_of_lt_of_le (zpow_pos two_pos k) hle
  have hlog : k ≤ Int.log 2 x :=
    (Int.zpow_le_iff_le_log (R := K) one_lt_two hx).mp (by exact_mod_cast hle)
  -- the power at the head of the binade of `x` is a multiple of its quantum
  have hquantum : f.quantumExponent x ≤ Int.log 2 x := by
    have hprecision : (2 : ℤ) ≤ f.precision := by exact_mod_cast f.two_le_precision
    exact max_le (by omega) (hk.trans hlog)
  have hhead : (2 : K) ^ Int.log 2 x ≤ x := by
    exact_mod_cast Int.zpow_log_le_self (R := K) one_lt_two hx
  have hpow := pow_eq_mul_quantum hquantum
  rw [hpow] at hhead
  calc (2 : K) ^ k ≤ 2 ^ Int.log 2 x := zpow_le_zpow_right₀ one_le_two hlog
    _ ≤ f.roundMagnitude x := by
      rw [hpow]
      exact mul_le_roundMagnitude hhead

/-- A number is rounded to zero up to half of the smallest positive number. -/
theorem roundMagnitude_pos_iff (hx : 0 ≤ x) :
    0 < f.roundMagnitude x ↔ 2 ^ (f.leastExponent - 1) < x := by
  have hhalf : (2 : K) ^ f.leastExponent = 2 * 2 ^ (f.leastExponent - 1) := by
    rw [← zpow_one_add₀ two_ne_zero, add_sub_cancel]
  have hpos : (0 : K) < 2 ^ (f.leastExponent - 1) := zpow_pos two_pos _
  rcases hx.eq_or_lt with rfl | hpositive
  · rw [roundMagnitude_zero]
    exact iff_of_false (lt_irrefl _) (not_lt.mpr hpos.le)
  · by_cases hleast : x < 2 ^ f.leastExponent
    · have hexponent : f.quantumExponent x = f.leastExponent :=
        le_antisymm (quantumExponent_le hpositive hleast.le le_rfl) leastExponent_le_quantum
      have hquantum : f.quantum x = 2 * 2 ^ (f.leastExponent - 1) := by
        unfold quantum
        rw [hexponent, hhalf]
      have hsign : 0 < f.roundMagnitude x ↔ ¬ halfEven (x / f.quantum x) ≤ 0 := by
        unfold roundMagnitude
        rw [mul_pos_iff_of_pos_right quantum_pos, Int.cast_pos, not_le]
      rw [hsign, halfEven_le_iff_of_even Even.zero, not_le, Int.cast_zero, zero_add,
        lt_div_iff₀ quantum_pos, hquantum, one_div, inv_mul_cancel_left₀ two_ne_zero]
    · have hle : 2 ^ f.leastExponent ≤ x := not_lt.mp hleast
      have hround := pow_le_roundMagnitude (f := f) hle le_rfl
      constructor
      · intro _
        linarith
      · intro _
        linarith

/-- Above a normal power of two, half a quantum is rounded down to the power. -/
theorem roundMagnitude_le_pow_iff (hx : 0 ≤ x) (hk : f.leastExponent ≤ k + 1 - f.precision) :
    f.roundMagnitude x ≤ 2 ^ k ↔ x ≤ 2 ^ k + 2 ^ (k - f.precision) := by
  have hprecision : (2 : ℤ) ≤ f.precision := by exact_mod_cast f.two_le_precision
  have hpos : (0 : K) < 2 ^ (k - f.precision) := zpow_pos two_pos _
  rcases lt_or_ge x (2 ^ k) with hbelow | hpow
  · apply iff_of_true
    · exact roundMagnitude_le_pow hx hbelow.le (by omega)
    · linarith
  · rcases lt_or_ge x (2 ^ (k + 1)) with hbinade | hnext
    · have hexponent := quantumExponent_eq hpow hbinade hk
      have hquantum : f.quantum x = 2 * 2 ^ (k - f.precision) := by
        unfold quantum
        rw [hexponent, ← zpow_one_add₀ two_ne_zero]
        congr 1
        omega
      have hhead : (2 : K) ^ k = ((2 ^ (f.precision - 1) : ℤ) : K) * f.quantum x := by
        rw [pow_eq_mul_quantum (show f.quantumExponent x ≤ k by omega), hexponent]
        congr 3
        omega
      have heven : Even (2 ^ (f.precision - 1) : ℤ) := by
        have hdigits := f.two_le_precision
        exact even_two.pow_of_ne_zero (by omega)
      have hround : f.roundMagnitude x ≤ 2 ^ k ↔
          halfEven (x / f.quantum x) ≤ 2 ^ (f.precision - 1) := by
        unfold roundMagnitude
        rw [hhead, mul_le_mul_iff_left₀ quantum_pos, Int.cast_le]
      rw [hround, halfEven_le_iff_of_even heven, div_le_iff₀ quantum_pos, add_mul, ← hhead, hquantum,
        one_div, inv_mul_cancel_left₀ two_ne_zero]
    · have hdouble : (2 : K) ^ (k + 1) = 2 * 2 ^ k := by
        rw [zpow_add_one₀ two_ne_zero, mul_comm]
      have hstrict : (2 : K) ^ (k - f.precision) < 2 ^ k :=
        zpow_lt_zpow_right₀ one_lt_two (by omega)
      have hround := pow_le_roundMagnitude (f := f) hnext (by omega)
      have hk' : (0 : K) < 2 ^ k := zpow_pos two_pos _
      apply iff_of_false
      · linarith
      · linarith

end Bounds

/-! ### Overflow -/

section Overflow

variable {f} {x : K}

theorem two_zpow_limit :
    (2 : K) ^ f.limitExponent = 2 ^ f.precision * 2 ^ (f.limitExponent - f.precision) := by
  rw [← zpow_natCast, ← zpow_add₀ two_ne_zero, add_sub_cancel]

theorem largest_lt_overflow : (f.largest : K) < f.overflow := by
  have hpos : (0 : K) < 2 ^ (f.limitExponent - f.precision) := zpow_pos two_pos _
  unfold largest overflow
  nlinarith

theorem overflow_lt_limit : (f.overflow : K) < 2 ^ f.limitExponent := by
  have hpos : (0 : K) < 2 ^ (f.limitExponent - f.precision) := zpow_pos two_pos _
  rw [two_zpow_limit]
  unfold overflow
  nlinarith

/-- The quantum of the numbers with the largest exponent. -/
theorem quantum_of_top (hle : 2 ^ (f.limitExponent - 1) ≤ x) (hlt : x < 2 ^ f.limitExponent) :
    f.quantum x = 2 ^ (f.limitExponent - f.precision) := by
  have hnormal := f.one_normal
  have hlimit := f.one_below_limit
  unfold quantum
  rw [quantumExponent_eq (k := f.limitExponent - 1) hle (by rwa [sub_add_cancel]) (by omega),
    sub_add_cancel]

theorem half_limit_le_largest : (2 : K) ^ (f.limitExponent - 1) ≤ f.largest := by
  have hpos : (0 : K) < 2 ^ (f.limitExponent - f.precision) := zpow_pos two_pos _
  have hdigits : (1 : K) + 1 ≤ 2 ^ f.precision := by
    calc (1 : K) + 1 = 2 ^ 1 := by norm_num
      _ ≤ 2 ^ f.precision :=
        pow_le_pow_right₀ one_le_two (le_trans one_le_two f.two_le_precision)
  have hhalf : 2 * (2 : K) ^ (f.limitExponent - 1) =
      2 ^ f.precision * 2 ^ (f.limitExponent - f.precision) := by
    rw [← two_zpow_limit, ← zpow_one_add₀ two_ne_zero, add_sub_cancel]
  unfold largest
  nlinarith

theorem roundMagnitude_le_largest (hx : 0 ≤ x) (hlt : x < f.overflow) :
    f.roundMagnitude x ≤ f.largest := by
  have hnormal := f.one_normal
  have hlimit := f.one_below_limit
  rcases lt_or_ge x (2 ^ (f.limitExponent - 1)) with hbelow | htop
  · exact (roundMagnitude_le_pow hx hbelow.le (by omega)).trans half_limit_le_largest
  · have hquantum := quantum_of_top htop (hlt.trans overflow_lt_limit)
    have hround : halfEven (x / f.quantum x) ≤ 2 ^ f.precision - 1 := by
      apply halfEven_le_of_lt
      rw [div_lt_iff₀ quantum_pos, hquantum]
      calc x < f.overflow := hlt
        _ = _ := by
          unfold overflow
          push_cast
          ring
    have hcast : (halfEven (x / f.quantum x) : K) ≤ 2 ^ f.precision - 1 := by exact_mod_cast hround
    unfold roundMagnitude largest
    rw [← hquantum]
    exact mul_le_mul_of_nonneg_right hcast quantum_pos.le

theorem limit_le_roundMagnitude (hle : f.overflow ≤ x) :
    2 ^ f.limitExponent ≤ f.roundMagnitude x := by
  have hnormal := f.one_normal
  have hlimit := f.one_below_limit
  rcases lt_or_ge x (2 ^ f.limitExponent) with hbelow | habove
  · have htop := half_limit_le_largest.trans (largest_lt_overflow.le.trans hle)
    have hquantum := quantum_of_top htop hbelow
    have hodd : ¬ Even (2 ^ f.precision - 1 : ℤ) := by
      have hdigits := f.two_le_precision
      have heven : Even (2 ^ f.precision : ℤ) := even_two.pow_of_ne_zero (by omega)
      exact Int.not_even_iff_odd.mpr (heven.sub_odd odd_one)
    have hround : ¬ halfEven (x / f.quantum x) ≤ 2 ^ f.precision - 1 := by
      rw [halfEven_le_iff_of_odd hodd, not_lt, le_div_iff₀ quantum_pos, hquantum]
      calc _ = f.overflow := by
            unfold overflow
            push_cast
            ring
        _ ≤ x := hle
    have hcast : (2 : K) ^ f.precision ≤ halfEven (x / f.quantum x) := by
      have hinteger : (2 ^ f.precision : ℤ) ≤ halfEven (x / f.quantum x) := by omega
      exact_mod_cast hinteger
    unfold roundMagnitude
    rw [two_zpow_limit, ← hquantum]
    exact mul_le_mul_of_nonneg_right hcast quantum_pos.le
  · exact pow_le_roundMagnitude habove (by omega)

end Overflow

/-! ### Rounding with a sign -/

section Sign

variable {f} {x : K}

omit [IsStrictOrderedRing K] in
theorem roundValue_of_nonneg (hx : 0 ≤ x) : f.roundValue x = f.roundMagnitude x :=
  if_neg (not_lt.mpr hx)

omit [IsStrictOrderedRing K] in
theorem roundValue_of_neg (hx : x < 0) : f.roundValue x = -f.roundMagnitude (-x) := if_pos hx

theorem roundValue_nonneg (hx : 0 ≤ x) : 0 ≤ f.roundValue x := by
  rw [roundValue_of_nonneg hx]
  exact roundMagnitude_nonneg hx

theorem abs_roundValue : |f.roundValue x| = f.roundMagnitude |x| := by
  rcases lt_or_ge x 0 with hneg | hnonneg
  · rw [roundValue_of_neg hneg, abs_neg, abs_of_neg hneg,
      abs_of_nonneg (roundMagnitude_nonneg (neg_pos.mpr hneg).le)]
  · rw [roundValue_of_nonneg hnonneg, abs_of_nonneg hnonneg,
      abs_of_nonneg (roundMagnitude_nonneg hnonneg)]

/-- Below the overflow bound a number is rounded to a number. -/
theorem round_of_lt (h : |x| < f.overflow) :
    f.round (.fin x) = .fin (f.roundValue x) ∧ |f.roundValue x| ≤ f.largest := by
  have hle : |f.roundValue x| ≤ f.largest := by
    rw [abs_roundValue]
    exact roundMagnitude_le_largest (abs_nonneg x) h
  have hlt : |f.roundValue x| < 2 ^ f.limitExponent :=
    hle.trans_lt (largest_lt_overflow.trans overflow_lt_limit)
  exact ⟨if_pos hlt, hle⟩

theorem round_of_overflow (h : f.overflow ≤ |x|) : f.round (.fin x) = .inf (decide (x < 0)) := by
  have hge : ¬ |f.roundValue x| < 2 ^ f.limitExponent := by
    rw [abs_roundValue, not_lt]
    exact limit_le_roundMagnitude h
  exact if_neg hge

theorem roundValue_pos_iff : 0 < f.roundValue x ↔ 2 ^ (f.leastExponent - 1) < x := by
  rcases lt_or_ge x 0 with hneg | hnonneg
  · have hpos : (0 : K) < 2 ^ (f.leastExponent - 1) := zpow_pos two_pos _
    rw [roundValue_of_neg hneg]
    apply iff_of_false
    · exact not_lt.mpr (neg_nonpos.mpr (roundMagnitude_nonneg (neg_pos.mpr hneg).le))
    · exact not_lt.mpr (hneg.le.trans hpos.le)
  · rw [roundValue_of_nonneg hnonneg]
    exact roundMagnitude_pos_iff hnonneg

theorem roundValue_neg : f.roundValue (-x) = -f.roundValue x := by
  rcases lt_trichotomy x 0 with hneg | rfl | hpos
  · rw [roundValue_of_nonneg (neg_pos.mpr hneg).le, roundValue_of_neg hneg, neg_neg]
  · rw [neg_zero, roundValue_of_nonneg le_rfl, roundMagnitude_zero, neg_zero]
  · rw [roundValue_of_neg (neg_lt_zero.mpr hpos), roundValue_of_nonneg hpos.le, neg_neg]

theorem abs_roundValue_le_one (h : |x| ≤ 1) : |f.roundValue x| ≤ 1 := by
  have hnormal := f.one_normal
  have hprecision : (2 : ℤ) ≤ f.precision := by exact_mod_cast f.two_le_precision
  have hpow := roundMagnitude_le_pow (f := f) (k := 0) (abs_nonneg x) (by rwa [zpow_zero]) (by omega)
  rwa [zpow_zero, ← abs_roundValue] at hpow

/-- One is a number of the format; what rounds to it exceeds it by at most half a quantum. -/
theorem roundValue_le_one_iff (hx : 0 ≤ x) :
    f.roundValue x ≤ 1 ↔ x ≤ 1 + 2 ^ (-f.precision : ℤ) := by
  have hnormal := f.one_normal
  have hle := roundMagnitude_le_pow_iff (f := f) (k := 0) hx (by omega)
  rwa [zpow_zero, zero_sub, ← roundValue_of_nonneg hx] at hle

end Sign

/-! ### Numbers of the format -/

section Represents

variable {f} {x y a d : K}

/-- The numbers of a format are multiples of its smallest positive one. -/
theorem Represents.multiple (h : f.Represents x) : ∃ m : ℤ, x = m * 2 ^ f.leastExponent := by
  have hmagnitude : ∀ z : K, ∃ m : ℤ, f.roundMagnitude z = m * 2 ^ f.leastExponent := by
    intro z
    have hquantum : f.quantum z =
        ((2 ^ (f.quantumExponent z - f.leastExponent).toNat : ℤ) : K) * 2 ^ f.leastExponent := by
      have hle : f.leastExponent ≤ f.quantumExponent z := leastExponent_le_quantum
      unfold quantum
      push_cast
      rw [← zpow_natCast, ← zpow_add₀ two_ne_zero, Int.toNat_of_nonneg (by omega), sub_add_cancel]
    refine ⟨halfEven (z / f.quantum z) * 2 ^ (f.quantumExponent z - f.leastExponent).toNat, ?_⟩
    calc f.roundMagnitude z = halfEven (z / f.quantum z) * f.quantum z := rfl
      _ = _ := by
        rw [hquantum]
        push_cast
        ring
  have hvalue : f.roundValue x = x := h
  rcases lt_or_ge x 0 with hneg | hnonneg
  · obtain ⟨m, hm⟩ := hmagnitude (-x)
    rw [roundValue_of_neg hneg, hm] at hvalue
    refine ⟨-m, hvalue.symm.trans ?_⟩
    push_cast
    ring
  · obtain ⟨m, hm⟩ := hmagnitude x
    rw [roundValue_of_nonneg hnonneg, hm] at hvalue
    exact ⟨m, hvalue.symm⟩

/-- The rounded difference of two numbers of the format has the sign of their difference. -/
theorem Represents.roundValue_sub_pos_iff (hx : f.Represents x) (hy : f.Represents y) :
    0 < f.roundValue (x - y) ↔ y < x := by
  have hleast : (0 : K) < 2 ^ f.leastExponent := zpow_pos two_pos _
  have hhalf : (2 : K) ^ (f.leastExponent - 1) < 2 ^ f.leastExponent :=
    zpow_lt_zpow_right₀ one_lt_two (sub_one_lt _)
  rw [roundValue_pos_iff]
  constructor
  · intro hlt
    exact sub_pos.mp ((zpow_pos two_pos _).trans hlt)
  · intro hlt
    obtain ⟨m, rfl⟩ := hx.multiple
    obtain ⟨n, rfl⟩ := hy.multiple
    have hmn : n + 1 ≤ m := by
      have hcast : (n : K) < m := lt_of_mul_lt_mul_right hlt hleast.le
      exact_mod_cast hcast
    have hcast : (n : K) + 1 ≤ m := by exact_mod_cast hmn
    nlinarith

theorem Represents.roundValue_sub_neg_iff (hx : f.Represents x) (hy : f.Represents y) :
    f.roundValue (x - y) < 0 ↔ x < y := by
  rw [← hy.roundValue_sub_pos_iff hx, ← neg_sub x y, roundValue_neg, neg_pos]

theorem represents_pow {k : ℤ} (hk : f.leastExponent ≤ k) : f.Represents ((2 : K) ^ k) := by
  have hpos : (0 : K) ≤ 2 ^ k := (zpow_pos two_pos k).le
  unfold Represents
  rw [roundValue_of_nonneg hpos]
  exact le_antisymm (roundMagnitude_le_pow hpos le_rfl hk) (pow_le_roundMagnitude le_rfl hk)

/-- A product with a factor in `[-1, 1]` does not overflow. -/
theorem round_mul_of_le (ha : |a| ≤ f.largest) (hd : |d| ≤ 1) :
    ∃ r, f.round (Flt.fin a * Flt.fin d) = .fin r ∧ |r| ≤ f.largest := by
  have hproduct : |a * d| ≤ f.largest := by
    rw [abs_mul]
    exact (mul_le_of_le_one_right (abs_nonneg a) hd).trans ha
  obtain ⟨hround, hle⟩ := round_of_lt (hproduct.trans_lt largest_lt_overflow)
  exact ⟨_, hround, hle⟩

/-- One more than a number of the format does not overflow. -/
theorem round_one_add_of_le (ha : |a| ≤ f.largest) : ∃ r, f.round (.fin (1 + a)) = .fin r := by
  have hone : (1 : K) < 1 / 2 * 2 ^ (f.limitExponent - f.precision) := by
    have hlimit := f.one_below_limit
    have hfour : (2 : K) ^ (2 : ℤ) ≤ 2 ^ (f.limitExponent - f.precision) :=
      zpow_le_zpow_right₀ one_le_two (by omega)
    have htwo : (2 : K) ^ (2 : ℤ) = 2 * 2 := by
      rw [zpow_ofNat, pow_two]
    linarith
  have hsum : |1 + a| < f.overflow := by
    calc |1 + a| ≤ |1| + |a| := abs_add_le 1 a
      _ = 1 + |a| := by rw [abs_one]
      _ ≤ 1 + f.largest := by linarith
      _ < f.overflow := by
        unfold largest overflow
        linarith
  exact ⟨_, (round_of_lt hsum).1⟩

end Represents

/-- IEEE single precision. -/
def binary32 : BinaryFormat :=
  ⟨24, -149, 128, by norm_num, by norm_num, by norm_num⟩

end BinaryFormat
