import R2opl.Python
import R2opl.Lib.ExactFloat

/-!
# Objective coefficients

Two validators see the coefficients of the objective: `r2opl_hyperparameters`,
which reads them from the configuration, and `_validate_hyperparameters` of the
kernels.  They disagree on the upper end of `epsilon`.
-/

namespace R2opl

open Checked

variable {K : Type} [Field K] [LinearOrder K] [ToString K]

/-- `not math.isfinite(value) or value < 0.0`, with the text before the value. -/
def checkNonNegative (message : String) (value : Flt K) : Except PyError Unit :=
  raiseIf (value.isFinite = false ∨ value.lt 0 = true)
    (valueError s!"{message}{toString value}.")

/-- `not math.isfinite(value) or value <= 0.0`. -/
def checkPositive (message : String) (value : Flt K) : Except PyError Unit :=
  raiseIf (value.isFinite = false ∨ value.le 0 = true)
    (valueError s!"{message}{toString value}.")

theorem checkNonNegative_eq_ok {message : String} {value : Flt K} :
    checkNonNegative message value = .ok () ↔ ∃ x, 0 ≤ x ∧ value = .fin x := by
  rw [checkNonNegative, raiseIf_eq_ok, not_or, Bool.not_eq_false, Flt.isFinite_iff]
  constructor
  · rintro ⟨⟨x, rfl⟩, hlt⟩
    exact ⟨x, by simpa using hlt, rfl⟩
  · rintro ⟨x, hx, rfl⟩
    exact ⟨⟨x, rfl⟩, by simpa using hx⟩

theorem checkPositive_eq_ok {message : String} {value : Flt K} :
    checkPositive message value = .ok () ↔ ∃ x, 0 < x ∧ value = .fin x := by
  rw [checkPositive, raiseIf_eq_ok, not_or, Bool.not_eq_false, Flt.isFinite_iff]
  constructor
  · rintro ⟨⟨x, rfl⟩, hle⟩
    exact ⟨x, by simpa using hle, rfl⟩
  · rintro ⟨x, hx, rfl⟩
    exact ⟨⟨x, rfl⟩, by simpa using hx⟩

/-! ### The configuration -/

/-- The five scalar coefficients of the objective. -/
structure R2OPLHyperparameters (K : Type) where
  lambda_ : Flt K
  miu : Flt K
  alphaR : Flt K
  alphaD : Flt K
  epsilon : Flt K

/-- `config.algorithm.r2opl`; an absent entry takes its default. -/
structure R2OPLSettings (K : Type) where
  lambda_ : Option (Flt K)
  miu : Option (Flt K)
  alphaR : Option (Flt K)
  alphaD : Option (Flt K)
  epsilon : Option (Flt K)

/-- `R2OPL_DEFAULT_LAMBDA`, `…_MIU`, `…_ALPHA_R`, `…_ALPHA_D`, `…_EPSILON`. -/
def defaultHyperparameters : R2OPLHyperparameters K :=
  ⟨.fin (1 / 10), .fin 16, .fin (1 / 4), .fin (1 / 2), .fin (4 / 5)⟩

def r2oplHyperparameters (settings : R2OPLSettings K) :
    Except PyError (R2OPLHyperparameters K) := do
  let values : R2OPLHyperparameters K :=
    { lambda_ := settings.lambda_.getD defaultHyperparameters.lambda_
      miu := settings.miu.getD defaultHyperparameters.miu
      alphaR := settings.alphaR.getD defaultHyperparameters.alphaR
      alphaD := settings.alphaD.getD defaultHyperparameters.alphaD
      epsilon := settings.epsilon.getD defaultHyperparameters.epsilon }
  checkNonNegative "R²OPL lambda must be finite and non-negative; got " values.lambda_
  checkPositive "R²OPL miu must be finite and positive; got " values.miu
  checkNonNegative "R²OPL alpha_R must be finite and non-negative; got " values.alphaR
  checkNonNegative "R²OPL alpha_D must be finite and non-negative; got " values.alphaD
  checkPositive "R²OPL epsilon must be finite and positive; got " values.epsilon
  return values

/-! ### The kernels -/

/-- `_validate_hyperparameters`: every coefficient is optional. -/
def validateHyperparameters (lambda_ miu alphaR alphaD epsilon : Option (Flt K)) :
    Except PyError Unit := do
  lambda_.toList.forM (checkNonNegative "R2OPL lambda must be finite and non-negative, got ")
  miu.toList.forM (checkPositive "R2OPL miu must be finite and positive, got ")
  alphaR.toList.forM (checkNonNegative "R2OPL alpha_R must be finite and non-negative, got ")
  alphaD.toList.forM (checkNonNegative "R2OPL alpha_D must be finite and non-negative, got ")
  epsilon.toList.forM fun value =>
    raiseIf (value.isFinite = false ∨ ¬ (Flt.le 0 value = true ∧ Flt.le value 1 = true))
      (valueError s!"R2OPL epsilon must lie in [0, 1], got {toString value}.")

theorem validateHyperparameters_eq_ok {lambda_ miu alphaR alphaD epsilon : Option (Flt K)} :
    validateHyperparameters lambda_ miu alphaR alphaD epsilon = .ok () ↔
      (∀ value ∈ lambda_, ∃ x, 0 ≤ x ∧ value = .fin x) ∧
      (∀ value ∈ miu, ∃ x, 0 < x ∧ value = .fin x) ∧
      (∀ value ∈ alphaR, ∃ x, 0 ≤ x ∧ value = .fin x) ∧
      (∀ value ∈ alphaD, ∃ x, 0 ≤ x ∧ value = .fin x) ∧
      (∀ value ∈ epsilon, value.isFinite = true ∧ Flt.le 0 value = true ∧
        Flt.le value 1 = true) := by
  have hchecks : ∀ (value : Option (Flt K)) (check : Flt K → Except PyError Unit),
      value.toList.forM check = .ok () ↔ ∀ entry ∈ value, check entry = .ok () := by
    intro value check
    rw [forM_eq_ok]
    simp only [Option.mem_toList, Option.mem_def]
  have hseq : ∀ (first second : Except PyError Unit),
      (first >>= fun _ => second) = .ok () ↔ first = .ok () ∧ second = .ok () := by
    intro first second
    rw [bind_eq_ok]
    exact ⟨fun ⟨_, hfirst, hsecond⟩ => ⟨hfirst, hsecond⟩, fun h => ⟨(), h.1, h.2⟩⟩
  unfold validateHyperparameters
  rw [hseq, hseq, hseq, hseq, hchecks, hchecks, hchecks, hchecks, hchecks]
  simp only [checkNonNegative_eq_ok, checkPositive_eq_ok, raiseIf_eq_ok, not_or, not_not,
    Bool.not_eq_false]

/-- The configurations that `r2opl_hyperparameters` returns. -/
structure ValidHyperparameters (values : R2OPLHyperparameters K) : Prop where
  lambda_ : ∃ x, 0 ≤ x ∧ values.lambda_ = .fin x
  miu : ∃ x, 0 < x ∧ values.miu = .fin x
  alphaR : ∃ x, 0 ≤ x ∧ values.alphaR = .fin x
  alphaD : ∃ x, 0 ≤ x ∧ values.alphaD = .fin x
  epsilon : ∃ x, 0 < x ∧ values.epsilon = .fin x

theorem ValidHyperparameters.of_read {settings : R2OPLSettings K}
    {values : R2OPLHyperparameters K} (h : r2oplHyperparameters settings = .ok values) :
    ValidHyperparameters values := by
  simp only [r2oplHyperparameters, bind_eq_ok, pure_eq_ok, Except.ok.injEq] at h
  obtain ⟨⟨⟩, hlambda, ⟨⟩, hmiu, ⟨⟩, halphaR, ⟨⟩, halphaD, ⟨⟩, hepsilon, rfl⟩ := h
  exact {
    lambda_ := checkNonNegative_eq_ok.mp hlambda
    miu := checkPositive_eq_ok.mp hmiu
    alphaR := checkNonNegative_eq_ok.mp halphaR
    alphaD := checkNonNegative_eq_ok.mp halphaD
    epsilon := checkPositive_eq_ok.mp hepsilon }

/-- A valid configuration is returned as it was read. -/
theorem r2oplHyperparameters_of_valid {settings : R2OPLSettings K}
    (h : ValidHyperparameters
      { lambda_ := settings.lambda_.getD defaultHyperparameters.lambda_
        miu := settings.miu.getD defaultHyperparameters.miu
        alphaR := settings.alphaR.getD defaultHyperparameters.alphaR
        alphaD := settings.alphaD.getD defaultHyperparameters.alphaD
        epsilon := settings.epsilon.getD defaultHyperparameters.epsilon }) :
    r2oplHyperparameters settings = .ok
      { lambda_ := settings.lambda_.getD defaultHyperparameters.lambda_
        miu := settings.miu.getD defaultHyperparameters.miu
        alphaR := settings.alphaR.getD defaultHyperparameters.alphaR
        alphaD := settings.alphaD.getD defaultHyperparameters.alphaD
        epsilon := settings.epsilon.getD defaultHyperparameters.epsilon } := by
  rw [r2oplHyperparameters]
  rw [checkNonNegative_eq_ok.mpr h.lambda_, ok_bind, checkPositive_eq_ok.mpr h.miu, ok_bind,
    checkNonNegative_eq_ok.mpr h.alphaR, ok_bind, checkNonNegative_eq_ok.mpr h.alphaD, ok_bind,
    checkPositive_eq_ok.mpr h.epsilon, ok_bind]
  rfl

section Agreement

variable {values : R2OPLHyperparameters K}

omit [ToString K] in
theorem ValidHyperparameters.epsilon_ok (h : ValidHyperparameters values) :
    (∀ value ∈ some values.epsilon, value.isFinite = true ∧ Flt.le 0 value = true ∧
      Flt.le value 1 = true) ↔ Flt.le values.epsilon 1 = true := by
  obtain ⟨x, hx, hepsilon⟩ := h.epsilon
  rw [hepsilon]
  constructor
  · intro hall
    exact (hall _ rfl).2.2
  · rintro hle _ ⟨⟩
    have hlow : Flt.le 0 (.fin x) = true := by simp [hx.le]
    exact ⟨rfl, hlow, hle⟩

/-- The kernel accepts the coefficients of a configuration exactly when its `epsilon`
    is at most one. -/
theorem ValidHyperparameters.validate_iff (h : ValidHyperparameters values) :
    validateHyperparameters (some values.lambda_) (some values.miu) (some values.alphaR)
      (some values.alphaD) (some values.epsilon) = .ok () ↔
        Flt.le values.epsilon 1 = true := by
  rw [validateHyperparameters_eq_ok, h.epsilon_ok]
  simp only [Option.mem_some_iff, forall_eq', h.lambda_, h.miu, h.alphaR, h.alphaD, true_and]

theorem ValidHyperparameters.validate_gates_iff (h : ValidHyperparameters values) :
    validateHyperparameters none none (some values.alphaR) (some values.alphaD)
      (some values.epsilon) = .ok () ↔ Flt.le values.epsilon 1 = true := by
  rw [validateHyperparameters_eq_ok, h.epsilon_ok]
  simp [h.alphaR, h.alphaD]

theorem ValidHyperparameters.validate_scales (h : ValidHyperparameters values) :
    validateHyperparameters (some values.lambda_) (some values.miu) none none none = .ok () := by
  rw [validateHyperparameters_eq_ok]
  simp [h.lambda_, h.miu]

end Agreement

end R2opl
