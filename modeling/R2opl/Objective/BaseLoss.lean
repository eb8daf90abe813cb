import R2opl.Controller.Base

/-!
# The R²OPL-base sampled-token loss

`compute_r2opl_base_sampled_token_loss` (`losses.py`) with its three gradient
branches, the fields the trainer stores for it, and the reference kernel
`r2opl_base_token_advantage`.
-/

namespace R2opl

open Checked

variable {K : Type} [Field K] [LinearOrder K]

/-- `r2opl_base_gradient_branch`; any other text is rejected. -/
inductive GradientBranch where
  | correct
  | error
  | total
  | other (text : String)
deriving DecidableEq, Repr

/-- The fields of the actor batch that the loss reads. -/
structure BaseLossData (K : Type) where
  responseMask : Tensor Bool
  correctMask : Tensor Bool
  errorMask : Tensor Bool
  difficulty : Tensor (Flt K)
  lambda_ : Option (Tensor (Flt K))
  miu : Option (Tensor (Flt K))

/-- A coefficient field, reshaped to one value per row. -/
def coefficientOfField (name invalidMessage : String) (invalid : Flt K → Bool)
    (batchSize : Nat) (field : Tensor (Flt K)) : Except PyError (Tensor (Flt K)) := do
  let values := field.flatten
  raiseIf (values.numel ≠ 1 ∧ values.numel ≠ batchSize) (valueError
    s!"R²OPL-base {name} must be scalar or have one value per trajectory; got {values.numel} values for batch size {batchSize}.")
  raiseIf (∃ row < values.numel,
      (values.at1 row).isFinite = false ∨ invalid (values.at1 row) = true)
    (valueError invalidMessage)
  return .vec batchSize fun row => if values.numel = 1 then values.at1 0 else values.at1 row

/-- Without a field, the coefficient of the loss configuration. -/
def lambdaRows [ToString K] (batchSize : Nat) (configured : Flt K) :
    Option (Tensor (Flt K)) → Except PyError (Tensor (Flt K))
  | none => do
      checkNonNegative "R²OPL-base lambda must be finite and non-negative; got " configured
      return .vec batchSize fun _ => configured
  | some field => coefficientOfField "lambda"
      "R²OPL-base lambda values must be finite and non-negative." (Flt.lt · 0) batchSize field

/-- Without a field, the correct branch has the fixed advantage one. -/
def miuRows (batchSize : Nat) :
    Option (Tensor (Flt K)) → Except PyError (Tensor (Flt K))
  | none => .ok (.vec batchSize fun _ => 1)
  | some field => coefficientOfField "miu"
      "R²OPL-base miu values must be finite and positive." (Flt.le · 0) batchSize field

/-- `difficulty * miu`. -/
def correctAdvantage (difficulty miu : Tensor (Flt K)) : Tensor (Flt K) :=
  .mat (difficulty.size 0) (difficulty.size 1) fun row column =>
    difficulty.at2 row column * miu.at1 row

/-- `difficulty * lambda * (teacher_log_probs - student_log_probs)`. -/
def errorAdvantage (difficulty lambda_ opdAdvantage : Tensor (Flt K)) : Tensor (Flt K) :=
  .mat (difficulty.size 0) (difficulty.size 1) fun row column =>
    difficulty.at2 row column * lambda_.at1 row * opdAdvantage.at2 row column

/-- `values * mask`. -/
def maskTokens (values : Tensor (Flt K)) (mask : Tensor Bool) : Tensor (Flt K) :=
  .mat (values.size 0) (values.size 1) fun row column =>
    values.at2 row column * Flt.ofBool (mask.at2 row column)

/-- `torch.where(mask, left, right)`. -/
def whereTokens (mask : Tensor Bool) (left right : Tensor (Flt K)) : Tensor (Flt K) :=
  .mat (left.size 0) (left.size 1) fun row column =>
    if mask.at2 row column then left.at2 row column else right.at2 row column

/-- The advantage of a branch and the mask of its metric. -/
def branchAdvantage (data : BaseLossData K) (correct error : Tensor (Flt K)) :
    GradientBranch → Except PyError (Tensor (Flt K) × Tensor Bool)
  | .correct => .ok (maskTokens correct data.correctMask, data.correctMask)
  | .error => .ok (maskTokens error data.errorMask, data.errorMask)
  | .total => .ok (maskTokens (whereTokens data.correctMask correct error) data.responseMask,
      data.responseMask)
  | .other text => .error (valueError
      s!"R²OPL-base gradient branch must be one of 'correct', 'error', or 'total'; got '{text}'.")

/-- `masked_mean`: the mean of the selected values, or zero. -/
def maskedMean (zero : Flt K) (values : Tensor (Flt K)) (mask : Tensor Bool) : Flt K :=
  if values.selectTokens mask = [] then zero else Flt.mean (values.selectTokens mask)

def baseLossMetrics (data : BaseLossData K) (opdAdvantage advantage : Tensor (Flt K))
    (metricMask : Tensor Bool) : List (String × Flt K) :=
  let errorValid : Tensor Bool := .mat (data.errorMask.size 0) (data.errorMask.size 1)
    fun row column => data.errorMask.at2 row column && data.responseMask.at2 row column
  let zero := opdAdvantage.elements.sum * 0
  [("distillation/reverse_kl_estimate", maskedMean zero opdAdvantage errorValid),
    ("distillation/opd_advantage_mean", maskedMean zero opdAdvantage errorValid),
    ("distillation/opd_advantage_abs_mean",
      maskedMean zero (opdAdvantage.map Flt.abs) errorValid),
    ("distillation/applied_advantage_mean", maskedMean zero advantage metricMask)]

def baseLossShapeText (studentLogProbs teacherLogProbs : Tensor (Flt K))
    (data : BaseLossData K) : String :=
  s!"student={shapeText studentLogProbs.shape}, teacher={shapeText teacherLogProbs.shape}, " ++
  s!"response_mask={shapeText data.responseMask.shape}, " ++
  s!"correct_mask={shapeText data.correctMask.shape}, " ++
  s!"error_mask={shapeText data.errorMask.shape}, difficulty={shapeText data.difficulty.shape}."

def computeR2oplBaseSampledTokenLoss [ToString K] (configuredLambda : Flt K)
    (studentLogProbs teacherLogProbs : Tensor (Flt K)) (data : Option (BaseLossData K))
    (branch : GradientBranch) : Except PyError (Tensor (Flt K) × List (String × Flt K)) := do
  let data ← data.elim (.error (runtimeError
    "R²OPL-base actor input is missing controller-computed masks or difficulty.")) .ok
  let shape := data.responseMask.shape
  raiseIf (¬ (studentLogProbs.shape = shape ∧ teacherLogProbs.shape = shape ∧
      data.correctMask.shape = shape ∧ data.errorMask.shape = shape ∧
      data.difficulty.shape = shape))
    (valueError ("R²OPL-base actor token tensors must have identical shapes; got " ++
      baseLossShapeText studentLogProbs teacherLogProbs data))
  raiseIf (∃ row < data.responseMask.size 0, ∃ column < data.responseMask.size 1,
      (data.correctMask.at2 row column && data.errorMask.at2 row column) = true)
    (valueError "R²OPL-base correct and error token masks overlap.")
  raiseIf (∃ row < data.responseMask.size 0, ∃ column < data.responseMask.size 1,
      ((data.correctMask.at2 row column || data.errorMask.at2 row column) &&
        !data.responseMask.at2 row column) = true)
    (valueError "R²OPL-base branch masks must be subsets of response_mask.")
  raiseIf (¬ FiniteOn data.difficulty data.responseMask)
    (valueError "R²OPL-base prompt difficulties must be finite.")
  let opdAdvantage := teacherMinusStudent studentLogProbs teacherLogProbs
  let lambda_ ← lambdaRows (data.responseMask.size 0) configuredLambda data.lambda_
  let miu ← miuRows (data.responseMask.size 0) data.miu
  let correct := correctAdvantage data.difficulty miu
  let error := errorAdvantage data.difficulty lambda_ opdAdvantage
  let (signal, metricMask) ← branchAdvantage data correct error branch
  let advantage := maskTokens signal data.responseMask
  return (advantage.map (- ·), baseLossMetrics data opdAdvantage advantage metricMask)

/-! ### What the trainer stores, and the reference -/

/-- The fields the trainer writes after the controller has run. -/
def materializedFields (responseMask : Tensor Bool) (result : R2OPLBaseBatchResult K)
    (lambda_ miu : Flt K) : BaseLossData K where
  responseMask := responseMask
  correctMask := result.correctMask
  errorMask := result.errorMask
  difficulty := maskTokens (result.difficulty.expandRows (responseMask.size 0)
    (responseMask.size 1)) responseMask
  lambda_ := some (.vec (responseMask.size 0) fun _ => lambda_)
  miu := some (.vec (responseMask.size 0) fun _ => miu)

/-- `r2opl_base_token_advantage` on difficulties expanded over the tokens. -/
def r2oplBaseTokenAdvantage (studentLogProbs teacherLogProbs : Tensor (Flt K))
    (correctMask : Tensor Bool) (difficulty : Tensor (Flt K)) (responseMask : Tensor Bool)
    (lambda_ miu : Flt K) : Tensor (Flt K) :=
  .mat (responseMask.size 0) (responseMask.size 1) fun row column =>
    (if correctMask.at2 row column then difficulty.at2 row column * miu
      else difficulty.at2 row column * lambda_ *
        (teacherLogProbs.at2 row column - studentLogProbs.at2 row column)) *
      Flt.ofBool (responseMask.at2 row column)

end R2opl
