import R2opl.Objective.Pipeline
import Mathlib.Algebra.Order.Ring.Rat
import Mathlib.Algebra.Field.Rat
import Mathlib.Data.Rat.Floor

/-!
# From the configuration to the actor's loss

The trainer hands the coefficients to the actor as single-precision fields of every rollout, and
`compute_r2opl_sampled_token_loss` reads each of them back as one number before it calls the two
kernels.  A coefficient beyond single precision never becomes a field; one that is rounded to zero
is refused when it is read back.
-/

namespace R2opl

open Checked BinaryFormat

variable {K : Type} [Field K] [LinearOrder K] [FloorRing K] [ToString K]

/-! ### The fields of a rollout -/

/-- The controller fields of a batch, one number a rollout. -/
structure ControllerFields (K : Type) where
  correctness : Tensor (Flt K)
  difficulty : Tensor (Flt K)
  lambda_ : Tensor (Flt K)
  miu : Tensor (Flt K)
  alphaR : Tensor (Flt K)
  alphaD : Tensor (Flt K)
  epsilon : Tensor (Flt K)

/-- `torch.full((count,), float(value), dtype=torch.float32)`, which refuses a finite value beyond
    the largest number of the format. -/
def fullSingle (count : Nat) (value : Flt K) : Except PyError (Tensor (Flt K)) := do
  raiseIf (value.isFinite = true ∧ Flt.lt (.fin binary32.largest) value.abs = true)
    (runtimeError "value cannot be converted to type float without overflow")
  return .vec count fun _ => Single.round value

/-- The fields that `R2OPLTrainer._compute_old_log_prob` puts into the queue. -/
def controllerFields (count : Nat) (values : R2OPLHyperparameters K)
    (result : R2OPLControllerBatchResult K) : Except PyError (ControllerFields K) := do
  let lambda_ ← fullSingle count values.lambda_
  let miu ← fullSingle count values.miu
  let alphaR ← fullSingle count values.alphaR
  let alphaD ← fullSingle count values.alphaD
  let epsilon ← fullSingle count values.epsilon
  return {
    correctness := result.correctness.map Flt.ofBool
    difficulty := result.difficulty
    lambda_ := lambda_
    miu := miu
    alphaR := alphaR
    alphaD := alphaD
    epsilon := epsilon }

/-! ### The actor's reading of them -/

/-- `_per_row_scalar`.  The fields are single-precision numbers already. -/
def perRowScalar (batchSize : Nat) (name : String) (positive : Option Bool)
    (field : Tensor (Flt K)) : Except PyError (Tensor (Flt K)) := do
  let value := field.flatten
  raiseIf (value.numel ≠ 1 ∧ value.numel ≠ batchSize) (valueError
    s!"R²OPL {name} must be scalar or have one value per rollout; got {value.numel} for batch size {batchSize}.")
  let value := if value.numel = 1 then .vec batchSize fun _ => value.at1 0 else value
  raiseIf (∃ row < batchSize, (value.at1 row).isFinite = false)
    (valueError s!"R²OPL {name} must be finite.")
  raiseIf (positive = some true ∧ ∃ row < batchSize, (value.at1 row).le 0 = true)
    (valueError s!"R²OPL {name} must be positive.")
  raiseIf (positive = some false ∧ ∃ row < batchSize, (value.at1 row).lt 0 = true)
    (valueError s!"R²OPL {name} must be non-negative.")
  return value

/-- `torch.isclose` with its default tolerances. -/
def isClose (a b : Flt K) : Bool :=
  a.eq b || ((a - b).abs.isFinite && (a - b).abs.le
    (.fin (1 / ((100000000 : Nat) : K)) + (.fin (1 / ((100000 : Nat) : K)) * b).abs))

/-- `_shared_config_value`. -/
def sharedConfigValue (batchSize : Nat) (name : String) (values : Tensor (Flt K)) :
    Except PyError (Flt K) := do
  raiseIf (∃ row < batchSize, isClose (values.at1 row) (values.at1 0) = false)
    (valueError s!"R²OPL {name} must be shared by every rollout in one actor batch.")
  return values.at1 0

/-- `compute_r2opl_sampled_token_loss`, up to the advantage. -/
def sampledTokenAdvantage (fields : ControllerFields K) (batch : R2OPLProbeBatch)
    (probabilities : Tensor (Flt K)) (responseMask : Tensor Bool)
    (studentLogProbs teacherLogProbs : Tensor (Flt K)) : Except PyError (Tensor (Flt K)) := do
  raiseIf (studentLogProbs.shape ≠ teacherLogProbs.shape ∨
      studentLogProbs.shape ≠ responseMask.shape)
    (valueError ("R²OPL Student/Teacher log-probabilities and response mask must share shape; got "
      ++ shapeDetails [("student", studentLogProbs.shape), ("teacher", teacherLogProbs.shape),
        ("mask", responseMask.shape)] ++ "."))
  let batchSize := responseMask.size 0
  let correctness ← perRowScalar batchSize "r2opl_correctness" none fields.correctness
  raiseIf (∃ row < batchSize,
      ((correctness.at1 row).eq 0 || (correctness.at1 row).eq 1) = false)
    (valueError "R²OPL controller correctness must be binary.")
  let correct := correctness.map fun value => !value.eq 0
  let difficulty ← perRowScalar batchSize "r2opl_difficulty" (some false) fields.difficulty
  let lambdaValues ← perRowScalar batchSize "r2opl_lambda" (some false) fields.lambda_
  let miuValues ← perRowScalar batchSize "r2opl_miu" (some true) fields.miu
  let alphaRValues ← perRowScalar batchSize "r2opl_alpha_r" (some false) fields.alphaR
  let alphaDValues ← perRowScalar batchSize "r2opl_alpha_d" (some false) fields.alphaD
  let epsilonValues ← perRowScalar batchSize "r2opl_epsilon" (some true) fields.epsilon
  let lambda_ ← sharedConfigValue batchSize "lambda" lambdaValues
  let miu ← sharedConfigValue batchSize "miu" miuValues
  let alphaR ← sharedConfigValue batchSize "alpha_R" alphaRValues
  let alphaD ← sharedConfigValue batchSize "alpha_D" alphaDValues
  let epsilon ← sharedConfigValue batchSize "epsilon" epsilonValues
  layoutToAdvantage ⟨lambda_, miu, alphaR, alphaD, epsilon⟩ batch probabilities responseMask
    studentLogProbs teacherLogProbs (maskRows responseMask correct)
    (maskRows responseMask (correct.map not)) difficulty

/-- The controller's fields, and the advantage that the actor makes of them. -/
def controllerToAdvantage (values : R2OPLHyperparameters K)
    (result : R2OPLControllerBatchResult K) (batch : R2OPLProbeBatch)
    (probabilities : Tensor (Flt K)) (responseMask : Tensor Bool)
    (studentLogProbs teacherLogProbs : Tensor (Flt K)) : Except PyError (Tensor (Flt K)) := do
  let fields ← controllerFields (responseMask.size 0) values result
  sampledTokenAdvantage fields batch probabilities responseMask studentLogProbs teacherLogProbs

/-! ### What is read back -/

section Fields

variable {count : Nat} {name : String} {positive : Option Bool} {x y : K}
  {field result : Tensor (Flt K)}

omit [ToString K] in
theorem fullSingle_eq_ok [IsStrictOrderedRing K] (hx : 0 ≤ x) :
    fullSingle count (.fin x) = .ok result ↔
      x ≤ binary32.largest ∧ result = .vec count fun _ => .fin (binary32.roundValue x) := by
  have habs : Flt.abs (.fin x) = .fin x := if_neg (by simpa using hx)
  have hround : x ≤ binary32.largest →
      Single.round (.fin x) = .fin (binary32.roundValue x) := fun hle =>
    (round_of_lt (by rw [abs_of_nonneg hx]; exact hle.trans_lt largest_lt_overflow)).1
  unfold fullSingle
  rw [habs, raiseIf_bind_eq_ok, Flt.lt_fin, decide_eq_true_eq, pure_eq_ok, Except.ok.injEq]
  constructor
  · rintro ⟨hnot, rfl⟩
    have hle : x ≤ binary32.largest := not_lt.mp fun hlt => hnot ⟨rfl, hlt⟩
    rw [hround hle]
    exact ⟨hle, rfl⟩
  · rintro ⟨hle, rfl⟩
    rw [hround hle]
    exact ⟨fun h => absurd h.2 (not_lt.mpr hle), rfl⟩

omit [FloorRing K] [ToString K] in
/-- A field with the same number for every rollout is read back as it is. -/
theorem perRowScalar_vec (hcount : 0 < count) :
    perRowScalar count name positive (.vec count fun _ => .fin y) = .ok result ↔
      (positive = some true → 0 < y) ∧ (positive = some false → 0 ≤ y) ∧
        result = .vec count fun _ => .fin y := by
  have hflat : (Tensor.vec count fun _ => Flt.fin y).flatten = .vec count fun _ => .fin y := by
    simp [Tensor.flatten, Tensor.numel, Tensor.vec]
  have hnumel : (Tensor.vec count fun _ => Flt.fin y).numel = count := Tensor.numel_of_shape rfl
  have hsome : ∃ row, row < count := ⟨0, hcount⟩
  simp only [perRowScalar, hflat, hnumel, raiseIf_bind_eq_ok, pure_eq_ok, Except.ok.injEq,
    Tensor.at1_vec, ite_self, exists_and_right, hsome, true_and, Flt.isFinite_fin, Flt.zero_eq,
    Flt.le_fin, Flt.lt_fin, decide_eq_true_eq, not_and, not_le, not_lt]
  constructor
  · rintro ⟨-, -, hpositive, hnonneg, rfl⟩
    exact ⟨hpositive, hnonneg, rfl⟩
  · rintro ⟨hpositive, hnonneg, rfl⟩
    exact ⟨fun _ => not_not.mpr rfl, Bool.true_eq_false.mp, hpositive, hnonneg, rfl⟩

omit [FloorRing K] [ToString K] in
theorem perRowScalar_vec_positive (hcount : 0 < count) :
    perRowScalar count name (some true) (.vec count fun _ => .fin y) = .ok result ↔
      0 < y ∧ result = .vec count fun _ => .fin y := by
  rw [perRowScalar_vec hcount]
  simp

omit [FloorRing K] [ToString K] in
theorem perRowScalar_vec_nonneg (hcount : 0 < count) :
    perRowScalar count name (some false) (.vec count fun _ => .fin y) = .ok result ↔
      0 ≤ y ∧ result = .vec count fun _ => .fin y := by
  rw [perRowScalar_vec hcount]
  simp

omit [FloorRing K] [ToString K] in
/-- A field that is not negative anywhere is read back row by row. -/
theorem perRowScalar_of_nonneg (hpositive : positive ≠ some true) (hshape : field.shape = [count])
    (hrows : ∀ row < count, ∃ x, 0 ≤ x ∧ field.at1 row = .fin x) :
    ∃ values, perRowScalar count name positive field = .ok values ∧ values.shape = [count] ∧
      ∀ row < count, values.at1 row = field.at1 row := by
  have hnumel : field.flatten.numel = count := by
    rw [Tensor.numel_of_shape (Tensor.shape_flatten field), Tensor.numel_of_shape hshape]
  have hread : ∀ row < count, (if field.flatten.numel = 1 then
      Tensor.vec count fun _ => field.flatten.at1 0 else field.flatten).at1 row =
        field.at1 row := by
    intro row hrow
    rw [hnumel]
    split
    · next hone =>
      rw [Tensor.at1_vec, Tensor.at1_flatten hshape]
      obtain rfl : row = 0 := by omega
      rfl
    · exact Tensor.at1_flatten hshape row
  refine ⟨if field.flatten.numel = 1 then .vec count fun _ => field.flatten.at1 0
    else field.flatten, ?_, ?_, hread⟩
  · unfold perRowScalar
    simp only []
    rw [raiseIf_of_not (by rw [hnumel]; exact fun h => h.2 rfl), ok_bind, raiseIf_of_not, ok_bind,
      raiseIf_of_not, ok_bind, raiseIf_of_not, ok_bind]
    · rfl
    · rintro ⟨-, row, hrow, hlt⟩
      obtain ⟨x, hx, hvalue⟩ := hrows row hrow
      rw [hread row hrow, hvalue, Flt.zero_eq, Flt.lt_fin, decide_eq_true_eq] at hlt
      exact absurd hx (not_le.mpr hlt)
    · exact fun h => hpositive h.1
    · rintro ⟨row, hrow, hfinite⟩
      obtain ⟨x, _, hvalue⟩ := hrows row hrow
      rw [hread row hrow, hvalue] at hfinite
      exact Bool.true_eq_false.mp hfinite
  · split
    · rfl
    · rw [Tensor.shape_flatten, Tensor.numel_of_shape hshape]

omit [FloorRing K] [ToString K] in
theorem sharedConfigValue_vec :
    sharedConfigValue count name (.vec count fun _ => .fin y) = .ok (.fin y) := by
  unfold sharedConfigValue
  rw [raiseIf_of_not, ok_bind]
  · rfl
  · rintro ⟨row, _, hfar⟩
    rw [Tensor.at1_vec, Tensor.at1_vec, isClose, Flt.eq_fin, decide_eq_true rfl, Bool.true_or]
      at hfar
    exact Bool.true_eq_false.mp hfar

end Fields

/-! ### The coefficients that reach the kernels -/

/-- The coefficients with which the actor's loss returns: numbers that single precision holds,
    `miu` and `epsilon` above the half of its smallest positive number, and `epsilon` at most half
    a unit in the last place above one. -/
structure SingleRange (values : R2OPLHyperparameters K) : Prop where
  lambda_ : Flt.le values.lambda_ (.fin binary32.largest) = true
  miu : Flt.lt (.fin (2 ^ (binary32.leastExponent - 1))) values.miu = true ∧
    Flt.le values.miu (.fin binary32.largest) = true
  alphaR : Flt.le values.alphaR (.fin binary32.largest) = true
  alphaD : Flt.le values.alphaD (.fin binary32.largest) = true
  epsilon : Flt.lt (.fin (2 ^ (binary32.leastExponent - 1))) values.epsilon = true ∧
    Flt.le values.epsilon (.fin (1 + 2 ^ (-binary32.precision : ℤ))) = true

section Actor

variable [IsStrictOrderedRing K] {values : R2OPLHyperparameters K}
  {layouts : List R2OPLProbeLayout} {padTokenId : Int} {batch : R2OPLProbeBatch}
  {probabilities rewards studentLogProbs teacherLogProbs : Tensor (Flt K)}
  {ids : List String} {genuine : Option (Tensor Bool)}
  {responseMask : Tensor Bool} {result : R2OPLControllerBatchResult K}

omit [FloorRing K] in
/-- The correctness and the difficulty of a row are numbers that are not negative. -/
theorem controllerBatch_rows
    (h : computeR2oplControllerBatch responseMask rewards ids genuine = .ok result) :
    (result.correctness.shape = [responseMask.size 0] ∧
      result.difficulty.shape = [responseMask.size 0]) ∧
    ∀ row < responseMask.size 0, ∃ x : K, 0 ≤ x ∧ result.difficulty.at1 row = .fin x := by
  obtain ⟨haccepted, rfl⟩ := computeR2oplControllerBatch_eq_ok.mp h
  refine ⟨⟨rfl, shape_foldl_scoreGroup _ _⟩, ?_⟩
  intro row hrow
  have hids : row < ids.length := haccepted.ids_length.symm ▸ hrow
  cases hgenuine : (genuineMask (responseMask.size 0) genuine).at1 row with
  | true => exact ⟨_, groupDifficulty_nonneg _ _ _ _, difficulty_of_genuine hids hgenuine⟩
  | false => exact ⟨0, le_rfl, difficulty_of_padding hids hgenuine⟩

section Numbers

variable {lambda_ miu alphaR alphaD epsilon : K} {fields : ControllerFields K}

/-- Fields with the same five numbers for every rollout. -/
def sharedFields (count : Nat) (correctness difficulty : Tensor (Flt K))
    (lambda_ miu alphaR alphaD epsilon : K) : ControllerFields K where
  correctness := correctness
  difficulty := difficulty
  lambda_ := .vec count fun _ => .fin lambda_
  miu := .vec count fun _ => .fin miu
  alphaR := .vec count fun _ => .fin alphaR
  alphaD := .vec count fun _ => .fin alphaD
  epsilon := .vec count fun _ => .fin epsilon

omit [ToString K] in
/-- Numbers within single precision become fields, rounded. -/
theorem controllerFields_eq_ok (hlambda : 0 ≤ lambda_) (hmiu : 0 ≤ miu) (halphaR : 0 ≤ alphaR)
    (halphaD : 0 ≤ alphaD) (hepsilon : 0 ≤ epsilon) {count : Nat} :
    controllerFields count ⟨.fin lambda_, .fin miu, .fin alphaR, .fin alphaD, .fin epsilon⟩ result =
        .ok fields ↔
      (lambda_ ≤ binary32.largest ∧ miu ≤ binary32.largest ∧ alphaR ≤ binary32.largest ∧
        alphaD ≤ binary32.largest ∧ epsilon ≤ binary32.largest) ∧
      fields = sharedFields count (result.correctness.map Flt.ofBool) result.difficulty
        (binary32.roundValue lambda_) (binary32.roundValue miu) (binary32.roundValue alphaR)
        (binary32.roundValue alphaD) (binary32.roundValue epsilon) := by
  simp only [controllerFields, bind_eq_ok, fullSingle_eq_ok hlambda, fullSingle_eq_ok hmiu,
    fullSingle_eq_ok halphaR, fullSingle_eq_ok halphaD, fullSingle_eq_ok hepsilon, pure_eq_ok,
    Except.ok.injEq]
  constructor
  · rintro ⟨_, ⟨hl, rfl⟩, _, ⟨hm, rfl⟩, _, ⟨hr, rfl⟩, _, ⟨hd, rfl⟩, _, ⟨he, rfl⟩, rfl⟩
    exact ⟨⟨hl, hm, hr, hd, he⟩, rfl⟩
  · rintro ⟨⟨hl, hm, hr, hd, he⟩, rfl⟩
    exact ⟨_, ⟨hl, rfl⟩, _, ⟨hm, rfl⟩, _, ⟨hr, rfl⟩, _, ⟨hd, rfl⟩, _, ⟨he, rfl⟩, rfl⟩

omit [IsStrictOrderedRing K] in
/-- The five numbers reach the kernels if each has the sign that its field asks for. -/
theorem sampledTokenAdvantage_returns_iff {correctness difficulty : Tensor (Flt K)}
    (hcount : 0 < responseMask.size 0)
    (hstudent : ResponseLogProbs responseMask studentLogProbs)
    (hteacher : ResponseLogProbs responseMask teacherLogProbs)
    (hcorrectnessShape : correctness.shape = [responseMask.size 0])
    (hcorrectness : ∀ row < responseMask.size 0, ∃ correct,
      correctness.at1 row = Flt.ofBool correct)
    (hdifficultyShape : difficulty.shape = [responseMask.size 0])
    (hdifficulty : ∀ row < responseMask.size 0, ∃ x, 0 ≤ x ∧ difficulty.at1 row = .fin x) :
    ∃ (correct : Tensor Bool) (difficulties : Tensor (Flt K)),
      difficulties.shape = [responseMask.size 0] ∧
      (Returns (sampledTokenAdvantage (sharedFields (responseMask.size 0) correctness difficulty
          lambda_ miu alphaR alphaD epsilon) batch probabilities responseMask studentLogProbs
          teacherLogProbs) ↔
        (0 ≤ lambda_ ∧ 0 < miu ∧ 0 ≤ alphaR ∧ 0 ≤ alphaD ∧ 0 < epsilon) ∧
        Returns (layoutToAdvantage ⟨.fin lambda_, .fin miu, .fin alphaR, .fin alphaD,
          .fin epsilon⟩ batch probabilities responseMask studentLogProbs teacherLogProbs
          (maskRows responseMask correct) (maskRows responseMask (correct.map not))
          difficulties)) := by
  have hbinary : ∀ row < responseMask.size 0, ∃ x : K, 0 ≤ x ∧ correctness.at1 row = .fin x := by
    intro row hrow
    obtain ⟨correct, hread⟩ := hcorrectness row hrow
    cases correct with
    | true => exact ⟨1, zero_le_one, hread⟩
    | false => exact ⟨0, le_rfl, hread⟩
  obtain ⟨correct, hcorrectRead, hcorrectShape, hcorrectRows⟩ : ∃ values,
      perRowScalar (responseMask.size 0) "r2opl_correctness" none correctness = .ok values ∧
        values.shape = [responseMask.size 0] ∧
        ∀ row < responseMask.size 0, values.at1 row = correctness.at1 row :=
    perRowScalar_of_nonneg (by simp) hcorrectnessShape hbinary
  obtain ⟨difficulties, hdifficultyRead, hdifficultiesShape, _⟩ : ∃ values,
      perRowScalar (responseMask.size 0) "r2opl_difficulty" (some false) difficulty = .ok values ∧
        values.shape = [responseMask.size 0] ∧
        ∀ row < responseMask.size 0, values.at1 row = difficulty.at1 row :=
    perRowScalar_of_nonneg (by simp) hdifficultyShape hdifficulty
  refine ⟨correct.map fun value => !value.eq 0, difficulties, hdifficultiesShape, ?_⟩
  have hshapes : ¬ (studentLogProbs.shape ≠ teacherLogProbs.shape ∨
      studentLogProbs.shape ≠ responseMask.shape) := by
    rw [hstudent.shape, hteacher.shape]
    exact not_or.mpr ⟨not_not.mpr rfl, not_not.mpr rfl⟩
  have hcheck : ¬ ∃ row < responseMask.size 0,
      ((correct.at1 row).eq 0 || (correct.at1 row).eq 1) = false := by
    rintro ⟨row, hrow, hother⟩
    obtain ⟨value, hread⟩ := hcorrectness row hrow
    rw [hcorrectRows row hrow, hread] at hother
    cases value with
    | true => simp at hother
    | false => simp at hother
  simp only [sampledTokenAdvantage, sharedFields, raiseIf_of_not hshapes, ok_bind, hcorrectRead,
    raiseIf_of_not hcheck, hdifficultyRead, returns_bind, perRowScalar_vec_nonneg hcount,
    perRowScalar_vec_positive hcount, and_assoc, exists_and_left, exists_eq_left,
    sharedConfigValue_vec, Except.ok.injEq, exists_eq_left']

omit [ToString K] in
/-- The kernels accept rounded numbers that single precision holds, if `epsilon` is at most one. -/
theorem kernelsAccept_rounded {mask mask' : Tensor Bool} (halphaR : 0 ≤ alphaR)
    (halphaD : 0 ≤ alphaD) (hepsilon : 0 ≤ epsilon) (hR : alphaR ≤ binary32.largest)
    (hD : alphaD ≤ binary32.largest) :
    KernelsAccept ⟨.fin lambda_, .fin miu, .fin (binary32.roundValue alphaR),
        .fin (binary32.roundValue alphaD), .fin (binary32.roundValue epsilon)⟩ layouts
        probabilities mask mask' ↔
      epsilon ≤ 1 + 2 ^ (-binary32.precision : ℤ) := by
  have hsmall : ∀ alpha : K, 0 ≤ alpha → alpha ≤ binary32.largest →
      Flt.lt (.fin (binary32.roundValue alpha)) (.fin binary32.overflow) = true := by
    intro alpha hnonneg hle
    have hround := (round_of_lt (f := binary32) (x := alpha)
      (by rw [abs_of_nonneg hnonneg]; exact hle.trans_lt largest_lt_overflow)).2
    rw [Flt.lt_fin, decide_eq_true_eq]
    exact ((le_abs_self _).trans hround).trans_lt largest_lt_overflow
  rw [← roundValue_le_one_iff hepsilon]
  constructor
  · intro h
    have hle := h.epsilon
    rwa [Flt.one_eq, Flt.le_fin, decide_eq_true_eq] at hle
  · intro hle
    refine ⟨?_, .inl (hsmall alphaR halphaR hR), .inl (hsmall alphaD halphaD hD)⟩
    rwa [Flt.one_eq, Flt.le_fin, decide_eq_true_eq]

omit [FloorRing K] [IsStrictOrderedRing K] [ToString K] in
theorem singleRange_iff : SingleRange ⟨.fin lambda_, .fin miu, .fin alphaR, .fin alphaD,
      .fin epsilon⟩ ↔
    lambda_ ≤ binary32.largest ∧
      (2 ^ (binary32.leastExponent - 1) < miu ∧ miu ≤ binary32.largest) ∧
      alphaR ≤ binary32.largest ∧ alphaD ≤ binary32.largest ∧
      (2 ^ (binary32.leastExponent - 1) < epsilon ∧
        epsilon ≤ 1 + 2 ^ (-binary32.precision : ℤ)) := by
  constructor
  · rintro ⟨hlambda, hmiu, halphaR, halphaD, hepsilon⟩
    simp only [Flt.le_fin, Flt.lt_fin, decide_eq_true_eq] at hlambda hmiu halphaR halphaD hepsilon
    exact ⟨hlambda, hmiu, halphaR, halphaD, hepsilon⟩
  · intro h
    constructor
    all_goals simp only [Flt.le_fin, Flt.lt_fin, decide_eq_true_eq, h, and_self]

omit [ToString K] in
/-- What is rounded to at most one is far from the largest number. -/
theorem le_largest_of_le_one (h : epsilon ≤ 1 + 2 ^ (-binary32.precision : ℤ)) :
    epsilon ≤ binary32.largest := by
  refine h.trans ?_
  unfold largest binary32
  norm_num

end Numbers

/-- **The actor's loss returns exactly for the coefficients that single precision holds.** -/
theorem controllerToAdvantage_returns_iff (hvalues : ValidHyperparameters values)
    (hbatch : buildR2oplProbeBatch layouts padTokenId = .ok batch)
    (hresult : computeR2oplControllerBatch responseMask rewards ids genuine = .ok result)
    (hprobabilities : BranchProbabilities batch probabilities)
    (hcovers : CoversSteps layouts responseMask)
    (hstudent : ResponseLogProbs responseMask studentLogProbs)
    (hteacher : ResponseLogProbs responseMask teacherLogProbs) :
    Returns (controllerToAdvantage values result batch probabilities responseMask studentLogProbs
      teacherLogProbs) ↔ SingleRange values := by
  obtain ⟨hnonempty, _⟩ := buildR2oplProbeBatch_eq_ok.mp hbatch
  have hcount : 0 < responseMask.size 0 := by
    rw [hcovers.rows]
    exact List.length_pos_iff.mpr hnonempty
  obtain ⟨⟨hcorrectnessShape, hdifficultyShape⟩, hdifficulty⟩ := controllerBatch_rows hresult
  obtain ⟨lambda_, miu, alphaR, alphaD, epsilon⟩ := values
  obtain ⟨l, hl, rfl⟩ := hvalues.lambda_
  obtain ⟨m, hm, rfl⟩ := hvalues.miu
  obtain ⟨r, hr, rfl⟩ := hvalues.alphaR
  obtain ⟨d, hd, rfl⟩ := hvalues.alphaD
  obtain ⟨e, he, rfl⟩ := hvalues.epsilon
  have hcorrectness : ∀ row < responseMask.size 0, ∃ correct,
      (result.correctness.map Flt.ofBool : Tensor (Flt K)).at1 row = Flt.ofBool correct :=
    fun _ _ => ⟨_, rfl⟩
  obtain ⟨correct, difficulties, hdifficultiesShape, hloss⟩ :=
    sampledTokenAdvantage_returns_iff hcount hstudent hteacher hcorrectnessShape hcorrectness
      hdifficultyShape hdifficulty
  have hadvantage : AdvantageAdmissible studentLogProbs teacherLogProbs difficulties
      (maskRows responseMask correct) (maskRows responseMask (correct.map not)) responseMask := by
    apply advantageAdmissible_of_rows hcovers.ndim _ hdifficultiesShape hstudent hteacher
    rintro row ⟨hcorrect, herror⟩
    rw [Tensor.at1_map, hcorrect] at herror
    exact Bool.false_ne_true herror
  have hrounded : 0 < binary32.roundValue m → 0 < binary32.roundValue e →
      ValidHyperparameters (K := K) ⟨.fin (binary32.roundValue l), .fin (binary32.roundValue m),
        .fin (binary32.roundValue r), .fin (binary32.roundValue d), .fin (binary32.roundValue e)⟩ :=
    fun hmiu hepsilon => ⟨⟨_, roundValue_nonneg hl, rfl⟩, ⟨_, hmiu, rfl⟩,
      ⟨_, roundValue_nonneg hr, rfl⟩, ⟨_, roundValue_nonneg hd, rfl⟩, ⟨_, hepsilon, rfl⟩⟩
  unfold controllerToAdvantage
  rw [returns_bind, singleRange_iff]
  simp only [controllerFields_eq_ok hl hm.le hr hd he.le]
  constructor
  · rintro ⟨_, ⟨⟨hlambda, hmiu, halphaR, halphaD, _⟩, rfl⟩, hreturns⟩
    obtain ⟨⟨_, hmiuPos, _, _, hepsilonPos⟩, hkernels⟩ := hloss.mp hreturns
    have haccept := (layoutToAdvantage_returns_iff_accept (hrounded hmiuPos hepsilonPos) hbatch
      hprobabilities hcovers hadvantage).mp hkernels
    exact ⟨hlambda, ⟨roundValue_pos_iff.mp hmiuPos, hmiu⟩, halphaR, halphaD,
      roundValue_pos_iff.mp hepsilonPos,
      (kernelsAccept_rounded hr hd he.le halphaR halphaD).mp haccept⟩
  · rintro ⟨hlambda, ⟨hmiuPos, hmiu⟩, halphaR, halphaD, hepsilonPos, hepsilon⟩
    refine ⟨_, ⟨⟨hlambda, hmiu, halphaR, halphaD, le_largest_of_le_one hepsilon⟩, rfl⟩,
      hloss.mpr ⟨⟨roundValue_nonneg hl, roundValue_pos_iff.mpr hmiuPos, roundValue_nonneg hr,
        roundValue_nonneg hd, roundValue_pos_iff.mpr hepsilonPos⟩, ?_⟩⟩
    exact (layoutToAdvantage_returns_iff_accept (hrounded (roundValue_pos_iff.mpr hmiuPos)
      (roundValue_pos_iff.mpr hepsilonPos)) hbatch hprobabilities hcovers hadvantage).mpr
        ((kernelsAccept_rounded hr hd he.le halphaR halphaD).mpr hepsilon)

end Actor

/-! ### Which configurations get through -/

/-- **Which configurations get through the pipeline.**  For every configuration that
    `r2opl_hyperparameters` accepts and all built layouts, packing returns, and the two validators
    agree exactly if `epsilon ≤ 1`.  On all branch probabilities, response masks that cover the
    steps and finite log-probabilities, the kernels called with the configured numbers return for
    the coefficients of `KernelsAccept`, and behind the controller's fields for those of
    `SingleRange`. -/
theorem layoutToAdvantage_returns_iff [IsStrictOrderedRing K] {settings : R2OPLSettings K}
    {values : R2OPLHyperparameters K} {layouts : List R2OPLProbeLayout} {padTokenId : Int}
    (hsettings : r2oplHyperparameters settings = .ok values) (hnonempty : layouts ≠ [])
    (hlayouts : ∀ layout ∈ layouts, ∃ promptIds responseIds steps probe,
      buildR2oplProbeLayout promptIds responseIds steps probe = .ok layout) :
    ∃ batch, buildR2oplProbeBatch layouts padTokenId = .ok batch ∧
      (validateHyperparameters (some values.lambda_) (some values.miu) (some values.alphaR)
          (some values.alphaD) (some values.epsilon) = .ok () ↔
        Flt.le values.epsilon 1 = true) ∧
      ∀ (probabilities studentLogProbs teacherLogProbs : Tensor (Flt K))
        (responseMask : Tensor Bool),
        BranchProbabilities batch probabilities → CoversSteps layouts responseMask →
        ResponseLogProbs responseMask studentLogProbs →
        ResponseLogProbs responseMask teacherLogProbs →
        (∀ correctMask errorMask difficulty,
          ControllerOutput responseMask correctMask errorMask difficulty →
          (Returns (layoutToAdvantage values batch probabilities responseMask studentLogProbs
              teacherLogProbs correctMask errorMask difficulty) ↔
            KernelsAccept values layouts probabilities correctMask errorMask)) ∧
        ∀ rewards ids genuine (result : R2OPLControllerBatchResult K),
          computeR2oplControllerBatch responseMask rewards ids genuine = .ok result →
          (Returns (controllerToAdvantage values result batch probabilities responseMask
            studentLogProbs teacherLogProbs) ↔ SingleRange values) := by
  have hvalues := ValidHyperparameters.of_read hsettings
  have hvalid : ∀ layout ∈ layouts, ValidLayout layout := by
    intro layout hlayout
    obtain ⟨_, _, _, _, hbuilt⟩ := hlayouts layout hlayout
    exact ValidLayout.of_build hbuilt
  have hbatch : buildR2oplProbeBatch layouts padTokenId =
      .ok (packBatch layouts (layouts.map denseMask) padTokenId) :=
    buildR2oplProbeBatch_eq_ok.mpr ⟨hnonempty, hvalid, rfl⟩
  refine ⟨_, hbatch, hvalues.validate_iff, ?_⟩
  intro probabilities studentLogProbs teacherLogProbs responseMask hprobabilities hcovers hstudent
    hteacher
  constructor
  · intro correctMask errorMask difficulty hcontroller
    exact layoutToAdvantage_returns_iff_accept hvalues hbatch hprobabilities hcovers
      (hcontroller.admissible hstudent hteacher)
  · intro rewards ids genuine result hresult
    exact controllerToAdvantage_returns_iff hvalues hbatch hresult hprobabilities hcovers hstudent
      hteacher

/-! ### Two responses to one prompt -/

section Example

/-- A response of two steps behind a one-token prompt. -/
def twoStepLayout : R2OPLProbeLayout :=
  assembleLayout [11] [21, 22] [(0, 1), (1, 2)] ⟨[], [31, 32], [1], 0, 0⟩

theorem twoStepLayout_built : ∀ layout ∈ [twoStepLayout, twoStepLayout],
    ∃ promptIds responseIds steps probe,
      buildR2oplProbeLayout promptIds responseIds steps probe = .ok layout := by
  intro layout hlayout
  obtain rfl : layout = twoStepLayout := by simpa using hlayout
  refine ⟨[11], [21, 22], [.seq [0, 1], .seq [1, 2]], ⟨[], [31, 32], [1], 0, 0⟩, ?_⟩
  apply buildR2oplProbeLayout_eq_ok.mpr
  have hranges : Contiguous 2 [(0, 1), (1, 2)] :=
    ⟨rfl, by decide, by decide, rfl, by decide, by decide, trivial⟩
  refine ⟨by decide, [(0, 1), (1, 2)], rfl, hranges, ?_, rfl⟩
  intro _
  exact ⟨by decide, by decide, by decide⟩

def twoTokenMask : Tensor Bool := .mat 2 2 fun _ _ => true

/-- The probability of the answer rises from one half to one. -/
def risingProbabilities : Tensor (Flt ℚ) :=
  .mat 2 2 fun _ branch => .fin (2 ^ (if branch = 0 then -1 else 0 : ℤ))

def zeroLogProbs : Tensor (Flt ℚ) := .mat 2 2 fun _ _ => .fin 0

/-- The first response is correct, the second is not. -/
def oneCorrect : Tensor (Flt ℚ) := .vec 2 fun row => if row = 0 then .fin 1 else .fin 0

theorem twoTokenMask_covers : CoversSteps [twoStepLayout, twoStepLayout] twoTokenMask where
  ndim := rfl
  rows := rfl
  covers := by
    intro row layout hrow range hrange token _ hstop
    have hlayout : layout = twoStepLayout := by simpa using List.mem_of_getElem? hrow
    subst hlayout
    have hends : ∀ range ∈ twoStepLayout.semanticStepRanges, range.2 ≤ 2 := by decide
    exact ⟨Nat.lt_of_lt_of_le hstop (hends range hrange), rfl⟩

theorem zeroLogProbs_finite : ResponseLogProbs twoTokenMask zeroLogProbs where
  shape := rfl
  finite := fun _ _ _ _ _ => rfl

theorem risingProbabilities_in_unit {batch : R2OPLProbeBatch}
    (hbatch : buildR2oplProbeBatch [twoStepLayout, twoStepLayout] 0 = .ok batch) :
    BranchProbabilities batch risingProbabilities := by
  obtain ⟨_, _, rfl⟩ := buildR2oplProbeBatch_eq_ok.mp hbatch
  refine ⟨rfl, fun row branch _ => ⟨_, (zpow_pos two_pos _).le, ?_, ?_, rfl⟩⟩
  · split
    · norm_num
    · norm_num
  · apply represents_pow
    split
    · decide
    · decide

theorem oneCorrect_admissible : Admissible twoTokenMask oneCorrect ["a", "a"] none where
  mask_ndim := rfl
  ids_length := rfl
  genuine_shape := fun _ hnone => nomatch hnone
  rewards_ndim := .inr rfl
  rewards_size := rfl
  tokens := by decide
  binary := by decide
  some_genuine := ⟨0, by decide, rfl⟩

/-- With the default configuration both ways to the kernels return on this batch. -/
theorem layoutToAdvantage_returns_iff_default :
    ∃ (values : R2OPLHyperparameters ℚ) (batch : R2OPLProbeBatch) (outcome : R2OPLBatchResult ℚ)
      (result : R2OPLControllerBatchResult ℚ),
      r2oplHyperparameters ⟨none, none, none, none, none⟩ = .ok values ∧
      buildR2oplProbeBatch [twoStepLayout, twoStepLayout] 0 = .ok batch ∧
      computeR2oplBatch twoTokenMask oneCorrect ["a", "a"] none = .ok outcome ∧
      computeR2oplControllerBatch twoTokenMask oneCorrect ["a", "a"] none = .ok result ∧
      Returns (layoutToAdvantage values batch risingProbabilities twoTokenMask zeroLogProbs
        zeroLogProbs outcome.correctMask outcome.errorMask outcome.difficulty) ∧
      Returns (controllerToAdvantage values result batch risingProbabilities twoTokenMask
        zeroLogProbs zeroLogProbs) := by
  have hsettings : r2oplHyperparameters ⟨none, none, none, none, none⟩ =
      .ok (defaultHyperparameters : R2OPLHyperparameters ℚ) := by
    apply r2oplHyperparameters_of_valid
    exact ⟨⟨_, by norm_num, rfl⟩, ⟨_, by norm_num, rfl⟩, ⟨_, by norm_num, rfl⟩,
      ⟨_, by norm_num, rfl⟩, ⟨_, by norm_num, rfl⟩⟩
  have houtcome : computeR2oplBatch twoTokenMask oneCorrect ["a", "a"] none = .ok _ :=
    computeR2oplBatch_eq_ok.mpr ⟨oneCorrect_admissible, rfl⟩
  have hresult : computeR2oplControllerBatch twoTokenMask oneCorrect ["a", "a"] none = .ok _ :=
    computeR2oplControllerBatch_eq_ok.mpr ⟨oneCorrect_admissible, rfl⟩
  obtain ⟨batch, hbatch, _, hreturns⟩ :=
    layoutToAdvantage_returns_iff hsettings (by decide) twoStepLayout_built
  obtain ⟨hkernels, hactor⟩ := hreturns _ _ _ _ (risingProbabilities_in_unit hbatch)
    twoTokenMask_covers zeroLogProbs_finite zeroLogProbs_finite
  refine ⟨_, batch, _, _, hsettings, hbatch, houtcome, hresult,
    (hkernels _ _ _ (.batch houtcome)).mpr ?_, (hactor _ _ _ _ hresult).mpr ?_⟩
  · refine ⟨?_, .inl ?_, .inl ?_⟩
    all_goals simp only [defaultHyperparameters, Flt.one_eq, Flt.le_fin, Flt.lt_fin,
      decide_eq_true_eq, overflow, binary32]
    all_goals norm_num
  · apply singleRange_iff.mpr
    unfold largest binary32
    norm_num

/-- A configuration with `epsilon = 2` is accepted, and both ways to the kernels raise. -/
theorem layoutToAdvantage_rejects_epsilon_two :
    ∃ (values : R2OPLHyperparameters ℚ) (batch : R2OPLProbeBatch) (outcome : R2OPLBatchResult ℚ)
      (result : R2OPLControllerBatchResult ℚ),
      r2oplHyperparameters ⟨none, none, none, none, some (.fin 2)⟩ = .ok values ∧
      buildR2oplProbeBatch [twoStepLayout, twoStepLayout] 0 = .ok batch ∧
      BranchProbabilities batch risingProbabilities ∧
      CoversSteps [twoStepLayout, twoStepLayout] twoTokenMask ∧
      ResponseLogProbs twoTokenMask zeroLogProbs ∧
      computeR2oplBatch twoTokenMask oneCorrect ["a", "a"] none = .ok outcome ∧
      computeR2oplControllerBatch twoTokenMask oneCorrect ["a", "a"] none = .ok result ∧
      ¬ Returns (layoutToAdvantage values batch risingProbabilities twoTokenMask zeroLogProbs
        zeroLogProbs outcome.correctMask outcome.errorMask outcome.difficulty) ∧
      ¬ Returns (controllerToAdvantage values result batch risingProbabilities twoTokenMask
        zeroLogProbs zeroLogProbs) := by
  have hvalues : ValidHyperparameters
      { (defaultHyperparameters : R2OPLHyperparameters ℚ) with epsilon := .fin 2 } :=
    ⟨⟨_, by norm_num, rfl⟩, ⟨_, by norm_num, rfl⟩, ⟨_, by norm_num, rfl⟩,
      ⟨_, by norm_num, rfl⟩, ⟨_, by norm_num, rfl⟩⟩
  have hvalid : ∀ layout ∈ [twoStepLayout, twoStepLayout], ValidLayout layout := by
    intro layout hlayout
    obtain ⟨_, _, _, _, hbuilt⟩ := twoStepLayout_built layout hlayout
    exact ValidLayout.of_build hbuilt
  have hbatch : buildR2oplProbeBatch [twoStepLayout, twoStepLayout] 0 = .ok _ :=
    buildR2oplProbeBatch_eq_ok.mpr ⟨by decide, hvalid, rfl⟩
  have houtcome : computeR2oplBatch twoTokenMask oneCorrect ["a", "a"] none = .ok _ :=
    computeR2oplBatch_eq_ok.mpr ⟨oneCorrect_admissible, rfl⟩
  have hresult : computeR2oplControllerBatch twoTokenMask oneCorrect ["a", "a"] none = .ok _ :=
    computeR2oplControllerBatch_eq_ok.mpr ⟨oneCorrect_admissible, rfl⟩
  have hprobabilities := risingProbabilities_in_unit hbatch
  have hadmissible := (ControllerOutput.batch houtcome).admissible zeroLogProbs_finite
    zeroLogProbs_finite
  refine ⟨_, _, _, _, r2oplHyperparameters_of_valid hvalues, hbatch, hprobabilities,
    twoTokenMask_covers, zeroLogProbs_finite, houtcome, hresult, ?_, ?_⟩
  · intro hreturns
    have hle := ((layoutToAdvantage_returns_iff_accept hvalues hbatch hprobabilities
      twoTokenMask_covers hadmissible).mp hreturns).epsilon
    simp only [Flt.one_eq, Flt.le_fin, decide_eq_true_eq] at hle
    norm_num at hle
  · intro hreturns
    have hle := ((controllerToAdvantage_returns_iff hvalues hbatch hresult hprobabilities
      twoTokenMask_covers zeroLogProbs_finite zeroLogProbs_finite).mp hreturns).epsilon.2
    simp only [Flt.le_fin, decide_eq_true_eq, binary32] at hle
    norm_num at hle

end Example

end R2opl
