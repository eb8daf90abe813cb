import R2opl.Objective.BaseLoss
import Mathlib.Algebra.Order.Ring.Rat
import Mathlib.Algebra.Field.Rat
import Mathlib.Tactic.NormNum

/-!
# The branches of the R²OPL-base loss

The trainer backpropagates the correct and the error branch separately.  On every
batch the controller produces, the signal of the total branch is the sum of
theirs, clamped or not, and is the negated reference advantage.
-/

namespace R2opl

open Checked

variable {K : Type} [Field K] [LinearOrder K]

/-- Finite log-probabilities of the shape of a response mask. -/
def finiteTokens (responseMask : Tensor Bool) (values : Nat → Nat → K) : Tensor (Flt K) :=
  .mat (responseMask.size 0) (responseMask.size 1) fun row column => .fin (values row column)

/-! ### What the controller hands over -/

/-- A controller's result, row by row: a correct row is genuine, and a padding row
    has difficulty zero. -/
structure BaseOutcome (responseMask : Tensor Bool) (result : R2OPLBaseBatchResult K)
    (correct genuine : Nat → Bool) (difficulty : Nat → K) : Prop where
  ndim : responseMask.ndim = 2
  correct_mask : result.correctMask =
    .mat (responseMask.size 0) (responseMask.size 1) fun row column =>
      responseMask.at2 row column && correct row
  error_mask : result.errorMask =
    .mat (responseMask.size 0) (responseMask.size 1) fun row column =>
      responseMask.at2 row column && (genuine row && !correct row)
  difficulty_eq : ∀ row < responseMask.size 0,
    result.difficulty.at1 row = .fin (difficulty row)
  padding : ∀ row, genuine row = false → difficulty row = 0
  genuine_of_correct : ∀ row, correct row = true → genuine row = true

section Outcome

variable [ToString K] [IsStrictOrderedRing K]
  {oldLogProbs oldTeacherLogProbs verifierRewards : Tensor (Flt K)} {responseMask : Tensor Bool}
  {ids : List String} {lambda_ miu : Flt K}
  {truncatedMask probeCorrectMask genuineTrajectoryMask : Option (Tensor Bool)}
  {result : R2OPLBaseBatchResult K}

theorem BaseOutcome.of_batch
    (h : computeR2oplBaseBatch oldLogProbs oldTeacherLogProbs responseMask verifierRewards ids
      lambda_ miu truncatedMask probeCorrectMask genuineTrajectoryMask = .ok result) :
    ∃ correct genuine difficulty,
      BaseOutcome responseMask result correct genuine difficulty := by
  obtain ⟨haccepted, _, hresult⟩ := computeR2oplBaseBatch_eq_ok h
  let genuine := genuineMask (responseMask.size 0) genuineTrajectoryMask
  let group := fun row => groupDifficulty K ids genuine result.correctness (groupId ids row)
  refine ⟨result.correctness.at1, genuine.at1,
    fun row => if genuine.at1 row then group row else 0, ?_⟩
  rw [hresult]
  exact {
    ndim := haccepted.mask_ndim
    correct_mask := rfl
    error_mask := rfl
    difficulty_eq := by
      intro row hrow
      have hids : row < ids.length := by
        rw [haccepted.ids_length]
        exact hrow
      by_cases hgenuine : genuine.at1 row = true
      · rw [if_pos hgenuine]
        simp only [group]
        rw [hresult]
        exact difficulty_of_genuine hids hgenuine
      · rw [if_neg hgenuine]
        exact difficulty_of_padding hids (Bool.eq_false_iff.mpr hgenuine)
    padding := by
      intro row hpadding
      rw [hpadding]
      rfl
    genuine_of_correct := fun row hcorrect => (Bool.and_eq_true _ _ ▸ hcorrect).2 }

end Outcome

/-! ### The runs -/

/-- The signal of a branch on a token of a row of difficulty `d`, where the teacher
    is `gap` above the student. -/
def branchSignal (lambda_ miu d gap : K) (token correct genuine : Bool) : GradientBranch → K
  | .correct => if token && correct then -(d * miu) else 0
  | .error => if token && (genuine && !correct) then -(d * lambda_ * gap) else 0
  | .total => if token then if correct then -(d * miu) else -(d * lambda_ * gap) else 0
  | .other _ => 0

omit [Field K] [LinearOrder K] in
theorem coefficientOfField_constant (name invalidMessage : String) (invalid : Flt K → Bool)
    {c : Flt K} (batchSize : Nat) (hfinite : c.isFinite = true)
    (hvalid : invalid c = false) :
    ∃ rows, coefficientOfField name invalidMessage invalid batchSize
        (.vec batchSize fun _ => c) = .ok rows ∧
      ∀ row < batchSize, rows.at1 row = c := by
  have hnumel : (Tensor.vec batchSize fun _ => c).flatten.numel = batchSize := by
    apply Tensor.numel_of_shape
    rw [Tensor.shape_flatten, Tensor.numel_of_shape rfl]
  have hvalue : ∀ row, (Tensor.vec batchSize fun _ => c).flatten.at1 row = c :=
    fun row => Tensor.at1_flatten rfl row
  unfold coefficientOfField
  simp only [hnumel, hvalue]
  rw [raiseIf_of_not (fun h => h.2 rfl), ok_bind, raiseIf_of_not]
  · refine ⟨_, rfl, ?_⟩
    intro row _
    rw [Tensor.at1_vec]
    split <;> rfl
  · rintro ⟨_, _, hinfinite | hinvalid⟩
    · rw [hfinite] at hinfinite
      exact Bool.noConfusion hinfinite
    · rw [hvalid] at hinvalid
      exact Bool.noConfusion hinvalid

section Runs

variable {responseMask : Tensor Bool} {result : R2OPLBaseBatchResult K}
  {correct genuine : Nat → Bool} {difficulty : Nat → K}

/-- What the loss demands of the fields it is given. -/
structure BaseLossAdmissible (studentLogProbs teacherLogProbs : Tensor (Flt K))
    (data : BaseLossData K) : Prop where
  shapes : studentLogProbs.shape = data.responseMask.shape ∧
    teacherLogProbs.shape = data.responseMask.shape ∧
    data.correctMask.shape = data.responseMask.shape ∧
    data.errorMask.shape = data.responseMask.shape ∧
    data.difficulty.shape = data.responseMask.shape
  disjoint : ∀ row column,
    (data.correctMask.at2 row column && data.errorMask.at2 row column) = false
  subset : ∀ row column, ((data.correctMask.at2 row column || data.errorMask.at2 row column) &&
    !data.responseMask.at2 row column) = false
  finite : FiniteOn data.difficulty data.responseMask

theorem computeR2oplBaseSampledTokenLoss_of_admissible [ToString K]
    {studentLogProbs teacherLogProbs : Tensor (Flt K)} {data : BaseLossData K}
    (configured : Flt K) {branch : GradientBranch} {lambdas mius signal : Tensor (Flt K)}
    {metricMask : Tensor Bool} (h : BaseLossAdmissible studentLogProbs teacherLogProbs data)
    (hlambda : lambdaRows (data.responseMask.size 0) configured data.lambda_ = .ok lambdas)
    (hmiu : miuRows (data.responseMask.size 0) data.miu = .ok mius)
    (hbranch : branchAdvantage data (correctAdvantage data.difficulty mius)
      (errorAdvantage data.difficulty lambdas
        (teacherMinusStudent studentLogProbs teacherLogProbs)) branch =
          .ok (signal, metricMask)) :
    ∃ metrics, computeR2oplBaseSampledTokenLoss configured studentLogProbs teacherLogProbs
      (some data) branch =
        .ok ((maskTokens signal data.responseMask).map (- ·), metrics) := by
  have hdisjoint : ¬ ∃ row < data.responseMask.size 0, ∃ column < data.responseMask.size 1,
      (data.correctMask.at2 row column && data.errorMask.at2 row column) = true := by
    rintro ⟨row, _, column, _, hboth⟩
    rw [h.disjoint row column] at hboth
    exact Bool.noConfusion hboth
  have hsubset : ¬ ∃ row < data.responseMask.size 0, ∃ column < data.responseMask.size 1,
      ((data.correctMask.at2 row column || data.errorMask.at2 row column) &&
        !data.responseMask.at2 row column) = true := by
    rintro ⟨row, _, column, _, houtside⟩
    rw [h.subset row column] at houtside
    exact Bool.noConfusion houtside
  unfold computeR2oplBaseSampledTokenLoss
  simp only [Option.elim_some, ok_bind]
  rw [raiseIf_of_not (not_not.mpr h.shapes), ok_bind, raiseIf_of_not hdisjoint, ok_bind,
    raiseIf_of_not hsubset, ok_bind, raiseIf_of_not (not_not.mpr h.finite), ok_bind,
    hlambda, ok_bind, hmiu, ok_bind, hbranch, ok_bind]
  exact ⟨_, rfl⟩

section Materialized

variable {lambda_ miu : Flt K}

/-- The difficulty the trainer stores is the row's on its tokens. -/
theorem materializedFields_difficulty
    (houtcome : BaseOutcome responseMask result correct genuine difficulty)
    {row : Nat} (hrow : row < responseMask.size 0) (column : Nat) :
    (materializedFields responseMask result lambda_ miu).difficulty.at2 row column =
      .fin (if responseMask.at2 row column then difficulty row else 0) := by
  simp only [materializedFields, maskTokens, Tensor.at2_mat, Tensor.at2_expandRows,
    houtcome.difficulty_eq row hrow]
  cases responseMask.at2 row column <;> simp

theorem materializedFields_admissible
    (houtcome : BaseOutcome responseMask result correct genuine difficulty)
    (student teacher : Nat → Nat → K) :
    BaseLossAdmissible (finiteTokens responseMask student) (finiteTokens responseMask teacher)
      (materializedFields responseMask result lambda_ miu) := by
  have hshape : [responseMask.size 0, responseMask.size 1] = responseMask.shape :=
    (Tensor.shape_of_ndim houtcome.ndim).symm
  exact {
    shapes := by
      refine ⟨hshape, hshape, ?_, ?_, hshape⟩
      · exact (congrArg Tensor.shape houtcome.correct_mask).trans hshape
      · exact (congrArg Tensor.shape houtcome.error_mask).trans hshape
    disjoint := by
      intro row column
      simp only [materializedFields, houtcome.correct_mask, houtcome.error_mask,
        Tensor.at2_mat]
      cases correct row <;> simp
    subset := by
      intro row column
      simp only [materializedFields, houtcome.correct_mask, houtcome.error_mask,
        Tensor.at2_mat]
      cases responseMask.at2 row column <;> simp
    finite := by
      intro row hrow column _ _
      rw [materializedFields_difficulty houtcome hrow]
      rfl }

/-- The advantage of a branch, with its response mask applied, as the loss computes it. -/
theorem branchAdvantage_materialized
    (houtcome : BaseOutcome responseMask result correct genuine difficulty)
    (student teacher : Nat → Nat → K) {lambda_ miu : K} {lambdas mius : Tensor (Flt K)}
    (hlambda : ∀ row < responseMask.size 0, lambdas.at1 row = .fin lambda_)
    (hmiu : ∀ row < responseMask.size 0, mius.at1 row = .fin miu)
    {branch : GradientBranch} (hbranch : ∀ text, branch ≠ .other text) :
    let data := materializedFields responseMask result (.fin lambda_) (.fin miu)
    ∃ signal metricMask, branchAdvantage data (correctAdvantage data.difficulty mius)
        (errorAdvantage data.difficulty lambdas (teacherMinusStudent
          (finiteTokens responseMask student) (finiteTokens responseMask teacher))) branch =
        .ok (signal, metricMask) ∧
      (maskTokens signal responseMask).shape = responseMask.shape ∧
      ∀ row < responseMask.size 0, ∀ column < responseMask.size 1,
        -(maskTokens signal responseMask).at2 row column =
          .fin (branchSignal lambda_ miu (difficulty row)
            (teacher row column - student row column) (responseMask.at2 row column)
            (correct row) (genuine row) branch) := by
  intro data
  have hshape : [responseMask.size 0, responseMask.size 1] = responseMask.shape :=
    (Tensor.shape_of_ndim houtcome.ndim).symm
  cases branch with
  | other text => exact absurd rfl (hbranch text)
  | correct =>
    refine ⟨_, _, rfl, hshape, ?_⟩
    intro row hrow column hcolumn
    simp only [maskTokens, correctAdvantage, Tensor.at2_mat, hmiu row hrow, data,
      materializedFields_difficulty houtcome hrow]
    simp only [materializedFields, houtcome.correct_mask, Tensor.at2_mat, branchSignal]
    cases responseMask.at2 row column <;> cases correct row <;> simp
  | error =>
    refine ⟨_, _, rfl, hshape, ?_⟩
    intro row hrow column hcolumn
    simp only [maskTokens, errorAdvantage, Tensor.at2_mat, hlambda row hrow, data,
      materializedFields_difficulty houtcome hrow, teacherMinusStudent, finiteTokens]
    simp only [materializedFields, houtcome.error_mask, Tensor.at2_mat, branchSignal]
    cases responseMask.at2 row column <;> cases correct row <;> cases genuine row <;> simp
  | total =>
    refine ⟨_, _, rfl, hshape, ?_⟩
    intro row hrow column hcolumn
    simp only [maskTokens, whereTokens, correctAdvantage, errorAdvantage, Tensor.at2_mat,
      hlambda row hrow, hmiu row hrow, data, materializedFields_difficulty houtcome hrow,
      teacherMinusStudent, finiteTokens]
    simp only [materializedFields, houtcome.correct_mask, Tensor.at2_mat, branchSignal]
    cases responseMask.at2 row column <;> cases correct row <;> simp

end Materialized

/-- Every supported branch runs on the stored fields. -/
theorem branch_run [ToString K] [IsStrictOrderedRing K]
    (houtcome : BaseOutcome responseMask result correct genuine difficulty)
    (configured : Flt K) (student teacher : Nat → Nat → K) {lambda_ miu : K}
    (hlambda : 0 ≤ lambda_) (hmiu : 0 < miu) {branch : GradientBranch}
    (hbranch : ∀ text, branch ≠ .other text) :
    ∃ losses metrics, computeR2oplBaseSampledTokenLoss configured
        (finiteTokens responseMask student) (finiteTokens responseMask teacher)
        (some (materializedFields responseMask result (.fin lambda_) (.fin miu))) branch =
          .ok (losses, metrics) ∧
      losses.shape = responseMask.shape ∧
      ∀ row < responseMask.size 0, ∀ column < responseMask.size 1,
        losses.at2 row column = .fin (branchSignal lambda_ miu (difficulty row)
          (teacher row column - student row column) (responseMask.at2 row column)
          (correct row) (genuine row) branch) := by
  obtain ⟨lambdas, hlambdas, hlambdaRow⟩ :=
    coefficientOfField_constant "lambda"
      "R²OPL-base lambda values must be finite and non-negative." (Flt.lt · 0)
      (responseMask.size 0) (Flt.isFinite_fin lambda_) (by simpa using hlambda)
  obtain ⟨mius, hmius, hmiuRow⟩ :=
    coefficientOfField_constant "miu"
      "R²OPL-base miu values must be finite and positive." (Flt.le · 0)
      (responseMask.size 0) (Flt.isFinite_fin miu) (by simpa using hmiu)
  obtain ⟨signal, metricMask, hsignal, hshape, hvalues⟩ :=
    branchAdvantage_materialized houtcome student teacher hlambdaRow hmiuRow hbranch
  obtain ⟨metrics, hrun⟩ := computeR2oplBaseSampledTokenLoss_of_admissible configured
    (materializedFields_admissible houtcome student teacher) hlambdas hmius hsignal
  exact ⟨_, metrics, hrun, hshape, hvalues⟩

/-! ### The sum -/

omit [LinearOrder K] in
theorem branchSignal_correct_or_error (lambda_ miu : K) (correct genuine : Bool) :
    (∀ d gap token, branchSignal lambda_ miu d gap token correct genuine .correct = 0) ∨
      ∀ d gap token, branchSignal lambda_ miu d gap token correct genuine .error = 0 := by
  cases correct with
  | false => exact .inl fun d gap token => if_neg (by simp)
  | true => exact .inr fun d gap token => if_neg (by simp)

omit [LinearOrder K] in
/-- Padding rows have difficulty zero, every other row is correct or an error. -/
theorem branchSignal_total (lambda_ miu gap : K) {d : K} (token : Bool) {correct genuine : Bool}
    (hpadding : genuine = false → d = 0) (hgenuine : correct = true → genuine = true) :
    branchSignal lambda_ miu d gap token correct genuine .total =
      branchSignal lambda_ miu d gap token correct genuine .correct +
        branchSignal lambda_ miu d gap token correct genuine .error := by
  cases genuine with
  | true => cases token <;> cases correct <;> simp [branchSignal]
  | false =>
    rw [hpadding rfl]
    cases token <;> cases correct <;> simp [branchSignal]

/-- The clamp adds where one of the two signals vanishes. -/
theorem clampValue_add [IsStrictOrderedRing K] {bound : Option K} (hbound : ∀ c ∈ bound, 0 ≤ c)
    {x y : K} (h : x = 0 ∨ y = 0) :
    clampValue bound (x + y) = clampValue bound x + clampValue bound y := by
  rcases h with rfl | rfl
  · rw [clampValue_zero hbound, zero_add, zero_add]
  · rw [clampValue_zero hbound, add_zero, add_zero]

/-- The reference advantage on a controller's result. -/
theorem r2oplBaseTokenAdvantage_of_outcome
    (houtcome : BaseOutcome responseMask result correct genuine difficulty)
    (student teacher : Nat → Nat → K) (lambda_ miu : K) {row : Nat}
    (hrow : row < responseMask.size 0) (column : Nat) :
    (r2oplBaseTokenAdvantage (finiteTokens responseMask student)
        (finiteTokens responseMask teacher) result.correctMask
        (result.difficulty.expandRows (responseMask.size 0) (responseMask.size 1))
        responseMask (.fin lambda_) (.fin miu)).at2 row column =
      .fin (-branchSignal lambda_ miu (difficulty row)
        (teacher row column - student row column) (responseMask.at2 row column)
        (correct row) (genuine row) .total) := by
  simp only [r2oplBaseTokenAdvantage, finiteTokens, Tensor.at2_mat, Tensor.at2_expandRows,
    houtcome.difficulty_eq row hrow, houtcome.correct_mask, branchSignal]
  cases responseMask.at2 row column <;> cases correct row <;> simp

end Runs

variable [ToString K] [IsStrictOrderedRing K]
  {oldLogProbs oldTeacherLogProbs verifierRewards : Tensor (Flt K)} {responseMask : Tensor Bool}
  {ids : List String} {lambda_ miu : Flt K}
  {truncatedMask probeCorrectMask genuineTrajectoryMask : Option (Tensor Bool)}
  {result : R2OPLBaseBatchResult K}

/-- On every batch of the controller, the three branches run on the stored fields; the
    clamped signal of the total branch is the sum of the clamped signals of the other
    two, one of which vanishes on the whole row; and the unclamped total is the negated
    reference advantage. -/
theorem base_total_is_sum_of_branches
    (hbatch : computeR2oplBaseBatch oldLogProbs oldTeacherLogProbs responseMask
      verifierRewards ids lambda_ miu truncatedMask probeCorrectMask genuineTrajectoryMask =
        .ok result)
    (configured : Flt K) (student teacher : Nat → Nat → K) {bound : Option K}
    (hbound : ∀ c ∈ bound, 0 ≤ c) :
    ∃ losses : GradientBranch → Tensor (Flt K),
      (∀ branch, (∀ text, branch ≠ .other text) →
        (losses branch).shape = responseMask.shape ∧
        ∃ metrics, computeR2oplBaseSampledTokenLoss configured
          (finiteTokens responseMask student) (finiteTokens responseMask teacher)
          (some (materializedFields responseMask result lambda_ miu)) branch =
            .ok (losses branch, metrics)) ∧
      ∀ row < responseMask.size 0,
        (∀ column < responseMask.size 1,
          clampSignal (bound.map .fin) ((losses .total).at2 row column) =
            clampSignal (bound.map .fin) ((losses .correct).at2 row column) +
              clampSignal (bound.map .fin) ((losses .error).at2 row column)) ∧
        ((∀ column < responseMask.size 1,
            clampSignal (bound.map .fin) ((losses .correct).at2 row column) = 0) ∨
          ∀ column < responseMask.size 1,
            clampSignal (bound.map .fin) ((losses .error).at2 row column) = 0) ∧
        ∀ column < responseMask.size 1, (losses .total).at2 row column =
          -(r2oplBaseTokenAdvantage (finiteTokens responseMask student)
            (finiteTokens responseMask teacher) result.correctMask
            (result.difficulty.expandRows (responseMask.size 0) (responseMask.size 1))
            responseMask lambda_ miu).at2 row column := by
  obtain ⟨correct, genuine, difficulty, houtcome⟩ := BaseOutcome.of_batch hbatch
  obtain ⟨_, hadmissible, _⟩ := computeR2oplBaseBatch_eq_ok hbatch
  obtain ⟨lambda_, hlambda, rfl⟩ := hadmissible.lambda_
  obtain ⟨miu, hmiu, rfl⟩ := hadmissible.miu
  have hruns := fun branch (hbranch : ∀ text, branch ≠ GradientBranch.other text) =>
    branch_run houtcome configured student teacher hlambda hmiu hbranch
  obtain ⟨correctLosses, _, hcorrectRun, hcorrectShape, hcorrect⟩ := hruns .correct (by simp)
  obtain ⟨errorLosses, _, herrorRun, herrorShape, herror⟩ := hruns .error (by simp)
  obtain ⟨totalLosses, _, htotalRun, htotalShape, htotal⟩ := hruns .total (by simp)
  refine ⟨fun | .correct => correctLosses | .error => errorLosses | _ => totalLosses, ?_, ?_⟩
  · intro branch hbranch
    cases branch with
    | correct => exact ⟨hcorrectShape, _, hcorrectRun⟩
    | error => exact ⟨herrorShape, _, herrorRun⟩
    | total => exact ⟨htotalShape, _, htotalRun⟩
    | other text => exact absurd rfl (hbranch text)
  intro row hrow
  have hvanishes := branchSignal_correct_or_error lambda_ miu (correct row) (genuine row)
  refine ⟨?_, ?_, ?_⟩
  · intro column hcolumn
    simp only [hcorrect row hrow column hcolumn, herror row hrow column hcolumn,
      htotal row hrow column hcolumn, clampSignal_fin, Flt.fin_add]
    rw [branchSignal_total _ _ _ _ (houtcome.padding row) (houtcome.genuine_of_correct row),
      clampValue_add hbound]
    exact hvanishes.imp (fun h => h _ _ _) (fun h => h _ _ _)
  · rcases hvanishes with hzero | hzero
    · refine .inl fun column hcolumn => ?_
      simp only [hcorrect row hrow column hcolumn, clampSignal_fin, hzero,
        clampValue_zero hbound]
      rfl
    · refine .inr fun column hcolumn => ?_
      simp only [herror row hrow column hcolumn, clampSignal_fin, hzero,
        clampValue_zero hbound]
      rfl
  · intro column hcolumn
    simp only [htotal row hrow column hcolumn]
    rw [r2oplBaseTokenAdvantage_of_outcome houtcome student teacher lambda_ miu hrow,
      Flt.neg_fin, neg_neg]

/-- A correct and an incorrect answer to one prompt, one token each. -/
def twoAnswers : Tensor Bool := .mat 2 1 fun _ _ => true

def twoAnswersZero : Tensor (Flt ℚ) := .mat 2 1 fun _ _ => .fin 0

/-- With the teacher surer of both answers, the total signals are the sums of the
    clamped branch signals. -/
theorem base_total_is_sum_of_branches_two_answers :
    ∃ (result : R2OPLBaseBatchResult ℚ) (losses : GradientBranch → Tensor (Flt ℚ)),
      computeR2oplBaseBatch twoAnswersZero twoAnswersZero twoAnswers
        (.vec 2 fun row => .fin (if row = 0 then 1 else 0)) ["a", "a"] (.fin (1 / 20)) (.fin 4)
        none none none = .ok result ∧
      (∃ metrics, computeR2oplBaseSampledTokenLoss (.fin 0)
        (finiteTokens twoAnswers fun _ _ => -2) (finiteTokens twoAnswers fun _ _ => -1)
        (some (materializedFields twoAnswers result (.fin (1 / 20)) (.fin 4))) .total =
          .ok (losses .total, metrics)) ∧
      ∀ row < 2, clampSignal (some (.fin 1)) ((losses .total).at2 row 0) =
        clampSignal (some (.fin 1)) ((losses .correct).at2 row 0) +
          clampSignal (some (.fin 1)) ((losses .error).at2 row 0) := by
  have haccepted : Admissible twoAnswers
      (.vec 2 fun row => .fin (if row = 0 then (1 : ℚ) else 0)) ["a", "a"] none :=
    { mask_ndim := rfl
      ids_length := rfl
      genuine_shape := nofun
      rewards_ndim := .inr rfl
      rewards_size := rfl
      tokens := by decide
      binary := by decide
      some_genuine := ⟨0, by decide, rfl⟩ }
  have hbase : BaseAdmissible twoAnswersZero twoAnswersZero twoAnswers (.fin (1 / 20)) (.fin 4)
      none none none :=
    { student_shape := rfl
      teacher_shape := rfl
      lambda_ := ⟨1 / 20, by norm_num, rfl⟩
      miu := ⟨4, by norm_num, rfl⟩
      truncated_shape := nofun
      probe_shape := nofun
      student_finite := fun _ _ _ _ _ => rfl
      teacher_finite := fun _ _ _ _ _ => rfl }
  have hbound : ∀ c ∈ some (1 : ℚ), 0 ≤ c := by simp
  obtain ⟨result, hbatch⟩ := computeR2oplBaseBatch_returns haccepted hbase
  obtain ⟨losses, hruns, hsum⟩ := base_total_is_sum_of_branches hbatch (.fin 0)
    (fun _ _ => -2) (fun _ _ => -1) hbound
  refine ⟨result, losses, hbatch, (hruns .total (by simp)).2, ?_⟩
  intro row hrow
  exact (hsum row hrow).1 0 (by decide)

end R2opl
