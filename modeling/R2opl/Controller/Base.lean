import R2opl.Controller.Groups
import R2opl.Objective.Hyperparameters

/-!
# The R²OPL-base controller

`compute_r2opl_base_batch` (`algorithms/r2opl_base.py`).  A truncated row whose
answer probe passes is *rescued*: it counts as correct although the verifier
rejected it.  The controller also reports the distillation signal of the
pre-update log-probabilities.
-/

namespace R2opl

open Checked

variable {K : Type} [Field K] [LinearOrder K]

/-! ### Outcomes with rescue -/

/-- `truncated & probe_correct & ~verifier_correct`. -/
def rescuedRows (batchSize : Nat) (rewards : Tensor (Flt K)) (truncated probeCorrect : Tensor Bool) :
    Tensor Bool :=
  .vec batchSize fun row =>
    truncated.at1 row && probeCorrect.at1 row && !(rewards.at1 row).eq 1

/-- `(verifier_correct | probe_rescued) & genuine`. -/
def rescuedCorrectRows (batchSize : Nat) (rewards : Tensor (Flt K))
    (rescued genuine : Tensor Bool) : Tensor Bool :=
  .vec batchSize fun row =>
    ((rewards.at1 row).eq 1 || rescued.at1 row) && genuine.at1 row

/-- `left & right` on row masks. -/
def bothRows (left right : Tensor Bool) : Tensor Bool :=
  .vec (left.size 0) fun row => left.at1 row && right.at1 row

/-- The entries on truncation and rescue. -/
def rescueMetrics (scope : String) (genuine truncated rescued : Tensor Bool) :
    List (String × Flt K) :=
  let truncatedCount : Flt K := countRows (bothRows genuine truncated)
  [(scope ++ "truncated_trajectory_count", truncatedCount),
    (scope ++ "response_truncated_ratio", truncatedCount / countRows genuine),
    (scope ++ "probe_rescued_trajectory_count", countRows rescued),
    (scope ++ "probe_rescued_ratio", Flt.mean ((rescued.select genuine).map Flt.ofBool))]

/-! ### Metrics of the pre-update signal -/

/-- `_safe_mean`. -/
def safeMean (values : List (Flt K)) : Flt K := Flt.meanOrZero values

/-- `_trajectory_means`: the token mean of every selected row. -/
def trajectoryMeans (values : Tensor (Flt K)) (tokenMask trajectoryMask : Tensor Bool) :
    Except PyError (List (Flt K)) := do
  let selected := (List.range (values.size 0)).filter trajectoryMask.at1
  if selected = [] then return []
  raiseIf (∃ row ∈ selected, tokenCount tokenMask row = 0) (valueError
    "R^2OPL-base cannot reduce a selected trajectory with no response tokens.")
  return selected.map fun row =>
    ((List.range (values.size 1)).map fun column =>
        values.at2 row column * Flt.ofBool (tokenMask.at2 row column)).sum /
      Flt.fin ((max 1 (tokenCount tokenMask row) : Nat) : K)

/-- `teacher_log_probs.float() - old_log_probs.float()`. -/
def teacherMinusStudent (student teacher : Tensor (Flt K)) : Tensor (Flt K) :=
  .mat (student.size 0) (student.size 1) fun row column =>
    teacher.at2 row column - student.at2 row column

/-- `difficulty.unsqueeze(-1) * coefficient * signal`. -/
def scaledSignal (difficulty : Tensor (Flt K)) (coefficient : Flt K)
    (signal : Tensor (Flt K)) : Tensor (Flt K) :=
  .mat (signal.size 0) (signal.size 1) fun row column =>
    difficulty.at1 row * coefficient * signal.at2 row column

/-- The five token means the controller reports. -/
def signalMetrics (signal difficulty : Tensor (Flt K)) (correctness errorRows correctMask
    errorMask : Tensor Bool) (lambda_ miu : Flt K) :
    Except PyError (List (String × Flt K)) := do
  let correctScaled : Tensor (Flt K) := .mat (signal.size 0) (signal.size 1)
    fun row _ => difficulty.at1 row * miu
  let errorScaled := scaledSignal difficulty lambda_ signal
  let correctMeans ← trajectoryMeans correctScaled correctMask correctness
  let errorMeans ← trajectoryMeans errorScaled errorMask errorRows
  let errorAbsMeans ← trajectoryMeans (errorScaled.map Flt.abs) errorMask errorRows
  let rawErrorMeans ← trajectoryMeans signal errorMask errorRows
  let rawErrorAbsMeans ← trajectoryMeans (signal.map Flt.abs) errorMask errorRows
  return [("r2opl_base/train/correct_advantage_mean", safeMean correctMeans),
    ("r2opl_base/train/correct_raw_advantage_mean",
      if (List.range (correctMask.size 0)).any fun row => tokenCount correctMask row ≠ 0
      then miu else 0),
    ("r2opl_base/train/error_opd_advantage_mean", safeMean errorMeans),
    ("r2opl_base/train/error_opd_abs_advantage_mean", safeMean errorAbsMeans),
    ("r2opl_base/train/error_raw_opd_mean", safeMean rawErrorMeans),
    ("r2opl_base/train/error_raw_opd_abs_mean", safeMean rawErrorAbsMeans)]

/-! ### The controller -/

/-- Controller-materialized group statistics and token masks. -/
structure R2OPLBaseBatchResult (K : Type) where
  correctMask : Tensor Bool
  errorMask : Tensor Bool
  difficulty : Tensor (Flt K)
  correctness : Tensor Bool
  truncated : Tensor Bool
  probeRescued : Tensor Bool
  groupSuccess : List (Flt K)
  metrics : List (String × Flt K)

def baseBatchResult (responseMask : Tensor Bool) (rewards : Tensor (Flt K))
    (promptGroupIds : List String) (genuine truncated probeCorrect : Tensor Bool)
    (metrics : List (String × Flt K)) : R2OPLBaseBatchResult K :=
  let rescued := rescuedRows (responseMask.size 0) rewards truncated probeCorrect
  let correctness := rescuedCorrectRows (responseMask.size 0) rewards rescued genuine
  let statistics := groupStatistics (responseMask.size 0) promptGroupIds genuine correctness
  { correctMask := maskRows responseMask correctness
    errorMask := maskRows responseMask (exceptRows genuine correctness)
    difficulty := statistics.difficulty
    correctness := correctness
    truncated := bothRows truncated genuine
    probeRescued := rescued
    groupSuccess := statistics.groupSuccess
    metrics := metrics }

def computeR2oplBaseBatch [ToString K] (oldLogProbs teacherLogProbs : Tensor (Flt K))
    (responseMask : Tensor Bool) (verifierRewards : Tensor (Flt K))
    (promptGroupIds : List String) (lambda_ miu : Flt K)
    (truncatedMask probeCorrectMask genuineTrajectoryMask : Option (Tensor Bool)) :
    Except PyError (R2OPLBaseBatchResult K) := do
  raiseIf (oldLogProbs.ndim ≠ 2 ∨ teacherLogProbs.ndim ≠ 2 ∨ responseMask.ndim ≠ 2)
    (valueError "R^2OPL-base token tensors must all be two-dimensional.")
  raiseIf (oldLogProbs.shape ≠ teacherLogProbs.shape ∨
      oldLogProbs.shape ≠ responseMask.shape)
    (valueError ("R^2OPL-base Student/Teacher log-probs and response mask must have identical shapes; got " ++
      s!"old_log_probs={shapeText oldLogProbs.shape}, teacher_log_probs={shapeText teacherLogProbs.shape}, response_mask={shapeText responseMask.shape}."))
  checkNonNegative "R^2OPL-base lambda must be finite and non-negative; got " lambda_
  checkPositive "R^2OPL-base miu must be finite and positive; got " miu
  let batchSize := responseMask.size 0
  raiseIf (promptGroupIds.length ≠ batchSize)
    (valueError "R^2OPL-base prompt_group_ids must have one entry per trajectory.")
  checkRowMask "R^2OPL-base genuine_trajectory_mask must have one entry per trajectory."
    batchSize genuineTrajectoryMask
  let genuine := genuineMask batchSize genuineTrajectoryMask
  checkRowMask "R^2OPL-base truncated_mask must have one entry per trajectory."
    batchSize truncatedMask
  let truncated := flagMask batchSize truncatedMask
  checkRowMask "R^2OPL-base probe_correct_mask must have one entry per trajectory."
    batchSize probeCorrectMask
  let probeCorrect := flagMask batchSize probeCorrectMask
  let rewards ← sequenceRewards
    "R^2OPL-base verifier reward batch size must match trajectories."
    "R^2OPL-base verifier_rewards must be one- or two-dimensional." verifierRewards batchSize
  raiseOnEmptyRows
    "R^2OPL-base cannot score a genuine trajectory with no response tokens; empty rows: " ""
    responseMask genuine
  validateBinaryRewards "R^2OPL-base verifier rewards must be finite."
    "R^2OPL-base requires binary verifier rewards in \x7b0, 1\x7d; got invalid values " ""
    (rewards.select genuine)
  let genuineTokens := maskRows responseMask genuine
  raiseIf (¬ FiniteOn oldLogProbs genuineTokens)
    (valueError "R^2OPL-base Student log-probabilities must be finite.")
  raiseIf (¬ FiniteOn teacherLogProbs genuineTokens)
    (valueError "R^2OPL-base Teacher log-probabilities must be finite.")
  let rescued := rescuedRows batchSize rewards truncated probeCorrect
  let correctness := rescuedCorrectRows batchSize rewards rescued genuine
  let statistics := groupStatistics batchSize promptGroupIds genuine correctness
  raiseIf (statistics.groupSuccess = [])
    (valueError "R^2OPL-base requires at least one genuine prompt group.")
  let errorRows := exceptRows genuine correctness
  let correctMask := maskRows responseMask correctness
  let errorMask := maskRows responseMask errorRows
  let signals ← signalMetrics (teacherMinusStudent oldLogProbs teacherLogProbs)
    statistics.difficulty correctness errorRows correctMask errorMask lambda_ miu
  let metrics :=
    outcomeMetrics "r2opl_base/train/" genuine correctness statistics.groupSuccess ++
      rescueMetrics "r2opl_base/train/" genuine truncated rescued ++ signals ++
      [("r2opl_base/train/correct_token_count", countTokens correctMask),
        ("r2opl_base/train/error_token_count", countTokens errorMask),
        ("r2opl_base/train/lambda", lambda_), ("r2opl_base/train/miu", miu)]
  return baseBatchResult responseMask rewards promptGroupIds genuine truncated probeCorrect
    metrics

/-! ### What it accepts and returns -/

/-- What the controller asks of its log-probabilities, coefficients and masks
    beyond the rows themselves. -/
structure BaseAdmissible (oldLogProbs teacherLogProbs : Tensor (Flt K))
    (responseMask : Tensor Bool) (lambda_ miu : Flt K)
    (truncatedMask probeCorrectMask genuineTrajectoryMask : Option (Tensor Bool)) : Prop where
  student_shape : oldLogProbs.shape = responseMask.shape
  teacher_shape : teacherLogProbs.shape = responseMask.shape
  lambda_ : ∃ x, 0 ≤ x ∧ lambda_ = .fin x
  miu : ∃ x, 0 < x ∧ miu = .fin x
  truncated_shape : ∀ given, truncatedMask = some given →
    given.ndim = 1 ∧ given.size 0 = responseMask.size 0
  probe_shape : ∀ given, probeCorrectMask = some given →
    given.ndim = 1 ∧ given.size 0 = responseMask.size 0
  student_finite : FiniteOn oldLogProbs
    (maskRows responseMask (genuineMask (responseMask.size 0) genuineTrajectoryMask))
  teacher_finite : FiniteOn teacherLogProbs
    (maskRows responseMask (genuineMask (responseMask.size 0) genuineTrajectoryMask))

/-- The means of rows that all have tokens are always computed. -/
theorem trajectoryMeans_returns (values : Tensor (Flt K)) {tokenMask rows : Tensor Bool}
    (htokens : ∀ row < values.size 0, rows.at1 row = true → tokenCount tokenMask row ≠ 0) :
    Returns (trajectoryMeans values tokenMask rows) := by
  rw [trajectoryMeans]
  split
  · exact Returns.ok _
  · rw [raiseIf_of_not, ok_bind]
    · exact Returns.ok _
    · rintro ⟨row, hrow, hcount⟩
      obtain ⟨hlt, hselected⟩ := List.mem_filter.mp hrow
      exact htokens row (List.mem_range.mp hlt) hselected hcount

theorem signalMetrics_returns {signal difficulty : Tensor (Flt K)}
    {correctness errorRows correctMask errorMask : Tensor Bool} {lambda_ miu : Flt K}
    (hcorrect : ∀ row < signal.size 0, correctness.at1 row = true →
      tokenCount correctMask row ≠ 0)
    (herror : ∀ row < signal.size 0, errorRows.at1 row = true →
      tokenCount errorMask row ≠ 0) :
    Returns (signalMetrics signal difficulty correctness errorRows correctMask errorMask
      lambda_ miu) := by
  simp only [signalMetrics, returns_bind]
  obtain ⟨correctMeans, hcorrectMeans⟩ := trajectoryMeans_returns
    (.mat (signal.size 0) (signal.size 1) fun row _ => difficulty.at1 row * miu) hcorrect
  obtain ⟨errorMeans, herrorMeans⟩ :=
    trajectoryMeans_returns (scaledSignal difficulty lambda_ signal) herror
  obtain ⟨absMeans, habsMeans⟩ :=
    trajectoryMeans_returns ((scaledSignal difficulty lambda_ signal).map Flt.abs) herror
  obtain ⟨rawMeans, hrawMeans⟩ := trajectoryMeans_returns signal herror
  obtain ⟨rawAbsMeans, hrawAbsMeans⟩ :=
    trajectoryMeans_returns (signal.map Flt.abs) herror
  exact ⟨_, hcorrectMeans, _, herrorMeans, _, habsMeans, _, hrawMeans, _, hrawAbsMeans,
    Returns.ok _⟩

/-- The means the metrics need exist for every admissible batch. -/
theorem signalMetrics_of_emptyRows {signal difficulty : Tensor (Flt K)}
    {responseMask genuine correctness : Tensor Bool} {lambda_ miu : Flt K}
    (hsize : signal.size 0 = responseMask.size 0)
    (hsub : ∀ row, correctness.at1 row = true → genuine.at1 row = true)
    (htokens : emptyRows responseMask genuine = []) :
    Returns (signalMetrics signal difficulty correctness (exceptRows genuine correctness)
      (maskRows responseMask correctness)
      (maskRows responseMask (exceptRows genuine correctness)) lambda_ miu) := by
  have hcount : ∀ rows : Tensor Bool, (∀ row, rows.at1 row = true → genuine.at1 row = true) →
      ∀ row < signal.size 0, rows.at1 row = true →
        tokenCount (maskRows responseMask rows) row ≠ 0 := by
    intro rows hrows row hrow hselected
    rw [hsize] at hrow
    obtain ⟨column, hcolumn, htoken⟩ :=
      exists_token_of_emptyRows htokens hrow (hrows row hselected)
    have hmasked : (maskRows responseMask rows).at2 row column = true := by
      simp [maskRows, htoken, hselected]
    exact tokenCount_ne_zero hcolumn hmasked
  refine signalMetrics_returns (hcount correctness hsub) (hcount _ ?_)
  intro row hrow
  exact (Bool.and_eq_true _ _ ▸ hrow).1

section Spec

variable [ToString K] {oldLogProbs teacherLogProbs verifierRewards : Tensor (Flt K)}
  {responseMask : Tensor Bool} {ids : List String} {lambda_ miu : Flt K}
  {truncatedMask probeCorrectMask genuineTrajectoryMask : Option (Tensor Bool)}

theorem computeR2oplBaseBatch_eq_ok {result : R2OPLBaseBatchResult K}
    (h : computeR2oplBaseBatch oldLogProbs teacherLogProbs responseMask verifierRewards ids
      lambda_ miu truncatedMask probeCorrectMask genuineTrajectoryMask = .ok result) :
    Admissible responseMask verifierRewards ids genuineTrajectoryMask ∧
      BaseAdmissible oldLogProbs teacherLogProbs responseMask lambda_ miu truncatedMask
        probeCorrectMask genuineTrajectoryMask ∧
      result = baseBatchResult responseMask (rowRewards verifierRewards) ids
        (genuineMask (responseMask.size 0) genuineTrajectoryMask)
        (flagMask (responseMask.size 0) truncatedMask)
        (flagMask (responseMask.size 0) probeCorrectMask) result.metrics := by
  simp only [computeR2oplBaseBatch, bind_eq_ok, raiseIf_eq_ok, exists_and_left,
    exists_const, not_not, not_or, ne_eq, pure_eq_ok, Except.ok.injEq,
    sequenceRewards_eq_ok] at h
  obtain ⟨⟨_, _, hndim⟩, ⟨hteacher, hstudent⟩, ⟨⟩, hlambda, ⟨⟩, hmiu, hids, ⟨⟩, hgenuine, ⟨⟩,
    htruncated, ⟨⟩, hprobe, rewards, ⟨hrewards, hsize, rfl⟩, ⟨⟩, hempty, ⟨⟩, hbinary,
    hstudentFinite, hteacherFinite, hgroups, signals, _, rfl⟩ := h
  rw [validateBinaryRewards_select, size_rowRewards, hsize] at hbinary
  refine ⟨⟨hndim, hids, checkRowMask_eq_ok.mp hgenuine, hrewards, hsize,
      raiseOnEmptyRows_eq_ok.mp hempty, hbinary, (groupStatistics_ne_nil hids).mp hgroups⟩,
    ⟨hstudent, hteacher.symm.trans hstudent, checkNonNegative_eq_ok.mp hlambda,
      checkPositive_eq_ok.mp hmiu, checkRowMask_eq_ok.mp htruncated,
      checkRowMask_eq_ok.mp hprobe, hstudentFinite, hteacherFinite⟩, rfl⟩

theorem computeR2oplBaseBatch_metrics {result : R2OPLBaseBatchResult K}
    (h : computeR2oplBaseBatch oldLogProbs teacherLogProbs responseMask verifierRewards ids
      lambda_ miu truncatedMask probeCorrectMask genuineTrajectoryMask = .ok result) :
    ∃ signals, signalMetrics (teacherMinusStudent oldLogProbs teacherLogProbs)
        result.difficulty result.correctness
        (exceptRows (genuineMask (responseMask.size 0) genuineTrajectoryMask)
          result.correctness)
        result.correctMask result.errorMask lambda_ miu = .ok signals ∧
      result.metrics =
        outcomeMetrics "r2opl_base/train/"
            (genuineMask (responseMask.size 0) genuineTrajectoryMask) result.correctness
            result.groupSuccess ++
          rescueMetrics "r2opl_base/train/"
            (genuineMask (responseMask.size 0) genuineTrajectoryMask)
            (flagMask (responseMask.size 0) truncatedMask) result.probeRescued ++ signals ++
          [("r2opl_base/train/correct_token_count", countTokens result.correctMask),
            ("r2opl_base/train/error_token_count", countTokens result.errorMask),
            ("r2opl_base/train/lambda", lambda_), ("r2opl_base/train/miu", miu)] := by
  simp only [computeR2oplBaseBatch, bind_eq_ok, raiseIf_eq_ok, exists_and_left,
    exists_const, pure_eq_ok, Except.ok.injEq, sequenceRewards_eq_ok] at h
  obtain ⟨_, _, _, _, _, _, _, _, _, _, _, _, _, rewards, ⟨_, _, rfl⟩, _, _, _, _, _, _, _,
    signals, hsignals, rfl⟩ := h
  exact ⟨signals, hsignals, rfl⟩

theorem computeR2oplBaseBatch_returns
    (h : Admissible responseMask verifierRewards ids genuineTrajectoryMask)
    (hbase : BaseAdmissible oldLogProbs teacherLogProbs responseMask lambda_ miu
      truncatedMask probeCorrectMask genuineTrajectoryMask) :
    Returns (computeR2oplBaseBatch oldLogProbs teacherLogProbs responseMask verifierRewards
      ids lambda_ miu truncatedMask probeCorrectMask genuineTrajectoryMask) := by
  have hndim : oldLogProbs.ndim = 2 ∧ teacherLogProbs.ndim = 2 := by
    rw [Tensor.ndim, Tensor.ndim, hbase.student_shape, hbase.teacher_shape]
    exact ⟨h.mask_ndim, h.mask_ndim⟩
  have hrows : oldLogProbs.size 0 = responseMask.size 0 := by
    rw [Tensor.size, hbase.student_shape, Tensor.size]
  simp only [computeR2oplBaseBatch, returns_bind, raiseIf_eq_ok, exists_and_left,
    exists_const, not_not, not_or, ne_eq, sequenceRewards_eq_ok]
  refine ⟨⟨hndim.1, hndim.2, h.mask_ndim⟩,
    ⟨hbase.student_shape.trans hbase.teacher_shape.symm, hbase.student_shape⟩,
    (), checkNonNegative_eq_ok.mpr hbase.lambda_, (), checkPositive_eq_ok.mpr hbase.miu,
    h.ids_length, (), checkRowMask_eq_ok.mpr h.genuine_shape,
    (), checkRowMask_eq_ok.mpr hbase.truncated_shape,
    (), checkRowMask_eq_ok.mpr hbase.probe_shape, _, ⟨h.rewards_ndim, h.rewards_size, rfl⟩,
    (), raiseOnEmptyRows_eq_ok.mpr h.tokens, (), ?_, hbase.student_finite,
    hbase.teacher_finite, (groupStatistics_ne_nil h.ids_length).mpr h.some_genuine, ?_⟩
  · rw [validateBinaryRewards_select, size_rowRewards, h.rewards_size]
    exact h.binary
  · exact Exists.imp (fun _ hsignals => ⟨hsignals, Returns.ok _⟩)
      (signalMetrics_of_emptyRows hrows
        (fun row hcorrect => (Bool.and_eq_true _ _ ▸ hcorrect).2) h.tokens)

end Spec

end R2opl
