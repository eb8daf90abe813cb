import R2opl.Controller.Base
import R2opl.Lib.Dict
import R2opl.Lib.Pooling
import R2opl.Objective.Steps

/-!
# Probe metrics

`r2opl_probe_metrics`: the sums and counts of a batch, for correct and for incorrect responses.
Each of them is collected row by row, so that micro-batches add up to the batch they were cut
from.
-/

namespace R2opl

open Checked

variable {K : Type} [Field K] [LinearOrder K]

/-! ### The metrics of a batch -/

/-- `left & right` on token masks. -/
def bothTokens (left right : Tensor Bool) : Tensor Bool :=
  .mat (right.size 0) (right.size 1) fun row column => left.at2 row column && right.at2 row column

/-- `mask & ~other` on token masks. -/
def exceptTokens (mask other : Tensor Bool) : Tensor Bool :=
  .mat (mask.size 0) (mask.size 1) fun row column => mask.at2 row column && !other.at2 row column

/-- `values[mask]`, for values of the shape of the mask. -/
def maskedValues (values : Tensor (Flt K)) (mask : Tensor Bool) : List (Flt K) :=
  (List.range (mask.size 0)).flatMap fun row => (mask.trueColumns row).map (values.at2 row)

/-- `_masked_sum`. -/
def maskedSum (values : Tensor (Flt K)) (mask : Tensor Bool) : Flt K := (maskedValues values mask).sum

/-- `f"{prefix}/{stem}"`. -/
def metricName (scope stem : PyStr) : PyStr := scope ++ '/' :: stem

/-- Values with the mask that selects them, under the stem of their metrics. -/
structure MaskedStatistic (K : Type) where
  stem : String
  values : Tensor (Flt K)
  mask : Tensor Bool

/-- `add_masked_statistics`: the numerator and the denominator of one pooled mean. -/
def MaskedStatistic.metrics (scope : PyStr) (statistic : MaskedStatistic K) :
    List (PyStr × Flt K) :=
  [(metricName scope (statistic.stem ++ "_sum").toList, maskedSum statistic.values statistic.mask),
    (metricName scope (statistic.stem ++ "_count").toList, countTokens statistic.mask)]

section Fields

variable (modulation : R2OPLTokenModulation K) (responseMask correctRows errorRows : Tensor Bool)

def standardTokens : Tensor Bool := exceptTokens responseMask modulation.probedTokenMask

def probeTokens : Tensor Bool := bothTokens modulation.probedTokenMask responseMask

def lastTokens : Tensor Bool := bothTokens modulation.lastStepTokenMask responseMask

/-- The masks whose sizes are metrics. -/
def countedMasks : List (String × Tensor Bool) :=
  [("correct_probe_branch", maskRows modulation.probeBranchMask correctRows),
    ("error_probe_branch", maskRows modulation.probeBranchMask errorRows),
    ("correct_probe_step", maskRows modulation.probedStepMask correctRows),
    ("error_probe_step", maskRows modulation.probedStepMask errorRows),
    ("correct_probe_token", maskRows (probeTokens modulation responseMask) correctRows),
    ("error_probe_token", maskRows (probeTokens modulation responseMask) errorRows),
    ("correct_last_step_standard_token",
      maskRows (lastTokens modulation responseMask) correctRows),
    ("error_last_step_standard_token", maskRows (lastTokens modulation responseMask) errorRows),
    ("correct_standard_token", maskRows (standardTokens modulation responseMask) correctRows),
    ("error_standard_token", maskRows (standardTokens modulation responseMask) errorRows),
    ("correct_response_token", maskRows responseMask correctRows),
    ("error_response_token", maskRows responseMask errorRows)]

/-- The statistics of the modulation itself. -/
def modulationStatistics : List (MaskedStatistic K) :=
  let correctBranches := maskRows modulation.probeBranchMask correctRows
  let errorBranches := maskRows modulation.probeBranchMask errorRows
  let correctSteps := maskRows modulation.probedStepMask correctRows
  let errorSteps := maskRows modulation.probedStepMask errorRows
  [⟨"correct_probe_probability", modulation.probeProbabilities, correctBranches⟩,
    ⟨"error_probe_probability", modulation.probeProbabilities, errorBranches⟩,
    ⟨"correct_probe_delta_prob", modulation.probeDeltaProb, correctSteps⟩,
    ⟨"error_probe_delta_prob", modulation.probeDeltaProb, errorSteps⟩,
    ⟨"correct_alpha_r_gate", modulation.correctStepGate, correctSteps⟩,
    ⟨"error_alpha_r_gate", modulation.correctStepGate, errorSteps⟩,
    ⟨"correct_alpha_d_gate", modulation.errorStepGate, correctSteps⟩,
    ⟨"error_alpha_d_gate", modulation.errorStepGate, errorSteps⟩,
    ⟨"correct_probe_modulation", modulation.correctTokenMultiplier,
      maskRows (probeTokens modulation responseMask) correctRows⟩,
    ⟨"error_probe_modulation", modulation.errorTokenMultiplier,
      maskRows (probeTokens modulation responseMask) errorRows⟩,
    ⟨"correct_last_step_multiplier", modulation.correctTokenMultiplier,
      maskRows (lastTokens modulation responseMask) correctRows⟩,
    ⟨"error_last_step_multiplier", modulation.errorTokenMultiplier,
      maskRows (lastTokens modulation responseMask) errorRows⟩]

/-- The statistics of the token advantages. -/
def advantageStatistics (advantage : Tensor (Flt K)) : List (MaskedStatistic K) :=
  let correctTokens := maskRows responseMask correctRows
  let errorTokens := maskRows responseMask errorRows
  [⟨"correct_advantage", advantage, correctTokens⟩,
    ⟨"correct_advantage_abs", advantage.map Flt.abs, correctTokens⟩,
    ⟨"error_opd_advantage", advantage, errorTokens⟩,
    ⟨"error_opd_advantage_abs", advantage.map Flt.abs, errorTokens⟩,
    ⟨"correct_last_step_rl_advantage", advantage,
      maskRows (lastTokens modulation responseMask) correctRows⟩,
    ⟨"error_last_step_opd_advantage", advantage,
      maskRows (lastTokens modulation responseMask) errorRows⟩]

/-- The statistics of the distillation signal `teacher - student`. -/
def rawOpdStatistics (student teacher : Tensor (Flt K)) : List (MaskedStatistic K) :=
  let rawOpd := teacherMinusStudent student teacher
  [⟨"correct_raw_opd", rawOpd, maskRows responseMask correctRows⟩,
    ⟨"error_raw_opd", rawOpd, maskRows responseMask errorRows⟩,
    ⟨"error_raw_opd_abs", rawOpd.map Flt.abs, maskRows responseMask errorRows⟩]

end Fields

/-- What `r2opl_probe_metrics` reads beside the modulation. -/
structure ProbeMetricsInput (K : Type) where
  correctness : Tensor Bool
  responseMask : Tensor Bool
  genuineTrajectoryMask : Option (Tensor Bool)
  tokenAdvantage : Option (Tensor (Flt K))
  studentLogProbs : Option (Tensor (Flt K))
  teacherLogProbs : Option (Tensor (Flt K))

namespace ProbeMetricsInput

variable (input : ProbeMetricsInput K) (modulation : R2OPLTokenModulation K)

def genuine : Tensor Bool := genuineMask (input.responseMask.size 0) input.genuineTrajectoryMask

def correctRows : Tensor Bool := bothRows input.genuine input.correctness

def errorRows : Tensor Bool := exceptRows input.genuine input.correctness

/-- The shape checks on the modulation. -/
def checkModulation : Except PyError Unit := do
  raiseIf (∃ shape ∈ [modulation.correctTokenMultiplier.shape,
      modulation.errorTokenMultiplier.shape, modulation.probedTokenMask.shape,
      modulation.lastStepTokenMask.shape], shape ≠ input.responseMask.shape)
    (valueError "R2OPL modulation token fields must match response_mask.")
  raiseIf (∃ shape ∈ [modulation.probedStepMask.shape, modulation.probeDeltaProb.shape,
      modulation.correctStepGate.shape, modulation.errorStepGate.shape],
      shape ≠ modulation.semanticStepMask.shape)
    (valueError "R2OPL modulation step fields must share shape [batch, steps].")
  raiseIf (modulation.semanticStepMask.size 0 ≠ input.responseMask.size 0 ∨
      modulation.probeBranchMask.size 0 ≠ input.responseMask.size 0)
    (valueError "R2OPL modulation fields must share the response batch size.")

def advantageMetrics : Except PyError (List (MaskedStatistic K)) :=
  match input.tokenAdvantage with
  | none => .ok []
  | some advantage => do
      raiseIf (advantage.shape ≠ input.responseMask.shape)
        (valueError "R2OPL token_advantage must match response_mask.")
      return advantageStatistics modulation input.responseMask input.correctRows input.errorRows
        advantage

def rawOpdMetrics : Except PyError (List (MaskedStatistic K)) :=
  match input.studentLogProbs, input.teacherLogProbs with
  | none, none => .ok []
  | some student, some teacher => do
      raiseIf (student.shape ≠ input.responseMask.shape ∨
          teacher.shape ≠ input.responseMask.shape)
        (valueError "R2OPL raw OPD log-probabilities must match response_mask.")
      return rawOpdStatistics input.responseMask input.correctRows input.errorRows student teacher
  | _, _ => .error (valueError
      "R2OPL raw OPD diagnostics require both Student and Teacher log-probabilities.")

end ProbeMetricsInput

/-- The coefficients a run reports beside its sums. -/
def coefficientMetrics (scope : PyStr) (values : R2OPLHyperparameters K) : List (PyStr × Flt K) :=
  [(metricName scope "alpha_r".toList, values.alphaR),
    (metricName scope "alpha_d".toList, values.alphaD),
    (metricName scope "epsilon".toList, values.epsilon),
    (metricName scope "lambda".toList, values.lambda_),
    (metricName scope "miu".toList, values.miu)]

/-- `r2opl_probe_metrics`.  The source's default scope is `r2opl/train`. -/
def r2oplProbeMetrics [ToString K] (modulation : R2OPLTokenModulation K)
    (input : ProbeMetricsInput K) (values : R2OPLHyperparameters K) (scope : PyStr) :
    Except PyError (List (PyStr × Flt K)) := do
  validateHyperparameters (some values.lambda_) (some values.miu) (some values.alphaR)
    (some values.alphaD) (some values.epsilon)
  raiseIf (input.responseMask.ndim ≠ 2 ∨ input.correctness.ndim ≠ 1) (valueError
    "R2OPL metrics require response_mask [batch,tokens] and correctness [batch].")
  raiseIf (input.correctness.size 0 ≠ input.responseMask.size 0)
    (valueError "R2OPL correctness must have one value per trajectory.")
  checkRowMask "R2OPL genuine_trajectory_mask must have one value per trajectory."
    (input.responseMask.size 0) input.genuineTrajectoryMask
  input.checkModulation modulation
  let counts := (countedMasks modulation input.responseMask input.correctRows
    input.errorRows).map fun item =>
      (metricName scope (item.1 ++ "_count").toList, countTokens item.2)
  let advantages ← input.advantageMetrics modulation
  let rawOpd ← input.rawOpdMetrics
  let statistics := modulationStatistics modulation input.responseMask input.correctRows
    input.errorRows ++ advantages ++ rawOpd
  return counts ++ coefficientMetrics scope values ++
    statistics.flatMap (MaskedStatistic.metrics scope)

/-! ### Row by row -/

theorem tokenCount_eq_length (mask : Tensor Bool) (row : Nat) :
    tokenCount mask row = (mask.trueColumns row).length := by
  unfold tokenCount Tensor.trueColumns Tensor.row
  rw [List.filter_map, List.length_map]
  rfl

/-- What a row adds to a sum. -/
def rowSum (values : Tensor (Flt K)) (mask : Tensor Bool) (row : Nat) : Flt K :=
  ((mask.trueColumns row).map (values.at2 row)).sum

/-- What a row adds to a count. -/
def rowCount (mask : Tensor Bool) (row : Nat) : Flt K :=
  .fin ((mask.trueColumns row).length : K)

omit [LinearOrder K] in
theorem maskedSum_eq (values : Tensor (Flt K)) (mask : Tensor Bool) :
    maskedSum values mask = ((List.range (mask.size 0)).map (rowSum values mask)).sum := by
  unfold maskedSum maskedValues
  induction List.range (mask.size 0) with
  | nil => rfl
  | cons row rest ih =>
    rw [List.flatMap_cons, List.sum_append, ih, List.map_cons, List.sum_cons]
    rfl

omit [LinearOrder K] in
theorem countTokens_eq (mask : Tensor Bool) :
    (countTokens mask : Flt K) = ((List.range (mask.size 0)).map (rowCount mask)).sum := by
  unfold countTokens
  induction List.range (mask.size 0) with
  | nil => simp
  | cons row rest ih =>
    rw [List.map_cons, List.sum_cons, List.map_cons, List.sum_cons, ← ih, rowCount, Flt.fin_add,
      tokenCount_eq_length, Nat.cast_add]

/-- The true columns of a mask in a selected row. -/
theorem trueColumns_maskRows (mask rows : Tensor Bool) (row : Nat) :
    (maskRows mask rows).trueColumns row = if rows.at1 row then mask.trueColumns row else [] := by
  unfold maskRows Tensor.trueColumns
  cases hrow : rows.at1 row with
  | true => simp [Tensor.size, hrow]
  | false => simp [Tensor.size, hrow]

theorem trueColumns_bothTokens (left right : Tensor Bool) (row : Nat) :
    (bothTokens left right).trueColumns row = (right.trueColumns row).filter (left.at2 row) := by
  unfold Tensor.trueColumns
  rw [List.filter_filter]
  rfl

theorem trueColumns_exceptTokens (mask other : Tensor Bool) (row : Nat) :
    (exceptTokens mask other).trueColumns row =
      (mask.trueColumns row).filter fun column => !other.at2 row column := by
  unfold Tensor.trueColumns
  rw [List.filter_filter]
  apply List.filter_congr
  intro column _
  exact Bool.and_comm _ _

/-! ### A run of the two kernels -/

/-- The tensors of one forward pass, with everything its metrics are made of. -/
structure ProbeCall (K : Type) extends ModulationInput K where
  correctness : Tensor Bool
  genuineTrajectoryMask : Option (Tensor Bool)
  tokenAdvantage : Option (Tensor (Flt K))
  studentLogProbs : Option (Tensor (Flt K))
  teacherLogProbs : Option (Tensor (Flt K))

namespace ProbeCall

variable (call : ProbeCall K)

def metricsInput : ProbeMetricsInput K where
  correctness := call.correctness
  responseMask := call.responseMask
  genuineTrajectoryMask := call.genuineTrajectoryMask
  tokenAdvantage := call.tokenAdvantage
  studentLogProbs := call.studentLogProbs
  teacherLogProbs := call.teacherLogProbs

/-- The metrics of one micro-batch. -/
def metrics [ToString K] (values : R2OPLHyperparameters K) (scope : PyStr) :
    Except PyError (List (PyStr × Flt K)) := do
  let modulation ← call.run values.alphaR values.alphaD values.epsilon
  r2oplProbeMetrics modulation call.metricsInput values scope

/-- Every statistic of the call that its metrics report. -/
def statistics (modulation : R2OPLTokenModulation K) : List (MaskedStatistic K) :=
  let input := call.metricsInput
  modulationStatistics modulation call.responseMask input.correctRows input.errorRows ++
    (call.tokenAdvantage.elim [] fun advantage =>
      advantageStatistics modulation call.responseMask input.correctRows input.errorRows
        advantage) ++
    (call.studentLogProbs.elim [] fun student => call.teacherLogProbs.elim [] fun teacher =>
      rawOpdStatistics call.responseMask input.correctRows input.errorRows student teacher)

/-- The sums and counts, as functions of the row. -/
def rowStatistics (modulation : R2OPLTokenModulation K) (scope : PyStr) :
    List (PyStr × (Nat → Flt K)) :=
  (countedMasks modulation call.responseMask call.metricsInput.correctRows
      call.metricsInput.errorRows).map (fun item =>
    (metricName scope (item.1 ++ "_count").toList, rowCount item.2)) ++
  (call.statistics modulation).flatMap fun statistic =>
    [(metricName scope (statistic.stem ++ "_sum").toList,
        rowSum statistic.values statistic.mask),
      (metricName scope (statistic.stem ++ "_count").toList, rowCount statistic.mask)]

end ProbeCall

/-! ### Names -/

/-- The metrics that the actor reducer adds up: `name.endswith(("_sum", "_count"))`. -/
def IsStatistic (name : PyStr) : Prop := "_sum".toList <:+ name ∨ "_count".toList <:+ name

instance (name : PyStr) : Decidable (IsStatistic name) := inferInstanceAs (Decidable (_ ∨ _))

theorem getLast?_of_isStatistic {name : PyStr} (h : IsStatistic name) :
    name.getLast? = some 'm' ∨ name.getLast? = some 't' := by
  rcases h with ⟨front, rfl⟩ | ⟨front, rfl⟩
  · exact .inl (by simp)
  · exact .inr (by simp)

omit [Field K] [LinearOrder K] in
/-- No coefficient is reported under the name of a sum or a count. -/
theorem get?_coefficientMetrics {scope name : PyStr} (h : IsStatistic name)
    (values : R2OPLHyperparameters K) : Dict.get? (coefficientMetrics scope values) name = none := by
  rw [Dict.get?_eq_none]
  intro hmem
  have hlast := getLast?_of_isStatistic h
  unfold coefficientMetrics Dict.keys metricName at hmem
  simp only [List.map_cons, List.map_nil, List.mem_cons, List.not_mem_nil, or_false] at hmem
  rcases hmem with rfl | rfl | rfl | rfl | rfl
  all_goals simp at hlast

/-! ### The metrics of a call -/

section Call

variable [ToString K] {call : ProbeCall K} {values : R2OPLHyperparameters K} {scope : PyStr}
  {metrics : List (PyStr × Flt K)} {modulation : R2OPLTokenModulation K}

omit [ToString K] in
theorem advantageMetrics_eq_ok {statistics : List (MaskedStatistic K)}
    (h : call.metricsInput.advantageMetrics modulation = .ok statistics) :
    statistics = call.tokenAdvantage.elim [] fun advantage =>
      advantageStatistics modulation call.responseMask call.metricsInput.correctRows
        call.metricsInput.errorRows advantage := by
  unfold ProbeMetricsInput.advantageMetrics at h
  change (match call.tokenAdvantage with
    | none => _
    | some advantage => _) = _ at h
  cases hadvantage : call.tokenAdvantage with
  | none =>
    rw [hadvantage] at h
    exact (Except.ok.inj h).symm
  | some advantage =>
    rw [hadvantage] at h
    exact (Except.ok.inj (raiseIf_bind_eq_ok.mp h).2).symm

omit [ToString K] in
theorem rawOpdMetrics_eq_ok {statistics : List (MaskedStatistic K)}
    (h : call.metricsInput.rawOpdMetrics = .ok statistics) :
    statistics = call.studentLogProbs.elim [] fun student =>
      call.teacherLogProbs.elim [] fun teacher =>
        rawOpdStatistics call.responseMask call.metricsInput.correctRows
          call.metricsInput.errorRows student teacher := by
  unfold ProbeMetricsInput.rawOpdMetrics at h
  change (match call.studentLogProbs, call.teacherLogProbs with
    | none, none => _
    | some student, some teacher => _
    | _, _ => _) = _ at h
  cases hstudent : call.studentLogProbs with
  | none =>
    cases hteacher : call.teacherLogProbs with
    | none =>
      rw [hstudent, hteacher] at h
      exact (Except.ok.inj h).symm
    | some teacher =>
      rw [hstudent, hteacher] at h
      cases h
  | some student =>
    cases hteacher : call.teacherLogProbs with
    | none =>
      rw [hstudent, hteacher] at h
      cases h
    | some teacher =>
      rw [hstudent, hteacher] at h
      exact (Except.ok.inj (raiseIf_bind_eq_ok.mp h).2).symm

/-- The masks of a call have a row for each row of the response mask. -/
structure MaskRows (call : ProbeCall K) (modulation : R2OPLTokenModulation K) : Prop where
  branches : modulation.probeBranchMask.size 0 = call.responseMask.size 0
  steps : modulation.probedStepMask.size 0 = call.responseMask.size 0

theorem metrics_eq_ok (h : call.metrics values scope = .ok metrics) :
    ∃ modulation, call.run values.alphaR values.alphaD values.epsilon = .ok modulation ∧
      MaskRows call modulation ∧
      metrics = ((countedMasks modulation call.responseMask call.metricsInput.correctRows
          call.metricsInput.errorRows).map fun item =>
            (metricName scope (item.1 ++ "_count").toList, countTokens item.2)) ++
        coefficientMetrics scope values ++
        (call.statistics modulation).flatMap (MaskedStatistic.metrics scope) := by
  unfold ProbeCall.metrics at h
  obtain ⟨modulation, hrun, h⟩ := bind_eq_ok.mp h
  unfold r2oplProbeMetrics at h
  obtain ⟨_, _, h⟩ := bind_eq_ok.mp h
  obtain ⟨_, h⟩ := raiseIf_bind_eq_ok.mp h
  obtain ⟨_, h⟩ := raiseIf_bind_eq_ok.mp h
  obtain ⟨_, _, h⟩ := bind_eq_ok.mp h
  obtain ⟨_, hmodulation, h⟩ := bind_eq_ok.mp h
  obtain ⟨advantages, hadvantages, h⟩ := bind_eq_ok.mp h
  obtain ⟨rawOpd, hrawOpd, h⟩ := bind_eq_ok.mp h
  obtain rfl := Except.ok.inj h
  refine ⟨modulation, hrun, ?_, ?_⟩
  · unfold ProbeMetricsInput.checkModulation at hmodulation
    obtain ⟨_, hmodulation⟩ := raiseIf_bind_eq_ok.mp hmodulation
    obtain ⟨hsteps, hmodulation⟩ := raiseIf_bind_eq_ok.mp hmodulation
    obtain ⟨hrows, hbranches⟩ := not_or.mp (raiseIf_eq_ok.mp hmodulation)
    refine ⟨not_not.mp hbranches, ?_⟩
    have hshape : modulation.probedStepMask.shape = modulation.semanticStepMask.shape := by
      by_contra hne
      exact hsteps ⟨_, List.mem_cons_self, hne⟩
    rw [Tensor.size, hshape]
    exact not_not.mp hrows
  · rw [advantageMetrics_eq_ok hadvantages, rawOpdMetrics_eq_ok hrawOpd]
    rfl

omit [Field K] [LinearOrder K] [ToString K] in
/-- Every counted mask has a row for each row of the response mask. -/
theorem size_countedMasks (h : MaskRows call modulation) {item : String × Tensor Bool}
    (hitem : item ∈ countedMasks modulation call.responseMask call.metricsInput.correctRows
      call.metricsInput.errorRows) : item.2.size 0 = call.responseMask.size 0 := by
  unfold countedMasks at hitem
  simp only [List.mem_cons, List.not_mem_nil, or_false] at hitem
  rcases hitem with rfl | rfl | rfl | rfl | rfl | rfl | rfl | rfl | rfl | rfl | rfl | rfl
  · exact h.branches
  · exact h.branches
  · exact h.steps
  · exact h.steps
  all_goals rfl

omit [ToString K] in
theorem size_statistics (h : MaskRows call modulation) {statistic : MaskedStatistic K}
    (hstatistic : statistic ∈ call.statistics modulation) :
    statistic.mask.size 0 = call.responseMask.size 0 := by
  unfold ProbeCall.statistics at hstatistic
  rcases List.mem_append.mp hstatistic with hfront | hrawOpd
  · rcases List.mem_append.mp hfront with hmodulation | hadvantage
    · unfold modulationStatistics at hmodulation
      simp only [List.mem_cons, List.not_mem_nil, or_false] at hmodulation
      rcases hmodulation with rfl | rfl | rfl | rfl | rfl | rfl | rfl | rfl | rfl | rfl | rfl | rfl
      · exact h.branches
      · exact h.branches
      all_goals first | exact h.steps | rfl
    · cases hgiven : call.tokenAdvantage with
      | none =>
        rw [hgiven] at hadvantage
        exact absurd hadvantage List.not_mem_nil
      | some advantage =>
        rw [hgiven] at hadvantage
        unfold advantageStatistics at hadvantage
        simp only [Option.elim_some, List.mem_cons, List.not_mem_nil, or_false] at hadvantage
        rcases hadvantage with rfl | rfl | rfl | rfl | rfl | rfl
        all_goals rfl
  · cases hstudent : call.studentLogProbs with
    | none =>
      rw [hstudent] at hrawOpd
      exact absurd hrawOpd List.not_mem_nil
    | some student =>
      cases hteacher : call.teacherLogProbs with
      | none =>
        rw [hstudent, hteacher] at hrawOpd
        exact absurd hrawOpd List.not_mem_nil
      | some teacher =>
        rw [hstudent, hteacher] at hrawOpd
        unfold rawOpdStatistics at hrawOpd
        simp only [Option.elim_some, List.mem_cons, List.not_mem_nil, or_false] at hrawOpd
        rcases hrawOpd with rfl | rfl | rfl
        all_goals rfl

omit [ToString K] in
/-- **A sum or a count is the sum of what its rows add to it.** -/
theorem get?_metrics (hrows : MaskRows call modulation)
    (hmetrics : metrics = ((countedMasks modulation call.responseMask
        call.metricsInput.correctRows call.metricsInput.errorRows).map fun item =>
          (metricName scope (item.1 ++ "_count").toList, countTokens item.2)) ++
        coefficientMetrics scope values ++
        (call.statistics modulation).flatMap (MaskedStatistic.metrics scope))
    {name : PyStr} (hname : IsStatistic name) :
    Dict.get? metrics name = (Dict.get? (call.rowStatistics modulation scope) name).map fun f =>
      ((List.range (call.responseMask.size 0)).map f).sum := by
  rw [← Dict.get?_map_values, hmetrics, Dict.get?_append, Dict.get?_append,
    get?_coefficientMetrics hname, Option.or_none, ← Dict.get?_append]
  congr 1
  unfold ProbeCall.rowStatistics
  rw [List.map_append, List.map_map, List.map_flatMap]
  congr 1
  · apply List.map_congr_left
    intro item hitem
    rw [Function.comp_apply, countTokens_eq, size_countedMasks hrows hitem]
  · apply List.flatMap_congr
    intro statistic hstatistic
    unfold MaskedStatistic.metrics
    rw [countTokens_eq, maskedSum_eq, size_statistics hrows hstatistic]
    rfl

end Call

/-! ### One row in two calls -/

/-- Optional tensors that are both absent, or agree on the tokens of a row. -/
def SameTokens (IsToken : Nat → Prop) (row row' : Nat) :
    Option (Tensor (Flt K)) → Option (Tensor (Flt K)) → Prop
  | none, none => True
  | some values, some values' => ∀ token, IsToken token →
      values.at2 row token = values'.at2 row' token
  | _, _ => False

omit [Field K] [LinearOrder K] in
/-- What is made of the tensors agrees when it agrees for tensors that do. -/
theorem SameTokens.map_elim {IsToken : Nat → Prop} {row row' : Nat}
    {values values' : Option (Tensor (Flt K))} (h : SameTokens IsToken row row' values values')
    {β γ δ : Type} {f : Tensor (Flt K) → List β} {g : Tensor (Flt K) → List γ} {left : β → δ}
    {right : γ → δ}
    (heq : ∀ v v', (∀ token, IsToken token → v.at2 row token = v'.at2 row' token) →
      (f v).map left = (g v').map right) :
    (values.elim [] f).map left = (values'.elim [] g).map right := by
  cases values with
  | none =>
    cases values' with
    | none => rfl
    | some v' => exact h.elim
  | some v =>
    cases values' with
    | none => exact h.elim
    | some v' => exact heq v v' h

/-- The two calls hold the same response in these rows, whatever else they hold and however wide
    they are padded. -/
structure SameResponse (call call' : ProbeCall K) (row row' : Nat) : Prop where
  steps : SameRow call.toModulationInput call'.toModulationInput row row'
  tokens : ∀ token,
    (token < call.responseMask.size 1 ∧ call.responseMask.at2 row token = true) ↔
      token < call'.responseMask.size 1 ∧ call'.responseMask.at2 row' token = true
  correctness : call.correctness.at1 row = call'.correctness.at1 row'
  genuine : call.metricsInput.genuine.at1 row = call'.metricsInput.genuine.at1 row'
  advantage : SameTokens (· ∈ call.responseMask.trueColumns row) row row' call.tokenAdvantage
    call'.tokenAdvantage
  student : SameTokens (· ∈ call.responseMask.trueColumns row) row row' call.studentLogProbs
    call'.studentLogProbs
  teacher : SameTokens (· ∈ call.responseMask.trueColumns row) row row' call.teacherLogProbs
    call'.teacherLogProbs

section Branches

variable {input : ModulationInput K} {index : Nat} {row : SemanticRow K} [ToString K]
  {modulation : R2OPLTokenModulation K} {alphaR alphaD epsilon : Flt K}

/-- The branches and the probed steps of a row are its first ones. -/
theorem ModulationInput.Row.trueColumns (h : input.Row index row)
    (hrun : input.run alphaR alphaD epsilon = .ok modulation)
    (hindex : index < input.responseMask.size 0) :
    modulation.probeBranchMask.trueColumns index = List.range (requiredBranches row.numSteps) ∧
      modulation.probedStepMask.trueColumns index = List.range (row.numSteps - 1) ∧
      modulation.probeProbabilities = input.probabilities := by
  obtain ⟨_, _, _, counts, rfl, rfl, hadmissible, rfl⟩ :=
    computeR2oplTokenModulation_eq_ok.mp hrun
  obtain ⟨other, hother, _, hcount, hfits⟩ := hadmissible.exists_row hindex
  have hsteps : row.numSteps = other.numSteps := congrArg List.length (h.ranges_unique hother)
  rw [hsteps]
  refine ⟨?_, ?_, rfl⟩
  · apply Tensor.trueColumns_eq List.pairwise_lt_range
    intro branch
    have hsize : (input.probeBranchMask.getD
        (expectedBranchMask (input.probabilities.size 1) counts)).size 1 =
          input.probabilities.size 1 := by
      rw [Tensor.size, hadmissible.branch_shape]
      rfl
    have hrows : index < (input.probeBranchMask.getD
        (expectedBranchMask (input.probabilities.size 1) counts)).size 0 := by
      rw [Tensor.size, hadmissible.branch_shape]
      exact Nat.lt_of_lt_of_eq hindex hadmissible.probabilities_rows.symm
    change _ ↔ branch < (input.probeBranchMask.getD _).size 1 ∧
      (input.probeBranchMask.getD _).at2 index branch = true
    rw [List.mem_range, hcount]
    constructor
    · intro hbranch
      have hfit := Nat.lt_of_lt_of_le hbranch (hadmissible.branches_fit index hindex)
      have hfit' := Nat.lt_of_lt_of_eq hfit hsize.symm
      refine ⟨hfit', ?_⟩
      rw [hadmissible.branch_leading.2 index hrows branch hfit']
      exact decide_eq_true hbranch
    · rintro ⟨hfit, htrue⟩
      rw [hadmissible.branch_leading.2 index hrows branch hfit] at htrue
      exact of_decide_eq_true htrue
  · apply Tensor.trueColumns_eq List.pairwise_lt_range
    intro step
    change _ ↔ step < input.semanticStepRanges.size 1 ∧
      (probedSteps (input.semanticStepRanges.size 1) counts).at2 index step = true
    rw [List.mem_range, probedSteps_at2 hcount, decide_eq_true_eq]
    unfold SemanticRow.Probed
    omega

end Branches

section SameRow

variable [ToString K] {call call' : ProbeCall K} {row row' : Nat}
  {values : R2OPLHyperparameters K} {modulation modulation' : R2OPLTokenModulation K}

omit [Field K] [LinearOrder K] [ToString K] in
theorem SameResponse.trueColumns (h : SameResponse call call' row row') :
    call.responseMask.trueColumns row = call'.responseMask.trueColumns row' := by
  apply Tensor.trueColumns_eq
  · exact List.Pairwise.filter _ List.pairwise_lt_range
  · intro token
    rw [Tensor.mem_trueColumns]
    exact (h.tokens token).symm

omit [Field K] [LinearOrder K] [ToString K] in
theorem SameResponse.rows (h : SameResponse call call' row row') :
    call.metricsInput.correctRows.at1 row = call'.metricsInput.correctRows.at1 row' ∧
      call.metricsInput.errorRows.at1 row = call'.metricsInput.errorRows.at1 row' := by
  unfold ProbeMetricsInput.correctRows ProbeMetricsInput.errorRows bothRows exceptRows
  rw [Tensor.at1_vec, Tensor.at1_vec, Tensor.at1_vec, Tensor.at1_vec, h.genuine]
  have hcorrectness : call.metricsInput.correctness.at1 row =
      call'.metricsInput.correctness.at1 row' := h.correctness
  rw [hcorrectness]
  exact ⟨rfl, rfl⟩

/-- What the modulation kernels of both calls hold in the row. -/
structure SameModulation (call call' : ProbeCall K) (modulation modulation' :
    R2OPLTokenModulation K) (row row' : Nat) : Prop extends
    SameResult modulation modulation' row row' where
  branches : modulation.probeBranchMask.trueColumns row =
    modulation'.probeBranchMask.trueColumns row'
  probedSteps : modulation.probedStepMask.trueColumns row =
    modulation'.probedStepMask.trueColumns row'
  probabilities : ∀ branch ∈ modulation.probeBranchMask.trueColumns row,
    modulation.probeProbabilities.at2 row branch = modulation'.probeProbabilities.at2 row' branch

theorem SameResponse.sameModulation (h : SameResponse call call' row row')
    (hrun : call.run values.alphaR values.alphaD values.epsilon = .ok modulation)
    (hrun' : call'.run values.alphaR values.alphaD values.epsilon = .ok modulation')
    (hrow : row < call.responseMask.size 0) (hrow' : row' < call'.responseMask.size 0) :
    SameModulation call call' modulation modulation' row row' := by
  obtain ⟨hvalid, _⟩ := computeR2oplTokenModulation_eq_ok.mp hrun
  obtain ⟨_, _, halphaR, halphaD, hepsilon⟩ := validateHyperparameters_eq_ok.mp hvalid
  obtain ⟨alphaR, _, halphaR⟩ := halphaR _ rfl
  obtain ⟨alphaD, _, halphaD⟩ := halphaD _ rfl
  obtain ⟨epsilon, hepsilon⟩ := Flt.isFinite_iff.mp (hepsilon _ rfl).1
  rw [halphaR, halphaD, hepsilon] at hrun hrun'
  obtain ⟨semantic, hsemantic, _, _⟩ := ModulationInput.exists_modulates hrun hrow
  obtain ⟨hbranches, hsteps, hprobabilities⟩ := hsemantic.trueColumns hrun hrow
  obtain ⟨hbranches', hsteps', hprobabilities'⟩ :=
    (h.steps.transport hsemantic).trueColumns hrun' hrow'
  refine ⟨h.steps.sameResult hrun hrun' hrow hrow', hbranches.trans hbranches'.symm,
    hsteps.trans hsteps'.symm, ?_⟩
  intro branch hbranch
  rw [hbranches, List.mem_range] at hbranch
  rw [hprobabilities, hprobabilities', hsemantic.probability branch hbranch,
    (h.steps.transport hsemantic).probability branch hbranch]

/-- What a row adds to a sum or a count, from the values that its mask selects. -/
def rowEntries (scope : PyStr) (item : String × List (Flt K)) : List (PyStr × Flt K) :=
  [(metricName scope (item.1 ++ "_sum").toList, item.2.sum),
    (metricName scope (item.1 ++ "_count").toList, .fin (item.2.length : K))]

/-- The values that a statistic selects in a row. -/
def MaskedStatistic.rowValues (statistic : MaskedStatistic K) (row : Nat) :
    String × List (Flt K) :=
  (statistic.stem, (statistic.mask.trueColumns row).map (statistic.values.at2 row))

omit [ToString K] in
/-- A row's part of the statistics is a function of the values that they select in it. -/
theorem map_rowStatistics (scope : PyStr) (row : Nat) :
    (call.rowStatistics modulation scope).map (fun entry => (entry.1, entry.2 row)) =
      ((countedMasks modulation call.responseMask call.metricsInput.correctRows
          call.metricsInput.errorRows).map fun item => (item.1, item.2.trueColumns row)).map
        (fun item => (metricName scope (item.1 ++ "_count").toList,
          Flt.fin (item.2.length : K))) ++
      ((call.statistics modulation).map fun statistic => statistic.rowValues row).flatMap
        (rowEntries scope) := by
  unfold ProbeCall.rowStatistics
  rw [List.map_append, List.map_map, List.map_map, List.map_flatMap, List.flatMap_map]
  congr 1
  apply List.flatMap_congr
  intro statistic _
  unfold rowEntries MaskedStatistic.rowValues rowSum rowCount
  rw [List.length_map]
  rfl

variable (h : SameResponse call call' row row')
  (hmodulation : SameModulation call call' modulation modulation' row row')

include h hmodulation

omit [Field K] [LinearOrder K] [ToString K] in
theorem SameModulation.probeTokens :
    (R2opl.probeTokens modulation call.responseMask).trueColumns row =
      (R2opl.probeTokens modulation' call'.responseMask).trueColumns row' := by
  unfold R2opl.probeTokens
  rw [trueColumns_bothTokens, trueColumns_bothTokens, h.trueColumns]
  apply List.filter_congr
  intro token _
  exact (hmodulation.tokens token).2.2.1

omit [Field K] [LinearOrder K] [ToString K] in
theorem SameModulation.lastTokens :
    (R2opl.lastTokens modulation call.responseMask).trueColumns row =
      (R2opl.lastTokens modulation' call'.responseMask).trueColumns row' := by
  unfold R2opl.lastTokens
  rw [trueColumns_bothTokens, trueColumns_bothTokens, h.trueColumns]
  apply List.filter_congr
  intro token _
  exact (hmodulation.tokens token).2.2.2

omit [Field K] [LinearOrder K] [ToString K] in
theorem SameModulation.standardTokens :
    (R2opl.standardTokens modulation call.responseMask).trueColumns row =
      (R2opl.standardTokens modulation' call'.responseMask).trueColumns row' := by
  unfold R2opl.standardTokens
  rw [trueColumns_exceptTokens, trueColumns_exceptTokens, h.trueColumns]
  apply List.filter_congr
  intro token _
  exact congrArg not (hmodulation.tokens token).2.2.1

omit [Field K] [LinearOrder K] [ToString K] in
theorem SameModulation.countedMasks :
    (R2opl.countedMasks modulation call.responseMask call.metricsInput.correctRows
        call.metricsInput.errorRows).map (fun item => (item.1, item.2.trueColumns row)) =
      (R2opl.countedMasks modulation' call'.responseMask call'.metricsInput.correctRows
        call'.metricsInput.errorRows).map fun item => (item.1, item.2.trueColumns row') := by
  obtain ⟨hcorrect, herror⟩ := h.rows
  unfold R2opl.countedMasks
  simp only [List.map_cons, List.map_nil, trueColumns_maskRows, hcorrect, herror,
    hmodulation.branches, hmodulation.probedSteps, hmodulation.probeTokens h,
    hmodulation.lastTokens h, hmodulation.standardTokens h, h.trueColumns]

omit [Field K] [LinearOrder K] [ToString K] h hmodulation in
theorem rowValues_maskRows (stem : String) (values : Tensor (Flt K)) (mask rows : Tensor Bool)
    (row : Nat) : (⟨stem, values, maskRows mask rows⟩ : MaskedStatistic K).rowValues row =
      (stem, if rows.at1 row then (mask.trueColumns row).map (values.at2 row) else []) := by
  unfold MaskedStatistic.rowValues
  rw [trueColumns_maskRows]
  split
  · rfl
  · rfl

omit [Field K] [LinearOrder K] [ToString K] in
theorem SameModulation.modulationStatistics :
    (R2opl.modulationStatistics modulation call.responseMask call.metricsInput.correctRows
        call.metricsInput.errorRows).map (fun statistic => statistic.rowValues row) =
      (R2opl.modulationStatistics modulation' call'.responseMask call'.metricsInput.correctRows
        call'.metricsInput.errorRows).map fun statistic => statistic.rowValues row' := by
  obtain ⟨hcorrect, herror⟩ := h.rows
  have hprobabilities := List.map_congr_left hmodulation.probabilities
  have hdelta := funext fun step => (hmodulation.steps step).2.1
  have hcorrectGate := funext fun step => (hmodulation.steps step).2.2.1
  have herrorGate := funext fun step => (hmodulation.steps step).2.2.2
  have hcorrectTokens := funext fun token => (hmodulation.tokens token).1
  have herrorTokens := funext fun token => (hmodulation.tokens token).2.1
  unfold R2opl.modulationStatistics
  simp only [List.map_cons, List.map_nil, rowValues_maskRows, hcorrect, herror,
    hmodulation.branches ▸ hprobabilities, hmodulation.branches, hmodulation.probedSteps,
    hmodulation.probeTokens h, hmodulation.lastTokens h, hdelta, hcorrectGate, herrorGate,
    hcorrectTokens, herrorTokens]

omit [Field K] [LinearOrder K] [ToString K] h hmodulation in
/-- Values that agree on the response tokens are selected alike by every mask inside them. -/
theorem map_values_of_tokens {values values' : Tensor (Flt K)} {columns columns' : List Nat}
    (hvalues : ∀ token ∈ call.responseMask.trueColumns row,
      values.at2 row token = values'.at2 row' token)
    (hcolumns : columns = columns') (hinside : columns ⊆ call.responseMask.trueColumns row) :
    columns.map (values.at2 row) = columns'.map (values'.at2 row') := by
  rw [← hcolumns]
  exact List.map_congr_left fun token htoken => hvalues token (hinside htoken)

omit [ToString K] in
theorem SameModulation.advantageStatistics {advantage advantage' : Tensor (Flt K)}
    (hvalues : ∀ token ∈ call.responseMask.trueColumns row,
      advantage.at2 row token = advantage'.at2 row' token) :
    (R2opl.advantageStatistics modulation call.responseMask call.metricsInput.correctRows
        call.metricsInput.errorRows advantage).map (fun statistic => statistic.rowValues row) =
      (R2opl.advantageStatistics modulation' call'.responseMask call'.metricsInput.correctRows
        call'.metricsInput.errorRows advantage').map fun statistic =>
          statistic.rowValues row' := by
  obtain ⟨hcorrect, herror⟩ := h.rows
  have habs : ∀ token ∈ call.responseMask.trueColumns row,
      (advantage.map Flt.abs).at2 row token = (advantage'.map Flt.abs).at2 row' token := by
    intro token htoken
    rw [Tensor.at2_map, Tensor.at2_map, hvalues token htoken]
  have hlast : (R2opl.lastTokens modulation call.responseMask).trueColumns row ⊆
      call.responseMask.trueColumns row := by
    unfold R2opl.lastTokens
    rw [trueColumns_bothTokens]
    exact List.filter_subset_self _
  unfold R2opl.advantageStatistics
  simp only [List.map_cons, List.map_nil, rowValues_maskRows, hcorrect, herror,
    map_values_of_tokens hvalues h.trueColumns (List.Subset.refl _),
    map_values_of_tokens habs h.trueColumns (List.Subset.refl _),
    map_values_of_tokens hvalues (hmodulation.lastTokens h) hlast]

omit [ToString K] hmodulation in
theorem SameResponse.rawOpdStatistics {student student' teacher teacher' : Tensor (Flt K)}
    (hstudent : ∀ token ∈ call.responseMask.trueColumns row,
      student.at2 row token = student'.at2 row' token)
    (hteacher : ∀ token ∈ call.responseMask.trueColumns row,
      teacher.at2 row token = teacher'.at2 row' token) :
    (R2opl.rawOpdStatistics call.responseMask call.metricsInput.correctRows
        call.metricsInput.errorRows student teacher).map (fun statistic =>
          statistic.rowValues row) =
      (R2opl.rawOpdStatistics call'.responseMask call'.metricsInput.correctRows
        call'.metricsInput.errorRows student' teacher').map fun statistic =>
          statistic.rowValues row' := by
  obtain ⟨hcorrect, herror⟩ := h.rows
  have hraw : ∀ token ∈ call.responseMask.trueColumns row,
      (teacherMinusStudent student teacher).at2 row token =
        (teacherMinusStudent student' teacher').at2 row' token := by
    intro token htoken
    unfold teacherMinusStudent
    rw [Tensor.at2_mat, Tensor.at2_mat, hstudent token htoken, hteacher token htoken]
  have habs : ∀ token ∈ call.responseMask.trueColumns row,
      ((teacherMinusStudent student teacher).map Flt.abs).at2 row token =
        ((teacherMinusStudent student' teacher').map Flt.abs).at2 row' token := by
    intro token htoken
    rw [Tensor.at2_map, Tensor.at2_map, hraw token htoken]
  unfold R2opl.rawOpdStatistics
  simp only [List.map_cons, List.map_nil, rowValues_maskRows, hcorrect, herror,
    map_values_of_tokens hraw h.trueColumns (List.Subset.refl _),
    map_values_of_tokens habs h.trueColumns (List.Subset.refl _)]

omit [ToString K] in
theorem SameModulation.statistics :
    (call.statistics modulation).map (fun statistic => statistic.rowValues row) =
      (call'.statistics modulation').map fun statistic => statistic.rowValues row' := by
  unfold ProbeCall.statistics
  rw [List.map_append, List.map_append, List.map_append, List.map_append,
    hmodulation.modulationStatistics h]
  congr 1
  · congr 1
    exact h.advantage.map_elim fun _ _ hadvantage => hmodulation.advantageStatistics h hadvantage
  · apply h.student.map_elim
    intro student student' hstudent
    exact h.teacher.map_elim fun _ _ hteacher => h.rawOpdStatistics hstudent hteacher

omit [ToString K] in
/-- The row adds the same to every sum and count of both calls. -/
theorem SameModulation.map_rowStatistics (scope : PyStr) :
    (call.rowStatistics modulation scope).map (fun entry => (entry.1, entry.2 row)) =
      (call'.rowStatistics modulation' scope).map fun entry => (entry.1, entry.2 row') := by
  rw [R2opl.map_rowStatistics, R2opl.map_rowStatistics, hmodulation.countedMasks h,
    hmodulation.statistics h]

end SameRow

end R2opl
