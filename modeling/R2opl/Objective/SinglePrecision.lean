import R2opl.Lib.BinaryFloat
import R2opl.Objective.Advantage
import R2opl.Objective.Steps

/-!
# The kernels in single precision

The probe probabilities of a batch are single-precision numbers, and so is all that the kernels
make of them.  The checks of the kernels compute nothing; deltas, gates and advantages are rounded
after every operation, and a coefficient before it.  One that is too large for the format becomes
an infinity there.
-/

namespace R2opl

open Checked BinaryFormat

variable {K : Type} [Field K] [LinearOrder K] [FloorRing K] [IsStrictOrderedRing K]

namespace Single

def round (a : Flt K) : Flt K := binary32.round a

/-- `torch.where(probed, (1 + coefficient * delta).clamp_min(low), 1)`. -/
def correctStepGates (probed : Tensor Bool) (deltas : Tensor (Flt K)) (coefficient low : Flt K) :
    Tensor (Flt K) :=
  .mat (probed.size 0) (probed.size 1) fun row step =>
    if probed.at2 row step then
      (round (1 + round (round coefficient * deltas.at2 row step))).clampMin (round low)
    else 1

/-- `torch.where(probed, (1 - coefficient * delta).clamp_min(0), 1)`. -/
def errorStepGates (probed : Tensor Bool) (deltas : Tensor (Flt K)) (coefficient : Flt K) :
    Tensor (Flt K) :=
  .mat (probed.size 0) (probed.size 1) fun row step =>
    if probed.at2 row step then
      (round (1 - round (round coefficient * deltas.at2 row step))).clampMin 0
    else 1

/-- The rounded values beside the masks, which are those of exact arithmetic. -/
def tokenModulation (exact : R2OPLTokenModulation K) (responseMask : Tensor Bool)
    (ranges : Tensor Int) (alphaR alphaD epsilon : Flt K) : R2OPLTokenModulation K :=
  let counts : Tensor Nat :=
    .vec (exact.semanticStepMask.size 0) (tokenCount exact.semanticStepMask)
  let deltas := exact.probeDeltaProb.map round
  let correctGates := correctStepGates exact.probedStepMask deltas alphaR epsilon
  let errorGates := errorStepGates exact.probedStepMask deltas alphaD
  { exact with
    probeDeltaProb := deltas
    correctStepGate := correctGates
    errorStepGate := errorGates
    correctTokenMultiplier := writeSteps ranges (gatedSteps counts) correctGates.at2
      (.mat (responseMask.size 0) (responseMask.size 1) fun _ _ => 1)
    errorTokenMultiplier := writeSteps ranges (gatedSteps counts) errorGates.at2
      (.mat (responseMask.size 0) (responseMask.size 1) fun _ _ => 1) }

/-- `compute_r2opl_token_modulation` on a single-precision tensor: the same checks, which come
    before any arithmetic. -/
def computeR2oplTokenModulation [ToString K] (probabilities : Tensor (Flt K))
    (responseMask : Tensor Bool) (semanticStepRanges : Tensor Int)
    (semanticStepMask probeBranchMask : Option (Tensor Bool))
    (alphaR alphaD epsilon : Flt K) : Except PyError (R2OPLTokenModulation K) := do
  let exact ← R2opl.computeR2oplTokenModulation probabilities responseMask semanticStepRanges
    semanticStepMask probeBranchMask alphaR alphaD epsilon
  return tokenModulation exact responseMask semanticStepRanges alphaR alphaD epsilon

def tokenAdvantage (studentLogProbs teacherLogProbs : Tensor (Flt K))
    (correctMask errorMask : Tensor Bool) (difficulty : Tensor (Flt K))
    (responseMask : Tensor Bool) (correctMultiplier errorMultiplier : Tensor (Flt K))
    (lambda_ miu : Flt K) : Tensor (Flt K) :=
  .mat (studentLogProbs.size 0) (studentLogProbs.size 1) fun row column =>
    let teacherMinusStudent :=
      round (teacherLogProbs.at2 row column - studentLogProbs.at2 row column)
    let correctAdvantage :=
      round (round (difficulty.at2 row column * round miu) * correctMultiplier.at2 row column)
    let errorAdvantage :=
      round (round (round (difficulty.at2 row column * round lambda_) * teacherMinusStudent) *
        errorMultiplier.at2 row column)
    let advantage :=
      if errorMask.at2 row column then errorAdvantage
      else if correctMask.at2 row column then correctAdvantage
      else 0
    round (advantage * Flt.ofBool (responseMask.at2 row column))

/-- `r2opl_token_advantage` on single-precision tensors. -/
def r2oplTokenAdvantage [ToString K] (studentLogProbs teacherLogProbs : Tensor (Flt K))
    (correctMask errorMask : Tensor Bool) (difficulty : Tensor (Flt K))
    (responseMask : Tensor Bool) (correctMultiplier errorMultiplier : Option (Tensor (Flt K)))
    (lambda_ miu : Flt K) : Except PyError (Tensor (Flt K)) := do
  let _exact ← R2opl.r2oplTokenAdvantage studentLogProbs teacherLogProbs correctMask errorMask
    difficulty responseMask correctMultiplier errorMultiplier lambda_ miu
  let shape := studentLogProbs.shape
  let difficulty ← difficultyTokens difficulty shape
  let correctMultiplier ← multiplierOrOne correctMultiplier shape "correct_multiplier"
  let errorMultiplier ← multiplierOrOne errorMultiplier shape "error_multiplier"
  return tokenAdvantage studentLogProbs teacherLogProbs correctMask errorMask difficulty
    responseMask correctMultiplier errorMultiplier lambda_ miu

/-! ### When a gate is finite -/

section Gates

variable {alpha epsilon before after : K}

/-- What the difference of two probabilities is rounded to. -/
theorem round_sub (hbefore : 0 ≤ before ∧ before ≤ 1) (hafter : 0 ≤ after ∧ after ≤ 1) :
    round (.fin (after - before)) = .fin (binary32.roundValue (after - before)) ∧
      |binary32.roundValue (after - before)| ≤ 1 := by
  have habs : |after - before| ≤ 1 := abs_le.mpr ⟨by linarith, by linarith⟩
  have hlarge : (1 : K) < binary32.overflow := by
    unfold overflow binary32
    norm_num
  exact ⟨(round_of_lt (habs.trans_lt hlarge)).1, abs_roundValue_le_one habs⟩

theorem round_coefficient (hnonneg : 0 ≤ alpha) :
    (alpha < binary32.overflow → ∃ a, round (.fin alpha) = .fin a ∧ |a| ≤ binary32.largest) ∧
      (binary32.overflow ≤ alpha → round (.fin alpha) = .inf false) := by
  constructor
  · intro hlt
    obtain ⟨hround, hle⟩ := round_of_lt (f := binary32) (by rwa [abs_of_nonneg hnonneg])
    exact ⟨_, hround, hle⟩
  · intro hle
    have hround := round_of_overflow (f := binary32) (x := alpha) (by rwa [abs_of_nonneg hnonneg])
    rwa [decide_eq_false (not_lt.mpr hnonneg)] at hround

/-- `(1.0 + alpha_R * delta).clamp_min(epsilon)` on one step. -/
def correctGate (alphaR epsilon delta : K) : Flt K :=
  (round (1 + round (round (.fin alphaR) * round (.fin delta)))).clampMin (round (.fin epsilon))

/-- `(1.0 - alpha_D * delta).clamp_min(0.0)` on one step. -/
def errorGate (alphaD delta : K) : Flt K :=
  (round (1 - round (round (.fin alphaD) * round (.fin delta)))).clampMin 0

omit [FloorRing K] [IsStrictOrderedRing K] in
/-- An infinite coefficient. -/
theorem inf_mul_fin (delta : K) : (Flt.inf false * Flt.fin delta : Flt K) =
    if delta = 0 then .nan else if 0 < delta then .inf false else .inf true := rfl

/-- A coefficient that overflows leaves the gate finite exactly where the probability falls, and
    the gate is the lower bound there. -/
theorem correctGate_isFinite (halpha : 0 ≤ alpha) (hepsilon : 0 ≤ epsilon ∧ epsilon ≤ 1)
    (hbefore : 0 ≤ before ∧ before ≤ 1) (hafter : 0 ≤ after ∧ after ≤ 1)
    (hleft : binary32.Represents before) (hright : binary32.Represents after) :
    (correctGate alpha epsilon (after - before)).isFinite = true ↔
      alpha < binary32.overflow ∨ after < before := by
  obtain ⟨hdelta, hunit⟩ := round_sub hbefore hafter
  have hlow : ∃ low, round (.fin epsilon) = .fin low := by
    have hround := (round_sub ⟨le_rfl, zero_le_one⟩ hepsilon).1
    rw [sub_zero] at hround
    exact ⟨_, hround⟩
  obtain ⟨low, hlow⟩ := hlow
  unfold correctGate
  rw [hdelta, hlow]
  rcases lt_or_ge alpha binary32.overflow with hsmall | hlarge
  · obtain ⟨a, ha, hle⟩ := (round_coefficient halpha).1 hsmall
    obtain ⟨r, hr, hrle⟩ := round_mul_of_le hle hunit
    obtain ⟨s, hs⟩ := round_one_add_of_le hrle
    rw [ha]
    unfold round
    rw [hr, Flt.one_eq, Flt.fin_add, hs, Flt.clampMin_fin]
    exact iff_of_true rfl (.inl hsmall)
  · rw [(round_coefficient halpha).2 hlarge, or_iff_right (not_lt.mpr hlarge),
      ← hright.roundValue_sub_neg_iff hleft, inf_mul_fin]
    rcases lt_trichotomy (binary32.roundValue (after - before)) 0 with hneg | hzero | hpos
    · rw [if_neg hneg.ne, if_neg hneg.not_gt]
      exact iff_of_true rfl hneg
    · rw [if_pos hzero]
      exact iff_of_false Bool.false_ne_true hzero.not_lt
    · rw [if_neg hpos.ne', if_pos hpos]
      exact iff_of_false Bool.false_ne_true hpos.not_gt

theorem errorGate_isFinite (halpha : 0 ≤ alpha) (hbefore : 0 ≤ before ∧ before ≤ 1)
    (hafter : 0 ≤ after ∧ after ≤ 1) (hleft : binary32.Represents before)
    (hright : binary32.Represents after) :
    (errorGate alpha (after - before)).isFinite = true ↔
      alpha < binary32.overflow ∨ before < after := by
  obtain ⟨hdelta, hunit⟩ := round_sub hbefore hafter
  unfold errorGate
  rw [hdelta]
  rcases lt_or_ge alpha binary32.overflow with hsmall | hlarge
  · obtain ⟨a, ha, hle⟩ := (round_coefficient halpha).1 hsmall
    obtain ⟨r, hr, hrle⟩ := round_mul_of_le hle hunit
    obtain ⟨s, hs⟩ := round_one_add_of_le (f := binary32) (a := -r) (by rwa [abs_neg])
    rw [ha]
    unfold round
    rw [hr, Flt.one_eq, Flt.fin_sub, sub_eq_add_neg, hs, Flt.zero_eq, Flt.clampMin_fin]
    exact iff_of_true rfl (.inl hsmall)
  · rw [(round_coefficient halpha).2 hlarge, or_iff_right (not_lt.mpr hlarge),
      ← hright.roundValue_sub_pos_iff hleft, inf_mul_fin]
    rcases lt_trichotomy (binary32.roundValue (after - before)) 0 with hneg | hzero | hpos
    · rw [if_neg hneg.ne, if_neg hneg.not_gt]
      exact iff_of_false Bool.false_ne_true hneg.not_gt
    · rw [if_pos hzero]
      exact iff_of_false Bool.false_ne_true hzero.not_gt
    · rw [if_neg hpos.ne', if_pos hpos]
      exact iff_of_true rfl hpos

end Gates

/-! ### The multipliers of a row -/

section Row

variable [ToString K] {input : ModulationInput K} {index : Nat} {row : SemanticRow K}
  {alphaR alphaD epsilon : K} {modulation : R2OPLTokenModulation K}

/-- The kernel on a batch. -/
def run (input : ModulationInput K) (alphaR alphaD epsilon : Flt K) :
    Except PyError (R2OPLTokenModulation K) :=
  computeR2oplTokenModulation input.probabilities input.responseMask input.semanticStepRanges
    input.semanticStepMask input.probeBranchMask alphaR alphaD epsilon

/-- A token of a probed step has the gate of the step, and every other token one. -/
structure Multiplies (modulation : R2OPLTokenModulation K) (index : Nat) (row : SemanticRow K)
    (alphaR alphaD epsilon : K) : Prop where
  probed : ∀ step token, row.Probed step → row.Owns step token →
    modulation.correctTokenMultiplier.at2 index token =
        correctGate alphaR epsilon (row.delta step) ∧
      modulation.errorTokenMultiplier.at2 index token = errorGate alphaD (row.delta step)
  standard : ∀ token, (∀ step, row.Probed step → ¬ row.Owns step token) →
    modulation.correctTokenMultiplier.at2 index token = .fin 1 ∧
      modulation.errorTokenMultiplier.at2 index token = .fin 1

section Steps

variable {probed : Tensor Bool} {deltas : Tensor (Flt K)} {step : Nat} {delta : K}

omit [ToString K] [IsStrictOrderedRing K] in
theorem correctStepGates_at2 (hprobed : probed.at2 index step = true)
    (hdelta : deltas.at2 index step = .fin delta) :
    (correctStepGates probed (deltas.map round) (.fin alphaR) (.fin epsilon)).at2 index step =
      correctGate alphaR epsilon delta := by
  unfold correctStepGates
  rw [Tensor.at2_mat, if_pos hprobed, Tensor.at2_map, hdelta]
  rfl

omit [ToString K] [IsStrictOrderedRing K] in
theorem errorStepGates_at2 (hprobed : probed.at2 index step = true)
    (hdelta : deltas.at2 index step = .fin delta) :
    (errorStepGates probed (deltas.map round) (.fin alphaD)).at2 index step =
      errorGate alphaD delta := by
  unfold errorStepGates
  rw [Tensor.at2_mat, if_pos hprobed, Tensor.at2_map, hdelta]
  rfl

end Steps

omit [IsStrictOrderedRing K] in
theorem multiplies_of_run (h : input.Row index row) (hvalid : row.Valid input.responseMask index)
    (hrun : run input (.fin alphaR) (.fin alphaD) (.fin epsilon) = .ok modulation)
    (hindex : index < input.responseMask.size 0) :
    Multiplies modulation index row alphaR alphaD epsilon := by
  obtain ⟨exact, hexact, hmodulation⟩ := bind_eq_ok.mp hrun
  obtain rfl := Except.ok.inj hmodulation
  have hmodulates := h.modulates_of_run hvalid hexact hindex
  obtain ⟨_, _, _, counts, rfl, rfl, hadmissible, rfl⟩ :=
    computeR2oplTokenModulation_eq_ok.mp hexact
  obtain ⟨other, hother, _, hcount, _⟩ := hadmissible.exists_row hindex
  have hnum : row.numSteps = counts.at1 index :=
    (congrArg List.length (h.ranges_unique hother)).trans hcount
  rw [hadmissible.counts_eq] at hnum
  have hgated : ∀ step ∈ gatedSteps (.vec (input.stepMask.size 0) (tokenCount input.stepMask)) index,
      step < row.numSteps := fun step hstep =>
    Nat.lt_of_succ_lt ((mem_gatedSteps hnum).mp hstep)
  have hsize : index < (Tensor.mat (input.responseMask.size 0) (input.responseMask.size 1)
      fun _ _ => (1 : Flt K)).size 0 := hindex
  constructor
  · intro step token hprobed howns
    have hstep := (mem_gatedSteps hnum).mpr hprobed
    have hmask := (hmodulates.probedStep step).trans (decide_eq_true hprobed)
    have hdelta := hmodulates.delta step
    constructor
    · exact (h.written hvalid hsize hgated hstep howns).trans (correctStepGates_at2 hmask hdelta)
    · exact (h.written hvalid hsize hgated hstep howns).trans (errorStepGates_at2 hmask hdelta)
  · intro token hfree
    have hnone : ∀ step ∈ gatedSteps _ index, ¬ row.Owns step token := fun step hstep =>
      hfree step ((mem_gatedSteps hnum).mp hstep)
    exact ⟨h.unwritten hgated hnone, h.unwritten hgated hnone⟩

variable {responseMask : Tensor Bool}

omit [ToString K] [IsStrictOrderedRing K] in
/-- The probabilities around a probed step. -/
theorem probed_probabilities {step : Nat} (hvalid : row.Valid responseMask index)
    (hrepresents : ∀ branch < requiredBranches row.numSteps,
      binary32.Represents (row.probability branch)) (hprobed : row.Probed step) :
    row.delta step = row.probability (step + 1) - row.probability step ∧
      (∀ branch ∈ [step, step + 1], 0 ≤ row.probability branch ∧ row.probability branch ≤ 1) ∧
      ∀ branch ∈ [step, step + 1], binary32.Represents (row.probability branch) := by
  have hlt : step + 1 < row.numSteps := hprobed
  have hbranches : ∀ branch ∈ [step, step + 1], branch < requiredBranches row.numSteps := by
    intro branch hbranch
    have hrequired : requiredBranches row.numSteps = row.numSteps := if_pos (by omega)
    rw [hrequired]
    rcases List.mem_pair.mp hbranch with rfl | rfl
    · exact Nat.lt_of_succ_lt hlt
    · exact hlt
  exact ⟨if_pos hprobed, fun branch hbranch => hvalid.in_unit branch (hbranches branch hbranch),
    fun branch hbranch => hrepresents branch (hbranches branch hbranch)⟩

variable {tokens : Nat → Prop}

omit [Field K] [LinearOrder K] [FloorRing K] [IsStrictOrderedRing K] [ToString K] in
/-- The multipliers of the chosen tokens are finite when the gates of the probed steps with such a
    token are. -/
theorem multipliers_finite_iff [Field K] {multiplier gate : Nat → Flt K} {small : Prop}
    {moves : Nat → Prop}
    (hprobed : ∀ step token, row.Probed step → row.Owns step token → multiplier token = gate step)
    (hstandard : ∀ token, (∀ step, row.Probed step → ¬ row.Owns step token) →
      multiplier token = .fin 1)
    (hgate : ∀ step, row.Probed step → ((gate step).isFinite = true ↔ small ∨ moves step)) :
    (∀ token, tokens token → (multiplier token).isFinite = true) ↔
      small ∨ ∀ step token, row.Probed step → row.Owns step token → tokens token → moves step := by
  constructor
  · intro hfinite
    by_cases hsmall : small
    · exact .inl hsmall
    · refine .inr fun step token hstep howns htoken => ?_
      have htokenFinite := hfinite token htoken
      rw [hprobed step token hstep howns, hgate step hstep] at htokenFinite
      exact htokenFinite.resolve_left hsmall
  · intro hcondition token htoken
    by_cases howner : ∃ step, row.Probed step ∧ row.Owns step token
    · obtain ⟨step, hstep, howns⟩ := howner
      rw [hprobed step token hstep howns, hgate step hstep]
      exact hcondition.imp_right fun hmoves => hmoves step token hstep howns htoken
    · rw [hstandard token fun step hstep howns => howner ⟨step, hstep, howns⟩]
      rfl

omit [ToString K] in
/-- A multiplier of a correct token is infinite or NaN only if its coefficient overflows and the
    probability does not fall over its step. -/
theorem Multiplies.correct_finite_iff (h : Multiplies modulation index row alphaR alphaD epsilon)
    (halpha : 0 ≤ alphaR) (hepsilon : 0 ≤ epsilon ∧ epsilon ≤ 1)
    (hvalid : row.Valid responseMask index)
    (hrepresents : ∀ branch < requiredBranches row.numSteps,
      binary32.Represents (row.probability branch)) :
    (∀ token, tokens token →
        (modulation.correctTokenMultiplier.at2 index token).isFinite = true) ↔
      alphaR < binary32.overflow ∨ ∀ step token, row.Probed step → row.Owns step token →
        tokens token → row.probability (step + 1) < row.probability step := by
  apply multipliers_finite_iff
  · intro step token hprobed howns
    exact (h.probed step token hprobed howns).1
  · intro token hfree
    exact (h.standard token hfree).1
  · intro step hprobed
    obtain ⟨hdelta, hunit, hrep⟩ := probed_probabilities hvalid hrepresents hprobed
    rw [hdelta]
    exact correctGate_isFinite halpha hepsilon (hunit _ (by simp)) (hunit _ (by simp))
      (hrep _ (by simp)) (hrep _ (by simp))

omit [ToString K] in
/-- For an incorrect token the probability has to rise. -/
theorem Multiplies.error_finite_iff (h : Multiplies modulation index row alphaR alphaD epsilon)
    (halpha : 0 ≤ alphaD) (hvalid : row.Valid responseMask index)
    (hrepresents : ∀ branch < requiredBranches row.numSteps,
      binary32.Represents (row.probability branch)) :
    (∀ token, tokens token →
        (modulation.errorTokenMultiplier.at2 index token).isFinite = true) ↔
      alphaD < binary32.overflow ∨ ∀ step token, row.Probed step → row.Owns step token →
        tokens token → row.probability step < row.probability (step + 1) := by
  apply multipliers_finite_iff
  · intro step token hprobed howns
    exact (h.probed step token hprobed howns).2
  · intro token hfree
    exact (h.standard token hfree).2
  · intro step hprobed
    obtain ⟨hdelta, hunit, hrep⟩ := probed_probabilities hvalid hrepresents hprobed
    rw [hdelta]
    exact errorGate_isFinite halpha (hunit _ (by simp)) (hunit _ (by simp))
      (hrep _ (by simp)) (hrep _ (by simp))

end Row

/-! ### The advantage kernel -/

section Advantage

variable [ToString K] {studentLogProbs teacherLogProbs difficulty : Tensor (Flt K)}
  {correctMask errorMask responseMask : Tensor Bool} {lambda_ miu : Flt K}
  {correctMultiplier errorMultiplier : Tensor (Flt K)}

omit [IsStrictOrderedRing K] in
/-- On admissible tensors the kernel asks for finite multipliers, and for nothing else. -/
theorem r2oplTokenAdvantage_returns_iff
    (hvalid : validateHyperparameters (some lambda_) (some miu) none none none = .ok ())
    (h : AdvantageAdmissible studentLogProbs teacherLogProbs difficulty correctMask errorMask
      responseMask)
    (hcorrectShape : correctMultiplier.shape = responseMask.shape)
    (herrorShape : errorMultiplier.shape = responseMask.shape) :
    Returns (r2oplTokenAdvantage studentLogProbs teacherLogProbs correctMask errorMask
        difficulty responseMask (some correctMultiplier) (some errorMultiplier) lambda_ miu) ↔
      FiniteOn correctMultiplier correctMask ∧ FiniteOn errorMultiplier errorMask := by
  have hrows : difficulty.shape = [studentLogProbs.shape.getD 0 0] := by
    rw [h.student_shape]
    exact h.difficulty_shape
  constructor
  · rintro ⟨_, hrun⟩
    obtain ⟨_, hexact, _⟩ := bind_eq_ok.mp hrun
    exact finite_of_r2oplTokenAdvantage hexact
  · rintro ⟨hcorrect, herror⟩
    obtain ⟨exact, hexact⟩ := r2oplTokenAdvantage_returns hvalid h hcorrectShape herrorShape
      hcorrect herror
    simp only [r2oplTokenAdvantage, hexact, ok_bind]
    rw [difficultyTokens_of_rows hrows, ok_bind,
      multiplierOrOne_of_shape (hcorrectShape.trans h.student_shape.symm), ok_bind,
      multiplierOrOne_of_shape (herrorShape.trans h.student_shape.symm), ok_bind]
    exact Returns.ok _

end Advantage

end Single

end R2opl
