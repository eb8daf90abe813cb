import R2opl.Tokens
import R2opl.Objective.Hyperparameters
import R2opl.Probe.Ranges

/-!
# Token modulation

`compute_r2opl_token_modulation`: the change of the probe probability across a
semantic step becomes the multiplier of that step's tokens.  The last step and
every token outside the steps keep the multiplier one.
-/

namespace R2opl

open Checked

variable {K : Type}

/-! ### Checks on the packed metadata -/

/-- `_prefix_mask`: the row counts of a left-aligned mask. -/
def prefixMask (mask : Tensor Bool) (name : String) : Except PyError (Tensor Nat) := do
  raiseIf (mask.ndim ≠ 2)
    (valueError s!"R2OPL {name} must be a two-dimensional boolean tensor.")
  let counts : Tensor Nat := .vec (mask.size 0) (tokenCount mask)
  raiseIf (¬ EqualMasks mask (leadingColumns (mask.size 1) counts))
    (valueError s!"R2OPL {name} must contain a left-aligned true prefix per row.")
  return counts

/-- Without a step mask, the steps are the ranges that are not empty. -/
def stepMaskOf (ranges : Tensor Int) (semanticStepMask : Option (Tensor Bool)) : Tensor Bool :=
  semanticStepMask.getD (.mat (ranges.size 0) (ranges.size 1) fun row step =>
    decide (ranges.at3 row step 0 < ranges.at3 row step 1))

/-- `torch.where(step_counts.ge(2), step_counts, 0)`. -/
def requiredBranches (count : Nat) : Nat := if 2 ≤ count then count else 0

def expectedBranchMask (branchWidth : Nat) (counts : Tensor Nat) : Tensor Bool :=
  leadingColumns branchWidth (counts.map requiredBranches)

/-- The `(start, end)` pairs of the first `count` steps of a row. -/
def rowRanges (ranges : Tensor Int) (row count : Nat) : List (Int × Int) :=
  (List.range count).map fun step => (ranges.at3 row step 0, ranges.at3 row step 1)

/-- The range loop over one row, from step `step` on. -/
def checkRowRanges (responseMask : Tensor Bool) (row : Nat) :
    Nat → Int → List (Int × Int) → Except PyError Unit
  | _, _, [] => .ok ()
  | step, previousEnd, (start, stop) :: rest => do
      raiseIf (¬ (0 ≤ start ∧ start < stop ∧ stop ≤ responseMask.size 1))
        (valueError s!"Invalid R2OPL semantic range ({start}, {stop}) in batch row {row}.")
      raiseIf (start ≠ previousEnd) (valueError
        s!"R2OPL semantic ranges must be contiguous from response token zero; row {row}, step {step} starts at {start}, expected {previousEnd}.")
      raiseIf (∃ token < responseMask.size 1, start ≤ (token : Int) ∧ (token : Int) < stop ∧
          responseMask.at2 row token = false)
        (valueError
          s!"R2OPL semantic range ({start}, {stop}) includes a masked response token.")
      checkRowRanges responseMask row (step + 1) stop rest

/-! ### Gates and multipliers -/

/-- Detached multipliers and the routing metadata they were made from. -/
structure R2OPLTokenModulation (K : Type) where
  probeProbabilities : Tensor (Flt K)
  probeBranchMask : Tensor Bool
  semanticStepMask : Tensor Bool
  probedStepMask : Tensor Bool
  probeDeltaProb : Tensor (Flt K)
  correctStepGate : Tensor (Flt K)
  errorStepGate : Tensor (Flt K)
  correctTokenMultiplier : Tensor (Flt K)
  errorTokenMultiplier : Tensor (Flt K)
  probedTokenMask : Tensor Bool
  lastStepTokenMask : Tensor Bool

/-- `tokens[row, start:end] = value` for the range of one step. -/
def writeStep (ranges : Tensor Int) (value : Nat → Nat → α) (row : Nat) (tokens : Tensor α)
    (step : Nat) : Tensor α :=
  tokens.setBlock row (row + 1) (ranges.at3 row step 0).toNat (ranges.at3 row step 1).toNat
    fun _ _ => value row step

/-- The write loop over rows and their steps. -/
def writeSteps (ranges : Tensor Int) (steps : Nat → List Nat) (value : Nat → Nat → α)
    (tokens : Tensor α) : Tensor α :=
  (List.range (tokens.size 0)).foldl
    (fun tokens row => (steps row).foldl (writeStep ranges value row) tokens) tokens

/-- `step_positions < (step_counts - 1).clamp_min(0)`. -/
def probedSteps (stepWidth : Nat) (counts : Tensor Nat) : Tensor Bool :=
  leadingColumns stepWidth (counts.map (· - 1))

section Values

variable [Field K]

def safeProbabilities (probabilities : Tensor (Flt K)) (branchMask : Tensor Bool) :
    Tensor (Flt K) :=
  .mat (probabilities.size 0) (probabilities.size 1) fun row branch =>
    if branchMask.at2 row branch then probabilities.at2 row branch else 0

/-- The deltas of the probed steps that have both their branches; zero elsewhere. -/
def probeDeltas (safe : Tensor (Flt K)) (probed : Tensor Bool) : Tensor (Flt K) :=
  .mat (probed.size 0) (probed.size 1) fun row step =>
    if 2 ≤ safe.size 1 ∧ step < min (probed.size 1) (safe.size 1 - 1) ∧
        probed.at2 row step = true then
      safe.at2 row (step + 1) - safe.at2 row step
    else 0

variable [LinearOrder K]

/-- `torch.where(probed, (1 + coefficient * delta).clamp_min(low), 1)`. -/
def correctStepGates (probed : Tensor Bool) (deltas : Tensor (Flt K)) (coefficient low : Flt K) :
    Tensor (Flt K) :=
  .mat (probed.size 0) (probed.size 1) fun row step =>
    if probed.at2 row step then (1 + coefficient * deltas.at2 row step).clampMin low else 1

/-- `torch.where(probed, (1 - coefficient * delta).clamp_min(0), 1)`. -/
def errorStepGates (probed : Tensor Bool) (deltas : Tensor (Flt K)) (coefficient : Flt K) :
    Tensor (Flt K) :=
  .mat (probed.size 0) (probed.size 1) fun row step =>
    if probed.at2 row step then (1 - coefficient * deltas.at2 row step).clampMin 0 else 1

/-- The steps whose tokens take a gate: all but the last one. -/
def gatedSteps (counts : Tensor Nat) (row : Nat) : List Nat :=
  List.range (counts.at1 row - 1)

/-- What the kernel returns once its inputs have passed every check. -/
def tokenModulation (probabilities : Tensor (Flt K)) (responseMask : Tensor Bool)
    (ranges : Tensor Int) (stepMask branchMask : Tensor Bool) (counts : Tensor Nat)
    (alphaR alphaD epsilon : Flt K) : R2OPLTokenModulation K :=
  let batchSize := responseMask.size 0
  let responseWidth := responseMask.size 1
  let probed := probedSteps (ranges.size 1) counts
  let deltas := probeDeltas (safeProbabilities probabilities branchMask) probed
  let correctGates := correctStepGates probed deltas alphaR epsilon
  let errorGates := errorStepGates probed deltas alphaD
  { probeProbabilities := probabilities
    probeBranchMask := branchMask
    semanticStepMask := stepMask
    probedStepMask := probed
    probeDeltaProb := deltas
    correctStepGate := correctGates
    errorStepGate := errorGates
    correctTokenMultiplier := writeSteps ranges (gatedSteps counts) correctGates.at2
      (.mat batchSize responseWidth fun _ _ => 1)
    errorTokenMultiplier := writeSteps ranges (gatedSteps counts) errorGates.at2
      (.mat batchSize responseWidth fun _ _ => 1)
    probedTokenMask := writeSteps ranges (gatedSteps counts) (fun _ _ => true)
      (.mat batchSize responseWidth fun _ _ => false)
    lastStepTokenMask := writeSteps ranges
      (fun row => (List.range (counts.at1 row)).filter (· + 1 = counts.at1 row))
      (fun _ _ => true) (.mat batchSize responseWidth fun _ _ => false) }

/-! ### The kernel -/

def computeR2oplTokenModulation [ToString K] (probabilities : Tensor (Flt K))
    (responseMask : Tensor Bool) (semanticStepRanges : Tensor Int)
    (semanticStepMask probeBranchMask : Option (Tensor Bool))
    (alphaR alphaD epsilon : Flt K) : Except PyError (R2OPLTokenModulation K) := do
  validateHyperparameters none none (some alphaR) (some alphaD) (some epsilon)
  raiseIf (probabilities.ndim ≠ 2)
    (valueError "R2OPL probe_probabilities must be a floating [batch, branches] tensor.")
  raiseIf (responseMask.ndim ≠ 2)
    (valueError "R2OPL response_mask must have shape [batch, response_length].")
  raiseIf (semanticStepRanges.ndim ≠ 3 ∨ semanticStepRanges.size 2 ≠ 2)
    (valueError "R2OPL semantic_step_ranges must have shape [batch, steps, 2].")
  let batchSize := responseMask.size 0
  raiseIf (probabilities.size 0 ≠ batchSize ∨ semanticStepRanges.size 0 ≠ batchSize)
    (valueError "R2OPL probe, response, and semantic-step tensors must share a batch size.")
  let stepMask := stepMaskOf semanticStepRanges semanticStepMask
  raiseIf (stepMask.shape ≠ semanticStepRanges.shape.take 2)
    (valueError "R2OPL semantic_step_mask must have shape [batch, steps].")
  let counts ← prefixMask stepMask "semantic_step_mask"
  let branchWidth := probabilities.size 1
  let expected := expectedBranchMask branchWidth counts
  let branchMask := probeBranchMask.getD expected
  raiseIf (branchMask.shape ≠ probabilities.shape)
    (valueError "R2OPL probe_branch_mask must have shape [batch, branches].")
  raiseIf (¬ EqualMasks branchMask expected) (valueError
    "R2OPL probe branches must be a left-aligned P_0..P_(K-1) prefix for every response with K >= 2 semantic steps.")
  raiseIf (∃ row < batchSize, branchWidth < requiredBranches (counts.at1 row))
    (valueError "R2OPL probe_probabilities do not include every required branch.")
  raiseIf (¬ FiniteOn probabilities branchMask)
    (valueError "R2OPL active probe probabilities must be finite.")
  raiseIf (∃ row < batchSize, ∃ branch < branchWidth, branchMask.at2 row branch = true ∧
      ((probabilities.at2 row branch).lt 0 = true ∨
        Flt.lt 1 (probabilities.at2 row branch) = true))
    (valueError "R2OPL active probe probabilities must lie in [0, 1].")
  (List.range batchSize).forM fun row =>
    checkRowRanges responseMask row 0 0
      (rowRanges semanticStepRanges row (counts.at1 row))
  return tokenModulation probabilities responseMask semanticStepRanges stepMask branchMask
    counts alphaR alphaD epsilon

end Values

/-! ### What it accepts -/

/-- The inputs the kernel accepts, with the masks it works on. -/
structure ModulationAdmissible [LinearOrder K] [Field K] (probabilities : Tensor (Flt K))
    (responseMask : Tensor Bool) (ranges : Tensor Int)
    (stepMask branchMask : Tensor Bool) (counts : Tensor Nat) : Prop where
  probabilities_ndim : probabilities.ndim = 2
  response_ndim : responseMask.ndim = 2
  ranges_ndim : ranges.ndim = 3
  ranges_pairs : ranges.size 2 = 2
  probabilities_rows : probabilities.size 0 = responseMask.size 0
  ranges_rows : ranges.size 0 = responseMask.size 0
  step_shape : stepMask.shape = ranges.shape.take 2
  counts_eq : counts = .vec (stepMask.size 0) (tokenCount stepMask)
  step_leading : EqualMasks stepMask (leadingColumns (stepMask.size 1) counts)
  branch_shape : branchMask.shape = probabilities.shape
  branch_leading : EqualMasks branchMask (expectedBranchMask (probabilities.size 1) counts)
  branches_fit : ∀ row < responseMask.size 0,
    requiredBranches (counts.at1 row) ≤ probabilities.size 1
  finite : FiniteOn probabilities branchMask
  in_unit : ∀ row < responseMask.size 0, ∀ branch < probabilities.size 1,
    branchMask.at2 row branch = true → (probabilities.at2 row branch).lt 0 = false ∧
      Flt.lt 1 (probabilities.at2 row branch) = false
  ranges_ok : ∀ row < responseMask.size 0, checkRowRanges responseMask row 0 0
    (rowRanges ranges row (counts.at1 row)) = .ok ()

theorem prefixMask_eq_ok {mask : Tensor Bool} {name : String} {counts : Tensor Nat} :
    prefixMask mask name = .ok counts ↔ mask.ndim = 2 ∧
      counts = .vec (mask.size 0) (tokenCount mask) ∧
      EqualMasks mask (leadingColumns (mask.size 1) counts) := by
  simp only [prefixMask, raiseIf_bind_eq_ok, not_not, pure_eq_ok, Except.ok.injEq, ne_eq]
  constructor
  · rintro ⟨hndim, hleading, rfl⟩
    exact ⟨hndim, rfl, hleading⟩
  · rintro ⟨hndim, rfl, hleading⟩
    exact ⟨hndim, hleading, rfl⟩

/-- The loop over one row accepts the tilings whose ranges the mask covers. -/
theorem checkRowRanges_of_tiles {responseMask : Tensor Bool} {row : Nat}
    (ranges : List (Nat × Nat)) :
    ∀ step previousEnd : Nat, TilesFrom (responseMask.size 1) previousEnd ranges →
      (∀ range ∈ ranges, ∀ token, range.1 ≤ token → token < range.2 →
        responseMask.at2 row token = true) →
      checkRowRanges responseMask row step previousEnd (intRanges ranges) = .ok () := by
  induction ranges with
  | nil => intro step previousEnd _ _; rfl
  | cons range rest ih =>
    obtain ⟨start, stop⟩ := range
    intro step previousEnd htiles hcovers
    obtain ⟨rfl, hlt, hle, hrest⟩ := htiles
    have hbounds : (0 : Int) ≤ start ∧ (start : Int) < stop ∧ (stop : Int) ≤ responseMask.size 1 :=
      ⟨Int.natCast_nonneg _, Int.ofNat_lt.mpr hlt, Int.ofNat_le.mpr hle⟩
    have hmasked : ¬ ∃ token < responseMask.size 1, (start : Int) ≤ (token : Int) ∧
        (token : Int) < (stop : Int) ∧ responseMask.at2 row token = false := by
      rintro ⟨token, _, hstart, hstop, hfalse⟩
      have htrue := hcovers _ List.mem_cons_self token (Int.ofNat_le.mp hstart)
        (Int.ofNat_lt.mp hstop)
      rw [htrue] at hfalse
      cases hfalse
    change checkRowRanges responseMask row step start
      (((start : Int), (stop : Int)) :: intRanges rest) = .ok ()
    rw [checkRowRanges, raiseIf_of_not (not_not.mpr hbounds), ok_bind,
      raiseIf_of_not (not_not.mpr rfl), ok_bind, raiseIf_of_not hmasked, ok_bind]
    apply ih (step + 1) stop hrest
    intro range hrange
    exact hcovers range (List.mem_cons_of_mem _ hrange)

section Spec

variable [Field K] [LinearOrder K] [ToString K] {probabilities : Tensor (Flt K)}
  {responseMask : Tensor Bool} {ranges : Tensor Int}
  {semanticStepMask probeBranchMask : Option (Tensor Bool)} {alphaR alphaD epsilon : Flt K}

theorem computeR2oplTokenModulation_eq_ok {modulation : R2OPLTokenModulation K} :
    computeR2oplTokenModulation probabilities responseMask ranges semanticStepMask
        probeBranchMask alphaR alphaD epsilon = .ok modulation ↔
      validateHyperparameters none none (some alphaR) (some alphaD) (some epsilon) = .ok () ∧
      ∃ stepMask branchMask counts, stepMask = stepMaskOf ranges semanticStepMask ∧
        branchMask = probeBranchMask.getD
          (expectedBranchMask (probabilities.size 1) counts) ∧
        ModulationAdmissible probabilities responseMask ranges stepMask branchMask counts ∧
        modulation = tokenModulation probabilities responseMask ranges stepMask branchMask
          counts alphaR alphaD epsilon := by
  simp only [computeR2oplTokenModulation, bind_eq_ok, raiseIf_eq_ok, exists_and_left,
    exists_const, not_not, not_or, ne_eq, pure_eq_ok, Except.ok.injEq, prefixMask_eq_ok]
  constructor
  · rintro ⟨⟨⟩, hvalid, hprobabilities, hresponse, hranges, hrows, hstepShape, counts,
      ⟨_, hcounts, hleading⟩, hbranchShape, hbranchLeading, hfit, hfinite, hunit, ⟨⟩, hloop,
      rfl⟩
    refine ⟨hvalid, _, rfl, _, counts, rfl, ?_, rfl⟩
    exact {
      probabilities_ndim := hprobabilities
      response_ndim := hresponse
      ranges_ndim := hranges.1
      ranges_pairs := hranges.2
      probabilities_rows := hrows.1
      ranges_rows := hrows.2
      step_shape := hstepShape
      counts_eq := hcounts
      step_leading := hleading
      branch_shape := hbranchShape
      branch_leading := hbranchLeading
      branches_fit := fun row hrow => not_lt.mp fun hlt => hfit ⟨row, hrow, hlt⟩
      finite := hfinite
      in_unit := by
        intro row hrow branch hbranch hactive
        have hout := not_or.mp fun h => hunit ⟨row, hrow, branch, hbranch, hactive, h⟩
        exact ⟨by simpa using hout.1, by simpa using hout.2⟩
      ranges_ok := fun row hrow =>
        (forM_eq_ok _).mp hloop row (List.mem_range.mpr hrow) }
  · rintro ⟨hvalid, stepMask, rfl, branchMask, counts, rfl, h, rfl⟩
    have hndim : (stepMaskOf ranges semanticStepMask).ndim = 2 := by
      have hlength : ranges.shape.length = 3 := h.ranges_ndim
      rw [Tensor.ndim, h.step_shape, List.length_take, hlength]
      rfl
    refine ⟨(), hvalid, h.probabilities_ndim, h.response_ndim, ⟨h.ranges_ndim, h.ranges_pairs⟩,
      ⟨h.probabilities_rows, h.ranges_rows⟩, h.step_shape, counts,
      ⟨hndim, h.counts_eq, h.step_leading⟩, h.branch_shape, h.branch_leading, ?_, h.finite, ?_,
      (), ?_, rfl⟩
    · rintro ⟨row, hrow, hlt⟩
      exact absurd hlt (not_lt.mpr (h.branches_fit row hrow))
    · rintro ⟨row, hrow, branch, hbranch, hactive, hout⟩
      obtain ⟨hlow, hhigh⟩ := h.in_unit row hrow branch hbranch hactive
      rw [hlow, hhigh] at hout
      simp at hout
    · apply (forM_eq_ok _).mpr
      intro row hrow
      exact h.ranges_ok row (List.mem_range.mp hrow)

end Spec

/-! ### Written tokens -/

section Written

variable {ranges : Tensor Int} {steps : Nat → List Nat}

theorem shape_writeSteps {value : Nat → Nat → α} {tokens : Tensor α} :
    (writeSteps ranges steps value tokens).shape = tokens.shape := by
  apply List.foldlRecOn (motive := fun written : Tensor α => written.shape = tokens.shape)
  · rfl
  · intro written hwritten row _
    apply List.foldlRecOn (motive := fun written : Tensor α => written.shape = tokens.shape)
    · exact hwritten
    · intro written hwritten step _
      exact hwritten

end Written

end R2opl
