import R2opl.Controller.Groups

/-!
# The R²OPL group controllers

`compute_r2opl_controller_batch` (`algorithms/r2opl.py`), which the trainer
calls, and `compute_r2opl_batch` (`utils/r2opl.py`), the kernel-side copy that
also returns token masks.  They check their inputs in different orders.
-/

namespace R2opl

open Checked

variable {K : Type} [Field K] [LinearOrder K]

/-- `rewards.eq(1.0) & genuine`. -/
def correctRows (batchSize : Nat) (rewards : Tensor (Flt K)) (genuine : Tensor Bool) :
    Tensor Bool :=
  .vec batchSize fun row => (rewards.at1 row).eq 1 && genuine.at1 row

/-! ### The trainer's controller -/

/-- Per-rollout routing state materialised by the trainer controller. -/
structure R2OPLControllerBatchResult (K : Type) where
  correctness : Tensor Bool
  difficulty : Tensor (Flt K)
  groupSuccess : List (Flt K)
  metrics : List (String × Flt K)

/-- The check on the genuine mask compares the number of its elements. -/
def checkGenuineNumel (message : String) (batchSize : Nat) :
    Option (Tensor Bool) → Except PyError Unit
  | none => .ok ()
  | some mask => raiseIf (mask.ndim ≠ 1 ∨ mask.numel ≠ batchSize) (valueError message)

/-- The token counts with which both result metrics end. -/
def tokenMetrics (correctTokens errorTokens genuine : Tensor Bool) :
    List (String × Flt K) :=
  [("r2opl/train/correct_token_count", countTokens correctTokens),
    ("r2opl/train/error_token_count", countTokens errorTokens),
    ("r2opl/train/genuine_trajectory_count", countRows genuine)]

def controllerBatchResult (responseMask : Tensor Bool) (rewards : Tensor (Flt K))
    (promptGroupIds : List String) (genuine : Tensor Bool) : R2OPLControllerBatchResult K :=
  let correctness := correctRows (responseMask.size 0) rewards genuine
  let statistics := groupStatistics (responseMask.size 0) promptGroupIds genuine correctness
  { correctness := correctness
    difficulty := statistics.difficulty
    groupSuccess := statistics.groupSuccess
    metrics :=
      outcomeMetrics "r2opl/train/" genuine correctness statistics.groupSuccess ++
        tokenMetrics (maskRows responseMask correctness)
          (maskRows responseMask (exceptRows genuine correctness)) genuine }

def computeR2oplControllerBatch [ToString K] (responseMask : Tensor Bool)
    (verifierRewards : Tensor (Flt K)) (promptGroupIds : List String)
    (genuineTrajectoryMask : Option (Tensor Bool)) :
    Except PyError (R2OPLControllerBatchResult K) := do
  raiseIf (responseMask.ndim ≠ 2)
    (valueError "R²OPL response_mask must be two-dimensional.")
  let batchSize := responseMask.size 0
  raiseIf (promptGroupIds.length ≠ batchSize)
    (valueError "R²OPL prompt_group_ids must have one entry per rollout.")
  checkGenuineNumel "R²OPL genuine_trajectory_mask must have one entry per rollout."
    batchSize genuineTrajectoryMask
  let genuine := genuineMask batchSize genuineTrajectoryMask
  let rewards ← sequenceRewards "R²OPL verifier rewards must match rollout batch size."
    "R²OPL verifier_rewards must be one- or two-dimensional." verifierRewards batchSize
  raiseOnEmptyRows
    "R²OPL cannot train a genuine rollout with no response tokens; empty rows: " "."
    responseMask genuine
  validateBinaryRewards "R²OPL verifier rewards must be finite."
    "R²OPL requires binary verifier rewards in \x7b0, 1\x7d; got invalid values " "."
    (rewards.select genuine)
  let result := controllerBatchResult responseMask rewards promptGroupIds genuine
  raiseIf (result.groupSuccess = [])
    (valueError "R²OPL requires at least one genuine prompt group.")
  return result

/-! ### The kernel-side controller -/

/-- Prompt-group difficulty and outcome masks independent of model logits. -/
structure R2OPLBatchResult (K : Type) where
  correctMask : Tensor Bool
  errorMask : Tensor Bool
  difficulty : Tensor (Flt K)
  correctness : Tensor Bool
  groupSuccess : List (Flt K)
  genuineTrajectoryMask : Tensor Bool
  metrics : List (String × Flt K)

def batchResult (responseMask : Tensor Bool) (rewards : Tensor (Flt K))
    (promptGroupIds : List String) (genuine : Tensor Bool) : R2OPLBatchResult K :=
  let correctness := correctRows (responseMask.size 0) rewards genuine
  let statistics := groupStatistics (responseMask.size 0) promptGroupIds genuine correctness
  let correctMask := maskRows responseMask correctness
  let errorMask := maskRows responseMask (exceptRows genuine correctness)
  { correctMask := correctMask
    errorMask := errorMask
    difficulty := statistics.difficulty
    correctness := correctness
    groupSuccess := statistics.groupSuccess
    genuineTrajectoryMask := genuine
    metrics :=
      outcomeMetrics "r2opl/train/" genuine correctness statistics.groupSuccess ++
        tokenMetrics correctMask errorMask genuine }

def computeR2oplBatch [ToString K] (responseMask : Tensor Bool)
    (verifierRewards : Tensor (Flt K)) (promptGroupIds : List String)
    (genuineTrajectoryMask : Option (Tensor Bool)) :
    Except PyError (R2OPLBatchResult K) := do
  raiseIf (responseMask.ndim ≠ 2)
    (valueError "R2OPL response_mask must be two-dimensional.")
  let batchSize := responseMask.size 0
  raiseIf (promptGroupIds.length ≠ batchSize)
    (valueError "R2OPL prompt_group_ids must have one value per trajectory.")
  checkRowMask "R2OPL genuine_trajectory_mask must have one value per trajectory."
    batchSize genuineTrajectoryMask
  let genuine := genuineMask batchSize genuineTrajectoryMask
  raiseOnEmptyRows
    "R2OPL cannot optimize a genuine trajectory with no response tokens; empty rows: " "."
    responseMask genuine
  let rewards ← sequenceRewards "R2OPL verifier rewards must share the response batch size."
    "R2OPL verifier_rewards must be one- or two-dimensional." verifierRewards batchSize
  validateBinaryRewards "R2OPL verifier rewards must be finite."
    "R2OPL requires binary verifier rewards in \x7b0,1\x7d, got " "."
    (rewards.select genuine)
  let result := batchResult responseMask rewards promptGroupIds genuine
  raiseIf (result.groupSuccess = [])
    (valueError "R2OPL requires at least one genuine prompt group.")
  return result

/-! ### What they accept and return -/

section Spec

variable [ToString K] {responseMask : Tensor Bool} {verifierRewards : Tensor (Flt K)}
  {ids : List String} {mask : Option (Tensor Bool)}

theorem checkGenuineNumel_eq_ok {message : String} {batchSize : Nat} :
    checkGenuineNumel message batchSize mask = .ok () ↔
      ∀ given, mask = some given → given.ndim = 1 ∧ given.size 0 = batchSize := by
  cases mask with
  | none => simp [checkGenuineNumel]
  | some given =>
    simp only [checkGenuineNumel, raiseIf_eq_ok, not_or, not_not, ne_eq,
      Option.some.injEq, forall_eq']
    -- a one-dimensional tensor has as many elements as rows
    constructor
    · rintro ⟨hndim, hnumel⟩
      obtain ⟨size, hshape⟩ := List.length_eq_one_iff.mp hndim
      refine ⟨hndim, ?_⟩
      simpa [Tensor.numel, Tensor.size, hshape] using hnumel
    · rintro ⟨hndim, hsize⟩
      obtain ⟨size, hshape⟩ := List.length_eq_one_iff.mp hndim
      refine ⟨hndim, ?_⟩
      simpa [Tensor.numel, Tensor.size, hshape] using hsize

theorem computeR2oplControllerBatch_eq_ok {result : R2OPLControllerBatchResult K} :
    computeR2oplControllerBatch responseMask verifierRewards ids mask = .ok result ↔
      Admissible responseMask verifierRewards ids mask ∧
        result = controllerBatchResult responseMask (rowRewards verifierRewards) ids
          (genuineMask (responseMask.size 0) mask) := by
  simp only [computeR2oplControllerBatch, bind_eq_ok, raiseIf_eq_ok, exists_and_left,
    exists_const, not_not, ne_eq, pure_eq_ok, Except.ok.injEq, sequenceRewards_eq_ok]
  constructor
  · rintro ⟨hndim, hids, ⟨⟩, hshape, rewards, ⟨hrewards, hsize, rfl⟩, ⟨⟩, hempty,
      ⟨⟩, hbinary, hgroups, rfl⟩
    rw [validateBinaryRewards_select, size_rowRewards, hsize] at hbinary
    refine ⟨⟨hndim, hids, checkGenuineNumel_eq_ok.mp hshape, hrewards, hsize,
      raiseOnEmptyRows_eq_ok.mp hempty, hbinary, (groupStatistics_ne_nil hids).mp hgroups⟩,
      rfl⟩
  · rintro ⟨h, rfl⟩
    refine ⟨h.mask_ndim, h.ids_length, (), checkGenuineNumel_eq_ok.mpr h.genuine_shape, _,
      ⟨h.rewards_ndim, h.rewards_size, rfl⟩, (), raiseOnEmptyRows_eq_ok.mpr h.tokens, (), ?_,
      ?_, rfl⟩
    · rw [validateBinaryRewards_select, size_rowRewards, h.rewards_size]
      exact h.binary
    · exact (groupStatistics_ne_nil h.ids_length).mpr h.some_genuine

theorem computeR2oplBatch_eq_ok {result : R2OPLBatchResult K} :
    computeR2oplBatch responseMask verifierRewards ids mask = .ok result ↔
      Admissible responseMask verifierRewards ids mask ∧
        result = batchResult responseMask (rowRewards verifierRewards) ids
          (genuineMask (responseMask.size 0) mask) := by
  simp only [computeR2oplBatch, bind_eq_ok, raiseIf_eq_ok, exists_and_left,
    exists_const, not_not, ne_eq, pure_eq_ok, Except.ok.injEq, sequenceRewards_eq_ok]
  constructor
  · rintro ⟨hndim, hids, ⟨⟩, hshape, ⟨⟩, hempty, rewards, ⟨hrewards, hsize, rfl⟩,
      ⟨⟩, hbinary, hgroups, rfl⟩
    rw [validateBinaryRewards_select, size_rowRewards, hsize] at hbinary
    refine ⟨⟨hndim, hids, checkRowMask_eq_ok.mp hshape, hrewards, hsize,
      raiseOnEmptyRows_eq_ok.mp hempty, hbinary, (groupStatistics_ne_nil hids).mp hgroups⟩,
      rfl⟩
  · rintro ⟨h, rfl⟩
    refine ⟨h.mask_ndim, h.ids_length, (), checkRowMask_eq_ok.mpr h.genuine_shape, (),
      raiseOnEmptyRows_eq_ok.mpr h.tokens, _, ⟨h.rewards_ndim, h.rewards_size, rfl⟩, (), ?_,
      ?_, rfl⟩
    · rw [validateBinaryRewards_select, size_rowRewards, h.rewards_size]
      exact h.binary
    · exact (groupStatistics_ne_nil h.ids_length).mpr h.some_genuine

end Spec

end R2opl
