import R2opl.Controller.Base

/-!
# The Correct-R2OPL controller

`compute_correct_r2opl_batch` (`algorithms/correct_r2opl.py`): the outcome rule of
the base controller, with the reward signal of correct rows only.
-/

namespace R2opl

open Checked

variable {K : Type} [Field K] [LinearOrder K]

/-- Complete-batch correctness, difficulty, and self-RL token mask. -/
structure CorrectR2OPLBatchResult (K : Type) where
  correctMask : Tensor Bool
  difficulty : Tensor (Flt K)
  correctness : Tensor Bool
  truncated : Tensor Bool
  probeRescued : Tensor Bool
  groupSuccess : List (Flt K)
  metrics : List (String × Flt K)

def correctBatchResult (responseMask : Tensor Bool) (rewards : Tensor (Flt K))
    (promptGroupIds : List String) (genuine truncated probeCorrect : Tensor Bool)
    (miu : Flt K) : CorrectR2OPLBatchResult K :=
  let rescued := rescuedRows (responseMask.size 0) rewards truncated probeCorrect
  let correctness := rescuedCorrectRows (responseMask.size 0) rewards rescued genuine
  let statistics := groupStatistics (responseMask.size 0) promptGroupIds genuine correctness
  let correctMask := maskRows responseMask correctness
  let correctAdvantages := (statistics.difficulty.select correctness).map (· * miu)
  { correctMask := correctMask
    difficulty := statistics.difficulty
    correctness := correctness
    truncated := bothRows truncated genuine
    probeRescued := rescued
    groupSuccess := statistics.groupSuccess
    metrics :=
      outcomeMetrics "correct_r2opl/train/" genuine correctness statistics.groupSuccess ++
        rescueMetrics "correct_r2opl/train/" genuine truncated rescued ++
        [("correct_r2opl/train/correct_advantage_mean", safeMean correctAdvantages),
          ("correct_r2opl/train/correct_raw_advantage_mean",
            if (List.range (correctMask.size 0)).any fun row => tokenCount correctMask row ≠ 0
            then miu else 0),
          ("correct_r2opl/train/correct_token_count", countTokens correctMask),
          ("correct_r2opl/train/error_token_count",
            countTokens (maskRows responseMask (exceptRows genuine correctness))),
          ("correct_r2opl/train/miu", miu)] }

def computeCorrectR2oplBatch [ToString K] (responseMask : Tensor Bool)
    (verifierRewards : Tensor (Flt K)) (promptGroupIds : List String) (miu : Flt K)
    (truncatedMask probeCorrectMask genuineTrajectoryMask : Option (Tensor Bool)) :
    Except PyError (CorrectR2OPLBatchResult K) := do
  raiseIf (responseMask.ndim ≠ 2)
    (valueError "Correct-R2OPL response_mask must be two-dimensional.")
  let batchSize := responseMask.size 0
  raiseIf (promptGroupIds.length ≠ batchSize)
    (valueError "Correct-R2OPL prompt_group_ids must have one entry per trajectory.")
  checkPositive "Correct-R2OPL miu must be finite and positive; got " miu
  checkRowMask "Correct-R2OPL genuine_trajectory_mask must have one entry per trajectory."
    batchSize genuineTrajectoryMask
  let genuine := genuineMask batchSize genuineTrajectoryMask
  checkRowMask "Correct-R2OPL truncated_mask must have one entry per trajectory."
    batchSize truncatedMask
  let truncated := flagMask batchSize truncatedMask
  checkRowMask "Correct-R2OPL probe_correct_mask must have one entry per trajectory."
    batchSize probeCorrectMask
  let probeCorrect := flagMask batchSize probeCorrectMask
  let rewards ← sequenceRewards
    "Correct-R2OPL verifier reward batch size must match trajectories."
    "Correct-R2OPL verifier_rewards must be one- or two-dimensional." verifierRewards
    batchSize
  raiseOnEmptyRows
    "Correct-R2OPL cannot score a genuine trajectory with no response tokens; empty rows: " ""
    responseMask genuine
  validateBinaryRewards "Correct-R2OPL verifier rewards must be finite."
    "Correct-R2OPL requires binary verifier rewards in \x7b0, 1\x7d; got invalid values " ""
    (rewards.select genuine)
  let result := correctBatchResult responseMask rewards promptGroupIds genuine truncated
    probeCorrect miu
  raiseIf (result.groupSuccess = [])
    (valueError "Correct-R2OPL requires at least one genuine prompt group.")
  return result

/-! ### What it accepts and returns -/

section Spec

variable [ToString K] {verifierRewards : Tensor (Flt K)} {responseMask : Tensor Bool}
  {ids : List String} {miu : Flt K}
  {truncatedMask probeCorrectMask genuineTrajectoryMask : Option (Tensor Bool)}

theorem computeCorrectR2oplBatch_eq_ok {result : CorrectR2OPLBatchResult K} :
    computeCorrectR2oplBatch responseMask verifierRewards ids miu truncatedMask
        probeCorrectMask genuineTrajectoryMask = .ok result ↔
      Admissible responseMask verifierRewards ids genuineTrajectoryMask ∧
        (∃ x, 0 < x ∧ miu = .fin x) ∧
        (∀ given, truncatedMask = some given →
          given.ndim = 1 ∧ given.size 0 = responseMask.size 0) ∧
        (∀ given, probeCorrectMask = some given →
          given.ndim = 1 ∧ given.size 0 = responseMask.size 0) ∧
        result = correctBatchResult responseMask (rowRewards verifierRewards) ids
          (genuineMask (responseMask.size 0) genuineTrajectoryMask)
          (flagMask (responseMask.size 0) truncatedMask)
          (flagMask (responseMask.size 0) probeCorrectMask) miu := by
  simp only [computeCorrectR2oplBatch, bind_eq_ok, raiseIf_eq_ok, exists_and_left,
    exists_const, not_not, ne_eq, pure_eq_ok, Except.ok.injEq, sequenceRewards_eq_ok]
  constructor
  · rintro ⟨hndim, hids, ⟨⟩, hmiu, ⟨⟩, hgenuine, ⟨⟩, htruncated, ⟨⟩, hprobe, rewards,
      ⟨hrewards, hsize, rfl⟩, ⟨⟩, hempty, ⟨⟩, hbinary, hgroups, rfl⟩
    rw [validateBinaryRewards_select, size_rowRewards, hsize] at hbinary
    exact ⟨⟨hndim, hids, checkRowMask_eq_ok.mp hgenuine, hrewards, hsize,
        raiseOnEmptyRows_eq_ok.mp hempty, hbinary, (groupStatistics_ne_nil hids).mp hgroups⟩,
      checkPositive_eq_ok.mp hmiu, checkRowMask_eq_ok.mp htruncated,
      checkRowMask_eq_ok.mp hprobe, rfl⟩
  · rintro ⟨h, hmiu, htruncated, hprobe, rfl⟩
    refine ⟨h.mask_ndim, h.ids_length, (), checkPositive_eq_ok.mpr hmiu,
      (), checkRowMask_eq_ok.mpr h.genuine_shape, (), checkRowMask_eq_ok.mpr htruncated,
      (), checkRowMask_eq_ok.mpr hprobe, _, ⟨h.rewards_ndim, h.rewards_size, rfl⟩,
      (), raiseOnEmptyRows_eq_ok.mpr h.tokens, (), ?_,
      (groupStatistics_ne_nil h.ids_length).mpr h.some_genuine, rfl⟩
    rw [validateBinaryRewards_select, size_rowRewards, h.rewards_size]
    exact h.binary

end Spec

end R2opl
