import Mathlib.Algebra.Field.Rat
import Mathlib.Algebra.Order.Ring.Rat
import Mathlib.Tactic.FieldSimp
import R2opl.Controller.Correct
import R2opl.Lib.Pooling
import R2opl.Objective.BaseLoss

/-!
# The Correct-R2OPL objective

`correct_r2opl_token_advantage` and `correct_r2opl_reinforce_loss`
(`algorithms/correct_r2opl.py`), on what the controller hands to them.  A row that is not
correct has no advantage and still counts in the mean.
-/

namespace R2opl

open Checked

variable {K : Type} [Field K] [LinearOrder K]

/-! ### The code -/

def correctR2oplTokenAdvantage (correctMask : Tensor Bool) (difficulty : Tensor (Flt K))
    (responseMask : Tensor Bool) (miu : Flt K) : Except PyError (Tensor (Flt K)) := do
  raiseIf (¬ (correctMask.shape = difficulty.shape ∧ difficulty.shape = responseMask.shape ∧
      correctMask.ndim = 2)) (valueError
    "Correct-R2OPL masks and token difficulty must be matching two-dimensional tensors.")
  return maskTokens (maskTokens (difficulty.map (· * miu)) correctMask) responseMask

/-- `token_loss` of one token. -/
def reinforceTokenLoss (studentLogProbs advantage : Tensor (Flt K)) (responseMask : Tensor Bool)
    (row column : Nat) : Flt K :=
  -(advantage.at2 row column * studentLogProbs.at2 row column) *
    Flt.ofBool (responseMask.at2 row column)

def correctR2oplReinforceLoss (studentLogProbs advantage : Tensor (Flt K))
    (responseMask : Tensor Bool) : Except PyError (Flt K) := do
  raiseIf (¬ (studentLogProbs.shape = advantage.shape ∧ advantage.shape = responseMask.shape ∧
      studentLogProbs.ndim = 2))
    (valueError "Correct-R2OPL loss tensors must have matching two-dimensional shapes.")
  let perSequence := (List.range (responseMask.size 0)).map fun row =>
    ((List.range (responseMask.size 1)).map
        (reinforceTokenLoss studentLogProbs advantage responseMask row)).sum /
      Flt.clampMin ((List.range (responseMask.size 1)).map fun column =>
        Flt.ofBool (responseMask.at2 row column)).sum 1
  return Flt.mean perSequence

/-- `difficulty_tokens` of the trainer. -/
def correctDifficultyTokens (responseMask : Tensor Bool) (difficulty : Tensor (Flt K)) :
    Tensor (Flt K) :=
  maskTokens (difficulty.expandRows (responseMask.size 0) (responseMask.size 1)) responseMask

/-- The objective of token difficulties and masks. -/
def correctObjective (studentLogProbs difficulty : Tensor (Flt K))
    (correctMask responseMask : Tensor Bool) (miu : Flt K) : Except PyError (Flt K) := do
  let advantage ← correctR2oplTokenAdvantage correctMask difficulty responseMask miu
  correctR2oplReinforceLoss studentLogProbs advantage responseMask

/-! ### The loss of a row -/

/-- The loss of one row: the mean over its tokens of minus the scaled log-probabilities. -/
def correctRowLoss (logProb difficulty : Nat → Nat → K) (correct response : Nat → Nat → Bool)
    (miu : K) (columns row : Nat) : K :=
  ((List.range columns).map fun column =>
    if response row column && correct row column then
      -(difficulty row column * miu * logProb row column)
    else 0).sum /
  max ((((List.range columns).filter (response row)).length : Nat) : K) 1

/-- A row without correct tokens adds nothing. -/
theorem correctRowLoss_eq_zero {logProb difficulty : Nat → Nat → K}
    {correct response : Nat → Nat → Bool} {miu : K} {columns row : Nat}
    (h : ∀ column < columns, correct row column = false) :
    correctRowLoss logProb difficulty correct response miu columns row = 0 := by
  unfold correctRowLoss
  rw [List.sum_eq_zero, zero_div]
  intro value hvalue
  obtain ⟨column, hcolumn, rfl⟩ := List.mem_map.mp hvalue
  rw [h column (List.mem_range.mp hcolumn), Bool.and_false]
  rfl

/-- The loss of a row depends on the log-probabilities of its correct tokens alone. -/
theorem correctRowLoss_congr {logProb other difficulty : Nat → Nat → K}
    {correct response : Nat → Nat → Bool} {miu : K} {columns row : Nat}
    (h : ∀ column < columns, response row column = true → correct row column = true →
      other row column = logProb row column) :
    correctRowLoss other difficulty correct response miu columns row =
      correctRowLoss logProb difficulty correct response miu columns row := by
  unfold correctRowLoss
  congr 2
  apply List.map_congr_left
  intro column hcolumn
  cases hresponse : response row column with
  | false => rfl
  | true =>
    cases hcorrect : correct row column with
    | false => rfl
    | true => rw [h column (List.mem_range.mp hcolumn) hresponse hcorrect]

section Objective

variable {rows columns : Nat} {studentLogProbs difficulty : Tensor (Flt K)}
  {correctMask responseMask : Tensor Bool} {miu : K} {logProb scale : Nat → Nat → K}

theorem reinforceTokenLoss_fin {row column : Nat}
    (hlog : studentLogProbs.at2 row column = .fin (logProb row column))
    (hscale : difficulty.at2 row column = .fin (scale row column)) :
    reinforceTokenLoss studentLogProbs
        (maskTokens (maskTokens (difficulty.map (· * Flt.fin miu)) correctMask) responseMask)
        responseMask row column =
      Flt.fin (if responseMask.at2 row column && correctMask.at2 row column then
        -(scale row column * miu * logProb row column) else 0) := by
  unfold reinforceTokenLoss maskTokens
  simp only [Tensor.at2_mat, Tensor.at2_map, hlog, hscale]
  cases responseMask.at2 row column with
  | false => cases correctMask.at2 row column <;> simp
  | true => cases correctMask.at2 row column <;> simp

variable [IsStrictOrderedRing K]

/-- On matching shapes the objective is the mean of the row losses. -/
theorem correctObjective_eq (hlogShape : studentLogProbs.shape = [rows, columns])
    (hdifficulty : difficulty.shape = [rows, columns])
    (hcorrect : correctMask.shape = [rows, columns])
    (hresponse : responseMask.shape = [rows, columns]) (hrows : rows ≠ 0)
    (hlog : ∀ row < rows, ∀ column < columns,
      studentLogProbs.at2 row column = .fin (logProb row column))
    (hscale : ∀ row < rows, ∀ column < columns,
      difficulty.at2 row column = .fin (scale row column)) :
    correctObjective studentLogProbs difficulty correctMask responseMask (Flt.fin miu) =
      .ok (Flt.fin (((List.range rows).map
        (correctRowLoss logProb scale correctMask.at2 responseMask.at2 miu columns)).sum /
          (rows : K))) := by
  have hsize : responseMask.size 0 = rows ∧ responseMask.size 1 = columns := by
    rw [Tensor.size, Tensor.size, hresponse]
    exact ⟨rfl, rfl⟩
  unfold correctObjective correctR2oplTokenAdvantage
  rw [raiseIf_of_not, ok_bind, pure_eq_ok, ok_bind]
  · unfold correctR2oplReinforceLoss
    rw [raiseIf_of_not, ok_bind, hsize.1, hsize.2]
    · have hrow : ∀ row ∈ List.range rows,
          ((List.range columns).map (reinforceTokenLoss studentLogProbs
            (maskTokens (maskTokens (difficulty.map (· * Flt.fin miu)) correctMask)
              responseMask) responseMask row)).sum /
          Flt.clampMin ((List.range columns).map fun column =>
            (Flt.ofBool (responseMask.at2 row column) : Flt K)).sum 1 =
          Flt.fin (correctRowLoss logProb scale correctMask.at2 responseMask.at2 miu columns
            row) := by
        intro row hrow
        have hpos : (0 : K) <
            max ((((List.range columns).filter (responseMask.at2 row)).length : Nat) : K) 1 :=
          lt_of_lt_of_le zero_lt_one (le_max_right _ _)
        rw [List.map_congr_left fun column hcolumn => reinforceTokenLoss_fin
            (hlog row (List.mem_range.mp hrow) column (List.mem_range.mp hcolumn))
            (hscale row (List.mem_range.mp hrow) column (List.mem_range.mp hcolumn)),
          Flt.sum_map_fin, Flt.sum_ofBool, Flt.one_eq, Flt.clampMin_fin, Flt.fin_div _ hpos.ne']
        rfl
      rw [List.map_congr_left hrow]
      unfold Flt.mean
      dsimp only
      rw [Flt.sum_map_fin, List.length_map, List.length_range,
        Flt.fin_div _ (Nat.cast_ne_zero.mpr hrows)]
      rfl
    · rw [not_not]
      unfold maskTokens
      simp only [Tensor.size, Tensor.shape_map, Tensor.shape_mat, hlogShape, hdifficulty,
        hresponse, Tensor.ndim]
      exact ⟨rfl, rfl, rfl⟩
  · rw [not_not, hcorrect, hdifficulty, hresponse, Tensor.ndim, hcorrect]
    exact ⟨rfl, rfl, rfl⟩

end Objective

/-! ### The full batch and its correct rows -/

section FullBatch

variable [IsStrictOrderedRing K] {responseMask : Tensor Bool} {verifierRewards : Tensor (Flt K)}
  {ids : List String} {miu : Flt K}
  {truncatedMask probeCorrectMask genuineTrajectoryMask : Option (Tensor Bool)}
  {result : CorrectR2OPLBatchResult K} {studentLogProbs : Tensor K}

/-- The difficulties of the groups are finite. -/
theorem exists_difficulty {batchSize : Nat} (hids : ids.length = batchSize)
    (genuine correctness : Tensor Bool) :
    ∃ difficulty : Nat → K, ∀ row < batchSize,
      (groupStatistics batchSize ids genuine correctness : GroupStatistics K).difficulty.at1 row =
        .fin (difficulty row) := by
  have hrow : ∀ row, ∃ difficulty : K, row < batchSize →
      (groupStatistics batchSize ids genuine correctness :
        GroupStatistics K).difficulty.at1 row = .fin difficulty := by
    intro row
    cases hgenuine : genuine.at1 row with
    | false => exact ⟨0, fun hlt => difficulty_of_padding (hids ▸ hlt) hgenuine⟩
    | true => exact ⟨_, fun hlt => difficulty_of_genuine (hids ▸ hlt) hgenuine⟩
  obtain ⟨difficulty, h⟩ := Classical.axiomOfChoice hrow
  exact ⟨difficulty, h⟩

/-- The objective of the controller's result, on all rows. -/
def CorrectR2OPLBatchResult.objective (result : CorrectR2OPLBatchResult K)
    (responseMask : Tensor Bool) (miu : Flt K) (studentLogProbs : Tensor K) :
    Except PyError (Flt K) :=
  correctObjective (studentLogProbs.map Flt.fin)
    (correctDifficultyTokens responseMask result.difficulty) result.correctMask responseMask miu

/-- The objective on the correct rows alone, with the difficulties of the full batch. -/
def CorrectR2OPLBatchResult.correctRowsObjective (result : CorrectR2OPLBatchResult K)
    (responseMask : Tensor Bool) (miu : Flt K) (studentLogProbs : Tensor K) :
    Except PyError (Flt K) :=
  correctObjective ((studentLogProbs.map Flt.fin).selectRows result.correctness)
    ((correctDifficultyTokens responseMask result.difficulty).selectRows result.correctness)
    (result.correctMask.selectRows result.correctness)
    (responseMask.selectRows result.correctness) miu

omit [IsStrictOrderedRing K] in
theorem correctDifficultyTokens_fin {difficulty : Tensor (Flt K)} {rowDifficulty : Nat → K}
    {row : Nat} (h : difficulty.at1 row = .fin (rowDifficulty row)) (column : Nat) :
    (correctDifficultyTokens responseMask difficulty).at2 row column =
      .fin (if responseMask.at2 row column then rowDifficulty row else 0) := by
  unfold correctDifficultyTokens maskTokens
  rw [Tensor.at2_mat, Tensor.at2_expandRows, h]
  cases responseMask.at2 row column with
  | false => simp
  | true => simp

/-- The losses of the rows of an accepted batch: both objectives are means of them, a row
    that is not correct has none, and they depend on the correct tokens alone. -/
theorem objective_rowLosses [ToString K]
    (h : computeCorrectR2oplBatch responseMask verifierRewards ids miu truncatedMask
      probeCorrectMask genuineTrajectoryMask = .ok result)
    (hcorrect : result.correctness.trueRows ≠ []) :
    ∃ rowLoss : Tensor K → Nat → K, ∀ studentLogProbs : Tensor K,
      studentLogProbs.shape = responseMask.shape →
      result.objective responseMask miu studentLogProbs =
          .ok (.fin (((List.range (responseMask.size 0)).map (rowLoss studentLogProbs)).sum /
            (responseMask.size 0 : K))) ∧
        result.correctRowsObjective responseMask miu studentLogProbs =
          .ok (.fin ((result.correctness.trueRows.map (rowLoss studentLogProbs)).sum /
            (result.correctness.trueRows.length : K))) ∧
        (∀ row < responseMask.size 0, result.correctness.at1 row = false →
          rowLoss studentLogProbs row = 0) ∧
        ∀ other : Tensor K, ∀ row < responseMask.size 0,
          (∀ column < responseMask.size 1, responseMask.at2 row column = true →
            result.correctness.at1 row = true →
              other.at2 row column = studentLogProbs.at2 row column) →
          rowLoss other row = rowLoss studentLogProbs row := by
  obtain ⟨hadmissible, ⟨miu, _, rfl⟩, _, _, rfl⟩ := computeCorrectR2oplBatch_eq_ok.mp h
  have hshape := Tensor.shape_of_ndim hadmissible.mask_ndim
  set rows := responseMask.size 0
  set columns := responseMask.size 1
  set result := correctBatchResult responseMask (rowRewards verifierRewards) ids
    (genuineMask rows genuineTrajectoryMask) (flagMask rows truncatedMask)
    (flagMask rows probeCorrectMask) (.fin miu)
  obtain ⟨difficulty, hdifficulty⟩ := exists_difficulty hadmissible.ids_length
    (genuineMask rows genuineTrajectoryMask) result.correctness (K := K)
  have hmask : ∀ row column, result.correctMask.at2 row column =
      (responseMask.at2 row column && result.correctness.at1 row) := fun _ _ => rfl
  have hcorrectShape : result.correctMask.shape = [rows, columns] := rfl
  have htokensShape : (correctDifficultyTokens responseMask result.difficulty).shape =
      [rows, columns] := rfl
  have hselected : ∀ row ∈ result.correctness.trueRows, row < rows := fun row hrow =>
    (Tensor.mem_trueRows.mp hrow).1
  have hrows : rows ≠ 0 := by
    obtain ⟨row, hrow⟩ := List.exists_mem_of_ne_nil _ hcorrect
    exact Nat.ne_zero_of_lt (hselected row hrow)
  let scale (row column : Nat) : K := if responseMask.at2 row column then difficulty row else 0
  refine ⟨fun studentLogProbs => correctRowLoss studentLogProbs.at2 scale result.correctMask.at2
    responseMask.at2 miu columns, ?_⟩
  intro studentLogProbs hstudent
  have hlogs : (studentLogProbs.map Flt.fin).shape = [rows, columns] := hstudent.trans hshape
  refine ⟨?_, ?_, ?_, ?_⟩
  · exact correctObjective_eq hlogs htokensShape hcorrectShape
      hshape hrows (fun row _ column _ => rfl)
      fun row hrow column _ => correctDifficultyTokens_fin (hdifficulty row hrow) column
  · have hplace : ∀ i < result.correctness.trueRows.length,
        result.correctness.trueRows.getD i 0 < rows := by
      intro i hi
      rw [List.getD_eq_getElem?_getD, List.getElem?_eq_getElem hi]
      exact hselected _ (List.getElem_mem hi)
    have hobjective : result.correctRowsObjective responseMask (.fin miu) studentLogProbs =
        .ok (.fin (((List.range result.correctness.trueRows.length).map fun i =>
          correctRowLoss studentLogProbs.at2 scale result.correctMask.at2 responseMask.at2 miu
            columns (result.correctness.trueRows.getD i 0)).sum /
              (result.correctness.trueRows.length : K))) :=
      correctObjective_eq (Tensor.shape_selectRows hlogs) (Tensor.shape_selectRows htokensShape)
        (Tensor.shape_selectRows hcorrectShape) (Tensor.shape_selectRows hshape)
        (fun hzero => hcorrect (List.eq_nil_of_length_eq_zero hzero)) (fun _ _ _ _ => rfl)
        fun i hi column _ => correctDifficultyTokens_fin (hdifficulty _ (hplace i hi)) column
    rw [hobjective, Pooling.sum_range_of_rows]
    intro i row hrow
    rw [List.getD_eq_getElem?_getD, hrow, Option.getD_some]
  · intro row _ hincorrect
    apply correctRowLoss_eq_zero
    intro column _
    rw [hmask, hincorrect, Bool.and_false]
  · intro other row _ hsame
    apply correctRowLoss_congr
    intro column hcolumn hresponse hcorrectToken
    rw [hmask, Bool.and_eq_true] at hcorrectToken
    exact hsame column hcolumn hresponse hcorrectToken.2

/-- **Full-batch normalisation.**  On a batch with a correct row the objective is that of the
    correct rows alone, with the same difficulties, scaled by the share of these rows; and no
    log-probability outside of the tokens of correct rows matters. -/
theorem correct_r2opl_full_batch_normalised [ToString K]
    (h : computeCorrectR2oplBatch responseMask verifierRewards ids miu truncatedMask
      probeCorrectMask genuineTrajectoryMask = .ok result)
    (hcorrect : ∃ row < responseMask.size 0, result.correctness.at1 row = true)
    (hshape : studentLogProbs.shape = responseMask.shape) :
    ∃ loss correctLoss : K,
      result.objective responseMask miu studentLogProbs = .ok (.fin loss) ∧
      result.correctRowsObjective responseMask miu studentLogProbs = .ok (.fin correctLoss) ∧
      loss = (result.correctness.trueRows.length : K) / (responseMask.size 0 : K) * correctLoss ∧
      ∀ other : Tensor K, other.shape = responseMask.shape →
        (∀ row < responseMask.size 0, ∀ column < responseMask.size 1,
          result.correctness.at1 row = true → responseMask.at2 row column = true →
            other.at2 row column = studentLogProbs.at2 row column) →
        result.objective responseMask miu other = .ok (.fin loss) := by
  obtain ⟨row, hrow, hrowCorrect⟩ := hcorrect
  have hsize : result.correctness.size 0 = responseMask.size 0 := by
    obtain ⟨_, _, _, _, rfl⟩ := computeCorrectR2oplBatch_eq_ok.mp h
    rfl
  have hmem : row ∈ result.correctness.trueRows :=
    Tensor.mem_trueRows.mpr ⟨hsize ▸ hrow, hrowCorrect⟩
  have hcount : (result.correctness.trueRows.length : K) ≠ 0 :=
    Nat.cast_ne_zero.mpr (List.length_pos_of_mem hmem).ne'
  obtain ⟨rowLoss, hlosses⟩ := objective_rowLosses h (List.ne_nil_of_mem hmem)
  obtain ⟨hobjective, hcorrectRows, hzero, hsame⟩ := hlosses studentLogProbs hshape
  refine ⟨_, _, hobjective, hcorrectRows, ?_, ?_⟩
  · have hsum : (result.correctness.trueRows.map (rowLoss studentLogProbs)).sum =
        ((List.range (responseMask.size 0)).map (rowLoss studentLogProbs)).sum := by
      unfold Tensor.trueRows
      rw [hsize]
      apply Pooling.sum_filter
      intro other hother hincorrect
      exact hzero other (List.mem_range.mp hother) hincorrect
    rw [hsum]
    field_simp
  · intro other hother hagree
    rw [(hlosses other hother).1]
    have hrows : (List.range (responseMask.size 0)).map (rowLoss other) =
        (List.range (responseMask.size 0)).map (rowLoss studentLogProbs) := by
      apply List.map_congr_left
      intro place hplace
      have hlt := List.mem_range.mp hplace
      exact hsame other place hlt fun column hcolumn hresponse hcorrectRow =>
        hagree place hlt column hcolumn hcorrectRow hresponse
    rw [hrows]

/-- Two responses to one prompt, the first one correct and the second one a token shorter. -/
theorem correct_r2opl_full_batch_normalised_two_responses :
    ∃ (result : CorrectR2OPLBatchResult ℚ) (loss correctLoss : ℚ),
      computeCorrectR2oplBatch (.mat 2 2 fun row column => decide (row + column < 2))
          (.vec 2 fun row => if row = 0 then 1 else 0) ["a", "a"] (.fin 16) none none none =
        .ok result ∧
      result.objective (.mat 2 2 fun row column => decide (row + column < 2)) (.fin 16)
          (.mat 2 2 fun _ _ => -1) = .ok (.fin loss) ∧
      result.correctRowsObjective (.mat 2 2 fun row column => decide (row + column < 2))
          (.fin 16) (.mat 2 2 fun _ _ => -1) = .ok (.fin correctLoss) ∧
      loss = 1 / 2 * correctLoss := by
  obtain ⟨result, hresult⟩ : ∃ result, computeCorrectR2oplBatch (K := ℚ)
      (.mat 2 2 fun row column => decide (row + column < 2))
      (.vec 2 fun row => if row = 0 then 1 else 0) ["a", "a"] (.fin 16) none none none =
        .ok result := by
    refine ⟨_, computeCorrectR2oplBatch_eq_ok.mpr ⟨?_, ⟨16, by norm_num, rfl⟩, nofun, nofun, rfl⟩⟩
    exact ⟨rfl, rfl, nofun, .inr rfl, rfl, by decide, by decide, ⟨0, by decide, rfl⟩⟩
  have hcorrect : result.correctness.trueRows = [0] := by
    obtain ⟨_, _, _, _, rfl⟩ := computeCorrectR2oplBatch_eq_ok.mp hresult
    decide
  obtain ⟨loss, correctLoss, hloss, hcorrectLoss, hscaled, _⟩ :=
    correct_r2opl_full_batch_normalised hresult
      ⟨0, by decide, (Tensor.mem_trueRows.mp (hcorrect ▸ List.mem_singleton_self 0)).2⟩
      (show (Tensor.mat 2 2 fun _ _ => (-1 : ℚ)).shape = _ from rfl)
  rw [hcorrect] at hscaled
  change loss = ((1 : Nat) : ℚ) / ((2 : Nat) : ℚ) * correctLoss at hscaled
  exact ⟨result, loss, correctLoss, hresult, hloss, hcorrectLoss, by simpa using hscaled⟩

end FullBatch

end R2opl
