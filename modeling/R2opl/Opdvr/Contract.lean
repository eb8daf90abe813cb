import R2opl.Opdvr.Reward
import Mathlib.Algebra.Order.Ring.Rat
import Mathlib.Algebra.Field.Rat
import Mathlib.Tactic.NormNum

/-!
# What the OPDVR reward keeps of its contract

The production loss hands its one-dimensional row flags to a gate that wants one
flag per token, so it returns on no batch.  Given expanded flags, the gate has
the sign the verifier prescribes; the group-relative factor that multiplies it
afterwards keeps this sign only where it is not negative.
-/

namespace R2opl

open Checked

variable {K : Type} [Field K] [LinearOrder K]

/-! ### The production loss against the reference -/

/-- A row is correct when its scores sum to more than one half. -/
def verifierCorrect (scores : Tensor (Flt K)) : Tensor Bool :=
  scores.sumLast.map fun reward => Flt.lt (.fin (1 / 2)) reward

/-- Without GRPD and clamp the production loss returns, and its values are the
    negated reference advantages. -/
def LossMatchesReference (studentLogProbs teacherLogProbs : Tensor (Flt K))
    (responseMask : Tensor Bool) (scores : Tensor (Flt K)) (uid : List String) : Prop :=
  ∃ losses metrics advantage,
    computeOpdvrGatedSampledTokenReverseKl ⟨none, false⟩ studentLogProbs teacherLogProbs
      responseMask (some scores) uid = .ok (losses, metrics) ∧
    opdvrGatedAdvantage studentLogProbs teacherLogProbs (verifierCorrect scores)
      (some responseMask) = .ok advantage ∧
    ∀ row < responseMask.size 0, ∀ column < responseMask.size 1,
      losses.at2 row column = -(advantage.at2 row column)

theorem maskGated_of_shape {message : String} {mask : Tensor Bool} {gated : Tensor (Flt K)}
    (h : mask.shape = gated.shape) :
    maskGated message (some mask) gated =
      .ok (.mat (gated.size 0) (gated.size 1) fun row column =>
        gated.at2 row column * Flt.ofBool (mask.at2 row column)) := by
  rw [maskGated, raiseIf_of_not (not_not.mpr h)]
  rfl

/-- The gated token values of a batch under row flags. -/
def gatedRows (signal : Tensor (Flt K)) (correctRows responseMask : Tensor Bool) :
    Tensor (Flt K) :=
  .mat (signal.size 0) (signal.size 1) fun row column =>
    gateToken (correctRows.at1 row) (signal.at2 row column) *
      Flt.ofBool (responseMask.at2 row column)

theorem opdvrGatedAdvantage_of_shapes {studentLogProbs teacherLogProbs : Tensor (Flt K)}
    {correct responseMask : Tensor Bool} (hshape : studentLogProbs.shape = teacherLogProbs.shape)
    (hcorrect : correct.shape = [studentLogProbs.size 0])
    (hmask : responseMask.shape = [studentLogProbs.size 0, studentLogProbs.size 1]) :
    opdvrGatedAdvantage studentLogProbs teacherLogProbs correct (some responseMask) =
      .ok (gatedRows (sampledReverseKl studentLogProbs teacherLogProbs) correct
        responseMask) := by
  simp only [opdvrGatedAdvantage, raiseIf_bind_eq_ok, not_not, ne_eq]
  refine ⟨hshape, ?_, ?_⟩
  · rw [Tensor.numel_of_shape (Tensor.shape_flatten _), Tensor.numel_of_shape hcorrect]
    rfl
  · rw [maskGated_of_shape hmask]
    simp only [gateTokens, Tensor.at2_mat, Tensor.at2_expandRows, Tensor.at1_flatten hcorrect]
    rfl

/-- On expanded row flags the production gate computes what the reference does. -/
theorem opdvrCorrectnessGate_expanded {signal : Tensor (Flt K)}
    {correctRows responseMask : Tensor Bool} (hsignal : signal.ndim = 2)
    (hmask : responseMask.shape = [signal.size 0, signal.size 1]) :
    opdvrCorrectnessGate signal (correctRows.expandRows (signal.size 0) (signal.size 1))
      (some responseMask) = .ok (gatedRows signal correctRows responseMask) := by
  rw [opdvrCorrectnessGate, Tensor.shape_expandRows,
    raiseIf_of_not (not_not.mpr (Tensor.shape_of_ndim hsignal)), ok_bind]
  exact maskGated_of_shape hmask

/-- The gate rejects row flags, whatever their number. -/
theorem opdvrCorrectnessGate_rows {signal : Tensor (Flt K)} {rows : Tensor Bool}
    {responseMask : Option (Tensor Bool)} (hsignal : signal.ndim = 2) (hrows : rows.ndim = 1) :
    opdvrCorrectnessGate signal rows responseMask = .error
      (valueError "OPDVR correctness mask must match the per-token signal shape") := by
  have hshape : signal.shape ≠ rows.shape := by
    intro heq
    rw [Tensor.ndim, heq] at hsignal
    rw [Tensor.ndim, hsignal] at hrows
    cases hrows
  rw [opdvrCorrectnessGate, raiseIf_bind_of_pos hshape]

theorem computeOpdvr_raises {config : OpdvrLossConfig K}
    {studentLogProbs teacherLogProbs scores : Tensor (Flt K)} {responseMask : Tensor Bool}
    {uid : List String} :
    ¬ Returns (computeOpdvrGatedSampledTokenReverseKl config studentLogProbs teacherLogProbs
      responseMask (some scores) uid) := by
  rintro ⟨result, hrun⟩
  simp only [computeOpdvrGatedSampledTokenReverseKl, Option.elim_some, ok_bind,
    raiseIf_bind_eq_ok, gateAndScale] at hrun
  obtain ⟨_, _, hgate⟩ := hrun
  rw [opdvrCorrectnessGate_rows rfl rfl] at hgate
  simp at hgate

/-- **The production loss returns on no batch.**  For every batch with response
    mask and log-probabilities of one two-dimensional shape and one row of token
    scores per trajectory, the reference kernel returns and the production loss
    raises; so its values never are the negated reference advantages. -/
theorem opdvr_loss_never_matches_reference
    {studentLogProbs teacherLogProbs scores : Tensor (Flt K)} {responseMask : Tensor Bool}
    (uid : List String) (hndim : responseMask.ndim = 2)
    (hstudent : studentLogProbs.shape = responseMask.shape)
    (hteacher : teacherLogProbs.shape = responseMask.shape)
    (hscores : scores.size 0 = responseMask.size 0) :
    Returns (opdvrGatedAdvantage studentLogProbs teacherLogProbs (verifierCorrect scores)
      (some responseMask)) ∧
    ¬ LossMatchesReference studentLogProbs teacherLogProbs responseMask scores uid := by
  constructor
  · have hsize : ∀ axis, studentLogProbs.size axis = responseMask.size axis := by
      intro axis
      rw [Tensor.size, hstudent, Tensor.size]
    refine ⟨_, opdvrGatedAdvantage_of_shapes (hstudent.trans hteacher.symm) ?_ ?_⟩
    · rw [hsize, ← hscores]
      rfl
    · rw [hsize, hsize]
      exact Tensor.shape_of_ndim hndim
  · rintro ⟨losses, metrics, _, hrun, _, _⟩
    exact computeOpdvr_raises ⟨_, hrun⟩

theorem opdvr_loss_never_matches_reference_one_token :
    Returns (opdvrGatedAdvantage (.mat 1 1 fun _ _ => (.fin 0 : Flt ℚ))
      (.mat 1 1 fun _ _ => .fin 1) (verifierCorrect (.mat 1 1 fun _ _ => (1 : Flt ℚ)))
      (some (.mat 1 1 fun _ _ => true))) ∧
    ¬ LossMatchesReference (.mat 1 1 fun _ _ => (.fin 0 : Flt ℚ)) (.mat 1 1 fun _ _ => .fin 1)
      (.mat 1 1 fun _ _ => true) (.mat 1 1 fun _ _ => 1) ["a"] :=
  opdvr_loss_never_matches_reference ["a"] rfl rfl rfl rfl

/-- Two trajectories of three tokens, each with its score on the last one. -/
theorem opdvr_loss_raises_on_token_scores :
    computeOpdvrGatedSampledTokenReverseKl ⟨none, false⟩ (.mat 2 3 fun _ _ => (.fin 0 : Flt ℚ))
        (.mat 2 3 fun _ _ => .fin (-1)) (.mat 2 3 fun _ _ => true)
        (some (.mat 2 3 fun row column => if row = 0 ∧ column = 2 then 1 else 0)) ["a", "b"] =
      .error (runtimeError
        "OPDVR expected one verifier score per trajectory; got 6 scores for 2 trajectories") ∧
    ¬ LossMatchesReference (.mat 2 3 fun _ _ => (.fin 0 : Flt ℚ)) (.mat 2 3 fun _ _ => .fin (-1))
      (.mat 2 3 fun _ _ => true)
      (.mat 2 3 fun row column => if row = 0 ∧ column = 2 then 1 else 0) ["a", "b"] := by
  constructor
  · rfl
  · rintro ⟨losses, metrics, _, hrun, _, _⟩
    exact computeOpdvr_raises ⟨_, hrun⟩

end R2opl
