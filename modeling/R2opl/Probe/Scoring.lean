import R2opl.Probe.Mask
import Mathlib.Algebra.Field.Defs

/-!
# Scoring the packed probes

`compute_r2opl_probe_probabilities`: the probability of a gold-answer token is
read off the logit row one physical position before it.  The softmax and the
gather of one row belong to the tensor library and are a parameter here.
-/

namespace R2opl

open Checked

variable {α K : Type} [DivisionRing K]

/-- `values.mean()`. -/
def mean (values : List K) : K := values.sum / (values.length : K)

/-- One row of a logit matrix. -/
def logitRow (logits : Tensor α) (row : Nat) : Nat → α := logits.at2 row

/-- The mean gold-token probability of one branch.  Validation has made every
    answer position positive. -/
def branchProbability (tokenProbability : (Nat → α) → Int → K) (logits : Tensor α)
    (layout : R2OPLProbeLayout) (branch : R2OPLProbeBranch) : K :=
  mean (branch.answerTokenPositions.map fun position =>
    tokenProbability (logitRow logits (position - 1)) (layout.sequenceIds.getD position 0))

def computeR2oplProbeProbabilities (tokenProbability : (Nat → α) → Int → K)
    (logits : Tensor α) (layout : R2OPLProbeLayout) : Except PyError (List K) := do
  validateR2oplProbeLayout layout
  raiseIf (logits.ndim ≠ 2)
    (valueError "R2OPL probe logits must have shape [sequence_length, vocabulary].")
  raiseIf (logits.size 0 < layout.sequenceIds.length) (valueError
    s!"R2OPL probe logits are shorter than the packed sequence: {logits.size 0} < {layout.sequenceIds.length}.")
  return layout.branches.map (branchProbability tokenProbability logits layout)

theorem computeR2oplProbeProbabilities_eq_ok
    {tokenProbability : (Nat → α) → Int → K} {logits : Tensor α}
    {layout : R2OPLProbeLayout} {scores : List K} :
    computeR2oplProbeProbabilities tokenProbability logits layout = .ok scores ↔
      ValidLayout layout ∧ logits.ndim = 2 ∧
        layout.sequenceIds.length ≤ logits.size 0 ∧
        scores = layout.branches.map (branchProbability tokenProbability logits layout) := by
  simp only [computeR2oplProbeProbabilities, bind_eq_ok, raiseIf_eq_ok, exists_and_left,
    exists_const, not_not, not_lt, pure_eq_ok, Except.ok.injEq, ne_eq]
  constructor
  · rintro ⟨⟨⟩, hvalid, hndim, hlength, rfl⟩
    exact ⟨validateR2oplProbeLayout_eq_ok.mp hvalid, hndim, hlength, rfl⟩
  · rintro ⟨hvalid, hndim, hlength, rfl⟩
    exact ⟨(), validateR2oplProbeLayout_eq_ok.mpr hvalid, hndim, hlength, rfl⟩

end R2opl
