import R2opl.Controller.OneRule
import R2opl.Controller.Padding
import R2opl.Prompt.TeacherContext
import R2opl.Dataset.ValidationMetrics
import R2opl.Answer.Constants
import R2opl.Objective.SampledTokenLoss
import R2opl.Objective.BranchSum
import R2opl.Opdvr.SignContract
import R2opl.Probe.Standalone
import R2opl.Probe.StepEnds
import R2opl.Probe.Noninterference
import R2opl.Ersr.Context
import R2opl.Evaluation.Cleanup
import R2opl.Objective.Composition
import R2opl.Objective.MicroBatches
import R2opl.Splitter.BoundarySearch
import R2opl.Splitter.BoxAgreement
import R2opl.Answer.Choice
import R2opl.Generation.LengthScoring
import R2opl.Probe.Offsets
import R2opl.Splitter.Scanners
import R2opl.Splitter.Detectors
import R2opl.Splitter.StepSize
import R2opl.Objective.CorrectLoss
import R2opl.Eopd.ForwardKl
import R2opl.Answer.ConstantLatex
import R2opl.Splitter.ProtectedRanges
import R2opl.Answer.Equivalence
import R2opl.Answer.ConstantBound
import R2opl.Splitter.Partition
import R2opl.Balancing.BalanceBatch
import R2opl.Rollout.Progress
import R2opl.Rollout.StepAdvantages
import R2opl.Checkpoint.Rotation
