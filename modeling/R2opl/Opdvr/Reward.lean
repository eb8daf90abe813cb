import R2opl.Tokens

/-!
# The OPDVR reward

The correctness gate and the group-relative scaling, as the reference kernels
(`algorithms/opdvr.py`) and the production loss (`losses.py`) write them, and the
production loss itself.
-/

namespace R2opl

open Checked

variable {K : Type} [Field K] [LinearOrder K]

/-! ### The gate -/

/-- Correct tokens keep `relu(-signal)`, incorrect ones `-relu(signal)`. -/
def gateToken (correct : Bool) (signal : Flt K) : Flt K :=
  if correct then (-signal).clampMin 0 else -(signal.clampMin 0)

/-- `torch.where` over the two gates. -/
def gateTokens (signal : Tensor (Flt K)) (correctMask : Tensor Bool) : Tensor (Flt K) :=
  .mat (signal.size 0) (signal.size 1) fun row column =>
    gateToken (correctMask.at2 row column) (signal.at2 row column)

/-- `gated * response_mask`, when a mask is given. -/
def maskGated (message : String) (responseMask : Option (Tensor Bool))
    (gated : Tensor (Flt K)) : Except PyError (Tensor (Flt K)) :=
  match responseMask with
  | none => .ok gated
  | some mask => do
      raiseIf (mask.shape ≠ gated.shape) (valueError message)
      return .mat (gated.size 0) (gated.size 1) fun row column =>
        gated.at2 row column * Flt.ofBool (mask.at2 row column)

/-- `student_log_probs - teacher_log_probs`. -/
def sampledReverseKl (studentLogProbs teacherLogProbs : Tensor (Flt K)) : Tensor (Flt K) :=
  .mat (studentLogProbs.size 0) (studentLogProbs.size 1) fun row column =>
    studentLogProbs.at2 row column - teacherLogProbs.at2 row column

/-- The reference kernel: the row flags are expanded over the tokens. -/
def opdvrGatedAdvantage (studentLogProbs teacherLogProbs : Tensor (Flt K))
    (correct : Tensor Bool) (responseMask : Option (Tensor Bool)) :
    Except PyError (Tensor (Flt K)) := do
  raiseIf (studentLogProbs.shape ≠ teacherLogProbs.shape)
    (valueError "Student and Teacher log-probability shapes must match")
  let signal := sampledReverseKl studentLogProbs teacherLogProbs
  raiseIf (correct.flatten.numel ≠ signal.size 0)
    (valueError "correct must carry one flag per trajectory")
  let correctMask := correct.flatten.expandRows (signal.size 0) (signal.size 1)
  maskGated "response_mask must match the log-probability shape" responseMask
    (gateTokens signal correctMask)

/-- The production gate: its mask is already expanded. -/
def opdvrCorrectnessGate (signal : Tensor (Flt K)) (correctMask : Tensor Bool)
    (responseMask : Option (Tensor Bool)) : Except PyError (Tensor (Flt K)) := do
  raiseIf (signal.shape ≠ correctMask.shape)
    (valueError "OPDVR correctness mask must match the per-token signal shape")
  maskGated "OPDVR response_mask must match the signal shape" responseMask
    (gateTokens signal correctMask)

/-! ### Group-relative scaling -/

/-- The two dictionaries of the reward loop. -/
structure GroupTotals (K : Type) where
  sums : String → Flt K
  counts : String → Nat

/-- `sums[key] = sums.get(key, 0.0) + value`, and the same for `counts`. -/
def addReward (totals : GroupTotals K) (entry : String × Flt K) : GroupTotals K where
  sums := fun key => if key = entry.1 then totals.sums key + entry.2 else totals.sums key
  counts := fun key => if key = entry.1 then totals.counts key + 1 else totals.counts key

def groupTotals (entries : List (String × Flt K)) : GroupTotals K :=
  entries.foldl addReward ⟨fun _ => 0, fun _ => 0⟩

/-- The reward of every row minus the mean reward of its group. -/
def groupRelativeAdvantage (message : String) (verifierRewards : Tensor (Flt K))
    (groupIds : List String) : Except PyError (Tensor (Flt K)) := do
  let rewards := verifierRewards.flatten
  raiseIf (groupIds.length ≠ rewards.numel) (valueError message)
  let values := (List.range rewards.numel).map rewards.at1
  let totals := groupTotals (groupIds.zip values)
  return .vec rewards.numel fun row =>
    let key := groupIds.getD row ""
    rewards.at1 row - totals.sums key / .fin (totals.counts key : K)

def grpdGroupAdvantage (verifierRewards : Tensor (Flt K)) (groupIds : List String) :
    Except PyError (Tensor (Flt K)) :=
  groupRelativeAdvantage "group_ids must match the trajectory count" verifierRewards groupIds

/-- The production copy stacks the rows, which needs at least one. -/
def opdvrGroupRelativeAdvantage (verifierRewards : Tensor (Flt K)) (groupIds : List String) :
    Except PyError (Tensor (Flt K)) := do
  let advantage ← groupRelativeAdvantage "OPDVR group ids must match the trajectory count"
    verifierRewards groupIds
  raiseIf (verifierRewards.numel = 0) (runtimeError "stack expects a non-empty TensorList")
  return advantage

/-- `gated * scaling.reshape(-1, 1)`. -/
def scaleRows (gated scaling : Tensor (Flt K)) : Tensor (Flt K) :=
  .mat (gated.size 0) (gated.size 1) fun row column =>
    gated.at2 row column * scaling.at1 row

/-! ### The production loss -/

structure OpdvrLossConfig (K : Type) where
  lossMaxClamp : Option (Flt K)
  opdvrGrpd : Bool

/-- The gate and, with GRPD, the scaling of the gated reward. -/
def gateAndScale (grpd : Bool) (signal : Tensor (Flt K)) (correctMask : Tensor Bool)
    (responseMask : Option (Tensor Bool)) (verifierRewards : Tensor (Flt K))
    (groupIds : List String) : Except PyError (Tensor (Flt K) × Option (Tensor (Flt K))) := do
  let gated ← opdvrCorrectnessGate signal correctMask responseMask
  if grpd then
    let scaling ← opdvrGroupRelativeAdvantage verifierRewards groupIds
    return (scaleRows gated scaling, some scaling)
  else return (gated, none)

def opdvrMetrics (signal gated : Tensor (Flt K)) (correctRows : Tensor Bool)
    (responseMask : Tensor Bool) (scaling : Option (Tensor (Flt K))) :
    List (String × Flt K) :=
  let correctTokens := correctRows.expandRows (gated.size 0) (gated.size 1)
  let correctValid : Tensor Bool := .mat (gated.size 0) (gated.size 1) fun row column =>
    responseMask.at2 row column && correctTokens.at2 row column
  let incorrectValid : Tensor Bool := .mat (gated.size 0) (gated.size 1) fun row column =>
    responseMask.at2 row column && !correctTokens.at2 row column
  let conflicting : Tensor (Flt K) := .mat (gated.size 0) (gated.size 1) fun row column =>
    Flt.ofBool (Flt.lt 0 (signal.at2 row column) == correctTokens.at2 row column)
  [("distillation/reverse_kl_estimate", Flt.mean (signal.selectTokens responseMask)),
    ("distillation/opdvr_gated_reward_mean", Flt.meanOrZero (gated.selectTokens responseMask)),
    ("distillation/opdvr_correct_reward_mean", Flt.meanOrZero (gated.selectTokens correctValid)),
    ("distillation/opdvr_incorrect_reward_mean",
      Flt.meanOrZero (gated.selectTokens incorrectValid)),
    ("distillation/opdvr_conflicting_token_ratio",
      Flt.meanOrZero (conflicting.selectTokens responseMask))] ++
  scaling.toList.map fun values =>
    ("distillation/opdvr_grpd_advantage_mean",
      Flt.mean ((List.range (values.size 0)).map values.at1))

/-- The verifier scores are flattened, so the row flags stay one-dimensional. -/
def computeOpdvrGatedSampledTokenReverseKl (config : OpdvrLossConfig K)
    (studentLogProbs teacherLogProbs : Tensor (Flt K)) (responseMask : Tensor Bool)
    (rmScores : Option (Tensor (Flt K))) (uid : List String) :
    Except PyError (Tensor (Flt K) × List (String × Flt K)) := do
  raiseIf (teacherLogProbs.shape ≠ studentLogProbs.shape ∨
      studentLogProbs.shape ≠ responseMask.shape) ⟨.assertionError, ""⟩
  let scores ← rmScores.elim
    (.error (runtimeError "OPDVR requires verifier scores (rm_scores) in the actor batch")) .ok
  let verifierRewards := scores.flatten
  raiseIf (verifierRewards.numel ≠ responseMask.size 0) (runtimeError
    s!"OPDVR expected one verifier score per trajectory; got {verifierRewards.numel} scores for {responseMask.size 0} trajectories")
  let correctMask := verifierRewards.map fun reward => Flt.lt (.fin (1 / 2)) reward
  let signal := sampledReverseKl studentLogProbs teacherLogProbs
  let baseSignal := signal.map (clampSignal config.lossMaxClamp)
  let (gated, scaling) ← gateAndScale config.opdvrGrpd baseSignal correctMask
    (some responseMask) verifierRewards uid
  return (gated.map (- ·), opdvrMetrics signal gated correctMask responseMask scaling)

end R2opl
