import R2opl.Python
import R2opl.Lib.ExactFloat

/-!
# The configuration of the teacher

`DistillationConfig.__post_init__` (`verl/workers/config/distillation.py`), which runs while the
trainer is built: the teacher is given the whole pool, and its context has to hold its own prompt
and response lengths and one generated token.  `configure_r2opl_defaults` has refused any further
teacher by then, so that the branch for several teachers is left out.
-/

namespace R2opl

open Checked

variable {K : Type}

structure TeacherInference where
  name : String
  promptLength : Int
  responseLength : Int
  maxModelLen : Int
  maxLogprobs : Option Int
  fullVocabEntropyTopk : Option Int
  eopdEntropyTopk : Option Int
  enableChunkedPrefill : Bool
  maxNumBatchedTokens : Int
  tensorModelParallelSize : Int
  dataParallelSize : Int
  pipelineModelParallelSize : Int

structure DistillationLoss (K : Type) where
  lossMode : String
  policyLossMode : String
  usePolicyGradient : Bool
  useTaskRewards : Bool
  topk : Option Int
  selectionRatio : Flt K
  lossMaxClamp : Option (Flt K)

/-- `distillation`; the teacher's own fields are those of `teacher_models.teacher_model`. -/
structure DistillationConfig (K : Type) where
  enabled : Bool
  nGpusPerNode : Int
  nnodes : Int
  studentChunkSize : Int
  teacherChunkSize : Int
  teacherModels : List String
  teacherKey : Option String
  teacherModelPath : PyStr
  numReplicas : Int
  inference : TeacherInference
  loss : DistillationLoss K

/-! ### The settings of a loss mode -/

/-- `DistillationLossSettings`. -/
structure LossSettings where
  useTopk : Bool
  useFullVocabTeacherEntropy : Bool

/-- `DISTILLATION_SETTINGS_REGISTRY`, in the order of registration. -/
def distillationSettingsRegistry : List (String × LossSettings) :=
  [("forward_kl_topk", ⟨true, false⟩), ("kl", ⟨false, false⟩), ("k1", ⟨false, false⟩),
    ("abs", ⟨false, false⟩), ("mse", ⟨false, false⟩), ("k2", ⟨false, false⟩),
    ("low_var_kl", ⟨false, false⟩), ("k3", ⟨false, false⟩), ("uni_opd", ⟨false, false⟩),
    ("fire_opd", ⟨false, true⟩), ("r2opl_base", ⟨false, false⟩),
    ("r2opl_base_v2", ⟨false, false⟩), ("r2opl", ⟨false, false⟩), ("reverse_kl", ⟨false, false⟩),
    ("opdvr", ⟨false, false⟩), ("error_reverse_kl", ⟨false, false⟩),
    ("correct_reverse_kl", ⟨false, false⟩), ("sol_reverse_kl", ⟨false, false⟩),
    ("oa_opd", ⟨false, false⟩), ("eopd", ⟨true, true⟩), ("exopd_reverse_kl", ⟨false, false⟩),
    ("cal_reverse_kl", ⟨false, false⟩), ("ps_reverse_kl", ⟨false, false⟩)]

def getDistillationLossSettings (lossName : String) : Except PyError LossSettings :=
  match distillationSettingsRegistry.find? fun entry => entry.1 = lossName with
  | some entry => .ok entry.2
  | none => .error (valueError
      ("Unsupported loss mode: " ++ lossName ++ ". Supported modes are: ['" ++
        "', '".intercalate (distillationSettingsRegistry.map Prod.fst) ++ "']"))

/-! ### Preparing the teacher -/

/-- `_validate_topk_logprobs`, which fills in the engine's limits. -/
def validateTopkLogprobs (settings : LossSettings) (topk : Option Int)
    (inference : TeacherInference) : Except PyError TeacherInference := do
  if settings.useTopk = false ∧ settings.useFullVocabTeacherEntropy = false then
    return inference
  match topk with
  | none => .error (valueError
      "topk must be specified for top-k distillation or exact Teacher-entropy transfer.")
  | some topk =>
    if inference.name = "vllm" then
      if settings.useFullVocabTeacherEntropy then
        let requiredLogprobs := topk + 1
        let maxLogprobs := inference.maxLogprobs.getD requiredLogprobs
        raiseIf (maxLogprobs < requiredLogprobs) (valueError
          s!"Full-vocabulary Teacher entropy requires vLLM max_logprobs >= topk + 1; got {maxLogprobs} < {requiredLogprobs}.")
        let entropyTopk := inference.fullVocabEntropyTopk.getD (inference.eopdEntropyTopk.getD topk)
        raiseIf (entropyTopk ≠ topk) (valueError
          "vLLM full-vocabulary entropy topk must match distillation topk.")
        return { inference with
          maxLogprobs := some maxLogprobs
          fullVocabEntropyTopk :=
            if inference.fullVocabEntropyTopk = none ∧ inference.eopdEntropyTopk = none then
              some topk
            else inference.fullVocabEntropyTopk }
      else
        let maxLogprobs := inference.maxLogprobs.getD topk
        raiseIf (maxLogprobs < topk) (valueError
          s!"VLLM max_logprobs ({maxLogprobs}) must be >= distillation_loss topk ({topk}) to enable distillation loss computation.")
        return { inference with maxLogprobs := some maxLogprobs }
    else if inference.name = "sglang" then
      raiseIf (settings.useFullVocabTeacherEntropy = true) (notImplementedError
        "Full-vocabulary Teacher entropy currently requires vLLM.")
      return inference
    else .error (notImplementedError
      s!"DistillationTeacherModelConfig does not support inference engine {inference.name}")

/-- The prompt and the response of the student are fed into the teacher as context. -/
def validateAndPrepareForDistillation (settings : LossSettings) (topk : Option Int)
    (inference : TeacherInference) : Except PyError TeacherInference := do
  let requiredContextLen := inference.promptLength + inference.responseLength + 1
  raiseIf (inference.maxModelLen < requiredContextLen) (valueError
    ("Distillation teacher inference requires room for the student prompt, the full student " ++
      s!"response, and one generated token, but got student_prompt_length={inference.promptLength}, student_response_length={inference.responseLength}, required_context_len={requiredContextLen}, max_model_len={inference.maxModelLen}."))
  validateTopkLogprobs settings topk { inference with
    promptLength := inference.promptLength + inference.responseLength
    responseLength := 1 }

namespace DistillationConfig

def perReplicaWorldSize (config : DistillationConfig K) : Int :=
  config.inference.tensorModelParallelSize * config.inference.dataParallelSize *
    config.inference.pipelineModelParallelSize

def poolSize (config : DistillationConfig K) : Int := config.nGpusPerNode * config.nnodes

/-- `_resolve_teacher_models`: a single teacher occupies the whole pool, and has then nothing
    left that `check_configured` asks for. -/
def resolveTeacherModels (config : DistillationConfig K) :
    Except PyError (DistillationConfig K) := do
  raiseIf ("teacher_model" ∉ config.teacherModels) ⟨.assertionError, ""⟩
  raiseIf (config.perReplicaWorldSize = 0) ⟨.zeroDivisionError, "integer modulo by zero"⟩
  raiseIf (config.poolSize.fmod config.perReplicaWorldSize ≠ 0) (valueError
    s!"Single teacher's per_replica_world_size ({config.perReplicaWorldSize}) must divide the distillation resource pool size (self.n_gpus_per_node={config.nGpusPerNode} * self.nnodes={config.nnodes} = {config.poolSize}).")
  return { config with
    numReplicas := config.poolSize.fdiv config.perReplicaWorldSize
    teacherKey := some "default" }

/-- `__post_init__`; the configuration of the loss is built before, with the settings of its
    mode. -/
def postInit (config : DistillationConfig K) : Except PyError (DistillationConfig K) := do
  let settings ← getDistillationLossSettings config.loss.lossMode
  if config.enabled = false then return config
  raiseIf (config.studentChunkSize ≤ 0 ∨ config.teacherChunkSize ≤ 0) (valueError
    s!"distillation student_chunk_size and teacher_chunk_size must both be positive, got self.student_chunk_size={config.studentChunkSize} and self.teacher_chunk_size={config.teacherChunkSize}.")
  let resolved ← config.resolveTeacherModels
  raiseIf (resolved.inference.enableChunkedPrefill = false) (valueError
    "teacher_chunk_size requires teacher inference.enable_chunked_prefill=true")
  let inference ← validateAndPrepareForDistillation settings resolved.loss.topk
    { resolved.inference with maxNumBatchedTokens := resolved.teacherChunkSize }
  let worldSize := resolved.numReplicas * resolved.perReplicaWorldSize
  raiseIf (worldSize ≠ resolved.poolSize) (valueError
    s!"Sum of teacher (num_replicas * per_replica_world_size) ({worldSize}) must match the distillation resource pool size (self.n_gpus_per_node={resolved.nGpusPerNode} * self.nnodes={resolved.nnodes} = {resolved.poolSize}).")
  return { resolved with inference := inference }

/-! ### What a prepared teacher has room for -/

theorem inference_of_resolveTeacherModels {config resolved : DistillationConfig K}
    (h : config.resolveTeacherModels = .ok resolved) : resolved.inference = config.inference := by
  simp only [resolveTeacherModels, raiseIf_bind_eq_ok, pure_eq_ok, Except.ok.injEq] at h
  obtain ⟨_, _, _, rfl⟩ := h
  rfl

/-- The teacher's context holds its prompt length, its response length and one token. -/
theorem room_of_postInit {config prepared : DistillationConfig K} (henabled : config.enabled = true)
    (h : config.postInit = .ok prepared) :
    config.inference.promptLength + config.inference.responseLength + 1 ≤
      config.inference.maxModelLen := by
  unfold postInit at h
  obtain ⟨settings, _, hrest⟩ := bind_eq_ok.mp h
  rw [henabled, if_neg (by decide), raiseIf_bind_eq_ok] at hrest
  obtain ⟨resolved, hresolved, hrest⟩ := bind_eq_ok.mp hrest.2
  rw [raiseIf_bind_eq_ok] at hrest
  obtain ⟨inference, hprepared, _⟩ := bind_eq_ok.mp hrest.2
  unfold validateAndPrepareForDistillation at hprepared
  obtain ⟨hroom, _⟩ := raiseIf_bind_eq_ok.mp hprepared
  rw [inference_of_resolveTeacherModels hresolved] at hroom
  exact not_lt.mp hroom

end DistillationConfig

end R2opl
