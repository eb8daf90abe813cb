import R2opl.Prompt.DistillationPair
import R2opl.Prompt.LengthLimit
import R2opl.Prompt.DistillationConfig
import R2opl.Objective.Hyperparameters
import Mathlib.Algebra.Order.Ring.Rat
import Mathlib.Algebra.Field.Rat

/-!
# The teacher's context

`configure_r2opl_defaults` and `validate_r2opl_config` (`algorithms/r2opl.py`).  The
data set shortens a teacher prompt to the teacher's own prompt length, but the validator
compares the teacher's context with the student's prompt length.  What it lets through is
refused when the trainer builds the teacher's configuration.
-/

namespace R2opl

open Checked

variable {K : Type} [Field K] [LinearOrder K] [ToString K]

/-! ### The configuration -/

/-- `data.native_teacher`. -/
structure NativeTeacher where
  modelPath : PyStr
  modelFamily : PyStr
  maxPromptLength : Int
  promptName : PyStr

structure ActorConfig where
  lossAggMode : String
  ulyssesSequenceParallelSize : Int
  ppoMicroBatchSizePerGpu : Int
  useDynamicBsz : Bool
  ppoMaxTokenLenPerGpu : Int
  useRemovePadding : Bool
  useFusedKernels : Bool
  attnImplementation : String
  rolloutN : Int
  rolloutMaxModelLen : Int
  rolloutLogProbMaxTokenLenPerGpu : Int
  refLogProbMaxTokenLenPerGpu : Int

structure DataConfig where
  trainBatchSize : Int
  maxPromptLength : Int
  maxResponseLength : Int
  trainMaxNewTokens : Int
  valMaxNewTokens : Int
  customCls : Option (String × String)
  modelFamily : PyStr
  nativeTeacher : Option NativeTeacher

structure R2OPLConfig (K : Type) where
  promptTemplate : PyStr
  studentModelFamily : PyStr
  teacherModelFamily : PyStr
  studentPrompt : Option PyStr
  teacherPrompt : Option PyStr
  algorithmName : String
  projectName : String
  experimentName : Option PyStr
  runName : Option PyStr
  runNamePrefix : Option PyStr
  groupName : Option PyStr
  hyperparameters : R2OPLSettings K
  distillation : DistillationConfig K
  actor : ActorConfig
  data : DataConfig

/-! ### Defaults -/

/-- `config.get(key, default) or default`. -/
def getOr (value : Option PyStr) (default : PyStr) : PyStr :=
  if value.getD default = [] then default else value.getD default

def configureNativeTeacherPrompt (config : R2OPLConfig K) (teacherFamily : PyStr) :
    Except PyError (R2OPLConfig K) := do
  raiseIf (¬ (config.distillation.teacherModels ≠ [] ∧
      ∀ key ∈ config.distillation.teacherModels, key = "teacher_model"))
    (valueError "R²OPL native prompts currently require exactly one Teacher.")
  return { config with
    data := { config.data with
      nativeTeacher := some {
        modelPath := config.distillation.teacherModelPath
        modelFamily := teacherFamily
        maxPromptLength := config.distillation.inference.promptLength
        promptName := config.promptTemplate } } }

/-- `stamp` is the time and process id of the run. -/
def configureRunMetadata (config : R2OPLConfig K) (stamp : PyStr) : R2OPLConfig K :=
  let given := strip (config.runName.getD [])
  let runName := if given = [] then
      strip (getOr config.runNamePrefix "r2opl".toList) ++ '_' :: stamp
    else given
  { config with
    runName := some runName
    groupName := some (strip (getOr config.groupName "R2OPL".toList))
    experimentName := some runName }

section Repr

variable (repr : PyStr → String)

def configureR2oplDefaults (projectRoot : String) (stamp : PyStr) (config : R2OPLConfig K) :
    Except PyError (R2OPLConfig K) := do
  let promptName := strip config.promptTemplate
  raiseIf ((promptTemplate promptName).isNone)
    (valueError s!"Unknown prompt_template={repr promptName}.")
  let studentFamily ← normalizeModelFamily repr config.studentModelFamily
  let teacherFamily ← normalizeModelFamily repr config.teacherModelFamily
  raiseIf (studentFamily ≠ teacherFamily) (valueError
    ("R²OPL requires Student and Teacher to share a tokenizer family so " ++
      "sampled response token IDs retain their meaning."))
  let _ ← r2oplHyperparameters config.hyperparameters
  let config := { config with
    data := { config.data with
      customCls := some (projectRoot ++ "/utils/custom_dataset.py", "CustomDataset")
      modelFamily := studentFamily }
    studentPrompt := some promptName
    teacherPrompt := some promptName }
  let config ← configureNativeTeacherPrompt config teacherFamily
  return configureRunMetadata config stamp

/-! ### Validation -/

/-- The part of the checks on the distillation loss. -/
def validateDistillationLoss (config : R2OPLConfig K) : Except PyError Unit := do
  let loss := config.distillation.loss
  raiseIf (loss.lossMode ≠ "r2opl") (valueError "R²OPL requires loss_mode='r2opl'.")
  raiseIf (loss.policyLossMode ≠ "reinforce")
    (valueError "R²OPL requires policy_loss_mode=reinforce.")
  raiseIf (loss.usePolicyGradient = false ∨ loss.useTaskRewards = true) (valueError
    "R²OPL requires use_policy_gradient=true and use_task_rewards=false.")
  raiseIf (loss.topk ≠ none) (valueError
    "R²OPL uses sampled-token OPD and requires topk=null.")
  raiseIf (loss.selectionRatio.eq 1 = false)
    (valueError "R²OPL must score every valid response token.")
  raiseIf (config.actor.lossAggMode ≠ "seq-mean-token-sum")
    (valueError "R²OPL requires loss_agg_mode=seq-mean-token-sum.")
  raiseIf (loss.lossMaxClamp.isSome) (valueError
    "R²OPL requires loss_max_clamp=null to preserve its paper objective.")

/-- The part on the actor. -/
def validateActor (actor : ActorConfig) : Except PyError Unit := do
  raiseIf (actor.useRemovePadding = true)
    (valueError "R²OPL packed probes require model.use_remove_padding=false.")
  raiseIf (actor.useFusedKernels = true)
    (valueError "R²OPL packed probes require model.use_fused_kernels=false.")
  raiseIf (actor.attnImplementation ≠ "sdpa") (valueError
    "R²OPL packed probes require override_config.attn_implementation=sdpa.")
  raiseIf (actor.ulyssesSequenceParallelSize ≠ 1)
    (valueError "R²OPL packed probes require ulysses_sequence_parallel_size=1.")
  raiseIf (actor.ppoMicroBatchSizePerGpu ≠ 1)
    (valueError "R²OPL packed probes require actor.ppo_micro_batch_size_per_gpu=1.")
  raiseIf (actor.useDynamicBsz = true) (valueError
    ("R²OPL packed probes require actor.use_dynamic_bsz=false so each " ++
      "dense-mask forward contains exactly one rollout."))
  raiseIf (actor.rolloutN < 2)
    (valueError "R²OPL requires at least two rollouts per prompt.")

/-- The part on lengths; both contexts are compared with the student's prompt length. -/
def validateLengths (config : R2OPLConfig K) : Except PyError Unit := do
  let data := config.data
  raiseIf (data.trainBatchSize ≤ 0)
    (valueError "R²OPL requires a positive number of training questions per update.")
  raiseIf (min data.maxPromptLength (min data.trainMaxNewTokens data.valMaxNewTokens) ≤ 0)
    (valueError "R²OPL prompt and response limits must be positive.")
  raiseIf (data.maxResponseLength < max data.trainMaxNewTokens data.valMaxNewTokens)
    (valueError "data.max_response_length does not cover generation limits.")
  raiseIf (config.actor.rolloutMaxModelLen < data.maxPromptLength + data.valMaxNewTokens)
    (valueError "R²OPL Student max_model_len does not cover validation context.")
  let requiredTrainTokens := data.maxPromptLength + data.trainMaxNewTokens + 1
  raiseIf (∃ limit ∈ [config.actor.ppoMaxTokenLenPerGpu,
      config.actor.rolloutLogProbMaxTokenLenPerGpu, config.actor.refLogProbMaxTokenLenPerGpu],
      limit < requiredTrainTokens) (valueError
    "R²OPL Student log-prob token limits do not cover training context.")
  let inference := config.distillation.inference
  raiseIf (inference.name ≠ "vllm")
    (valueError "R²OPL sampled-token Teacher scoring requires vLLM.")
  raiseIf (inference.promptLength < data.maxPromptLength)
    (valueError "R²OPL Teacher prompt_length is too small.")
  raiseIf (inference.responseLength < data.trainMaxNewTokens)
    (valueError "R²OPL Teacher response_length is too small.")
  raiseIf (inference.maxModelLen < requiredTrainTokens) (valueError
    ("R²OPL Teacher max_model_len must cover the Student prompt, the " ++
      "full sampled response, and one causal predictor token."))
  raiseIf (inference.maxLogprobs.getD 0 < 1) (valueError
    "R²OPL sampled-token Teacher scoring requires vLLM max_logprobs >= 1.")

/-- `hasLoss` tells whether the active VERL build has the sampled-token loss. -/
def validateR2oplConfig (hasLoss : Bool) (config : R2OPLConfig K) : Except PyError Unit := do
  raiseIf (hasLoss = false) (runtimeError
    ("The active VERL build does not provide R²OPL support; missing " ++
      "compute_r2opl_sampled_token_loss."))
  raiseIf (config.algorithmName ≠ "r2opl") (valueError "R²OPL requires algorithm.name='r2opl'.")
  raiseIf (config.projectName ≠ "R^2OPL")
    (valueError "All R²OPL runs must use trainer.project_name='R^2OPL'.")
  raiseIf (strip (config.groupName.getD []) ≠ "R2OPL".toList)
    (valueError "R²OPL requires group_name='R2OPL'.")
  raiseIf (config.distillation.enabled = false)
    (valueError "R²OPL requires distillation.enabled=true for failed rollouts.")
  let promptName := strip config.promptTemplate
  raiseIf ((promptTemplate promptName).isNone)
    (valueError s!"Unknown prompt_template={repr promptName}.")
  let studentFamily ← normalizeModelFamily repr config.studentModelFamily
  let teacherFamily ← normalizeModelFamily repr config.teacherModelFamily
  raiseIf (studentFamily ≠ teacherFamily)
    (valueError "R²OPL Student and Teacher tokenizer families must match.")
  let _ ← r2oplHyperparameters config.hyperparameters
  validateDistillationLoss config
  validateActor config.actor
  validateLengths config

/-! ### Prompts under a configuration -/

/-- The renderer `CustomDataset` uses for a training example. -/
def trainingRenderer (config : R2OPLConfig K) (teacher : NativeTeacher)
    (studentTokenizer teacherTokenizer : ChatTokenizer) : PairRenderer where
  studentTokenizer := studentTokenizer
  teacherTokenizer := teacherTokenizer
  studentFamily := config.data.modelFamily
  teacherFamily := teacher.modelFamily
  studentLimit := config.data.maxPromptLength
  teacherLimit := teacher.maxPromptLength
  promptName := teacher.promptName
  repr := repr

/-- A question admitted to a run: the trainer has built the teacher's configuration
    (`trainer/main_ppo_sync.py`, `teacher_loop/teacher_manager.py`), and the data set has
    rendered the two prompts. -/
structure AdmittedQuestion (config : R2OPLConfig K) (pair : PromptPair) : Prop where
  prepared : Returns config.distillation.postInit
  rendered : ∃ teacher studentTokenizer teacherTokenizer question truncated,
    config.data.nativeTeacher = some teacher ∧
      renderDistillationPromptPair
          (trainingRenderer repr config teacher studentTokenizer teacherTokenizer) question =
        .ok (pair, truncated)

/-- The teacher prompt of every question, a full-length training response and one predictor
    token fit the teacher's context. -/
def TeacherContextCovers (config : R2OPLConfig K) : Prop :=
  ∀ pair, AdmittedQuestion repr config pair →
    (pair.teacherIds.length : Int) + config.data.trainMaxNewTokens + 1 ≤
      config.distillation.inference.maxModelLen

end Repr

/-! ### What is accepted -/

section Accepted

variable {repr : PyStr → String} {projectRoot : String} {stamp : PyStr} {hasLoss : Bool}
  {config configured : R2OPLConfig K}

/-- The configuration was filled in by the defaults and then accepted. -/
structure AcceptedConfig (repr : PyStr → String) (projectRoot : String) (stamp : PyStr)
    (hasLoss : Bool) (config configured : R2OPLConfig K) : Prop where
  defaults : configureR2oplDefaults repr projectRoot stamp config = .ok configured
  accepted : validateR2oplConfig repr hasLoss configured = .ok ()

/-- What the data set reads off a configuration with defaults. -/
structure HasNativeTeacher (repr : PyStr → String) (config : R2OPLConfig K) (family : PyStr)
    (teacher : NativeTeacher) : Prop where
  family_normal : normalizeModelFamily repr family = .ok family
  dataFamily : config.data.modelFamily = family
  teacher_eq : config.data.nativeTeacher = some teacher
  teacherFamily : teacher.modelFamily = family
  maxPromptLength : teacher.maxPromptLength = config.distillation.inference.promptLength
  promptName : teacher.promptName = config.promptTemplate
  known : (promptTemplate (strip config.promptTemplate)).isSome

theorem hasNativeTeacher_of_defaults
    (h : configureR2oplDefaults repr projectRoot stamp config = .ok configured) :
    ∃ family teacher, HasNativeTeacher repr configured family teacher := by
  simp only [configureR2oplDefaults, configureNativeTeacherPrompt, bind_eq_ok, raiseIf_eq_ok,
    exists_and_left, exists_const, pure_eq_ok, Except.ok.injEq, not_not, ne_eq] at h
  obtain ⟨hknown, student, hstudent, teacher, hteacher, rfl, _, _, _, ⟨_, rfl⟩, rfl⟩ := h
  refine ⟨student, _, normalizeModelFamily_idem repr hstudent, rfl, rfl, rfl, rfl, rfl, ?_⟩
  rw [Option.isNone_iff_eq_none, ← ne_eq, Option.ne_none_iff_isSome] at hknown
  exact hknown

omit [Field K] [LinearOrder K] [ToString K] in
theorem validateLengths_prompts (h : validateLengths config = .ok ()) :
    0 < config.data.maxPromptLength ∧
      config.data.maxPromptLength ≤ config.distillation.inference.promptLength := by
  simp only [validateLengths, raiseIf_bind_eq_ok, not_le, not_lt] at h
  obtain ⟨_, hpositive, _, _, _, _, hprompt, _⟩ := h
  exact ⟨(lt_min_iff.mp hpositive).1, hprompt⟩

omit [Field K] [LinearOrder K] [ToString K] in
theorem validateLengths_response (h : validateLengths config = .ok ()) :
    config.data.trainMaxNewTokens ≤ config.distillation.inference.responseLength := by
  simp only [validateLengths, raiseIf_bind_eq_ok, not_le, not_lt] at h
  obtain ⟨_, _, _, _, _, _, _, hresponse, _⟩ := h
  exact hresponse

theorem validateR2oplConfig_enabled (h : validateR2oplConfig repr hasLoss config = .ok ()) :
    config.distillation.enabled = true := by
  unfold validateR2oplConfig at h
  simp only [raiseIf_bind_eq_ok, Bool.not_eq_false] at h
  obtain ⟨_, _, _, _, henabled, _⟩ := h
  exact henabled

theorem validateR2oplConfig_lengths (h : validateR2oplConfig repr hasLoss config = .ok ()) :
    validateLengths config = .ok () := by
  simp only [validateR2oplConfig, bind_eq_ok, raiseIf_eq_ok, exists_and_left, exists_const] at h
  obtain ⟨_, _, _, _, _, _, _, _, _, _, _, _, _, _, _, _, _, hlengths⟩ := h
  exact hlengths

/-- No prompt is rendered for a blank question or under an unknown template name. -/
theorem not_blank_of_run {renderer : PairRenderer} {question : PyStr}
    {result : PromptPair × Bool}
    (h : renderDistillationPromptPair renderer question = .ok result) :
    strip question ≠ [] ∧ (promptTemplate renderer.promptName).isSome := by
  unfold renderDistillationPromptPair at h
  obtain ⟨_, _, hrest⟩ := bind_eq_ok.mp h
  obtain ⟨⟨full, fits⟩, hrender, _⟩ := bind_eq_ok.mp hrest
  have hstudent := (PairRenderer.render_eq_ok.mp hrender).1.student
  unfold renderChatPrompt at hstudent
  cases htokenizer : renderer.studentTokenizer.applyChatTemplate with
  | none =>
    rw [htokenizer] at hstudent
    cases hstudent
  | some applyChatTemplate =>
    rw [htokenizer] at hstudent
    obtain ⟨_, _, hmessages⟩ := bind_eq_ok.mp hstudent
    obtain ⟨messages, hbuild, _⟩ := bind_eq_ok.mp hmessages
    unfold buildPromptMessages at hbuild
    cases htemplate : promptTemplate renderer.promptName with
    | none =>
      rw [htemplate] at hbuild
      cases hbuild
    | some template =>
      rw [htemplate] at hbuild
      obtain ⟨_, hvalidated, _⟩ := bind_eq_ok.mp hbuild
      rw [validatedQuestion, strip_strip, raiseIf_bind_eq_ok] at hvalidated
      exact ⟨hvalidated.1, rfl⟩

/-- A rendered teacher prompt has at most the teacher's own prompt length. -/
theorem teacherIds_length_le (h : AcceptedConfig repr projectRoot stamp hasLoss config configured)
    {teacher : NativeTeacher} (hteacher : configured.data.nativeTeacher = some teacher)
    {studentTokenizer teacherTokenizer : ChatTokenizer} {question : PyStr} {pair : PromptPair}
    {truncated : Bool}
    (hrun : renderDistillationPromptPair
      (trainingRenderer repr configured teacher studentTokenizer teacherTokenizer) question =
        .ok (pair, truncated)) :
    (pair.teacherIds.length : Int) ≤ configured.distillation.inference.promptLength := by
  obtain ⟨family, native, hnative⟩ := hasNativeTeacher_of_defaults h.defaults
  obtain ⟨hpositive, hprompt⟩ := validateLengths_prompts (validateR2oplConfig_lengths h.accepted)
  obtain rfl : native = teacher := Option.some.inj (hnative.teacher_eq.symm.trans hteacher)
  have hteacherPositive : 0 < native.maxPromptLength := by
    rw [hnative.maxPromptLength]
    omega
  rw [← hnative.maxPromptLength]
  rcases renderDistillationPromptPair_cases (trainingRenderer repr configured native
    studentTokenizer teacherTokenizer) (not_blank_of_run hrun).1 hpositive hteacherPositive with
    ⟨pair', truncated', k, hrun', hchosen, _⟩ | ⟨hfails, _⟩
  · rw [hrun] at hrun'
    obtain ⟨rfl, rfl⟩ := Prod.mk.inj (Except.ok.inj hrun')
    exact hchosen.withinLimits.2
  · exact absurd ⟨_, hrun⟩ hfails

end Accepted

/-! ### Whether the context covers -/

/-- A tokenizer that shows the task prompt as it is, in a given number of tokens. -/
def fixedLengthTokenizer (length : Nat) : ChatTokenizer where
  applyChatTemplate := plainTokenizer.applyChatTemplate
  encode := fun _ => List.replicate length 0

/-- Some question has a teacher prompt of exactly the teacher's prompt length. -/
theorem exists_longest_prompt {repr : PyStr → String} {projectRoot : String} {stamp : PyStr}
    {hasLoss : Bool} {config configured : R2OPLConfig K}
    (h : AcceptedConfig repr projectRoot stamp hasLoss config configured)
    (hstripped : strip configured.promptTemplate = configured.promptTemplate) :
    ∃ teacher studentTokenizer teacherTokenizer question pair truncated,
      configured.data.nativeTeacher = some teacher ∧
      renderDistillationPromptPair
          (trainingRenderer repr configured teacher studentTokenizer teacherTokenizer) question =
        .ok (pair, truncated) ∧
      (pair.teacherIds.length : Int) = configured.distillation.inference.promptLength := by
  obtain ⟨family, teacher, hteacher⟩ := hasNativeTeacher_of_defaults h.defaults
  obtain ⟨hpositive, hprompt⟩ := validateLengths_prompts (validateR2oplConfig_lengths h.accepted)
  have hknown := hteacher.known
  rw [hstripped] at hknown
  have hlength : configured.distillation.inference.promptLength.toNat =
      configured.distillation.inference.promptLength := Int.toNat_of_nonneg (by omega)
  have hteacherLimit : teacher.maxPromptLength =
      configured.distillation.inference.promptLength := hteacher.maxPromptLength
  have hteacherPositive : 0 < teacher.maxPromptLength := by omega
  -- one student token, and a teacher token for every place there is
  obtain ⟨renderer, hrenderer⟩ : ∃ renderer, renderer = trainingRenderer repr configured teacher
      (fixedLengthTokenizer 1)
      (fixedLengthTokenizer configured.distillation.inference.promptLength.toNat) := ⟨_, rfl⟩
  have hcan : renderer.CanRender := by
    subst hrenderer
    refine ⟨⟨rfl, ⟨family, ?_⟩, ?_⟩, rfl, ⟨family, ?_⟩, ?_⟩
    · rw [trainingRenderer, hteacher.dataFamily]
      exact hteacher.family_normal
    · rw [trainingRenderer, hteacher.promptName]
      exact hknown
    · rw [trainingRenderer, hteacher.teacherFamily]
      exact hteacher.family_normal
    · rw [trainingRenderer, hteacher.promptName]
      exact hknown
  have hids : ∀ {candidate pair}, renderer.Renders candidate pair →
      (pair.teacherIds.length : Int) = configured.distillation.inference.promptLength := by
    intro candidate pair hrenders
    rw [hrenders.ids]
    subst hrenderer
    change ((List.replicate _ (0 : Int)).length : Int) = _
    rw [List.length_replicate, hlength]
  obtain ⟨full, hfull⟩ :=
    (PairRenderer.exists_renders_iff (show strip (strip ['x']) ≠ [] by decide)).mpr hcan
  have hfits : renderer.Fits (strip ['x']) := by
    refine ⟨full, hfull, ?_, ?_⟩
    · subst hrenderer
      change ((List.replicate 1 (0 : Int)).length : Int) ≤ configured.data.maxPromptLength
      rw [List.length_replicate]
      omega
    · rw [hids hfull]
      subst hrenderer
      exact hteacherLimit.ge
  have hlimits : 0 < renderer.studentLimit ∧ 0 < renderer.teacherLimit := by
    subst hrenderer
    exact ⟨hpositive, hteacherPositive⟩
  rcases renderDistillationPromptPair_cases renderer (show strip ['x'] ≠ [] by decide)
    hlimits.1 hlimits.2 with ⟨pair, truncated, k, hrun, hchosen, _⟩ | ⟨_, hwhole, _⟩
  · subst hrenderer
    exact ⟨teacher, _, _, _, pair, truncated, hteacher.teacher_eq, hrun, hids hchosen.renders⟩
  · exact absurd hfits hwhole

/-- **The teacher's context.**  Under an accepted configuration every sequence that is scored
    fits the teacher's context.  The validator bounds the training response by the teacher's
    response length, the data set the prompt by its prompt length, and the configuration of the
    teacher is only built where its context holds the two. -/
theorem teacherContextCovers_of_accepted {repr : PyStr → String} {projectRoot : String}
    {stamp : PyStr} {hasLoss : Bool} {config configured : R2OPLConfig K}
    (h : AcceptedConfig repr projectRoot stamp hasLoss config configured) :
    TeacherContextCovers repr configured := by
  rintro pair ⟨⟨prepared, hprepared⟩, teacher, _, _, question, truncated, hteacher, hrun⟩
  have hprompt := teacherIds_length_le h hteacher hrun
  have hresponse := validateLengths_response (validateR2oplConfig_lengths h.accepted)
  have hroom := DistillationConfig.room_of_postInit (validateR2oplConfig_enabled h.accepted)
    hprepared
  omega

/-- A configuration whose teacher may be given twice the student's prompt length. -/
def longTeacherPrompt (maxModelLen : Int) : R2OPLConfig ℚ where
  promptTemplate := explicitStepPromptName
  studentModelFamily := "qwen3".toList
  teacherModelFamily := "qwen3".toList
  studentPrompt := none
  teacherPrompt := none
  algorithmName := "r2opl"
  projectName := "R^2OPL"
  experimentName := none
  runName := none
  runNamePrefix := none
  groupName := none
  hyperparameters := ⟨none, none, none, none, none⟩
  distillation :=
    { enabled := true
      nGpusPerNode := 8
      nnodes := 1
      studentChunkSize := 1024
      teacherChunkSize := 1024
      teacherModels := ["teacher_model"]
      teacherKey := none
      teacherModelPath := "teacher".toList
      numReplicas := 0
      inference := ⟨"vllm", 4096, 12288, maxModelLen, some 1, none, none, true, 8192, 2, 1, 1⟩
      loss := ⟨"r2opl", "reinforce", true, false, none, 1, none⟩ }
  actor := ⟨"seq-mean-token-sum", 1, 1, false, 22529, false, false, "sdpa", 8, 22528, 22529, 22529⟩
  data := ⟨128, 2048, 20480, 12288, 20480, none, [], none⟩

/-- The same with the defaults filled in. -/
def longTeacherPromptConfigured (maxModelLen : Int) : R2OPLConfig ℚ :=
  let config := longTeacherPrompt maxModelLen
  { config with
    data := { config.data with
      customCls := some ("./utils/custom_dataset.py", "CustomDataset")
      modelFamily := "qwen3".toList
      nativeTeacher := some ⟨"teacher".toList, "qwen3".toList, 4096, explicitStepPromptName⟩ }
    studentPrompt := some explicitStepPromptName
    teacherPrompt := some explicitStepPromptName
    runName := some "r2opl_1".toList
    groupName := some "R2OPL".toList
    experimentName := some "r2opl_1".toList }

theorem r2oplHyperparameters_default :
    r2oplHyperparameters (⟨none, none, none, none, none⟩ : R2OPLSettings ℚ) =
      .ok defaultHyperparameters := by
  have hnonNegative : ∀ (message : String) (x : ℚ), 0 ≤ x →
      checkNonNegative message (.fin x) = .ok () :=
    fun _ x hx => checkNonNegative_eq_ok.mpr ⟨x, hx, rfl⟩
  have hpositive : ∀ (message : String) (x : ℚ), 0 < x →
      checkPositive message (.fin x) = .ok () :=
    fun _ x hx => checkPositive_eq_ok.mpr ⟨x, hx, rfl⟩
  unfold r2oplHyperparameters
  simp only [Option.getD_none, defaultHyperparameters]
  rw [hnonNegative _ _ (by norm_num), hpositive _ _ (by norm_num),
    hnonNegative _ _ (by norm_num), hnonNegative _ _ (by norm_num), hpositive _ _ (by norm_num)]
  rfl

theorem longTeacherPrompt_accepted {maxModelLen : Int} (h : 14337 ≤ maxModelLen) :
    AcceptedConfig (fun _ => "") "." ['1'] true (longTeacherPrompt maxModelLen)
      (longTeacherPromptConfigured maxModelLen) where
  defaults := by
    unfold configureR2oplDefaults
    rw [show (longTeacherPrompt maxModelLen).hyperparameters =
      ⟨none, none, none, none, none⟩ from rfl, r2oplHyperparameters_default]
    rfl
  accepted := by
    have hlengths : validateLengths (longTeacherPromptConfigured maxModelLen) = .ok () := by
      simp only [validateLengths, raiseIf_bind_eq_ok, raiseIf_eq_ok]
      simp only [longTeacherPromptConfigured, longTeacherPrompt]
      refine ⟨by decide, by decide, by decide, by decide, by decide, by decide, by decide,
        by decide, by omega, by decide⟩
    have hloss : validateDistillationLoss (longTeacherPromptConfigured maxModelLen) = .ok () := by
      simp only [validateDistillationLoss, raiseIf_bind_eq_ok, raiseIf_eq_ok]
      simp only [longTeacherPromptConfigured, longTeacherPrompt]
      refine ⟨by decide, by decide, by decide, by decide, ?_, by decide, by decide⟩
      rw [Flt.one_eq]
      decide
    have hactor : validateActor (longTeacherPromptConfigured maxModelLen).actor = .ok () := rfl
    unfold validateR2oplConfig
    rw [show (longTeacherPromptConfigured maxModelLen).hyperparameters =
      ⟨none, none, none, none, none⟩ from rfl, r2oplHyperparameters_default, hloss, hactor,
      hlengths]
    rfl

/-- With a context of its own prompt length, the teacher is built. -/
theorem longTeacherPrompt_prepared :
    Returns (longTeacherPromptConfigured 16385).distillation.postInit :=
  ⟨_, rfl⟩

/-- A prompt of the full 4096 tokens is admitted under a context of 16385, and covered. -/
theorem teacherContextCovers_of_accepted_long_context :
    (∃ pair, AdmittedQuestion (fun _ => "") (longTeacherPromptConfigured 16385) pair ∧
        pair.teacherIds.length = 4096) ∧
      TeacherContextCovers (fun _ => "") (longTeacherPromptConfigured 16385) := by
  have haccepted := longTeacherPrompt_accepted (show 14337 ≤ 16385 by decide)
  refine ⟨?_, teacherContextCovers_of_accepted haccepted⟩
  obtain ⟨teacher, _, _, question, pair, truncated, hteacher, hrun, hids⟩ :=
    exists_longest_prompt haccepted (by decide)
  exact ⟨pair, ⟨longTeacherPrompt_prepared, teacher, _, _, question, truncated, hteacher, hrun⟩,
    Int.ofNat.inj hids⟩

/-- A context of the student's prompt length passes the validator only. -/
example : AcceptedConfig (fun _ => "") "." ['1'] true (longTeacherPrompt 14337)
      (longTeacherPromptConfigured 14337) ∧
    ¬ Returns (longTeacherPromptConfigured 14337).distillation.postInit := by
  refine ⟨longTeacherPrompt_accepted (le_refl _), fun ⟨prepared, hprepared⟩ => ?_⟩
  exact absurd (DistillationConfig.room_of_postInit rfl hprepared) (by decide)

end R2opl
