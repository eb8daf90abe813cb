import R2opl.Evaluation.Checkpoints

/-!
# The result document

The document that checkpoint evaluation persists (`utils/ersr_evaluation.py`): its
entries, the operations on them, and `_load_checkpoint_document`, which creates it or
takes up an existing one.
-/

namespace R2opl

open Checked

/-! ### Entries -/

inductive EntryStatus where
  | baseCompleted
  | completed
deriving DecidableEq, Repr

/-- The `ersr` field: the teacher's proposals are stored before the student phase. -/
inductive ErsrField (W E : Type) where
  | notEvaluated
  | teacherCompleted (work : W)
  | evaluated (ersr : E)
deriving DecidableEq, Repr

/-- Where the evaluated weights came from. -/
structure Provenance where
  isInitialBase : Bool
  checkpointDir : Option String
  sourceKind : String
  sourceDir : String
  modelPathKind : String
  checkpointMetadataSource : String
deriving DecidableEq, Repr

/-- The result of one model; `datasets` is the base evaluation's summary with the path of
    its audit file. -/
structure EvaluationResult (B W E : Type) where
  modelName : String
  modelPath : String
  modelFamily : String
  tokenizerPath : String
  chatTemplatePath : Option String
  baseCompletedAt : Nat
  status : EntryStatus
  datasets : B
  ersr : ErsrField W E
  provenance : Option Provenance
  completedAt : Option Nat
deriving DecidableEq, Repr

structure StepResult (B W E : Type) extends EvaluationResult B W E where
  stepNum : Nat
deriving DecidableEq, Repr

variable {B W E : Type}

def EvaluationResult.annotateCheckpoint (result : EvaluationResult B W E)
    (checkpoint : CheckpointSpec) : EvaluationResult B W E :=
  { result with
    modelPath := checkpoint.sourceDir
    tokenizerPath := checkpoint.tokenizerDir
    provenance := some {
      isInitialBase := false
      checkpointDir := some checkpoint.checkpointDir
      sourceKind := match checkpoint.sourceKind with
        | .huggingface => "huggingface"
        | .fsdp => "fsdp"
      sourceDir := checkpoint.sourceDir
      modelPathKind := match checkpoint.sourceKind with
        | .huggingface => "checkpoint_huggingface"
        | .fsdp => "fsdp_actor_shards_merged_on_demand"
      checkpointMetadataSource :=
        if checkpoint.usesBaseModelMetadata then "base_model" else "checkpoint" } }

/-- `_annotate_checkpoint_result`. -/
def annotateCheckpointResult (result : EvaluationResult B W E) (checkpoint : CheckpointSpec) :
    StepResult B W E where
  toEvaluationResult := result.annotateCheckpoint checkpoint
  stepNum := checkpoint.stepNum

/-- `_annotate_initial_base_result`, for the configured base model. -/
def annotateInitialBaseResult (result : EvaluationResult B W E) (baseModel : ModelSpec) :
    EvaluationResult B W E :=
  { result with
    modelPath := baseModel.path
    tokenizerPath := baseModel.tokenizerPath.getD baseModel.path
    provenance := some {
      isInitialBase := true
      checkpointDir := none
      sourceKind := "initial_base_model"
      sourceDir := baseModel.path
      modelPathKind := "configured_base_model"
      checkpointMetadataSource := "base_model" } }

/-! ### The document -/

/-- The inputs that must not change when a run is resumed.  The settings are the texts that the
    document stores, so equal texts are equal settings; a setting that is NaN, which differs from
    itself after it was read back, is left out. -/
structure RunSignature where
  trainingOutput : Option String
  modelFamily : Option String
  baseModel : Option ModelSpec
  initialBaseEvaluation : Bool
  settings : List (String × String)
  saveRollouts : Bool
  ersr : Option ErsrConfig
deriving DecidableEq, Repr

/-- `_checkpoint_run_signature`. -/
def checkpointRunSignature (config : EvaluationConfig) : RunSignature where
  trainingOutput := config.trainingOutput
  modelFamily := config.modelFamily
  baseModel := config.baseModel
  initialBaseEvaluation := config.initialBaseEvaluation
  settings := config.settings
  saveRollouts := config.saveRollouts
  ersr := config.ersr

inductive RunStatus where
  | running
  | failed
  | completed
deriving DecidableEq, Repr

structure ResultDocument (B W E : Type) where
  runName : String
  checkpointRunSignature : RunSignature
  status : RunStatus
  phase : String
  startedAt : Nat
  resumedAt : Option Nat
  updatedAt : Option Nat
  completedAt : Option Nat
  error : Option PyError
  steps : List (StepResult B W E)
  initialBase : Option (EvaluationResult B W E)

namespace ResultDocument

/-- The document without the entries of a step. -/
def dropStep (document : ResultDocument B W E) (stepNum : Nat) : ResultDocument B W E :=
  { document with steps := Keyed.without (·.stepNum) stepNum document.steps }

/-- `document["steps"].append(result)` and the sort after it. -/
def appendStep (document : ResultDocument B W E) (step : StepResult B W E) :
    ResultDocument B W E :=
  { document with steps := Keyed.insert (·.stepNum) step document.steps }

/-- A change of the entry's dictionary, which the list of steps shares. -/
def replaceStep (document : ResultDocument B W E) (step : StepResult B W E) :
    ResultDocument B W E :=
  { document with steps := Keyed.replace (·.stepNum) step document.steps }

def setInitialBase (document : ResultDocument B W E)
    (result : Option (EvaluationResult B W E)) : ResultDocument B W E :=
  { document with initialBase := result }

def setPhase (document : ResultDocument B W E) (phase : String) : ResultDocument B W E :=
  { document with phase := phase }

/-- The step numbers of the completed entries. -/
def completedSteps (document : ResultDocument B W E) : List Nat :=
  (document.steps.filter (·.status = .completed)).map (·.stepNum)

/-- Every step number once, in ascending order. -/
def StepsAscending (document : ResultDocument B W E) : Prop :=
  Keyed.Ascending (·.stepNum) document.steps

/-- Every entry that is completed in the earlier document is the same in the later one. -/
structure KeepsCompleted (earlier later : ResultDocument B W E) : Prop where
  steps : ∀ step ∈ earlier.steps, step.status = .completed → step ∈ later.steps
  initialBase : ∀ result, earlier.initialBase = some result → result.status = .completed →
    later.initialBase = some result

end ResultDocument

/-! ### Loading -/

/-- What the result file holds, as far as the loader tells it apart. -/
inductive ResultFile (B W E : Type) where
  | unreadable (error : String)
  | notAnObject
  | stepsNotAList (signature : RunSignature)
  /-- A malformed entry follows these. -/
  | malformedEntry (signature : RunSignature) (before : List (StepResult B W E))
  | document (document : ResultDocument B W E)

def newCheckpointDocument (config : EvaluationConfig) (now : Nat) : ResultDocument B W E where
  runName := config.runName
  checkpointRunSignature := checkpointRunSignature config
  status := .running
  phase := "base"
  startedAt := now
  resumedAt := none
  updatedAt := none
  completedAt := none
  error := none
  steps := []
  initialBase := none

def checkSignature (config : EvaluationConfig) (signature : RunSignature) :
    Except PyError Unit :=
  raiseIf (signature ≠ checkpointRunSignature config) (valueError (
    "Refusing to resume because the evaluation configuration or model " ++
    "paths differ from the existing result file. Use a new run_name."))

/-- The loop over the stored entries, after the step numbers `seen`. -/
def checkStepEntries (seen : List Nat) : List (StepResult B W E) → Except PyError Unit
  | [] => .ok ()
  | step :: rest => do
      raiseIf (step.stepNum ∈ seen)
        (valueError "Cannot resume result file with duplicate checkpoint steps.")
      checkStepEntries (step.stepNum :: seen) rest

/-- A completed document is taken up only for exactly its checkpoints. -/
def checkCompleted (config : EvaluationConfig) (expectedSteps : List Nat)
    (document : ResultDocument B W E) : Except PyError Unit := do
  raiseIf (¬ (document.completedSteps ⊆ expectedSteps ∧
      expectedSteps ⊆ document.completedSteps)) (valueError (
    "The completed result file does not cover exactly the currently " ++
    "discovered checkpoints. Use a new run_name for a new checkpoint set."))
  raiseIf (config.initialBaseEvaluation = true ∧
      document.initialBase.map (·.status) ≠ some .completed) (valueError (
    "The completed result file is missing a completed initial_base " ++
    "evaluation. Use a new run_name for this configuration."))

def resumedDocument (document : ResultDocument B W E) (now : Nat) : ResultDocument B W E :=
  { document with
    error := none
    completedAt := none
    status := .running
    phase := "resuming"
    resumedAt := some now }

def takeUpDocument (config : EvaluationConfig) (expectedSteps : List Nat) (now : Nat) :
    ResultFile B W E → Except PyError (ResultDocument B W E)
  | .unreadable error => .error (valueError
      s!"Cannot resume unreadable result file {config.resultPath}: {error}")
  | .notAnObject => .error (valueError
      s!"Cannot resume malformed result file: {config.resultPath}")
  | .stepsNotAList signature => do
      checkSignature config signature
      .error (valueError "Cannot resume result file with a non-list steps field.")
  | .malformedEntry signature before => do
      checkSignature config signature
      checkStepEntries [] before
      .error (valueError "Cannot resume result file with malformed step entries.")
  | .document document => do
      checkSignature config document.checkpointRunSignature
      checkStepEntries [] document.steps
      if document.status = .completed then do
        checkCompleted config expectedSteps document
        return document
      else return resumedDocument document now

/-- `_load_checkpoint_document`: the document, and whether it was taken up. -/
def loadCheckpointDocument (config : EvaluationConfig) (resume : Bool)
    (expectedSteps : List Nat) (now : Nat) :
    Option (ResultFile B W E) → Except PyError (ResultDocument B W E × Bool)
  | none => .ok (newCheckpointDocument config now, false)
  | some file => do
      raiseIf (resume = false) ⟨.fileExistsError,
        s!"Result file already exists: {config.resultPath}; choose a new " ++
        "run_name or pass --resume for a per_checkpoint run."⟩
      let document ← takeUpDocument config expectedSteps now file
      return (document, true)

/-! ### What the operations keep -/

namespace ResultDocument

variable {document : ResultDocument B W E} {step : StepResult B W E} {stepNum : Nat}

theorem mem_completedSteps :
    stepNum ∈ document.completedSteps ↔
      ∃ step ∈ document.steps, step.status = .completed ∧ step.stepNum = stepNum := by
  simp only [completedSteps, List.mem_map, List.mem_filter, decide_eq_true_eq, and_assoc]

theorem KeepsCompleted.refl (document : ResultDocument B W E) :
    KeepsCompleted document document where
  steps := fun _ hstep _ => hstep
  initialBase := fun _ hresult _ => hresult

theorem KeepsCompleted.trans {first second third : ResultDocument B W E}
    (h : KeepsCompleted first second) (h' : KeepsCompleted second third) :
    KeepsCompleted first third where
  steps := fun step hstep hcompleted =>
    h'.steps step (h.steps step hstep hcompleted) hcompleted
  initialBase := fun result hresult hcompleted =>
    h'.initialBase result (h.initialBase result hresult hcompleted) hcompleted

theorem KeepsCompleted.completedSteps {earlier later : ResultDocument B W E}
    (h : KeepsCompleted earlier later) : earlier.completedSteps ⊆ later.completedSteps := by
  intro stepNum hstepNum
  obtain ⟨step, hstep, hcompleted, rfl⟩ := mem_completedSteps.mp hstepNum
  exact mem_completedSteps.mpr ⟨step, h.steps step hstep hcompleted, hcompleted, rfl⟩

/-- Dropping the entries of a step loses no finished work unless the step is completed. -/
theorem keepsCompleted_dropStep (h : stepNum ∉ document.completedSteps) :
    KeepsCompleted document (document.dropStep stepNum) where
  steps := by
    intro step hstep hcompleted
    apply Keyed.mem_without.mpr
    refine ⟨hstep, ?_⟩
    intro hstepNum
    exact h (mem_completedSteps.mpr ⟨step, hstep, hcompleted, hstepNum⟩)
  initialBase := fun _ hresult _ => hresult

theorem keepsCompleted_appendStep : KeepsCompleted document (document.appendStep step) where
  steps := fun _ hstep _ => Keyed.mem_insert.mpr (.inl hstep)
  initialBase := fun _ hresult _ => hresult

theorem keepsCompleted_replaceStep (h : step.stepNum ∉ document.completedSteps) :
    KeepsCompleted document (document.replaceStep step) where
  steps := by
    intro other hother hcompleted
    apply Keyed.mem_replace.mpr
    refine .inl ⟨hother, ?_⟩
    intro hstepNum
    exact h (mem_completedSteps.mpr ⟨other, hother, hcompleted, hstepNum⟩)
  initialBase := fun _ hresult _ => hresult

theorem keepsCompleted_setInitialBase {result : Option (EvaluationResult B W E)}
    (h : ∀ previous, document.initialBase = some previous → previous.status ≠ .completed) :
    KeepsCompleted document (document.setInitialBase result) where
  steps := fun _ hstep _ => hstep
  initialBase := fun previous hprevious hcompleted => absurd hcompleted (h previous hprevious)

end ResultDocument

/-! ### What the loader accepts -/

theorem checkStepEntries_eq_ok {steps : List (StepResult B W E)} :
    ∀ {seen : List Nat}, checkStepEntries seen steps = .ok () ↔
      (steps.map (·.stepNum)).Nodup ∧ ∀ step ∈ steps, step.stepNum ∉ seen := by
  induction steps with
  | nil => simp [checkStepEntries]
  | cons step rest ih =>
    intro seen
    rw [checkStepEntries, raiseIf_bind_eq_ok, ih, List.map_cons, List.nodup_cons,
      List.forall_mem_cons]
    constructor
    · rintro ⟨hnew, hnodup, hrest⟩
      refine ⟨⟨?_, hnodup⟩, hnew, fun other hother => ?_⟩
      · intro hmem
        obtain ⟨other, hother, hstepNum⟩ := List.mem_map.mp hmem
        exact hrest other hother (hstepNum ▸ List.mem_cons_self)
      · exact fun hseen => hrest other hother (List.mem_cons_of_mem _ hseen)
    · rintro ⟨⟨hdistinct, hnodup⟩, hnew, hrest⟩
      refine ⟨hnew, hnodup, fun other hother hmem => ?_⟩
      rcases List.mem_cons.mp hmem with hsame | hseen
      · exact hdistinct (hsame ▸ List.mem_map_of_mem hother)
      · exact hrest other hother hseen

end R2opl
