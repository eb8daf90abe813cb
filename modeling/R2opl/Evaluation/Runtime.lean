import R2opl.Evaluation.Document
import R2opl.Lib.Program

/-!
# The evaluation process

What an evaluation process does to the world around it (`utils/ersr_evaluation.py`):
`atomic_write_json` on the result file, the model evaluations, and `prepare_model`,
which merges FSDP shards into a temporary directory.  The world outlives the process.
Everything outside decides by the number of the interaction, so that a failure or a kill
can fall on any of them.
-/

namespace R2opl

open Checked

/-- How a process stops: an exception, or a kill that no handler sees. -/
inductive Stop where
  | raised (error : PyError)
  | killed
deriving DecidableEq, Repr

/-! ### Outside the process -/

/-- The outcome of an atomic write: the file may be replaced before the process stops. -/
inductive WriteOutcome where
  | replaced (stop : Option Stop)
  | failed (stop : Stop)
deriving DecidableEq, Repr

/-- The outcome of `shutil.rmtree`. -/
inductive RemoveOutcome where
  | removed
  | osError (error : PyError)
  | stopped (stop : Stop)
deriving DecidableEq, Repr

/-- The outside of the process.  A base evaluation returns its summary and its rollout
    records; the ERSR phases work on what `prepare_ersr` selects from these records. -/
structure Backend (B R W E : Type) where
  write : Nat → WriteOutcome
  readError : Nat → Option String
  validate : Nat → Option Stop
  makeDirectory : Nat → Option Stop
  merge : Nat → CheckpointSpec → Option Stop
  removeDirectory : Nat → RemoveOutcome
  resolveModelFamily : Nat → String → Except Stop String
  evaluateBase : Nat → EvaluationConfig → ModelSpec → Except Stop (B × R)
  prepareErsr : Nat → EvaluationConfig → ModelSpec → R → Except Stop W
  /-- The works after the teacher has filled in its replacements, by their index. -/
  generateErsrReplacements : Nat → EvaluationConfig → List W → Except Stop (Nat → W)
  evaluateErsrStudent : Nat → EvaluationConfig → W → Except Stop E

inductive EvaluationTarget where
  | initialBase
  | checkpoint (stepNum : Nat)
deriving DecidableEq, Repr

/-- A base evaluation that a process has finished. -/
structure BaseEvaluation (B R : Type) where
  target : EvaluationTarget
  datasets : B
  records : R
deriving DecidableEq, Repr

/-- A removal of a merged model directory: whether it failed, the exception propagating
    around it, and the one it raised itself. -/
structure Removal where
  temporaryRoot : Nat
  failed : Bool
  propagating : Option PyError
  raised : Option PyError
deriving DecidableEq, Repr

/-- What outlives a process: the result file and the merged model directories, with the
    documents persisted, the base evaluations finished and the removals tried so far. -/
structure World (B R W E : Type) where
  clock : Nat
  resultFile : Option (ResultFile B W E)
  directories : List Nat
  history : List (ResultDocument B W E)
  evaluations : List (BaseEvaluation B R)
  removals : List Removal

/-- Before the first run. -/
def World.initial (B R W E : Type) : World B R W E where
  clock := 0
  resultFile := none
  directories := []
  history := []
  evaluations := []
  removals := []

/-- A running evaluation, with the document in its memory and the merged models whose
    contexts an exit stack holds, the last entered first. -/
structure Session (B R W E : Type) extends World B R W E where
  document : ResultDocument B W E
  opened : List Nat

section Process

variable {B R W E α : Type}

/-! ### Interactions -/

def external (outcome : Nat → Except Stop α) : Program (Session B R W E) Stop α :=
  fun session =>
    let next := { session with clock := session.clock + 1 }
    match outcome session.clock with
    | .ok a => .ok a next
    | .error stop => .error stop next

def orStop : Option Stop → Except Stop Unit
  | none => .ok ()
  | some stop => .error stop

/-- `utc_now`. -/
def utcNow : Program (Session B R W E) Stop Nat := do
  let session ← get
  return session.clock

def modifyDocument (change : ResultDocument B W E → ResultDocument B W E) :
    Program (Session B R W E) Stop Unit :=
  modify fun session => { session with document := change session.document }

variable (backend : Backend B R W E)

/-- `atomic_write_json(config.result_path, document)`. -/
def atomicWriteJson : Program (Session B R W E) Stop Unit := fun session =>
  let next := { session with clock := session.clock + 1 }
  let written := { next with
    resultFile := some (.document session.document)
    history := session.history ++ [session.document] }
  match backend.write session.clock with
  | .replaced none => .ok () written
  | .replaced (some stop) => .error stop written
  | .failed stop => .error stop next

/-- `_evaluate_base_model`. -/
def evaluateBaseModel (config : EvaluationConfig) (target : EvaluationTarget)
    (model : ModelSpec) : Program (Session B R W E) Stop (EvaluationResult B W E × R) := do
  let (datasets, records) ← external fun tick => backend.evaluateBase tick config model
  modify fun session =>
    { session with evaluations := session.evaluations ++ [⟨target, datasets, records⟩] }
  let now ← utcNow
  let result : EvaluationResult B W E := {
    modelName := model.name
    modelPath := model.path
    modelFamily := model.family
    tokenizerPath := model.tokenizerPath.getD model.path
    chatTemplatePath := model.chatTemplatePath
    baseCompletedAt := now
    status := .baseCompleted
    datasets
    ersr := .notEvaluated
    provenance := none
    completedAt := none }
  return (result, records)

/-- `_resolve_checkpoint_model`. -/
def resolveCheckpointModel (config : EvaluationConfig) (checkpoint : CheckpointSpec)
    (modelDir : String) : Program (Session B R W E) Stop ModelSpec := do
  let name := s!"global_step_{checkpoint.stepNum}"
  match config.baseModel with
  | some baseModel => return {
      name
      path := modelDir
      family := baseModel.family
      chatTemplatePath := baseModel.chatTemplatePath
      tokenizerPath := some baseModel.path }
  | none =>
    let family ← external fun tick =>
      (config.modelFamily.filter (· ≠ "")).elim (backend.resolveModelFamily tick modelDir) .ok
    return { name, path := modelDir, family, chatTemplatePath := none, tokenizerPath := none }

/-! ### Merged models -/

/-- `sys.exc_info()[1]`, given the exceptions being handled, the innermost first. -/
def sysExcInfo (handled : List PyError) : Option PyError := handled.head?

/-- The `finally` clause of `prepare_model`, with the exception that propagates through it;
    inside its `except` clause the clean-up error is the innermost one. -/
def removeMergedModel (temporaryRoot : Nat) (propagating : Option PyError) :
    Program (Session B R W E) Stop Unit := fun session =>
  let next := { session with clock := session.clock + 1 }
  let tried (failed : Bool) (raised : Option PyError) : Session B R W E := { next with
    removals := session.removals ++ [⟨temporaryRoot, failed, propagating, raised⟩] }
  match backend.removeDirectory session.clock with
  | .removed =>
      let done := tried false none
      .ok () { done with directories := session.directories.filter (· ≠ temporaryRoot) }
  | .osError cleanupError =>
      if sysExcInfo (cleanupError :: propagating.toList) = none then
        let error := runtimeError
          s!"Could not remove merged checkpoint directory: {temporaryRoot}"
        .error (.raised error) (tried true (some error))
      else .ok () (tried true none)
  | .stopped stop => .error stop next

/-- `tempfile.mkdtemp`. -/
def makeTemporaryRoot : Program (Session B R W E) Stop Nat := do
  let root ← utcNow
  external fun tick => orStop (backend.makeDirectory tick)
  modify fun session => { session with directories := session.directories ++ [root] }
  return root

/-- The merge of the shards, with base-model metadata when they have none. -/
def mergeCheckpoint (config : EvaluationConfig) (checkpoint : CheckpointSpec) :
    Program (Session B R W E) Stop Unit :=
  if checkpoint.usesBaseModelMetadata = true ∧ config.baseModel = none then
    throw (.raised (runtimeError
      "Checkpoint requires base-model metadata but no base_model is configured."))
  else external fun tick => orStop (backend.merge tick checkpoint)

/-- What runs when an exception leaves a block; a kill runs nothing. -/
def onRaise (body : Program (Session B R W E) Stop α)
    (cleanup : PyError → Program (Session B R W E) Stop Unit) :
    Program (Session B R W E) Stop α :=
  tryCatch body fun
    | .killed => throw .killed
    | .raised error => do
        cleanup error
        throw (.raised error)

/-- A loadable model directory, and its temporary root when it was merged. -/
structure PreparedModel where
  path : String
  temporaryRoot : Option Nat
deriving DecidableEq, Repr

/-- `prepare_model` up to its `yield`. -/
def enterPreparedModel (config : EvaluationConfig) (checkpoint : CheckpointSpec) :
    Program (Session B R W E) Stop PreparedModel :=
  match checkpoint.modelDir, checkpoint.sourceKind, config.trainingOutput with
  | some modelDir, _, _ => return ⟨modelDir, none⟩
  | none, .huggingface, _ =>
      throw (.raised (valueError "Unsupported checkpoint source: huggingface"))
  | none, .fsdp, none =>
      throw (.raised (valueError "FSDP checkpoint merging requires training_output."))
  | none, .fsdp, some trainingOutput => do
      let root ← makeTemporaryRoot backend
      onRaise (mergeCheckpoint backend config checkpoint) fun error =>
        removeMergedModel backend root (some error)
      return ⟨s!"{trainingOutput}/.eval_merged_global_step_{checkpoint.stepNum}.{root}/model",
        some root⟩

/-- `prepare_model` after its `yield`. -/
def leavePreparedModel (model : PreparedModel) (propagating : Option PyError) :
    Program (Session B R W E) Stop Unit :=
  match model.temporaryRoot with
  | none => return ()
  | some root => removeMergedModel backend root propagating

/-- `with prepare_model(config, checkpoint) as model_dir`. -/
def withPreparedModel (config : EvaluationConfig) (checkpoint : CheckpointSpec)
    (body : String → Program (Session B R W E) Stop α) :
    Program (Session B R W E) Stop α := do
  let model ← enterPreparedModel backend config checkpoint
  let result ← onRaise (body model.path) fun error =>
    leavePreparedModel backend model (some error)
  leavePreparedModel backend model none
  return result

end Process

end R2opl
