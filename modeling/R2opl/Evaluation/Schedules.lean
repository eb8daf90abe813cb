import R2opl.Evaluation.Runtime

/-!
# The evaluation schedules

`_run_initial_base_evaluation`, the two checkpoint schedules and `evaluate_checkpoints`
(`utils/ersr_evaluation.py`), with the checkpoint path of `main` above them.
-/

namespace R2opl

open Checked

variable {B R W E : Type} (backend : Backend B R W E) (config : EvaluationConfig)

/-- The ERSR phases of one result, whose dictionary `store` puts into the document. -/
def runErsrPhases (phase : String) (model : ModelSpec) (records : R)
    (result : EvaluationResult B W E)
    (store : EvaluationResult B W E → ResultDocument B W E → ResultDocument B W E) :
    Program (Session B R W E) Stop (EvaluationResult B W E) :=
  match config.ersr with
  | none => return result
  | some _ => do
    let work ← external fun tick => backend.prepareErsr tick config model records
    modifyDocument (·.setPhase s!"{phase}:teacher")
    atomicWriteJson backend
    let works ← external fun tick => backend.generateErsrReplacements tick config [work]
    modifyDocument fun document =>
      (store { result with ersr := .teacherCompleted (works 0) } document).setPhase
        s!"{phase}:student"
    atomicWriteJson backend
    let ersr ← external fun tick => backend.evaluateErsrStudent tick config (works 0)
    return { result with ersr := .evaluated ersr }

/-- What follows the base phase of one result: ERSR, and the completed entry. -/
def finishResult (phase : String) (model : ModelSpec) (records : R)
    (result : EvaluationResult B W E)
    (store : EvaluationResult B W E → ResultDocument B W E → ResultDocument B W E) :
    Program (Session B R W E) Stop Unit := do
  let result ← runErsrPhases backend config phase model records result store
  let now ← utcNow
  modifyDocument (store { result with status := .completed, completedAt := some now })
  atomicWriteJson backend

/-! ### The initial base model -/

def storeInitialBase (result : EvaluationResult B W E) (document : ResultDocument B W E) :
    ResultDocument B W E :=
  document.setInitialBase (some result)

def evaluateInitialBase (baseModel : ModelSpec) : Program (Session B R W E) Stop Unit := do
  modifyDocument fun document =>
    (document.setInitialBase none).setPhase "initial_base:base"
  atomicWriteJson backend
  let (result, records) ← evaluateBaseModel backend config .initialBase baseModel
  let result := annotateInitialBaseResult result baseModel
  modifyDocument (storeInitialBase result)
  atomicWriteJson backend
  finishResult backend config "initial_base" baseModel records result storeInitialBase

/-- `_run_initial_base_evaluation`. -/
def runInitialBaseEvaluation : Program (Session B R W E) Stop Unit := do
  let session ← get
  match config.initialBaseEvaluation, config.baseModel with
  | false, _ => return ()
  | true, none => throw (.raised (runtimeError
      "initial_base_evaluation was requested without a configured base_model."))
  | true, some baseModel =>
      if session.document.initialBase.map (·.status) = some .completed then return ()
      else evaluateInitialBase backend config baseModel

/-! ### One checkpoint after the other -/

def storeStep (stepNum : Nat) (result : EvaluationResult B W E)
    (document : ResultDocument B W E) : ResultDocument B W E :=
  document.replaceStep { result with stepNum }

/-- The part of a checkpoint's evaluation that needs its model on disk. -/
def evaluatePreparedCheckpoint (checkpoint : CheckpointSpec) (modelDir : String) :
    Program (Session B R W E) Stop Unit := do
  let model ← resolveCheckpointModel backend config checkpoint modelDir
  let (result, records) ← evaluateBaseModel backend config (.checkpoint checkpoint.stepNum) model
  let step := annotateCheckpointResult result checkpoint
  modifyDocument (·.appendStep step)
  atomicWriteJson backend
  finishResult backend config s!"global_step_{checkpoint.stepNum}" model records
    step.toEvaluationResult (storeStep checkpoint.stepNum)

/-- One round of the loop, after the test for completed steps. -/
def evaluateCheckpoint (checkpoint : CheckpointSpec) : Program (Session B R W E) Stop Unit := do
  modifyDocument fun document => (document.dropStep checkpoint.stepNum).setPhase
    s!"global_step_{checkpoint.stepNum}:base"
  atomicWriteJson backend
  withPreparedModel backend config checkpoint
    (evaluatePreparedCheckpoint backend config checkpoint)

/-- `_run_checkpoint_per_checkpoint`. -/
def runCheckpointPerCheckpoint (checkpoints : List CheckpointSpec) :
    Program (Session B R W E) Stop Unit := do
  runInitialBaseEvaluation backend config
  let session ← get
  let completedSteps := session.document.completedSteps
  checkpoints.forM fun checkpoint =>
    if checkpoint.stepNum ∈ completedSteps then return ()
    else evaluateCheckpoint backend config checkpoint

/-! ### One teacher pass over all checkpoints -/

/-- A checkpoint whose model is kept for its student phase. -/
structure SharedWork (B W E : Type) where
  checkpoint : CheckpointSpec
  model : PreparedModel
  work : W
  result : EvaluationResult B W E

/-- `ExitStack.enter_context` on a prepared model. -/
def enterOnStack (checkpoint : CheckpointSpec) : Program (Session B R W E) Stop PreparedModel := do
  let model ← enterPreparedModel backend config checkpoint
  modify fun session => { session with opened := model.temporaryRoot.toList ++ session.opened }
  return model

/-- `cleanup.close()`. -/
def closeOnStack (model : PreparedModel) : Program (Session B R W E) Stop Unit := do
  modify fun session => { session with
    opened := session.opened.filter fun root => some root ≠ model.temporaryRoot }
  leavePreparedModel backend model none

/-- The exits of the contexts left on the stack, the last entered first; an exit that
    raises replaces the exception that propagates. -/
def closeAll : List Nat → Option PyError → Program (Session B R W E) Stop (Option PyError)
  | [], propagating => return propagating
  | root :: rest, propagating => do
      let propagating ← tryCatch (do
          removeMergedModel backend root propagating
          return propagating) fun
        | .killed => throw .killed
        | .raised error => return some error
      closeAll rest propagating

/-- `with ExitStack() as merged_models`. -/
def withExitStack (body : Program (Session B R W E) Stop Unit) :
    Program (Session B R W E) Stop Unit := do
  let propagating ← tryCatch (do
      body
      return none) fun
    | .killed => throw .killed
    | .raised error => return some error
  let session ← get
  modify fun session => { session with opened := [] }
  match ← closeAll backend session.opened propagating with
  | none => return ()
  | some error => throw (.raised error)

/-- The base phase of a checkpoint in the shared schedule. -/
def evaluateSharedBase (checkpoint : CheckpointSpec) :
    Program (Session B R W E) Stop (SharedWork B W E) := do
  let prepared ← enterOnStack backend config checkpoint
  let model ← resolveCheckpointModel backend config checkpoint prepared.path
  let (result, records) ← evaluateBaseModel backend config (.checkpoint checkpoint.stepNum) model
  let step := annotateCheckpointResult result checkpoint
  modifyDocument (·.appendStep step)
  atomicWriteJson backend
  let work ← external fun tick => backend.prepareErsr tick config model records
  return ⟨checkpoint, prepared, work, step.toEvaluationResult⟩

/-- The student phase of a checkpoint in the shared schedule. -/
def evaluateSharedStudent (shared : SharedWork B W E) : Program (Session B R W E) Stop Unit := do
  let ersr ← external fun tick => backend.evaluateErsrStudent tick config shared.work
  let now ← utcNow
  modifyDocument (storeStep shared.checkpoint.stepNum { shared.result with
    ersr := .evaluated ersr
    status := .completed
    completedAt := some now })
  atomicWriteJson backend
  closeOnStack backend shared.model

def runSharedPhases (checkpoints : List CheckpointSpec) :
    Program (Session B R W E) Stop Unit := do
  let bases ← checkpoints.mapM (evaluateSharedBase backend config)
  modifyDocument (·.setPhase "teacher")
  atomicWriteJson backend
  let works ← external fun tick =>
    backend.generateErsrReplacements tick config (bases.map SharedWork.work)
  let shared := bases.mapIdx fun i base => { base with work := works i }
  shared.forM fun base => modifyDocument (storeStep base.checkpoint.stepNum
    { base.result with ersr := .teacherCompleted base.work })
  modifyDocument (·.setPhase "student")
  atomicWriteJson backend
  shared.forM (evaluateSharedStudent backend config)

/-- `_run_checkpoint_shared_teacher`. -/
def runCheckpointSharedTeacher (checkpoints : List CheckpointSpec) :
    Program (Session B R W E) Stop Unit := do
  runInitialBaseEvaluation backend config
  withExitStack backend (runSharedPhases backend config checkpoints)

/-! ### The driver -/

def EvaluationConfig.usesSharedTeacher (config : EvaluationConfig) : Bool :=
  config.ersr.any fun ersr => ersr.checkpointSchedule = .sharedTeacher

def runSchedule (checkpoints : List CheckpointSpec) : Program (Session B R W E) Stop Unit :=
  if config.usesSharedTeacher then runCheckpointSharedTeacher backend config checkpoints
  else runCheckpointPerCheckpoint backend config checkpoints

/-- `evaluate_checkpoints` from the first write of the document. -/
def runDocument (checkpoints : List CheckpointSpec) : Program (Session B R W E) Stop Unit := do
  atomicWriteJson backend
  onRaise (runSchedule backend config checkpoints) fun error => do
    let now ← utcNow
    modifyDocument fun document =>
      { document with status := .failed, error := some error, updatedAt := some now }
    atomicWriteJson backend
  let now ← utcNow
  modifyDocument fun document =>
    { document with status := .completed, phase := "completed", completedAt := some now }
  atomicWriteJson backend

/-- `open` on the result file, which can fail. -/
def readResultFile (world : World B R W E) : Option (ResultFile B W E) :=
  world.resultFile.map fun file => (backend.readError world.clock).elim file .unreadable

/-- `evaluate_checkpoints` up to its document. -/
def startDocument (checkpoints : List CheckpointSpec) (resume : Bool) (world : World B R W E) :
    Except PyError (ResultDocument B W E) := do
  raiseIf (config.usesSharedTeacher = true ∧ resume = true) (valueError (
    "--resume is only supported by ersr.checkpoint_schedule=per_checkpoint; " ++
    "shared_teacher retains cross-checkpoint in-memory work."))
  raiseIf (resume = true ∧ world.resultFile.isNone = true) ⟨.fileNotFoundError,
    s!"--resume requires an existing result file: {config.resultPath}"⟩
  let (document, resumed) ← loadCheckpointDocument config resume
    (checkpoints.map CheckpointSpec.stepNum) world.clock (readResultFile backend world)
  raiseIf (config.usesSharedTeacher = true ∧ resumed = true) (valueError
    "shared_teacher checkpoint evaluation cannot resume; use a new run_name.")
  return document

def evaluateCheckpoints (checkpoints : List CheckpointSpec) (resume : Bool) :
    Program (World B R W E) Stop Unit := do
  let world ← get
  modify fun world => { world with clock := world.clock + 1 }
  match startDocument backend config checkpoints resume world with
  | .error error => throw (.raised error)
  | .ok document =>
    if document.status = .completed then return ()
    else
      Program.within (fun world => ⟨world, document, []⟩) Session.toWorld
        (runDocument backend config checkpoints)

/-- A command line, with what the training output holds when it runs. -/
structure Invocation where
  config : EvaluationConfig
  children : List DirectoryEntry
  resume : Bool

/-- The checkpoint path of `main`. -/
def Invocation.main (invocation : Invocation) : Program (World B R W E) Stop Unit := do
  match discoverCheckpoints invocation.config invocation.children with
  | .error error => throw (.raised error)
  | .ok checkpoints =>
    let world ← get
    modify fun world => { world with clock := world.clock + 1 }
    match backend.validate world.clock with
    | some stop => throw stop
    | none => evaluateCheckpoints backend invocation.config checkpoints invocation.resume

end R2opl
