import Mathlib.Data.List.Basic
import Mathlib.Logic.Function.Basic
import Mathlib.Logic.Relation
import R2opl.Python

/-!
# Saving checkpoints

`_save_checkpoint` of `verl/trainer/main_ppo_sync.py` lets the ranks of the actor, and then those
of the critic, write their shards, and notes the step in the tracker file.  The managers of
`verl/utils/checkpoint` remove older checkpoints on the way.  All processes may be killed at any
time; the files remain, and the next process resumes from the step in the tracker.
-/

namespace R2opl

open Checked

/-! ### Files -/

inductive ShardKind where
  | model
  | optim
  | extraState
deriving DecidableEq

inductive Role where
  | actor
  | critic
deriving DecidableEq

/-- A file in the folder of a step.  The configurations that rank 0 writes count as one file. -/
inductive StepFile where
  | shard (role : Role) (rank : Nat) (kind : ShardKind)
  | metadata (role : Role)
  | dataloader
deriving DecidableEq

/-- `remove_previous_save_local_path` removes the directory of a role. -/
def StepFile.InDirectory (role : Role) : StepFile → Prop
  | .shard role' _ _ => role' = role
  | .metadata role' => role' = role
  | .dataloader => False

/-- What a call of `_save_checkpoint` wrote, all of it or not. -/
inductive Content where
  | whole (save : Nat)
  | partially
deriving DecidableEq

/-- `latest_checkpointed_iteration.txt` -/
inductive Tracker where
  | absent
  | empty
  | at (globalSteps : Nat)
deriving DecidableEq

structure Disk where
  folders : List Nat
  files : Nat → StepFile → Option Content
  tracker : Tracker

def Disk.put (disk : Disk) (step : Nat) (file : StepFile) (content : Option Content) : Disk where
  folders := disk.folders
  files := Function.update disk.files step (Function.update (disk.files step) file content)
  tracker := disk.tracker

/-! ### Retention -/

/-- `ensure_checkpoint_capacity`: what is removed, and what is kept. -/
def ensureCheckpointCapacity (maxCkptToKeep : Option Nat) (previousSavedPaths : List Nat) :
    List Nat × List Nat :=
  match maxCkptToKeep with
  | none => ([], previousSavedPaths)
  | some keep =>
      if 1 < keep ∧ keep ≤ previousSavedPaths.length then
        previousSavedPaths.splitAt (previousSavedPaths.length - keep + 1)
      else ([], previousSavedPaths)

/-- `register_checkpoint` -/
def registerCheckpoint (maxCkptToKeep : Option Nat) (previousSavedPaths : List Nat)
    (newPath : Nat) : List Nat × List Nat :=
  let paths := previousSavedPaths ++ [newPath]
  match maxCkptToKeep with
  | none => ([], paths)
  | some keep =>
      if 0 < keep ∧ keep < paths.length then paths.splitAt (paths.length - keep) else ([], paths)

/-! ### Loading -/

structure CheckpointOptions where
  worldSize : Nat
  worldSize_pos : 0 < worldSize
  /-- `checkpoint_save_contents`, and what is loaded. -/
  contents : List ShardKind
  useCritic : Bool
  maxCkptToKeep : Role → Option Nat

def CheckpointOptions.roles (options : CheckpointOptions) : List Role :=
  if options.useCritic then [.actor, .critic] else [.actor]

def ShardKind.text : ShardKind → String
  | .model => "model"
  | .optim => "optim"
  | .extraState => "extra_state"

def Role.text : Role → String
  | .actor => "actor"
  | .critic => "critic"

/-- `torch.load` -/
def torchLoad (path : String) : Option Content → Except PyError Nat
  | none => .error ⟨.fileNotFoundError, s!"[Errno 2] No such file or directory: '{path}'"⟩
  | some .partially => .error (runtimeError
      "PytorchStreamReader failed reading zip archive: failed finding central directory")
  | some (.whole save) => .ok save

def shardPath (options : CheckpointOptions) (folder : String) (role : Role) (rank : Nat)
    (kind : ShardKind) : String :=
  s!"{folder}/{role.text}/{kind.text}_world_size_{options.worldSize}_rank_{rank}.pt"

/-- What the ranks load, each its own. -/
def shardFiles (options : CheckpointOptions) : List (Role × Nat × ShardKind) :=
  options.roles.flatMap fun role => (List.range options.worldSize).flatMap fun rank =>
    options.contents.map fun kind => (role, rank, kind)

/-- `_load_checkpoint` with `resume_mode=auto`: the step to go on from. -/
def loadCheckpoint (options : CheckpointOptions) (defaultLocalDir : String) (disk : Disk) :
    Except PyError Nat :=
  match disk.tracker with
  | .absent => .ok 0
  | .empty => .error (valueError "invalid literal for int() with base 10: ''")
  | .at globalSteps =>
      if globalSteps ∉ disk.folders then .ok 0
      else do
        let folder := s!"{defaultLocalDir}/global_step_{globalSteps}"
        (shardFiles options).forM fun shard => do
          let _ ← torchLoad (shardPath options folder shard.1 shard.2.1 shard.2.2)
            (disk.files globalSteps (.shard shard.1 shard.2.1 shard.2.2))
        if (disk.files globalSteps .dataloader).isSome then
          let _ ← torchLoad s!"{folder}/data.pt" (disk.files globalSteps .dataloader)
        return globalSteps

/-! ### The processes -/

/-- A call of `_save_checkpoint`. -/
structure Save where
  step : Nat
  number : Nat

/-- What the processes are about; `progress` counts the files that a rank has written. -/
inductive SavePhase where
  | down
  | training (globalSteps : Nat)
  | making (save : Save) (role : Role) (doomed : List Nat)
  | writing (save : Save) (role : Role) (progress : Nat → Nat)
  | retiring (save : Save) (role : Role) (doomed : List Nat)
  | finishing (save : Save)
  | dumping (save : Save)
  | noting (save : Save)
  | opened (save : Save)

structure Training where
  disk : Disk
  /-- `previous_saved_paths` of rank 0, by their steps. -/
  previousSavedPaths : Role → List Nat
  phase : SavePhase
  saves : Nat

def Training.initial : Training where
  disk := ⟨[], fun _ _ => none, .absent⟩
  previousSavedPaths := fun _ => []
  phase := .down
  saves := 0

/-- The ranks of a role enter `save_checkpoint`, where rank 0 makes room first. -/
def Training.enter (options : CheckpointOptions) (training : Training) (save : Save)
    (role : Role) : Training :=
  let parts := ensureCheckpointCapacity (options.maxCkptToKeep role)
    (training.previousSavedPaths role)
  { training with
    previousSavedPaths := Function.update training.previousSavedPaths role parts.2
    phase := .making save role parts.1 }

/-- All ranks have written. -/
def Training.register (options : CheckpointOptions) (training : Training) (save : Save)
    (role : Role) : Training :=
  let parts := registerCheckpoint (options.maxCkptToKeep role)
    (training.previousSavedPaths role) save.step
  { training with
    previousSavedPaths := Function.update training.previousSavedPaths role parts.2
    phase := .retiring save role parts.1 }

/-- The ranks of a role have returned. -/
def Training.leave (options : CheckpointOptions) (training : Training) (save : Save) :
    Role → Training
  | .actor =>
      if options.useCritic then training.enter options save .critic
      else { training with phase := .finishing save }
  | .critic => { training with phase := .finishing save }

def Training.put (training : Training) (step : Nat) (file : StepFile)
    (content : Option Content) : Training :=
  { training with disk := training.disk.put step file content }

/-- A file is written on the way. -/
def Training.wrote (training : Training) (step : Nat) (file : StepFile) (content : Content)
    (phase : SavePhase) : Training :=
  { training.put step file (some content) with phase := phase }

variable (options : CheckpointOptions) (defaultLocalDir : String)

/-- What a rank writes before the second barrier; rank 0 opens and closes its configurations. -/
def CheckpointOptions.filesOf (rank : Nat) : Nat :=
  if rank = 0 then options.contents.length + 2 else options.contents.length

/-- What can happen next. -/
inductive SaveStep : Training → Training → Prop where
  | save {t : Training} (globalSteps step : Nat) (hphase : t.phase = .training globalSteps)
      (hlater : globalSteps < step) :
      SaveStep t (Training.enter options { t with saves := t.saves + 1 } ⟨step, t.saves⟩ .actor)
  /-- `shutil.rmtree` removes the files one by one, and ignores errors. -/
  | discard {t : Training} (save : Save) (role : Role) (doomed : List Nat) (old : Nat)
      (file : StepFile)
      (hphase : t.phase = .making save role doomed ∨ t.phase = .retiring save role doomed)
      (hold : old ∈ doomed) (hfile : file.InDirectory role) :
      SaveStep t (t.put old file none)
  | made {t : Training} (save : Save) (role : Role) (doomed : List Nat)
      (hphase : t.phase = .making save role doomed) :
      SaveStep t { t with
        disk := { t.disk with folders := save.step :: t.disk.folders }
        phase := .writing save role fun _ => 0 }
  /-- A rank writes its next shard, with `os.replace`. -/
  | write {t : Training} (save : Save) (role : Role) (progress : Nat → Nat) (rank : Nat)
      (kind : ShardKind) (hphase : t.phase = .writing save role progress)
      (hrank : rank < options.worldSize) (hkind : options.contents[progress rank]? = some kind) :
      SaveStep t (t.wrote save.step (.shard role rank kind) (.whole save.number)
        (.writing save role (Function.update progress rank (progress rank + 1))))
  | openMetadata {t : Training} (save : Save) (role : Role) (progress : Nat → Nat)
      (hphase : t.phase = .writing save role progress)
      (hprogress : progress 0 = options.contents.length) :
      SaveStep t (t.wrote save.step (.metadata role) .partially
        (.writing save role (Function.update progress 0 (options.contents.length + 1))))
  | closeMetadata {t : Training} (save : Save) (role : Role) (progress : Nat → Nat)
      (hphase : t.phase = .writing save role progress)
      (hprogress : progress 0 = options.contents.length + 1) :
      SaveStep t (t.wrote save.step (.metadata role) (.whole save.number)
        (.writing save role (Function.update progress 0 (options.contents.length + 2))))
  | register {t : Training} (save : Save) (role : Role) (progress : Nat → Nat)
      (hphase : t.phase = .writing save role progress)
      (hall : ∀ rank < options.worldSize, progress rank = options.filesOf rank) :
      SaveStep t (t.register options save role)
  | leave {t : Training} (save : Save) (role : Role) (doomed : List Nat)
      (hphase : t.phase = .retiring save role doomed) : SaveStep t (t.leave options save role)
  | openDataloader {t : Training} (save : Save) (hphase : t.phase = .finishing save) :
      SaveStep t (t.wrote save.step .dataloader .partially (.dumping save))
  | closeDataloader {t : Training} (save : Save) (hphase : t.phase = .dumping save) :
      SaveStep t (t.wrote save.step .dataloader (.whole save.number) (.noting save))
  /-- The tracker is opened for writing, which empties it. -/
  | openTracker {t : Training} (save : Save) (hphase : t.phase = .noting save) :
      SaveStep t { t with
        disk := { t.disk with tracker := .empty }
        phase := .opened save }
  | closeTracker {t : Training} (save : Save) (hphase : t.phase = .opened save) :
      SaveStep t { t with
        disk := { t.disk with tracker := .at save.step }
        phase := .training save.step }
  | kill {t : Training} :
      SaveStep t { t with
        previousSavedPaths := fun _ => []
        phase := .down }
  | restart {t : Training} (globalSteps : Nat) (hphase : t.phase = .down)
      (hload : loadCheckpoint options defaultLocalDir t.disk = .ok globalSteps) :
      SaveStep t { t with phase := .training globalSteps }

/-- What can come of a training run, with all its restarts. -/
def TrainingReachable (t : Training) : Prop :=
  Relation.ReflTransGen (SaveStep options defaultLocalDir) .initial t

end R2opl
