import R2opl.Python
import R2opl.Unicode
import R2opl.Lib.Keyed

/-!
# Checkpoint discovery

`discover_checkpoints` (`utils/ersr_evaluation.py`) reads the checkpoint directories of
a training run and returns them in the order of their step numbers.
-/

namespace R2opl

open Checked

/-! ### The evaluation configuration -/

structure ModelSpec where
  name : String
  path : String
  family : String
  chatTemplatePath : Option String
  tokenizerPath : Option String
deriving DecidableEq, Repr

inductive CheckpointSchedule where
  | perCheckpoint
  | sharedTeacher
deriving DecidableEq, Repr

/-- The ERSR part of a configuration; `settings` holds the texts of its other fields. -/
structure ErsrConfig where
  checkpointSchedule : CheckpointSchedule
  settings : List (String × String)
deriving DecidableEq, Repr

/-- The evaluation configuration; `settings` holds the texts of the fields that only the
    stored metadata read. -/
structure EvaluationConfig where
  sourceType : String
  trainingOutput : Option String
  runName : String
  resultPath : String
  saveRollouts : Bool
  ersr : Option ErsrConfig
  baseModel : Option ModelSpec
  modelFamily : Option String
  initialBaseEvaluation : Bool
  settings : List (String × String)
deriving DecidableEq, Repr

/-! ### Directory names -/

/-- `CHECKPOINT_PATTERN.fullmatch(name)`, with the step number read from its group. -/
def checkpointStep (name : PyStr) : Option Nat :=
  let start := "global_step_".toList
  if start.isPrefixOf name ∧ name.drop start.length ≠ [] then
    ((name.drop start.length).mapM decimalValue).map decimalNumber
  else none

/-! ### Discovery -/

/-- A child of the training output, with what its files say about the model in it. -/
structure DirectoryEntry where
  name : PyStr
  path : String
  resolved : String
  isDirectory : Bool
  /-- `_choose_hf_model` on the resolved directory. -/
  chooseHfModel : Except PyError (Option String)
  /-- `_choose_fsdp_source` on the resolved directory. -/
  chooseFsdpSource : Option ModelSpec → Except PyError String
  hasFsdpHuggingfaceMetadata : Bool

inductive SourceKind where
  | huggingface
  | fsdp
deriving DecidableEq, Repr

structure CheckpointSpec where
  stepNum : Nat
  checkpointDir : String
  sourceKind : SourceKind
  sourceDir : String
  tokenizerDir : String
  metadataDir : Option String
  modelDir : Option String
  usesBaseModelMetadata : Bool
deriving DecidableEq, Repr

/-- The loop over the children; `found` is the dictionary of the steps so far. -/
def collectSteps (found : List (Nat × DirectoryEntry)) :
    List DirectoryEntry → Except PyError (List (Nat × DirectoryEntry))
  | [] => .ok found
  | child :: rest =>
      match checkpointStep child.name, child.isDirectory with
      | some stepNum, true =>
          match found.lookup stepNum with
          | some first => .error (valueError
              s!"Duplicate checkpoint step {stepNum}: {first.resolved} and {child.path}")
          | none => collectSteps (found ++ [(stepNum, child)]) rest
      | _, _ => collectSteps found rest

def checkpointSpec (config : EvaluationConfig) (step : Nat × DirectoryEntry) :
    Except PyError CheckpointSpec := do
  let (stepNum, directory) := step
  match ← directory.chooseHfModel with
  | some hfModel => return {
      stepNum
      checkpointDir := directory.resolved
      sourceKind := .huggingface
      sourceDir := hfModel
      tokenizerDir := config.baseModel.elim hfModel ModelSpec.path
      metadataDir := some hfModel
      modelDir := some hfModel
      usesBaseModelMetadata := false }
  | none =>
    let fsdpSource ← directory.chooseFsdpSource config.baseModel
    let metadataDir := fsdpSource ++ "/huggingface"
    return {
      stepNum
      checkpointDir := directory.resolved
      sourceKind := .fsdp
      sourceDir := fsdpSource
      tokenizerDir := config.baseModel.elim metadataDir ModelSpec.path
      metadataDir := if directory.hasFsdpHuggingfaceMetadata then some metadataDir else none
      modelDir := none
      usesBaseModelMetadata := !directory.hasFsdpHuggingfaceMetadata }

def discoverCheckpoints (config : EvaluationConfig) (children : List DirectoryEntry) :
    Except PyError (List CheckpointSpec) := do
  raiseIf (config.sourceType ≠ "checkpoints" ∨ config.trainingOutput = none)
    (valueError "Checkpoint discovery requires a training_output config.")
  let stepDirectories ← collectSteps [] children
  let trainingOutput := config.trainingOutput.getD ""
  raiseIf (stepDirectories.isEmpty) (valueError
    s!"No global_step_<integer> checkpoint directories found in {trainingOutput}.")
  (stepDirectories.insertionSort fun left right => left.1 ≤ right.1).mapM
    (checkpointSpec config)

/-! ### The order of the checkpoints -/

theorem collectSteps_nodup {children : List DirectoryEntry} :
    ∀ {found directories : List (Nat × DirectoryEntry)},
      collectSteps found children = .ok directories → (found.map Prod.fst).Nodup →
        (directories.map Prod.fst).Nodup := by
  induction children with
  | nil =>
    intro found directories h hfound
    obtain rfl : found = directories := by simpa [collectSteps] using h
    exact hfound
  | cons child rest ih =>
    intro found directories h hfound
    unfold collectSteps at h
    split at h
    · rename_i stepNum _ _
      cases hlookup : found.lookup stepNum with
      | some first =>
        rw [hlookup] at h
        cases h
      | none =>
        rw [hlookup] at h
        apply ih h
        rw [List.map_append, List.map_singleton, List.nodup_append]
        refine ⟨hfound, List.nodup_singleton _, ?_⟩
        intro known hknown new hnew
        obtain ⟨pair, hpair, rfl⟩ := List.mem_map.mp hknown
        rw [List.mem_singleton.mp hnew]
        have hdifferent := List.lookup_eq_none_iff.mp hlookup pair hpair
        exact fun heq => by simp [heq] at hdifferent
    · exact ih h hfound

theorem checkpointSpec_stepNum {config : EvaluationConfig} {step : Nat × DirectoryEntry}
    {spec : CheckpointSpec} (h : checkpointSpec config step = .ok spec) :
    spec.stepNum = step.1 := by
  unfold checkpointSpec at h
  obtain ⟨hfModel, _, h⟩ := bind_eq_ok.mp h
  cases hfModel with
  | some hfModel =>
    cases h
    rfl
  | none =>
    obtain ⟨fsdpSource, _, h⟩ := bind_eq_ok.mp h
    cases h
    rfl

/-- Discovery lists every step once, in ascending order. -/
theorem discoverCheckpoints_ascending {config : EvaluationConfig}
    {children : List DirectoryEntry} {checkpoints : List CheckpointSpec}
    (h : discoverCheckpoints config children = .ok checkpoints) :
    (checkpoints.map CheckpointSpec.stepNum).Pairwise (· < ·) := by
  unfold discoverCheckpoints at h
  obtain ⟨_, h⟩ := raiseIf_bind_eq_ok.mp h
  obtain ⟨directories, hdirectories, h⟩ := bind_eq_ok.mp h
  obtain ⟨_, h⟩ := raiseIf_bind_eq_ok.mp h
  have hnodup : (directories.map Prod.fst).Nodup :=
    collectSteps_nodup hdirectories List.nodup_nil
  have hascending := List.pairwise_map.mpr (Keyed.ascending_of_nodup hnodup)
  have hsteps : ∀ {steps : List (Nat × DirectoryEntry)} {specs : List CheckpointSpec},
      List.Forall₂ (fun step spec => checkpointSpec config step = .ok spec) steps specs →
        specs.map CheckpointSpec.stepNum = steps.map Prod.fst := by
    intro steps specs hspecs
    induction hspecs with
    | nil => rfl
    | cons hspec _ ih => rw [List.map_cons, List.map_cons, ih, checkpointSpec_stepNum hspec]
  rw [hsteps ((mapM_eq_ok _ _).mp h)]
  exact hascending

end R2opl
