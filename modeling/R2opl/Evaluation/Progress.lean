import R2opl.Evaluation.Schedules

/-!
# What one evaluation run does to the documents

The invariant of a per-checkpoint run, relative to the document it took up: whatever it
persists keeps the finished work, and every entry is inherited unchanged or comes from a
base evaluation of this run.  One rule for each operation of the process, and from these
the rules of the phases and of the whole run.
-/

namespace R2opl

open Checked Program

variable {B R W E : Type}

/-- The part of a session that the documents depend on. -/
structure Progress (B R W E : Type) where
  resultFile : Option (ResultFile B W E)
  history : List (ResultDocument B W E)
  evaluations : List (BaseEvaluation B R)
  document : ResultDocument B W E

def Session.progress (session : Session B R W E) : Progress B R W E where
  resultFile := session.resultFile
  history := session.history
  evaluations := session.evaluations
  document := session.document

namespace Progress

def persisted (progress : Progress B R W E) : Progress B R W E :=
  { progress with
    resultFile := some (.document progress.document)
    history := progress.history ++ [progress.document] }

def withDocument (progress : Progress B R W E) (document : ResultDocument B W E) :
    Progress B R W E :=
  { progress with document := document }

def evaluated (progress : Progress B R W E) (evaluation : BaseEvaluation B R) :
    Progress B R W E :=
  { progress with evaluations := progress.evaluations ++ [evaluation] }

end Progress

/-! ### Fresh results -/

section Fresh

variable (backend : Backend B R W E) (config : EvaluationConfig)

/-- What ERSR derives from the rollout records of one base evaluation. -/
inductive ErsrFrom (records : R) : ErsrField W E → Prop where
  | notEvaluated : ErsrFrom records .notEvaluated
  | teacherCompleted {model : ModelSpec} {work : W} {works : Nat → W} (tick tick' : Nat)
      (hprepared : backend.prepareErsr tick config model records = .ok work)
      (hproposed : backend.generateErsrReplacements tick' config [work] = .ok works) :
      ErsrFrom records (.teacherCompleted (works 0))
  | evaluated {model : ModelSpec} {work : W} {works : Nat → W} {ersr : E}
      (tick tick' tick'' : Nat)
      (hprepared : backend.prepareErsr tick config model records = .ok work)
      (hproposed : backend.generateErsrReplacements tick' config [work] = .ok works)
      (hstudent : backend.evaluateErsrStudent tick'' config (works 0) = .ok ersr) :
      ErsrFrom records (.evaluated ersr)

/-- A result whose base phase and ERSR phases all come from one of these evaluations. -/
def FreshResult (evaluations : List (BaseEvaluation B R)) (target : EvaluationTarget)
    (result : EvaluationResult B W E) : Prop :=
  ∃ evaluation ∈ evaluations, evaluation.target = target ∧
    result.datasets = evaluation.datasets ∧
    ErsrFrom backend config evaluation.records result.ersr

/-- Every entry is an inherited one, unchanged, or fresh. -/
structure Derived (inherited : List (StepResult B W E))
    (inheritedBase : Option (EvaluationResult B W E))
    (evaluations : List (BaseEvaluation B R)) (document : ResultDocument B W E) : Prop where
  steps : ∀ step ∈ document.steps, step ∈ inherited ∨
    FreshResult backend config evaluations (.checkpoint step.stepNum) step.toEvaluationResult
  initialBase : ∀ result, document.initialBase = some result → inheritedBase = some result ∨
    FreshResult backend config evaluations .initialBase result

variable {backend config}

theorem FreshResult.mono {evaluations evaluations' : List (BaseEvaluation B R)}
    {target : EvaluationTarget} {result : EvaluationResult B W E}
    (h : FreshResult backend config evaluations target result)
    (hsubset : evaluations ⊆ evaluations') :
    FreshResult backend config evaluations' target result := by
  obtain ⟨evaluation, hevaluation, hfresh⟩ := h
  exact ⟨evaluation, hsubset hevaluation, hfresh⟩

theorem Derived.mono {inherited : List (StepResult B W E)}
    {inheritedBase : Option (EvaluationResult B W E)} {document : ResultDocument B W E}
    {evaluations evaluations' : List (BaseEvaluation B R)}
    (h : Derived backend config inherited inheritedBase evaluations document)
    (hsubset : evaluations ⊆ evaluations') :
    Derived backend config inherited inheritedBase evaluations' document where
  steps := fun step hstep => (h.steps step hstep).imp_right fun hfresh => hfresh.mono hsubset
  initialBase := fun result hresult =>
    (h.initialBase result hresult).imp_right fun hfresh => hfresh.mono hsubset

end Fresh

/-! ### Targets -/

/-- The target is not finished in the document, which has an entry for it. -/
def ResultDocument.Pending (document : ResultDocument B W E) : EvaluationTarget → Prop
  | .initialBase => ∀ result, document.initialBase = some result → result.status ≠ .completed
  | .checkpoint stepNum => stepNum ∉ document.completedSteps ∧
      ∃ step ∈ document.steps, step.stepNum = stepNum

/-- The target is finished in the document. -/
def ResultDocument.Done (document : ResultDocument B W E) : EvaluationTarget → Prop
  | .initialBase => document.initialBase.map (·.status) = some .completed
  | .checkpoint stepNum => stepNum ∈ document.completedSteps

theorem ResultDocument.Done.of_keeps {earlier later : ResultDocument B W E}
    (hkeeps : earlier.KeepsCompleted later) {target : EvaluationTarget}
    (h : earlier.Done target) : later.Done target := by
  cases target with
  | initialBase =>
    obtain ⟨result, hresult, hcompleted⟩ := Option.map_eq_some_iff.mp h
    exact Option.map_eq_some_iff.mpr
      ⟨result, hkeeps.initialBase result hresult hcompleted, hcompleted⟩
  | checkpoint stepNum => exact hkeeps.completedSteps h

/-- A change that keeps the finished work and the entries of the other steps. -/
structure ResultDocument.Touches (target : EvaluationTarget)
    (document changed : ResultDocument B W E) : Prop where
  keeps : document.KeepsCompleted changed
  others : ∀ step, target ≠ .checkpoint step.stepNum →
    (step ∈ changed.steps ↔ step ∈ document.steps)

/-- How the phases of a target store its result. -/
def storeTarget : EvaluationTarget → EvaluationResult B W E → ResultDocument B W E →
    ResultDocument B W E
  | .initialBase => storeInitialBase
  | .checkpoint stepNum => storeStep stepNum

/-! ### The invariant -/

/-- The run took up `loaded` in the world `start`, and evaluates these steps. -/
structure Run (B R W E : Type) where
  backend : Backend B R W E
  config : EvaluationConfig
  start : World B R W E
  loaded : ResultDocument B W E
  targets : List Nat

namespace Run

variable (run : Run B R W E)

/-- What the run may have derived from the loaded document. -/
def DerivedFrom (evaluations : List (BaseEvaluation B R)) (document : ResultDocument B W E) :
    Prop :=
  Derived run.backend run.config run.loaded.steps run.loaded.initialBase evaluations document

def newEvaluations (progress : Progress B R W E) : List (BaseEvaluation B R) :=
  progress.evaluations.drop run.start.evaluations.length

def newDocuments (progress : Progress B R W E) : List (ResultDocument B W E) :=
  progress.history.drop run.start.history.length

/-- What every state of the run satisfies, in memory and on disk. -/
structure Invariant (progress : Progress B R W E) : Prop where
  evaluations : run.start.evaluations <+: progress.evaluations
  history : run.start.history <+: progress.history
  ascending : progress.document.StepsAscending
  signature : progress.document.checkpointRunSignature = checkpointRunSignature run.config
  derived : run.DerivedFrom (run.newEvaluations progress) progress.document
  frame : ∀ step, step.stepNum ∉ run.targets →
    (step ∈ progress.document.steps ↔ step ∈ run.loaded.steps)
  keeps : ∀ earlier ∈ progress.history, earlier.KeepsCompleted progress.document
  documents : ∀ document ∈ run.newDocuments progress, document.StepsAscending ∧
    run.DerivedFrom (run.newEvaluations progress) document
  pairwise : progress.history.Pairwise ResultDocument.KeepsCompleted
  resultFile : progress.resultFile = progress.history.getLast?.map .document

variable {run} {progress : Progress B R W E}

theorem newEvaluations_evaluated (h : run.start.evaluations <+: progress.evaluations)
    (evaluation : BaseEvaluation B R) :
    run.newEvaluations (progress.evaluated evaluation) =
      run.newEvaluations progress ++ [evaluation] :=
  List.drop_append_of_le_length h.length_le

theorem newDocuments_persisted (h : run.start.history <+: progress.history) :
    run.newDocuments progress.persisted = run.newDocuments progress ++ [progress.document] :=
  List.drop_append_of_le_length h.length_le

namespace Invariant

/-- Writing the document adds it to the history, which it keeps. -/
theorem persisted (h : run.Invariant progress) : run.Invariant progress.persisted where
  evaluations := h.evaluations
  history := h.history.trans (List.prefix_append _ _)
  ascending := h.ascending
  signature := h.signature
  derived := h.derived
  frame := h.frame
  keeps := by
    intro earlier hearlier
    rcases List.mem_append.mp hearlier with hold | hnew
    · exact h.keeps earlier hold
    · rw [List.mem_singleton.mp hnew]
      exact .refl _
  documents := by
    intro document hdocument
    rw [newDocuments_persisted h.history] at hdocument
    rcases List.mem_append.mp hdocument with hold | hnew
    · exact h.documents document hold
    · rw [List.mem_singleton.mp hnew]
      exact ⟨h.ascending, h.derived⟩
  pairwise := by
    apply List.pairwise_append.mpr
    refine ⟨h.pairwise, List.pairwise_singleton _ _, ?_⟩
    intro earlier hearlier later hlater
    rw [List.mem_singleton.mp hlater]
    exact h.keeps earlier hearlier
  resultFile := by simp [Progress.persisted]

theorem evaluated (h : run.Invariant progress) (evaluation : BaseEvaluation B R) :
    run.Invariant (progress.evaluated evaluation) := by
  have hsubset : run.newEvaluations progress ⊆
      run.newEvaluations (progress.evaluated evaluation) := by
    rw [newEvaluations_evaluated h.evaluations]
    exact List.subset_append_left _ _
  exact { h with
    evaluations := h.evaluations.trans (List.prefix_append _ _)
    derived := h.derived.mono hsubset
    documents := fun document hdocument =>
      (h.documents document hdocument).imp_right fun hderived => hderived.mono hsubset }

end Invariant

/-! ### Changes of the document -/

/-- What a change for a target of the run must be. -/
structure Allowed (run : Run B R W E) (target : EvaluationTarget) (progress : Progress B R W E)
    (document : ResultDocument B W E) : Prop where
  target_mem : ∀ stepNum, target = .checkpoint stepNum → stepNum ∈ run.targets
  touches : progress.document.Touches target document
  ascending : document.StepsAscending
  signature : document.checkpointRunSignature = progress.document.checkpointRunSignature
  derived : run.DerivedFrom (run.newEvaluations progress) document

theorem Invariant.change (h : run.Invariant progress) {target : EvaluationTarget}
    {document : ResultDocument B W E} (hallowed : run.Allowed target progress document) :
    run.Invariant (progress.withDocument document) :=
  { h with
    ascending := hallowed.ascending
    signature := hallowed.signature.trans h.signature
    derived := hallowed.derived
    frame := by
      intro step hstep
      apply (hallowed.touches.others step _).trans (h.frame step hstep)
      intro heq
      exact hstep (hallowed.target_mem _ heq)
    keeps := fun earlier hearlier => (h.keeps earlier hearlier).trans hallowed.touches.keeps }

namespace Allowed

variable {document : ResultDocument B W E} {target : EvaluationTarget}

/-- A change of the other fields. -/
theorem sameEntries (h : run.Invariant progress)
    (htarget : ∀ stepNum, target = .checkpoint stepNum → stepNum ∈ run.targets)
    (hsteps : document.steps = progress.document.steps)
    (hinitial : document.initialBase = progress.document.initialBase)
    (hsignature :
      document.checkpointRunSignature = progress.document.checkpointRunSignature) :
    run.Allowed target progress document where
  target_mem := htarget
  touches := {
    keeps := {
      steps := by
        rw [hsteps]
        exact fun _ hstep _ => hstep
      initialBase := by
        rw [hinitial]
        exact fun _ hresult _ => hresult }
    others := by
      intro step _
      rw [hsteps] }
  ascending := by
    unfold ResultDocument.StepsAscending
    rw [hsteps]
    exact h.ascending
  signature := hsignature
  derived := {
    steps := by
      rw [hsteps]
      exact h.derived.steps
    initialBase := by
      rw [hinitial]
      exact h.derived.initialBase }

/-- The phase is no entry. -/
theorem setPhase (h : run.Allowed target progress document) (phase : String) :
    run.Allowed target progress (document.setPhase phase) where
  target_mem := h.target_mem
  touches := ⟨⟨h.touches.keeps.steps, h.touches.keeps.initialBase⟩, h.touches.others⟩
  ascending := h.ascending
  signature := h.signature
  derived := ⟨h.derived.steps, h.derived.initialBase⟩

/-- An unfinished step of the run loses its entry. -/
theorem dropStep (h : run.Invariant progress) {stepNum : Nat}
    (htarget : stepNum ∈ run.targets) (hpending : stepNum ∉ progress.document.completedSteps) :
    run.Allowed (.checkpoint stepNum) progress (progress.document.dropStep stepNum) where
  target_mem := by
    rintro _ ⟨⟩
    exact htarget
  touches := {
    keeps := ResultDocument.keepsCompleted_dropStep hpending
    others := by
      intro step hother
      apply Keyed.mem_without.trans
      apply and_iff_left_of_imp
      intro _ heq
      exact hother (congrArg EvaluationTarget.checkpoint heq.symm) }
  ascending := h.ascending.without _
  signature := rfl
  derived := {
    steps := fun step hstep => h.derived.steps step (Keyed.mem_without.mp hstep).1
    initialBase := h.derived.initialBase }

/-- A fresh entry of a step without one is added. -/
theorem appendStep (h : run.Invariant progress) {step : StepResult B W E}
    (htarget : step.stepNum ∈ run.targets)
    (habsent : ∀ other ∈ progress.document.steps, other.stepNum ≠ step.stepNum)
    (hfresh : FreshResult run.backend run.config (run.newEvaluations progress)
      (.checkpoint step.stepNum) step.toEvaluationResult) :
    run.Allowed (.checkpoint step.stepNum) progress (progress.document.appendStep step) where
  target_mem := by
    rintro _ ⟨⟩
    exact htarget
  touches := {
    keeps := ResultDocument.keepsCompleted_appendStep
    others := by
      intro other hother
      apply Keyed.mem_insert.trans
      apply or_iff_left_of_imp
      rintro rfl
      exact absurd rfl hother }
  ascending := h.ascending.insert habsent
  signature := rfl
  derived := {
    steps := by
      intro other hother
      rcases Keyed.mem_insert.mp hother with hold | rfl
      · exact h.derived.steps other hold
      · exact .inr hfresh
    initialBase := h.derived.initialBase }

theorem setInitialBase (h : run.Invariant progress)
    (hpending : progress.document.Pending .initialBase)
    {result : Option (EvaluationResult B W E)}
    (hfresh : ∀ given, result = some given → FreshResult run.backend run.config
      (run.newEvaluations progress) .initialBase given) :
    run.Allowed .initialBase progress (progress.document.setInitialBase result) where
  target_mem := nofun
  touches := {
    keeps := ResultDocument.keepsCompleted_setInitialBase hpending
    others := fun _ _ => .rfl }
  ascending := h.ascending
  signature := rfl
  derived := {
    steps := h.derived.steps
    initialBase := fun given hgiven => .inr (hfresh given hgiven) }

/-- The result of an unfinished target is replaced by a fresh one. -/
theorem store (h : run.Invariant progress) {result : EvaluationResult B W E}
    (htarget : ∀ stepNum, target = .checkpoint stepNum → stepNum ∈ run.targets)
    (hpending : progress.document.Pending target)
    (hfresh : FreshResult run.backend run.config (run.newEvaluations progress) target result) :
    run.Allowed target progress (storeTarget target result progress.document) := by
  cases target with
  | initialBase =>
    apply setInitialBase h hpending
    rintro _ ⟨⟩
    exact hfresh
  | checkpoint stepNum =>
    exact {
      target_mem := htarget
      touches := {
        keeps := ResultDocument.keepsCompleted_replaceStep hpending.1
        others := by
          intro step hother
          apply Keyed.mem_replace.trans
          constructor
          · rintro (⟨hold, _⟩ | ⟨rfl, _⟩)
            · exact hold
            · exact absurd rfl hother
          · intro hold
            refine .inl ⟨hold, ?_⟩
            intro heq
            exact hother (congrArg EvaluationTarget.checkpoint heq.symm) }
      ascending := h.ascending.replace _
      signature := rfl
      derived := {
        steps := by
          intro step hstep
          rcases Keyed.mem_replace.mp hstep with ⟨hold, _⟩ | ⟨rfl, _⟩
          · exact h.derived.steps step hold
          · exact .inr hfresh
        initialBase := h.derived.initialBase } }

end Allowed

end Run

/-! ### What storing a result does to its target -/

namespace ResultDocument

variable {document : ResultDocument B W E} {target : EvaluationTarget}
  {result : EvaluationResult B W E}

theorem Pending.store (h : document.Pending target) (hstatus : result.status ≠ .completed) :
    (storeTarget target result document).Pending target := by
  cases target with
  | initialBase =>
    rintro _ ⟨⟩
    exact hstatus
  | checkpoint stepNum =>
    obtain ⟨hpending, step, hstep, hstepNum⟩ := h
    refine ⟨?_, _, Keyed.mem_replace.mpr (.inr ⟨rfl, step, hstep, hstepNum⟩), rfl⟩
    intro hcompleted
    obtain ⟨other, hother, hfinished, hsame⟩ := mem_completedSteps.mp hcompleted
    rcases Keyed.mem_replace.mp hother with ⟨hold, _⟩ | ⟨rfl, _⟩
    · exact hpending (mem_completedSteps.mpr ⟨other, hold, hfinished, hsame⟩)
    · exact hstatus hfinished

theorem Pending.done (h : document.Pending target) (hstatus : result.status = .completed) :
    (storeTarget target result document).Done target := by
  cases target with
  | initialBase => exact congrArg some hstatus
  | checkpoint stepNum =>
    obtain ⟨_, step, hstep, hstepNum⟩ := h
    exact mem_completedSteps.mpr
      ⟨_, Keyed.mem_replace.mpr (.inr ⟨rfl, step, hstep, hstepNum⟩), hstatus, rfl⟩

theorem not_mem_completedSteps_of_touches {changed : ResultDocument B W E} {stepNum : Nat}
    (h : document.Touches target changed) (hother : target ≠ .checkpoint stepNum)
    (hpending : stepNum ∉ document.completedSteps) : stepNum ∉ changed.completedSteps := by
  intro hcompleted
  obtain ⟨step, hstep, hfinished, rfl⟩ := mem_completedSteps.mp hcompleted
  exact hpending (mem_completedSteps.mpr
    ⟨step, (h.others step hother).mp hstep, hfinished, rfl⟩)

end ResultDocument

end R2opl
