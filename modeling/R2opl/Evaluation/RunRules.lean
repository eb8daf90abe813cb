import R2opl.Evaluation.Progress

/-!
# The phases of a per-checkpoint run

A rule for each operation of the process, for the documents it can be in; and from these
the rules of the phases, of one checkpoint, of the loop and of the whole run.
-/

namespace R2opl

open Checked Program

variable {B R W E α : Type}

namespace Run

/-- A state of the run whose document satisfies `D`, after these base evaluations. -/
def At (run : Run B R W E) (D : ResultDocument B W E → Prop)
    (known : List (BaseEvaluation B R)) (session : Session B R W E) : Prop :=
  run.Invariant session.progress ∧ D session.document ∧
    known ⊆ run.newEvaluations session.progress

/-- A stopped run has kept its invariant. -/
def Stopped (run : Run B R W E) (_ : Stop) (session : Session B R W E) : Prop :=
  run.Invariant session.progress

/-- As `At`, and the run has evaluated the target from its base phase. -/
def Evaluated (run : Run B R W E) (target : EvaluationTarget)
    (D : ResultDocument B W E → Prop) (known : List (BaseEvaluation B R))
    (progress : Progress B R W E) : Prop :=
  ∃ evaluation : BaseEvaluation B R, evaluation.target = target ∧ run.Invariant progress ∧
    D progress.document ∧ evaluation :: known ⊆ run.newEvaluations progress

variable {run : Run B R W E} {D D' C : ResultDocument B W E → Prop}
  {known : List (BaseEvaluation B R)} {target : EvaluationTarget}

/-! ### Operations -/

theorem at_external (outcome : Nat → Except Stop α) :
    Triple (run.At D known) (external outcome)
      (fun a session => (∃ tick, outcome tick = .ok a) ∧ run.At D known session)
      run.Stopped := by
  intro session hsession
  change Meets _ _ (external outcome session)
  unfold external
  cases houtcome : outcome session.clock with
  | ok a => exact ⟨⟨session.clock, houtcome⟩, hsession⟩
  | error stop => exact hsession.1

theorem at_utcNow :
    Triple (run.At D known) utcNow (fun _ => run.At D known) run.Stopped :=
  fun _ hsession => hsession

theorem at_atomicWriteJson :
    Triple (run.At D known) (atomicWriteJson run.backend) (fun _ => run.At D known)
      run.Stopped := by
  intro session hsession
  change Meets _ _ (atomicWriteJson run.backend session)
  unfold atomicWriteJson
  obtain ⟨hinvariant, hD, hknown⟩ := hsession
  cases run.backend.write session.clock with
  | replaced stop =>
    cases stop with
    | none => exact ⟨hinvariant.persisted, hD, hknown⟩
    | some stop => exact hinvariant.persisted
  | failed stop => exact hinvariant

theorem at_modifyDocument {change : ResultDocument B W E → ResultDocument B W E}
    (h : ∀ progress : Progress B R W E, run.Invariant progress → D progress.document →
      known ⊆ run.newEvaluations progress →
        run.Allowed target progress (change progress.document) ∧
          D' (change progress.document)) :
    Triple (run.At D known) (modifyDocument change) (fun _ => run.At D' known) run.Stopped := by
  intro session ⟨hinvariant, hD, hknown⟩
  obtain ⟨hallowed, hD'⟩ := h session.progress hinvariant hD hknown
  exact ⟨hinvariant.change hallowed, hD', hknown⟩

/-- A base evaluation is recorded with its records. -/
theorem at_evaluateBaseModel (target : EvaluationTarget) (model : ModelSpec) :
    Triple (run.At D known) (evaluateBaseModel run.backend run.config target model)
      (fun evaluated session =>
        (evaluated.1.status = .baseCompleted ∧ evaluated.1.ersr = .notEvaluated) ∧
          run.At D (⟨target, evaluated.1.datasets, evaluated.2⟩ :: known) session)
      run.Stopped := by
  unfold evaluateBaseModel
  apply triple_bind (at_external _)
  rintro ⟨datasets, records⟩
  apply Triple.assume
  intro _ session ⟨hinvariant, hD, hknown⟩
  refine ⟨⟨rfl, rfl⟩, hinvariant.evaluated _, hD, ?_⟩
  intro evaluation hevaluation
  change evaluation ∈ run.newEvaluations (session.progress.evaluated _)
  rw [newEvaluations_evaluated hinvariant.evaluations]
  rcases List.mem_cons.mp hevaluation with rfl | hold
  · exact List.mem_append_right _ (List.mem_singleton.mpr rfl)
  · exact List.mem_append_left _ (hknown hold)

theorem at_resolveCheckpointModel (checkpoint : CheckpointSpec) (modelDir : String) :
    Triple (run.At D known)
      (resolveCheckpointModel run.backend run.config checkpoint modelDir)
      (fun _ => run.At D known) run.Stopped := by
  unfold resolveCheckpointModel
  cases run.config.baseModel with
  | some baseModel => exact triple_pure fun _ hsession => hsession
  | none =>
    apply triple_bind (at_external _)
    intro family
    exact triple_pure fun _ hsession => hsession.2

/-! ### The phases of a target -/

/-- The results that a phase builds are fresh. -/
theorem freshResult_of_known {result : EvaluationResult B W E} {records : R} {datasets : B}
    {progress : Progress B R W E}
    (hevaluation : (⟨target, datasets, records⟩ : BaseEvaluation B R) ∈ known)
    (hknown : known ⊆ run.newEvaluations progress) (hdatasets : result.datasets = datasets)
    (hersr : ErsrFrom run.backend run.config records result.ersr) :
    FreshResult run.backend run.config (run.newEvaluations progress) target result :=
  ⟨_, hknown hevaluation, rfl, hdatasets, hersr⟩

section Phases

variable (hC : ∀ document changed, document.Touches target changed → C document → C changed)
  (htarget : ∀ stepNum, target = .checkpoint stepNum → stepNum ∈ run.targets)

include hC htarget

theorem at_setPhase (phase : String) :
    Triple (run.At (fun document => C document ∧ document.Pending target) known)
      (modifyDocument (·.setPhase phase))
      (fun _ => run.At (fun document => C document ∧ document.Pending target) known)
      run.Stopped := by
  apply at_modifyDocument
  intro progress hinvariant hdocument _
  have hallowed : run.Allowed target progress (progress.document.setPhase phase) :=
    .sameEntries hinvariant htarget rfl rfl rfl
  exact ⟨hallowed, hC _ _ hallowed.touches hdocument.1, hdocument.2⟩

variable {records : R} {result : EvaluationResult B W E} {datasets : B}
  (hevaluation : (⟨target, datasets, records⟩ : BaseEvaluation B R) ∈ known)
  (hdatasets : result.datasets = datasets)
  (hersr : ErsrFrom run.backend run.config records result.ersr)

include hevaluation hdatasets hersr

/-- An unfinished result is stored. -/
theorem at_storePending (hstatus : result.status ≠ .completed) :
    Triple (run.At (fun document => C document ∧ document.Pending target) known)
      (modifyDocument (storeTarget target result))
      (fun _ => run.At (fun document => C document ∧ document.Pending target) known)
      run.Stopped := by
  apply at_modifyDocument
  intro progress hinvariant hdocument hknown
  have hallowed := Allowed.store hinvariant htarget hdocument.2
    (freshResult_of_known hevaluation hknown hdatasets hersr)
  exact ⟨hallowed, hC _ _ hallowed.touches hdocument.1, hdocument.2.store hstatus⟩

/-- An unfinished result is stored with the next phase. -/
theorem at_storeProposed (phase : String) (hstatus : result.status ≠ .completed) :
    Triple (run.At (fun document => C document ∧ document.Pending target) known)
      (modifyDocument fun document => (storeTarget target result document).setPhase phase)
      (fun _ => run.At (fun document => C document ∧ document.Pending target) known)
      run.Stopped := by
  apply at_modifyDocument
  intro progress hinvariant hdocument hknown
  have hallowed := (Allowed.store hinvariant htarget hdocument.2
    (freshResult_of_known hevaluation hknown hdatasets hersr)).setPhase phase
  exact ⟨hallowed, hC _ _ hallowed.touches hdocument.1, hdocument.2.store hstatus⟩

/-- The completed result is stored. -/
theorem at_storeDone (hstatus : result.status = .completed) :
    Triple (run.At (fun document => C document ∧ document.Pending target) known)
      (modifyDocument (storeTarget target result))
      (fun _ => run.At (fun document => C document ∧ document.Done target) known)
      run.Stopped := by
  apply at_modifyDocument
  intro progress hinvariant hdocument hknown
  have hallowed := Allowed.store hinvariant htarget hdocument.2
    (freshResult_of_known hevaluation hknown hdatasets hersr)
  exact ⟨hallowed, hC _ _ hallowed.touches hdocument.1, hdocument.2.done hstatus⟩

omit hersr in
theorem at_runErsrPhases (phase : String) (model : ModelSpec)
    (hstatus : result.status ≠ .completed) (hersr : result.ersr = .notEvaluated) :
    Triple (run.At (fun document => C document ∧ document.Pending target) known)
      (runErsrPhases run.backend run.config phase model records result (storeTarget target))
      (fun final session => (final.datasets = datasets ∧
          ErsrFrom run.backend run.config records final.ersr) ∧
        run.At (fun document => C document ∧ document.Pending target) known session)
      run.Stopped := by
  unfold runErsrPhases
  cases run.config.ersr with
  | none =>
    apply triple_pure
    intro session hsession
    refine ⟨⟨hdatasets, ?_⟩, hsession⟩
    rw [hersr]
    exact .notEvaluated
  | some _ =>
    apply triple_bind (at_external _)
    intro work
    apply Triple.assume
    rintro ⟨tick, hprepared⟩
    apply triple_bind (at_setPhase hC htarget _)
    intro _
    apply triple_bind at_atomicWriteJson
    intro _
    apply triple_bind (at_external _)
    intro works
    apply Triple.assume
    rintro ⟨tick', hproposed⟩
    refine triple_bind (at_storeProposed hC htarget hevaluation ?_ ?_ _ ?_) ?_
    · exact hdatasets
    · exact .teacherCompleted tick tick' hprepared hproposed
    · exact hstatus
    intro _
    apply triple_bind at_atomicWriteJson
    intro _
    apply triple_bind (at_external _)
    intro ersr
    apply Triple.assume
    rintro ⟨tick'', hstudent⟩
    apply triple_pure
    intro session hsession
    exact ⟨⟨hdatasets, .evaluated tick tick' tick'' hprepared hproposed hstudent⟩, hsession⟩

omit hersr in
/-- After its base phase a target is finished, or the run stops. -/
theorem at_finishResult (phase : String) (model : ModelSpec)
    (hstatus : result.status ≠ .completed) (hersr : result.ersr = .notEvaluated) :
    Triple (run.At (fun document => C document ∧ document.Pending target) known)
      (finishResult run.backend run.config phase model records result (storeTarget target))
      (fun _ => run.At (fun document => C document ∧ document.Done target) known)
      run.Stopped := by
  unfold finishResult
  apply triple_bind
    (at_runErsrPhases hC htarget hevaluation hdatasets phase model hstatus hersr)
  intro final
  apply Triple.assume
  rintro ⟨hfinal, hfinalErsr⟩
  apply triple_bind at_utcNow
  intro now
  refine triple_bind (at_storeDone hC htarget hevaluation hfinal hfinalErsr rfl) ?_
  intro _
  exact at_atomicWriteJson

end Phases

/-! ### The initial base model -/

section InitialBase

variable (hC : ∀ document changed, document.Touches .initialBase changed → C document →
  C changed)

include hC

theorem at_clearInitialBase :
    Triple (run.At (fun document => C document ∧ document.Pending .initialBase) known)
      (modifyDocument fun document =>
        (document.setInitialBase none).setPhase "initial_base:base")
      (fun _ => run.At (fun document => C document ∧ document.Pending .initialBase) known)
      run.Stopped := by
  apply at_modifyDocument
  intro progress hinvariant hdocument _
  have hallowed : run.Allowed .initialBase progress
      ((progress.document.setInitialBase none).setPhase "initial_base:base") :=
    (Allowed.setInitialBase hinvariant hdocument.2 (by rintro _ ⟨⟩)).setPhase _
  refine ⟨hallowed, hC _ _ hallowed.touches hdocument.1, ?_⟩
  rintro _ ⟨⟩

theorem at_evaluateInitialBase (baseModel : ModelSpec) :
    Triple (run.At (fun document => C document ∧ document.Pending .initialBase) known)
      (evaluateInitialBase run.backend run.config baseModel)
      (fun _ session => run.Evaluated .initialBase
        (fun document => C document ∧ document.Done .initialBase) known session.progress)
      run.Stopped := by
  unfold evaluateInitialBase
  apply triple_bind (at_clearInitialBase hC)
  intro _
  apply triple_bind at_atomicWriteJson
  intro _
  apply triple_bind (at_evaluateBaseModel _ _)
  rintro ⟨result, records⟩
  apply Triple.assume
  rintro ⟨hstatus, hersr⟩
  have hpending : (annotateInitialBaseResult result baseModel).status ≠ .completed := by
    change result.status ≠ .completed
    rw [hstatus]
    exact EntryStatus.noConfusion
  have hfield : (annotateInitialBaseResult result baseModel).ersr = .notEvaluated := hersr
  have hfresh : ErsrFrom run.backend run.config records
      (annotateInitialBaseResult result baseModel).ersr := by
    rw [hfield]
    exact .notEvaluated
  refine triple_bind (at_storePending hC nofun List.mem_cons_self rfl hfresh hpending) ?_
  intro _
  apply triple_bind at_atomicWriteJson
  intro _
  apply Triple.strengthen (at_finishResult hC nofun List.mem_cons_self rfl "initial_base"
    baseModel hpending hfield)
  intro _ session hsession
  exact ⟨_, rfl, hsession⟩

end InitialBase

/-! ### Merged models -/

theorem keeps_removeMergedModel (A : Progress B R W E → Prop)
    (hA : ∀ progress, A progress → run.Invariant progress) (root : Nat)
    (propagating : Option PyError) :
    Triple (fun session => A session.progress)
      (removeMergedModel run.backend root propagating) (fun _ session => A session.progress)
      run.Stopped := by
  intro session hsession
  change Meets _ _ (removeMergedModel run.backend root propagating session)
  unfold removeMergedModel
  cases run.backend.removeDirectory session.clock with
  | removed => exact hsession
  | osError cleanupError => exact hsession
  | stopped stop => exact hA _ hsession

theorem keeps_leavePreparedModel (A : Progress B R W E → Prop)
    (hA : ∀ progress, A progress → run.Invariant progress) (model : PreparedModel)
    (propagating : Option PyError) :
    Triple (fun session => A session.progress)
      (leavePreparedModel run.backend model propagating)
      (fun _ session => A session.progress) run.Stopped := by
  unfold leavePreparedModel
  cases model.temporaryRoot with
  | none => exact triple_pure fun _ hsession => hsession
  | some root => exact keeps_removeMergedModel A hA root propagating

/-- What runs on an exception keeps the invariant. -/
theorem stopped_onRaise {P : Session B R W E → Prop} {Q : α → Session B R W E → Prop}
    {body : Program (Session B R W E) Stop α}
    {cleanup : PyError → Program (Session B R W E) Stop Unit}
    (hbody : Triple P body Q run.Stopped)
    (hcleanup : ∀ error, Triple (fun session => run.Invariant session.progress)
      (cleanup error) (fun _ session => run.Invariant session.progress) run.Stopped) :
    Triple P (onRaise body cleanup) Q run.Stopped := by
  apply triple_tryCatch hbody
  intro stop
  cases stop with
  | killed => exact triple_throw fun _ hsession => hsession
  | raised error =>
    apply triple_bind (hcleanup error)
    intro _
    exact triple_throw fun _ hsession => hsession

theorem at_makeTemporaryRoot :
    Triple (run.At D known) (makeTemporaryRoot run.backend) (fun _ => run.At D known)
      run.Stopped := by
  apply triple_bind at_utcNow
  intro root
  apply triple_bind (at_external _)
  intro _
  apply Triple.assume
  intro _
  exact fun _ hsession => hsession

theorem at_enterPreparedModel (checkpoint : CheckpointSpec) :
    Triple (run.At D known) (enterPreparedModel run.backend run.config checkpoint)
      (fun _ => run.At D known) run.Stopped := by
  unfold enterPreparedModel
  split
  · exact triple_pure fun _ hsession => hsession
  · exact triple_throw fun _ hsession => hsession.1
  · exact triple_throw fun _ hsession => hsession.1
  · apply triple_bind at_makeTemporaryRoot
    intro root
    have hmerge : Triple (run.At D known) (mergeCheckpoint run.backend run.config checkpoint)
        (fun _ => run.At D known) run.Stopped := by
      unfold mergeCheckpoint
      split
      · exact triple_throw fun _ hsession => hsession.1
      · exact (at_external _).strengthen fun _ _ hsession => hsession.2
    apply triple_bind (stopped_onRaise hmerge _)
    · intro _
      exact triple_pure fun _ hsession => hsession
    · intro error
      exact keeps_removeMergedModel run.Invariant (fun _ h => h) root (some error)

/-- The body of a `with prepare_model` decides what holds after it. -/
theorem at_withPreparedModel {checkpoint : CheckpointSpec}
    {body : String → Program (Session B R W E) Stop α} (A : α → Progress B R W E → Prop)
    (hA : ∀ a progress, A a progress → run.Invariant progress)
    (hbody : ∀ modelDir, Triple (run.At D known) (body modelDir)
      (fun a session => A a session.progress) run.Stopped) :
    Triple (run.At D known) (withPreparedModel run.backend run.config checkpoint body)
      (fun a session => A a session.progress) run.Stopped := by
  unfold withPreparedModel
  apply triple_bind (at_enterPreparedModel checkpoint)
  intro model
  refine triple_bind (stopped_onRaise (hbody model.path) ?_) ?_
  · intro error
    exact keeps_leavePreparedModel run.Invariant (fun _ h => h) model (some error)
  · intro a
    apply triple_bind (keeps_leavePreparedModel (A a) (hA a) model none)
    intro _
    exact triple_pure fun _ hsession => hsession

/-! ### One checkpoint -/

section Checkpoint

variable {checkpoint : CheckpointSpec}
  (hC : ∀ document changed, document.Touches (.checkpoint checkpoint.stepNum) changed →
    C document → C changed)
  (htarget : checkpoint.stepNum ∈ run.targets)

include hC htarget

/-- The fresh entry is added where the step has none. -/
theorem at_appendStep {step : StepResult B W E} {records : R}
    (hstep : step.stepNum = checkpoint.stepNum) (hstatus : step.status ≠ .completed)
    (hersr : step.ersr = .notEvaluated)
    (hevaluation : (⟨.checkpoint checkpoint.stepNum, step.datasets, records⟩ :
      BaseEvaluation B R) ∈ known) :
    Triple
      (run.At (fun document => C document ∧ checkpoint.stepNum ∉ document.completedSteps ∧
        ∀ other ∈ document.steps, other.stepNum ≠ checkpoint.stepNum) known)
      (modifyDocument (·.appendStep step))
      (fun _ => run.At (fun document =>
        C document ∧ document.Pending (.checkpoint checkpoint.stepNum)) known)
      run.Stopped := by
  apply at_modifyDocument
  intro progress hinvariant hdocument hknown
  obtain ⟨hcontext, hpending, habsent⟩ := hdocument
  have hfresh : ErsrFrom run.backend run.config records step.ersr := by
    rw [hersr]
    exact .notEvaluated
  have hallowed : run.Allowed (.checkpoint checkpoint.stepNum) progress
      (progress.document.appendStep step) := by
    rw [← hstep] at habsent htarget hevaluation ⊢
    exact .appendStep hinvariant htarget habsent
      (freshResult_of_known hevaluation hknown rfl hfresh)
  refine ⟨hallowed, hC _ _ hallowed.touches hcontext, ?_, step, ?_, hstep⟩
  · intro hcompleted
    obtain ⟨other, hother, hfinished, hsame⟩ :=
      ResultDocument.mem_completedSteps.mp hcompleted
    rcases Keyed.mem_insert.mp hother with hold | rfl
    · exact habsent other hold hsame
    · exact hstatus hfinished
  · exact Keyed.mem_insert.mpr (.inr rfl)

theorem at_evaluatePreparedCheckpoint (modelDir : String) :
    Triple
      (run.At (fun document => C document ∧ checkpoint.stepNum ∉ document.completedSteps ∧
        ∀ other ∈ document.steps, other.stepNum ≠ checkpoint.stepNum) known)
      (evaluatePreparedCheckpoint run.backend run.config checkpoint modelDir)
      (fun _ session => run.Evaluated (.checkpoint checkpoint.stepNum) (fun document =>
        C document ∧ document.Done (.checkpoint checkpoint.stepNum)) known session.progress)
      run.Stopped := by
  have htargets : ∀ stepNum, EvaluationTarget.checkpoint checkpoint.stepNum =
      .checkpoint stepNum → stepNum ∈ run.targets := by
    rintro _ ⟨⟩
    exact htarget
  unfold evaluatePreparedCheckpoint
  apply triple_bind (at_resolveCheckpointModel _ _)
  intro model
  apply triple_bind (at_evaluateBaseModel _ _)
  rintro ⟨result, records⟩
  apply Triple.assume
  rintro ⟨hstatus, hersr⟩
  have hpending : (annotateCheckpointResult result checkpoint).status ≠ .completed := by
    change result.status ≠ .completed
    rw [hstatus]
    exact EntryStatus.noConfusion
  refine triple_bind (at_appendStep hC htarget rfl hpending hersr List.mem_cons_self) ?_
  intro _
  apply triple_bind at_atomicWriteJson
  intro _
  apply Triple.strengthen (at_finishResult hC htargets List.mem_cons_self rfl _ _ hpending hersr)
  intro _ session hsession
  exact ⟨_, rfl, hsession⟩

/-- A step that is not completed is evaluated again from its base phase. -/
theorem at_evaluateCheckpoint :
    Triple
      (run.At (fun document => C document ∧ checkpoint.stepNum ∉ document.completedSteps) known)
      (evaluateCheckpoint run.backend run.config checkpoint)
      (fun _ session => run.Evaluated (.checkpoint checkpoint.stepNum) (fun document =>
        C document ∧ document.Done (.checkpoint checkpoint.stepNum)) known session.progress)
      run.Stopped := by
  unfold evaluateCheckpoint
  have hdrop : Triple
      (run.At (fun document => C document ∧ checkpoint.stepNum ∉ document.completedSteps) known)
      (modifyDocument fun document => (document.dropStep checkpoint.stepNum).setPhase
        s!"global_step_{checkpoint.stepNum}:base")
      (fun _ => run.At (fun document =>
        C document ∧ checkpoint.stepNum ∉ document.completedSteps ∧
        ∀ other ∈ document.steps, other.stepNum ≠ checkpoint.stepNum) known)
      run.Stopped := by
    apply at_modifyDocument
    intro progress hinvariant hdocument _
    have hallowed := (Allowed.dropStep hinvariant htarget hdocument.2).setPhase
      s!"global_step_{checkpoint.stepNum}:base"
    refine ⟨hallowed, hC _ _ hallowed.touches hdocument.1, ?_, ?_⟩
    · intro hcompleted
      obtain ⟨other, hother, _, hsame⟩ := ResultDocument.mem_completedSteps.mp hcompleted
      exact (Keyed.mem_without.mp hother).2 hsame
    · exact fun other hother => (Keyed.mem_without.mp hother).2
  apply triple_bind hdrop
  intro _
  apply triple_bind at_atomicWriteJson
  intro _
  apply at_withPreparedModel (fun _ => run.Evaluated (.checkpoint checkpoint.stepNum) _ known)
  · rintro _ progress ⟨_, _, hinvariant, _⟩
    exact hinvariant
  · exact at_evaluatePreparedCheckpoint hC htarget

end Checkpoint

end Run

end R2opl
