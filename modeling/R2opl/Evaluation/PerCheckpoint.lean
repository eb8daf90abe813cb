import R2opl.Evaluation.RunRules
import R2opl.Evaluation.Stable

/-!
# A whole per-checkpoint run

The initial base model, the loop over the checkpoints, and `evaluate_checkpoints` around
them: what a run that returns has finished, and what a run that stops has kept.
-/

namespace R2opl

open Checked Program

variable {B R W E α : Type}

/-- The completed base evaluation that the configuration asks for. -/
def ResultDocument.InitialBaseDone (config : EvaluationConfig)
    (document : ResultDocument B W E) : Prop :=
  config.initialBaseEvaluation = true → document.Done .initialBase

namespace Run

variable {run : Run B R W E} {known : List (BaseEvaluation B R)}

/-- One of these evaluations is of the target. -/
def Covers (known : List (BaseEvaluation B R)) (target : EvaluationTarget) : Prop :=
  ∃ evaluation ∈ known, evaluation.target = target

/-! ### The initial base model -/

/-- The document still has the loaded document's entries. -/
def Untouched (run : Run B R W E) (document : ResultDocument B W E) : Prop :=
  ∀ step, step ∈ document.steps ↔ step ∈ run.loaded.steps

/-- After the initial base model: it is finished where it was asked for, and was loaded
    as finished or has been evaluated. -/
def AfterInitialBase (run : Run B R W E) (session : Session B R W E) : Prop :=
  ∃ known : List (BaseEvaluation B R),
    (run.config.initialBaseEvaluation = true →
      run.loaded.Done .initialBase ∨ Covers known .initialBase) ∧
    run.At (fun document => run.Untouched document ∧ document.InitialBaseDone run.config)
      known session

theorem untouched_of_touches {document changed : ResultDocument B W E}
    (h : document.Touches .initialBase changed) (hdocument : run.Untouched document) :
    run.Untouched changed :=
  fun step => (h.others step EvaluationTarget.noConfusion).trans (hdocument step)

theorem at_runInitialBaseEvaluation :
    Triple
      (run.At (fun document => run.Untouched document ∧
        document.initialBase = run.loaded.initialBase) [])
      (runInitialBaseEvaluation run.backend run.config)
      (fun _ => run.AfterInitialBase) run.Stopped := by
  unfold runInitialBaseEvaluation
  apply triple_get_bind
  rintro session ⟨hinvariant, ⟨huntouched, hloaded⟩, _⟩
  split
  · rename_i hdisabled
    apply triple_pure
    rintro _ rfl
    refine ⟨[], ?_, hinvariant, ⟨huntouched, ?_⟩, List.nil_subset _⟩
    · intro henabled
      rw [hdisabled] at henabled
      exact Bool.noConfusion henabled
    · intro henabled
      rw [hdisabled] at henabled
      exact Bool.noConfusion henabled
  · apply triple_throw
    rintro _ rfl
    exact hinvariant
  · rename_i baseModel _ _
    split
    · rename_i hdone
      apply triple_pure
      rintro _ rfl
      refine ⟨[], fun _ => .inl ?_, hinvariant, ⟨huntouched, fun _ => hdone⟩,
        List.nil_subset _⟩
      rw [ResultDocument.Done, ← hloaded]
      exact hdone
    · rename_i hpending
      have hpre : ∀ s, s = session → run.At (fun document =>
          run.Untouched document ∧ document.Pending .initialBase) [] s := by
        rintro _ rfl
        refine ⟨hinvariant, ⟨huntouched, ?_⟩, List.nil_subset _⟩
        intro result hresult hcompleted
        exact hpending (Option.map_eq_some_iff.mpr ⟨result, hresult, hcompleted⟩)
      apply ((at_evaluateInitialBase (fun _ _ => untouched_of_touches) baseModel).mono hpre)
      · rintro _ final ⟨evaluation, htarget, hfinal, ⟨hsteps, hdone⟩, hknown⟩
        exact ⟨[evaluation], fun _ => .inr ⟨evaluation, List.mem_cons_self, htarget⟩, hfinal,
          ⟨hsteps, fun _ => hdone⟩, hknown⟩
      · exact fun _ _ h => h

/-! ### The loop -/

/-- The documents of the loop: every step done is finished, and no step to come has become
    so. -/
structure LoopDocument (run : Run B R W E) (completedSteps : List Nat)
    (done rest : List CheckpointSpec) (document : ResultDocument B W E) : Prop where
  initialBase : document.InitialBaseDone run.config
  kept : completedSteps ⊆ document.completedSteps
  finished : ∀ checkpoint ∈ done, document.Done (.checkpoint checkpoint.stepNum)
  pending : ∀ checkpoint ∈ rest, checkpoint.stepNum ∉ completedSteps →
    checkpoint.stepNum ∉ document.completedSteps

namespace LoopDocument

variable {completedSteps : List Nat} {done rest : List CheckpointSpec}
  {checkpoint : CheckpointSpec} {document changed : ResultDocument B W E}

/-- A round of the loop touches no other step. -/
theorem of_touches (hdistinct : ∀ other ∈ rest, other.stepNum ≠ checkpoint.stepNum)
    (htouches : document.Touches (.checkpoint checkpoint.stepNum) changed)
    (h : run.LoopDocument completedSteps done rest document) :
    run.LoopDocument completedSteps done rest changed where
  initialBase := fun henabled => .of_keeps htouches.keeps (h.initialBase henabled)
  kept := List.Subset.trans h.kept htouches.keeps.completedSteps
  finished := fun other hother => .of_keeps htouches.keeps (h.finished other hother)
  pending := by
    intro other hother hnew
    apply ResultDocument.not_mem_completedSteps_of_touches htouches _
      (h.pending other hother hnew)
    intro heq
    exact hdistinct other hother (EvaluationTarget.checkpoint.inj heq).symm

theorem tail (h : run.LoopDocument completedSteps done (checkpoint :: rest) document) :
    run.LoopDocument completedSteps done rest document :=
  { h with pending := fun other hother => h.pending other (List.mem_cons_of_mem _ hother) }

theorem step (h : run.LoopDocument completedSteps done rest document)
    (hdone : document.Done (.checkpoint checkpoint.stepNum)) :
    run.LoopDocument completedSteps (done ++ [checkpoint]) rest document :=
  { h with
    finished := by
      intro other hother
      rcases List.mem_append.mp hother with hold | hnew
      · exact h.finished other hold
      · rw [List.mem_singleton.mp hnew]
        exact hdone }

end LoopDocument

/-- The states of the loop: every step done was completed before it or has been
    evaluated. -/
def AtLoop (run : Run B R W E) (checkpoints : List CheckpointSpec) (completedSteps : List Nat)
    (done : List CheckpointSpec) (session : Session B R W E) : Prop :=
  ∃ known : List (BaseEvaluation B R),
    (run.config.initialBaseEvaluation = true →
      run.loaded.Done .initialBase ∨ Covers known .initialBase) ∧
    (∀ checkpoint ∈ done, checkpoint.stepNum ∈ completedSteps ∨
      Covers known (.checkpoint checkpoint.stepNum)) ∧
    run.At (fun document => ∀ rest, checkpoints = done ++ rest →
      run.LoopDocument completedSteps done rest document) known session

theorem Covers.cons {evaluation : BaseEvaluation B R} {target : EvaluationTarget}
    (h : Covers known target) : Covers (evaluation :: known) target := by
  obtain ⟨other, hother, htarget⟩ := h
  exact ⟨other, List.mem_cons_of_mem _ hother, htarget⟩

/-- One round of the loop. -/
theorem atLoop_round {checkpoints done rest : List CheckpointSpec} {checkpoint : CheckpointSpec}
    {completedSteps : List Nat}
    (hascending : (checkpoints.map CheckpointSpec.stepNum).Pairwise (· < ·))
    (htargets : ∀ checkpoint ∈ checkpoints, checkpoint.stepNum ∈ run.targets)
    (hcheckpoints : checkpoints = done ++ checkpoint :: rest) :
    Triple (run.AtLoop checkpoints completedSteps done)
      (if checkpoint.stepNum ∈ completedSteps then return ()
        else evaluateCheckpoint run.backend run.config checkpoint)
      (fun _ => run.AtLoop checkpoints completedSteps (done ++ [checkpoint]))
      run.Stopped := by
  have hrest : ∀ rest', checkpoints = (done ++ [checkpoint]) ++ rest' → rest' = rest := by
    intro rest' h
    rw [hcheckpoints, List.append_assoc] at h
    exact (List.cons.inj (List.append_cancel_left h)).2.symm
  apply Triple.exists_pre
  intro known
  apply Triple.assume
  intro hinitial
  apply Triple.assume
  intro hcovered
  split
  · rename_i hcompleted
    apply triple_pure
    rintro session ⟨hinvariant, hdocument, hknown⟩
    refine ⟨known, hinitial, ?_, hinvariant, ?_, hknown⟩
    · intro other hother
      rcases List.mem_append.mp hother with hold | hnew
      · exact hcovered other hold
      · rw [List.mem_singleton.mp hnew]
        exact .inl hcompleted
    · intro rest' hrest'
      rw [hrest rest' hrest']
      have hloop := (hdocument _ hcheckpoints).tail
      exact hloop.step (hloop.kept hcompleted)
  · rename_i hnew
    have hdistinct : ∀ other ∈ rest, other.stepNum ≠ checkpoint.stepNum := by
      intro other hother
      rw [hcheckpoints, List.map_append, List.map_cons] at hascending
      have hcons := List.pairwise_cons.mp (List.pairwise_append.mp hascending).2.1
      exact (ne_of_gt (hcons.1 _ (List.mem_map_of_mem hother)))
    have hmem : checkpoint.stepNum ∈ run.targets := by
      apply htargets
      rw [hcheckpoints]
      exact List.mem_append_right _ List.mem_cons_self
    apply (at_evaluateCheckpoint
      (fun _ _ => LoopDocument.of_touches hdistinct) hmem).mono
    · rintro session ⟨hinvariant, hdocument, hknown⟩
      have hloop := hdocument _ hcheckpoints
      exact ⟨hinvariant, ⟨hloop.tail, hloop.pending checkpoint List.mem_cons_self hnew⟩, hknown⟩
    · rintro _ session ⟨evaluation, htarget, hinvariant, ⟨hloop, hdone⟩, hknown⟩
      refine ⟨evaluation :: known, fun henabled => (hinitial henabled).imp_right .cons, ?_,
        hinvariant, ?_, hknown⟩
      · intro other hother
        rcases List.mem_append.mp hother with hold | hlast
        · exact (hcovered other hold).imp_right .cons
        · rw [List.mem_singleton.mp hlast]
          exact .inr ⟨evaluation, List.mem_cons_self, htarget⟩
      · intro rest' hrest'
        rw [hrest rest' hrest']
        exact hloop.step hdone
    · exact fun _ _ h => h

/-- After the loop every checkpoint is finished; those that were not loaded as finished
    have been evaluated from their base phase. -/
structure Finished (run : Run B R W E) (checkpoints : List CheckpointSpec)
    (progress : Progress B R W E) : Prop where
  invariant : run.Invariant progress
  initialBase : progress.document.InitialBaseDone run.config
  steps : ∀ checkpoint ∈ checkpoints,
    progress.document.Done (.checkpoint checkpoint.stepNum)
  initialBase_evaluated : run.config.initialBaseEvaluation = true →
    run.loaded.Done .initialBase ∨ Covers (run.newEvaluations progress) .initialBase
  steps_evaluated : ∀ checkpoint ∈ checkpoints,
    run.loaded.Done (.checkpoint checkpoint.stepNum) ∨
      Covers (run.newEvaluations progress) (.checkpoint checkpoint.stepNum)

theorem Covers.mono {known' : List (BaseEvaluation B R)} {target : EvaluationTarget}
    (h : Covers known target) (hsubset : known ⊆ known') : Covers known' target := by
  obtain ⟨evaluation, hevaluation, htarget⟩ := h
  exact ⟨evaluation, hsubset hevaluation, htarget⟩

theorem at_runCheckpointPerCheckpoint {checkpoints : List CheckpointSpec}
    (hascending : (checkpoints.map CheckpointSpec.stepNum).Pairwise (· < ·))
    (htargets : ∀ checkpoint ∈ checkpoints, checkpoint.stepNum ∈ run.targets) :
    Triple
      (run.At (fun document => run.Untouched document ∧
        document.initialBase = run.loaded.initialBase) [])
      (runCheckpointPerCheckpoint run.backend run.config checkpoints)
      (fun _ session => run.Finished checkpoints session.progress) run.Stopped := by
  unfold runCheckpointPerCheckpoint
  apply triple_bind at_runInitialBaseEvaluation
  intro _
  apply triple_get_bind
  rintro session ⟨known, hinitial, hinvariant, ⟨huntouched, hinitialDone⟩, hknown⟩
  have hcompleted : ∀ stepNum, stepNum ∈ session.document.completedSteps ↔
      stepNum ∈ run.loaded.completedSteps := by
    intro stepNum
    simp only [ResultDocument.mem_completedSteps, huntouched _]
  apply (triple_forM (run.AtLoop checkpoints session.document.completedSteps)
    (fun _ _ _ hcheckpoints => atLoop_round hascending htargets hcheckpoints)).mono
  · rintro _ rfl
    refine ⟨known, hinitial, nofun, hinvariant, ?_, hknown⟩
    intro rest _
    exact ⟨hinitialDone, List.Subset.refl _, nofun, fun _ _ hnew => hnew⟩
  · rintro _ final ⟨known', hinitial', hcovered, hinvariant', hdocument, hknown'⟩
    have hloop := hdocument [] (List.append_nil _).symm
    exact {
      invariant := hinvariant'
      initialBase := hloop.initialBase
      steps := hloop.finished
      initialBase_evaluated := fun henabled =>
        (hinitial' henabled).imp_right fun hcovers => hcovers.mono hknown'
      steps_evaluated := fun checkpoint hcheckpoint =>
        (hcovered checkpoint hcheckpoint).imp (hcompleted _).mp
          fun hcovers => hcovers.mono hknown' }
  · exact fun _ _ h => h

/-! ### The document around the loop -/

/-- A change of the status fields. -/
theorem Finished.sameEntries {checkpoints : List CheckpointSpec} {progress : Progress B R W E}
    (h : run.Finished checkpoints progress) {document : ResultDocument B W E}
    (hsteps : document.steps = progress.document.steps)
    (hinitial : document.initialBase = progress.document.initialBase)
    (hsignature : document.checkpointRunSignature = progress.document.checkpointRunSignature) :
    run.Finished checkpoints (progress.withDocument document) where
  invariant := by
    have htarget : ∀ stepNum, EvaluationTarget.initialBase = .checkpoint stepNum →
        stepNum ∈ run.targets := nofun
    exact h.invariant.change
      (.sameEntries h.invariant htarget hsteps hinitial hsignature)
  initialBase := by
    intro henabled
    change document.initialBase.map (·.status) = _
    rw [hinitial]
    exact h.initialBase henabled
  steps := by
    intro checkpoint hcheckpoint
    change checkpoint.stepNum ∈ document.completedSteps
    rw [ResultDocument.completedSteps, hsteps]
    exact h.steps checkpoint hcheckpoint
  initialBase_evaluated := h.initialBase_evaluated
  steps_evaluated := h.steps_evaluated

theorem Finished.persisted {checkpoints : List CheckpointSpec} {progress : Progress B R W E}
    (h : run.Finished checkpoints progress) : run.Finished checkpoints progress.persisted :=
  { h with invariant := h.invariant.persisted }

/-- The handler of a failed run keeps the invariant. -/
theorem stopped_handler (error : PyError) :
    Triple (fun session => run.Invariant session.progress)
      (do
        let now ← utcNow
        modifyDocument fun document =>
          { document with status := .failed, error := some error, updatedAt := some now }
        atomicWriteJson run.backend)
      (fun _ session => run.Invariant session.progress) run.Stopped := by
  have hstatus : ∀ now, Triple (run.At (fun _ => True) [])
      (modifyDocument fun document =>
        { document with status := .failed, error := some error, updatedAt := some now })
      (fun _ => run.At (fun _ => True) []) run.Stopped := by
    intro now
    apply at_modifyDocument
    intro progress hinvariant _ _
    have htarget : ∀ stepNum, EvaluationTarget.initialBase = .checkpoint stepNum →
        stepNum ∈ run.targets := nofun
    exact ⟨.sameEntries hinvariant htarget rfl rfl rfl, trivial⟩
  have hhandler : Triple (run.At (fun _ => True) [])
      (do
        let now ← utcNow
        modifyDocument fun document =>
          { document with status := .failed, error := some error, updatedAt := some now }
        atomicWriteJson run.backend)
      (fun _ => run.At (fun _ => True) []) run.Stopped :=
    triple_bind at_utcNow fun now => triple_bind (hstatus now) fun _ => at_atomicWriteJson
  apply hhandler.mono
  · exact fun _ hinvariant => ⟨hinvariant, trivial, List.nil_subset _⟩
  · exact fun _ _ h => h.1
  · exact fun _ _ h => h

/-- A run that has persisted its final, completed document. -/
structure Completed (run : Run B R W E) (checkpoints : List CheckpointSpec)
    (progress : Progress B R W E) : Prop extends run.Finished checkpoints progress where
  status : progress.document.status = .completed
  written : progress.history.getLast? = some progress.document

/-- How a run stops: with no completed document of its own, or right after the final one. -/
def Ended (run : Run B R W E) (checkpoints : List CheckpointSpec) (_ : Stop)
    (session : Session B R W E) : Prop :=
  run.Invariant session.progress ∧
    ((∀ document ∈ run.newDocuments session.progress, document.status ≠ .completed) ∨
      run.Completed checkpoints session.progress)

/-- A part of the run before its final write. -/
theorem triple_ended {P : Session B R W E → Prop} {Q : α → Session B R W E → Prop}
    {m : Program (Session B R W E) Stop α} (checkpoints : List CheckpointSpec)
    (h : Triple P m Q run.Stopped) (hunfinished : Preserves (Unfinished run.start) m) :
    Triple (fun session => P session ∧ Unfinished run.start session) m
      (fun a session => Q a session ∧ Unfinished run.start session) (run.Ended checkpoints) := by
  apply (h.and hunfinished).mono
  · exact fun _ hsession => hsession
  · exact fun _ _ hsession => hsession
  · exact fun _ _ hsession => ⟨hsession.1, .inl hsession.2.2⟩

/-- The last write of a run. -/
theorem completed_atomicWriteJson {checkpoints : List CheckpointSpec} :
    Triple
      (fun session : Session B R W E => run.Finished checkpoints session.progress ∧
        session.document.status = .completed ∧
        ∀ document ∈ run.newDocuments session.progress, document.status ≠ .completed)
      (atomicWriteJson run.backend)
      (fun _ session => run.Completed checkpoints session.progress)
      (run.Ended checkpoints) := by
  rintro session ⟨hfinished, hstatus, hunfinished⟩
  have hcompleted : run.Completed checkpoints session.progress.persisted := {
    toFinished := hfinished.persisted
    status := hstatus
    written := List.getLast?_concat }
  change Meets _ _ (atomicWriteJson run.backend session)
  unfold atomicWriteJson
  cases run.backend.write session.clock with
  | replaced stop =>
    cases stop with
    | none => exact hcompleted
    | some stop => exact ⟨hcompleted.invariant, .inr hcompleted⟩
  | failed stop => exact ⟨hfinished.invariant, .inl hunfinished⟩

theorem completed_runDocument {checkpoints : List CheckpointSpec}
    (hascending : (checkpoints.map CheckpointSpec.stepNum).Pairwise (· < ·))
    (htargets : ∀ checkpoint ∈ checkpoints, checkpoint.stepNum ∈ run.targets)
    (hper : run.config.usesSharedTeacher = false) :
    Triple
      (fun session => run.At (fun document => run.Untouched document ∧
        document.initialBase = run.loaded.initialBase) [] session ∧ Unfinished run.start session)
      (runDocument run.backend run.config checkpoints)
      (fun _ session => run.Completed checkpoints session.progress)
      (run.Ended checkpoints) := by
  have hrun : runSchedule run.backend run.config checkpoints =
      runCheckpointPerCheckpoint run.backend run.config checkpoints := by
    rw [runSchedule, hper]
    rfl
  unfold runDocument
  rw [hrun]
  apply triple_bind (triple_ended checkpoints at_atomicWriteJson
    stableOutside_unfinished.preserves_atomicWriteJson)
  intro _
  apply triple_bind (triple_ended checkpoints
    (stopped_onRaise (at_runCheckpointPerCheckpoint hascending htargets) stopped_handler)
    (preserves_onRaise
      (stableOutside_unfinished.preserves_runCheckpointPerCheckpoint checkpoints)
      unfinished_handler))
  intro _
  have hnow : Triple
      (fun session : Session B R W E =>
        run.Finished checkpoints session.progress ∧ Unfinished run.start session)
      utcNow
      (fun _ session => run.Finished checkpoints session.progress ∧ Unfinished run.start session)
      (run.Ended checkpoints) :=
    fun _ hsession => hsession
  apply triple_bind hnow
  intro now
  have hstatus : Triple
      (fun session : Session B R W E =>
        run.Finished checkpoints session.progress ∧ Unfinished run.start session)
      (modifyDocument fun document =>
        { document with status := .completed, phase := "completed", completedAt := some now })
      (fun _ session => run.Finished checkpoints session.progress ∧
        session.document.status = .completed ∧
        ∀ document ∈ run.newDocuments session.progress, document.status ≠ .completed)
      (run.Ended checkpoints) :=
    fun _ hsession => ⟨hsession.1.sameEntries rfl rfl rfl, rfl, hsession.2.2⟩
  apply triple_bind hstatus
  intro _
  exact completed_atomicWriteJson

end Run

end R2opl
