import R2opl.Evaluation.FinishedWork

/-!
# Completed documents

When a run ends as completed, its document covers exactly the checkpoints of the run, and
can be resumed to no effect, if and only if every entry it inherited is of one of these
checkpoints: the entries of checkpoints that have been removed since are never dropped.
-/

namespace R2opl

open Checked Program

variable {B R W E : Type}

/-- The entries are exactly the checkpoints, and every entry is completed. -/
structure ResultDocument.CompleteFor (document : ResultDocument B W E)
    (checkpoints : List CheckpointSpec) : Prop where
  covered : ∀ stepNum, (∃ step ∈ document.steps, step.stepNum = stepNum) ↔
    stepNum ∈ checkpoints.map CheckpointSpec.stepNum
  completed : ∀ step ∈ document.steps, step.status = .completed

/-- A further `--resume` of the command line, wherever the result file can be read, returns
    and changes nothing. -/
def Resumable (backend : Backend B R W E) (invocation : Invocation) (world : World B R W E) :
    Prop :=
  ∀ later : World B R W E, later.resultFile = world.resultFile →
    backend.validate later.clock = none → backend.readError (later.clock + 1) = none →
      (({ invocation with resume := true } : Invocation).main backend).run later =
        .ok () { later with clock := later.clock + 2 }

variable {backend : Backend B R W E} {config : EvaluationConfig}
  {checkpoints : List CheckpointSpec} {before after : World B R W E}
  {documents : List (ResultDocument B W E)} {evaluations : List (BaseEvaluation B R)}
  {final : ResultDocument B W E}

/-- The inherited entries of other steps are still in the document. -/
theorem World.CompletedBy.inherits
    (h : World.CompletedBy config checkpoints before after evaluations final)
    (hcomplete : final.CompleteFor checkpoints) :
    ∀ step ∈ before.steps, step.stepNum ∈ checkpoints.map CheckpointSpec.stepNum := by
  intro step hstep
  by_contra hremoved
  have hfinal := (h.frame step hremoved).mpr hstep
  exact hremoved ((hcomplete.covered _).mp ⟨step, hfinal, rfl⟩)

theorem World.CompletedBy.completeFor
    (h : World.CompletedBy config checkpoints before after evaluations final)
    (hascending : final.StepsAscending)
    (hinherited : ∀ step ∈ before.steps,
      step.stepNum ∈ checkpoints.map CheckpointSpec.stepNum) :
    final.CompleteFor checkpoints := by
  have hcheckpoint : ∀ step ∈ final.steps,
      step.stepNum ∈ checkpoints.map CheckpointSpec.stepNum := by
    intro step hstep
    by_contra hremoved
    exact hremoved (hinherited step ((h.frame step hremoved).mp hstep))
  have hdone : ∀ stepNum ∈ checkpoints.map CheckpointSpec.stepNum,
      ∃ step ∈ final.steps, step.status = .completed ∧ step.stepNum = stepNum := by
    intro stepNum hstepNum
    obtain ⟨checkpoint, hcheckpoint, rfl⟩ := List.mem_map.mp hstepNum
    exact ResultDocument.mem_completedSteps.mp (h.steps checkpoint hcheckpoint)
  constructor
  · intro stepNum
    constructor
    · rintro ⟨step, hstep, rfl⟩
      exact hcheckpoint step hstep
    · intro hstepNum
      obtain ⟨step, hstep, _, hsame⟩ := hdone stepNum hstepNum
      exact ⟨step, hstep, hsame⟩
  · intro step hstep
    obtain ⟨other, hother, hcompleted, hsame⟩ := hdone _ (hcheckpoint step hstep)
    rw [← hascending.eq_of_key hother hstep hsame]
    exact hcompleted

/-- A complete document is accepted for its checkpoints. -/
theorem World.CompletedBy.accepted
    (h : World.CompletedBy config checkpoints before after evaluations final)
    (hascending : final.StepsAscending) (hcomplete : final.CompleteFor checkpoints) (now : Nat) :
    loadCheckpointDocument config true (checkpoints.map CheckpointSpec.stepNum) now
      (some (.document final)) = .ok (final, true) := by
  have hentries : checkStepEntries [] final.steps = .ok () :=
    checkStepEntries_eq_ok.mpr ⟨hascending.nodup, fun _ _ => List.not_mem_nil⟩
  have hcompleted : checkCompleted config (checkpoints.map CheckpointSpec.stepNum) final =
      .ok () := by
    apply checkCompleted_eq_ok.mpr
    refine ⟨fun stepNum => ?_, h.initialBase⟩
    rw [ResultDocument.mem_completedSteps, ← hcomplete.covered]
    constructor
    · rintro ⟨step, hstep, _, hsame⟩
      exact ⟨step, hstep, hsame⟩
    · rintro ⟨step, hstep, hsame⟩
      exact ⟨step, hstep, hcomplete.completed step hstep, hsame⟩
  have htaken : takeUpDocument config (checkpoints.map CheckpointSpec.stepNum) now
      (.document final) = .ok final := by
    rw [takeUpDocument, checkSignature, raiseIf_of_not (not_not.mpr h.signature), ok_bind,
      hentries, ok_bind, if_pos h.status, hcompleted, ok_bind]
    rfl
  rw [loadCheckpointDocument, raiseIf_of_not Bool.noConfusion, ok_bind, htaken, ok_bind]
  rfl

/-- The run of a resume that finds its document completed. -/
theorem resumable_of_accepted {invocation : Invocation}
    (hper : invocation.config.usesSharedTeacher = false)
    (hdiscover : discoverCheckpoints invocation.config invocation.children = .ok checkpoints)
    (hfile : after.resultFile = some (.document final)) (hstatus : final.status = .completed)
    (haccepted : ∀ now, loadCheckpointDocument invocation.config true
      (checkpoints.map CheckpointSpec.stepNum) now (some (.document final)) =
        .ok (final, true)) :
    Resumable backend invocation after := by
  intro later hlater hvalidate hread
  have hmain : (({ invocation with resume := true } : Invocation).main backend).run later =
      (evaluateCheckpoints backend invocation.config checkpoints true).run
        { later with clock := later.clock + 1 } := by
    unfold Invocation.main
    rw [hdiscover]
    dsimp only
    rw [run_get_bind, run_modify_bind, hvalidate]
  have hread' : readResultFile backend { later with clock := later.clock + 1 } =
      some (.document final) := by
    rw [readResultFile, hlater, hfile, Option.map_some, hread]
    rfl
  have hstart : startDocument backend invocation.config checkpoints true
      { later with clock := later.clock + 1 } = .ok final := by
    have hexists : ¬ (true = true ∧ later.resultFile.isNone = true) := by
      rw [hlater, hfile]
      exact fun h => Bool.noConfusion h.2
    have hschedule : ¬ (invocation.config.usesSharedTeacher = true ∧ true = true) := by
      rw [hper]
      exact fun h => Bool.noConfusion h.1
    rw [startDocument, raiseIf_of_not hschedule, ok_bind, raiseIf_of_not hexists, ok_bind,
      hread', haccepted, ok_bind]
    dsimp only
    rw [raiseIf_of_not hschedule]
    rfl
  have hevaluate : (evaluateCheckpoints backend invocation.config checkpoints true).run
      { later with clock := later.clock + 1 } =
        .ok () { later with clock := later.clock + 2 } := by
    unfold evaluateCheckpoints
    rw [run_get_bind, run_modify_bind, hstart]
    dsimp only
    rw [if_pos hstatus]
    rfl
  rw [hmain, hevaluate]

/-! ### The runs that complete -/

/-- The run ends with a completed document of its own: it returns, or it stops after it has
    persisted one. -/
inductive Invocation.EndsCompleted (invocation : Invocation) (backend : Backend B R W E)
    (before : World B R W E) : World B R W E → Prop where
  | returned {after : World B R W E}
      (hrun : (invocation.main backend).run before = .ok () after) :
      EndsCompleted invocation backend before after
  | stopped {stop : Stop} {after : World B R W E} {document : ResultDocument B W E}
      (hrun : (invocation.main backend).run before = .error stop after)
      (hdocument : document ∈ after.history.drop before.history.length)
      (hstatus : document.status = .completed) :
      EndsCompleted invocation backend before after

theorem World.KeptBy.new_documents
    (h : World.KeptBy backend config before after documents evaluations) :
    after.history.drop before.history.length = documents := by
  rw [h.history_eq]
  exact List.drop_left

theorem Invocation.EndsCompleted.completedAt {invocation : Invocation}
    (h : invocation.EndsCompleted backend before after) (hsound : before.Sound)
    (hper : invocation.config.usesSharedTeacher = false) :
    ∃ checkpoints, discoverCheckpoints invocation.config invocation.children = .ok checkpoints ∧
      World.CompletedAt backend invocation.config checkpoints before after := by
  have hkeeps : Meets _ _ ((invocation.main backend).run before) :=
    main_keeps hsound invocation hper before rfl
  cases h with
  | returned hrun =>
    rw [hrun] at hkeeps
    exact hkeeps
  | stopped hrun hdocument hstatus =>
    rw [hrun] at hkeeps
    rcases hkeeps with hkept | ⟨checkpoints, hdiscover, documents, evaluations, hkept, hended⟩
    · rw [hkept.new_documents] at hdocument
      exact absurd hdocument List.not_mem_nil
    · rw [hkept.new_documents] at hdocument
      rcases hended with hunfinished | ⟨final, hcompleted⟩
      · exact absurd hstatus (hunfinished _ hdocument)
      · exact ⟨checkpoints, hdiscover, documents, evaluations, final, hkept, hcompleted⟩

/-- **When a completed document is complete.**  After any history of per-checkpoint runs, a
    run that ends with a completed document has it on disk; its entries are exactly the
    checkpoints the run discovered, all completed, and a further resume changes nothing, if
    and only if every entry on disk at its start is of one of these checkpoints. -/
theorem completed_document_complete_iff (h : CheckpointHistory backend before)
    (invocation : Invocation) (hper : invocation.config.usesSharedTeacher = false)
    (hended : invocation.EndsCompleted backend before after) :
    ∃ checkpoints final,
      discoverCheckpoints invocation.config invocation.children = .ok checkpoints ∧
      after.resultFile = some (.document final) ∧ final.status = .completed ∧
      (final.CompleteFor checkpoints ∧ Resumable backend invocation after ↔
        ∀ step ∈ before.steps, step.stepNum ∈ checkpoints.map CheckpointSpec.stepNum) := by
  obtain ⟨checkpoints, hdiscover, documents, evaluations, final, hkept, hcompleted⟩ :=
    hended.completedAt h.sound hper
  have hfile : after.resultFile = some (.document final) := by
    rw [hkept.sound.resultFile, hcompleted.written]
    rfl
  have hascending : final.StepsAscending :=
    hkept.sound.ascending final (List.mem_of_getLast? hcompleted.written)
  refine ⟨checkpoints, final, hdiscover, hfile, hcompleted.status, ?_⟩
  constructor
  · rintro ⟨hcomplete, _⟩
    exact hcompleted.inherits hcomplete
  · intro hinherited
    have hcomplete := hcompleted.completeFor hascending hinherited
    exact ⟨hcomplete, resumable_of_accepted hper hdiscover hfile hcompleted.status
      (hcompleted.accepted hascending hcomplete)⟩

/-- A resume of the crashed run, on the checkpoint directories there are by then. -/
def resumeAfterCrash (directories : List String) : Invocation :=
  ⟨baseOnlyConfig, directories.map checkpointDirectory, true⟩

/-- The step numbers of what is discovered, given those of the literal result. -/
theorem discovered_steps {children : List DirectoryEntry} {stepNums : List Nat}
    (hsteps : (discoverCheckpoints config children).map (List.map CheckpointSpec.stepNum) =
      .ok stepNums)
    (hdiscover : discoverCheckpoints config children = .ok checkpoints) :
    checkpoints.map CheckpointSpec.stepNum = stepNums := by
  rw [hdiscover] at hsteps
  exact Except.ok.inj hsteps

/-- Resumed on the directory of the crashed run, the document ends complete. -/
theorem completed_document_complete_iff_resumed :
    ∃ checkpoints after, ∃ final : ResultDocument Nat Nat Nat,
      discoverCheckpoints baseOnlyConfig [checkpointDirectory "global_step_5"] =
        .ok checkpoints ∧
      ((resumeAfterCrash ["global_step_5"]).main (killedAfter 6)).run crashedWorld =
        .ok () after ∧
      final.CompleteFor checkpoints ∧
      Resumable (killedAfter 6) (resumeAfterCrash ["global_step_5"]) after := by
  have hinherited : ∀ step ∈ crashedWorld.steps, step.stepNum = 5 := by decide
  obtain ⟨_, after, hrun⟩ := exists_of_returns (show returns
    (((resumeAfterCrash ["global_step_5"]).main (killedAfter 6)).run crashedWorld) = true by
      decide +kernel)
  obtain ⟨checkpoints, final, hdiscover, _, _, hcomplete⟩ :=
    completed_document_complete_iff crashedWorld_reached (resumeAfterCrash ["global_step_5"])
      rfl (.returned hrun)
  have hsteps : checkpoints.map CheckpointSpec.stepNum = [5] := discovered_steps rfl hdiscover
  have hheld := hcomplete.mpr fun step hstep => by
    rw [hsteps, hinherited step hstep]
    exact List.mem_singleton.mpr rfl
  exact ⟨checkpoints, after, final, hdiscover, hrun, hheld.1, hheld.2⟩

/-- Resumed on another directory after step 5 is removed, the document ends completed and
    still has the entry of step 5, of which only the base phase is done. -/
theorem completed_document_keeps_removed_step :
    CheckpointHistory (killedAfter 6) crashedWorld ∧
    ∃ checkpoints final after,
      discoverCheckpoints baseOnlyConfig [checkpointDirectory "global_step_10"] =
        .ok checkpoints ∧
      ((resumeAfterCrash ["global_step_10"]).main (killedAfter 6)).run crashedWorld =
        .ok () after ∧
      after.resultFile = some (.document final) ∧ final.status = .completed ∧
      baseOfStepFive ∈ final.steps ∧ baseOfStepFive.status ≠ .completed ∧
      ¬ final.CompleteFor checkpoints := by
  obtain ⟨_, after, hrun⟩ := exists_of_returns (show returns
    (((resumeAfterCrash ["global_step_10"]).main (killedAfter 6)).run crashedWorld) = true by
      decide +kernel)
  obtain ⟨checkpoints, hdiscover, _, _, final, hkept, hcompleted⟩ :=
    Invocation.EndsCompleted.completedAt (.returned hrun) crashedWorld_reached.sound rfl
  have hsteps : checkpoints.map CheckpointSpec.stepNum = [10] := discovered_steps rfl hdiscover
  have hremoved : baseOfStepFive ∈ final.steps := by
    apply (hcompleted.frame baseOfStepFive _).mpr
    · exact List.mem_cons_self
    · rw [hsteps]
      decide
  have hfile : after.resultFile = some (.document final) := by
    rw [hkept.sound.resultFile, hcompleted.written]
    rfl
  refine ⟨crashedWorld_reached, checkpoints, final, after, hdiscover, hrun, hfile,
    hcompleted.status, hremoved, nofun, fun hcomplete => ?_⟩
  cases hcomplete.completed baseOfStepFive hremoved

end R2opl
