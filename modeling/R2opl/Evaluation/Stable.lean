import R2opl.Evaluation.Schedules

/-!
# What the evaluation leaves alone

A property of sessions that survives every single operation on the document and on the
world survives the phases built from them.  Merged model directories and changes of the
document's status stand apart: the properties that depend on them have rules of their own.
-/

namespace R2opl

open Checked Program

variable {B R W E α : Type}

/-- A property that the operations away from merged models and from the document's status
    leave alone. -/
structure Stable (I : Session B R W E → Prop) : Prop where
  tick : ∀ session, I session → I { session with clock := session.clock + 1 }
  change : ∀ session document, document.status = session.document.status → I session →
    I { session with document := document }
  write : ∀ session, I session → I { session with
    resultFile := some (.document session.document)
    history := session.history ++ [session.document] }
  evaluation : ∀ session evaluation, I session →
    I { session with evaluations := session.evaluations ++ [evaluation] }

namespace Stable

variable {I : Session B R W E → Prop} (h : Stable I) {backend : Backend B R W E}
  {config : EvaluationConfig}

include h

/-! ### Operations -/

theorem preserves_external (outcome : Nat → Except Stop α) :
    Preserves I (external outcome) := by
  intro session hsession
  change Meets _ _ (external outcome session)
  unfold external
  cases outcome session.clock with
  | ok a => exact h.tick session hsession
  | error stop => exact h.tick session hsession

omit h in
theorem preserves_utcNow : Preserves I utcNow :=
  fun _ hsession => hsession

theorem preserves_modifyDocument {change : ResultDocument B W E → ResultDocument B W E}
    (hstatus : ∀ document, (change document).status = document.status) :
    Preserves I (modifyDocument change) :=
  fun session hsession => h.change session _ (hstatus _) hsession

theorem preserves_atomicWriteJson : Preserves I (atomicWriteJson backend) := by
  intro session hsession
  change Meets _ _ (atomicWriteJson backend session)
  unfold atomicWriteJson
  have hnext := h.tick session hsession
  cases backend.write session.clock with
  | replaced stop =>
    cases stop with
    | none => exact h.write _ hnext
    | some stop => exact h.write _ hnext
  | failed stop => exact hnext

theorem preserves_evaluateBaseModel (target : EvaluationTarget) (model : ModelSpec) :
    Preserves I (evaluateBaseModel backend config target model) := by
  unfold evaluateBaseModel
  apply triple_bind (h.preserves_external _)
  intro _ session hsession
  exact h.evaluation session _ hsession

theorem preserves_resolveCheckpointModel (checkpoint : CheckpointSpec) (modelDir : String) :
    Preserves I (resolveCheckpointModel backend config checkpoint modelDir) := by
  unfold resolveCheckpointModel
  cases config.baseModel with
  | some baseModel => exact fun _ hsession => hsession
  | none =>
    apply triple_bind (h.preserves_external _)
    intro _ _ hsession
    exact hsession

theorem preserves_mergeCheckpoint (checkpoint : CheckpointSpec) :
    Preserves I (mergeCheckpoint backend config checkpoint) := by
  unfold mergeCheckpoint
  split
  · exact triple_throw fun _ hsession => hsession
  · exact h.preserves_external _

/-! ### Phases -/

section Phases

variable {store : EvaluationResult B W E → ResultDocument B W E → ResultDocument B W E}
  (hstore : ∀ result document, (store result document).status = document.status)

include hstore

theorem preserves_runErsrPhases (phase : String) (model : ModelSpec) (records : R)
    (result : EvaluationResult B W E) :
    Preserves I (runErsrPhases backend config phase model records result store) := by
  unfold runErsrPhases
  cases config.ersr with
  | none => exact fun _ hsession => hsession
  | some _ =>
    apply triple_bind (h.preserves_external _)
    intro _
    refine triple_bind (h.preserves_modifyDocument ?_) fun _ => ?_
    · exact fun _ => rfl
    apply triple_bind h.preserves_atomicWriteJson
    intro _
    apply triple_bind (h.preserves_external _)
    intro _
    refine triple_bind (h.preserves_modifyDocument ?_) fun _ => ?_
    · exact fun _ => hstore _ _
    apply triple_bind h.preserves_atomicWriteJson
    intro _
    apply triple_bind (h.preserves_external _)
    intro _ _ hsession
    exact hsession

theorem preserves_finishResult (phase : String) (model : ModelSpec) (records : R)
    (result : EvaluationResult B W E) :
    Preserves I (finishResult backend config phase model records result store) := by
  unfold finishResult
  apply triple_bind (h.preserves_runErsrPhases hstore phase model records result)
  intro _
  apply triple_bind preserves_utcNow
  intro _
  refine triple_bind (h.preserves_modifyDocument ?_) fun _ => ?_
  · exact fun _ => hstore _ _
  exact h.preserves_atomicWriteJson

end Phases

theorem preserves_evaluateInitialBase (baseModel : ModelSpec) :
    Preserves I (evaluateInitialBase backend config baseModel) := by
  unfold evaluateInitialBase
  refine triple_bind (h.preserves_modifyDocument ?_) fun _ => ?_
  · exact fun _ => rfl
  apply triple_bind h.preserves_atomicWriteJson
  intro _
  apply triple_bind (h.preserves_evaluateBaseModel _ _)
  rintro ⟨result, records⟩
  refine triple_bind (h.preserves_modifyDocument ?_) fun _ => ?_
  · exact fun _ => rfl
  apply triple_bind h.preserves_atomicWriteJson
  intro _
  apply h.preserves_finishResult
  exact fun _ _ => rfl

theorem preserves_runInitialBaseEvaluation :
    Preserves I (runInitialBaseEvaluation backend config) := by
  unfold runInitialBaseEvaluation
  apply triple_get_bind
  rintro session hsession
  have hsame : ∀ s, s = session → I s := by
    rintro _ rfl
    exact hsession
  split
  · exact triple_pure hsame
  · exact triple_throw hsame
  · split
    · exact triple_pure hsame
    · exact (h.preserves_evaluateInitialBase _).weaken hsame

theorem preserves_evaluatePreparedCheckpoint (checkpoint : CheckpointSpec)
    (modelDir : String) :
    Preserves I (evaluatePreparedCheckpoint backend config checkpoint modelDir) := by
  unfold evaluatePreparedCheckpoint
  apply triple_bind (h.preserves_resolveCheckpointModel _ _)
  intro _
  apply triple_bind (h.preserves_evaluateBaseModel _ _)
  rintro ⟨result, records⟩
  refine triple_bind (h.preserves_modifyDocument ?_) fun _ => ?_
  · exact fun _ => rfl
  apply triple_bind h.preserves_atomicWriteJson
  intro _
  apply h.preserves_finishResult
  exact fun _ _ => rfl

end Stable

/-! ### Merged models -/

/-- What runs on an exception keeps the invariant. -/
theorem preserves_onRaise {I : Session B R W E → Prop} {body : Program (Session B R W E) Stop α}
    {cleanup : PyError → Program (Session B R W E) Stop Unit} (hbody : Preserves I body)
    (hcleanup : ∀ error, Preserves I (cleanup error)) : Preserves I (onRaise body cleanup) := by
  apply triple_tryCatch hbody
  intro stop
  cases stop with
  | killed => exact triple_throw fun _ hsession => hsession
  | raised error =>
    apply triple_bind (hcleanup error)
    intro _
    exact triple_throw fun _ hsession => hsession

/-- A property that the merged models leave alone as well. -/
structure StableOutside (I : Session B R W E → Prop) : Prop extends Stable I where
  models : ∀ session directories opened, I session →
    I { session with directories := directories, opened := opened }
  removal : ∀ session root failed propagating, I session → I { session with
    removals := session.removals ++ [⟨root, failed, propagating, none⟩] }

namespace StableOutside

variable {I : Session B R W E → Prop} (h : StableOutside I) {backend : Backend B R W E}
  {config : EvaluationConfig}

include h

theorem preserves_removeMergedModel (root : Nat) (propagating : Option PyError) :
    Preserves I (removeMergedModel backend root propagating) := by
  intro session hsession
  change Meets _ _ (removeMergedModel backend root propagating session)
  unfold removeMergedModel
  have hnext := h.tick session hsession
  cases backend.removeDirectory session.clock with
  | removed => exact h.models _ _ _ (h.removal _ root false propagating hnext)
  | osError cleanupError => exact h.removal _ root true propagating hnext
  | stopped stop => exact hnext

theorem preserves_leavePreparedModel (model : PreparedModel) (propagating : Option PyError) :
    Preserves I (leavePreparedModel backend model propagating) := by
  unfold leavePreparedModel
  cases model.temporaryRoot with
  | none => exact triple_pure fun _ hsession => hsession
  | some root => exact h.preserves_removeMergedModel root propagating

theorem preserves_makeTemporaryRoot : Preserves I (makeTemporaryRoot backend) := by
  apply triple_bind Stable.preserves_utcNow
  intro root
  apply triple_bind (h.preserves_external _)
  intro _ session hsession
  exact h.models session _ session.opened hsession

theorem preserves_enterPreparedModel (checkpoint : CheckpointSpec) :
    Preserves I (enterPreparedModel backend config checkpoint) := by
  unfold enterPreparedModel
  split
  · exact triple_pure fun _ hsession => hsession
  · exact triple_throw fun _ hsession => hsession
  · exact triple_throw fun _ hsession => hsession
  · apply triple_bind h.preserves_makeTemporaryRoot
    intro root
    apply triple_bind (preserves_onRaise (h.preserves_mergeCheckpoint checkpoint)
      fun _ => h.preserves_removeMergedModel _ _)
    intro _
    exact triple_pure fun _ hsession => hsession

/-! ### One checkpoint after the other -/

theorem preserves_withPreparedModel (checkpoint : CheckpointSpec)
    {body : String → Program (Session B R W E) Stop α}
    (hbody : ∀ modelDir, Preserves I (body modelDir)) :
    Preserves I (withPreparedModel backend config checkpoint body) := by
  unfold withPreparedModel
  apply triple_bind (h.preserves_enterPreparedModel checkpoint)
  intro model
  apply triple_bind
    (preserves_onRaise (hbody model.path) fun _ => h.preserves_leavePreparedModel _ _)
  intro _
  apply triple_bind (h.preserves_leavePreparedModel model none)
  intro _
  exact triple_pure fun _ hsession => hsession

theorem preserves_evaluateCheckpoint (checkpoint : CheckpointSpec) :
    Preserves I (evaluateCheckpoint backend config checkpoint) := by
  unfold evaluateCheckpoint
  refine triple_bind (h.preserves_modifyDocument ?_) fun _ => ?_
  · exact fun _ => rfl
  apply triple_bind h.preserves_atomicWriteJson
  intro _
  exact h.preserves_withPreparedModel _ fun _ => h.preserves_evaluatePreparedCheckpoint _ _

theorem preserves_runCheckpointPerCheckpoint (checkpoints : List CheckpointSpec) :
    Preserves I (runCheckpointPerCheckpoint backend config checkpoints) := by
  unfold runCheckpointPerCheckpoint
  apply triple_bind h.preserves_runInitialBaseEvaluation
  intro _
  apply triple_get_bind
  intro session hsession
  apply (triple_forM (fun _ => I) _).mono
  · rintro _ rfl
    exact hsession
  · exact fun _ _ hfinal => hfinal
  · exact fun _ _ hfinal => hfinal
  · intro _ checkpoint _ _
    split
    · exact triple_pure fun _ hsession => hsession
    · exact h.preserves_evaluateCheckpoint checkpoint

/-! ### One teacher pass over all checkpoints -/

theorem preserves_closeAll (roots : List Nat) (propagating : Option PyError) :
    Preserves I (closeAll backend roots propagating) := by
  induction roots generalizing propagating with
  | nil => exact triple_pure fun _ hsession => hsession
  | cons root rest ih =>
    have hremove : Preserves I (do
        removeMergedModel backend root propagating
        return propagating) := by
      apply triple_bind (h.preserves_removeMergedModel root propagating)
      intro _
      exact triple_pure fun _ hsession => hsession
    unfold closeAll
    refine triple_bind (triple_tryCatch hremove ?_) ih
    intro stop
    cases stop with
    | killed => exact triple_throw fun _ hsession => hsession
    | raised error => exact triple_pure fun _ hsession => hsession

theorem preserves_withExitStack {body : Program (Session B R W E) Stop Unit}
    (hbody : Preserves I body) : Preserves I (withExitStack backend body) := by
  have hreturned : Preserves I (do
      body
      return (none : Option PyError)) := by
    apply triple_bind hbody
    intro _
    exact triple_pure fun _ hsession => hsession
  unfold withExitStack
  refine triple_bind (triple_tryCatch hreturned ?_) ?_
  · intro stop
    cases stop with
    | killed => exact triple_throw fun _ hsession => hsession
    | raised error => exact triple_pure fun _ hsession => hsession
  · intro propagating
    apply triple_get_bind
    intro session hsession
    have hemptied : Triple (fun s => s = session)
        (modify fun session => { session with opened := [] } :
          Program (Session B R W E) Stop PUnit) (fun _ => I) (fun _ => I) := by
      apply triple_modify
      rintro s rfl
      exact h.models s s.directories [] hsession
    apply triple_bind hemptied
    intro _
    apply triple_bind (h.preserves_closeAll session.opened propagating)
    intro error
    cases error with
    | none => exact triple_pure fun _ hsession => hsession
    | some error => exact triple_throw fun _ hsession => hsession

theorem preserves_evaluateSharedBase (checkpoint : CheckpointSpec) :
    Preserves I (evaluateSharedBase backend config checkpoint) := by
  have henter : Preserves I (enterOnStack backend config checkpoint) := by
    unfold enterOnStack
    apply triple_bind (h.preserves_enterPreparedModel checkpoint)
    intro model
    refine triple_bind (triple_modify ?_) fun _ => triple_pure fun _ hsession => hsession
    intro session hsession
    exact h.models session session.directories _ hsession
  unfold evaluateSharedBase
  apply triple_bind henter
  intro prepared
  apply triple_bind (h.preserves_resolveCheckpointModel _ _)
  intro model
  apply triple_bind (h.preserves_evaluateBaseModel _ _)
  rintro ⟨result, records⟩
  refine triple_bind (h.preserves_modifyDocument ?_) fun _ => ?_
  · exact fun _ => rfl
  apply triple_bind h.preserves_atomicWriteJson
  intro _
  apply triple_bind (h.preserves_external _)
  intro _
  exact triple_pure fun _ hsession => hsession

theorem preserves_evaluateSharedStudent (shared : SharedWork B W E) :
    Preserves I (evaluateSharedStudent backend config shared) := by
  unfold evaluateSharedStudent
  apply triple_bind (h.preserves_external _)
  intro ersr
  apply triple_bind Stable.preserves_utcNow
  intro now
  refine triple_bind (h.preserves_modifyDocument ?_) fun _ => ?_
  · exact fun _ => rfl
  apply triple_bind h.preserves_atomicWriteJson
  intro _
  unfold closeOnStack
  refine triple_bind (triple_modify ?_) fun _ => h.preserves_leavePreparedModel shared.model none
  intro session hsession
  exact h.models session session.directories _ hsession

theorem preserves_runSharedPhases (checkpoints : List CheckpointSpec) :
    Preserves I (runSharedPhases backend config checkpoints) := by
  unfold runSharedPhases
  apply triple_bind (triple_mapM h.preserves_evaluateSharedBase checkpoints)
  intro bases
  refine triple_bind (h.preserves_modifyDocument ?_) fun _ => ?_
  · exact fun _ => rfl
  apply triple_bind h.preserves_atomicWriteJson
  intro _
  apply triple_bind (h.preserves_external _)
  intro works
  refine triple_bind (triple_forM (fun _ => I) fun _ _ _ _ => ?_) fun _ => ?_
  · apply h.preserves_modifyDocument
    exact fun _ => rfl
  refine triple_bind (h.preserves_modifyDocument ?_) fun _ => ?_
  · exact fun _ => rfl
  apply triple_bind h.preserves_atomicWriteJson
  intro _
  exact triple_forM (fun _ => I) fun _ _ _ _ => h.preserves_evaluateSharedStudent _

theorem preserves_runSchedule (checkpoints : List CheckpointSpec) :
    Preserves I (runSchedule backend config checkpoints) := by
  unfold runSchedule
  split
  · unfold runCheckpointSharedTeacher
    apply triple_bind h.preserves_runInitialBaseEvaluation
    intro _
    exact h.preserves_withExitStack (h.preserves_runSharedPhases checkpoints)
  · exact h.preserves_runCheckpointPerCheckpoint checkpoints

end StableOutside

/-! ### Runs without a completed document -/

/-- Neither the document in memory nor one persisted since the start is completed. -/
def Unfinished (start : World B R W E) (session : Session B R W E) : Prop :=
  session.document.status ≠ .completed ∧
    ∀ document ∈ session.history.drop start.history.length, document.status ≠ .completed

variable {start : World B R W E} {backend : Backend B R W E}

/-- A run that takes up an unfinished document has persisted nothing yet. -/
theorem unfinished_of_start {session : Session B R W E}
    (hstatus : session.document.status ≠ .completed) (hhistory : session.history = start.history) :
    Unfinished start session := by
  refine ⟨hstatus, ?_⟩
  rw [hhistory, List.drop_length]
  exact fun _ hdocument => absurd hdocument List.not_mem_nil

theorem stableOutside_unfinished : StableOutside (Unfinished start) where
  tick := fun _ h => h
  change := by
    intro session document hstatus h
    refine ⟨?_, h.2⟩
    change document.status ≠ .completed
    rw [hstatus]
    exact h.1
  write := by
    intro session h
    refine ⟨h.1, fun document hdocument => ?_⟩
    change document ∈ (session.history ++ [session.document]).drop _ at hdocument
    rw [List.drop_append] at hdocument
    rcases List.mem_append.mp hdocument with hold | hnew
    · exact h.2 document hold
    · rw [List.mem_singleton.mp (List.mem_of_mem_drop hnew)]
      exact h.1
  evaluation := fun _ _ h => h
  models := fun _ _ _ h => h
  removal := fun _ _ _ _ h => h

/-- The handler of a failed run does not complete the document. -/
theorem unfinished_handler (error : PyError) :
    Preserves (Unfinished start) (do
      let now ← utcNow
      modifyDocument fun document =>
        { document with status := .failed, error := some error, updatedAt := some now }
      atomicWriteJson backend) := by
  apply triple_bind Stable.preserves_utcNow
  intro now
  have hfailed : Preserves (Unfinished start) (modifyDocument fun document =>
      { document with status := .failed, error := some error, updatedAt := some now }) :=
    fun _ h => ⟨RunStatus.noConfusion, h.2⟩
  apply triple_bind hfailed
  intro _
  exact stableOutside_unfinished.preserves_atomicWriteJson

end R2opl
