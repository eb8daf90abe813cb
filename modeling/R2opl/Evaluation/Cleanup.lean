import R2opl.Evaluation.Completion

/-!
# The clean-up of merged models

A removal that fails is looked up in the exception state of its own handler, which is never
empty, so that no failed removal is ever reported.  Where no removal fails outside of a
propagating exception, this does no harm: what propagates stays what is reported, and a run
that completes its document leaves no merged model directory behind.
-/

namespace R2opl

open Checked Program

variable {B R W E : Type}

/-! ### Removals -/

/-- What propagates after the removal. -/
def Removal.reported (removal : Removal) : Option PyError := removal.raised.or removal.propagating

/-- The removal fails and no other exception propagates. -/
def Removal.FailsAlone (removal : Removal) : Prop :=
  removal.failed = true ∧ removal.propagating = none

/-- A failed removal is reported, or leaves the exception that propagates around it. -/
structure Removal.Surfaced (removal : Removal) : Prop where
  alone : removal.FailsAlone → removal.reported ≠ none
  primary : removal.failed = true → ∀ error, removal.propagating = some error →
    removal.reported = some error

def World.newRemovals (before after : World B R W E) : List Removal :=
  after.removals.drop before.removals.length

/-- What a run must do with its merged models. -/
structure Invocation.CleansUp (invocation : Invocation) (backend : Backend B R W E)
    (before after : World B R W E) : Prop where
  directories : invocation.EndsCompleted backend before after →
    after.directories ⊆ before.directories
  surfaced : ∀ removal ∈ before.newRemovals after, removal.Surfaced

/-! ### No removal raises -/

/-- None of the removals since the start has raised. -/
def Unraised (start : World B R W E) (session : Session B R W E) : Prop :=
  ∀ removal ∈ start.newRemovals session.toWorld, removal.raised = none

variable {start : World B R W E} {backend : Backend B R W E} {config : EvaluationConfig}
  {checkpoints : List CheckpointSpec}

theorem mem_newRemovals {session : Session B R W E} {removal added : Removal}
    (h : removal ∈ (session.removals ++ [added]).drop start.removals.length) :
    removal ∈ start.newRemovals session.toWorld ∨ removal = added := by
  rw [List.drop_append] at h
  rcases List.mem_append.mp h with hold | hnew
  · exact .inl hold
  · exact .inr (List.mem_singleton.mp (List.mem_of_mem_drop hnew))

theorem stableOutside_unraised : StableOutside (Unraised start) where
  tick := fun _ h => h
  change := fun _ _ _ h => h
  write := fun _ h => h
  evaluation := fun _ _ h => h
  models := fun _ _ _ h => h
  removal := by
    intro session root failed propagating h removal hremoval
    rcases mem_newRemovals hremoval with hold | rfl
    · exact h removal hold
    · rfl

theorem unraised_modifyDocument (change : ResultDocument B W E → ResultDocument B W E) :
    Preserves (Unraised start) (modifyDocument change) :=
  fun _ h => h

theorem unraised_runDocument :
    Preserves (Unraised start) (runDocument backend config checkpoints) := by
  unfold runDocument
  apply triple_bind stableOutside_unraised.preserves_atomicWriteJson
  intro _
  refine triple_bind (preserves_onRaise
    (stableOutside_unraised.preserves_runSchedule checkpoints) fun error => ?_) fun _ => ?_
  · apply triple_bind Stable.preserves_utcNow
    intro now
    apply triple_bind (unraised_modifyDocument _)
    intro _
    exact stableOutside_unraised.preserves_atomicWriteJson
  · apply triple_bind Stable.preserves_utcNow
    intro now
    apply triple_bind (unraised_modifyDocument _)
    intro _
    exact stableOutside_unraised.preserves_atomicWriteJson

/-! ### The directories on disk -/

/-- Unless a removal has failed alone, the directories created since the start are among
    these roots. -/
structure Holds (start : World B R W E) (roots opened : List Nat) (session : Session B R W E) :
    Prop where
  opened_eq : session.opened = opened
  logged : start.removals.length ≤ session.removals.length
  directories : (∃ removal ∈ start.newRemovals session.toWorld, removal.FailsAlone) ∨
    session.directories ⊆ start.directories ++ roots

variable {roots opened : List Nat}

theorem stable_holds : Stable (Holds start roots opened) where
  tick := fun _ h => ⟨h.opened_eq, h.logged, h.directories⟩
  change := fun _ _ _ h => ⟨h.opened_eq, h.logged, h.directories⟩
  write := fun _ h => ⟨h.opened_eq, h.logged, h.directories⟩
  evaluation := fun _ _ h => ⟨h.opened_eq, h.logged, h.directories⟩

theorem Holds.mono {session : Session B R W E} {roots' : List Nat}
    (h : Holds start roots opened session) (hsubset : roots ⊆ roots') :
    Holds start roots' opened session where
  opened_eq := h.opened_eq
  logged := h.logged
  directories := by
    apply h.directories.imp_right
    intro hheld directory hdirectory
    rcases List.mem_append.mp (hheld hdirectory) with hstart | hroot
    · exact List.mem_append_left _ hstart
    · exact List.mem_append_right _ (hsubset hroot)

/-- Outside of a propagating exception, a removal takes its root away or fails alone. -/
theorem holds_removeMergedModel (root : Nat) :
    Triple (Holds start roots opened) (removeMergedModel backend root none)
      (fun _ => Holds start (roots.filter (· ≠ root)) opened) (fun _ _ => True) := by
  intro session h
  have hlogged : ∀ added, start.removals.length ≤ (session.removals ++ [added]).length := by
    intro added
    rw [List.length_append]
    exact h.logged.trans (Nat.le_add_right _ _)
  change Meets _ _ (removeMergedModel backend root none session)
  unfold removeMergedModel
  cases backend.removeDirectory session.clock with
  | stopped stop => exact trivial
  | removed =>
    refine ⟨h.opened_eq, hlogged _, h.directories.imp ?_ ?_⟩
    · rintro ⟨removal, hremoval, halone⟩
      refine ⟨removal, ?_, halone⟩
      unfold World.newRemovals
      rw [List.drop_append_of_le_length h.logged]
      exact List.mem_append_left _ hremoval
    · intro hsubset directory hdirectory
      obtain ⟨hold, hother⟩ := List.mem_filter.mp hdirectory
      rcases List.mem_append.mp (hsubset hold) with hstart | hroot
      · exact List.mem_append_left _ hstart
      · exact List.mem_append_right _ (List.mem_filter.mpr ⟨hroot, hother⟩)
  | osError cleanupError =>
    refine ⟨h.opened_eq, hlogged _, .inl ?_⟩
    refine ⟨⟨root, true, none, none⟩, ?_, rfl, rfl⟩
    unfold World.newRemovals
    change _ ∈ (session.removals ++ [_]).drop _
    rw [List.drop_append_of_le_length h.logged]
    exact List.mem_append_right _ (List.mem_singleton.mpr rfl)

theorem holds_leavePreparedModel (model : PreparedModel) :
    Triple (Holds start roots opened) (leavePreparedModel backend model none)
      (fun _ => Holds start (roots.filter fun root => some root ≠ model.temporaryRoot) opened)
      (fun _ _ => True) := by
  unfold leavePreparedModel
  cases model.temporaryRoot with
  | none =>
    apply triple_pure
    intro session h
    apply h.mono
    intro root hroot
    exact List.mem_filter.mpr ⟨hroot, by simp⟩
  | some removed =>
    apply (holds_removeMergedModel removed).strengthen
    intro _ session h
    apply h.mono
    intro root hroot
    obtain ⟨hroot, hother⟩ := List.mem_filter.mp hroot
    exact List.mem_filter.mpr ⟨hroot, by simpa using hother⟩

theorem triple_onRaise {α : Type} {P : Session B R W E → Prop} {Q : α → Session B R W E → Prop}
    {body : Program (Session B R W E) Stop α}
    {cleanup : PyError → Program (Session B R W E) Stop Unit}
    (hbody : Triple P body Q fun _ _ => True) :
    Triple P (onRaise body cleanup) Q fun _ _ => True := by
  apply triple_tryCatch hbody
  intro stop
  cases stop with
  | killed => exact triple_throw fun _ _ => trivial
  | raised error => exact triple_bind triple_true fun _ => triple_throw fun _ _ => trivial

theorem holds_makeTemporaryRoot :
    Triple (Holds start roots opened) (makeTemporaryRoot backend)
      (fun root => Holds start (root :: roots) opened) (fun _ _ => True) := by
  unfold makeTemporaryRoot
  apply triple_bind Stable.preserves_utcNow.dropStop
  intro root
  apply triple_bind (stable_holds.preserves_external _).dropStop
  intro _ session h
  refine ⟨h.opened_eq, h.logged, h.directories.imp_right fun hsubset => ?_⟩
  intro directory hdirectory
  rcases List.mem_append.mp hdirectory with hold | hnew
  · rcases List.mem_append.mp (hsubset hold) with hstart | hroot
    · exact List.mem_append_left _ hstart
    · exact List.mem_append_right _ (List.mem_cons_of_mem _ hroot)
  · rw [List.mem_singleton.mp hnew]
    exact List.mem_append_right _ List.mem_cons_self

/-- Entering a prepared model adds its temporary root. -/
theorem holds_enterPreparedModel (checkpoint : CheckpointSpec) :
    Triple (Holds start roots opened) (enterPreparedModel backend config checkpoint)
      (fun model => Holds start (model.temporaryRoot.toList ++ roots) opened)
      (fun _ _ => True) := by
  unfold enterPreparedModel
  split
  · exact triple_pure fun _ h => h
  · exact triple_throw fun _ _ => trivial
  · exact triple_throw fun _ _ => trivial
  · apply triple_bind holds_makeTemporaryRoot
    intro root
    apply triple_bind (triple_onRaise (stable_holds.preserves_mergeCheckpoint checkpoint).dropStop)
    intro _
    exact triple_pure fun _ h => h

/-- A body that leaves the directories alone, with its model's root gone after it. -/
theorem holds_withPreparedModel {α : Type} {checkpoint : CheckpointSpec}
    {body : String → Program (Session B R W E) Stop α}
    (hbody : ∀ roots modelDir, Preserves (Holds start roots opened) (body modelDir)) :
    Triple (Holds start roots opened) (withPreparedModel backend config checkpoint body)
      (fun _ => Holds start roots opened) (fun _ _ => True) := by
  unfold withPreparedModel
  apply triple_bind (holds_enterPreparedModel checkpoint)
  intro model
  apply triple_bind (triple_onRaise (hbody _ model.path).dropStop)
  intro _
  apply triple_bind (holds_leavePreparedModel model)
  intro _
  apply triple_pure
  intro session h
  apply h.mono
  intro root hroot
  obtain ⟨hmem, hother⟩ := List.mem_filter.mp hroot
  rcases List.mem_append.mp hmem with hmodel | hroot
  · exact absurd (Option.mem_toList.mp hmodel).symm (of_decide_eq_true hother)
  · exact hroot

/-! ### The schedules -/

theorem holds_runCheckpointPerCheckpoint :
    Triple (Holds start roots opened) (runCheckpointPerCheckpoint backend config checkpoints)
      (fun _ => Holds start roots opened) (fun _ _ => True) := by
  unfold runCheckpointPerCheckpoint
  apply triple_bind stable_holds.preserves_runInitialBaseEvaluation.dropStop
  intro _
  apply triple_get_bind
  intro session hsession
  apply (triple_forM (fun _ => Holds start roots opened) _).weaken
  · rintro _ rfl
    exact hsession
  · intro _ checkpoint _ _
    split
    · exact triple_pure fun _ h => h
    · unfold evaluateCheckpoint
      refine triple_bind (stable_holds.preserves_modifyDocument ?_).dropStop fun _ => ?_
      · exact fun _ => rfl
      apply triple_bind stable_holds.preserves_atomicWriteJson.dropStop
      intro _
      apply holds_withPreparedModel
      exact fun _ _ => stable_holds.preserves_evaluatePreparedCheckpoint _ _

/-- The directories created since the start are those on the exit stack. -/
def HoldsStack (start : World B R W E) (session : Session B R W E) : Prop :=
  ∃ roots, Holds start roots roots session

theorem stable_holdsStack : Stable (HoldsStack start) where
  tick := fun session ⟨roots, h⟩ => ⟨roots, stable_holds.tick session h⟩
  change := fun session document hstatus ⟨roots, h⟩ =>
    ⟨roots, stable_holds.change session document hstatus h⟩
  write := fun session ⟨roots, h⟩ => ⟨roots, stable_holds.write session h⟩
  evaluation := fun session evaluation ⟨roots, h⟩ =>
    ⟨roots, stable_holds.evaluation session evaluation h⟩

theorem holdsStack_enterOnStack (checkpoint : CheckpointSpec) :
    Triple (HoldsStack start) (enterOnStack backend config checkpoint)
      (fun _ => HoldsStack start) (fun _ _ => True) := by
  apply Triple.exists_pre
  intro roots
  unfold enterOnStack
  apply triple_bind (holds_enterPreparedModel checkpoint)
  intro model session h
  refine ⟨model.temporaryRoot.toList ++ roots, ?_, h.logged, h.directories⟩
  change model.temporaryRoot.toList ++ session.opened = _
  rw [h.opened_eq]

theorem holdsStack_closeOnStack (model : PreparedModel) :
    Triple (HoldsStack start) (closeOnStack backend model) (fun _ => HoldsStack start)
      (fun _ _ => True) := by
  apply Triple.exists_pre
  intro roots
  unfold closeOnStack
  have hopened : Triple (Holds start roots roots)
      (modify fun session => { session with
        opened := session.opened.filter fun root => some root ≠ model.temporaryRoot } :
          Program (Session B R W E) Stop PUnit)
      (fun _ => Holds start roots (roots.filter fun root => some root ≠ model.temporaryRoot))
      (fun _ _ => True) := by
    apply triple_modify
    intro session h
    refine ⟨?_, h.logged, h.directories⟩
    change session.opened.filter _ = _
    rw [h.opened_eq]
  apply triple_bind hopened
  intro _
  apply (holds_leavePreparedModel model).strengthen
  exact fun _ _ h => ⟨_, h⟩

theorem holdsStack_runSharedPhases :
    Triple (HoldsStack start) (runSharedPhases backend config checkpoints)
      (fun _ => HoldsStack start) (fun _ _ => True) := by
  have hbase : ∀ checkpoint, Triple (HoldsStack start)
      (evaluateSharedBase backend config checkpoint) (fun _ => HoldsStack start)
      (fun _ _ => True) := by
    intro checkpoint
    unfold evaluateSharedBase
    apply triple_bind (holdsStack_enterOnStack checkpoint)
    intro prepared
    apply triple_bind (stable_holdsStack.preserves_resolveCheckpointModel _ _).dropStop
    intro model
    apply triple_bind (stable_holdsStack.preserves_evaluateBaseModel _ _).dropStop
    rintro ⟨result, records⟩
    refine triple_bind (stable_holdsStack.preserves_modifyDocument ?_).dropStop fun _ => ?_
    · exact fun _ => rfl
    apply triple_bind stable_holdsStack.preserves_atomicWriteJson.dropStop
    intro _
    apply triple_bind (stable_holdsStack.preserves_external _).dropStop
    intro _
    exact triple_pure fun _ h => h
  have hstudent : ∀ shared, Triple (HoldsStack start)
      (evaluateSharedStudent backend config shared) (fun _ => HoldsStack start)
      (fun _ _ => True) := by
    intro shared
    unfold evaluateSharedStudent
    apply triple_bind (stable_holdsStack.preserves_external _).dropStop
    intro ersr
    apply triple_bind Stable.preserves_utcNow.dropStop
    intro now
    refine triple_bind (stable_holdsStack.preserves_modifyDocument ?_).dropStop fun _ => ?_
    · exact fun _ => rfl
    apply triple_bind stable_holdsStack.preserves_atomicWriteJson.dropStop
    intro _
    exact holdsStack_closeOnStack shared.model
  unfold runSharedPhases
  apply triple_bind (triple_mapM hbase checkpoints)
  intro bases
  refine triple_bind (stable_holdsStack.preserves_modifyDocument ?_).dropStop fun _ => ?_
  · exact fun _ => rfl
  apply triple_bind stable_holdsStack.preserves_atomicWriteJson.dropStop
  intro _
  apply triple_bind (stable_holdsStack.preserves_external _).dropStop
  intro works
  refine triple_bind (triple_forM (fun _ => HoldsStack start) fun _ _ _ _ => ?_) fun _ => ?_
  · refine (stable_holdsStack.preserves_modifyDocument ?_).dropStop
    exact fun _ => rfl
  refine triple_bind (stable_holdsStack.preserves_modifyDocument ?_).dropStop fun _ => ?_
  · exact fun _ => rfl
  apply triple_bind stable_holdsStack.preserves_atomicWriteJson.dropStop
  intro _
  exact triple_forM (fun _ => HoldsStack start) fun _ shared _ _ => hstudent shared

/-- Unless an exception propagates in the end, the roots of the stack are gone. -/
theorem holds_closeAll (roots : List Nat) (propagating : Option PyError) :
    Triple (fun session => propagating = none → Holds start roots opened session)
      (closeAll backend roots propagating)
      (fun final session => final = none → Holds start [] opened session) (fun _ _ => True) := by
  induction roots generalizing propagating with
  | nil => exact triple_pure fun _ h => h
  | cons root rest ih =>
    have hremove : Triple
        (fun session => propagating = none → Holds start (root :: rest) opened session)
        (do
          removeMergedModel backend root propagating
          return propagating)
        (fun final session => final = none → Holds start rest opened session)
        (fun _ _ => True) := by
      cases propagating with
      | some error =>
        apply triple_bind triple_true
        intro _
        exact triple_pure fun _ _ => nofun
      | none =>
        apply triple_bind ((holds_removeMergedModel root).weaken fun _ h => h rfl)
        intro _
        apply triple_pure
        intro session h _
        apply h.mono
        intro other hother
        obtain ⟨hmem, hne⟩ := List.mem_filter.mp hother
        exact (List.mem_cons.mp hmem).resolve_left (of_decide_eq_true hne)
    unfold closeAll
    refine triple_bind (triple_tryCatch hremove ?_) fun final => ih final
    intro stop
    cases stop with
    | killed => exact triple_throw fun _ _ => trivial
    | raised error => exact triple_pure fun _ _ => nofun

theorem holds_runCheckpointSharedTeacher :
    Triple (Holds start [] []) (runCheckpointSharedTeacher backend config checkpoints)
      (fun _ => Holds start [] []) (fun _ _ => True) := by
  unfold runCheckpointSharedTeacher
  apply triple_bind stable_holds.preserves_runInitialBaseEvaluation.dropStop
  intro _
  unfold withExitStack
  refine triple_bind (Q := fun propagating session => propagating = none →
    HoldsStack start session) ?_ ?_
  · refine triple_tryCatch (triple_bind
      (holdsStack_runSharedPhases.weaken fun _ h => ⟨[], h⟩) ?_) ?_
    · intro _
      exact triple_pure fun _ h _ => h
    · intro stop
      cases stop with
      | killed => exact triple_throw fun _ _ => trivial
      | raised error => exact triple_pure fun _ _ h => absurd h (Option.some_ne_none error)
  intro propagating
  apply triple_get_bind
  intro session hsession
  have hemptied : Triple (fun s => s = session)
      (modify fun session => { session with opened := [] } :
        Program (Session B R W E) Stop PUnit)
      (fun _ s => propagating = none → Holds start session.opened [] s) (fun _ _ => True) := by
    apply triple_modify
    rintro s rfl hnone
    obtain ⟨roots, h⟩ := hsession hnone
    rw [h.opened_eq]
    exact ⟨rfl, h.logged, h.directories⟩
  apply triple_bind hemptied
  intro _
  apply triple_bind (holds_closeAll session.opened propagating)
  intro final
  cases final with
  | none => exact triple_pure fun _ h => h rfl
  | some error => exact triple_throw fun _ _ => trivial

theorem holds_runSchedule :
    Triple (Holds start [] []) (runSchedule backend config checkpoints)
      (fun _ => Holds start [] []) (fun _ _ => True) := by
  unfold runSchedule
  split
  · exact holds_runCheckpointSharedTeacher
  · exact holds_runCheckpointPerCheckpoint

/-! ### Whole runs -/

/-- Before its final document a run that stops has persisted no completed one. -/
theorem holds_runDocument :
    Triple (fun session => Holds start [] [] session ∧ Unfinished start session)
      (runDocument backend config checkpoints) (fun _ => Holds start [] [])
      (fun _ session => Holds start [] [] session ∨
        ∀ document ∈ session.history.drop start.history.length,
          document.status ≠ .completed) := by
  have hended : ∀ session, Unfinished start session → Holds start [] [] session ∨
      ∀ document ∈ session.history.drop start.history.length, document.status ≠ .completed :=
    fun _ h => .inr h.2
  unfold runDocument
  refine triple_bind (((stable_holds.preserves_atomicWriteJson).and
    stableOutside_unfinished.preserves_atomicWriteJson).mono (fun _ h => h) (fun _ _ h => h)
      fun _ session h => hended session h.2) fun _ => ?_
  refine triple_bind (((triple_onRaise holds_runSchedule).and (preserves_onRaise
    (stableOutside_unfinished.preserves_runSchedule checkpoints) unfinished_handler)).mono
      (fun _ h => h) (fun _ _ h => h) fun _ session h => hended session h.2) fun _ => ?_
  apply Triple.mono (P := Holds start [] []) (Q := fun _ => Holds start [] [])
    (E := fun _ => Holds start [] []) _ (fun _ h => h.1) (fun _ _ h => h) fun _ _ h => .inl h
  apply triple_bind Stable.preserves_utcNow
  intro now
  have hstatus : Preserves (Holds start [] []) (modifyDocument fun document =>
      { document with status := .completed, phase := "completed", completedAt := some now }) :=
    fun _ h => ⟨h.opened_eq, h.logged, h.directories⟩
  apply triple_bind hstatus
  intro _
  exact stable_holds.preserves_atomicWriteJson

/-- Unless a removal has failed alone, the directories are those of the start. -/
def World.Cleared (before after : World B R W E) : Prop :=
  (∃ removal ∈ before.newRemovals after, removal.FailsAlone) ∨
    after.directories ⊆ before.directories

/-- How a run leaves the merged models when it returns. -/
def World.ClearedBy (before after : World B R W E) : Prop :=
  before.Cleared after ∧ ∀ removal ∈ before.newRemovals after, removal.raised = none

/-- How a run leaves the merged models when it stops. -/
def World.StoppedClearedBy (before after : World B R W E) : Prop :=
  (before.Cleared after ∨ ∀ document ∈ after.history.drop before.history.length,
      document.status ≠ .completed) ∧
    ∀ removal ∈ before.newRemovals after, removal.raised = none

/-- A run that touches nothing but the clock. -/
theorem World.clearedBy_of_eq {before after : World B R W E}
    (hdirectories : after.directories = before.directories)
    (hremovals : after.removals = before.removals) : before.ClearedBy after := by
  constructor
  · right
    rw [hdirectories]
    exact List.Subset.refl _
  · unfold World.newRemovals
    rw [hremovals, List.drop_length]
    exact fun _ hremoval => absurd hremoval List.not_mem_nil

theorem World.ClearedBy.stopped {before after : World B R W E} (h : before.ClearedBy after) :
    before.StoppedClearedBy after :=
  ⟨.inl h.1, h.2⟩

theorem Holds.cleared {session : Session B R W E} (h : Holds start [] [] session) :
    start.Cleared session.toWorld := by
  apply h.directories.imp_right
  rw [List.append_nil]
  exact id

theorem evaluateCheckpoints_clears (resume : Bool) (before : World B R W E) :
    Triple (fun world => world = before) (evaluateCheckpoints backend config checkpoints resume)
      (fun _ => before.ClearedBy) (fun _ => before.StoppedClearedBy) := by
  unfold evaluateCheckpoints
  apply triple_get_bind
  rintro world rfl
  apply triple_bind (triple_modify_eq _ world)
  intro _
  cases startDocument backend config checkpoints resume world with
  | error error =>
    apply triple_throw
    rintro _ rfl
    exact (World.clearedBy_of_eq rfl rfl).stopped
  | ok document =>
    dsimp only
    split
    · apply triple_pure
      rintro _ rfl
      exact World.clearedBy_of_eq rfl rfl
    · rename_i hstatus
      have hrun : Triple
          (fun session : Session B R W E =>
            (Holds world [] [] session ∧ Unfinished world session) ∧ Unraised world session)
          (runDocument backend config checkpoints) _ _ :=
        holds_runDocument.and unraised_runDocument
      apply triple_within
      apply hrun.mono
      · rintro _ ⟨_, rfl, rfl⟩
        refine ⟨⟨⟨rfl, le_refl _, .inr ?_⟩, unfinished_of_start hstatus rfl⟩, ?_⟩
        · exact List.subset_append_left _ _
        · exact (World.clearedBy_of_eq rfl rfl).2
      · exact fun _ _ h => ⟨h.1.cleared, h.2⟩
      · exact fun _ _ h => ⟨h.1.imp_left Holds.cleared, h.2⟩

theorem main_clears (invocation : Invocation) (before : World B R W E) :
    Triple (fun world => world = before) (invocation.main backend)
      (fun _ => before.ClearedBy) (fun _ => before.StoppedClearedBy) := by
  unfold Invocation.main
  cases discoverCheckpoints invocation.config invocation.children with
  | error error =>
    apply triple_throw
    rintro _ rfl
    exact (World.clearedBy_of_eq rfl rfl).stopped
  | ok checkpoints =>
    apply triple_get_bind
    rintro world rfl
    apply triple_bind (triple_modify_eq _ world)
    intro _
    cases backend.validate world.clock with
    | some stop =>
      apply triple_throw
      rintro _ rfl
      exact (World.clearedBy_of_eq rfl rfl).stopped
    | none =>
      apply (evaluateCheckpoints_clears invocation.resume _).mono
      · exact fun _ h => h
      · exact fun _ _ h => h
      · exact fun _ _ h => h

/-- A run that ends with a completed document is cleared. -/
theorem Invocation.EndsCompleted.cleared {invocation : Invocation} {before after : World B R W E}
    (h : invocation.EndsCompleted backend before after) : before.Cleared after := by
  have hclears : Meets _ _ ((invocation.main backend).run before) :=
    main_clears invocation before before rfl
  cases h with
  | returned hrun =>
    rw [hrun] at hclears
    exact hclears.1
  | stopped hrun hdocument hstatus =>
    rw [hrun] at hclears
    exact hclears.1.resolve_right fun hunfinished => hunfinished _ hdocument hstatus

theorem unraised_main (backend : Backend B R W E) (invocation : Invocation)
    (before : World B R W E) :
    ∀ removal ∈ before.newRemovals (finalState ((invocation.main backend).run before)),
      removal.raised = none := by
  have hclears : Meets _ _ ((invocation.main backend).run before) :=
    main_clears invocation before before rfl
  exact (hclears.mono (fun _ _ h => h.2) fun _ _ h => h.2).final

/-- **When merged models are cleaned up.**  For every run of either schedule, from any state
    of the disk: no directory it created outlives a completed document and every failed
    removal is surfaced, if and only if no removal of the run fails while no other exception
    propagates. -/
theorem merged_models_cleaned_up_iff (backend : Backend B R W E) (invocation : Invocation)
    (before : World B R W E) :
    invocation.CleansUp backend before (finalState ((invocation.main backend).run before)) ↔
      ∀ removal ∈ before.newRemovals (finalState ((invocation.main backend).run before)),
        removal.propagating = none → removal.failed = false := by
  have hraised := unraised_main backend invocation before
  constructor
  · intro h removal hremoval hnone
    by_contra hfailed
    have halone : removal.FailsAlone := ⟨Bool.not_eq_false _ ▸ hfailed, hnone⟩
    apply (h.surfaced removal hremoval).alone halone
    rw [Removal.reported, hraised removal hremoval, hnone]
    rfl
  · intro h
    have hnever : ∀ removal ∈ before.newRemovals _, ¬ removal.FailsAlone :=
      fun removal hremoval halone => by
        have hfailed := h removal hremoval halone.2
        rw [halone.1] at hfailed
        exact Bool.noConfusion hfailed
    constructor
    · intro hended
      exact hended.cleared.resolve_left fun ⟨removal, hremoval, halone⟩ =>
        hnever removal hremoval halone
    · intro removal hremoval
      constructor
      · exact fun halone => absurd halone (hnever removal hremoval)
      · intro _ error hpropagating
        rw [Removal.reported, hraised removal hremoval, hpropagating]
        rfl

/-! ### A failed removal -/

/-- An FSDP checkpoint directory with its own metadata. -/
def shardedDirectory (name : String) : DirectoryEntry :=
  { checkpointDirectory name with
    chooseHfModel := .ok none
    chooseFsdpSource := fun _ => .ok name
    hasFsdpHuggingfaceMetadata := true }

/-- Every removal fails, and nothing else does. -/
def failingRemovals : Backend Nat Nat Nat Nat :=
  { killedAfter 0 with removeDirectory := fun _ => .osError ⟨.osError, "Directory not empty"⟩ }

/-- A first run over one checkpoint that has to be merged. -/
def mergedRun : EStateM.Result Stop (World Nat Nat Nat Nat) Unit :=
  (Invocation.main failingRemovals
    ⟨baseOnlyConfig, [shardedDirectory "global_step_5"], false⟩).run
      (World.initial Nat Nat Nat Nat)

/-- The run returns with the merged model on disk, and nothing reports the failed removal. -/
theorem failed_removal_swallowed :
    returns mergedRun = true ∧ (finalState mergedRun).directories ≠ [] ∧
    (∃ removal ∈ (finalState mergedRun).removals,
      removal.failed = true ∧ removal.propagating = none ∧ removal.reported = none) ∧
    ¬ Invocation.CleansUp ⟨baseOnlyConfig, [shardedDirectory "global_step_5"], false⟩
      failingRemovals (World.initial Nat Nat Nat Nat) (finalState mergedRun) := by
  have hreturns : returns mergedRun = true := by decide +kernel
  have hdirectories : (finalState mergedRun).directories ≠ [] := by decide +kernel
  have hremoval : ∃ removal ∈ (finalState mergedRun).removals,
      removal.failed = true ∧ removal.propagating = none ∧ removal.reported = none := by
    decide +kernel
  refine ⟨hreturns, hdirectories, hremoval, fun hclean => ?_⟩
  obtain ⟨_, after, hrun⟩ := exists_of_returns hreturns
  rw [hrun] at hclean hdirectories
  exact hdirectories (List.subset_nil.mp (hclean.directories (.returned hrun)))

end R2opl
