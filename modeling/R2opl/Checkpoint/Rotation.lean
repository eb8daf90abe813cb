import R2opl.Checkpoint.Resume

/-!
# Keeping checkpoints

Nothing keeps a save from being completed.  With managers that keep several checkpoints the step in
the tracker can always be loaded; one that keeps just one removes it before the trainer has noted
the next, and a kill between the two leaves a tracker whose step cannot be loaded.
-/

namespace R2opl

open Checked

variable {options : CheckpointOptions} {defaultLocalDir : String} {t : Training} {save : Save}
  {role : Role}

/-- The processes can come from one state to another. -/
abbrev SaveLeads (options : CheckpointOptions) (defaultLocalDir : String) :
    Training → Training → Prop :=
  Relation.ReflTransGen (SaveStep options defaultLocalDir)

/-- They can, and keep what holds on the way. -/
abbrev KeepingLeads (options : CheckpointOptions) (defaultLocalDir : String) :
    Training → Training → Prop :=
  Relation.ReflTransGen fun t t' =>
    SaveStep options defaultLocalDir t t' ∧ (TrainingInv options t → TrainingInv options t')

theorem KeepingLeads.leads {t' : Training} (h : KeepingLeads options defaultLocalDir t t') :
    SaveLeads options defaultLocalDir t t' :=
  Relation.ReflTransGen.mono (fun _ _ hstep => hstep.1) _ _ h

theorem KeepingLeads.inv {t' : Training} (h : KeepingLeads options defaultLocalDir t t')
    (hinv : TrainingInv options t) : TrainingInv options t' := by
  induction h with
  | refl => exact hinv
  | tail _ hstep ih => exact hstep.2 ih

/-! ### Writing -/

/-- Only files have been written. -/
structure OnlyFiles (t t' : Training) : Prop where
  tracker : t'.disk.tracker = t.disk.tracker
  folders : t'.disk.folders = t.disk.folders
  previousSavedPaths : t'.previousSavedPaths = t.previousSavedPaths

theorem OnlyFiles.refl (t : Training) : OnlyFiles t t := ⟨rfl, rfl, rfl⟩

theorem OnlyFiles.trans {t t' t'' : Training} (h : OnlyFiles t t') (h' : OnlyFiles t' t'') :
    OnlyFiles t t'' where
  tracker := h'.tracker.trans h.tracker
  folders := h'.folders.trans h.folders
  previousSavedPaths := h'.previousSavedPaths.trans h.previousSavedPaths

theorem OnlyFiles.wrote (t : Training) (step : Nat) (file : StepFile) (content : Content)
    (phase : SavePhase) : OnlyFiles t (t.wrote step file content phase) := ⟨rfl, rfl, rfl⟩

/-- A rank can write all its shards. -/
theorem rank_writes {rank : Nat} (hrank : rank < options.worldSize) (left : Nat) :
    ∀ (t : Training) (progress : Nat → Nat), t.phase = .writing save role progress →
      progress rank + left = options.contents.length →
      ∃ t', KeepingLeads options defaultLocalDir t t' ∧ OnlyFiles t t' ∧
        t'.phase = .writing save role
          (Function.update progress rank options.contents.length) := by
  induction left with
  | zero =>
    intro t progress hphase hleft
    refine ⟨t, .refl, .refl t, ?_⟩
    rw [hphase, ← hleft, Nat.add_zero, Function.update_eq_self]
  | succ left ih =>
    intro t progress hphase hleft
    have hlt : progress rank < options.contents.length := by omega
    have hkind := List.getElem?_eq_getElem hlt
    have hstep : SaveStep options defaultLocalDir t _ :=
      .write save role progress rank _ hphase hrank hkind
    have hleft' : Function.update progress rank (progress rank + 1) rank + left =
        options.contents.length := by
      rw [Function.update_self]
      omega
    obtain ⟨t', hleads, honly, hphase'⟩ := ih (t.wrote ..) _ rfl hleft'
    refine ⟨t', .head ⟨hstep, fun h => h.write hphase hkind⟩ hleads, ?_, ?_⟩
    · exact (OnlyFiles.wrote ..).trans honly
    · rw [hphase', Function.update_idem]

/-- All ranks can. -/
theorem ranks_write (options : CheckpointOptions) (defaultLocalDir : String)
    (hphase : t.phase = .writing save role fun _ => 0) (ranks : Nat)
    (hranks : ranks ≤ options.worldSize) :
    ∃ t' progress, KeepingLeads options defaultLocalDir t t' ∧ OnlyFiles t t' ∧
      t'.phase = .writing save role progress ∧
      (∀ rank < ranks, progress rank = options.contents.length) ∧
      ∀ rank, ranks ≤ rank → progress rank = 0 := by
  induction ranks with
  | zero =>
    exact ⟨t, fun _ => 0, .refl, .refl t, hphase,
      fun rank hrank => absurd hrank (Nat.not_lt_zero rank), fun _ _ => rfl⟩
  | succ ranks ih =>
    obtain ⟨t₁, progress, hleads, honly, hphase₁, hdone, htodo⟩ := ih (by omega)
    have hleft : progress ranks + options.contents.length = options.contents.length := by
      rw [htodo ranks (Nat.le_refl _), Nat.zero_add]
    obtain ⟨t₂, hleads₂, honly₂, hphase₂⟩ :=
      rank_writes (Nat.lt_of_succ_le hranks) _ t₁ progress hphase₁ hleft
    refine ⟨t₂, _, hleads.trans hleads₂, honly.trans honly₂, hphase₂, ?_, ?_⟩
    · intro rank hrank
      by_cases hown : rank = ranks
      · rw [hown, Function.update_self]
      · rw [Function.update_of_ne hown]
        exact hdone rank (by omega)
    · intro rank hrank
      rw [Function.update_of_ne (by omega)]
      exact htodo rank (by omega)

/-- Rank 0 can write its configurations. -/
theorem configuration_writes (options : CheckpointOptions) (defaultLocalDir : String)
    {progress : Nat → Nat} (hphase : t.phase = .writing save role progress)
    (hprogress : progress 0 = options.contents.length) :
    ∃ t', KeepingLeads options defaultLocalDir t t' ∧ OnlyFiles t t' ∧
      t'.phase = .writing save role (Function.update progress 0 (options.contents.length + 2)) := by
  let opened := t.wrote save.step (.metadata role) .partially
    (.writing save role (Function.update progress 0 (options.contents.length + 1)))
  have hopen : SaveStep options defaultLocalDir t opened :=
    .openMetadata save role progress hphase hprogress
  have hopened : Function.update progress 0 (options.contents.length + 1) 0 =
      options.contents.length + 1 := Function.update_self ..
  have hclose : SaveStep options defaultLocalDir opened _ :=
    .closeMetadata save role _ rfl hopened
  refine ⟨_, .tail (.single ⟨hopen, fun h => ?_⟩) ⟨hclose, fun h => ?_⟩,
    (OnlyFiles.wrote ..).trans (OnlyFiles.wrote ..), ?_⟩
  · exact h.configure hphase (Nat.le_of_eq hprogress.symm) (by omega)
  · exact h.configure rfl (by rw [hopened]; omega) fun _ => rfl
  · rw [Function.update_idem]
    rfl

/-- The ranks of a role can write all their files. -/
theorem role_writes (options : CheckpointOptions) (defaultLocalDir : String)
    {doomed : List Nat} (hphase : t.phase = .making save role doomed) :
    ∃ t' progress, KeepingLeads options defaultLocalDir t t' ∧
      t'.disk.tracker = t.disk.tracker ∧ t'.disk.folders = save.step :: t.disk.folders ∧
      t'.previousSavedPaths = t.previousSavedPaths ∧ t'.phase = .writing save role progress ∧
      ∀ rank < options.worldSize, progress rank = options.filesOf rank := by
  let made : Training := { t with
    disk := { t.disk with folders := save.step :: t.disk.folders }
    phase := .writing save role fun _ => 0 }
  have hmade : SaveStep options defaultLocalDir t made := .made save role doomed hphase
  obtain ⟨t₁, progress, hleads₁, honly₁, hphase₁, hdone, -⟩ :=
    ranks_write options defaultLocalDir (t := made) rfl options.worldSize (Nat.le_refl _)
  obtain ⟨t₂, hleads₂, honly₂, hphase₂⟩ :=
    configuration_writes options defaultLocalDir hphase₁ (hdone 0 options.worldSize_pos)
  have honly := honly₁.trans honly₂
  refine ⟨t₂, _, .head ⟨hmade, fun h => h.made hphase⟩ (hleads₁.trans hleads₂), honly.tracker,
    honly.folders, honly.previousSavedPaths, hphase₂, ?_⟩
  intro rank hrank
  unfold CheckpointOptions.filesOf
  by_cases hzero : rank = 0
  · rw [hzero, Function.update_self, if_pos rfl]
  · rw [Function.update_of_ne hzero, if_neg hzero]
    exact hdone rank hrank

/-- They can return from the barrier, and rank 0 has registered the step. -/
theorem role_registers (options : CheckpointOptions) (defaultLocalDir : String)
    {doomed : List Nat} (hphase : t.phase = .making save role doomed)
    (hspare : Spares options t role) :
    ∃ t', KeepingLeads options defaultLocalDir t t' ∧ t'.disk.tracker = t.disk.tracker ∧
      t'.disk.folders = save.step :: t.disk.folders ∧
      t'.previousSavedPaths = Function.update t.previousSavedPaths role
        (registerCheckpoint (options.maxCkptToKeep role) (t.previousSavedPaths role) save.step).2 ∧
      t'.phase = .retiring save role
        (registerCheckpoint (options.maxCkptToKeep role) (t.previousSavedPaths role)
          save.step).1 := by
  obtain ⟨t₁, progress, hleads, htracker, hfolders, hpaths, hphase₁, hall⟩ :=
    role_writes options defaultLocalDir hphase
  have hregister : SaveStep options defaultLocalDir t₁ (t₁.register options save role) :=
    .register save role progress hphase₁ hall
  have hspare₁ : Spares options t₁ role := fun hone => by
    rw [hpaths]
    exact hspare hone
  refine ⟨_, hleads.tail ⟨hregister, fun h => h.register hspare₁ hphase₁ hall⟩, htracker,
    hfolders, ?_, ?_⟩
  · unfold Training.register
    dsimp only
    rw [hpaths]
  · unfold Training.register
    dsimp only
    rw [hpaths]

/-- After its roles the save comes to its end. -/
theorem finishing_notes (options : CheckpointOptions) (defaultLocalDir : String)
    (hphase : t.phase = .finishing save) :
    ∃ t', KeepingLeads options defaultLocalDir t t' ∧ t'.disk.tracker = .at save.step ∧
      t'.disk.folders = t.disk.folders ∧ t'.previousSavedPaths = t.previousSavedPaths ∧
      t'.phase = .training save.step := by
  let dumping := t.wrote save.step .dataloader .partially (.dumping save)
  let noting := dumping.wrote save.step .dataloader (.whole save.number) (.noting save)
  let opened : Training := { noting with
    disk := { noting.disk with tracker := .empty }
    phase := .opened save }
  have hdumping : SaveStep options defaultLocalDir t dumping := .openDataloader save hphase
  have hnoting : SaveStep options defaultLocalDir dumping noting := .closeDataloader save rfl
  have hopened : SaveStep options defaultLocalDir noting opened := .openTracker save rfl
  have hclosed : SaveStep options defaultLocalDir opened _ := .closeTracker save rfl
  exact ⟨_, .head ⟨hdumping, fun h => h.openDataloader hphase⟩
    (.head ⟨hnoting, fun h => h.closeDataloader rfl⟩
      (.head ⟨hopened, fun h => h.openTracker rfl⟩
        (.single ⟨hclosed, fun h => h.closeTracker rfl⟩))), rfl, rfl, rfl, rfl⟩

/-- Making room keeps nothing more. -/
theorem Spares.enter {role' : Role} (h : Spares options t role') :
    Spares options (t.enter options save role) role' := by
  intro hone
  unfold Training.enter
  dsimp only
  by_cases hrole : role' = role
  · subst hrole
    rw [Function.update_self, h hone, hone]
    rfl
  · rw [Function.update_of_ne hrole]
    exact h hone

/-- The ranks of a role return, and those of the critic after them. -/
theorem retiring_finishes (options : CheckpointOptions) (defaultLocalDir : String)
    {doomed : List Nat} (hphase : t.phase = .retiring save .actor doomed)
    (hspare : Spares options t .critic) :
    ∃ t', KeepingLeads options defaultLocalDir t t' ∧ t'.disk.tracker = t.disk.tracker ∧
      t.disk.folders ⊆ t'.disk.folders ∧
      t'.previousSavedPaths .actor = t.previousSavedPaths .actor ∧
      t'.phase = .finishing save := by
  have hleave : SaveStep options defaultLocalDir t _ := .leave save .actor doomed hphase
  have hkeeps : TrainingInv options t → TrainingInv options (t.leave options save .actor) :=
    fun h => h.leave hphase
  unfold Training.leave at hleave hkeeps
  dsimp only at hleave hkeeps
  by_cases hcritic : options.useCritic = true
  · rw [if_pos hcritic] at hleave hkeeps
    obtain ⟨t₁, hleads, htracker, hfolders, hpaths, hphase₁⟩ :=
      role_registers options defaultLocalDir (t := t.enter options save .critic) rfl hspare.enter
    have hfinish : SaveStep options defaultLocalDir t₁ _ := .leave save .critic _ hphase₁
    refine ⟨_, (Relation.ReflTransGen.head ⟨hleave, hkeeps⟩ hleads).tail
      ⟨hfinish, fun h => h.leave hphase₁⟩, htracker, ?_, ?_, rfl⟩
    · change t.disk.folders ⊆ t₁.disk.folders
      rw [hfolders]
      exact List.subset_cons_self _ _
    · change t₁.previousSavedPaths .actor = _
      rw [hpaths, Function.update_of_ne (by decide)]
      unfold Training.enter
      dsimp only
      rw [Function.update_of_ne (by decide)]
  · rw [if_neg hcritic] at hleave hkeeps
    exact ⟨_, .single ⟨hleave, hkeeps⟩, rfl, List.Subset.refl _, rfl, rfl⟩

/-! ### Completing a save -/

/-- A process that trains can save a later step; `previous_saved_paths` of the actor is then what
    `ensure_checkpoint_capacity` and `register_checkpoint` make of it. -/
theorem training_saves (options : CheckpointOptions) (defaultLocalDir : String)
    {globalSteps step : Nat} (hphase : t.phase = .training globalSteps)
    (hlater : globalSteps < step) (hspare : ∀ role, Spares options t role) :
    ∃ t', KeepingLeads options defaultLocalDir t t' ∧ t'.phase = .training step ∧
      t'.disk.tracker = .at step ∧ step ∈ t'.disk.folders ∧
      t'.previousSavedPaths .actor = (registerCheckpoint (options.maxCkptToKeep .actor)
        (ensureCheckpointCapacity (options.maxCkptToKeep .actor)
          (t.previousSavedPaths .actor)).2 step).2 := by
  have hsave : SaveStep options defaultLocalDir t _ := .save globalSteps step hphase hlater
  have hentered (role : Role) : Spares options
      (Training.enter options { t with saves := t.saves + 1 } ⟨step, t.saves⟩ .actor) role :=
    Spares.enter (t := { t with saves := t.saves + 1 }) (hspare role)
  obtain ⟨t₁, hleads₁, -, hfolders₁, hpaths₁, hphase₁⟩ :=
    role_registers options defaultLocalDir rfl (hentered .actor)
  have hcritic : Spares options t₁ .critic := by
    intro hone
    rw [hpaths₁, Function.update_of_ne (by decide)]
    exact hentered .critic hone
  obtain ⟨t₂, hleads₂, -, hfolders₂, hpaths₂, hphase₂⟩ :=
    retiring_finishes options defaultLocalDir hphase₁ hcritic
  obtain ⟨t₃, hleads₃, htracker₃, hfolders₃, hpaths₃, hphase₃⟩ :=
    finishing_notes options defaultLocalDir hphase₂
  refine ⟨t₃, .head ⟨hsave, fun h => h.save hphase hlater⟩
    (hleads₁.trans (hleads₂.trans hleads₃)), hphase₃, htracker₃, ?_, ?_⟩
  · rw [hfolders₃]
    apply hfolders₂
    rw [hfolders₁]
    exact List.mem_cons_self
  · rw [hpaths₃, hpaths₂, hpaths₁, Function.update_self]
    unfold Training.enter
    dsimp only
    rw [Function.update_self]

/-- A process comes up where there is no tracker yet. -/
theorem initial_restarts (options : CheckpointOptions) (defaultLocalDir : String) :
    SaveStep options defaultLocalDir .initial { Training.initial with phase := .training 0 } :=
  .restart 0 rfl rfl

/-! ### Several checkpoints -/

/-- In every state of every run the step in the tracker can be loaded, from files of one
    `_save_checkpoint`, and the checkpoints that the managers keep are complete.  Only where a kill
    falls between opening and writing the tracker is there nothing to go on from, for good. -/
theorem loadCheckpoint_tracked (options : CheckpointOptions) (defaultLocalDir : String)
    (hkeep : options.KeepsMore) (t : Training)
    (hreachable : TrainingReachable options defaultLocalDir t) :
    (∀ g, t.disk.tracker = .at g → Complete options t.disk g ∧
      loadCheckpoint options defaultLocalDir t.disk = .ok g) ∧
    (∀ role ∈ options.roles, ∀ step ∈ t.previousSavedPaths role,
      ∃ number, RoleComplete options (t.disk.files step) number role) ∧
    (t.disk.tracker = .empty → (t.phase = .down ∨ ∃ save, t.phase = .opened save) ∧
      (t.phase = .down → ∀ t', Relation.ReflTransGen (SaveStep options defaultLocalDir) t t' →
        t'.phase = .down)) := by
  have h := hreachable.inv hkeep
  refine ⟨fun g hg => ⟨h.tracked g hg, (h.tracked g hg).load hg⟩, h.retained, fun hempty => ?_⟩
  exact ⟨h.empty hempty, fun hdown t' hsteps => (stays_down hdown hempty hsteps).1⟩

/-- One rank, which writes its model, and keeps a number of checkpoints. -/
def oneRank (maxCkptToKeep : Option Nat) : CheckpointOptions where
  worldSize := 1
  worldSize_pos := Nat.one_pos
  contents := [.model]
  useCritic := false
  maxCkptToKeep := fun _ => maxCkptToKeep

/-- Two steps are saved, and a kill falls into the third `_save_checkpoint`. -/
theorem loadCheckpoint_tracked_two : ∃ t, TrainingReachable (oneRank (some 2)) "out" t ∧
    t.phase = .down ∧ 15 ∈ t.disk.folders ∧ t.disk.tracker = .at 10 ∧
    loadCheckpoint (oneRank (some 2)) "out" t.disk = .ok 10 := by
  have hspare (t : Training) (role : Role) : Spares (oneRank (some 2)) t role := by
    intro hone
    cases hone
  obtain ⟨t₁, hleads₁, hphase₁, -⟩ := training_saves (oneRank (some 2)) "out"
    (t := { Training.initial with phase := .training 0 }) rfl (by decide : 0 < 5) (hspare _)
  obtain ⟨t₂, hleads₂, hphase₂, htracker₂, -⟩ := training_saves (oneRank (some 2)) "out"
    hphase₁ (by decide : 5 < 10) (hspare _)
  have hsave : SaveStep (oneRank (some 2)) "out" t₂ _ := .save 10 15 hphase₂ (by decide)
  have hreachable : TrainingReachable (oneRank (some 2)) "out" _ :=
    .head (initial_restarts _ _) (hleads₁.leads.trans (hleads₂.leads.trans
      (.head hsave (.head (.made _ _ _ rfl) (.head (.write _ _ _ 0 .model rfl Nat.one_pos rfl)
        (.single .kill))))))
  have hkeep : (oneRank (some 2)).KeepsMore := by
    intro role _ heq
    cases heq
  exact ⟨_, hreachable, rfl, List.mem_cons_self, htracker₂,
    ((loadCheckpoint_tracked (oneRank (some 2)) "out" hkeep _ hreachable).1 10 htracker₂).2⟩

/-! ### One checkpoint -/

/-- The first file that is loaded. -/
theorem shardFiles_cons {kind : ShardKind} (hkind : options.contents.head? = some kind) :
    ∃ rest, shardFiles options = (.actor, 0, kind) :: rest := by
  obtain ⟨kinds, hkinds⟩ := List.head?_eq_some_iff.mp hkind
  obtain ⟨roles, hroles⟩ : ∃ roles, options.roles = .actor :: roles := by
    unfold CheckpointOptions.roles
    split
    · exact ⟨_, rfl⟩
    · exact ⟨_, rfl⟩
  obtain ⟨size, hsize⟩ := Nat.exists_eq_succ_of_ne_zero (Nat.ne_of_gt options.worldSize_pos)
  unfold shardFiles
  rw [hroles, hsize, List.range_succ_eq_map, hkinds]
  exact ⟨_, rfl⟩

theorem loadCheckpoint_missing {disk : Disk} {step : Nat} {kind : ShardKind}
    (htracker : disk.tracker = .at step) (hfolder : step ∈ disk.folders)
    (hkind : options.contents.head? = some kind)
    (hmissing : disk.files step (.shard .actor 0 kind) = none) :
    ∃ path : String, loadCheckpoint options defaultLocalDir disk =
      .error ⟨.fileNotFoundError, s!"[Errno 2] No such file or directory: '{path}'"⟩ := by
  obtain ⟨rest, hrest⟩ := shardFiles_cons hkind
  refine ⟨shardPath options s!"{defaultLocalDir}/global_step_{step}" .actor 0 kind, ?_⟩
  unfold loadCheckpoint
  rw [htracker]
  dsimp only
  rw [if_neg (not_not.mpr hfolder), hrest]
  dsimp only [List.forM]
  rw [hmissing]
  rfl

/-- The first step is complete and in the tracker, the actor of the second is complete too, and
    `register_checkpoint` is about to remove the first. -/
structure Replacing (options : CheckpointOptions) (t : Training) (first second : Nat) : Prop where
  tracker : t.disk.tracker = .at first
  complete : Complete options t.disk first
  folder : second ∈ t.disk.folders
  removing : ∃ save : Save, save.step = second ∧ t.phase = .retiring save .actor [first] ∧
    RoleComplete options (t.disk.files second) save.number .actor

/-- A manager that keeps one checkpoint of the actor comes there. -/
theorem keeping_one_replaces (options : CheckpointOptions) (defaultLocalDir : String)
    (hkeep : options.maxCkptToKeep .actor = some 1) {first second : Nat} (hfirst : 0 < first)
    (hsecond : first < second) :
    ∃ t, TrainingReachable options defaultLocalDir t ∧ Replacing options t first second := by
  obtain ⟨t₁, hleads₁, hphase₁, htracker₁, hfolder₁, hpaths₁⟩ :=
    training_saves options defaultLocalDir
      (t := { Training.initial with phase := .training 0 }) rfl hfirst fun _ _ => rfl
  have hone : t₁.previousSavedPaths .actor = [first] := by
    rw [hpaths₁, hkeep]
    rfl
  have hload : loadCheckpoint options defaultLocalDir Training.initial.disk = .ok 0 := rfl
  have hinv₁ : TrainingInv options t₁ := hleads₁.inv (TrainingInv.initial.restart rfl hload)
  have hsave : SaveStep options defaultLocalDir t₁ _ := .save first second hphase₁ hsecond
  obtain ⟨t₂, progress, hleads₂, htracker₂, hfolders₂, hpaths₂, hphase₂, hall⟩ :=
    role_writes options defaultLocalDir
      (t := Training.enter options { t₁ with saves := t₁.saves + 1 } ⟨second, t₁.saves⟩ .actor) rfl
  have hinv₂ : TrainingInv options t₂ := hleads₂.inv (hinv₁.save hphase₁ hsecond)
  have hpaths : t₂.previousSavedPaths .actor = [first] := by
    rw [hpaths₂]
    unfold Training.enter
    dsimp only
    rw [Function.update_self, hone, hkeep]
    rfl
  have hregister : SaveStep options defaultLocalDir t₂ _ := .register _ .actor _ hphase₂ hall
  have htracker : t₂.disk.tracker = .at first := htracker₂.trans htracker₁
  refine ⟨_, .head (initial_restarts _ _) (hleads₁.leads.trans (.head hsave
    (hleads₂.leads.tail hregister))), htracker, hinv₂.tracked first htracker, ?_, _, rfl, ?_,
    (hinv₂.writing hphase₂).2.2.2.complete hall⟩
  · change second ∈ t₂.disk.folders
    rw [hfolders₂]
    exact List.mem_cons_self
  · unfold Training.register
    dsimp only
    rw [hpaths, hkeep]
    rfl

/-- A manager of the actor that keeps one checkpoint removes the one in the tracker: with any
    number of ranks there is a run in which the first step is complete, and the actor of the second,
    and a kill after the first file that `register_checkpoint` removes leaves nothing to resume
    from. -/
theorem keeping_one_loses (options : CheckpointOptions) (defaultLocalDir : String)
    (hkeep : options.maxCkptToKeep .actor = some 1) (kind : ShardKind)
    (hkind : options.contents.head? = some kind) (first second : Nat) (hfirst : 0 < first)
    (hsecond : first < second) :
    ∃ t t', TrainingReachable options defaultLocalDir t ∧ Replacing options t first second ∧
      SaveLeads options defaultLocalDir t t' ∧ t'.phase = .down ∧
      t'.disk = t.disk.put first (.shard .actor 0 kind) none ∧
      t'.disk.tracker = .at first ∧ first ∈ t'.disk.folders ∧ second ∈ t'.disk.folders ∧
      ∃ path : String, loadCheckpoint options defaultLocalDir t'.disk =
        .error ⟨.fileNotFoundError, s!"[Errno 2] No such file or directory: '{path}'"⟩ := by
  obtain ⟨t, hreachable, hreplacing⟩ :=
    keeping_one_replaces options defaultLocalDir hkeep hfirst hsecond
  obtain ⟨save, -, hphase, -⟩ := hreplacing.removing
  have hdiscard : SaveStep options defaultLocalDir t (t.put first (.shard .actor 0 kind) none) :=
    .discard save .actor [first] first _ (.inr hphase) List.mem_cons_self rfl
  have hmissing : (t.disk.put first (.shard .actor 0 kind) none).files first
      (.shard .actor 0 kind) = none := by
    rw [Disk.files_put, Function.update_self]
  exact ⟨t, _, hreachable, hreplacing, .head hdiscard (.single .kill), rfl, rfl,
    hreplacing.tracker, hreplacing.complete.folder, hreplacing.folder,
    loadCheckpoint_missing hreplacing.tracker hreplacing.complete.folder hkind hmissing⟩

theorem keeping_one_loses_one : ∃ t t', TrainingReachable (oneRank (some 1)) "out" t ∧
    Replacing (oneRank (some 1)) t 5 10 ∧ SaveLeads (oneRank (some 1)) "out" t t' ∧
    t'.phase = .down ∧ t'.disk = t.disk.put 5 (.shard .actor 0 .model) none ∧
    t'.disk.tracker = .at 5 ∧ 5 ∈ t'.disk.folders ∧ 10 ∈ t'.disk.folders ∧
      ∃ path : String, loadCheckpoint (oneRank (some 1)) "out" t'.disk =
        .error ⟨.fileNotFoundError, s!"[Errno 2] No such file or directory: '{path}'"⟩ :=
  keeping_one_loses (oneRank (some 1)) "out" rfl .model rfl 5 10 (by decide) (by decide)

end R2opl
