import R2opl.Checkpoint.Saving

/-!
# Resuming after a kill

Where no role keeps just one checkpoint, the step in the tracker can be loaded in every state that
a training run reaches: the checkpoints that are removed are older, and a new one is written beside
it.
-/

namespace R2opl

open Checked

variable {options : CheckpointOptions} {defaultLocalDir : String} {t : Training}

/-! ### Complete checkpoints -/

/-- All files of a role are there, from one call of `_save_checkpoint`. -/
structure RoleComplete (options : CheckpointOptions) (files : StepFile → Option Content)
    (number : Nat) (role : Role) : Prop where
  shard : ∀ rank < options.worldSize, ∀ kind ∈ options.contents,
    files (.shard role rank kind) = some (.whole number)
  metadata : files (.metadata role) = some (.whole number)

structure Complete (options : CheckpointOptions) (disk : Disk) (step : Nat) : Prop where
  folder : step ∈ disk.folders
  files : ∃ number, (∀ role ∈ options.roles, RoleComplete options (disk.files step) number role) ∧
    disk.files step .dataloader = some (.whole number)

theorem Disk.files_put_of_ne (disk : Disk) {step step' : Nat} (file : StepFile)
    (content : Option Content) (h : step' ≠ step) :
    (disk.put step file content).files step' = disk.files step' := by
  unfold Disk.put
  dsimp only
  rw [Function.update_of_ne h]

theorem Disk.files_put (disk : Disk) (step : Nat) (file : StepFile) (content : Option Content) :
    (disk.put step file content).files step = Function.update (disk.files step) file content := by
  unfold Disk.put
  dsimp only
  rw [Function.update_self]

theorem Complete.put {disk : Disk} {step step' : Nat} {file : StepFile}
    {content : Option Content} (h : Complete options disk step) (hne : step ≠ step') :
    Complete options (disk.put step' file content) step where
  folder := h.folder
  files := by
    rw [disk.files_put_of_ne file content hne]
    exact h.files

/-- A file outside the directory of a role. -/
theorem RoleComplete.update {files : StepFile → Option Content} {number : Nat} {role : Role}
    (h : RoleComplete options files number role) {file : StepFile} (hfile : ¬ file.InDirectory role)
    (content : Option Content) :
    RoleComplete options (Function.update files file content) number role where
  shard := by
    intro rank hrank kind hkind
    have hne : StepFile.shard role rank kind ≠ file := by
      rintro rfl
      exact hfile rfl
    rw [Function.update_of_ne hne]
    exact h.shard rank hrank kind hkind
  metadata := by
    have hne : StepFile.metadata role ≠ file := by
      rintro rfl
      exact hfile rfl
    rw [Function.update_of_ne hne]
    exact h.metadata

/-- What is written or removed at a step leaves the directory of a role as it is, unless it is in
    there. -/
theorem RoleComplete.put {disk : Disk} {step step' number : Nat} {role : Role} {file : StepFile}
    {content : Option Content} (h : RoleComplete options (disk.files step) number role)
    (hother : step = step' → ¬ file.InDirectory role) :
    RoleComplete options ((disk.put step' file content).files step) number role := by
  by_cases hstep : step = step'
  · subst hstep
    rw [disk.files_put]
    exact h.update (hother rfl) content
  · rw [disk.files_put_of_ne file content hstep]
    exact h

/-! ### Loading -/

/-- A checkpoint that is complete can be loaded. -/
theorem Complete.load {disk : Disk} {step : Nat} (h : Complete options disk step)
    (htracker : disk.tracker = .at step) :
    loadCheckpoint options defaultLocalDir disk = .ok step := by
  obtain ⟨number, hroles, hdata⟩ := h.files
  have hshards (folder : String) : (shardFiles options).forM (fun shard => do
      let _ ← torchLoad (shardPath options folder shard.1 shard.2.1 shard.2.2)
        (disk.files step (.shard shard.1 shard.2.1 shard.2.2))) = .ok () := by
    rw [forM_eq_ok]
    rintro ⟨role, rank, kind⟩ hmem
    simp only [shardFiles, List.mem_flatMap, List.mem_map, List.mem_range, Prod.mk.injEq] at hmem
    obtain ⟨role', hrole, rank', hrank, kind', hkind, rfl, rfl, rfl⟩ := hmem
    dsimp only
    rw [(hroles role' hrole).shard rank' hrank kind' hkind]
    rfl
  unfold loadCheckpoint
  rw [htracker]
  dsimp only
  rw [if_neg (not_not.mpr h.folder), hshards, ok_bind, hdata]
  rfl

/-! ### Retention -/

/-- What is taken from the front of a sorted list is below the rest. -/
theorem lt_of_mem_take {xs : List Nat} (h : xs.Pairwise (· < ·)) {n x : Nat} (hn : n < xs.length)
    (hx : x ∈ xs.take n) : ∃ y ∈ xs, x < y := by
  rw [← List.take_append_drop n xs, List.pairwise_append] at h
  have hmem : xs[n] ∈ xs.drop n := by
    rw [List.drop_eq_getElem_cons hn]
    exact List.mem_cons_self
  exact ⟨xs[n], List.getElem_mem hn, h.2.2 x hx xs[n] hmem⟩

/-- What stays, and what goes: each that goes is older than one of `older`. -/
structure Retained (paths older : List Nat) (parts : List Nat × List Nat) : Prop where
  kept : parts.2.Sublist paths
  removed : ∀ x ∈ parts.1, x ∉ parts.2
  later : ∀ x ∈ parts.1, ∃ y ∈ older, x < y

theorem Retained.nothing (paths older : List Nat) : Retained paths older ([], paths) where
  kept := .refl _
  removed := by
    intro x hx
    cases hx
  later := by
    intro x hx
    cases hx

theorem ensureCheckpointCapacity_retained (keep : Option Nat) {paths : List Nat}
    (h : paths.Pairwise (· < ·)) : Retained paths paths (ensureCheckpointCapacity keep paths) := by
  unfold ensureCheckpointCapacity
  cases keep with
  | none => exact .nothing _ _
  | some keep =>
    dsimp only
    split
    · next hkeep =>
      rw [List.splitAt_eq]
      constructor
      · exact List.drop_sublist _ _
      · intro x hx hstill
        rw [← List.take_append_drop (paths.length - keep + 1) paths, List.pairwise_append] at h
        exact Nat.lt_irrefl x (h.2.2 x hx x hstill)
      · intro x hx
        exact lt_of_mem_take h (by omega) hx
    · exact .nothing _ _

theorem registerCheckpoint_retained {keep : Option Nat} {paths : List Nat}
    (hspare : keep = some 1 → paths = []) {newPath : Nat}
    (h : (paths ++ [newPath]).Pairwise (· < ·)) :
    Retained (paths ++ [newPath]) paths (registerCheckpoint keep paths newPath) := by
  unfold registerCheckpoint
  cases keep with
  | none => exact .nothing _ _
  | some keep =>
    dsimp only
    split
    · next hmany =>
      rw [List.length_append, List.length_singleton] at hmany ⊢
      have hkeep' : keep ≠ 1 := by
        rintro rfl
        rw [hspare rfl, List.length_nil] at hmany
        omega
      rw [List.splitAt_eq]
      constructor
      · exact List.drop_sublist _ _
      · intro x hx hstill
        rw [← List.take_append_drop (paths.length + 1 - keep) (paths ++ [newPath]),
          List.pairwise_append] at h
        exact Nat.lt_irrefl x (h.2.2 x hx x hstill)
      · intro x hx
        dsimp only at hx
        rw [List.take_append_of_le_length (by omega)] at hx
        exact lt_of_mem_take (List.pairwise_append.mp h).1 (by omega) hx
    · exact .nothing _ _

/-! ### The invariant -/

/-- The step in the tracker is not before `step`. -/
def Behind (tracker : Tracker) (step : Nat) : Prop := ∃ g, tracker = .at g ∧ step ≤ g

/-- The roles that have returned when the ranks of a role enter `save_checkpoint`. -/
def Role.Before : Role → Role → Prop
  | .actor, _ => False
  | .critic, role => role = .actor

/-- The roles that have returned when the ranks of a role have. -/
def Role.UpTo : Role → Role → Prop
  | .actor, role => role = .actor
  | .critic, _ => True

/-- What holds while a step is saved, of which some roles are `done`. -/
structure InSave (options : CheckpointOptions) (t : Training) (save : Save) (done : Role → Prop) :
    Prop where
  tracker : t.disk.tracker ≠ .empty
  later : ∀ g, t.disk.tracker = .at g → g < save.step
  sorted : ∀ role, (t.previousSavedPaths role).Pairwise (· < ·)
  saved : ∀ role, ∀ step ∈ t.previousSavedPaths role,
    Behind t.disk.tracker step ∨ done role ∧ step = save.step
  complete : ∀ role ∈ options.roles, done role →
    RoleComplete options (t.disk.files save.step) save.number role

/-- What is about to be removed is older than the step in the tracker, and not kept. -/
structure Doomed (t : Training) (role : Role) (doomed : List Nat) : Prop where
  older : ∀ old ∈ doomed, ∃ g, t.disk.tracker = .at g ∧ old < g
  gone : ∀ old ∈ doomed, old ∉ t.previousSavedPaths role

/-- What the ranks of a role have written. -/
structure Written (options : CheckpointOptions) (t : Training) (save : Save) (role : Role)
    (progress : Nat → Nat) : Prop where
  shard : ∀ rank < options.worldSize, ∀ i < progress rank, ∀ kind,
    options.contents[i]? = some kind →
    t.disk.files save.step (.shard role rank kind) = some (.whole save.number)
  metadata : progress 0 = options.contents.length + 2 →
    t.disk.files save.step (.metadata role) = some (.whole save.number)

def InPhase (options : CheckpointOptions) (t : Training) : SavePhase → Prop
  | .down => ∀ role, t.previousSavedPaths role = []
  | .training globalSteps =>
      t.disk.tracker ≠ .empty ∧ (∀ g, t.disk.tracker = .at g → g ≤ globalSteps) ∧
        ∀ role, (t.previousSavedPaths role).Pairwise (· < ·) ∧
          ∀ step ∈ t.previousSavedPaths role, Behind t.disk.tracker step
  | .making save role doomed =>
      InSave options t save role.Before ∧ role ∈ options.roles ∧ Doomed t role doomed
  | .writing save role progress =>
      InSave options t save role.Before ∧ role ∈ options.roles ∧ save.step ∈ t.disk.folders ∧
        Written options t save role progress
  | .retiring save role doomed =>
      InSave options t save role.UpTo ∧ role ∈ options.roles ∧ save.step ∈ t.disk.folders ∧
        Doomed t role doomed
  | .finishing save => InSave options t save (fun _ => True) ∧ save.step ∈ t.disk.folders
  | .dumping save => InSave options t save (fun _ => True) ∧ save.step ∈ t.disk.folders
  | .noting save =>
      InSave options t save (fun _ => True) ∧ save.step ∈ t.disk.folders ∧
        t.disk.files save.step .dataloader = some (.whole save.number)
  | .opened save =>
      t.disk.tracker = .empty ∧ Complete options t.disk save.step ∧
        ∀ role, (t.previousSavedPaths role).Pairwise (· < ·) ∧
          ∀ step ∈ t.previousSavedPaths role, step ≤ save.step

structure TrainingInv (options : CheckpointOptions) (t : Training) : Prop where
  tracked : ∀ g, t.disk.tracker = .at g → Complete options t.disk g
  retained : ∀ role ∈ options.roles, ∀ step ∈ t.previousSavedPaths role,
    ∃ number, RoleComplete options (t.disk.files step) number role
  phase : InPhase options t t.phase

theorem TrainingInv.initial : TrainingInv options .initial where
  tracked := by
    intro g h
    cases h
  retained := by
    intro role _ step hstep
    cases hstep
  phase := fun _ => rfl

/-! ### Steps -/

theorem Behind.lt_of_later {tracker : Tracker} {step : Nat} (h : Behind tracker step)
    {save : Save} (hlater : ∀ g, tracker = .at g → g < save.step) : step < save.step := by
  obtain ⟨g, htracker, hle⟩ := h
  exact Nat.lt_of_le_of_lt hle (hlater g htracker)

/-- The files of other steps, and of roles that are not done, do not matter to a save. -/
theorem InSave.put {save : Save} {done : Role → Prop} (h : InSave options t save done) {step : Nat}
    {file : StepFile} {content : Option Content}
    (hother : save.step = step → ∀ role, done role → ¬ file.InDirectory role) :
    InSave options (t.put step file content) save done where
  tracker := h.tracker
  later := h.later
  sorted := h.sorted
  saved := h.saved
  complete := by
    intro role hrole hdone
    exact (h.complete role hrole hdone).put fun heq => hother heq role hdone

theorem TrainingInv.tracked_put (h : TrainingInv options t) {step : Nat} {file : StepFile}
    {content : Option Content} (hne : ∀ g, t.disk.tracker = .at g → g ≠ step) :
    ∀ g, t.disk.tracker = .at g → Complete options (t.put step file content).disk g :=
  fun g hg => (h.tracked g hg).put (hne g hg)

theorem TrainingInv.retained_put (h : TrainingInv options t) {step : Nat} {file : StepFile}
    {content : Option Content}
    (hother : ∀ role, step ∈ t.previousSavedPaths role → ¬ file.InDirectory role) :
    ∀ role ∈ options.roles, ∀ old ∈ t.previousSavedPaths role,
      ∃ number, RoleComplete options ((t.put step file content).disk.files old) number role := by
  intro role hrole old hold
  obtain ⟨number, hcomplete⟩ := h.retained role hrole old hold
  refine ⟨number, hcomplete.put fun heq => hother role ?_⟩
  rwa [← heq]

theorem Role.Before.ne {role role' : Role} (h : role.Before role') : role' ≠ role := by
  cases role with
  | actor => exact h.elim
  | critic =>
    rw [show role' = .actor from h]
    decide

/-- A role has returned when its own ranks have, or it did so before. -/
theorem Role.upTo_iff {role role' : Role} :
    role.UpTo role' ↔ role' = role ∨ role.Before role' := by
  cases role <;> cases role' <;> simp [Role.UpTo, Role.Before]

theorem not_before_self (role : Role) : ¬ role.Before role := fun h => h.ne rfl

theorem InSave.enter {save : Save} {role : Role} (h : InSave options t save role.Before) :
    InSave options (t.enter options save role) save role.Before ∧
      Doomed (t.enter options save role) role
        (ensureCheckpointCapacity (options.maxCkptToKeep role) (t.previousSavedPaths role)).1 := by
  have hretained := ensureCheckpointCapacity_retained (options.maxCkptToKeep role) (h.sorted role)
  have hbehind : ∀ step ∈ t.previousSavedPaths role, Behind t.disk.tracker step :=
    fun step hstep => (h.saved role step hstep).resolve_right fun hdone =>
      not_before_self role hdone.1
  constructor
  · refine ⟨h.tracker, h.later, ?_, ?_, h.complete⟩
    · intro role'
      unfold Training.enter
      dsimp only
      by_cases hrole : role' = role
      · subst hrole
        rw [Function.update_self]
        exact (h.sorted role').sublist hretained.kept
      · rw [Function.update_of_ne hrole]
        exact h.sorted role'
    · intro role' step hstep
      unfold Training.enter at hstep
      dsimp only at hstep
      by_cases hrole : role' = role
      · subst hrole
        rw [Function.update_self] at hstep
        exact .inl (hbehind step (hretained.kept.subset hstep))
      · rw [Function.update_of_ne hrole] at hstep
        exact h.saved role' step hstep
  · constructor
    · intro old hold
      obtain ⟨step, hstep, hlt⟩ := hretained.later old hold
      obtain ⟨g, htracker, hle⟩ := hbehind step hstep
      exact ⟨g, htracker, Nat.lt_of_lt_of_le hlt hle⟩
    · intro old hold
      unfold Training.enter
      dsimp only
      rw [Function.update_self]
      exact hretained.removed old hold

theorem TrainingInv.enter (h : TrainingInv options t) {save : Save} {role : Role}
    (hrole : role ∈ options.roles) (hsave : InSave options t save role.Before) :
    TrainingInv options (t.enter options save role) where
  tracked := h.tracked
  retained := by
    intro role' hrole' step hstep
    have hretained :=
      ensureCheckpointCapacity_retained (options.maxCkptToKeep role) (hsave.sorted role)
    unfold Training.enter at hstep
    dsimp only at hstep
    by_cases heq : role' = role
    · subst heq
      rw [Function.update_self] at hstep
      exact h.retained role' hrole' step (hretained.kept.subset hstep)
    · rw [Function.update_of_ne heq] at hstep
      exact h.retained role' hrole' step hstep
  phase := ⟨hsave.enter.1, hrole, hsave.enter.2⟩

/-- The first role is entered. -/
theorem TrainingInv.save (h : TrainingInv options t) {globalSteps step : Nat}
    (hphase : t.phase = .training globalSteps) (hlater : globalSteps < step) :
    TrainingInv options
      (Training.enter options { t with saves := t.saves + 1 } ⟨step, t.saves⟩ .actor) := by
  have hin := h.phase
  rw [hphase] at hin
  obtain ⟨htracker, hle, hsaved⟩ := hin
  have hinv : TrainingInv options { t with saves := t.saves + 1 } := by
    refine ⟨h.tracked, h.retained, ?_⟩
    dsimp only
    rw [hphase]
    exact ⟨htracker, hle, hsaved⟩
  apply hinv.enter
  · unfold CheckpointOptions.roles
    split <;> exact List.mem_cons_self
  · exact {
      tracker := htracker
      later := fun g hg => Nat.lt_of_le_of_lt (hle g hg) hlater
      sorted := fun role => (hsaved role).1
      saved := fun role old hold => .inl ((hsaved role).2 old hold)
      complete := fun role _ hdone => hdone.elim }

theorem TrainingInv.discard (h : TrainingInv options t) {save : Save} {role : Role}
    {doomed : List Nat} {old : Nat} {file : StepFile}
    (hphase : t.phase = .making save role doomed ∨ t.phase = .retiring save role doomed)
    (hold : old ∈ doomed) (hfile : file.InDirectory role) :
    TrainingInv options (t.put old file none) := by
  have hdirectory : ∀ role', file.InDirectory role' → role' = role := by
    intro role' hfile'
    cases file with
    | shard role₀ rank kind => exact hfile'.symm.trans hfile
    | metadata role₀ => exact hfile'.symm.trans hfile
    | dataloader => exact hfile.elim
  have hboth : (∀ g, t.disk.tracker = .at g → g < save.step) ∧ Doomed t role doomed := by
    have hin := h.phase
    rcases hphase with hphase | hphase
    · rw [hphase] at hin
      exact ⟨hin.1.later, hin.2.2⟩
    · rw [hphase] at hin
      exact ⟨hin.1.later, hin.2.2.2⟩
  obtain ⟨hlater, hdoomed⟩ := hboth
  obtain ⟨g, htracker, hlt⟩ := hdoomed.older old hold
  have hstep : save.step ≠ old := Nat.ne_of_gt (Nat.lt_trans hlt (hlater g htracker))
  refine ⟨h.tracked_put ?_, h.retained_put ?_, ?_⟩
  · intro g' htracker'
    obtain rfl : g = g' := by
      rw [htracker] at htracker'
      exact Tracker.at.inj htracker'
    exact Nat.ne_of_gt hlt
  · intro role' hmem hfile'
    rw [hdirectory role' hfile'] at hmem
    exact hdoomed.gone old hold hmem
  · have hin := h.phase
    change InPhase options (t.put old file none) t.phase
    rcases hphase with hphase | hphase
    · rw [hphase] at hin ⊢
      exact ⟨hin.1.put fun heq => absurd heq hstep, hin.2.1, hdoomed.older, hdoomed.gone⟩
    · rw [hphase] at hin ⊢
      exact ⟨hin.1.put fun heq => absurd heq hstep, hin.2.1, hin.2.2.1, hdoomed.older,
        hdoomed.gone⟩

/-- The step that is saved is not in the tracker, and only the roles that are done keep it. -/
theorem TrainingInv.wrote (h : TrainingInv options t) {save : Save} {done : Role → Prop}
    (hsave : InSave options t save done) {file : StepFile} {content : Content}
    (hfile : ∀ role, done role → ¬ file.InDirectory role) {phase : SavePhase}
    (hphase : InPhase options (t.wrote save.step file content phase) phase) :
    TrainingInv options (t.wrote save.step file content phase) where
  tracked := h.tracked_put fun g hg => Nat.ne_of_lt (hsave.later g hg)
  retained := by
    apply h.retained_put
    intro role hmem
    rcases hsave.saved role save.step hmem with hbehind | hdone
    · exact absurd (hbehind.lt_of_later hsave.later) (Nat.lt_irrefl _)
    · exact hfile role hdone.1
  phase := hphase

theorem InSave.wrote {save : Save} {done : Role → Prop} (hsave : InSave options t save done)
    {file : StepFile} {content : Content} (hfile : ∀ role, done role → ¬ file.InDirectory role)
    (phase : SavePhase) : InSave options (t.wrote save.step file content phase) save done := by
  have hput : InSave options (t.put save.step file (some content)) save done :=
    hsave.put fun _ => hfile
  exact ⟨hput.tracker, hput.later, hput.sorted, hput.saved, hput.complete⟩

theorem TrainingInv.writing (h : TrainingInv options t) {save : Save} {role : Role}
    {progress : Nat → Nat} (hphase : t.phase = .writing save role progress) :
    InSave options t save role.Before ∧ role ∈ options.roles ∧ save.step ∈ t.disk.folders ∧
      Written options t save role progress := by
  have hin := h.phase
  rwa [hphase] at hin

theorem TrainingInv.write (h : TrainingInv options t) {save : Save} {role : Role}
    {progress : Nat → Nat} {rank : Nat} {kind : ShardKind}
    (hphase : t.phase = .writing save role progress)
    (hkind : options.contents[progress rank]? = some kind) :
    TrainingInv options
      (t.wrote save.step (.shard role rank kind) (.whole save.number)
        (.writing save role (Function.update progress rank (progress rank + 1)))) := by
  obtain ⟨hsave, hrole, hfolder, hwritten⟩ := h.writing hphase
  have hfile : ∀ role', role.Before role' →
      ¬ (StepFile.shard role rank kind).InDirectory role' := fun role' hdone heq =>
    hdone.ne heq.symm
  refine h.wrote hsave hfile ⟨hsave.wrote hfile _, hrole, hfolder, ?_, ?_⟩
  · intro rank' hrank' i hi kind' hkind'
    change (t.disk.put save.step _ _).files save.step _ = _
    rw [Disk.files_put]
    by_cases hsame : StepFile.shard role rank' kind' = .shard role rank kind
    · rw [hsame, Function.update_self]
    · rw [Function.update_of_ne hsame]
      by_cases hown : rank' = rank
      · subst hown
        rw [Function.update_self] at hi
        have hne : i ≠ progress rank' := by
          rintro rfl
          rw [hkind] at hkind'
          exact hsame (by rw [Option.some.inj hkind'])
        exact hwritten.shard rank' hrank' i (by omega) kind' hkind'
      · rw [Function.update_of_ne hown] at hi
        exact hwritten.shard rank' hrank' i hi kind' hkind'
  · intro hprogress
    change (t.disk.put save.step _ _).files save.step _ = _
    rw [Disk.files_put, Function.update_of_ne StepFile.noConfusion]
    apply hwritten.metadata
    by_cases hown : 0 = rank
    · subst hown
      rw [Function.update_self] at hprogress
      obtain ⟨hlt, -⟩ := List.getElem?_eq_some_iff.mp hkind
      omega
    · rwa [Function.update_of_ne hown] at hprogress

/-- Rank 0 goes on with its configurations. -/
theorem TrainingInv.configure (h : TrainingInv options t) {save : Save} {role : Role}
    {progress : Nat → Nat} {content : Content} {next : Nat}
    (hphase : t.phase = .writing save role progress)
    (hprogress : options.contents.length ≤ progress 0)
    (hcontent : next = options.contents.length + 2 → content = .whole save.number) :
    TrainingInv options
      (t.wrote save.step (.metadata role) content
        (.writing save role (Function.update progress 0 next))) := by
  obtain ⟨hsave, hrole, hfolder, hwritten⟩ := h.writing hphase
  have hfile : ∀ role', role.Before role' → ¬ (StepFile.metadata role).InDirectory role' :=
    fun role' hdone heq => hdone.ne heq.symm
  refine h.wrote hsave hfile ⟨hsave.wrote hfile _, hrole, hfolder, ?_, ?_⟩
  · intro rank hrank i hi kind hkind
    change (t.disk.put save.step _ _).files save.step _ = _
    rw [Disk.files_put, Function.update_of_ne StepFile.noConfusion]
    apply hwritten.shard rank hrank i _ kind hkind
    by_cases hown : rank = 0
    · subst hown
      obtain ⟨hlt, -⟩ := List.getElem?_eq_some_iff.mp hkind
      omega
    · rwa [Function.update_of_ne hown] at hi
  · intro hnext
    rw [Function.update_self] at hnext
    change (t.disk.put save.step _ _).files save.step _ = _
    rw [Disk.files_put, Function.update_self, hcontent hnext]

/-- A role is done when all its ranks are. -/
theorem Written.complete {save : Save} {role : Role} {progress : Nat → Nat}
    (h : Written options t save role progress)
    (hall : ∀ rank < options.worldSize, progress rank = options.filesOf rank) :
    RoleComplete options (t.disk.files save.step) save.number role where
  shard := by
    intro rank hrank kind hkind
    obtain ⟨i, hi, hget⟩ := List.mem_iff_getElem.mp hkind
    refine h.shard rank hrank i ?_ kind (hget ▸ List.getElem?_eq_getElem hi)
    rw [hall rank hrank]
    unfold CheckpointOptions.filesOf
    split <;> omega
  metadata := h.metadata (hall 0 options.worldSize_pos)

/-- A manager that keeps one checkpoint has none yet. -/
def Spares (options : CheckpointOptions) (t : Training) (role : Role) : Prop :=
  options.maxCkptToKeep role = some 1 → t.previousSavedPaths role = []

/-- The paths after a step is registered; the new one is the last of its role. -/
theorem mem_registered {save : Save} {role role' : Role} {step : Nat}
    (hkept : (registerCheckpoint (options.maxCkptToKeep role)
      (t.previousSavedPaths role) save.step).2.Sublist (t.previousSavedPaths role ++ [save.step]))
    (h : step ∈ (t.register options save role).previousSavedPaths role') :
    step ∈ t.previousSavedPaths role' ∨ role' = role ∧ step = save.step := by
  unfold Training.register at h
  dsimp only at h
  by_cases heq : role' = role
  · subst heq
    rw [Function.update_self] at h
    rcases List.mem_append.mp (hkept.subset h) with hold | hnew
    · exact .inl hold
    · exact .inr ⟨rfl, List.mem_singleton.mp hnew⟩
  · rw [Function.update_of_ne heq] at h
    exact .inl h

theorem TrainingInv.register (h : TrainingInv options t) {save : Save} {role : Role}
    {progress : Nat → Nat} (hspare : Spares options t role)
    (hphase : t.phase = .writing save role progress)
    (hall : ∀ rank < options.worldSize, progress rank = options.filesOf rank) :
    TrainingInv options (t.register options save role) := by
  obtain ⟨hsave, hrole, hfolder, hwritten⟩ := h.writing hphase
  have hcomplete := hwritten.complete hall
  have hbehind : ∀ step ∈ t.previousSavedPaths role, Behind t.disk.tracker step :=
    fun step hstep => (hsave.saved role step hstep).resolve_right fun hdone =>
      not_before_self role hdone.1
  have hsorted : (t.previousSavedPaths role ++ [save.step]).Pairwise (· < ·) := by
    rw [List.pairwise_append]
    refine ⟨hsave.sorted role, List.pairwise_singleton _ _, ?_⟩
    intro step hstep new hnew
    rw [List.mem_singleton.mp hnew]
    exact (hbehind step hstep).lt_of_later hsave.later
  have hretained := registerCheckpoint_retained hspare hsorted
  refine ⟨h.tracked, ?_, ⟨hsave.tracker, hsave.later, ?_, ?_, ?_⟩, hrole, hfolder, ?_, ?_⟩
  · intro role' hrole' step hstep
    rcases mem_registered hretained.kept hstep with hold | ⟨rfl, rfl⟩
    · exact h.retained role' hrole' step hold
    · exact ⟨save.number, hcomplete⟩
  · intro role'
    unfold Training.register
    dsimp only
    by_cases heq : role' = role
    · subst heq
      rw [Function.update_self]
      exact hsorted.sublist hretained.kept
    · rw [Function.update_of_ne heq]
      exact hsave.sorted role'
  · intro role' step hstep
    rcases mem_registered hretained.kept hstep with hold | ⟨hself, hnew⟩
    · exact (hsave.saved role' step hold).imp_right fun hdone =>
        ⟨Role.upTo_iff.mpr (.inr hdone.1), hdone.2⟩
    · exact .inr ⟨Role.upTo_iff.mpr (.inl hself), hnew⟩
  · intro role' hrole' hupTo
    rcases Role.upTo_iff.mp hupTo with rfl | hbefore
    · exact hcomplete
    · exact hsave.complete role' hrole' hbefore
  · intro old hold
    obtain ⟨step, hstep, hlt⟩ := hretained.later old hold
    obtain ⟨g, htracker, hle⟩ := hbehind step hstep
    exact ⟨g, htracker, Nat.lt_of_lt_of_le hlt hle⟩
  · intro old hold
    unfold Training.register
    dsimp only
    rw [Function.update_self]
    exact hretained.removed old hold

theorem TrainingInv.leave (h : TrainingInv options t) {save : Save} {role : Role}
    {doomed : List Nat} (hphase : t.phase = .retiring save role doomed) :
    TrainingInv options (t.leave options save role) := by
  have hin := h.phase
  rw [hphase] at hin
  obtain ⟨hsave, hrole, hfolder, -⟩ := hin
  have hfinish (hall : ∀ role' ∈ options.roles, role.UpTo role') :
      TrainingInv options { t with phase := .finishing save } := by
    refine ⟨h.tracked, h.retained, ⟨hsave.tracker, hsave.later, hsave.sorted, ?_, ?_⟩, hfolder⟩
    · exact fun role' step hstep => (hsave.saved role' step hstep).imp_right fun hnew =>
        ⟨trivial, hnew.2⟩
    · exact fun role' hrole' _ => hsave.complete role' hrole' (hall role' hrole')
  cases role with
  | actor =>
    unfold Training.leave
    dsimp only
    split
    · next hcritic =>
      apply h.enter _ hsave
      unfold CheckpointOptions.roles
      rw [if_pos hcritic]
      decide
    · next hcritic =>
      apply hfinish
      intro role' hrole'
      unfold CheckpointOptions.roles at hrole'
      rw [if_neg hcritic] at hrole'
      exact List.mem_singleton.mp hrole'
  | critic => exact hfinish fun _ _ => trivial

/-- The ranks of a role come to the first barrier. -/
theorem TrainingInv.made (h : TrainingInv options t) {save : Save} {role : Role}
    {doomed : List Nat} (hphase : t.phase = .making save role doomed) :
    TrainingInv options { t with
      disk := { t.disk with folders := save.step :: t.disk.folders }
      phase := .writing save role fun _ => 0 } := by
  have hin := h.phase
  rw [hphase] at hin
  obtain ⟨hsave, hrole, -⟩ := hin
  refine ⟨?_, h.retained, ?_, hrole, List.mem_cons_self, ?_, ?_⟩
  · exact fun g hg => ⟨List.mem_cons_of_mem _ (h.tracked g hg).folder, (h.tracked g hg).files⟩
  · exact ⟨hsave.tracker, hsave.later, hsave.sorted, hsave.saved, hsave.complete⟩
  · intro rank _ i hi
    exact absurd hi (Nat.not_lt_zero i)
  · intro hprogress
    exact absurd hprogress.symm (Nat.succ_ne_zero _)

theorem TrainingInv.openDataloader (h : TrainingInv options t) {save : Save}
    (hphase : t.phase = .finishing save) :
    TrainingInv options (t.wrote save.step .dataloader .partially (.dumping save)) := by
  have hin := h.phase
  rw [hphase] at hin
  exact h.wrote hin.1 (fun _ _ => id) ⟨hin.1.wrote (fun _ _ => id) _, hin.2⟩

theorem TrainingInv.closeDataloader (h : TrainingInv options t) {save : Save}
    (hphase : t.phase = .dumping save) :
    TrainingInv options (t.wrote save.step .dataloader (.whole save.number) (.noting save)) := by
  have hin := h.phase
  rw [hphase] at hin
  refine h.wrote hin.1 (fun _ _ => id) ⟨hin.1.wrote (fun _ _ => id) _, hin.2, ?_⟩
  change (t.disk.put save.step _ _).files save.step _ = _
  rw [Disk.files_put, Function.update_self]

theorem TrainingInv.openTracker (h : TrainingInv options t) {save : Save}
    (hphase : t.phase = .noting save) :
    TrainingInv options { t with
      disk := { t.disk with tracker := .empty }
      phase := .opened save } := by
  have hin := h.phase
  rw [hphase] at hin
  obtain ⟨hsave, hfolder, hdata⟩ := hin
  refine ⟨?_, h.retained, rfl, ⟨hfolder, save.number, ?_, hdata⟩, ?_⟩
  · intro g hg
    cases hg
  · exact fun role hrole => hsave.complete role hrole trivial
  · refine fun role => ⟨hsave.sorted role, fun step hstep => ?_⟩
    rcases hsave.saved role step hstep with hbehind | hnew
    · exact Nat.le_of_lt (hbehind.lt_of_later hsave.later)
    · exact Nat.le_of_eq hnew.2

theorem TrainingInv.closeTracker (h : TrainingInv options t) {save : Save}
    (hphase : t.phase = .opened save) :
    TrainingInv options { t with
      disk := { t.disk with tracker := .at save.step }
      phase := .training save.step } := by
  have hin := h.phase
  rw [hphase] at hin
  obtain ⟨-, hcomplete, hsaved⟩ := hin
  refine ⟨?_, h.retained, Tracker.noConfusion, ?_, ?_⟩
  · intro g hg
    obtain rfl := Tracker.at.inj hg
    exact ⟨hcomplete.folder, hcomplete.files⟩
  · intro g hg
    exact Nat.le_of_eq (Tracker.at.inj hg).symm
  · exact fun role => ⟨(hsaved role).1, fun step hstep =>
      ⟨save.step, rfl, (hsaved role).2 step hstep⟩⟩

theorem TrainingInv.restart (h : TrainingInv options t) {globalSteps : Nat}
    (hphase : t.phase = .down)
    (hload : loadCheckpoint options defaultLocalDir t.disk = .ok globalSteps) :
    TrainingInv options { t with phase := .training globalSteps } := by
  have hnone := h.phase
  rw [hphase] at hnone
  refine ⟨h.tracked, h.retained, ?_, ?_, ?_⟩
  · intro hempty
    unfold loadCheckpoint at hload
    rw [show t.disk.tracker = .empty from hempty] at hload
    cases hload
  · intro g hg
    rw [(h.tracked g hg).load hg] at hload
    exact Nat.le_of_eq (Except.ok.inj hload)
  · intro role
    dsimp only
    rw [hnone role]
    exact ⟨.nil, fun _ hstep => by cases hstep⟩

/-- No role in use keeps just one checkpoint. -/
def CheckpointOptions.KeepsMore (options : CheckpointOptions) : Prop :=
  ∀ role ∈ options.roles, options.maxCkptToKeep role ≠ some 1

theorem TrainingInv.step (h : TrainingInv options t) (hkeep : options.KeepsMore) {t' : Training}
    (hstep : SaveStep options defaultLocalDir t t') : TrainingInv options t' := by
  cases hstep with
  | save globalSteps step hphase hlater => exact h.save hphase hlater
  | discard save role doomed old file hphase hold hfile => exact h.discard hphase hold hfile
  | made save role doomed hphase => exact h.made hphase
  | write save role progress rank kind hphase hrank hkind => exact h.write hphase hkind
  | openMetadata save role progress hphase hprogress =>
    exact h.configure hphase (Nat.le_of_eq hprogress.symm) (by omega)
  | closeMetadata save role progress hphase hprogress =>
    exact h.configure hphase (by omega) fun _ => rfl
  | register save role progress hphase hall =>
    exact h.register (fun hone => absurd hone (hkeep role (h.writing hphase).2.1)) hphase hall
  | leave save role doomed hphase => exact h.leave hphase
  | openDataloader save hphase => exact h.openDataloader hphase
  | closeDataloader save hphase => exact h.closeDataloader hphase
  | openTracker save hphase => exact h.openTracker hphase
  | closeTracker save hphase => exact h.closeTracker hphase
  | kill =>
    refine ⟨h.tracked, ?_, fun _ => rfl⟩
    intro role _ step hstep
    cases hstep
  | restart globalSteps hphase hload => exact h.restart hphase hload

theorem TrainingReachable.inv (hkeep : options.KeepsMore)
    (hreachable : TrainingReachable options defaultLocalDir t) : TrainingInv options t := by
  induction hreachable with
  | refl => exact .initial
  | tail _ hstep ih => exact ih.step hkeep hstep

/-! ### Resuming -/

/-- The tracker is empty only while it is written, and after a kill that fell there. -/
theorem TrainingInv.empty (h : TrainingInv options t) (hempty : t.disk.tracker = .empty) :
    t.phase = .down ∨ ∃ save, t.phase = .opened save := by
  have hin := h.phase
  cases hphase : t.phase with
  | down => exact .inl rfl
  | opened save => exact .inr ⟨save, rfl⟩
  | training globalSteps =>
    rw [hphase] at hin
    exact absurd hempty hin.1
  | making save role doomed =>
    rw [hphase] at hin
    exact absurd hempty hin.1.tracker
  | writing save role progress =>
    rw [hphase] at hin
    exact absurd hempty hin.1.tracker
  | retiring save role doomed =>
    rw [hphase] at hin
    exact absurd hempty hin.1.tracker
  | finishing save =>
    rw [hphase] at hin
    exact absurd hempty hin.1.tracker
  | dumping save =>
    rw [hphase] at hin
    exact absurd hempty hin.1.tracker
  | noting save =>
    rw [hphase] at hin
    exact absurd hempty hin.1.tracker

/-- With an empty tracker no process comes up again. -/
theorem stays_down {t' : Training} (hdown : t.phase = .down) (hempty : t.disk.tracker = .empty)
    (hsteps : Relation.ReflTransGen (SaveStep options defaultLocalDir) t t') :
    t'.phase = .down ∧ t'.disk.tracker = .empty := by
  induction hsteps with
  | refl => exact ⟨hdown, hempty⟩
  | tail _ hstep ih =>
    obtain ⟨hdown, hempty⟩ := ih
    cases hstep with
    | kill => exact ⟨rfl, hempty⟩
    | restart globalSteps hphase hload =>
      unfold loadCheckpoint at hload
      rw [hempty] at hload
      cases hload
    | discard save role doomed old file hphase =>
      rw [hdown] at hphase
      rcases hphase with hphase | hphase <;> cases hphase
    | _ => simp_all

end R2opl
