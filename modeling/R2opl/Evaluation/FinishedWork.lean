import R2opl.Evaluation.PerCheckpoint

/-!
# Finished work survives

Over every history of per-checkpoint runs, failures, kills and resumes: the persisted
documents are in order, none loses or rewrites a finished result, and what a later run
completes comes from that run's own base evaluation.
-/

namespace R2opl

open Checked Program

variable {B R W E : Type}

namespace World

/-- The entries of the document on disk. -/
def steps (world : World B R W E) : List (StepResult B W E) :=
  (world.history.getLast?.map ResultDocument.steps).getD []

def initialBase (world : World B R W E) : Option (EvaluationResult B W E) :=
  world.history.getLast?.bind ResultDocument.initialBase

/-- The target is finished on disk. -/
def Done (world : World B R W E) : EvaluationTarget → Prop
  | .initialBase => world.initialBase.map (·.status) = some .completed
  | .checkpoint stepNum =>
      ∃ step ∈ world.steps, step.status = .completed ∧ step.stepNum = stepNum

/-- What every history of runs keeps. -/
structure Sound (world : World B R W E) : Prop where
  ascending : ∀ document ∈ world.history, document.StepsAscending
  pairwise : world.history.Pairwise ResultDocument.KeepsCompleted
  resultFile : world.resultFile = world.history.getLast?.map .document

/-- What a run leaves, however it ends. -/
structure KeptBy (backend : Backend B R W E) (config : EvaluationConfig)
    (before after : World B R W E) (documents : List (ResultDocument B W E))
    (evaluations : List (BaseEvaluation B R)) : Prop where
  history_eq : after.history = before.history ++ documents
  evaluations_eq : after.evaluations = before.evaluations ++ evaluations
  sound : after.Sound
  derived : ∀ document ∈ documents,
    Derived backend config before.steps before.initialBase evaluations document

/-- What a run that returns has on disk. -/
structure CompletedBy (config : EvaluationConfig) (checkpoints : List CheckpointSpec)
    (before after : World B R W E) (evaluations : List (BaseEvaluation B R))
    (final : ResultDocument B W E) : Prop where
  written : after.history.getLast? = some final
  status : final.status = .completed
  signature : final.checkpointRunSignature = checkpointRunSignature config
  initialBase : final.InitialBaseDone config
  steps : ∀ checkpoint ∈ checkpoints, final.Done (.checkpoint checkpoint.stepNum)
  frame : ∀ step, step.stepNum ∉ checkpoints.map CheckpointSpec.stepNum →
    (step ∈ final.steps ↔ step ∈ before.steps)
  initialBase_evaluated : config.initialBaseEvaluation = true →
    before.Done .initialBase ∨ Run.Covers evaluations .initialBase
  steps_evaluated : ∀ checkpoint ∈ checkpoints,
    before.Done (.checkpoint checkpoint.stepNum) ∨
      Run.Covers evaluations (.checkpoint checkpoint.stepNum)

/-- How a run returns. -/
def CompletedAt (backend : Backend B R W E) (config : EvaluationConfig)
    (checkpoints : List CheckpointSpec) (before after : World B R W E) : Prop :=
  ∃ documents evaluations final, KeptBy backend config before after documents evaluations ∧
    CompletedBy config checkpoints before after evaluations final

/-- How a run stops: no document of its own is completed, or its final one has been
    persisted. -/
def StoppedAt (backend : Backend B R W E) (config : EvaluationConfig)
    (checkpoints : List CheckpointSpec) (before after : World B R W E) : Prop :=
  ∃ documents evaluations, KeptBy backend config before after documents evaluations ∧
    ((∀ document ∈ documents, document.status ≠ .completed) ∨
      ∃ final, CompletedBy config checkpoints before after evaluations final)

theorem KeptBy.stoppedAt {backend : Backend B R W E} {config : EvaluationConfig}
    {checkpoints : List CheckpointSpec} {before after : World B R W E}
    {evaluations : List (BaseEvaluation B R)}
    (h : KeptBy backend config before after [] evaluations) :
    StoppedAt backend config checkpoints before after :=
  ⟨[], evaluations, h, .inl fun _ hdocument => absurd hdocument List.not_mem_nil⟩

/-- A run that leaves the documents alone. -/
theorem Sound.kept {backend : Backend B R W E} {config : EvaluationConfig}
    {before after : World B R W E} (h : before.Sound) (hhistory : after.history = before.history)
    (hevaluations : after.evaluations = before.evaluations)
    (hfile : after.resultFile = before.resultFile) : KeptBy backend config before after [] [] where
  history_eq := by rw [hhistory, List.append_nil]
  evaluations_eq := by rw [hevaluations, List.append_nil]
  sound := {
    ascending := by
      rw [hhistory]
      exact h.ascending
    pairwise := by
      rw [hhistory]
      exact h.pairwise
    resultFile := by
      rw [hfile, hhistory]
      exact h.resultFile }
  derived := fun _ hdocument => absurd hdocument List.not_mem_nil

end World

/-! ### What the loader takes up -/

section Load

variable {config : EvaluationConfig} {resume resumed : Bool} {expectedSteps : List Nat}
  {now : Nat} {file : Option (ResultFile B W E)} {document : ResultDocument B W E}

/-- The stored document that the loader has taken up, or a new one. -/
inductive Loaded (config : EvaluationConfig) (expectedSteps : List Nat) :
    Option (ResultFile B W E) → ResultDocument B W E → Prop where
  | new (now : Nat) : Loaded config expectedSteps none (newCheckpointDocument config now)
  | resumed (now : Nat) {stored : ResultDocument B W E}
      (hsignature : stored.checkpointRunSignature = checkpointRunSignature config)
      (hstatus : stored.status ≠ .completed) :
      Loaded config expectedSteps (some (.document stored)) (resumedDocument stored now)
  | completed {stored : ResultDocument B W E}
      (hsignature : stored.checkpointRunSignature = checkpointRunSignature config)
      (hstatus : stored.status = .completed)
      (hsteps : ∀ stepNum, stepNum ∈ stored.completedSteps ↔ stepNum ∈ expectedSteps)
      (hinitial : stored.InitialBaseDone config) :
      Loaded config expectedSteps (some (.document stored)) stored

theorem checkCompleted_eq_ok :
    checkCompleted config expectedSteps document = .ok () ↔
      (∀ stepNum, stepNum ∈ document.completedSteps ↔ stepNum ∈ expectedSteps) ∧
        document.InitialBaseDone config := by
  unfold checkCompleted
  rw [raiseIf_bind_eq_ok, raiseIf_eq_ok, not_not]
  apply and_congr
  · exact ⟨fun h stepNum => ⟨fun hmem => h.1 hmem, fun hmem => h.2 hmem⟩,
      fun h => ⟨fun stepNum => (h stepNum).mp, fun stepNum => (h stepNum).mpr⟩⟩
  · rw [not_and, not_not]
    rfl

theorem Loaded.of_load
    (h : loadCheckpointDocument config resume expectedSteps now file = .ok (document, resumed)) :
    Loaded config expectedSteps file document := by
  cases file with
  | none =>
    cases h
    exact .new now
  | some file =>
    obtain ⟨_, h⟩ := raiseIf_bind_eq_ok.mp h
    obtain ⟨taken, htaken, h⟩ := bind_eq_ok.mp h
    cases h
    cases file with
    | unreadable error => cases htaken
    | notAnObject => cases htaken
    | stepsNotAList signature =>
      obtain ⟨_, _, htaken⟩ := bind_eq_ok.mp htaken
      cases htaken
    | malformedEntry signature before =>
      obtain ⟨_, _, htaken⟩ := bind_eq_ok.mp htaken
      obtain ⟨_, _, htaken⟩ := bind_eq_ok.mp htaken
      cases htaken
    | document stored =>
      obtain ⟨_, hsignature, htaken⟩ := bind_eq_ok.mp htaken
      obtain ⟨_, _, htaken⟩ := bind_eq_ok.mp htaken
      have hsame := not_not.mp (raiseIf_eq_ok.mp hsignature)
      split at htaken
      · rename_i hstatus
        obtain ⟨_, hcompleted, htaken⟩ := bind_eq_ok.mp htaken
        cases htaken
        obtain ⟨hsteps, hinitial⟩ := checkCompleted_eq_ok.mp hcompleted
        exact .completed hsame hstatus hsteps hinitial
      · rename_i hstatus
        cases htaken
        exact .resumed now hsame hstatus

theorem Loaded.of_start {backend : Backend B R W E} {checkpoints : List CheckpointSpec}
    {world : World B R W E}
    (h : startDocument backend config checkpoints resume world = .ok document) :
    Loaded config (checkpoints.map CheckpointSpec.stepNum) (readResultFile backend world)
      document := by
  obtain ⟨_, h⟩ := raiseIf_bind_eq_ok.mp h
  obtain ⟨_, h⟩ := raiseIf_bind_eq_ok.mp h
  obtain ⟨⟨_, resumed⟩, hload, h⟩ := bind_eq_ok.mp h
  obtain ⟨_, h⟩ := raiseIf_bind_eq_ok.mp h
  cases h
  exact .of_load hload

end Load

/-! ### One run -/

section OneRun

variable {backend : Backend B R W E} {config : EvaluationConfig} {before : World B R W E}
  {checkpoints : List CheckpointSpec} {document : ResultDocument B W E}

/-- The run that takes up a document in a world. -/
def runFrom (backend : Backend B R W E) (config : EvaluationConfig) (before : World B R W E)
    (checkpoints : List CheckpointSpec) (document : ResultDocument B W E) : Run B R W E where
  backend := backend
  config := config
  start := before
  loaded := document
  targets := checkpoints.map CheckpointSpec.stepNum

/-- The last document keeps the finished work of all. -/
theorem World.Sound.keeps_last (hsound : before.Sound)
    (hlast : before.history.getLast? = some document) :
    ∀ earlier ∈ before.history, earlier.KeepsCompleted document := by
  obtain ⟨init, hinit⟩ := List.getLast?_eq_some_iff.mp hlast
  have hpairwise := hsound.pairwise
  rw [hinit] at hpairwise ⊢
  intro earlier hearlier
  rcases List.mem_append.mp hearlier with hold | hnew
  · exact (List.pairwise_append.mp hpairwise).2.2 earlier hold document
      (List.mem_singleton.mpr rfl)
  · rw [List.mem_singleton.mp hnew]
    exact .refl _

/-- A document with the entries on disk starts a run. -/
structure Takes (config : EvaluationConfig) (before : World B R W E)
    (document : ResultDocument B W E) : Prop where
  steps : document.steps = before.steps
  initialBase : document.initialBase = before.initialBase
  signature : document.checkpointRunSignature = checkpointRunSignature config
  ascending : document.StepsAscending
  keeps : ∀ earlier ∈ before.history, earlier.KeepsCompleted document

theorem Takes.of_last (hsound : before.Sound) {stored : ResultDocument B W E}
    (hlast : before.history.getLast? = some stored)
    (hsignature : stored.checkpointRunSignature = checkpointRunSignature config) :
    Takes config before stored where
  steps := by rw [World.steps, hlast, Option.map_some, Option.getD_some]
  initialBase := by rw [World.initialBase, hlast, Option.bind_some]
  signature := hsignature
  ascending := hsound.ascending stored (List.mem_of_getLast? hlast)
  keeps := hsound.keeps_last hlast

/-- A document that was read is the last one persisted. -/
theorem last_of_read (hsound : before.Sound)
    (h : readResultFile backend before = some (.document document)) :
    before.history.getLast? = some document := by
  unfold readResultFile at h
  rw [hsound.resultFile] at h
  cases hlast : before.history.getLast? with
  | none =>
    rw [hlast] at h
    cases h
  | some stored =>
    rw [hlast] at h
    cases hread : backend.readError before.clock with
    | some error =>
      rw [hread] at h
      cases h
    | none =>
      rw [hread] at h
      cases h
      rfl

theorem empty_of_not_read (hsound : before.Sound) (h : readResultFile backend before = none) :
    before.history = [] := by
  unfold readResultFile at h
  rw [hsound.resultFile, Option.map_map, Option.map_eq_none_iff] at h
  exact List.getLast?_eq_none_iff.mp h

/-- The loaded document has the entries on disk. -/
theorem Loaded.takes {expectedSteps : List Nat} (hsound : before.Sound)
    (h : Loaded config expectedSteps (readResultFile backend before) document) :
    Takes config before document := by
  generalize hfile : readResultFile backend before = file at h
  cases h with
  | new now =>
    have hempty := empty_of_not_read hsound hfile
    exact {
      steps := by
        rw [World.steps, hempty]
        rfl
      initialBase := by
        rw [World.initialBase, hempty]
        rfl
      signature := rfl
      ascending := List.Pairwise.nil
      keeps := by
        rw [hempty]
        exact fun _ hearlier => absurd hearlier List.not_mem_nil }
  | resumed now hsignature _ =>
    have htakes := Takes.of_last hsound (last_of_read hsound hfile) hsignature
    exact {
      steps := htakes.steps
      initialBase := htakes.initialBase
      signature := htakes.signature
      ascending := htakes.ascending
      keeps := fun earlier hearlier =>
        ⟨(htakes.keeps earlier hearlier).steps, (htakes.keeps earlier hearlier).initialBase⟩ }
  | completed hsignature _ _ _ =>
    exact .of_last hsound (last_of_read hsound hfile) hsignature

/-- A target that was loaded as finished is finished on disk. -/
theorem Takes.done (h : Takes config before document) {target : EvaluationTarget}
    (hdone : document.Done target) : before.Done target := by
  cases target with
  | initialBase =>
    rw [World.Done, ← h.initialBase]
    exact hdone
  | checkpoint stepNum =>
    rw [World.Done, ← h.steps]
    exact ResultDocument.mem_completedSteps.mp hdone

/-- A document that is taken up as completed is left as it is. -/
theorem Loaded.completedBy {after : World B R W E} (hsound : before.Sound)
    (h : Loaded config (checkpoints.map CheckpointSpec.stepNum)
      (readResultFile backend before) document)
    (hstatus : document.status = .completed) (hhistory : after.history = before.history) :
    World.CompletedBy config checkpoints before after [] document := by
  have htakes := h.takes hsound
  generalize hfile : readResultFile backend before = file at h
  cases h with
  | new now => cases hstatus
  | resumed now _ _ => cases hstatus
  | completed hsignature _ hsteps hinitial =>
    have hfinished : ∀ checkpoint ∈ checkpoints,
        document.Done (.checkpoint checkpoint.stepNum) :=
      fun checkpoint hcheckpoint => (hsteps _).mpr (List.mem_map_of_mem hcheckpoint)
    exact {
      written := by
        rw [hhistory]
        exact last_of_read hsound hfile
      status := hstatus
      signature := hsignature
      initialBase := hinitial
      steps := hfinished
      frame := by
        intro step _
        rw [htakes.steps]
      initialBase_evaluated := fun henabled => .inl (htakes.done (hinitial henabled))
      steps_evaluated := fun checkpoint hcheckpoint =>
        .inl (htakes.done (hfinished checkpoint hcheckpoint)) }

/-- The invariant holds when the run takes up its document. -/
theorem Takes.invariant (hsound : before.Sound) (h : Takes config before document) :
    (runFrom backend config before checkpoints document).Invariant
      (Session.progress ⟨before, document, []⟩) where
  evaluations := List.prefix_rfl
  history := List.prefix_rfl
  ascending := h.ascending
  signature := h.signature
  derived := ⟨fun _ hstep => .inl hstep, fun _ hresult => .inl hresult⟩
  frame := fun _ _ => .rfl
  keeps := h.keeps
  documents := by
    have hnone : (runFrom backend config before checkpoints document).newDocuments
        (Session.progress ⟨before, document, []⟩) = [] := List.drop_length
    rw [hnone]
    exact fun _ hlater => absurd hlater List.not_mem_nil
  pairwise := hsound.pairwise
  resultFile := hsound.resultFile

/-- What the invariant says about the world that the run leaves. -/
theorem Run.Invariant.kept {session : Session B R W E} (hsound : before.Sound)
    (htakes : Takes config before document)
    (h : (runFrom backend config before checkpoints document).Invariant session.progress) :
    World.KeptBy backend config before session.toWorld
      ((runFrom backend config before checkpoints document).newDocuments session.progress)
      ((runFrom backend config before checkpoints document).newEvaluations
        session.progress) where
  history_eq := (List.prefix_iff_eq_append.mp h.history).symm
  evaluations_eq := (List.prefix_iff_eq_append.mp h.evaluations).symm
  sound := {
    ascending := by
      intro later hlater
      have hhistory : session.history = before.history ++
          (runFrom backend config before checkpoints document).newDocuments session.progress :=
        (List.prefix_iff_eq_append.mp h.history).symm
      rw [hhistory] at hlater
      rcases List.mem_append.mp hlater with hold | hnew
      · exact hsound.ascending later hold
      · exact (h.documents later hnew).1
    pairwise := h.pairwise
    resultFile := h.resultFile }
  derived := by
    intro later hlater
    have hderived := (h.documents later hlater).2
    unfold Run.DerivedFrom at hderived
    rw [show (runFrom backend config before checkpoints document).loaded.steps = before.steps
        from htakes.steps,
      show (runFrom backend config before checkpoints document).loaded.initialBase =
        before.initialBase from htakes.initialBase] at hderived
    exact hderived

/-- What the end of a returning run says about its final document. -/
theorem Run.Completed.completedBy {session : Session B R W E}
    (htakes : Takes config before document)
    (h : (runFrom backend config before checkpoints document).Completed checkpoints
      session.progress) :
    World.CompletedBy config checkpoints before session.toWorld
      ((runFrom backend config before checkpoints document).newEvaluations session.progress)
      session.document where
  written := h.written
  status := h.status
  signature := h.invariant.signature
  initialBase := h.initialBase
  steps := h.steps
  frame := by
    intro step hother
    rw [← htakes.steps]
    exact h.invariant.frame step hother
  initialBase_evaluated := fun henabled => (h.initialBase_evaluated henabled).imp_left htakes.done
  steps_evaluated := fun checkpoint hcheckpoint =>
    (h.steps_evaluated checkpoint hcheckpoint).imp_left htakes.done

/-- The part of a run that has the document in memory. -/
theorem runDocument_keeps (hsound : before.Sound) (htakes : Takes config before document)
    (hascending : (checkpoints.map CheckpointSpec.stepNum).Pairwise (· < ·))
    (hper : config.usesSharedTeacher = false) (hstatus : document.status ≠ .completed) :
    Triple (fun world => world = { before with clock := before.clock + 1 })
      (within (fun world => ⟨world, document, []⟩) Session.toWorld
        (runDocument backend config checkpoints))
      (fun _ => World.CompletedAt backend config checkpoints before)
      (fun _ => World.StoppedAt backend config checkpoints before) := by
  have htargets : ∀ checkpoint ∈ checkpoints, checkpoint.stepNum ∈
      (runFrom backend config before checkpoints document).targets :=
    fun checkpoint hcheckpoint => List.mem_map_of_mem hcheckpoint
  have hrun := Run.completed_runDocument hascending htargets hper
  apply triple_within
  apply hrun.mono
  · rintro _ ⟨_, rfl, rfl⟩
    exact ⟨⟨htakes.invariant hsound, ⟨fun _ => .rfl, rfl⟩, List.nil_subset _⟩,
      unfinished_of_start hstatus rfl⟩
  · intro _ session hcompleted
    exact ⟨_, _, _, hcompleted.invariant.kept hsound htakes, hcompleted.completedBy htakes⟩
  · rintro _ session ⟨hinvariant, hended⟩
    refine ⟨_, _, Run.Invariant.kept hsound htakes hinvariant, ?_⟩
    exact hended.imp_right fun hcompleted => ⟨_, hcompleted.completedBy htakes⟩

/-- A run leaves what it must, however it ends, and a completed document if it returns. -/
theorem evaluateCheckpoints_keeps (resume : Bool) (hsound : before.Sound)
    (hascending : (checkpoints.map CheckpointSpec.stepNum).Pairwise (· < ·))
    (hper : config.usesSharedTeacher = false) :
    Triple (fun world => world = before) (evaluateCheckpoints backend config checkpoints resume)
      (fun _ => World.CompletedAt backend config checkpoints before)
      (fun _ => World.StoppedAt backend config checkpoints before) := by
  have hunchanged : World.KeptBy backend config before
      { before with clock := before.clock + 1 } [] [] := hsound.kept rfl rfl rfl
  unfold evaluateCheckpoints
  apply triple_get_bind
  rintro world rfl
  apply triple_bind (triple_modify_eq _ world)
  intro _
  cases hstart : startDocument backend config checkpoints resume world with
  | error error =>
    apply triple_throw
    rintro _ rfl
    exact hunchanged.stoppedAt
  | ok document =>
    have hloaded := Loaded.of_start hstart
    dsimp only
    split
    · rename_i hstatus
      apply triple_pure
      rintro _ rfl
      exact ⟨[], [], document, hunchanged, hloaded.completedBy hsound hstatus rfl⟩
    · rename_i hstatus
      exact runDocument_keeps hsound (hloaded.takes hsound) hascending hper hstatus

end OneRun

/-! ### Every history -/

section Histories

variable {backend : Backend B R W E}

/-- The worlds that per-checkpoint runs reach, each started where the last one ended,
    failed or was killed; the checkpoint directories may differ from run to run. -/
def CheckpointHistory (backend : Backend B R W E) : World B R W E → Prop :=
  Reachable (Invocation.main backend)
    (fun invocation => invocation.config.usesSharedTeacher = false) (World.initial B R W E)

/-- The clock is no part of what a run keeps. -/
theorem World.CompletedAt.ticked {config : EvaluationConfig} {checkpoints : List CheckpointSpec}
    {before after : World B R W E}
    (h : World.CompletedAt backend config checkpoints
      { before with clock := before.clock + 1 } after) :
    World.CompletedAt backend config checkpoints before after := by
  obtain ⟨documents, evaluations, final, hkept, hcompleted⟩ := h
  exact ⟨documents, evaluations, final,
    ⟨hkept.history_eq, hkept.evaluations_eq, hkept.sound, hkept.derived⟩, { hcompleted with }⟩

theorem World.StoppedAt.ticked {config : EvaluationConfig} {checkpoints : List CheckpointSpec}
    {before after : World B R W E}
    (h : World.StoppedAt backend config checkpoints
      { before with clock := before.clock + 1 } after) :
    World.StoppedAt backend config checkpoints before after := by
  obtain ⟨documents, evaluations, hkept, hended⟩ := h
  refine ⟨documents, evaluations,
    ⟨hkept.history_eq, hkept.evaluations_eq, hkept.sound, hkept.derived⟩, ?_⟩
  exact hended.imp_right fun ⟨final, hcompleted⟩ => ⟨final, { hcompleted with }⟩

/-- What a command line leaves, and what it has completed when it returns. -/
theorem main_keeps {before : World B R W E} (hsound : before.Sound) (invocation : Invocation)
    (hper : invocation.config.usesSharedTeacher = false) :
    Triple (fun world => world = before) (invocation.main backend)
      (fun _ after => ∃ checkpoints,
        discoverCheckpoints invocation.config invocation.children = .ok checkpoints ∧
        World.CompletedAt backend invocation.config checkpoints before after)
      (fun _ after => World.KeptBy backend invocation.config before after [] [] ∨
        ∃ checkpoints,
          discoverCheckpoints invocation.config invocation.children = .ok checkpoints ∧
          World.StoppedAt backend invocation.config checkpoints before after) := by
  unfold Invocation.main
  cases hdiscover : discoverCheckpoints invocation.config invocation.children with
  | error error =>
    apply triple_throw
    rintro _ rfl
    exact .inl (hsound.kept rfl rfl rfl)
  | ok checkpoints =>
    apply triple_get_bind
    rintro world rfl
    have hticked : ({ world with clock := world.clock + 1 } : World B R W E).Sound :=
      ⟨hsound.ascending, hsound.pairwise, hsound.resultFile⟩
    apply triple_bind (triple_modify_eq _ world)
    intro _
    cases backend.validate world.clock with
    | some stop =>
      apply triple_throw
      rintro _ rfl
      exact .inl (hsound.kept rfl rfl rfl)
    | none =>
      apply (evaluateCheckpoints_keeps invocation.resume hticked
        (discoverCheckpoints_ascending hdiscover) hper).mono
      · exact fun _ h => h
      · intro _ after hcompleted
        exact ⟨checkpoints, rfl, hcompleted.ticked⟩
      · intro _ after hstopped
        exact .inr ⟨checkpoints, rfl, hstopped.ticked⟩

/-- However a command line ends, it keeps what was persisted. -/
theorem main_kept {before : World B R W E} (hsound : before.Sound) (invocation : Invocation)
    (hper : invocation.config.usesSharedTeacher = false) :
    Triple (fun world => world = before) (invocation.main backend)
      (fun _ after => ∃ checkpoints,
        discoverCheckpoints invocation.config invocation.children = .ok checkpoints ∧
        World.CompletedAt backend invocation.config checkpoints before after)
      (fun _ after => ∃ documents evaluations,
        World.KeptBy backend invocation.config before after documents evaluations) := by
  apply (main_keeps hsound invocation hper).mono
  · exact fun _ h => h
  · exact fun _ _ h => h
  · rintro _ after (hkept | ⟨_, _, documents, evaluations, hkept, _⟩)
    · exact ⟨[], [], hkept⟩
    · exact ⟨documents, evaluations, hkept⟩

theorem CheckpointHistory.sound {world : World B R W E} (h : CheckpointHistory backend world) :
    world.Sound := by
  apply Reachable.invariant World.Sound _ _ h
  · exact ⟨fun _ hdocument => absurd hdocument List.not_mem_nil, List.Pairwise.nil, rfl⟩
  · intro invocation hper world hsound
    apply (main_kept hsound invocation hper world rfl).mono
    · rintro _ _ ⟨_, _, _, _, _, hkept, _⟩
      exact hkept.sound
    · rintro _ _ ⟨_, _, hkept⟩
      exact hkept.sound

/-- A document in order that is not completed is resumed under its configuration. -/
theorem loadCheckpointDocument_resumes {config : EvaluationConfig}
    {document : ResultDocument B W E} (hascending : document.StepsAscending)
    (hstatus : document.status ≠ .completed)
    (hsignature : document.checkpointRunSignature = checkpointRunSignature config)
    (expectedSteps : List Nat) (now : Nat) :
    loadCheckpointDocument config true expectedSteps now (some (.document document)) =
      .ok (resumedDocument document now, true) := by
  have hsteps : checkStepEntries [] document.steps = .ok () :=
    checkStepEntries_eq_ok.mpr ⟨hascending.nodup, fun _ _ => List.not_mem_nil⟩
  have htaken : takeUpDocument config expectedSteps now (.document document) =
      .ok (resumedDocument document now) := by
    rw [takeUpDocument, checkSignature, raiseIf_of_not (not_not.mpr hsignature), ok_bind,
      hsteps, ok_bind, if_neg hstatus]
    rfl
  rw [loadCheckpointDocument, raiseIf_of_not Bool.noConfusion, ok_bind, htaken, ok_bind]
  rfl

/-- **Finished work survives.**  After any history of per-checkpoint runs, every persisted
    document lists its steps in ascending order without repetition, every completed result
    stays the same in all later ones, and a document that is not completed is resumed.  In
    any further run, every entry persisted is an inherited one, unchanged, or comes from a
    base evaluation of that run; and if the run returns, each of its checkpoints was
    completed before or has been evaluated again from its base phase. -/
theorem checkpoint_evaluation_keeps_finished_work {world : World B R W E}
    (h : CheckpointHistory backend world) :
    (∀ document ∈ world.history, document.StepsAscending) ∧
    world.history.Pairwise ResultDocument.KeepsCompleted ∧
    (∀ document ∈ world.history, document.status ≠ .completed →
      ∀ config expectedSteps now,
        document.checkpointRunSignature = checkpointRunSignature config →
          loadCheckpointDocument config true expectedSteps now (some (.document document)) =
            .ok (resumedDocument document now, true)) ∧
    ∀ invocation : Invocation, invocation.config.usesSharedTeacher = false →
      Meets
        (fun _ after => ∃ checkpoints documents evaluations,
          discoverCheckpoints invocation.config invocation.children = .ok checkpoints ∧
          World.KeptBy backend invocation.config world after documents evaluations ∧
          (invocation.config.initialBaseEvaluation = true →
            world.Done .initialBase ∨ Run.Covers evaluations .initialBase) ∧
          ∀ checkpoint ∈ checkpoints, world.Done (.checkpoint checkpoint.stepNum) ∨
            Run.Covers evaluations (.checkpoint checkpoint.stepNum))
        (fun _ after => ∃ documents evaluations,
          World.KeptBy backend invocation.config world after documents evaluations)
        ((invocation.main backend).run world) := by
  have hsound := h.sound
  refine ⟨hsound.ascending, hsound.pairwise, ?_, ?_⟩
  · intro document hdocument hstatus config expectedSteps now hsignature
    exact loadCheckpointDocument_resumes (hsound.ascending document hdocument) hstatus
      hsignature expectedSteps now
  · intro invocation hper
    apply (main_kept hsound invocation hper world rfl).mono
    · rintro _ after ⟨checkpoints, hdiscover, documents, evaluations, final, hkept, hcompleted⟩
      exact ⟨checkpoints, documents, evaluations, hdiscover, hkept,
        hcompleted.initialBase_evaluated, hcompleted.steps_evaluated⟩
    · exact fun _ _ hkept => hkept

end Histories

/-! ### A crash -/

/-- A Hugging Face checkpoint directory. -/
def checkpointDirectory (name : String) : DirectoryEntry where
  name := name.toList
  path := name
  resolved := name
  isDirectory := true
  chooseHfModel := .ok (some name)
  chooseFsdpSource := fun _ => .error (valueError "")
  hasFsdpHuggingfaceMetadata := false

/-- Base rollouts only, without an initial base evaluation. -/
def baseOnlyConfig : EvaluationConfig where
  sourceType := "checkpoints"
  trainingOutput := some "outputs"
  runName := "run"
  resultPath := "results/run.json"
  saveRollouts := false
  ersr := none
  baseModel := none
  modelFamily := some "qwen"
  initialBaseEvaluation := false
  settings := []

/-- Base evaluations return their own number; the process is killed after a given write. -/
def killedAfter (write : Nat) : Backend Nat Nat Nat Nat where
  write := fun tick => .replaced (if tick = write then some .killed else none)
  readError := fun _ => none
  validate := fun _ => none
  makeDirectory := fun _ => none
  merge := fun _ _ => none
  removeDirectory := fun _ => .removed
  resolveModelFamily := fun _ _ => .ok "qwen"
  evaluateBase := fun tick _ _ => .ok (tick, tick)
  prepareErsr := fun _ _ _ records => .ok records
  generateErsrReplacements := fun _ _ works => .ok fun i => works.getD i 0
  evaluateErsrStudent := fun _ _ work => .ok work

/-- The entry of step 5 when only its base phase is done. -/
def baseOfStepFive : StepResult Nat Nat Nat where
  modelName := s!"global_step_{5}"
  modelPath := "global_step_5"
  modelFamily := "qwen"
  tokenizerPath := "global_step_5"
  chatTemplatePath := none
  baseCompletedAt := 6
  status := .baseCompleted
  datasets := 5
  ersr := .notEvaluated
  provenance := some ⟨false, some "global_step_5", "huggingface", "global_step_5",
    "checkpoint_huggingface", "checkpoint"⟩
  completedAt := none
  stepNum := 5

/-- The documents of a run that is killed after the base phase of step 5. -/
def crashDocuments : List (ResultDocument Nat Nat Nat) :=
  let started := newCheckpointDocument baseOnlyConfig 1
  let dropped := { started with phase := s!"global_step_{5}:base" }
  [started, dropped, { dropped with steps := [baseOfStepFive] }]

/-- The world that the killed run leaves. -/
def crashedWorld : World Nat Nat Nat Nat where
  clock := 7
  resultFile := crashDocuments.getLast?.map .document
  directories := []
  history := crashDocuments
  evaluations := [⟨.checkpoint 5, 5, 5⟩]
  removals := []

theorem crashedWorld_reached : CheckpointHistory (killedAfter 6) crashedWorld := by
  have hrun : ((Invocation.main (killedAfter 6)
      ⟨baseOnlyConfig, [checkpointDirectory "global_step_5"], false⟩).run
        (World.initial Nat Nat Nat Nat)) = .error .killed crashedWorld := rfl
  have hnext : CheckpointHistory (killedAfter 6) (finalState ((Invocation.main (killedAfter 6)
      ⟨baseOnlyConfig, [checkpointDirectory "global_step_5"], false⟩).run
        (World.initial Nat Nat Nat Nat))) := .next _ .start rfl
  rw [hrun] at hnext
  exact hnext

/-- The world of a run with two steps that is killed after the base phase of the second. -/
def secondCrashWorld : World Nat Nat Nat Nat :=
  finalState ((Invocation.main (killedAfter 11)
    ⟨baseOnlyConfig, [checkpointDirectory "global_step_5", checkpointDirectory "global_step_10"],
      false⟩).run (World.initial Nat Nat Nat Nat))

theorem secondCrashWorld_reached : CheckpointHistory (killedAfter 11) secondCrashWorld :=
  .next _ .start rfl

/-- Every document that this run persisted can be resumed, also those in which the first step is
    completed. -/
theorem checkpoint_evaluation_keeps_finished_work_crashed :
    secondCrashWorld.history.Pairwise ResultDocument.KeepsCompleted ∧
    secondCrashWorld.history.map ResultDocument.completedSteps = [[], [], [], [5], [5], [5]] ∧
    ∀ document ∈ secondCrashWorld.history, ∀ expectedSteps now,
      loadCheckpointDocument baseOnlyConfig true expectedSteps now
        (some (.document document)) = .ok (resumedDocument document now, true) := by
  obtain ⟨_, hpairwise, hresumes, _⟩ :=
    checkpoint_evaluation_keeps_finished_work secondCrashWorld_reached
  have hrunning : ∀ document ∈ secondCrashWorld.history, document.status ≠ .completed ∧
      document.checkpointRunSignature = checkpointRunSignature baseOnlyConfig := by
    decide +kernel
  refine ⟨hpairwise, by decide +kernel, fun document hdocument expectedSteps now => ?_⟩
  obtain ⟨hstatus, hsignature⟩ := hrunning document hdocument
  exact hresumes document hdocument hstatus baseOnlyConfig expectedSteps now hsignature

end R2opl
