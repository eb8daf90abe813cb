import R2opl.Lib.Sampling
import R2opl.Lib.Separated
import R2opl.Generation.EvaluateModel
import R2opl.Splitter.RolloutSteps

/-!
# ERSR cases

`parse_ersr_settings` and `build_ersr_step_cases` (`utils/ersr.py`): the steps of the
validation rollouts that ERSR intervenes on, at most so many for each data set and action,
with the ids that the generation phases are keyed by.
-/

namespace R2opl

open Checked

inductive ActionType where
  | studentAction
  | teacherReplace
deriving DecidableEq, Repr

def ActionType.text : ActionType → PyStr
  | .studentAction => "student_action".toList
  | .teacherReplace => "teacher_replace".toList

/-! ### Settings -/

structure ErsrSettings where
  datasets : List PyStr
  maxStepsPerDataset : Nat
  mcK : Nat
  seed : Int
  maxResponseTokens : Int
  maxTeacherStepTokens : Int
  temperature : ℚ
  topP : ℚ
  topK : Int
  datasets_nodup : datasets.Nodup
  maxSteps_pos : 0 < maxStepsPerDataset
  mcK_pos : 0 < mcK

/-- The values that `parse_ersr_settings` reads, converted; `datasets` is absent when it is
    missing or a single name. -/
structure RawErsrSettings where
  datasets : Option (List PyStr)
  maxStepsPerDataset : Int
  mcK : Int
  seed : Int
  maxTeacherStepTokens : Int
  temperature : ℚ
  topP : ℚ
  topK : Int

def parseErsrSettings (config : RawErsrSettings) (maxResponseTokens : Int) :
    Except PyError ErsrSettings :=
  let datasets := (config.datasets.getD []).map strip
  if datasets = [] ∨ [] ∈ datasets then
    .error (valueError "ersr.datasets must be a non-empty list")
  else if hnodup : datasets.Nodup then
    if hsteps : config.maxStepsPerDataset ≤ 0 then
      .error (valueError "ersr.max_steps_per_dataset must be positive")
    else if hmcK : config.mcK ≤ 0 then .error (valueError "ersr.mc_k must be positive")
    else if maxResponseTokens ≤ 0 then
      .error (valueError "ERSR max_response_tokens must be positive")
    else if config.maxTeacherStepTokens ≤ 0 then
      .error (valueError "ersr.max_teacher_step_tokens must be positive")
    else if config.temperature < 0 then
      .error (valueError "ersr.temperature must be non-negative")
    else if ¬ (0 < config.topP ∧ config.topP ≤ 1) then
      .error (valueError "ersr.top_p must lie in (0, 1]")
    else .ok {
      datasets
      maxStepsPerDataset := config.maxStepsPerDataset.toNat
      mcK := config.mcK.toNat
      seed := config.seed
      maxResponseTokens
      maxTeacherStepTokens := config.maxTeacherStepTokens
      temperature := config.temperature
      topP := config.topP
      topK := config.topK
      datasets_nodup := hnodup
      maxSteps_pos := by omega
      mcK_pos := by omega }
  else .error (valueError "ersr.datasets must not contain duplicate names")

/-! ### Cases -/

/-- An eligible step of a rollout. -/
structure StepCandidate where
  dataset : PyStr
  actionType : ActionType
  recordIndex : Nat
  uid : PyStr
  answer : PyStr
  promptIds : List Int
  responseIds : List Int
  stepIndex : Nat
  stepTokenStart : Nat
  stepTokenEnd : Nat
  stepText : PyStr
deriving DecidableEq

structure ErsrCase extends StepCandidate where
  caseIndex : Nat
  caseId : PyStr
  seed : Int
deriving DecidableEq

/-- Python's `random`, seeded for each data set and action. -/
structure RandomSource (Rng : Type) where
  datasetSeed : Int → PyStr → ActionType → Nat
  seeded : Nat → Rng
  randrange : Rng → Nat → Nat × Rng
  shuffled : Rng → Nat → List Nat
  shuffled_perm : ∀ rng n, (shuffled rng n).Perm (List.range n)

structure Reservoir (Rng : Type) where
  items : List StepCandidate
  available : Nat
  rng : Option Rng

/-- The dictionaries of `build_ersr_step_cases` over its loop. -/
structure CaseSelection (Rng : Type) where
  reservoirs : PyStr × ActionType → Reservoir Rng
  trajectories : List (PyStr × Nat)
  splitFailures : List (PyStr × Nat)
  trajectoriesWithoutEligibleSteps : List (PyStr × Nat)

/-- The second value that `build_ersr_step_cases` returns. -/
structure SelectionReport where
  trajectories : List (PyStr × Nat)
  splitFailures : List (PyStr × Nat)
  trajectoriesWithoutEligibleSteps : List (PyStr × Nat)
  availableSteps : List (PyStr × List (ActionType × Nat))
  selectedSteps : List (PyStr × List (ActionType × Nat))
deriving DecidableEq

/-- `counts[key] += 1`. -/
def countUp {κ : Type} [DecidableEq κ] (counts : List (κ × Nat)) (key : κ) : List (κ × Nat) :=
  Dict.set counts key ((Dict.get? counts key).getD 0 + 1)

def StepCandidate.key (candidate : StepCandidate) : PyStr × ActionType :=
  (candidate.dataset, candidate.actionType)

def ValidationRecord.actionType (record : ValidationRecord) : ActionType :=
  if record.correct then .studentAction else .teacherReplace

section Build

variable {Rng : Type} (random : RandomSource Rng) (detectors : Detectors) (tokenizer : Tokenizer)
  (settings : ErsrSettings) (actionTypes : List ActionType)

def Reservoir.offer (reservoir : Reservoir Rng) (candidate : StepCandidate) : Reservoir Rng :=
  let available := reservoir.available + 1
  if reservoir.items.length < settings.maxStepsPerDataset then
    { reservoir with items := reservoir.items ++ [candidate], available }
  else
    let rng := reservoir.rng.getD
      (random.seeded (random.datasetSeed settings.seed candidate.dataset candidate.actionType))
    let (replacementIndex, rng) := random.randrange rng available
    { items :=
        if replacementIndex < settings.maxStepsPerDataset then
          reservoir.items.set replacementIndex candidate
        else reservoir.items
      available
      rng := some rng }

def CaseSelection.offer (selection : CaseSelection Rng) (candidate : StepCandidate) :
    CaseSelection Rng :=
  { selection with
    reservoirs := Function.update selection.reservoirs candidate.key
      ((selection.reservoirs candidate.key).offer random settings candidate) }

def stepCandidate (record : ValidationRecord) (recordIndex : Nat) (step : TokenStep) :
    StepCandidate where
  dataset := record.dataset
  actionType := record.actionType
  recordIndex
  uid := record.uid
  answer := record.answer
  promptIds := record.promptIds
  responseIds := record.responseIds
  stepIndex := step.index
  stepTokenStart := step.tokenStart
  stepTokenEnd := step.tokenEnd
  stepText := step.text

/-- The steps of a rollout before its last one, with their tokens. -/
def stepCandidates (record : ValidationRecord) (recordIndex : Nat) (steps : List TokenStep) :
    List StepCandidate :=
  (steps.dropLast.filter fun step => step.tokenStart < step.tokenEnd).map
    (stepCandidate record recordIndex)

/-- A record of one of the data sets whose action is enabled. -/
def ValidationRecord.Wanted (record : ValidationRecord) : Prop :=
  record.dataset ∈ settings.datasets ∧ record.actionType ∈ actionTypes

instance (record : ValidationRecord) : Decidable (record.Wanted settings actionTypes) :=
  inferInstanceAs (Decidable (_ ∧ _))

/-- One round of the loop over the validation records. -/
def CaseSelection.addRecord (selection : CaseSelection Rng)
    (indexed : ValidationRecord × Nat) : CaseSelection Rng :=
  let (record, recordIndex) := indexed
  if record.Wanted settings actionTypes then
    let selection := { selection with
      trajectories := countUp selection.trajectories record.dataset }
    match splitRolloutSteps detectors record.responseIds tokenizer true with
    | .error _ => { selection with
        splitFailures := countUp selection.splitFailures record.dataset }
    | .ok (_, steps) =>
        if steps.dropLast = [] then { selection with
          trajectoriesWithoutEligibleSteps :=
            countUp selection.trajectoriesWithoutEligibleSteps record.dataset }
        else (stepCandidates record recordIndex steps).foldl (·.offer random settings) selection
  else selection

/-- The selection after all records. -/
def selectCandidates (records : List ValidationRecord) : CaseSelection Rng :=
  records.zipIdx.foldl (·.addRecord random detectors tokenizer settings actionTypes)
    ⟨fun _ => ⟨[], 0, none⟩, [], [], []⟩

/-- The rows of one data set and action, shuffled. -/
def shuffledRows (selection : CaseSelection Rng) (key : PyStr × ActionType) : List StepCandidate :=
  let rows := (selection.reservoirs key).items
  let rng := random.seeded (random.datasetSeed (settings.seed + 1) key.1 key.2)
  (random.shuffled rng rows.length).filterMap (rows[·]?)

/-- The data sets and actions in the order of the cases. -/
def seriesKeys : List (PyStr × ActionType) :=
  settings.datasets.flatMap fun dataset => actionTypes.map fun actionType => (dataset, actionType)

def caseIdText (row : StepCandidate) : PyStr :=
  row.dataset ++ ':' :: row.uid ++ ':' :: natText row.recordIndex ++ ':' :: natText row.stepIndex ++
    ':' :: row.actionType.text

def makeCase (caseIndex : Nat) (row : StepCandidate) : ErsrCase where
  toStepCandidate := row
  caseIndex
  caseId := caseIdText row
  seed := settings.seed + caseIndex * 10000

/-- The counts of each data set and action. -/
def seriesCounts (counts : PyStr × ActionType → Nat) : List (PyStr × List (ActionType × Nat)) :=
  settings.datasets.map fun dataset =>
    (dataset, actionTypes.map fun actionType => (actionType, counts (dataset, actionType)))

/-- `action_types`. -/
def includedActions (includeStudentAction includeTeacherReplace : Bool) : List ActionType :=
  (if includeStudentAction then [.studentAction] else []) ++
    if includeTeacherReplace then [.teacherReplace] else []

def buildErsrStepCases (records : List ValidationRecord)
    (includeStudentAction includeTeacherReplace : Bool) :
    Except PyError (List ErsrCase × SelectionReport) := do
  raiseIf (¬ includeStudentAction ∧ ¬ includeTeacherReplace)
    (valueError "ERSR must enable at least one action type")
  let actionTypes := includedActions includeStudentAction includeTeacherReplace
  let selection := selectCandidates random detectors tokenizer settings actionTypes records
  let rows := (seriesKeys settings actionTypes).flatMap (shuffledRows random settings selection)
  return (rows.mapIdx (makeCase settings), {
    trajectories := selection.trajectories
    splitFailures := selection.splitFailures
    trajectoriesWithoutEligibleSteps := selection.trajectoriesWithoutEligibleSteps
    availableSteps := seriesCounts settings actionTypes fun key =>
      (selection.reservoirs key).available
    selectedSteps := seriesCounts settings actionTypes fun key =>
      (selection.reservoirs key).items.length })

end Build

/-! ### What the records offer -/

section Offered

variable (detectors : Detectors) (tokenizer : Tokenizer) (settings : ErsrSettings)
  (actionTypes : List ActionType)

/-- The candidates of one record. -/
def eligibleCandidates (indexed : ValidationRecord × Nat) : List StepCandidate :=
  if indexed.1.Wanted settings actionTypes then
    match splitRolloutSteps detectors indexed.1.responseIds tokenizer true with
    | .error _ => []
    | .ok (_, steps) => stepCandidates indexed.1 indexed.2 steps
  else []

/-- The candidates of all records. -/
def offeredCandidates (records : List ValidationRecord) : List StepCandidate :=
  records.zipIdx.flatMap (eligibleCandidates detectors tokenizer settings actionTypes)

/-- Where a candidate is: its record, and its step there. -/
def StepCandidate.position (candidate : StepCandidate) : Nat × Nat :=
  (candidate.recordIndex, candidate.stepIndex)

/-- A step of its rollout, of an enabled series. -/
structure StepCandidate.Valid (candidate : StepCandidate) : Prop where
  start_lt : candidate.stepTokenStart < candidate.stepTokenEnd
  end_le : candidate.stepTokenEnd ≤ candidate.responseIds.length
  dataset_mem : candidate.dataset ∈ settings.datasets
  action_mem : candidate.actionType ∈ actionTypes

variable {detectors tokenizer settings actionTypes}

theorem mem_eligibleCandidates {indexed : ValidationRecord × Nat} {candidate : StepCandidate}
    (h : candidate ∈ eligibleCandidates detectors tokenizer settings actionTypes indexed) :
    candidate.recordIndex = indexed.2 ∧ candidate.Valid settings actionTypes := by
  unfold eligibleCandidates at h
  split at h
  · rename_i hwanted
    split at h
    · exact absurd h List.not_mem_nil
    · rename_i _ steps hsteps
      obtain ⟨step, hstep, rfl⟩ := List.mem_map.mp h
      obtain ⟨hmem, hspan⟩ := List.mem_filter.mp hstep
      refine ⟨rfl, of_decide_eq_true hspan, ?_, hwanted.1, hwanted.2⟩
      exact (splitRolloutSteps_within hsteps).tokenEnd_le step (List.dropLast_subset steps hmem)
  · exact absurd h List.not_mem_nil

/-- The steps of one record are at different positions. -/
theorem eligibleCandidates_nodup (indexed : ValidationRecord × Nat) :
    ((eligibleCandidates detectors tokenizer settings actionTypes indexed).map
      StepCandidate.position).Nodup := by
  unfold eligibleCandidates
  split
  · split
    · exact List.nodup_nil
    · rename_i _ steps hsteps
      have hindices : (steps.map TokenStep.index).Nodup := by
        rw [(splitRolloutSteps_within hsteps).indices]
        exact List.nodup_range
      unfold stepCandidates
      rw [List.map_map]
      have hsublist : ((steps.dropLast.filter fun step => step.tokenStart < step.tokenEnd).map
          TokenStep.index).Sublist (steps.map TokenStep.index) :=
        (List.filter_sublist.trans (List.dropLast_sublist steps)).map _
      have hpositions := (hindices.sublist hsublist).map (Prod.mk_right_injective indexed.2)
      rw [List.map_map] at hpositions
      exact hpositions
  · exact List.nodup_nil

variable (detectors tokenizer settings actionTypes) in
theorem offeredCandidates_nodup (records : List ValidationRecord) :
    ((offeredCandidates detectors tokenizer settings actionTypes records).map
      StepCandidate.position).Nodup := by
  unfold offeredCandidates
  rw [List.map_flatMap, List.nodup_flatMap]
  refine ⟨fun indexed _ => eligibleCandidates_nodup indexed, ?_⟩
  have hindices : records.zipIdx.Pairwise fun a b => a.2 ≠ b.2 := by
    rw [← List.pairwise_map, List.zipIdx_map_snd]
    exact List.nodup_range'
  apply hindices.imp
  intro a b hne position ha hb
  obtain ⟨candidate, hcandidate, rfl⟩ := List.mem_map.mp ha
  obtain ⟨other, hother, hsame⟩ := List.mem_map.mp hb
  apply hne
  rw [← (mem_eligibleCandidates hcandidate).1, ← (mem_eligibleCandidates hother).1]
  exact (Prod.mk.inj hsame).1.symm

theorem valid_of_mem_offered {records : List ValidationRecord} {candidate : StepCandidate}
    (h : candidate ∈ offeredCandidates detectors tokenizer settings actionTypes records) :
    candidate.Valid settings actionTypes := by
  obtain ⟨indexed, _, hcandidate⟩ := List.mem_flatMap.mp h
  exact (mem_eligibleCandidates hcandidate).2

end Offered

/-! ### What is selected -/

section Selected

variable {Rng : Type} {random : RandomSource Rng} {detectors : Detectors} {tokenizer : Tokenizer}
  {settings : ErsrSettings} {actionTypes : List ActionType}

/-- Every reservoir holds candidates of its series, each at most as often as it was offered. -/
def CaseSelection.Sampled (selection : CaseSelection Rng) (offered : List StepCandidate) : Prop :=
  ∀ key, (selection.reservoirs key).items.Subperm (offered.filter fun c => c.key = key)

variable (random settings) in
theorem Reservoir.items_offer (reservoir : Reservoir Rng) (candidate : StepCandidate) :
    ∃ index, (reservoir.offer random settings candidate).items =
      Sampling.offer settings.maxStepsPerDataset index reservoir.items candidate := by
  unfold Reservoir.offer Sampling.offer
  split
  · exact ⟨0, rfl⟩
  · exact ⟨_, rfl⟩

variable {selection : CaseSelection Rng} {offered : List StepCandidate}

/-- The reservoir of one series after the candidates. -/
def Reservoir.offerAll (random : RandomSource Rng) (settings : ErsrSettings)
    (reservoir : Reservoir Rng) (candidates : List StepCandidate) : Reservoir Rng :=
  candidates.foldl (·.offer random settings) reservoir

variable (random settings) in
theorem CaseSelection.reservoirs_offer (candidate : StepCandidate) (key : PyStr × ActionType) :
    (selection.offer random settings candidate).reservoirs key =
      (selection.reservoirs key).offerAll random settings
        ([candidate].filter fun c => c.key = key) := by
  unfold CaseSelection.offer
  dsimp only
  by_cases hkey : candidate.key = key
  · subst hkey
    rw [Function.update_self, List.filter_cons_of_pos (by simp)]
    rfl
  · rw [Function.update_of_ne (Ne.symm hkey), List.filter_cons_of_neg (by simpa using hkey)]
    rfl

variable (random settings) in
/-- A series sees its own candidates only. -/
theorem CaseSelection.reservoirs_offerAll (selection : CaseSelection Rng)
    (candidates : List StepCandidate) (key : PyStr × ActionType) :
    (candidates.foldl (·.offer random settings) selection).reservoirs key =
      (selection.reservoirs key).offerAll random settings
        (candidates.filter fun c => c.key = key) := by
  induction candidates generalizing selection with
  | nil => rfl
  | cons candidate rest ih =>
    rw [List.foldl_cons, ih, selection.reservoirs_offer random settings]
    unfold Reservoir.offerAll
    rw [← List.foldl_append, ← List.filter_append, List.singleton_append]

theorem CaseSelection.reservoirs_addRecord (indexed : ValidationRecord × Nat)
    (key : PyStr × ActionType) :
    (selection.addRecord random detectors tokenizer settings actionTypes indexed).reservoirs key =
      (selection.reservoirs key).offerAll random settings
        ((eligibleCandidates detectors tokenizer settings actionTypes indexed).filter fun c =>
          c.key = key) := by
  unfold CaseSelection.addRecord eligibleCandidates
  dsimp only
  split
  · cases hsplit : splitRolloutSteps detectors indexed.1.responseIds tokenizer true with
    | error error => rfl
    | ok result =>
      obtain ⟨response, steps⟩ := result
      dsimp only
      split
      · rename_i hnone
        unfold stepCandidates
        rw [hnone]
        rfl
      · rw [CaseSelection.reservoirs_offerAll]
  · rfl

variable (random detectors tokenizer settings actionTypes) in
/-- A reservoir after all records has been offered the candidates of its series. -/
theorem selectCandidates_reservoirs (records : List ValidationRecord)
    (key : PyStr × ActionType) :
    (selectCandidates random detectors tokenizer settings actionTypes records).reservoirs key =
      Reservoir.offerAll random settings ⟨[], 0, none⟩
        ((offeredCandidates detectors tokenizer settings actionTypes records).filter fun c =>
          c.key = key) := by
  have hall : ∀ (indexed : List (ValidationRecord × Nat)) (selection : CaseSelection Rng),
      (indexed.foldl (·.addRecord random detectors tokenizer settings actionTypes)
        selection).reservoirs key =
        (selection.reservoirs key).offerAll random settings
          ((indexed.flatMap (eligibleCandidates detectors tokenizer settings actionTypes)).filter
            fun c => c.key = key) := by
    intro indexed
    induction indexed with
    | nil => exact fun selection => rfl
    | cons first rest ih =>
      intro selection
      rw [List.foldl_cons, ih, CaseSelection.reservoirs_addRecord, List.flatMap_cons,
        List.filter_append]
      unfold Reservoir.offerAll
      rw [List.foldl_append]
  exact hall records.zipIdx _

variable (random settings) in
theorem Reservoir.offerAll_subperm (reservoir : Reservoir Rng) (candidates : List StepCandidate) :
    (reservoir.offerAll random settings candidates).items.Subperm
      (reservoir.items ++ candidates) := by
  induction candidates generalizing reservoir with
  | nil =>
    rw [List.append_nil]
    exact List.Subperm.refl _
  | cons candidate rest ih =>
    obtain ⟨index, hitems⟩ := reservoir.items_offer random settings candidate
    apply (ih (reservoir.offer random settings candidate)).trans
    rw [hitems, List.append_cons]
    exact (Sampling.offer_subperm (List.Subperm.refl _)).append (List.Subperm.refl _)

variable (random detectors tokenizer settings actionTypes) in
theorem selectCandidates_sampled (records : List ValidationRecord) :
    (selectCandidates random detectors tokenizer settings actionTypes records).Sampled
      (offeredCandidates detectors tokenizer settings actionTypes records) := by
  intro key
  rw [selectCandidates_reservoirs]
  exact Reservoir.offerAll_subperm random settings _ _

theorem filterMap_getElem?_range {α : Type} (xs : List α) :
    (List.range xs.length).filterMap (xs[·]?) = xs := by
  have hmap : (List.range xs.length).map (xs[·]?) = xs.map some := by
    apply List.ext_getElem
    · simp
    · simp
  have hfilter := congrArg (List.filterMap id) hmap
  rw [List.filterMap_map, List.filterMap_map] at hfilter
  exact hfilter.trans List.filterMap_some

/-- Shuffling keeps the rows. -/
theorem shuffledRows_perm (selection : CaseSelection Rng) (key : PyStr × ActionType) :
    (shuffledRows random settings selection key).Perm (selection.reservoirs key).items := by
  have hperm := (random.shuffled_perm
    (random.seeded (random.datasetSeed (settings.seed + 1) key.1 key.2))
    (selection.reservoirs key).items.length).filterMap ((selection.reservoirs key).items[·]?)
  rw [filterMap_getElem?_range] at hperm
  exact hperm

theorem seriesKeys_nodup (hactions : actionTypes.Nodup) :
    (seriesKeys settings actionTypes).Nodup := by
  unfold seriesKeys
  rw [List.nodup_flatMap]
  refine ⟨fun dataset _ => hactions.map (Prod.mk_right_injective dataset), ?_⟩
  apply settings.datasets_nodup.imp
  intro dataset other hne key hkey hother
  obtain ⟨_, _, rfl⟩ := List.mem_map.mp hkey
  obtain ⟨_, _, hsame⟩ := List.mem_map.mp hother
  exact hne (Prod.mk.inj hsame).1.symm

variable (random settings) in
/-- The rows of all series are candidates, each at most as often as it was offered. -/
theorem rows_subperm (hactions : actionTypes.Nodup) (h : selection.Sampled offered) :
    ((seriesKeys settings actionTypes).flatMap (shuffledRows random settings selection)).Subperm
      offered := by
  have hparts : ∀ keys : List (PyStr × ActionType),
      (keys.flatMap (shuffledRows random settings selection)).Subperm
        (keys.flatMap fun key => offered.filter fun c => c.key = key) := by
    intro keys
    induction keys with
    | nil => exact List.Subperm.refl _
    | cons key rest ih =>
      rw [List.flatMap_cons, List.flatMap_cons]
      exact ((shuffledRows_perm selection key).subperm.trans (h key)).append ih
  exact (hparts _).trans
    (Sampling.flatMap_filter_subperm StepCandidate.key (seriesKeys_nodup hactions) offered)

/-- What the phases of ERSR rely on: the cases are steps of their rollouts, at different
    positions, named and seeded after these. -/
structure CaseList (settings : ErsrSettings) (actionTypes : List ActionType)
    (cases : List ErsrCase) : Prop where
  valid : ∀ c ∈ cases, c.toStepCandidate.Valid settings actionTypes
  positions : (cases.map fun c => c.toStepCandidate.position).Nodup
  caseId : ∀ c ∈ cases, c.caseId = caseIdText c.toStepCandidate
  seed : ∀ c ∈ cases, c.seed = settings.seed + c.caseIndex * 10000
  caseIndex : cases.map ErsrCase.caseIndex = List.range cases.length

theorem includedActions_nodup (includeStudentAction includeTeacherReplace : Bool) :
    (includedActions includeStudentAction includeTeacherReplace).Nodup := by
  cases includeStudentAction <;> cases includeTeacherReplace <;> decide

variable (settings) in
theorem map_toStepCandidate_makeCase (rows : List StepCandidate) :
    (rows.mapIdx (makeCase settings)).map ErsrCase.toStepCandidate = rows := by
  apply List.ext_getElem
  · simp
  · simp [makeCase]

/-- **Selection.**  The cases that are built are such a list. -/
theorem buildErsrStepCases_caseList {records : List ValidationRecord}
    {includeStudentAction includeTeacherReplace : Bool} {cases : List ErsrCase}
    {report : SelectionReport}
    (h : buildErsrStepCases random detectors tokenizer settings records includeStudentAction
      includeTeacherReplace = .ok (cases, report)) :
    CaseList settings (includedActions includeStudentAction includeTeacherReplace) cases := by
  unfold buildErsrStepCases at h
  rw [raiseIf_bind_eq_ok] at h
  obtain ⟨hcases, _⟩ := Prod.mk.inj (Except.ok.inj h.2)
  have hsubperm := rows_subperm random settings
    (includedActions_nodup includeStudentAction includeTeacherReplace)
    (selectCandidates_sampled random detectors tokenizer settings
      (includedActions includeStudentAction includeTeacherReplace) records)
  rw [← hcases]
  clear h hcases
  generalize (seriesKeys settings (includedActions includeStudentAction
    includeTeacherReplace)).flatMap _ = rows at hsubperm ⊢
  have hmade : ∀ c ∈ rows.mapIdx (makeCase settings), ∃ i row, row ∈ rows ∧
      makeCase settings i row = c := by
    intro c hc
    obtain ⟨i, hi, rfl⟩ := List.mem_mapIdx.mp hc
    exact ⟨i, rows[i], List.getElem_mem hi, rfl⟩
  constructor
  · intro c hc
    obtain ⟨i, row, hrow, rfl⟩ := hmade c hc
    exact valid_of_mem_offered (hsubperm.subset hrow)
  · have hpositions : ((rows.mapIdx (makeCase settings)).map fun c => c.toStepCandidate.position) =
        rows.map StepCandidate.position := by
      have hrows := map_toStepCandidate_makeCase settings rows
      conv_rhs => rw [← hrows, List.map_map]
      rfl
    rw [hpositions]
    obtain ⟨sampled, hperm, hsublist⟩ := hsubperm
    apply (hperm.map StepCandidate.position).nodup
    exact (offeredCandidates_nodup detectors tokenizer settings _ records).sublist
      (hsublist.map StepCandidate.position)
  · intro c hc
    obtain ⟨i, row, _, rfl⟩ := hmade c hc
    rfl
  · intro c hc
    obtain ⟨i, row, _, rfl⟩ := hmade c hc
    rfl
  · apply List.ext_getElem
    · simp
    · simp [makeCase]

end Selected

/-! ### Request ids -/

section Ids

variable {settings : ErsrSettings} {actionTypes : List ActionType} {cases : List ErsrCase}

theorem colon_not_mem_actionText (actionType : ActionType) : ':' ∉ actionType.text := by
  cases actionType <;> decide

theorem colon_not_mem_natText (n : Nat) : ':' ∉ natText n := not_mem_natText (by decide) n

/-- A case id is read from the right, whatever the names of data sets and questions hold. -/
theorem position_of_caseIdText {row row' : StepCandidate} (h : caseIdText row = caseIdText row') :
    row.position = row'.position := by
  have haction := Separated.right_inj (colon_not_mem_actionText row.actionType)
    (colon_not_mem_actionText row'.actionType) h
  have hstep := Separated.right_inj (colon_not_mem_natText row.stepIndex)
    (colon_not_mem_natText row'.stepIndex) haction.1
  have hrecord := Separated.right_inj (colon_not_mem_natText row.recordIndex)
    (colon_not_mem_natText row'.recordIndex) hstep.1
  exact Prod.ext (natText_injective hrecord.2) (natText_injective hstep.2)

/-- Different cases have different ids. -/
theorem CaseList.caseId_inj (h : CaseList settings actionTypes cases) {c c' : ErsrCase}
    (hc : c ∈ cases) (hc' : c' ∈ cases) (heq : c.caseId = c'.caseId) : c = c' := by
  apply List.inj_on_of_nodup_map h.positions hc hc'
  apply position_of_caseIdText
  rw [← h.caseId c hc, ← h.caseId c' hc', heq]

theorem CaseList.caseIds_nodup (h : CaseList settings actionTypes cases) :
    (cases.map ErsrCase.caseId).Nodup :=
  h.positions.of_map.map_on fun _ hc _ hc' heq => h.caseId_inj hc hc' heq

end Ids

end R2opl
