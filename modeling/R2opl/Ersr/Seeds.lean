import R2opl.Ersr.Selection

/-!
# Seeds of the ERSR samples

A case seeds its samples by its own number, the arm and the number of the sample.  The arms
of a case are a thousand seeds apart, and the number of samples has no bound.
-/

namespace R2opl

open Checked

/-! ### The seeds that a case uses -/

inductive SeedArm where
  | baseline
  | action
  | proposal
deriving DecidableEq

/-- `arm_offset`, and the offset of the teacher's request. -/
def SeedArm.offset : SeedArm → Int
  | .baseline => 0
  | .action => 1000
  | .proposal => 5000

/-- The samples of an arm; the teacher is asked once. -/
def SeedArm.samples (settings : ErsrSettings) : SeedArm → Nat
  | .baseline => settings.mcK
  | .action => settings.mcK
  | .proposal => 1

def generationSeed (c : ErsrCase) (arm : SeedArm) (sample : Nat) : Int :=
  c.seed + arm.offset + sample

section Used

/-- Two generators that answer alike to the seeds of an arm. -/
def AnswerAlike (settings : ErsrSettings) (c : ErsrCase) (arm : SeedArm)
    (generate generate' : GenerateTokens) : Prop :=
  ∀ promptIds maxTokens, ∀ sample < arm.samples settings,
    generate promptIds maxTokens (generationSeed c arm sample) =
      generate' promptIds maxTokens (generationSeed c arm sample)

variable {detectors : Detectors} {verifier : Verifier} {tokenizer : Tokenizer}
  {settings : ErsrSettings} {student student' teacher teacher' : GenerateTokens} {c : ErsrCase}

theorem estimateValue_congr {arm : SeedArm} {responsePrefixIds : List Int}
    (harm : arm.samples settings = settings.mcK) (h : AnswerAlike settings c arm student student') :
    estimateValue verifier tokenizer settings student c responsePrefixIds arm.offset =
      estimateValue verifier tokenizer settings student' c responsePrefixIds arm.offset := by
  have hsample : ∀ sample ∈ List.range settings.mcK,
      sampleValue verifier tokenizer settings student c responsePrefixIds arm.offset sample =
        sampleValue verifier tokenizer settings student' c responsePrefixIds arm.offset sample := by
    intro sample hsample
    have hasked := fun promptIds maxTokens =>
      h promptIds maxTokens sample (harm ▸ List.mem_range.mp hsample)
    unfold generationSeed at hasked
    unfold sampleValue
    simp only [hasked]
  unfold estimateValue
  rw [mapM_congr hsample]

/-- The formula is the code's: a case asks its generators with these seeds and no others. -/
theorem evaluateErsrCase_congr (hbaseline : AnswerAlike settings c .baseline student student')
    (haction : AnswerAlike settings c .action student student')
    (hproposal : AnswerAlike settings c .proposal teacher teacher') :
    evaluateErsrCase detectors verifier tokenizer settings student (some teacher) c =
      evaluateErsrCase detectors verifier tokenizer settings student' (some teacher') c := by
  have hadvantage : ∀ actionPrefix replacement,
      estimateAdvantage verifier tokenizer settings student c actionPrefix replacement =
        estimateAdvantage verifier tokenizer settings student' c actionPrefix replacement := by
    intro actionPrefix replacement
    have hbefore : estimateValue verifier tokenizer settings student c c.before
        SeedArm.baseline.offset = estimateValue verifier tokenizer settings student' c c.before
          SeedArm.baseline.offset := estimateValue_congr rfl hbaseline
    have hafter : estimateValue verifier tokenizer settings student c actionPrefix
        SeedArm.action.offset = estimateValue verifier tokenizer settings student' c actionPrefix
          SeedArm.action.offset := estimateValue_congr rfl haction
    simp only [SeedArm.offset] at hbefore hafter
    unfold estimateAdvantage
    rw [hbefore, hafter]
  have hteacher : ∀ promptIds maxTokens, teacher promptIds maxTokens (c.seed + 5000) =
      teacher' promptIds maxTokens (c.seed + 5000) := by
    intro promptIds maxTokens
    have h := hproposal promptIds maxTokens 0 Nat.one_pos
    unfold generationSeed SeedArm.offset at h
    rwa [Nat.cast_zero, Int.add_zero] at h
  unfold evaluateErsrCase
  simp only [hadvantage, hteacher]

end Used

/-! ### Collisions -/

/-- No two samples share their seed. -/
def SeedsDistinct (settings : ErsrSettings) (cases : List ErsrCase) : Prop :=
  ∀ c ∈ cases, ∀ c' ∈ cases, ∀ (arm arm' : SeedArm) (sample sample' : Nat),
    sample < arm.samples settings → sample' < arm'.samples settings →
      generationSeed c arm sample = generationSeed c' arm' sample' →
        c = c' ∧ arm = arm' ∧ sample = sample'

section Collisions

variable {settings : ErsrSettings} {actionTypes : List ActionType} {cases : List ErsrCase}

/-- Up to a thousand samples, the offset within a case tells arm and sample. -/
theorem offset_injective (h : settings.mcK ≤ 1000) {arm arm' : SeedArm} {sample sample' : Nat}
    (hsample : sample < arm.samples settings) (hsample' : sample' < arm'.samples settings)
    (heq : arm.offset + sample = arm'.offset + sample') : arm = arm' ∧ sample = sample' := by
  cases arm <;> cases arm' <;> simp only [SeedArm.offset, SeedArm.samples] at hsample hsample' heq <;>
    first | exact ⟨rfl, by omega⟩ | omega

theorem offset_lt (h : settings.mcK ≤ 1000) {arm : SeedArm} {sample : Nat}
    (hsample : sample < arm.samples settings) :
    0 ≤ arm.offset + sample ∧ arm.offset + sample < 10000 := by
  cases arm <;> simp only [SeedArm.offset, SeedArm.samples] at hsample ⊢ <;> omega

/-- The seeds of a list of cases are distinct exactly when there is no case or at most a
    thousand samples. -/
theorem CaseList.seedsDistinct_iff (h : CaseList settings actionTypes cases) :
    SeedsDistinct settings cases ↔ cases = [] ∨ settings.mcK ≤ 1000 := by
  constructor
  · intro hdistinct
    cases hcases : cases with
    | nil => exact Or.inl rfl
    | cons c rest =>
      refine Or.inr (Nat.le_of_not_lt fun hlt => ?_)
      have hc : c ∈ cases := hcases ▸ List.mem_cons_self
      -- the first action sample has the seed of a baseline sample
      have hsame : generationSeed c .baseline 1000 = generationSeed c .action 0 := by
        unfold generationSeed SeedArm.offset
        dsimp only
        omega
      exact SeedArm.noConfusion (hdistinct c hc c hc .baseline .action 1000 0 hlt
        (Nat.lt_trans (Nat.succ_pos 999) hlt) hsame).2.1
  · rintro (rfl | hmcK)
    · exact fun c hc => absurd hc List.not_mem_nil
    · intro c hc c' hc' arm arm' sample sample' hsample hsample' heq
      unfold generationSeed at heq
      rw [h.seed c hc, h.seed c' hc'] at heq
      have hbounds := offset_lt hmcK hsample
      have hbounds' := offset_lt hmcK hsample'
      -- a case has ten thousand seeds of its own
      have hindex : c.caseIndex = c'.caseIndex := by omega
      have hoffset : arm.offset + sample = arm'.offset + sample' := by omega
      have hnodup : (cases.map ErsrCase.caseIndex).Nodup := by
        rw [h.caseIndex]
        exact List.nodup_range
      exact ⟨List.inj_on_of_nodup_map hnodup hc hc' hindex,
        offset_injective hmcK hsample hsample' hoffset⟩

end Collisions

section Built

variable {Rng : Type} {random : RandomSource Rng} {detectors : Detectors} {tokenizer : Tokenizer}
  {settings : ErsrSettings}

/-- **Seeds.**  A case asks its generators with the seeds of its samples alone, and the samples of
    the cases that are built have different seeds exactly when there is no case or at most a
    thousand samples for each arm. -/
theorem builtCases_seedsDistinct_iff {records : List ValidationRecord}
    {includeStudentAction includeTeacherReplace : Bool} {cases : List ErsrCase}
    {report : SelectionReport}
    (h : buildErsrStepCases random detectors tokenizer settings records includeStudentAction
      includeTeacherReplace = .ok (cases, report)) :
    (SeedsDistinct settings cases ↔ cases = [] ∨ settings.mcK ≤ 1000) ∧
      ∀ c ∈ cases, ∀ (verifier : Verifier) (student student' teacher teacher' : GenerateTokens),
        AnswerAlike settings c .baseline student student' →
        AnswerAlike settings c .action student student' →
        AnswerAlike settings c .proposal teacher teacher' →
        evaluateErsrCase detectors verifier tokenizer settings student (some teacher) c =
          evaluateErsrCase detectors verifier tokenizer settings student' (some teacher') c :=
  ⟨(buildErsrStepCases_caseList h).seedsDistinct_iff,
    fun _ _ _ _ _ _ _ hbaseline haction hproposal =>
      evaluateErsrCase_congr hbaseline haction hproposal⟩

theorem builtCases_seedsDistinct_iff_two_cases :
    (SeedsDistinct bothActions.settings twoCases ↔
        twoCases = [] ∨ bothActions.settings.mcK ≤ 1000) ∧
      ∀ c ∈ twoCases, ∀ (verifier : Verifier)
        (student student' teacher teacher' : GenerateTokens),
        AnswerAlike bothActions.settings c .baseline student student' →
        AnswerAlike bothActions.settings c .action student student' →
        AnswerAlike bothActions.settings c .proposal teacher teacher' →
        evaluateErsrCase cutAtTwo verifier charTokenizer bothActions.settings student
            (some teacher) c =
          evaluateErsrCase cutAtTwo verifier charTokenizer bothActions.settings student'
            (some teacher') c := by
  have hbuild : buildErsrStepCases inOrder cutAtTwo charTokenizer bothActions.settings twoRecords
      true true = .ok (twoCases, twoCasesReport) := by
    decide +kernel
  exact builtCases_seedsDistinct_iff hbuild

/-- A configuration with one sample more than the arms are apart. -/
def manySamples : RawErsrSettings where
  datasets := some ["AMC".toList]
  maxStepsPerDataset := 2
  mcK := 1001
  seed := 3
  maxTeacherStepTokens := 2
  temperature := 1
  topP := 1
  topK := 0

def manySamplesSettings : ErsrSettings := { bothActions.settings with
  mcK := 1001
  mcK_pos := Nat.succ_pos 1000 }

/-- The configuration is accepted, and a baseline sample has the seed of an action sample. -/
theorem not_seedsDistinct_many_samples :
    parseErsrSettings manySamples 4 = .ok manySamplesSettings ∧
      buildErsrStepCases inOrder cutAtTwo charTokenizer manySamplesSettings twoRecords true true =
        .ok (twoCases, twoCasesReport) ∧ ¬ SeedsDistinct manySamplesSettings twoCases := by
  have hbuild : buildErsrStepCases inOrder cutAtTwo charTokenizer manySamplesSettings twoRecords
      true true = .ok (twoCases, twoCasesReport) := by
    decide +kernel
  refine ⟨rfl, hbuild, ?_⟩
  rw [(buildErsrStepCases_caseList hbuild).seedsDistinct_iff]
  decide

end Built

end R2opl
