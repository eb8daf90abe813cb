import R2opl.Ersr.Seeds
import R2opl.Ersr.Conservation

/-!
# Budgets of the ERSR requests

A request asks for what is left of the response budget after its prefix.  The rollouts come
from prompts that leave this budget in the model's context, so every request fits it.
-/

namespace R2opl

open Checked

/-- A record whose prompt leaves room for a response, with a response of at most that
    length. -/
structure ValidationRecord.WithinLimits (maxModelLen maxNewTokens : Int)
    (record : ValidationRecord) : Prop where
  prompt : record.promptIds.length ≤ maxModelLen - maxNewTokens
  response : record.responseIds.length ≤ maxNewTokens

/-- The same for a case and the response budget. -/
structure ErsrCase.WithinLimits (maxModelLen maxResponseTokens : Int) (c : ErsrCase) : Prop where
  prompt : c.promptIds.length ≤ maxModelLen - maxResponseTokens
  response : c.responseIds.length ≤ maxResponseTokens

/-- A generator that returns no more tokens than it is asked for. -/
def Honours (generate : GenerateTokens) : Prop :=
  ∀ promptIds maxTokens seed, 1 ≤ maxTokens →
    (generate promptIds maxTokens seed).length ≤ maxTokens

/-- A request asks for a token at least, and for no more than the context holds. -/
def GenerationRequest.Fits (maxModelLen : Int) (request : GenerationRequest) : Prop :=
  1 ≤ request.maxTokens ∧ request.ids.length + request.maxTokens ≤ maxModelLen

section Cases

variable {Rng : Type} {random : RandomSource Rng} {detectors : Detectors} {tokenizer : Tokenizer}
  {settings : ErsrSettings} {actionTypes : List ActionType}

/-- A candidate has the prompt and the response of its record. -/
theorem record_of_mem_offered {records : List ValidationRecord} {candidate : StepCandidate}
    (h : candidate ∈ offeredCandidates detectors tokenizer settings actionTypes records) :
    ∃ record ∈ records, candidate.promptIds = record.promptIds ∧
      candidate.responseIds = record.responseIds := by
  obtain ⟨indexed, hindexed, hcandidate⟩ := List.mem_flatMap.mp h
  refine ⟨indexed.1, List.fst_mem_of_mem_zipIdx hindexed, ?_⟩
  unfold eligibleCandidates at hcandidate
  split at hcandidate
  · split at hcandidate
    · exact absurd hcandidate List.not_mem_nil
    · obtain ⟨step, _, rfl⟩ := List.mem_map.mp hcandidate
      exact ⟨rfl, rfl⟩
  · exact absurd hcandidate List.not_mem_nil

variable {config : ErsrEvaluation} {maxModelLen maxNewTokens : Int}

/-- The cases of a work come from its records. -/
theorem prepareErsr_withinLimits {model : ModelSpec} {records : List ValidationRecord}
    {work : ErsrWork} (h : prepareErsr random detectors config model records tokenizer = .ok work)
    (hrecords : ∀ record ∈ records, record.WithinLimits maxModelLen maxNewTokens) :
    ∀ c ∈ work.cases, c.WithinLimits maxModelLen maxNewTokens := by
  unfold prepareErsr at h
  obtain ⟨⟨cases, selection⟩, hcases, h⟩ := bind_eq_ok.mp h
  obtain ⟨teacher, _, h⟩ := bind_eq_ok.mp h
  obtain rfl := Except.ok.inj h
  intro c hc
  have hrow : c.toStepCandidate ∈ cases.map ErsrCase.toStepCandidate := List.mem_map_of_mem hc
  rw [buildErsrStepCases_eq_ok hcases] at hrow
  have hoffered := (rows_subperm random config.settings (includedActions_nodup _ _)
    (selectCandidates_sampled random detectors tokenizer config.settings _ records)).subset hrow
  obtain ⟨record, hrecord, hprompt, hresponse⟩ := record_of_mem_offered hoffered
  have hlimits := hrecords record hrecord
  exact ⟨hprompt ▸ hlimits.prompt, hresponse ▸ hlimits.response⟩

theorem works_withinLimits {inputs : List (ModelSpec × List ValidationRecord × Tokenizer)}
    {works : List ErsrWork}
    (hworks : inputs.mapM (fun input =>
      prepareErsr random detectors config input.1 input.2.1 input.2.2) = .ok works)
    (hrecords : ∀ input ∈ inputs, ∀ record ∈ input.2.1,
      record.WithinLimits maxModelLen maxNewTokens) :
    ∀ work ∈ works, ∀ c ∈ work.cases, c.WithinLimits maxModelLen maxNewTokens := by
  have hforall := (mapM_eq_ok _ _).mp hworks
  clear hworks
  induction hforall with
  | nil => exact fun _ hwork => absurd hwork List.not_mem_nil
  | cons hprepare _ ih =>
    intro work hwork
    rcases List.mem_cons.mp hwork with rfl | hrest
    · exact prepareErsr_withinLimits hprepare (hrecords _ List.mem_cons_self)
    · exact ih (fun input hinput => hrecords input (List.mem_cons_of_mem _ hinput)) work hrest

end Cases

section Requests

variable {config : ErsrEvaluation} {detectors : Detectors}
  {proposals continuations : ModelSpec → GenerateTokens}
  {onSplitError : Option (PyError → String)} {maxModelLen : Int} {c : ErsrCase}

theorem length_before_le (c : ErsrCase) : c.before.length ≤ c.responseIds.length :=
  List.length_take_le' _ _

/-- The teacher's request of a case that waits. -/
theorem teacherRequest_fits (h : c.WithinLimits maxModelLen config.settings.maxResponseTokens)
    (hwaits : c.Waits config) (workIndex : Nat) (model : ModelSpec) :
    (teacherRequest config workIndex model c).Fits maxModelLen ∧
      c.before.length + (teacherRequest config workIndex model c).maxTokens ≤
        config.settings.maxResponseTokens := by
  have hpos := hwaits.2
  have hprompt := h.prompt
  unfold GenerationRequest.Fits teacherRequest
  unfold teacherBudget at hpos ⊢
  dsimp only
  rw [List.length_append]
  omega

/-- A request of an arm asks for the rest of the response budget. -/
theorem armRequests_fit (h : c.WithinLimits maxModelLen config.settings.maxResponseTokens)
    {responsePrefix : List Int} {offset : Nat} :
    ∀ request ∈ armRequests config c responsePrefix offset, request.Fits maxModelLen ∧
      responsePrefix.length + request.maxTokens ≤ config.settings.maxResponseTokens := by
  intro request hrequest
  unfold armRequests at hrequest
  split at hrequest
  · exact absurd hrequest List.not_mem_nil
  · rename_i hroom
    obtain ⟨index, _, rfl⟩ := List.mem_map.mp hrequest
    have hprompt := h.prompt
    unfold GenerationRequest.Fits armRequest
    dsimp only
    rw [List.length_append]
    omega

/-- The first step of a proposal is no longer than the proposal. -/
theorem length_firstReplacementStepIds {tokenizer : Tokenizer} {proposal replacement : List Int}
    (h : firstReplacementStepIds detectors proposal tokenizer = .ok replacement) :
    replacement.length ≤ proposal.length := by
  unfold firstReplacementStepIds at h
  obtain ⟨⟨response, steps⟩, _, h⟩ := bind_eq_ok.mp h
  dsimp only at h
  split at h
  · obtain rfl := Except.ok.inj h
    exact Nat.zero_le _
  · obtain rfl := Except.ok.inj h
    exact List.length_take_le' _ _

/-- A replacement fits the budget of the teacher's request. -/
theorem length_replacement {work : ErsrWork} {replacement : List Int}
    (hproposals : ∀ teacher, Honours (proposals teacher))
    (h : work.teacherOutcome config detectors proposals onSplitError c =
      .ok (.replaced replacement)) :
    c.before.length + replacement.length ≤ config.settings.maxResponseTokens := by
  unfold ErsrWork.teacherOutcome at h
  obtain ⟨teacher, _, h⟩ := bind_eq_ok.mp h
  cases teacher with
  | none => cases h
  | some teacher =>
    dsimp only at h
    unfold ErsrWork.outcomeOf at h
    split at h
    · cases h
    · rename_i hbudget
      have hlength := hproposals teacher (c.promptIds ++ c.before) (teacherBudget config.settings c)
        (c.seed + 5000) (by omega)
      unfold proposalOutcome at h
      split at h
      · split at h
        · cases h
        · cases h
      · rename_i steps hsteps
        split at h
        · cases h
        · obtain rfl := TeacherOutcome.replaced.inj (Except.ok.inj h)
          have hshort := length_firstReplacementStepIds hsteps
          have hroom : teacherBudget config.settings c ≤
              config.settings.maxResponseTokens - c.before.length := min_le_right _ _
          omega

/-- Both arms of a case start within the response budget. -/
theorem actionPrefix_length {work : ErsrWork} {action : List Int × Option (List Int)}
    (h : c.WithinLimits maxModelLen config.settings.maxResponseTokens)
    (hproposals : ∀ teacher, Honours (proposals teacher))
    (haction : actionPrefix (work.teacherOutcome config detectors proposals onSplitError) c =
      some action) :
    action.1.length ≤ config.settings.maxResponseTokens := by
  have hresponse := h.response
  unfold actionPrefix at haction
  split at haction
  · obtain rfl := Option.some.inj haction
    have htake := List.length_take_le' c.stepTokenEnd c.responseIds
    dsimp only
    omega
  · split at haction
    · rename_i replacement houtcome
      obtain rfl := Option.some.inj haction
      have hlength := length_replacement hproposals houtcome
      dsimp only
      rw [List.length_append]
      omega
    · cases haction

/-- An arm within the budgets: its requests, and its prefix with their answers. -/
structure Arm.WithinBudget (maxModelLen maxNewTokens : Int) (generate : GenerateTokens)
    (arm : Arm) : Prop where
  fits : ∀ request ∈ arm.requests, request.Fits maxModelLen
  responsePrefix : arm.responsePrefix.length ≤ maxNewTokens
  continuation : ∀ request ∈ arm.requests,
    arm.responsePrefix.length + (answerWith generate request).length ≤ maxNewTokens

theorem arm_withinBudget (h : c.WithinLimits maxModelLen config.settings.maxResponseTokens)
    {generate : GenerateTokens} (hgenerate : Honours generate) {responsePrefix : List Int}
    (hpre : responsePrefix.length ≤ config.settings.maxResponseTokens) (offset : Nat) :
    Arm.WithinBudget maxModelLen config.settings.maxResponseTokens generate
      ⟨responsePrefix, armRequests config c responsePrefix offset⟩ where
  fits := fun request hrequest => (armRequests_fit h request hrequest).1
  responsePrefix := hpre
  continuation := by
    intro request hrequest
    obtain ⟨⟨hpos, _⟩, hroom⟩ := armRequests_fit h request hrequest
    have hlength := hgenerate request.ids request.maxTokens request.seed hpos
    unfold answerWith
    dsimp only
    omega

end Requests

/-- **Budgets.**  Every request of a run fits the context and asks for a token at least, and no
    prefix with what is generated after it exceeds the response budget. -/
theorem ersr_requests_fit {Rng : Type} (random : RandomSource Rng) (detectors : Detectors)
    (proposals continuations : ModelSpec → GenerateTokens)
    (onSplitError : Option (PyError → String)) (config : ErsrEvaluation)
    (maxModelLen maxNewTokens : Int)
    (inputs : List (ModelSpec × List ValidationRecord × Tokenizer)) (works : List ErsrWork)
    (hworks : inputs.mapM (fun input =>
      prepareErsr random detectors config input.1 input.2.1 input.2.2) = .ok works)
    (hrecords : ∀ input ∈ inputs, ∀ record ∈ input.2.1,
      record.WithinLimits maxModelLen maxNewTokens)
    (hbudget : config.settings.maxResponseTokens = maxNewTokens)
    (hproposals : ∀ teacher, Honours (proposals teacher))
    (hcontinuations : ∀ model, Honours (continuations model)) :
    (∀ planned groups, planTeachers config works = .ok (planned, groups) →
      ∀ item ∈ Dict.entries groups, item.2.request.Fits maxModelLen ∧
        item.2.case.before.length + (answerWith (proposals item.1) item.2.request).length ≤
          maxNewTokens) ∧
    ∀ finished,
      generateErsrReplacementsWith config detectors proposals onSplitError works = .ok finished →
        ∀ final ∈ finished, ∀ item ∈ final.caseArms config,
          item.2.baseline.WithinBudget maxModelLen maxNewTokens (continuations final.model) ∧
            item.2.action.WithinBudget maxModelLen maxNewTokens (continuations final.model) := by
  subst hbudget
  have hprepared := prepared_of_mapM hworks
  have hlimits := works_withinLimits hworks hrecords
  constructor
  · intro planned groups hplan item hitem
    obtain ⟨_, hgroups⟩ := planTeachers_decided .silent (fun _ _ _ _ => []) none hprepared hplan
    obtain ⟨⟨work, workIndex⟩, hwork, hrow⟩ :=
      List.mem_flatMap.mp (hgroups.perm.mem_iff.mp hitem)
    obtain ⟨_, c, hc, hwaits, hrequest⟩ := mem_plannedRows hrow
    have hfits := teacherRequest_fits
      (hlimits work (List.fst_mem_of_mem_zipIdx hwork) c hc) hwaits workIndex work.model
    rw [hrequest]
    unfold teacherRow answerWith
    dsimp only
    refine ⟨hfits.1, ?_⟩
    have hroom := hfits.2
    have hlength := hproposals item.1 (teacherRequest config workIndex work.model c).ids
      (teacherRequest config workIndex work.model c).maxTokens
      (teacherRequest config workIndex work.model c).seed hfits.1.1
    omega
  · intro finished hfinished final hfinal item hitem
    obtain ⟨i, hi⟩ := List.getElem?_of_mem hfinal
    have hlength := (generateErsrReplacementsWith_decided hprepared hfinished).1.length
    have hlt : i < works.length := by
      rw [← hlength]
      exact (List.getElem?_eq_some_iff.mp hi).1
    have hanswered := answered_of_generate hprepared hfinished (List.getElem?_eq_getElem hlt) hi
    obtain ⟨c, hc, _, harms⟩ := mem_caseArms.mp hitem
    rw [hanswered.armsOf_eq hc] at harms
    obtain ⟨action, haction, harms⟩ := Option.map_eq_some_iff.mp harms
    have hcase := hlimits _ (List.getElem_mem hlt) c (hanswered.decided.cases ▸ hc)
    have hbefore := length_before_le c
    have hresponse := hcase.response
    rw [← harms]
    exact ⟨arm_withinBudget hcase (hcontinuations _) (by omega) 0,
      arm_withinBudget hcase (hcontinuations _) (actionPrefix_length hcase hproposals haction)
        1000⟩

/-- A teacher that cuts its proposal to what it is asked for. -/
def cutProposal : GenerateTokens := fun _ maxTokens _ => [99, 100].take maxTokens.toNat

theorem honours_cutProposal : Honours cutProposal := by
  intro promptIds maxTokens seed hpos
  have hlength := List.length_take_le maxTokens.toNat [(99 : Int), 100]
  unfold cutProposal
  omega

theorem honours_sevenAfterTwo : Honours sevenAfterTwo := by
  intro promptIds maxTokens seed hpos
  unfold sevenAfterTwo
  split
  · exact le_trans (Int.ofNat_zero ▸ Int.zero_le_ofNat 1) hpos
  · exact hpos

/-- Prompts of one token and responses of three, in a context of five. -/
theorem ersr_requests_fit_two_works : ∃ works,
    twoInputs.mapM (fun input =>
      prepareErsr inOrder cutAtTwo bothActions input.1 input.2.1 input.2.2) = .ok works ∧
    (∀ planned groups, planTeachers bothActions works = .ok (planned, groups) →
      ∀ item ∈ Dict.entries groups, item.2.request.Fits 5 ∧
        item.2.case.before.length + (answerWith cutProposal item.2.request).length ≤ (4 : Int)) ∧
    ∀ finished,
      generateErsrReplacementsWith bothActions cutAtTwo (fun _ => cutProposal) none works =
          .ok finished →
        ∀ final ∈ finished, ∀ item ∈ final.caseArms bothActions,
          item.2.baseline.WithinBudget 5 4 sevenAfterTwo ∧
            item.2.action.WithinBudget 5 4 sevenAfterTwo := by
  obtain ⟨works, hworks⟩ : Returns (twoInputs.mapM fun input =>
      prepareErsr inOrder cutAtTwo bothActions input.1 input.2.1 input.2.2) := by
    decide +kernel
  have hrecords : ∀ record ∈ twoRecords, record.WithinLimits 5 4 := by
    intro record hrecord
    rcases List.mem_pair.mp hrecord with rfl | rfl
    · exact ⟨by decide, by decide⟩
    · exact ⟨by decide, by decide⟩
  refine ⟨works, hworks, ersr_requests_fit inOrder cutAtTwo (fun _ => cutProposal)
    (fun _ => sevenAfterTwo) none bothActions 5 4 twoInputs works hworks ?_ rfl
    (fun _ => honours_cutProposal) fun _ => honours_sevenAfterTwo⟩
  intro input hinput record hrecord
  rcases List.mem_pair.mp hinput with rfl | rfl
  · exact hrecords record hrecord
  · exact hrecords record (List.mem_of_mem_take hrecord)

end R2opl
