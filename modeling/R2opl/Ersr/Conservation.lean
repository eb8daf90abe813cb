import R2opl.Ersr.Equivalence

/-!
# Conservation of ERSR cases

Over the phases of `utils/ersr_evaluation.py` every selected case has one result in the
document of its own work, so that in every series of the metrics the selected steps are the
valid and the skipped ones.
-/

namespace R2opl

open Checked

/-! ### Counting results -/

section Counts

variable {κ : Type} [DecidableEq κ]

theorem get?_foldl_countUp (xs : List κ) (counts : List (κ × Nat)) (key : κ) :
    Dict.get? (xs.foldl countUp counts) key =
      if key ∈ xs then some ((Dict.get? counts key).getD 0 + xs.countP (· = key))
      else Dict.get? counts key := by
  induction xs generalizing counts with
  | nil => rfl
  | cons x xs ih =>
    rw [List.foldl_cons, ih]
    unfold countUp
    rw [Dict.get?_set]
    by_cases hx : x = key
    · subst hx
      rw [if_pos rfl, if_pos List.mem_cons_self, List.countP_cons_of_pos (by simp)]
      split
      · rw [Option.getD_some, Nat.add_right_comm, Nat.add_assoc]
      · rename_i hnot
        have hnone : xs.countP (· = x) = 0 := by
          rw [List.countP_eq_zero]
          intro y hy heq
          exact hnot (of_decide_eq_true heq ▸ hy)
        rw [hnone]
    · have hmem : key ∈ x :: xs ↔ key ∈ xs := by
        rw [List.mem_cons]
        exact or_iff_right (Ne.symm hx)
      rw [if_neg hx, List.countP_cons_of_neg (by simpa using hx)]
      by_cases hkey : key ∈ xs
      · rw [if_pos hkey, if_pos (hmem.mpr hkey)]
      · rw [if_neg hkey, if_neg (hmem.not.mpr hkey)]

/-- The count of a key, or nothing when it does not occur. -/
theorem get?_countUp (xs : List κ) (key : κ) :
    Dict.get? (xs.foldl countUp []) key =
      if key ∈ xs then some (xs.countP (· = key)) else none := by
  rw [get?_foldl_countUp]
  split
  · exact congrArg some (Nat.zero_add _)
  · rfl

theorem getD_countUp (xs : List κ) (key : κ) :
    (Dict.get? (xs.foldl countUp []) key).getD 0 = xs.countP (· = key) := by
  rw [get?_countUp]
  split
  · rfl
  · rename_i hnot
    symm
    rw [Option.getD_none, List.countP_eq_zero]
    intro y hy heq
    exact hnot (of_decide_eq_true heq ▸ hy)

end Counts

section Series

variable (results : List ErsrResult) (key : PyStr × ActionType)

/-- Every result of a series is valid or skipped. -/
theorem count_series : (results.map ErsrResult.series).countP (· = key) =
    (seriesValues results key).length + (Dict.get? (skippedCounts results) key).getD 0 := by
  unfold skippedCounts
  rw [getD_countUp]
  unfold seriesValues
  induction results with
  | nil => rfl
  | cons result results ih =>
    rw [List.map_cons, List.filter_cons, List.filter_cons]
    by_cases hkey : result.series = key
    · rw [if_pos (by simpa using hkey), List.countP_cons_of_pos (by simpa using hkey), ih,
        List.filterMap_cons]
      cases hadvantage : result.advantage? with
      | none =>
        rw [if_pos (by rfl), List.map_cons, List.countP_cons_of_pos (by simpa using hkey)]
        rfl
      | some advantage =>
        rw [if_neg (by exact Bool.false_ne_true), List.length_cons, Nat.add_right_comm]
    · rw [if_neg (by simpa using hkey), List.countP_cons_of_neg (by simpa using hkey), ih]
      split
      · rw [List.map_cons, List.countP_cons_of_neg (by simpa using hkey)]
      · rfl

/-- With one result for each case, a series selects what is valid and what is skipped. -/
theorem summarizeSeries_selected {cases : List ErsrCase}
    (hperm : (results.map ErsrResult.series).Perm (cases.map ErsrCase.series)) :
    let summary := summarizeSeries results cases key
    summary.selectedSteps = summary.validSteps + summary.skippedSteps := by
  unfold summarizeSeries selectedCounts
  dsimp only
  rw [get?_countUp, ← hperm.countP_eq, count_series]
  split
  · rfl
  · rfl

end Series

/-! ### Series and cases -/

section Metrics

variable {results : List ErsrResult} {cases : List ErsrCase} {datasets : List PyStr}
  {actionTypes : List ActionType}

/-- Both actions are reported under names of their own. -/
theorem ActionType.metricName_injective : Function.Injective ActionType.metricName := by
  intro actionType other h
  revert h
  cases actionType <;> cases other <;> decide

variable (results cases) in
/-- Every configured action is reported. -/
theorem get?_summarizeErsrMetrics {actionType : ActionType} (h : actionType ∈ actionTypes) :
    Dict.get? (summarizeErsrMetrics results cases datasets actionTypes) actionType.metricName =
      some (summarizeAction results cases datasets actionType) :=
  Dict.get?_ofPairs_map_inj ActionType.metricName_injective _ h

variable (results cases) in
/-- Every configured data set is reported under each action. -/
theorem get?_summarizeAction {dataset : PyStr} (actionType : ActionType)
    (h : dataset ∈ datasets) :
    Dict.get? (summarizeAction results cases datasets actionType).datasets dataset =
      some (summarizeSeries results cases (dataset, actionType)) :=
  Dict.get?_ofPairs_map_inj Function.injective_id _ h

/-- With one result for each case, a series selects its cases. -/
theorem summarizeSeries_count (key : PyStr × ActionType)
    (hperm : (results.map ErsrResult.series).Perm (cases.map ErsrCase.series)) :
    (summarizeSeries results cases key).selectedSteps =
      (cases.map ErsrCase.series).countP (· = key) := by
  unfold summarizeSeries selectedCounts
  dsimp only
  rw [get?_countUp]
  split
  · rfl
  · -- without a case the default counts the results, of which there are none
    rw [Option.getD_none, ← count_series, hperm.countP_eq]

/-- The cases of an action are those of its series over all data sets. -/
theorem sum_countP_series (hdatasets : datasets.Nodup) (actionType : ActionType)
    (hmem : ∀ c ∈ cases, c.dataset ∈ datasets) :
    (datasets.map fun dataset =>
      (cases.map ErsrCase.series).countP (· = (dataset, actionType))).sum =
      cases.countP (·.actionType = actionType) := by
  let names : Multiset PyStr :=
    ((cases.filter (·.actionType = actionType)).map fun c => c.dataset : List PyStr)
  have hcount : ∀ dataset, (cases.map ErsrCase.series).countP (· = (dataset, actionType)) =
      names.count dataset := by
    intro dataset
    rw [List.countP_map, Multiset.count, Multiset.coe_countP, List.countP_map, List.countP_filter]
    apply List.countP_congr
    intro c _
    simp only [ErsrCase.series, StepCandidate.key, Function.comp_apply, Prod.mk.injEq,
      decide_eq_true_eq, Bool.and_eq_true]
    exact and_congr_left' eq_comm
  have hall : ∀ dataset ∈ names, dataset ∈ datasets.toFinset := by
    intro dataset hdataset
    obtain ⟨c, hc, rfl⟩ := List.mem_map.mp (Multiset.mem_coe.mp hdataset)
    exact List.mem_toFinset.mpr (hmem c (List.mem_of_mem_filter hc))
  rw [List.map_congr_left fun dataset _ => hcount dataset, ← List.sum_toFinset _ hdatasets,
    Multiset.sum_count_eq_card hall, Multiset.coe_card, List.length_map,
    List.countP_eq_length_filter]

end Metrics

/-- Every series of the metrics is a summary of its results. -/
theorem exists_of_mem_metrics {results : List ErsrResult} {cases : List ErsrCase}
    {datasets : List PyStr} {actionTypes : List ActionType} {item : String × ActionSummary}
    {series : PyStr × SeriesSummary}
    (hitem : item ∈ summarizeErsrMetrics results cases datasets actionTypes)
    (hseries : series ∈ item.2.datasets) :
    ∃ key, series.2 = summarizeSeries results cases key := by
  obtain ⟨actionType, _, rfl⟩ := List.mem_map.mp (Dict.mem_of_mem_ofPairs hitem)
  obtain ⟨dataset, _, rfl⟩ := List.mem_map.mp (Dict.mem_of_mem_ofPairs hseries)
  exact ⟨_, rfl⟩

/-! ### The phases of a run -/

section Run

variable {config : ErsrEvaluation} {detectors : Detectors} {verifier : Verifier}
  {proposals continuations : ModelSpec → GenerateTokens} {reprError : PyError → String}
  {work final : ErsrWork}

/-- When splitter errors are recorded, every case that asks for a teacher is decided. -/
theorem returns_teacherOutcome (h : work.Prepared config) {c : ErsrCase} (hc : c ∈ work.cases)
    (haction : c.actionType = .teacherReplace) :
    Returns (work.teacherOutcome config detectors proposals (some reprError) c) := by
  obtain ⟨found, hfound⟩ := h.teacher
  cases found with
  | none => exact absurd haction (h.no_teacher hfound hc)
  | some teacher =>
    unfold ErsrWork.teacherOutcome ErsrWork.outcomeOf proposalOutcome
    rw [hfound, ok_bind]
    dsimp only
    split
    · exact .ok _
    · split
      · exact .ok _
      · split
        · exact .ok _
        · exact .ok _

/-- What is conserved from the cases of a work to its final document. -/
structure Conserved (config : ErsrEvaluation)
    (result : ErsrCase → Except PyError ErsrResult) (cases : List ErsrCase)
    (document : ErsrMetricsDocument) : Prop where
  results : ∃ results, cases.mapM result = .ok results ∧ document.results.Perm results
  names : (document.results.map fun result => (result.caseId, result.series)).Perm
    (cases.map fun c => (c.caseId, c.series))
  caseIds : (cases.map ErsrCase.caseId).Nodup
  counts : ∀ item ∈ document.metrics, ∀ series ∈ item.2.datasets,
    series.2.selectedSteps = series.2.validSteps + series.2.skippedSteps
  actions : ∀ actionType ∈ config.actions, ∃ action,
    Dict.get? document.metrics actionType.metricName = some action ∧
      action.selectedSteps = action.validSteps + action.skippedSteps ∧
      action.selectedSteps = cases.countP (·.actionType = actionType) ∧
      ∀ dataset ∈ config.settings.datasets, ∃ series,
        Dict.get? action.datasets dataset = some series ∧
          series.selectedSteps = (cases.map ErsrCase.series).countP (· = (dataset, actionType))

/-- The report of an action counts its cases, in every data set and over all of them. -/
theorem summarizeErsrMetrics_counts {results : List ErsrResult} {cases : List ErsrCase}
    {actionType : ActionType} (haction : actionType ∈ config.actions)
    (hperm : (results.map ErsrResult.series).Perm (cases.map ErsrCase.series))
    (hcases : ∀ c ∈ cases, c.dataset ∈ config.settings.datasets) : ∃ action,
    Dict.get? (summarizeErsrMetrics results cases config.settings.datasets config.actions)
        actionType.metricName = some action ∧
      action.selectedSteps = action.validSteps + action.skippedSteps ∧
      action.selectedSteps = cases.countP (·.actionType = actionType) ∧
      ∀ dataset ∈ config.settings.datasets, ∃ series,
        Dict.get? action.datasets dataset = some series ∧
          series.selectedSteps =
            (cases.map ErsrCase.series).countP (· = (dataset, actionType)) := by
  refine ⟨_, get?_summarizeErsrMetrics results cases haction, ?_, ?_, ?_⟩
  · unfold summarizeAction
    dsimp only
    rw [List.map_map, List.map_map, List.map_map, ← List.sum_map_add]
    congr 1
    apply List.map_congr_left
    intro dataset _
    exact summarizeSeries_selected results (dataset, actionType) hperm
  · unfold summarizeAction
    dsimp only
    rw [List.map_map, ← sum_countP_series config.settings.datasets_nodup actionType hcases]
    congr 1
    apply List.map_congr_left
    intro dataset _
    exact summarizeSeries_count (dataset, actionType) hperm
  · intro dataset hdataset
    exact ⟨_, get?_summarizeAction results cases actionType hdataset,
      summarizeSeries_count (dataset, actionType) hperm⟩

/-- The document of a work conserves its cases. -/
theorem Answered.conserved {outcome : ErsrCase → Except PyError TeacherOutcome}
    (h : Answered config outcome work final) {document : ErsrMetricsDocument}
    (hdocument : config.evaluateErsrStudent verifier continuations final = .ok document) :
    Conserved config
      (caseResult config verifier (continuations work.model) outcome work.tokenizer) work.cases
      document := by
  unfold ErsrEvaluation.evaluateErsrStudent at hdocument
  obtain ⟨base, hbase, hdocument⟩ := bind_eq_ok.mp hdocument
  obtain rfl := Except.ok.inj hdocument
  obtain ⟨results, hresults, hperm⟩ := h.results_perm (evaluateErsrStudent_eq_ok hbase)
  rw [h.decided.model, h.decided.tokenizer, h.decided.cases] at hresults
  have hnames : (base.results.map fun result => (result.caseId, result.series)).Perm
      (work.cases.map fun c => (c.caseId, c.series)) := by
    rw [← map_caseId_results hresults]
    exact hperm.map _
  have hseries := hnames.map Prod.snd
  rw [List.map_map, List.map_map] at hseries
  have hdatasets : ∀ c ∈ work.cases, c.dataset ∈ config.settings.datasets := by
    obtain ⟨_, hcases, _⟩ := h.prepared.actionTypes
    exact fun c hc => (hcases.valid c hc).dataset_mem
  refine ⟨⟨results, hresults, hperm⟩, hnames, h.decided.cases ▸ h.caseIds_nodup, ?_, ?_⟩
  · intro item hitem series hmem
    obtain ⟨key, heq⟩ := exists_of_mem_metrics hitem hmem
    rw [heq]
    apply summarizeSeries_selected
    rw [h.decided.cases]
    exact hseries
  · intro actionType haction
    dsimp only
    rw [h.decided.cases]
    exact summarizeErsrMetrics_counts haction hseries hdatasets

/-- A verifier that decides every answer grades every continuation. -/
theorem returns_rewardForContinuation (tokenizer : Tokenizer)
    (responsePrefixIds continuationIds : List Int) (answer dataset : PyStr)
    (hverifier : ∀ response answer dataset,
      Returns (verifier.verifyDatasetResponseAnswer response answer dataset)) :
    Returns (rewardForContinuation (verifier.forDataset dataset) tokenizer responsePrefixIds
      continuationIds answer none) := by
  obtain ⟨correct, hcorrect⟩ :=
    hverifier (tokenizer.decode (responsePrefixIds ++ continuationIds) true) answer dataset
  unfold rewardForContinuation Verifier.forDataset
  dsimp only
  rw [hcorrect]
  exact ⟨_, rfl⟩

/-- Then both arms of a case have values. -/
theorem returns_armsResult {student : GenerateTokens} (tokenizer : Tokenizer) (c : ErsrCase)
    (action : List Int × Option (List Int))
    (hverifier : ∀ response answer dataset,
      Returns (verifier.verifyDatasetResponseAnswer response answer dataset)) :
    Returns (armsResult config verifier student tokenizer c action) := by
  have hvalue : ∀ responsePrefix armOffset, Returns (estimateValue (verifier.forDataset c.dataset)
      tokenizer config.settings student c responsePrefix armOffset) := by
    intro responsePrefix armOffset
    obtain ⟨samples, hsamples⟩ : Returns ((List.range config.settings.mcK).mapM
        (sampleValue (verifier.forDataset c.dataset) tokenizer config.settings student c
          responsePrefix armOffset)) := by
      apply returns_mapM
      intro sampleIndex _
      obtain ⟨reward, hreward⟩ := returns_rewardForContinuation tokenizer responsePrefix
        (if config.settings.maxResponseTokens - responsePrefix.length ≤ 0 then []
          else student (c.promptIds ++ responsePrefix)
            (config.settings.maxResponseTokens - responsePrefix.length)
            (c.seed + armOffset + sampleIndex)) c.answer c.dataset hverifier
      unfold sampleValue
      dsimp only
      rw [hreward]
      exact ⟨_, rfl⟩
    unfold estimateValue
    rw [hsamples]
    exact ⟨_, rfl⟩
  obtain ⟨baseline, hbaseline⟩ := hvalue c.before 0
  obtain ⟨value, hvalue⟩ := hvalue action.1 1000
  unfold armsResult estimateAdvantage
  rw [hbaseline, ok_bind, hvalue]
  exact ⟨_, rfl⟩

/-- With such a verifier the document of a work is returned. -/
theorem Answered.returns_document {outcome : ErsrCase → Except PyError TeacherOutcome}
    (h : Answered config outcome work final)
    (hverifier : ∀ response answer dataset,
      Returns (verifier.verifyDatasetResponseAnswer response answer dataset)) :
    Returns (config.evaluateErsrStudent verifier continuations final) := by
  have hresults : Returns (studentResults config verifier (continuations final.model) final) := by
    apply h.returns_studentResults
    intro c hc
    rcases evaluated_or_skipped config verifier (continuations final.model) final.tokenizer
      (h.returns c hc) with ⟨action, _, _, heq⟩ | ⟨result, _, _, heq⟩
    · rw [heq]
      exact returns_armsResult _ c action hverifier
    · exact ⟨result, heq⟩
  obtain ⟨document, hdocument⟩ := returns_evaluateErsrStudent hresults
  unfold ErsrEvaluation.evaluateErsrStudent
  rw [hdocument]
  exact ⟨_, rfl⟩

/-- A work that `prepare_ersr` returns for its own model, records and tokenizer. -/
theorem prepared_of_mapM {Rng : Type} {random : RandomSource Rng}
    {inputs : List (ModelSpec × List ValidationRecord × Tokenizer)} {works : List ErsrWork}
    (hworks : inputs.mapM (fun input =>
      prepareErsr random detectors config input.1 input.2.1 input.2.2) = .ok works) :
    ∀ work ∈ works, work.Prepared config := by
  have hforall := (mapM_eq_ok _ _).mp hworks
  clear hworks
  induction hforall with
  | nil => exact fun _ hwork => absurd hwork List.not_mem_nil
  | cons hprepare _ ih =>
    intro work hwork
    rcases List.mem_cons.mp hwork with rfl | hrest
    · exact (prepareErsr_prepared hprepare).1
    · exact ih work hrest

/-- The requests of the teacher phase, over all works and teachers. -/
theorem teacherRequestIds_nodup {works planned : List ErsrWork} {groups : TeacherGroups}
    (hworks : ∀ work ∈ works, work.Prepared config)
    (hplan : planTeachers config works = .ok (planned, groups)) :
    ((Dict.entries groups).map fun item => item.2.request.requestId).Nodup := by
  obtain ⟨_, hgroups⟩ := planTeachers_decided .silent (fun _ _ _ _ => []) none hworks hplan
  exact (hgroups.perm.map fun item => item.2.request.requestId).nodup_iff.mpr
    (plannedRequestIds_nodup hworks)

end Run

/-- **ERSR cases are conserved.**  The teacher phase returns every work, the requests of a phase
    have different ids, and the document of a work, which is returned when the verifier decides
    every answer, holds one result for each of its own cases, which every series of the metrics
    counts as valid or skipped. -/
theorem ersr_cases_conserved {Rng : Type} (random : RandomSource Rng) (detectors : Detectors)
    (verifier : Verifier) (proposals continuations : ModelSpec → GenerateTokens)
    (reprError : PyError → String) (config : ErsrEvaluation)
    (inputs : List (ModelSpec × List ValidationRecord × Tokenizer)) (works : List ErsrWork)
    (hworks : inputs.mapM (fun input =>
      prepareErsr random detectors config input.1 input.2.1 input.2.2) = .ok works) :
    (∀ planned groups, planTeachers config works = .ok (planned, groups) →
      ((Dict.entries groups).map fun item => item.2.request.requestId).Nodup) ∧
    ∃ finished, config.generateErsrReplacements detectors proposals reprError works =
        .ok finished ∧
      finished.length = works.length ∧
      ∀ (i : Nat) (work final : ErsrWork), works[i]? = some work → finished[i]? = some final →
        final.cases = work.cases ∧
        ((final.studentRequests config).map GenerationRequest.requestId).Nodup ∧
        ((∀ response answer dataset,
            Returns (verifier.verifyDatasetResponseAnswer response answer dataset)) →
          Returns (config.evaluateErsrStudent verifier continuations final)) ∧
        ∀ document, config.evaluateErsrStudent verifier continuations final = .ok document →
          Conserved config
            (caseResult config verifier (continuations work.model)
              (work.teacherOutcome config detectors proposals (some reprError)) work.tokenizer)
            work.cases document := by
  have hprepared := prepared_of_mapM hworks
  refine ⟨fun _ _ hplan => teacherRequestIds_nodup hprepared hplan, ?_⟩
  have hreturns : Returns
      (generateErsrReplacementsWith config detectors proposals (some reprError) works) := by
    apply returns_generateErsrReplacementsWith hprepared
    intro work hwork c hc haction
    exact returns_teacherOutcome (hprepared work hwork) hc haction
  obtain ⟨finished, hfinished⟩ := hreturns
  refine ⟨finished, hfinished, ?_, ?_⟩
  · exact (generateErsrReplacementsWith_decided hprepared hfinished).1.length
  · intro i work final hwork hfinal
    have hanswered := answered_of_generate hprepared hfinished hwork hfinal
    refine ⟨hanswered.decided.cases, studentRequestIds_nodup hanswered.caseIds_nodup,
      hanswered.returns_document, ?_⟩
    intro document hdocument
    exact hanswered.conserved hdocument

/-- Two checkpoints of the same records, one of which has no incorrect rollout. -/
def twoInputs : List (ModelSpec × List ValidationRecord × Tokenizer) :=
  [(studentModel, twoRecords, charTokenizer),
    (⟨"later", "models/two", "qwen", none, none⟩, twoRecords.take 1, charTokenizer)]

theorem suffixVerifier_returns (response answer dataset : PyStr) :
    Returns (suffixVerifier.verifyDatasetResponseAnswer response answer dataset) := by
  unfold Verifier.verifyDatasetResponseAnswer
  split
  · exact ⟨_, rfl⟩
  · exact ⟨_, rfl⟩

theorem ersr_cases_conserved_two_works : ∃ works,
    twoInputs.mapM (fun input =>
      prepareErsr inOrder cutAtTwo bothActions input.1 input.2.1 input.2.2) = .ok works ∧
    (∀ planned groups, planTeachers bothActions works = .ok (planned, groups) →
      ((Dict.entries groups).map fun item => item.2.request.requestId).Nodup) ∧
    ∃ finished, bothActions.generateErsrReplacements cutAtTwo (fun _ _ _ _ => [99, 100])
        PyError.message works = .ok finished ∧
      finished.length = works.length ∧
      ∀ (i : Nat) (work final : ErsrWork), works[i]? = some work → finished[i]? = some final →
        final.cases = work.cases ∧
        ((final.studentRequests bothActions).map GenerationRequest.requestId).Nodup ∧
        Returns (bothActions.evaluateErsrStudent suffixVerifier (fun _ => sevenAfterTwo) final) ∧
        ∀ document, bothActions.evaluateErsrStudent suffixVerifier (fun _ => sevenAfterTwo) final =
            .ok document →
          Conserved bothActions
            (caseResult bothActions suffixVerifier sevenAfterTwo
              (work.teacherOutcome bothActions cutAtTwo (fun _ _ _ _ => [99, 100])
                (some PyError.message)) work.tokenizer)
            work.cases document := by
  obtain ⟨works, hworks⟩ : Returns (twoInputs.mapM fun input =>
      prepareErsr inOrder cutAtTwo bothActions input.1 input.2.1 input.2.2) := by
    decide +kernel
  obtain ⟨hrequests, finished, hfinished, hlength, hworkwise⟩ := ersr_cases_conserved inOrder
    cutAtTwo suffixVerifier (fun _ _ _ _ => [99, 100]) (fun _ => sevenAfterTwo) PyError.message
    bothActions twoInputs works hworks
  refine ⟨works, hworks, hrequests, finished, hfinished, hlength, ?_⟩
  intro i work final hwork hfinal
  obtain ⟨hcases, hids, hreturns, hconserved⟩ := hworkwise i work final hwork hfinal
  exact ⟨hcases, hids, hreturns suffixVerifier_returns, hconserved⟩

end R2opl
