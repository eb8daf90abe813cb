import R2opl.Ersr.StudentPhase

/-!
# Training and standalone ERSR

The cases of a model, evaluated one by one as in training, have the results that the two
phases of the standalone evaluation give them.
-/

namespace R2opl

open Checked

section Prepared

variable {Rng : Type} {random : RandomSource Rng} {detectors : Detectors}
  {config : ErsrEvaluation} {model : ModelSpec} {records : List ValidationRecord}
  {tokenizer : Tokenizer} {work : ErsrWork}

/-- What `prepare_ersr` returns is prepared. -/
theorem prepareErsr_prepared
    (h : prepareErsr random detectors config model records tokenizer = .ok work) :
    work.Prepared config ∧ work.model = model ∧ work.tokenizer = tokenizer := by
  unfold prepareErsr at h
  obtain ⟨⟨cases, selection⟩, hcases, h⟩ := bind_eq_ok.mp h
  obtain ⟨teacher, hteacher, h⟩ := bind_eq_ok.mp h
  obtain rfl := Except.ok.inj h
  refine ⟨⟨⟨_, buildErsrStepCases_caseList hcases, ?_⟩, ⟨teacher, hteacher⟩, rfl, rfl⟩, rfl, rfl⟩
  intro actionType hmem
  unfold includedActions at hmem
  rcases List.mem_append.mp hmem with hstudent | hreplace
  · split at hstudent
    · rename_i hincluded
      obtain rfl := List.mem_singleton.mp hstudent
      exact of_decide_eq_true hincluded
    · exact absurd hstudent List.not_mem_nil
  · split at hreplace
    · rename_i hincluded
      obtain rfl := List.mem_singleton.mp hreplace
      exact of_decide_eq_true hincluded
    · exact absurd hreplace List.not_mem_nil

end Prepared

/-! ### One case -/

section Case

variable {detectors : Detectors} {verifier : Verifier} {config : ErsrEvaluation}
  {student teacher : GenerateTokens} {teacherGenerate : Option GenerateTokens} {work : ErsrWork}
  {c : ErsrCase}

theorem forDataset_eq {dataset : PyStr} (h : isScibench dataset = false) :
    verifier.forDataset dataset = verifier := by
  unfold Verifier.forDataset Verifier.verifyDatasetResponseAnswer
  simp only [h, Bool.false_eq_true, if_false]

/-- Training decides a case as the teacher phase does, and evaluates the same arms. -/
theorem caseResult_eq_evaluateErsrCase (hwork : work.Prepared config) (hc : c ∈ work.cases)
    (hscibench : ∀ dataset ∈ config.settings.datasets, isScibench dataset = false)
    (hteacher : .teacherReplace ∈ config.actions → teacherGenerate = some teacher) :
    caseResult config verifier student
        (work.teacherOutcome config detectors (fun _ => teacher) none) work.tokenizer c =
      evaluateErsrCase detectors verifier work.tokenizer config.settings student teacherGenerate
        c := by
  obtain ⟨_, hcases, hactions⟩ := hwork.actionTypes
  have hvalid := hcases.valid c hc
  have hverifier : verifier.forDataset c.dataset = verifier :=
    forDataset_eq (hscibench c.dataset hvalid.dataset_mem)
  unfold caseResult evaluateErsrCase armsResult
  rw [raiseIf_of_not (not_not.mpr ⟨hvalid.start_lt, hvalid.end_le⟩), ok_bind, hverifier]
  cases haction : c.actionType with
  | studentAction => rfl
  | teacherReplace =>
    have hmem := hwork.action_mem hc
    rw [haction] at hmem
    obtain ⟨found, hfound⟩ := hwork.teacher
    cases found with
    | none => exact absurd haction (hwork.no_teacher hfound hc)
    | some spec =>
      unfold ErsrWork.teacherOutcome ErsrWork.outcomeOf
      rw [hfound, ok_bind, hteacher hmem]
      dsimp only
      by_cases hbudget : teacherBudget config.settings c ≤ 0
      · rw [if_pos hbudget, if_pos hbudget]
        rfl
      · rw [if_neg hbudget, if_neg hbudget]
        unfold proposalOutcome
        cases firstReplacementStepIds detectors (teacher (c.promptIds ++ c.before)
            (teacherBudget config.settings c) (c.seed + 5000)) work.tokenizer with
        | error error => rfl
        | ok replacement =>
          dsimp only
          rw [ok_bind]
          split
          · rfl
          · rfl

/-- A case whose result is returned was decided. -/
theorem returns_outcome {outcome : ErsrCase → Except PyError TeacherOutcome} {tokenizer : Tokenizer}
    (h : Returns (caseResult config verifier student outcome tokenizer c))
    (haction : c.actionType = .teacherReplace) : Returns (outcome c) := by
  unfold caseResult at h
  rw [haction] at h
  obtain ⟨decision, hdecision, _⟩ := returns_bind.mp h
  exact ⟨decision, hdecision⟩

theorem result_caseId {outcome : ErsrCase → Except PyError TeacherOutcome} {tokenizer : Tokenizer}
    {result : ErsrResult} (h : caseResult config verifier student outcome tokenizer c = .ok result) :
    result.caseId = c.caseId ∧ result.series = c.series := by
  have harms : ∀ action, armsResult config verifier student tokenizer c action = .ok result →
      result.caseId = c.caseId ∧ result.series = c.series := by
    intro action h
    unfold armsResult estimateAdvantage at h
    obtain ⟨_, _, h⟩ := bind_eq_ok.mp h
    obtain ⟨_, _, h⟩ := bind_eq_ok.mp h
    obtain rfl := Except.ok.inj h
    exact ⟨rfl, rfl⟩
  unfold caseResult at h
  split at h
  · exact harms _ h
  · obtain ⟨decision, _, h⟩ := bind_eq_ok.mp h
    cases decision with
    | skipped skipReason error =>
      obtain rfl := Except.ok.inj h
      exact ⟨rfl, rfl⟩
    | replaced replacement => exact harms _ h

end Case

/-! ### All cases of a model -/

/-- The result of a case in a document. -/
def ErsrDocument.result? (document : ErsrDocument) (caseId : PyStr) : Option ErsrResult :=
  document.results.find? fun result => result.caseId = caseId

section Model

variable {detectors : Detectors} {verifier : Verifier} {config : ErsrEvaluation}
  {student : GenerateTokens} {proposals : ModelSpec → GenerateTokens}
  {onSplitError : Option (PyError → String)} {starts works : List ErsrWork} {work work' : ErsrWork}

/-- A work that the teacher phase returns. -/
theorem answered_of_generate (hstarts : ∀ start ∈ starts, start.Prepared config)
    (h : generateErsrReplacementsWith config detectors proposals onSplitError starts = .ok works)
    {i : Nat} (hwork : starts[i]? = some work) (hwork' : works[i]? = some work') :
    Answered config (work.teacherOutcome config detectors proposals onSplitError) work work' := by
  obtain ⟨hdecided, hcomplete⟩ := generateErsrReplacementsWith_decided hstarts h
  refine ⟨hstarts work (List.mem_of_getElem? hwork), ?_,
    hcomplete work' (List.mem_of_getElem? hwork')⟩
  apply (hdecided.decided i work work' hwork hwork').congr
  intro c
  unfold AsksTeacher
  constructor
  · rintro ⟨start, hstart, hc⟩
    obtain rfl := Option.some.inj (hwork.symm.trans hstart)
    exact hc
  · exact fun hc => ⟨work, hwork, hc⟩

/-- The results of a list of cases are named after these, in their order. -/
theorem map_caseId_results {outcome : ErsrCase → Except PyError TeacherOutcome}
    {tokenizer : Tokenizer} {cases : List ErsrCase} {results : List ErsrResult}
    (h : cases.mapM (caseResult config verifier student outcome tokenizer) = .ok results) :
    (results.map fun result => (result.caseId, result.series)) =
      cases.map fun c => (c.caseId, c.series) := by
  have hforall := (mapM_eq_ok _ _).mp h
  clear h
  induction hforall with
  | nil => rfl
  | cons hresult _ ih =>
    obtain ⟨hid, hseries⟩ := result_caseId hresult
    rw [List.map_cons, List.map_cons, ih, hid, hseries]

/-- In a list with distinct keys an item is found by its key. -/
theorem find?_eq_of_perm {results all : List ErsrResult} (hperm : results.Perm all)
    (hnodup : (all.map ErsrResult.caseId).Nodup) {result : ErsrResult} (hmem : result ∈ all) :
    (results.find? fun other => other.caseId = result.caseId) = some result := by
  have hmem' : result ∈ results := hperm.mem_iff.mpr hmem
  cases hfind : results.find? fun other => other.caseId = result.caseId with
  | none =>
    have hnone := List.find?_eq_none.mp hfind result hmem'
    simp at hnone
  | some other =>
    have hid : other.caseId = result.caseId := by simpa using List.find?_some hfind
    have hother := hperm.mem_iff.mp (List.mem_of_find?_eq_some hfind)
    rw [List.inj_on_of_nodup_map hnodup hother hmem hid]

/-- The documents of the student phase hold its results. -/
theorem evaluateErsrStudent_eq_ok {continuations : ModelSpec → GenerateTokens}
    {document : ErsrDocument}
    (h : evaluateErsrStudent config verifier continuations work = .ok document) :
    studentResults config verifier (continuations work.model) work = .ok document.results := by
  unfold evaluateErsrStudent at h
  obtain ⟨results, hresults, h⟩ := bind_eq_ok.mp h
  obtain rfl := Except.ok.inj h
  exact hresults

theorem returns_evaluateErsrStudent {continuations : ModelSpec → GenerateTokens}
    (h : Returns (studentResults config verifier (continuations work.model) work)) :
    Returns (evaluateErsrStudent config verifier continuations work) := by
  obtain ⟨results, hresults⟩ := h
  unfold evaluateErsrStudent
  rw [hresults]
  exact ⟨_, rfl⟩

/-- A single work after the teacher phase. -/
theorem exists_answered (hwork : work.Prepared config)
    (h : generateErsrReplacementsWith config detectors proposals onSplitError [work] = .ok works) :
    ∃ work', works = [work'] ∧
      Answered config (work.teacherOutcome config detectors proposals onSplitError) work work' := by
  have hstarts : ∀ start ∈ [work], start.Prepared config := by
    intro start hstart
    obtain rfl := List.mem_singleton.mp hstart
    exact hwork
  have hlength := (generateErsrReplacementsWith_decided hstarts h).1.length
  obtain ⟨work', rfl⟩ := List.length_eq_one_iff.mp hlength
  exact ⟨work', rfl, answered_of_generate (i := 0) hstarts h rfl rfl⟩

end Model

/-- **Training ERSR is standalone ERSR.**  For the cases that are built from a model's records,
    one evaluation returns when the other does, and every case has the same result in both. -/
theorem training_ersr_eq_standalone {Rng : Type} (random : RandomSource Rng)
    (detectors : Detectors) (verifier : Verifier) (config : ErsrEvaluation) (model : ModelSpec)
    (records : List ValidationRecord) (tokenizer : Tokenizer) (student teacher : GenerateTokens)
    (teacherGenerate : Option GenerateTokens) (cases : List ErsrCase) (report : SelectionReport)
    (hcases : buildErsrStepCases random detectors tokenizer config.settings records
      (ActionType.studentAction ∈ config.actions) (ActionType.teacherReplace ∈ config.actions) =
        .ok (cases, report))
    (hspec : Returns (ersrTeacherForModel config model))
    (hteacher : .teacherReplace ∈ config.actions → teacherGenerate = some teacher)
    (hscibench : ∀ dataset ∈ config.settings.datasets, isScibench dataset = false) :
    (Returns (cases.mapM
        (evaluateErsrCase detectors verifier tokenizer config.settings student teacherGenerate)) ↔
      Returns (evaluateErsr config verifier (fun _ => student) random detectors (fun _ => teacher)
        model records tokenizer)) ∧
    ∀ results document,
      cases.mapM (evaluateErsrCase detectors verifier tokenizer config.settings student
        teacherGenerate) = .ok results →
      evaluateErsr config verifier (fun _ => student) random detectors (fun _ => teacher) model
        records tokenizer = .ok document →
      document.results.Perm results ∧
        ∀ c result, (c, result) ∈ cases.zip results → document.result? c.caseId = some result := by
  obtain ⟨spec, hspec⟩ := hspec
  let work : ErsrWork := ⟨model, tokenizer, cases, ⟨report, cases, spec⟩, [], [], false⟩
  have hprepare : prepareErsr random detectors config model records tokenizer = .ok work := by
    unfold prepareErsr
    rw [hcases, ok_bind]
    dsimp only
    rw [hspec]
    rfl
  obtain ⟨hprepared, _, _⟩ := prepareErsr_prepared hprepare
  have hsame : cases.mapM (caseResult config verifier student
      (work.teacherOutcome config detectors (fun _ => teacher) none) tokenizer) =
      cases.mapM
        (evaluateErsrCase detectors verifier tokenizer config.settings student teacherGenerate) :=
    mapM_congr fun c hc => caseResult_eq_evaluateErsrCase hprepared hc hscibench hteacher
  have hphases : evaluateErsr config verifier (fun _ => student) random detectors
      (fun _ => teacher) model records tokenizer =
        generateErsrReplacements config detectors (fun _ => teacher) [work] >>= fun works =>
          evaluateErsrStudent config verifier (fun _ => student) (works.headD work) := by
    unfold evaluateErsr
    rw [hprepare]
    rfl
  rw [hphases, ← hsame]
  constructor
  · constructor
    · intro htraining
      rw [returns_mapM_iff] at htraining
      have hgenerate : Returns
          (generateErsrReplacements config detectors (fun _ => teacher) [work]) := by
        apply returns_generateErsrReplacementsWith
        · intro start hstart
          obtain rfl := List.mem_singleton.mp hstart
          exact hprepared
        · intro start hstart c hc haction
          obtain rfl := List.mem_singleton.mp hstart
          exact returns_outcome (htraining c hc) haction
      obtain ⟨works, hworks⟩ := hgenerate
      obtain ⟨work', rfl, hanswered⟩ := exists_answered hprepared hworks
      rw [hworks, ok_bind]
      apply returns_evaluateErsrStudent
      apply hanswered.returns_studentResults
      rw [hanswered.decided.cases, hanswered.decided.tokenizer]
      exact htraining
    · intro hstandalone
      obtain ⟨works, hworks, document, hdocument⟩ := returns_bind.mp hstandalone
      obtain ⟨work', rfl, hanswered⟩ := exists_answered hprepared hworks
      obtain ⟨all, hall, _⟩ := hanswered.results_perm (evaluateErsrStudent_eq_ok hdocument)
      rw [hanswered.decided.cases, hanswered.decided.tokenizer] at hall
      exact ⟨all, hall⟩
  · intro results document hresults hdocument
    obtain ⟨works, hworks, hdocument⟩ := bind_eq_ok.mp hdocument
    obtain ⟨work', rfl, hanswered⟩ := exists_answered hprepared hworks
    obtain ⟨all, hall, hperm⟩ := hanswered.results_perm (evaluateErsrStudent_eq_ok hdocument)
    rw [hanswered.decided.cases, hanswered.decided.tokenizer] at hall
    obtain rfl : all = results := Except.ok.inj (hall.symm.trans hresults)
    refine ⟨hperm, ?_⟩
    intro c result hzip
    have hmem : (c, result) ∈ cases.zip all := hzip
    have hnames := map_caseId_results hall
    have hids : all.map ErsrResult.caseId = cases.map ErsrCase.caseId := by
      have hfirst := congrArg (List.map Prod.fst) hnames
      rw [List.map_map, List.map_map] at hfirst
      exact hfirst
    have hid : result.caseId = c.caseId := by
      obtain ⟨i, hi, hzip⟩ := List.mem_iff_getElem.mp hmem
      rw [List.getElem_zip] at hzip
      obtain ⟨rfl, rfl⟩ := Prod.mk.inj hzip
      have hentry := congrArg (·[i]?) hids
      rw [List.length_zip] at hi
      simpa [List.getElem?_map, lt_min_iff.mp hi] using hentry
    have hnodup : (all.map ErsrResult.caseId).Nodup := by
      rw [hids]
      exact (buildErsrStepCases_caseList hcases).caseIds_nodup
    rw [← hid]
    exact find?_eq_of_perm hperm hnodup (List.of_mem_zip hmem).2

/-! ### A correct and an incorrect rollout -/

/-- A sampler that keeps every order. -/
def inOrder : RandomSource Unit where
  datasetSeed _ _ _ := 0
  seeded _ := ()
  randrange rng _ := (0, rng)
  shuffled _ n := List.range n
  shuffled_perm _ _ := List.Perm.refl _

def cutAtTwo : Detectors := { Detectors.silent with
  explicitBoundaries := fun _ _ _ => .ok [⟨2, "cut", .hard⟩] }

def charTokenizer : Tokenizer where
  decode ids _ := ids.map fun id => Char.ofNat id.toNat
  encode text := (text.map fun c => (c.toNat : Int), none)

/-- A verifier that looks for the answer at the end of the response. -/
def suffixVerifier : Verifier where
  verifyResponseAnswer response answer := .ok (answer.isSuffixOf response)
  verifyScibenchResponseAnswer _ _ := .ok false

def bothActions : ErsrEvaluation where
  settings := {
    datasets := ["AMC".toList]
    maxStepsPerDataset := 2
    mcK := 2
    seed := 3
    maxResponseTokens := 4
    maxTeacherStepTokens := 2
    temperature := 1
    topP := 1
    topK := 0
    datasets_nodup := by decide
    maxSteps_pos := Nat.two_pos
    mcK_pos := Nat.two_pos }
  actions := [.studentAction, .teacherReplace]
  teacher := some ⟨"teacher", "teachers/one", "qwen", none, none⟩
  teachers := []

def studentModel : ModelSpec := ⟨"student", "models/one", "qwen", none, none⟩

def twoRecords : List ValidationRecord :=
  [⟨"AMC".toList, 0, "AMC:0:0".toList, 0, "7".toList, true, [81], [97, 98, 55]⟩,
    ⟨"AMC".toList, 0, "AMC:0:1".toList, 1, "7".toList, false, [81], [97, 98, 56]⟩]

def twoCases : List ErsrCase :=
  [⟨⟨"AMC".toList, .studentAction, 0, "AMC:0:0".toList, "7".toList, [81], [97, 98, 55], 0, 0, 2,
      "ab".toList⟩, 0, "AMC:AMC:0:0:0:0:student_action".toList, 3⟩,
    ⟨⟨"AMC".toList, .teacherReplace, 1, "AMC:0:1".toList, "7".toList, [81], [97, 98, 56], 0, 0, 2,
      "ab".toList⟩, 1, "AMC:AMC:0:1:1:0:teacher_replace".toList, 10003⟩]

def twoCasesReport : SelectionReport where
  trajectories := [("AMC".toList, 2)]
  splitFailures := []
  trajectoriesWithoutEligibleSteps := []
  availableSteps := [("AMC".toList, [(.studentAction, 1), (.teacherReplace, 1)])]
  selectedSteps := [("AMC".toList, [(.studentAction, 1), (.teacherReplace, 1)])]

/-- A student that continues a long enough prefix with the answer. -/
def sevenAfterTwo : GenerateTokens := fun ids _ _ => if ids.length < 3 then [] else [55]

theorem training_ersr_eq_standalone_two_cases :
    (Returns (twoCases.mapM (evaluateErsrCase cutAtTwo suffixVerifier charTokenizer
        bothActions.settings sevenAfterTwo (some fun _ _ _ => [99, 100]))) ↔
      Returns (evaluateErsr bothActions suffixVerifier (fun _ => sevenAfterTwo) inOrder cutAtTwo
        (fun _ _ _ _ => [99, 100]) studentModel twoRecords charTokenizer)) ∧
    ∀ results document,
      twoCases.mapM (evaluateErsrCase cutAtTwo suffixVerifier charTokenizer bothActions.settings
        sevenAfterTwo (some fun _ _ _ => [99, 100])) = .ok results →
      evaluateErsr bothActions suffixVerifier (fun _ => sevenAfterTwo) inOrder cutAtTwo
        (fun _ _ _ _ => [99, 100]) studentModel twoRecords charTokenizer = .ok document →
      document.results.Perm results ∧
        ∀ c result, (c, result) ∈ twoCases.zip results →
          document.result? c.caseId = some result :=
  training_ersr_eq_standalone inOrder cutAtTwo suffixVerifier bothActions studentModel twoRecords
    charTokenizer sevenAfterTwo (fun _ _ _ => [99, 100]) (some fun _ _ _ => [99, 100]) twoCases
    twoCasesReport (by decide +kernel) (by decide +kernel) (fun _ => rfl) (by decide +kernel)

example :
    (twoCases.mapM (evaluateErsrCase cutAtTwo suffixVerifier charTokenizer bothActions.settings
        sevenAfterTwo (some fun _ _ _ => [99, 100]))).toOption.map (fun results =>
          results.map ErsrResult.advantage?) = some [some 1, some 1] := by
  decide +kernel

end R2opl
