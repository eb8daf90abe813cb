import R2opl.Evaluation.Checkpoints
import R2opl.Ersr.Training

/-!
# Standalone ERSR

`prepare_ersr`, `generate_ersr_replacements` and `evaluate_ersr_student` of
`utils/evaluation.py` and `utils/ersr_evaluation.py`: the teacher answers for the cases of
all works first, then the student continues both arms of the cases of each.  The generation
phases are those that every interleaving of the GPU pool returns.
-/

namespace R2opl

open Checked

/-- The `ersr` part of an evaluation configuration. -/
structure ErsrEvaluation where
  settings : ErsrSettings
  actions : List ActionType
  teacher : Option ModelSpec
  teachers : List ModelSpec

def ersrTeacherForModel (config : ErsrEvaluation) (model : ModelSpec) :
    Except PyError (Option ModelSpec) :=
  if .teacherReplace ∉ config.actions then .ok none
  else
    match config.teacher <|> config.teachers.find? (·.family = model.family) with
    | some teacher =>
        if teacher.family = model.family then .ok (some teacher) else .error (missing model)
    | none => .error (missing model)
where
  missing (model : ModelSpec) : PyError := valueError
    (s!"ERSR teacher_replace for {model.name} requires a {model.family} teacher; " ++
      "set ersr.teacher or ersr.teachers.<family>.")

/-! ### Works -/

/-- What `prepare_ersr` puts into a work's document; its settings are those of the
    configuration. -/
structure PreparedDocument where
  selection : SelectionReport
  cases : List ErsrCase
  teacher : Option ModelSpec

structure ErsrWork where
  model : ModelSpec
  tokenizer : Tokenizer
  cases : List ErsrCase
  document : PreparedDocument
  replacements : List (PyStr × List Int)
  invalid : List (PyStr × ErsrResult)
  teacherComplete : Bool

def prepareErsr {Rng : Type} (random : RandomSource Rng) (detectors : Detectors)
    (config : ErsrEvaluation) (model : ModelSpec) (records : List ValidationRecord)
    (tokenizer : Tokenizer) : Except PyError ErsrWork := do
  let (cases, selection) ← buildErsrStepCases random detectors tokenizer config.settings records
    (ActionType.studentAction ∈ config.actions) (ActionType.teacherReplace ∈ config.actions)
  let teacher ← ersrTeacherForModel config model
  return { model, tokenizer, cases, document := { selection, cases, teacher }, replacements := [],
           invalid := [], teacherComplete := false }

/-- `work.invalid[case["case_id"]] = ...`. -/
def ErsrWork.markInvalid (work : ErsrWork) (c : ErsrCase) (skipReason : String)
    (error : Option String) : ErsrWork :=
  { work with invalid := Dict.set work.invalid c.caseId (c.result (.skipped skipReason error)) }

/-- `work.replacements[case["case_id"]] = replacement`. -/
def ErsrWork.recordReplacement (work : ErsrWork) (c : ErsrCase) (replacement : List Int) :
    ErsrWork :=
  { work with replacements := Dict.set work.replacements c.caseId replacement }

/-- The answer of a language model to a request; its sampling parameters are those of the
    configuration for every request. -/
def answerWith (generate : GenerateTokens) (request : GenerationRequest) : List Int :=
  generate request.ids request.maxTokens request.seed

/-! ### The teacher phase -/

/-- A case that waits for its teacher's proposal. -/
structure TeacherRow where
  workIndex : Nat
  case : ErsrCase
  request : GenerationRequest

abbrev TeacherGroups := List (ModelSpec × List TeacherRow)

def teacherRequestId (workIndex : Nat) (model : ModelSpec) (c : ErsrCase) : PyStr :=
  "teacher:".toList ++ natText workIndex ++ ':' :: model.name.toList ++ ':' :: c.caseId

section Teacher

variable (config : ErsrEvaluation)

def teacherRequest (workIndex : Nat) (model : ModelSpec) (c : ErsrCase) : GenerationRequest where
  ids := c.promptIds ++ c.before
  maxTokens := teacherBudget config.settings c
  seed := c.seed + 5000
  temperature := config.settings.temperature
  topP := config.settings.topP
  topK := config.settings.topK
  requestId := teacherRequestId workIndex model c

/-- A case of a work in the first loop. -/
def planCase (teacher : ModelSpec) (workIndex : Nat) (state : ErsrWork × TeacherGroups)
    (c : ErsrCase) : ErsrWork × TeacherGroups :=
  if c.actionType ≠ .teacherReplace then state
  else if teacherBudget config.settings c ≤ 0 then
    (state.1.markInvalid c "no_teacher_budget" none, state.2)
  else
    (state.1, Dict.push state.2 teacher
      ⟨workIndex, c, teacherRequest config workIndex state.1.model c⟩)

/-- A work in the first loop. -/
def planWork (state : List ErsrWork × TeacherGroups) (indexed : ErsrWork × Nat) :
    Except PyError (List ErsrWork × TeacherGroups) := do
  let (work, workIndex) := indexed
  match ← ersrTeacherForModel config work.model with
  | none => return (state.1 ++ [{ work with teacherComplete := true }], state.2)
  | some teacher =>
      let (work, groups) := work.cases.foldl (planCase config teacher workIndex) (work, state.2)
      return (state.1 ++ [work], groups)

/-- The first loop: the markers of exhausted budgets, and the requests of each teacher. -/
def planTeachers (works : List ErsrWork) : Except PyError (List ErsrWork × TeacherGroups) :=
  works.zipIdx.foldlM (planWork config) ([], [])

variable (detectors : Detectors) (proposals : ModelSpec → GenerateTokens)
  (onSplitError : Option (PyError → String))

/-- What a proposal does to its work; `onSplitError` is the text that a splitter error is
    recorded with, when it is caught. -/
def applyProposal (c : ErsrCase) (proposal : List Int) (work : ErsrWork) :
    Except PyError ErsrWork :=
  match firstReplacementStepIds detectors proposal work.tokenizer with
  | .error error =>
      match onSplitError with
      | none => .error error
      | some text => .ok (work.markInvalid c "teacher_split_error" (some (text error)))
  | .ok replacement =>
      if replacement = [] then .ok (work.markInvalid c "empty_teacher_replacement" none)
      else .ok (work.recordReplacement c replacement)

def updateWork (works : List ErsrWork) (index : Nat)
    (update : ErsrWork → Except PyError ErsrWork) : Except PyError (List ErsrWork) :=
  match works[index]? with
  | none => .ok works
  | some work => do return works.set index (← update work)

/-- A row of the second loop. -/
def applyRow (outputs : List (PyStr × List Int)) (works : List ErsrWork) (row : TeacherRow) :
    Except PyError (List ErsrWork) :=
  updateWork works row.workIndex fun work => do
    let proposal ← lookup outputs row.request.requestId (String.ofList row.request.requestId)
    applyProposal detectors onSplitError row.case proposal work

/-- The rows of one teacher, after its generation phase. -/
def applyGroup (works : List ErsrWork) (group : ModelSpec × List TeacherRow) :
    Except PyError (List ErsrWork) :=
  let outputs := generationPhase (answerWith (proposals group.1)) (group.2.map TeacherRow.request)
  group.2.foldlM (applyRow detectors onSplitError outputs) works

/-- Both loops. -/
def generateErsrReplacementsWith (works : List ErsrWork) : Except PyError (List ErsrWork) := do
  let (works, groups) ← planTeachers config works
  let works ← groups.foldlM (applyGroup detectors proposals onSplitError) works
  return works.map fun work => { work with teacherComplete := true }

/-- `generate_ersr_replacements` of `utils/evaluation.py`: a splitter error is raised. -/
def generateErsrReplacements (works : List ErsrWork) : Except PyError (List ErsrWork) :=
  generateErsrReplacementsWith config detectors proposals none works

/-- `generate_ersr_replacements` of `utils/ersr_evaluation.py`: a splitter error is recorded with
    its `repr`. -/
def ErsrEvaluation.generateErsrReplacements (reprError : PyError → String)
    (works : List ErsrWork) : Except PyError (List ErsrWork) :=
  generateErsrReplacementsWith config detectors proposals (some reprError) works

end Teacher

/-! ### The student phase -/

structure Arm where
  responsePrefix : List Int
  requests : List GenerationRequest

/-- The two arms of a case. -/
structure CaseArms where
  baseline : Arm
  action : Arm

section Student

variable (config : ErsrEvaluation) (verifier : Verifier) (continuations : GenerateTokens)

def armRequestId (c : ErsrCase) (armOffset sampleIndex : Nat) : PyStr :=
  c.caseId ++ ':' :: natText armOffset ++ ':' :: natText sampleIndex

def armRequest (c : ErsrCase) (responsePrefix : List Int) (armOffset sampleIndex : Nat) :
    GenerationRequest where
  ids := c.promptIds ++ responsePrefix
  maxTokens := config.settings.maxResponseTokens - responsePrefix.length
  seed := c.seed + armOffset + sampleIndex
  temperature := config.settings.temperature
  topP := config.settings.topP
  topK := config.settings.topK
  requestId := armRequestId c armOffset sampleIndex

/-- `arm_requests`. -/
def armRequests (c : ErsrCase) (responsePrefix : List Int) (armOffset : Nat) :
    List GenerationRequest :=
  if config.settings.maxResponseTokens - responsePrefix.length ≤ 0 then []
  else (List.range config.settings.mcK).map (armRequest config c responsePrefix armOffset)

def armsFor (c : ErsrCase) (actionPrefix : List Int) : CaseArms where
  baseline := ⟨c.before, armRequests config c c.before 0⟩
  action := ⟨actionPrefix, armRequests config c actionPrefix 1000⟩

/-- The arms of a case, unless it is invalid or has no replacement. -/
def ErsrWork.armsOf (work : ErsrWork) (c : ErsrCase) : Option CaseArms :=
  if c.caseId ∈ Dict.keys work.invalid then none
  else
    match c.actionType with
    | .studentAction => some (armsFor config c (c.responseIds.take c.stepTokenEnd))
    | .teacherReplace =>
        (Dict.get? work.replacements c.caseId).map fun replacement =>
          armsFor config c (c.before ++ replacement)

/-- The items of `case_arms`, as they are set. -/
def ErsrWork.caseArms (work : ErsrWork) : List (PyStr × CaseArms) :=
  work.cases.filterMap fun c => (work.armsOf config c).map fun arms => (c.caseId, arms)

def CaseArms.requests (arms : CaseArms) : List GenerationRequest :=
  arms.baseline.requests ++ arms.action.requests

def ErsrWork.studentRequests (work : ErsrWork) : List GenerationRequest :=
  (work.caseArms config).flatMap fun item => item.2.requests

/-- The value of an arm, and how many of its continuations are empty. -/
def armValue (tokenizer : Tokenizer) (outputs : List (PyStr × List Int)) (c : ErsrCase)
    (arm : Arm) : Except PyError (ℚ × Nat) := do
  let continuationIds ← arm.requests.mapM fun request =>
    lookup outputs request.requestId (String.ofList request.requestId)
  let rewards ← continuationIds.mapM fun ids =>
    rewardForContinuation verifier tokenizer arm.responsePrefix ids c.answer (some c.dataset)
  if arm.requests = [] then
    let value ← rewardForContinuation verifier tokenizer arm.responsePrefix [] c.answer
      (some c.dataset)
    return (value, config.settings.mcK)
  else
    return (rewards.sum / config.settings.mcK, (continuationIds.filter (· = [])).length)

/-- The result of a case with arms. -/
def studentResult (work : ErsrWork) (outputs : List (PyStr × List Int))
    (item : ErsrCase × CaseArms) : Except PyError ErsrResult := do
  let (c, arms) := item
  let (baselineValue, baselineEmpty) ←
    armValue config verifier work.tokenizer outputs c arms.baseline
  let (actionValue, actionEmpty) ←
    armValue config verifier work.tokenizer outputs c arms.action
  let replacementNumTokens ←
    match c.actionType with
    | .studentAction => pure none
    | .teacherReplace => do
        let replacement ← lookup work.replacements c.caseId (String.ofList c.caseId)
        pure (some replacement.length)
  return c.result (.valid {
    baselineValue
    actionValue
    advantage := actionValue - baselineValue
    mcK := config.settings.mcK
    baselineEmptyContinuations := baselineEmpty
    actionEmptyContinuations := actionEmpty
    replacementNumTokens })

/-- The list `results` of `evaluate_ersr_student`. -/
def studentResults (work : ErsrWork) : Except PyError (List ErsrResult) := do
  raiseIf (work.teacherComplete = false) (runtimeError
    "Teacher replacements must complete before student continuations.")
  let arms := Dict.ofPairs (work.caseArms config)
  let outputs := generationPhase (answerWith continuations) (work.studentRequests config)
  let valid ← (work.cases.filterMap fun c =>
    (Dict.get? arms c.caseId).map fun arms => (c, arms)).mapM
      (studentResult config verifier work outputs)
  return work.invalid.map Prod.snd ++ valid

end Student

/-! ### The documents -/

/-- The mean of a list, which is not empty. -/
def meanValue (values : List ℚ) : ℚ := values.sum / values.length

def ErsrResult.advantage? (result : ErsrResult) : Option ℚ :=
  match result.outcome with
  | .valid values => some values.advantage
  | .skipped _ _ => none

def ErsrResult.skipReason? (result : ErsrResult) : Option String :=
  match result.outcome with
  | .valid _ => none
  | .skipped skipReason _ => some skipReason

def ErsrResult.series (result : ErsrResult) : PyStr × ActionType := (result.dataset, result.actionType)

/-- The advantages of one series, in the order of the results. -/
def seriesValues (results : List ErsrResult) (key : PyStr × ActionType) : List ℚ :=
  (results.filter fun result => result.series = key).filterMap ErsrResult.advantage?

def ersrSeriesLabel (dataset : PyStr) : ActionType → PyStr
  | .studentAction => dataset ++ " / Student Action".toList
  | .teacherReplace => dataset ++ " / Teacher Replace".toList

/-- `aggregate_ersr_advantages`: the means of the series, and how often each reason to skip. -/
def aggregateErsrAdvantages (results : List ErsrResult) (datasets : List PyStr)
    (actionTypes : List ActionType) : List (PyStr × ℚ) × List (String × Nat) :=
  (Dict.ofPairs (datasets.flatMap fun dataset => actionTypes.map fun actionType =>
      let values := seriesValues results (dataset, actionType)
      (ersrSeriesLabel dataset actionType, if values = [] then 0 else meanValue values)),
    (results.filterMap ErsrResult.skipReason?).foldl countUp [])

structure SeriesSummary where
  meanAdvantage : Option ℚ
  selectedSteps : Nat
  validSteps : Nat
  skippedSteps : Nat
deriving DecidableEq

structure ActionSummary where
  actionType : ActionType
  datasets : List (PyStr × SeriesSummary)
  macroMeanAdvantage : Option ℚ
  weightedMeanAdvantage : Option ℚ
  selectedSteps : Nat
  validSteps : Nat
  skippedSteps : Nat
deriving DecidableEq

def ActionType.metricName : ActionType → String
  | .studentAction => "ERSR_Adv"
  | .teacherReplace => "ERSR_Adv_TR"

def ErsrCase.series (c : ErsrCase) : PyStr × ActionType := c.key

/-- `meanValue` of values when there are any. -/
def mean? (values : List ℚ) : Option ℚ := if values = [] then none else some (meanValue values)

section Metrics

variable (results : List ErsrResult) (selectedCases : List ErsrCase)

/-- How many results of a series are skipped. -/
def skippedCounts : List ((PyStr × ActionType) × Nat) :=
  ((results.filter fun result => result.advantage?.isNone).map ErsrResult.series).foldl countUp []

def selectedCounts : List ((PyStr × ActionType) × Nat) :=
  (selectedCases.map ErsrCase.series).foldl countUp []

/-- One data set of `summarize_ersr_metrics`. -/
def summarizeSeries (key : PyStr × ActionType) : SeriesSummary :=
  let values := seriesValues results key
  let skipped := (Dict.get? (skippedCounts results) key).getD 0
  { meanAdvantage := mean? values
    selectedSteps := (Dict.get? (selectedCounts selectedCases) key).getD (values.length + skipped)
    validSteps := values.length
    skippedSteps := skipped }

def summarizeAction (datasets : List PyStr) (actionType : ActionType) : ActionSummary :=
  let series := datasets.map fun dataset =>
    (dataset, summarizeSeries results selectedCases (dataset, actionType))
  { actionType
    datasets := Dict.ofPairs series
    macroMeanAdvantage := mean? (series.filterMap fun item => item.2.meanAdvantage)
    weightedMeanAdvantage :=
      mean? (datasets.flatMap fun dataset => seriesValues results (dataset, actionType))
    selectedSteps := (series.map fun item => item.2.selectedSteps).sum
    validSteps := (series.map fun item => item.2.validSteps).sum
    skippedSteps := (series.map fun item => item.2.skippedSteps).sum }

def summarizeErsrMetrics (datasets : List PyStr) (actionTypes : List ActionType) :
    List (String × ActionSummary) :=
  Dict.ofPairs (actionTypes.map fun actionType =>
    (actionType.metricName, summarizeAction results selectedCases datasets actionType))

end Metrics

/-- A work's document after the student phase. -/
structure ErsrDocument extends PreparedDocument where
  results : List ErsrResult
  means : List (PyStr × ℚ)
  skipped : List (String × Nat)
  replacements : List (PyStr × List Int)

section Documents

variable (config : ErsrEvaluation) (verifier : Verifier) (continuations : ModelSpec → GenerateTokens)

/-- `evaluate_ersr_student` of `utils/evaluation.py`. -/
def evaluateErsrStudent (work : ErsrWork) : Except PyError ErsrDocument := do
  let results ← studentResults config verifier (continuations work.model) work
  let (means, skipped) := aggregateErsrAdvantages results config.settings.datasets config.actions
  return { work.document with results, means, skipped, replacements := work.replacements }

/-- The document of `utils/ersr_evaluation.py`, with its metrics. -/
structure ErsrMetricsDocument extends ErsrDocument where
  metrics : List (String × ActionSummary)

/-- `evaluate_ersr_student` of `utils/ersr_evaluation.py`. -/
def ErsrEvaluation.evaluateErsrStudent (work : ErsrWork) : Except PyError ErsrMetricsDocument := do
  let document ← R2opl.evaluateErsrStudent config verifier continuations work
  return { document with
    metrics := summarizeErsrMetrics document.results work.cases config.settings.datasets
      config.actions }

/-- `evaluate_ersr` of `utils/evaluation.py`: the three phases for one model. -/
def evaluateErsr {Rng : Type} (random : RandomSource Rng) (detectors : Detectors)
    (proposals : ModelSpec → GenerateTokens) (model : ModelSpec) (records : List ValidationRecord)
    (tokenizer : Tokenizer) : Except PyError ErsrDocument := do
  let work ← prepareErsr random detectors config model records tokenizer
  let works ← generateErsrReplacements config detectors proposals [work]
  evaluateErsrStudent config verifier continuations (works.headD work)

end Documents

end R2opl
