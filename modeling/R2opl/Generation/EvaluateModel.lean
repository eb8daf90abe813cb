import Mathlib
import R2opl.Generation.Pool

/-!
# Evaluating one model

`evaluate_model` (`utils/evaluation.py`): the questions are answered in batches by the GPU
pool, every answer is scored at each token limit, and the results are aggregated for each
data set.
-/

namespace R2opl

open Checked WorkQueue

/-- The fields of `EvaluationConfig` that the base evaluation reads. -/
structure SamplingConfig extends PoolConfig where
  valDatasets : List PyStr
  lengthControl : List Nat
  lengthControl_ne : lengthControl ≠ []
  ascending : lengthControl.Pairwise (· < ·)

structure EvalTask where
  dataset : PyStr
  questionIndex : Nat
  answer : PyStr
  promptTokenIds : List Int
deriving DecidableEq

structure Completion where
  tokenIds : List Int
  text : PyStr
  finishReason : Option String
deriving DecidableEq

/-- What a worker loads: the language model under the sampling parameters of the
    configuration, its tokenizer and the verifier of answers. -/
structure Engine where
  generate : List Int → List Completion
  decodePrefix : List Int → PyStr
  eosTokenIds : List Int
  padTokenId : Option Int
  verify : PyStr → PyStr → PyStr → Except PyError Bool

structure LengthScore where
  correct : Nat
  tokens : Nat
  truncated : Nat
deriving DecidableEq

structure Counters where
  rollouts : Nat
  correctCount : Nat
  tokenCount : Nat
  truncatedCount : Nat
deriving DecidableEq

structure Rollout where
  responseTokenIds : List Int
  finishReason : Option String
  correct : Bool
deriving DecidableEq

structure QuestionResult where
  dataset : PyStr
  questionIndex : Nat
  lengths : List (Nat × Counters)
  rollouts : Option (List Rollout)
deriving DecidableEq

def keyError (message : String) : PyError := ⟨.keyError, message⟩

def zeroDivisionError : PyError := ⟨.zeroDivisionError, "division by zero"⟩

/-- `items[key]`; `keyText` is the text of the key. -/
def lookup {κ α : Type} [DecidableEq κ] (items : List (κ × α)) (key : κ) (keyText : String) :
    Except PyError α :=
  match Dict.get? items key with
  | some value => .ok value
  | none => .error (keyError keyText)

theorem lookup_eq_ok {κ α : Type} [DecidableEq κ] {items : List (κ × α)} {key : κ}
    {keyText : String} {value : α} :
    lookup items key keyText = .ok value ↔ Dict.get? items key = some value := by
  unfold lookup
  cases Dict.get? items key with
  | none => exact ⟨fun h => (nomatch h), fun h => (nomatch h)⟩
  | some found =>
    exact ⟨fun h => congrArg some (Except.ok.inj h), fun h => congrArg _ (Option.some.inj h)⟩

/-- `left / right` for counts. -/
def divide (left right : Nat) : Except PyError ℚ := do
  raiseIf (right = 0) zeroDivisionError
  return (left : ℚ) / right

/-! ### A worker's evaluation job -/

section Worker

variable (config : SamplingConfig) (engine : Engine)

/-- One limit of `score_completion_at_lengths`: the text is verified as a whole at most
    once. -/
def scoreAtLimit (completion : Completion) (verify : PyStr → Except PyError Bool)
    (state : Option Nat × List (Nat × LengthScore)) (limit : Nat) :
    Except PyError (Option Nat × List (Nat × LengthScore)) := do
  let cutByPosthocLimit := decide (limit < completion.tokenIds.length)
  let (fullCorrect, correct) ←
    if cutByPosthocLimit then do
      let correct ← verify (engine.decodePrefix (completion.tokenIds.take limit))
      pure (state.1, correct.toNat)
    else
      match state.1 with
      | some correct => pure (some correct, correct)
      | none => do
          let correct ← verify completion.text
          pure (some correct.toNat, correct.toNat)
  return (fullCorrect, Dict.set state.2 limit {
    correct
    tokens := min completion.tokenIds.length limit
    truncated := (cutByPosthocLimit || completion.finishReason = some "length").toNat })

def scoreCompletionAtLengths (completion : Completion) (verify : PyStr → Except PyError Bool) :
    Except PyError (List (Nat × LengthScore)) := do
  let (_, values) ← config.lengthControl.foldlM (scoreAtLimit engine completion verify) (none, [])
  return values

/-- `_trim_generated_ids`. -/
def trimGeneratedIds (tokenIds : List Int) : List Int :=
  match tokenIds.findIdx? (· ∈ engine.eosTokenIds) with
  | some index => tokenIds.take (index + 1)
  | none =>
      match engine.padTokenId with
      | none => tokenIds
      | some padId => tokenIds.rdropWhile (· = padId)

def Counters.add (counters : Counters) (score : LengthScore) : Counters where
  rollouts := counters.rollouts + 1
  correctCount := counters.correctCount + score.correct
  tokenCount := counters.tokenCount + score.tokens
  truncatedCount := counters.truncatedCount + score.truncated

def addScore (counters : List (Nat × Counters)) (scored : Nat × LengthScore) :
    Except PyError (List (Nat × Counters)) := do
  let target ← lookup counters scored.1 s!"'{scored.1}'"
  return Dict.set counters scored.1 (target.add scored.2)

/-- One completion of a question: its scores are counted, and its tokens are kept when the
    rollouts of its data set are collected. -/
def addCompletion (task : EvalTask) (state : List (Nat × Counters) × Option (List Rollout))
    (completion : Completion) : Except PyError (List (Nat × Counters) × Option (List Rollout)) := do
  let scored ← scoreCompletionAtLengths config engine completion fun response =>
    engine.verify response task.answer task.dataset
  let last := config.lengthControl.getLast config.lengthControl_ne
  let full ← lookup scored last (toString last)
  let counters ← scored.foldlM addScore state.1
  return (counters, state.2.map (· ++ [{
    responseTokenIds := trimGeneratedIds engine completion.tokenIds
    finishReason := completion.finishReason
    correct := decide (full.correct ≠ 0) }]))

/-- The questions of a job, one at a time. -/
def evaluateTask (collectIds : List PyStr) (task : EvalTask) : Except PyError QuestionResult := do
  let completions := engine.generate task.promptTokenIds
  raiseIf (completions.length ≠ config.n) (runtimeError (s!"{String.ofList task.dataset}" ++
    s!"[{task.questionIndex}] returned {completions.length} rollouts, expected {config.n}."))
  let counters := Dict.ofPairs (config.lengthControl.map fun limit => (limit, ⟨0, 0, 0, 0⟩))
  let rollouts := if task.dataset ∈ collectIds then some [] else none
  let (counters, rollouts) ← completions.foldlM (addCompletion config engine task) (counters, rollouts)
  return { dataset := task.dataset, questionIndex := task.questionIndex, lengths := counters, rollouts }

/-- `_run_eval_batch_job`. -/
def runEvalBatchJob (collectIds : List PyStr) (tasks : List EvalTask) :
    Except PyError (List QuestionResult) := do
  raiseIf (¬ (1 ≤ tasks.length ∧ tasks.length ≤ config.questionsPerGpuBatch))
    (valueError s!"Invalid question batch size: {tasks.length}")
  raiseIf (config.rolloutsPerGpuBatch < tasks.length * config.n) ⟨.assertionError,
    "Each GPU generate call must contain at most " ++
      s!"{config.rolloutsPerGpuBatch} rollouts; got {tasks.length * config.n}."⟩
  tasks.mapM (evaluateTask config engine collectIds)

end Worker

/-! ### Aggregation -/

/-- The metrics of one data set at one token limit. -/
structure LengthSummary where
  avg : ℚ
  pass : ℚ
  meanLength : ℚ
  truncationRate : ℚ
  perSample : List (Nat × ℚ)
deriving DecidableEq

abbrev DatasetSummaries := List (PyStr × List (Nat × LengthSummary))

structure Tally where
  correctCount : Nat
  passedQuestions : Nat
  tokenCount : Nat
  truncatedCount : Nat
  perSample : List (Nat × ℚ)

section Aggregate

variable (reprStr : PyStr → String)

/-- The text of a sorted list of question keys. -/
def keysText (keys : List (PyStr × Nat)) : String :=
  let ordered := keys.dedup.insertionSort fun a b => toLex a ≤ toLex b
  listText ((ordered.take 10).map fun key => tupleText [reprStr key.1, toString key.2])

def expectedKeys (datasetQuestionCounts : List (PyStr × Nat)) : List (PyStr × Nat) :=
  datasetQuestionCounts.flatMap fun count => (List.range count.2).map fun index => (count.1, index)

def QuestionResult.key (result : QuestionResult) : PyStr × Nat :=
  (result.dataset, result.questionIndex)

/-- The checks of `aggregate_question_results`: every expected question once. -/
def checkQuestionKeys (expected actual : List (PyStr × Nat)) : Except PyError Unit := do
  raiseIf (¬ actual.Nodup) (runtimeError "Evaluation returned duplicate question results.")
  raiseIf (¬ (actual ⊆ expected ∧ expected ⊆ actual)) (runtimeError
    (s!"Incomplete question results: missing={keysText reprStr (expected.filter (· ∉ actual))}, " ++
      s!"unexpected={keysText reprStr (actual.filter (· ∉ expected))}."))

/-- One question at one limit. -/
def tallyQuestion (n : Nat) (dataset : PyStr) (limit : Nat) (tally : Tally)
    (record : QuestionResult) : Except PyError Tally := do
  let counters ← lookup record.lengths limit s!"'{limit}'"
  raiseIf (counters.rollouts ≠ n) (runtimeError
    (s!"{String.ofList dataset}[{record.questionIndex}] at length {limit} " ++
      s!"has {counters.rollouts} rollouts, expected {n}."))
  raiseIf (n < counters.correctCount) (runtimeError "Invalid correct_count in worker result.")
  let avg ← divide counters.correctCount n
  return {
    correctCount := tally.correctCount + counters.correctCount
    passedQuestions := tally.passedQuestions + (decide (0 < counters.correctCount)).toNat
    tokenCount := tally.tokenCount + counters.tokenCount
    truncatedCount := tally.truncatedCount + counters.truncatedCount
    perSample := Dict.set tally.perSample record.questionIndex avg }

def summarizeLength (n questionCount : Nat) (dataset : PyStr) (records : List QuestionResult)
    (limit : Nat) : Except PyError (Nat × LengthSummary) := do
  let tally ← records.foldlM (tallyQuestion n dataset limit) ⟨0, 0, 0, 0, []⟩
  let rolloutCount := questionCount * n
  let avg ← divide tally.correctCount rolloutCount
  let pass ← divide tally.passedQuestions questionCount
  let meanLength ← divide tally.tokenCount rolloutCount
  let truncationRate ← divide tally.truncatedCount rolloutCount
  return (limit, { avg, pass, meanLength, truncationRate, perSample := tally.perSample })

def summarizeDataset (n : Nat) (lengthControl : List Nat)
    (datasetQuestionCounts : List (PyStr × Nat)) (questionResults : List QuestionResult)
    (dataset : PyStr) : Except PyError (PyStr × List (Nat × LengthSummary)) := do
  let records := (questionResults.filter fun record => record.dataset = dataset).insertionSort
    fun a b => a.questionIndex ≤ b.questionIndex
  let questionCount ← lookup datasetQuestionCounts dataset (reprStr dataset)
  let lengths ← lengthControl.mapM (summarizeLength n questionCount dataset records)
  return (dataset, Dict.ofPairs lengths)

def aggregateQuestionResults (questionResults : List QuestionResult)
    (datasetQuestionCounts : List (PyStr × Nat)) (datasetOrder : List PyStr)
    (lengthControl : List Nat) (n : Nat) : Except PyError DatasetSummaries := do
  checkQuestionKeys reprStr (expectedKeys datasetQuestionCounts)
    (questionResults.map QuestionResult.key)
  let summaries ← datasetOrder.mapM
    (summarizeDataset reprStr n lengthControl datasetQuestionCounts questionResults)
  return Dict.ofPairs summaries

/-! ### The validation records -/

/-- A rollout of an evaluated question, with the tokens that ERSR reads. -/
structure ValidationRecord where
  dataset : PyStr
  questionIndex : Nat
  uid : PyStr
  recordIndex : Nat
  answer : PyStr
  correct : Bool
  promptIds : List Int
  responseIds : List Int
deriving DecidableEq

def EvalTask.key (task : EvalTask) : PyStr × Nat := (task.dataset, task.questionIndex)

/-- The records of one question, after the records of the questions before it. -/
def appendRecords (tasksByKey : List ((PyStr × Nat) × EvalTask)) (records : List ValidationRecord)
    (question : QuestionResult) : Except PyError (List ValidationRecord) :=
  match question.rollouts with
  | none => return records
  | some rollouts => do
      let task ← lookup tasksByKey question.key
        (tupleText [reprStr question.dataset, toString question.questionIndex])
      return records ++ rollouts.mapIdx fun rolloutIndex rollout => {
        dataset := question.dataset
        questionIndex := question.questionIndex
        uid := question.dataset ++ [':'] ++ natText question.questionIndex ++ [':'] ++
          natText rolloutIndex
        recordIndex := records.length + rolloutIndex
        answer := task.answer
        correct := rollout.correct
        promptIds := task.promptTokenIds
        responseIds := rollout.responseTokenIds }

def validationRecords (tasks : List EvalTask) (questions : List QuestionResult) :
    Except PyError (List ValidationRecord) :=
  questions.foldlM
    (appendRecords reprStr (Dict.ofPairs (tasks.map fun task => (task.key, task)))) []

end Aggregate

/-! ### `evaluate_model` -/

section EvaluateModel

variable (reprStr : PyStr → String) (config : SamplingConfig) (engine : Engine)
  (collectIds : List PyStr) (datasetQuestionCounts : List (PyStr × Nat)) (tasks : List EvalTask)

def makeBatches (questionsPerBatch : Nat) : Except PyError (List (List EvalTask)) := do
  raiseIf (questionsPerBatch < 1) (valueError "questions_per_batch must be positive.")
  raiseIf (tasks = []) (valueError "Cannot batch an empty task list.")
  return batches questionsPerBatch tasks

def evaluationBatchSize : Nat :=
  min config.questionsPerGpuBatch (max 1 (config.perGpu tasks.length))

/-- The jobs of the pool, for tasks that are not empty. -/
def evaluationJobs : List (List EvalTask) :=
  batches (evaluationBatchSize config tasks) tasks

/-- What is returned for the questions of all messages. -/
def summarizeQuestions (questionResults : List QuestionResult) :
    Except PyError (DatasetSummaries × List ValidationRecord) := do
  let datasets ← aggregateQuestionResults reprStr questionResults datasetQuestionCounts
    config.valDatasets config.lengthControl config.n
  let records ← validationRecords reprStr tasks questionResults
  return (datasets, records)

/-- What `evaluate_model` may return or raise. -/
def EvaluateModel (outcome : Except PyError (DatasetSummaries × List ValidationRecord)) : Prop :=
  match makeBatches tasks (evaluationBatchSize config tasks) with
  | .error error => outcome = .error error
  | .ok jobs => ∃ messages,
      GpuPool.Runs config.toPoolConfig (runEvalBatchJob config engine collectIds) jobs messages ∧
      outcome = summarizeQuestions reprStr config datasetQuestionCounts tasks
        (messages.flatMap Prod.snd)

/-- An evaluation of the questions one after the other. -/
def evaluateModelSequentially : Except PyError (DatasetSummaries × List ValidationRecord) := do
  raiseIf (tasks = []) (valueError "Cannot batch an empty task list.")
  let questionResults ← tasks.mapM (evaluateTask config engine collectIds)
  summarizeQuestions reprStr config datasetQuestionCounts tasks questionResults

/-! ### Order independence -/

theorem questionsPerGpuBatch_pos : 0 < config.questionsPerGpuBatch :=
  Nat.div_pos (Nat.le_of_dvd config.rollouts_pos config.n_dvd) config.n_pos

theorem evaluationBatchSize_pos : 0 < evaluationBatchSize config tasks :=
  lt_min (questionsPerGpuBatch_pos config) (lt_max_of_lt_left Nat.one_pos)

theorem makeBatches_nil (size : Nat) (hsize : 0 < size) :
    makeBatches [] size = .error (valueError "Cannot batch an empty task list.") := by
  unfold makeBatches
  rw [raiseIf_of_not (Nat.not_lt.mpr hsize)]
  rfl

variable {config tasks}

theorem makeBatches_eq (htasks : tasks ≠ []) :
    makeBatches tasks (evaluationBatchSize config tasks) = .ok (evaluationJobs config tasks) := by
  unfold makeBatches
  rw [raiseIf_of_not (Nat.not_lt.mpr (evaluationBatchSize_pos config tasks)), ok_bind,
    raiseIf_of_not htasks]
  rfl

variable {engine collectIds}

/-- The results of the jobs of an evaluation, one job after the other. -/
theorem mapM_evaluateTask {jobs : List (List EvalTask)} {results : List (List QuestionResult)}
    (h : jobs.mapM (runEvalBatchJob config engine collectIds) = .ok results) :
    jobs.flatten.mapM (evaluateTask config engine collectIds) = .ok results.flatten := by
  apply mapM_flatten
  rw [mapM_eq_ok] at h ⊢
  apply h.imp
  intro job result hjob
  unfold runEvalBatchJob at hjob
  rw [raiseIf_bind_eq_ok, raiseIf_bind_eq_ok] at hjob
  exact hjob.2.2

variable {reprStr datasetQuestionCounts}

/-- In every interleaving in which no worker fails, an evaluation returns what evaluating its
    questions in order returns. -/
theorem evaluateModel_iff
    (hok : ∀ job ∈ evaluationJobs config tasks, Returns (runEvalBatchJob config engine collectIds job))
    (outcome : Except PyError (DatasetSummaries × List ValidationRecord)) :
    EvaluateModel reprStr config engine collectIds datasetQuestionCounts tasks outcome ↔
      outcome =
        evaluateModelSequentially reprStr config engine collectIds datasetQuestionCounts tasks := by
  unfold EvaluateModel evaluateModelSequentially
  by_cases htasks : tasks = []
  · rw [htasks, makeBatches_nil _ (evaluationBatchSize_pos config []), raiseIf_bind_of_pos rfl]
  · rw [makeBatches_eq htasks, raiseIf_of_not htasks, ok_bind]
    obtain ⟨results, hresults⟩ := returns_mapM hok
    have hsequential := mapM_evaluateTask hresults
    rw [evaluationJobs, flatten_batches (evaluationBatchSize_pos config tasks)] at hsequential
    rw [hsequential, ok_bind]
    have hflat : ∀ messages, GpuPool.Runs config.toPoolConfig
        (runEvalBatchJob config engine collectIds) (evaluationJobs config tasks) messages →
        messages.flatMap Prod.snd = results.flatten := by
      intro messages hruns
      rw [List.flatMap_def, hruns.eq_sequential hresults]
    constructor
    · rintro ⟨messages, hruns, rfl⟩
      rw [hflat messages hruns]
    · intro houtcome
      obtain ⟨messages, hruns⟩ := GpuPool.exists_runs config.toPoolConfig hok
      exact ⟨messages, hruns, by rw [houtcome, hflat messages hruns]⟩

/-- **Order independence of the GPU pool.**  Whatever the interleaving of its workers, a
    generation phase maps each request id to the output generated for that request, and an
    evaluation returns the summaries and the records of a sequential one. -/
theorem gpuPool_order_independent (reprStr : PyStr → String) (config : SamplingConfig)
    (generate : GenerationRequest → List Int) (requests : List GenerationRequest)
    (engine : Engine) (collectIds : List PyStr) (datasetQuestionCounts : List (PyStr × Nat))
    (tasks : List EvalTask)
    (hgenerate : ∀ job ∈ generationJobs config.toPoolConfig requests,
      Returns (runGenerateJob generate job))
    (hevaluate : ∀ job ∈ evaluationJobs config tasks,
      Returns (runEvalBatchJob config engine collectIds job)) :
    (∀ outputs, RunGenerationPhase config.toPoolConfig generate requests outputs ↔
      outputs = .ok (generationPhase generate requests)) ∧
    ((requests.map GenerationRequest.requestId).Nodup → generationPhase generate requests =
      requests.map fun request => (request.requestId, generate request)) ∧
    ∀ outcome,
      EvaluateModel reprStr config engine collectIds datasetQuestionCounts tasks outcome ↔
        outcome = evaluateModelSequentially reprStr config engine collectIds
          datasetQuestionCounts tasks := by
  refine ⟨?_, generationPhase_eq, evaluateModel_iff hevaluate⟩
  intro outputs
  constructor
  · exact runGenerationPhase_eq hgenerate
  · rintro rfl
    obtain ⟨outputs, hphase⟩ := exists_runGenerationPhase config.toPoolConfig hgenerate
    rwa [runGenerationPhase_eq hgenerate hphase] at hphase

end EvaluateModel

/-! ### Two GPUs -/

def twoGpus : SamplingConfig where
  gpus := [0, 1]
  rolloutsPerGpuBatch := 2
  n := 1
  gpus_ne := by decide
  rollouts_pos := by decide
  n_pos := by decide
  n_dvd := by decide
  valDatasets := ["AMC".toList]
  lengthControl := [1, 3]
  lengthControl_ne := by decide
  ascending := by decide

/-- A language model that repeats its prompt, whose answers are right when they start with
    the expected text. -/
def echoEngine : Engine where
  generate ids := [⟨ids, ids.map fun id => Char.ofNat id.toNat, some "stop"⟩]
  decodePrefix ids := ids.map fun id => Char.ofNat id.toNat
  eosTokenIds := [0]
  padTokenId := none
  verify response answer _ := .ok (answer.isPrefixOf response)

def threeRequests : List GenerationRequest :=
  [⟨[1], 4, 7, 1, 1, 0, "a".toList⟩, ⟨[2], 4, 7, 1, 1, 0, "b".toList⟩,
    ⟨[3], 4, 7, 1, 1, 0, "c".toList⟩]

def twoTasks : List EvalTask :=
  [⟨"AMC".toList, 0, "7".toList, [55, 0, 9]⟩, ⟨"AMC".toList, 1, "78".toList, [55, 56]⟩]

theorem gpuPool_order_independent_two_gpus :
    (∀ outputs, RunGenerationPhase twoGpus.toPoolConfig GenerationRequest.ids threeRequests outputs ↔
      outputs = .ok (generationPhase GenerationRequest.ids threeRequests)) ∧
    ((threeRequests.map GenerationRequest.requestId).Nodup →
      generationPhase GenerationRequest.ids threeRequests =
        threeRequests.map fun request => (request.requestId, request.ids)) ∧
    ∀ outcome,
      EvaluateModel String.ofList twoGpus echoEngine ["AMC".toList] [("AMC".toList, 2)] twoTasks
          outcome ↔
        outcome = evaluateModelSequentially String.ofList twoGpus echoEngine ["AMC".toList]
          [("AMC".toList, 2)] twoTasks :=
  gpuPool_order_independent String.ofList twoGpus GenerationRequest.ids threeRequests echoEngine
    ["AMC".toList] [("AMC".toList, 2)] twoTasks (by decide +kernel) (by decide +kernel)

example :
    (evaluateModelSequentially String.ofList twoGpus echoEngine ["AMC".toList]
        [("AMC".toList, 2)] twoTasks).toOption.map (fun outcome => outcome.2.map fun record =>
          (String.ofList record.uid, record.recordIndex, record.correct, record.responseIds)) =
      some [("AMC:0:0", 0, true, [55, 0]), ("AMC:1:0", 1, true, [55, 56])] := by
  decide +kernel

end R2opl
