import R2opl.Ersr.Cases

/-!
# ERSR in training

`evaluate_ersr_case` (`utils/ersr.py`): one case after the other, a teacher's replacement
first where the action asks for one, then the values of both arms by Monte Carlo
continuations of the student.
-/

namespace R2opl

open Checked

/-! ### Results -/

/-- A generator of continuations, from prompt ids, token budget and seed. -/
abbrev GenerateTokens := List Int → Int → Int → List Int

/-- The values of a valid result. -/
structure ErsrValues where
  baselineValue : ℚ
  actionValue : ℚ
  advantage : ℚ
  mcK : Nat
  baselineEmptyContinuations : Nat
  actionEmptyContinuations : Nat
  replacementNumTokens : Option Nat
deriving DecidableEq

inductive ErsrOutcome where
  | valid (values : ErsrValues)
  | skipped (skipReason : String) (error : Option String)
deriving DecidableEq

structure ErsrResult where
  caseId : PyStr
  dataset : PyStr
  actionType : ActionType
  outcome : ErsrOutcome
deriving DecidableEq

def ErsrCase.result (c : ErsrCase) (outcome : ErsrOutcome) : ErsrResult where
  caseId := c.caseId
  dataset := c.dataset
  actionType := c.actionType
  outcome

def ErsrCase.before (c : ErsrCase) : List Int := c.responseIds.take c.stepTokenStart

/-! ### Grading -/

/-- The verifiers of `utils/answer_verifier.py`. -/
structure Verifier where
  verifyResponseAnswer : PyStr → PyStr → Except PyError Bool
  verifyScibenchResponseAnswer : PyStr → PyStr → Except PyError Bool

/-- The case folding of `c` is `letter`, a lower case letter of `scibench`; besides its two
    cases only the long s folds to one of them. -/
def foldsTo (letter c : Char) : Bool :=
  c = letter || c = letter.toUpper || (letter = 's' && c.toNat = 383)

/-- `str(data_source).strip().casefold() == "scibench"`. -/
def isScibench (dataSource : PyStr) : Bool :=
  (strip dataSource).length = 8 && (List.zipWith foldsTo "scibench".toList (strip dataSource)).all id

def Verifier.verifyDatasetResponseAnswer (verifier : Verifier) (response answer dataSource : PyStr) :
    Except PyError Bool :=
  if isScibench dataSource then verifier.verifyScibenchResponseAnswer response answer
  else verifier.verifyResponseAnswer response answer

/-- `float(correct)`. -/
def rewardValue (correct : Bool) : ℚ := if correct then 1 else 0

def rewardForContinuation (verifier : Verifier) (tokenizer : Tokenizer)
    (responsePrefixIds continuationIds : List Int) (answer : PyStr) (dataSource : Option PyStr) :
    Except PyError ℚ := do
  let response := tokenizer.decode (responsePrefixIds ++ continuationIds) true
  match dataSource with
  | some dataSource =>
      return rewardValue (← verifier.verifyDatasetResponseAnswer response answer dataSource)
  | none => return rewardValue (← verifier.verifyResponseAnswer response answer)

/-! ### One case -/

def firstReplacementStepIds (detectors : Detectors) (proposalIds : List Int)
    (tokenizer : Tokenizer) : Except PyError (List Int) := do
  let (_, steps) ← splitRolloutSteps detectors proposalIds tokenizer true
  match steps with
  | [] => return []
  | step :: _ => return proposalIds.take step.tokenEnd

section Case

variable (detectors : Detectors) (verifier : Verifier) (tokenizer : Tokenizer)
  (settings : ErsrSettings) (studentGenerate : GenerateTokens)

/-- One sample of `_estimate_value`, with whether its continuation is empty. -/
def sampleValue (c : ErsrCase) (responsePrefixIds : List Int) (armOffset : Int)
    (sampleIndex : Nat) : Except PyError (ℚ × Nat) := do
  let remaining := settings.maxResponseTokens - responsePrefixIds.length
  let continuationIds :=
    if remaining ≤ 0 then []
    else studentGenerate (c.promptIds ++ responsePrefixIds) remaining
      (c.seed + armOffset + sampleIndex)
  let reward ← rewardForContinuation verifier tokenizer responsePrefixIds continuationIds
    c.answer none
  return (reward, (decide (continuationIds.length = 0)).toNat)

/-- `_estimate_value`. -/
def estimateValue (c : ErsrCase) (responsePrefixIds : List Int) (armOffset : Int) :
    Except PyError (ℚ × Nat) := do
  let samples ← (List.range settings.mcK).mapM
    (sampleValue verifier tokenizer settings studentGenerate c responsePrefixIds armOffset)
  return ((samples.map Prod.fst).sum / settings.mcK, (samples.map Prod.snd).sum)

/-- Both arms of a case, once its action is fixed. -/
def estimateAdvantage (c : ErsrCase) (actionPrefix : List Int) (replacement : Option (List Int)) :
    Except PyError ErsrResult := do
  let (baselineValue, baselineEmpty) ←
    estimateValue verifier tokenizer settings studentGenerate c c.before 0
  let (actionValue, actionEmpty) ←
    estimateValue verifier tokenizer settings studentGenerate c actionPrefix 1000
  return c.result (.valid {
    baselineValue
    actionValue
    advantage := actionValue - baselineValue
    mcK := settings.mcK
    baselineEmptyContinuations := baselineEmpty
    actionEmptyContinuations := actionEmpty
    replacementNumTokens := replacement.map List.length })

/-- `min(max_teacher_step_tokens, max_response_tokens - len(before))`. -/
def teacherBudget (c : ErsrCase) : Int :=
  min settings.maxTeacherStepTokens (settings.maxResponseTokens - c.before.length)

def evaluateErsrCase (teacherGenerate : Option GenerateTokens) (c : ErsrCase) :
    Except PyError ErsrResult := do
  raiseIf (¬ (c.stepTokenStart < c.stepTokenEnd ∧ c.stepTokenEnd ≤ c.responseIds.length))
    (valueError (s!"Invalid ERSR step token span [{c.stepTokenStart}, {c.stepTokenEnd}) " ++
      s!"for response length {c.responseIds.length}"))
  match c.actionType with
  | .studentAction =>
      estimateAdvantage verifier tokenizer settings studentGenerate c
        (c.responseIds.take c.stepTokenEnd) none
  | .teacherReplace =>
      match teacherGenerate with
      | none => .error (valueError "Teacher-replacement ERSR requires teacher_generate")
      | some teacherGenerate =>
          if teacherBudget settings c ≤ 0 then return c.result (.skipped "no_teacher_budget" none)
          else do
            let proposalIds := teacherGenerate (c.promptIds ++ c.before) (teacherBudget settings c)
              (c.seed + 5000)
            let replacementIds ← firstReplacementStepIds detectors proposalIds tokenizer
            if replacementIds = [] then
              return c.result (.skipped "empty_teacher_replacement" none)
            else
              estimateAdvantage verifier tokenizer settings studentGenerate c
                (c.before ++ replacementIds) (some replacementIds)

end Case

end R2opl
