import R2opl.Python

/-!
# Task prompts

`utils/prompts.py`: two task templates, each a fixed text that ends in the question,
rendered through the chat template of the model's own tokenizer.
-/

namespace R2opl

open Checked

/-! ### Templates -/

def answerFormat : PyStr :=
  ("For a multiple-choice problem, put the option label (for example, `\\boxed\x7bB\x7d`) in the box rather than the option text. For a non-multiple-choice problem, put the final answer itself in the box.\n\n" ++
    "### Problem\n").toList

/-- `CROSS_DOMAIN_PROMPT.format(question=question)`. -/
def crossDomainPrompt (question : PyStr) : PyStr :=
  "Solve the problem step by step. Put the final answer in `\\boxed\x7b...\x7d`.\n\n".toList ++
    answerFormat ++ question

/-- `EXPLICIT_STEP_PROMPT.format(question=question)`. -/
def explicitStepPrompt (question : PyStr) : PyStr :=
  "Solve the problem step by step. Organize the reasoning with headings `### Step 1`, `### Step 2`, and so on. Put the final answer in `\\boxed\x7b...\x7d`.\n\n".toList ++
    answerFormat ++ question

def crossDomainPromptName : PyStr := "cross_domain_prompt".toList

def explicitStepPromptName : PyStr := "explicit_step_prompt".toList

/-- `PROMPT_NAME`, the project-wide default. -/
def defaultPromptName : PyStr := explicitStepPromptName

/-- `PROMPT_TEMPLATES.get(prompt_name)`. -/
def promptTemplate (promptName : PyStr) : Option (PyStr → PyStr) :=
  if promptName = crossDomainPromptName then some crossDomainPrompt
  else if promptName = explicitStepPromptName then some explicitStepPrompt
  else none

/-! ### Chat prompts -/

structure ChatMessage where
  role : String
  content : PyStr
deriving DecidableEq, Repr

/-- The keyword arguments of `apply_chat_template`; the callers never tokenize. -/
structure TemplateOptions where
  tokenize : Bool
  addGenerationPrompt : Bool
  enableThinking : Bool
deriving DecidableEq, Repr

/-- What rendering uses of a tokenizer: `apply_chat_template`, if it has one, and
    `encode` without special tokens. -/
structure ChatTokenizer where
  applyChatTemplate : Option (List ChatMessage → TemplateOptions → PyStr)
  encode : PyStr → List Int

def validatedQuestion (question : PyStr) : Except PyError PyStr := do
  let question := strip question
  raiseIf (question = []) (valueError "The reasoning prompt requires a non-empty question.")
  return question

/-- `needle in text`. -/
def occursIn (needle text : PyStr) : Bool := (findFrom needle text 0).isSome

section Repr

-- the `repr` of a string, for error texts
variable (repr : PyStr → String)

def buildPromptMessages (question promptName : PyStr) : Except PyError (List ChatMessage) := do
  match promptTemplate promptName with
  | none => .error (valueError
      s!"Unknown prompt {repr promptName}; expected one of: cross_domain_prompt, explicit_step_prompt.")
  | some template =>
      let question ← validatedQuestion question
      return [⟨"user", template question⟩]

/-- Only ASCII letters have a lower case that occurs in a family name. -/
def normalizeModelFamily (modelFamily : PyStr) : Except PyError PyStr :=
  let normalized := (strip modelFamily).map Char.toLower
  if occursIn "qwen3".toList normalized then .ok "qwen3".toList
  else if ["gemini4", "gemini-4", "gemma4", "gemma-4", "gemma"].any fun family =>
      occursIn family.toList normalized then .ok "gemini4".toList
  else .error (valueError
    s!"Unsupported model family {repr modelFamily}; expected one of: qwen3, gemini4.")

/-- `render_chat_prompt` with its default `tokenize=False, add_generation_prompt=True`. -/
def renderChatPrompt (tokenizer : ChatTokenizer) (question modelFamily promptName : PyStr) :
    Except PyError PyStr := do
  match tokenizer.applyChatTemplate with
  | none => .error ⟨.typeError, "The tokenizer must provide apply_chat_template()."⟩
  | some applyChatTemplate =>
      let _ ← normalizeModelFamily repr modelFamily
      let messages ← buildPromptMessages repr question promptName
      return applyChatTemplate messages ⟨false, true, false⟩

end Repr

/-! ### What rendering depends on -/

theorem validatedQuestion_of_ne {question : PyStr} (h : strip question ≠ []) :
    validatedQuestion question = .ok (strip question) := by
  rw [validatedQuestion, raiseIf_of_not h]
  rfl

/-- Whether a chat prompt can be rendered for questions at all. -/
def CanRender (repr : PyStr → String) (tokenizer : ChatTokenizer)
    (modelFamily promptName : PyStr) : Prop :=
  tokenizer.applyChatTemplate.isSome ∧ Returns (normalizeModelFamily repr modelFamily) ∧
    (promptTemplate promptName).isSome

/-- A question that is not blank is rendered unless the tokenizer, the family or the
    template name is at fault. -/
theorem renderChatPrompt_returns_iff {repr : PyStr → String} {tokenizer : ChatTokenizer}
    {question modelFamily promptName : PyStr} (h : strip question ≠ []) :
    Returns (renderChatPrompt repr tokenizer question modelFamily promptName) ↔
      CanRender repr tokenizer modelFamily promptName := by
  unfold renderChatPrompt CanRender
  cases tokenizer.applyChatTemplate with
  | none => simp
  | some applyChatTemplate =>
    simp only [returns_bind, Option.isSome_some, true_and]
    cases hfamily : normalizeModelFamily repr modelFamily with
    | error e => simp
    | ok family =>
      cases htemplate : promptTemplate promptName with
      | none => simp [buildPromptMessages, htemplate]
      | some template =>
        simp only [buildPromptMessages, htemplate, validatedQuestion_of_ne h]
        simp [Returns]

end R2opl
