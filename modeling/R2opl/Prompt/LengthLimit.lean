import R2opl.Prompt.Templates
import R2opl.Lib.LongestFit

/-!
# Prompts within one token limit

Training renders its validation prompts with `render_length_limited_chat_prompt`
(`utils/custom_dataset.py`), the standalone evaluation with
`_render_length_limited_prompt` (`utils/evaluation.py`).  Both shorten only the question;
the first knows the default template alone.
-/

namespace R2opl

open Checked

/-- The part both renderers have in common.  A limit that not even one character fits is
    left to the generation engine. -/
def limitQuestion (render : PyStr → Except PyError (PyStr × Nat)) (question : PyStr)
    (maxPromptLength : Int) : Except PyError (PyStr × Bool) := do
  let (fullPrompt, fullLength) ← render question
  if (fullLength : Int) ≤ maxPromptLength then return (fullPrompt, false)
  let (firstPrompt, firstLength) ← render (question.take 1)
  if (firstLength : Int) > maxPromptLength then return (fullPrompt, true)
  let bestPrompt ← LongestFit.search (fun middle => do
      let (candidatePrompt, candidateLength) ← render (question.take middle.toNat)
      return (candidatePrompt, decide ((candidateLength : Int) ≤ maxPromptLength)))
    firstPrompt 1 question.length
  return (bestPrompt, true)

section Repr

variable (repr : PyStr → String)

/-- The prompt of a candidate question and its token count. -/
def renderCounted (tokenizer : ChatTokenizer) (modelFamily promptName candidate : PyStr) :
    Except PyError (PyStr × Nat) := do
  let prompt ← renderChatPrompt repr tokenizer candidate modelFamily promptName
  return (prompt, (tokenizer.encode prompt).length)

/-- `render_length_limited_chat_prompt`: the prompt name is not passed on. -/
def renderLengthLimitedChatPrompt (tokenizer : ChatTokenizer) (question modelFamily : PyStr)
    (maxPromptLength : Int) : Except PyError (PyStr × Bool) := do
  raiseIf (maxPromptLength ≤ 0) (valueError "max_prompt_length must be positive")
  limitQuestion (renderCounted repr tokenizer modelFamily defaultPromptName) (strip question)
    maxPromptLength

/-- `_render_length_limited_prompt` -/
def renderLengthLimitedPrompt (tokenizer : ChatTokenizer) (question modelFamily
    promptName : PyStr) (maxPromptLength : Int) : Except PyError (PyStr × Bool) := do
  raiseIf (maxPromptLength ≤ 0) (valueError "max_prompt_length must be positive")
  limitQuestion (renderCounted repr tokenizer modelFamily promptName) question maxPromptLength

/-- The validation branch of `CustomDataset._read_files_and_tokenize`: no teacher
    tokenizer. -/
def validationPrompt (tokenizer : ChatTokenizer) (modelFamily question : PyStr)
    (maxPromptLength : Int) : Except PyError (PyStr × Bool) := do
  let family ← normalizeModelFamily repr modelFamily
  renderLengthLimitedChatPrompt repr tokenizer question family maxPromptLength

/-! ### Families -/

/-- The normal forms are the supported families. -/
theorem normalizeModelFamily_eq_ok {modelFamily family : PyStr}
    (h : normalizeModelFamily repr modelFamily = .ok family) :
    family = "qwen3".toList ∨ family = "gemini4".toList := by
  unfold normalizeModelFamily at h
  dsimp only at h
  split at h
  · exact .inl (Except.ok.inj h).symm
  · split at h
    · exact .inr (Except.ok.inj h).symm
    · cases h

theorem normalizeModelFamily_idem {modelFamily family : PyStr}
    (h : normalizeModelFamily repr modelFamily = .ok family) :
    normalizeModelFamily repr family = .ok family := by
  rcases normalizeModelFamily_eq_ok repr h with rfl | rfl
  · rfl
  · rfl

/-- Rendering only asks whether the family is supported. -/
theorem renderChatPrompt_family {tokenizer : ChatTokenizer} {modelFamily family : PyStr}
    (h : normalizeModelFamily repr modelFamily = .ok family) (question promptName : PyStr) :
    renderChatPrompt repr tokenizer question family promptName =
      renderChatPrompt repr tokenizer question modelFamily promptName := by
  unfold renderChatPrompt
  rw [h, normalizeModelFamily_idem repr h]

end Repr

/-! ### Training and evaluation -/

/-- The two renderers give the same prompt and the same flag. -/
def SamePrompt (repr : PyStr → String) (tokenizer : ChatTokenizer)
    (modelFamily promptName question : PyStr) (maxPromptLength : Int) : Prop :=
  validationPrompt repr tokenizer modelFamily question maxPromptLength =
    renderLengthLimitedPrompt repr tokenizer question modelFamily promptName maxPromptLength

theorem samePrompt_default {repr : PyStr → String} {tokenizer : ChatTokenizer}
    {modelFamily question : PyStr} {maxPromptLength : Int}
    (htemplate : tokenizer.applyChatTemplate.isSome) (hstripped : strip question = question)
    (hlimit : 0 < maxPromptLength) :
    SamePrompt repr tokenizer modelFamily defaultPromptName question maxPromptLength := by
  have hpositive : ¬ maxPromptLength ≤ 0 := by omega
  obtain ⟨applyChatTemplate, happly⟩ := Option.isSome_iff_exists.mp htemplate
  unfold SamePrompt validationPrompt renderLengthLimitedPrompt
  rw [raiseIf_of_not hpositive, ok_bind]
  cases hfamily : normalizeModelFamily repr modelFamily with
  | error e =>
    -- the evaluator meets the same error in its first rendering
    have hrender : renderCounted repr tokenizer modelFamily defaultPromptName question =
        .error e := by
      unfold renderCounted renderChatPrompt
      rw [happly, hfamily]
      rfl
    rw [error_bind, limitQuestion, hrender, error_bind]
  | ok family =>
    have hrender : renderCounted repr tokenizer family defaultPromptName =
        renderCounted repr tokenizer modelFamily defaultPromptName := by
      funext candidate
      unfold renderCounted
      rw [renderChatPrompt_family repr hfamily]
    rw [ok_bind, renderLengthLimitedChatPrompt, raiseIf_of_not hpositive, ok_bind, hrender,
      hstripped]

/-- A tokenizer that shows the task prompt as it is, in one token. -/
def plainTokenizer : ChatTokenizer where
  applyChatTemplate := some fun messages _ => (messages.headD ⟨"user", []⟩).content
  encode := fun _ => [0]

set_option maxRecDepth 4000 in
/-- The two templates differ from their thirty-third character on. -/
theorem explicitStepPrompt_ne_crossDomainPrompt (question : PyStr) :
    explicitStepPrompt question ≠ crossDomainPrompt question := by
  intro h
  have hchar := congrArg (fun text => text[32]?) h
  have hexplicit : (explicitStepPrompt question)[32]? = some 'O' := rfl
  have hcross : (crossDomainPrompt question)[32]? = some 'P' := rfl
  simp only [hexplicit, hcross] at hchar
  cases hchar

theorem buildPromptMessages_eq {repr : PyStr → String} {promptName question : PyStr}
    {template : PyStr → PyStr} (h : promptTemplate promptName = some template)
    (hne : question ≠ []) (hstripped : strip question = question) :
    buildPromptMessages repr question promptName = .ok [⟨"user", template question⟩] := by
  unfold buildPromptMessages validatedQuestion
  rw [h]
  dsimp only
  rw [hstripped, raiseIf_of_not hne]
  rfl

/-- The whole question fits the plain tokenizer's prompt. -/
theorem renderLengthLimitedPrompt_plain {repr : PyStr → String} {promptName : PyStr}
    {template : PyStr → PyStr} (h : promptTemplate promptName = some template) :
    renderLengthLimitedPrompt repr plainTokenizer ['x'] "qwen3".toList promptName 1 =
      .ok (template ['x'], false) := by
  have hrender : renderCounted repr plainTokenizer "qwen3".toList promptName ['x'] =
      .ok (template ['x'], 1) := by
    unfold renderCounted renderChatPrompt
    rw [buildPromptMessages_eq h (List.cons_ne_nil 'x' []) rfl]
    rfl
  rw [renderLengthLimitedPrompt, raiseIf_of_not (by decide), ok_bind, limitQuestion, hrender]
  rfl

theorem promptTemplate_default : promptTemplate defaultPromptName = some explicitStepPrompt := by
  rw [promptTemplate, if_neg (by decide), if_pos (by decide)]

/-- **Prompts.**  For a template name the configuration accepts, training's validation
    prompts are the evaluation's for every tokenizer, question and limit if and only if it
    is the default name. -/
theorem samePrompt_iff {promptName : PyStr} (hname : (promptTemplate promptName).isSome) :
    (∀ (repr : PyStr → String) (tokenizer : ChatTokenizer) (modelFamily question : PyStr)
        (maxPromptLength : Int), tokenizer.applyChatTemplate.isSome →
      strip question = question → 0 < maxPromptLength →
      SamePrompt repr tokenizer modelFamily promptName question maxPromptLength) ↔
    promptName = defaultPromptName := by
  constructor
  · intro hsame
    by_contra hother
    have hcross : promptTemplate promptName = some crossDomainPrompt := by
      unfold promptTemplate at hname ⊢
      by_cases hfirst : promptName = crossDomainPromptName
      · rw [if_pos hfirst]
      · rw [if_neg hfirst, if_neg (show ¬ promptName = explicitStepPromptName from hother)] at hname
        cases hname
    have hprompts := hsame (fun _ => "") plainTokenizer "qwen3".toList ['x'] 1 rfl rfl (by decide)
    have hdefault : SamePrompt (fun _ => "") plainTokenizer "qwen3".toList defaultPromptName
        ['x'] 1 := samePrompt_default rfl rfl (by decide)
    unfold SamePrompt at hprompts hdefault
    rw [hdefault, renderLengthLimitedPrompt_plain hcross,
      renderLengthLimitedPrompt_plain promptTemplate_default] at hprompts
    obtain ⟨hprompt, _⟩ := Prod.mk.inj (Except.ok.inj hprompts)
    exact explicitStepPrompt_ne_crossDomainPrompt ['x'] hprompt
  · rintro rfl repr tokenizer modelFamily question maxPromptLength htemplate hstripped hlimit
    exact samePrompt_default htemplate hstripped hlimit

/-- The same with one token for each character. -/
def letterTokenizer : ChatTokenizer :=
  { plainTokenizer with encode := List.map fun c => c.toNat }

theorem renderCounted_letter {repr : PyStr → String} {candidate : PyStr} (hne : candidate ≠ [])
    (hstripped : strip candidate = candidate) :
    renderCounted repr letterTokenizer "qwen3".toList explicitStepPromptName candidate =
      .ok (explicitStepPrompt candidate, (explicitStepPrompt candidate).length) := by
  have hencode : ∀ prompt, (letterTokenizer.encode prompt).length = prompt.length :=
    fun prompt => List.length_map _
  have hprompt : renderChatPrompt repr letterTokenizer candidate "qwen3".toList
      explicitStepPromptName = .ok (explicitStepPrompt candidate) := by
    unfold renderChatPrompt
    rw [show buildPromptMessages repr candidate explicitStepPromptName = _ from
      buildPromptMessages_eq promptTemplate_default hne hstripped]
    rfl
  unfold renderCounted
  rw [hprompt, ok_bind, hencode]
  rfl

theorem explicitStepPrompt_length : ∃ template : Nat, ∀ question : PyStr,
    (explicitStepPrompt question).length = template + question.length := by
  refine ⟨(explicitStepPrompt []).length, fun question => ?_⟩
  unfold explicitStepPrompt
  rw [List.length_append, List.append_nil]

/-- Of three letters the search keeps the two that fit. -/
theorem renderLengthLimitedPrompt_letter (repr : PyStr → String) :
    renderLengthLimitedPrompt repr letterTokenizer ['a', 'b', 'c'] "qwen3".toList
        explicitStepPromptName (explicitStepPrompt ['a', 'b']).length =
      .ok (explicitStepPrompt ['a', 'b'], true) := by
  obtain ⟨template, hlength⟩ := explicitStepPrompt_length
  have hrender : ∀ k : Int, 1 ≤ k → k ≤ 3 →
      renderCounted repr letterTokenizer "qwen3".toList explicitStepPromptName
          (List.take k.toNat ['a', 'b', 'c']) =
        .ok (explicitStepPrompt (List.take k.toNat ['a', 'b', 'c']), template + k.toNat) := by
    intro k hlow hhigh
    have hsize : (List.take k.toNat ['a', 'b', 'c']).length = k.toNat := by
      rw [List.length_take]
      exact Nat.min_eq_left (show k.toNat ≤ 3 by omega)
    have hstripped : strip (List.take k.toNat ['a', 'b', 'c']) =
        List.take k.toNat ['a', 'b', 'c'] := by
      obtain rfl | rfl | rfl : k = 1 ∨ k = 2 ∨ k = 3 := by omega
      · rfl
      · rfl
      · rfl
    have hne : List.take k.toNat ['a', 'b', 'c'] ≠ [] := by
      rw [← List.length_pos_iff, hsize]
      omega
    rw [renderCounted_letter hne hstripped, hlength, hsize]
  have hattempt : ∀ k : Int, 1 ≤ k → k ≤ 3 →
      (do
        let (candidatePrompt, candidateLength) ← renderCounted repr letterTokenizer
          "qwen3".toList explicitStepPromptName (List.take k.toNat ['a', 'b', 'c'])
        return (candidatePrompt, decide ((candidateLength : Int) ≤ (template + 2 : Nat))) :
          Except PyError (PyStr × Bool)) =
        .ok (explicitStepPrompt (List.take k.toNat ['a', 'b', 'c']), decide (k ≤ 2)) := by
    intro k hlow hhigh
    have hfits : ((template + k.toNat : Nat) : Int) ≤ (template + 2 : Nat) ↔ k ≤ 2 := by omega
    rw [hrender k hlow hhigh, ok_bind]
    simp only [hfits]
    rfl
  obtain ⟨k, hsearch, hk, hone, _, hgreatest⟩ :=
    LongestFit.search_spec hattempt (decide_eq_true (by decide)) (le_refl 1)
  obtain rfl : k = 2 := by
    have hle := of_decide_eq_true hk
    have hge := hgreatest (fun shorter longer _ hlonger _ hfit =>
      decide_eq_true (hlonger.trans (of_decide_eq_true hfit))) 2 (by decide) (by decide) rfl
    omega
  have hfull : renderCounted repr letterTokenizer "qwen3".toList explicitStepPromptName
      ['a', 'b', 'c'] = _ := hrender 3 (by decide) (by decide)
  have hfirst : renderCounted repr letterTokenizer "qwen3".toList explicitStepPromptName
      (List.take 1 ['a', 'b', 'c']) = _ := hrender 1 (by decide) (by decide)
  have hlimit : (explicitStepPrompt ['a', 'b']).length = template + 2 := hlength ['a', 'b']
  rw [hlimit, renderLengthLimitedPrompt, raiseIf_of_not (by omega), ok_bind, limitQuestion, hfull,
    ok_bind]
  dsimp only
  rw [if_neg (by omega), hfirst, ok_bind]
  dsimp only
  rw [if_neg (by omega)]
  exact congrArg (· >>= fun best => Except.ok (best, true)) hsearch

/-- A limit that cuts the question. -/
theorem samePrompt_iff_explicit_step :
    SamePrompt (fun _ => "") letterTokenizer "qwen3".toList explicitStepPromptName
        ['a', 'b', 'c'] (explicitStepPrompt ['a', 'b']).length ∧
      renderLengthLimitedPrompt (fun _ => "") letterTokenizer ['a', 'b', 'c'] "qwen3".toList
          explicitStepPromptName (explicitStepPrompt ['a', 'b']).length =
        .ok (explicitStepPrompt ['a', 'b'], true) :=
  ⟨(@samePrompt_iff explicitStepPromptName rfl).mpr rfl (fun _ => "") letterTokenizer
    "qwen3".toList ['a', 'b', 'c'] _ rfl rfl (by
      obtain ⟨template, hlength⟩ := explicitStepPrompt_length
      rw [hlength, List.length_cons]
      omega),
    renderLengthLimitedPrompt_letter _⟩

/-- With the cross-domain template the two prompts differ. -/
theorem not_samePrompt_cross_domain :
    (promptTemplate crossDomainPromptName).isSome ∧
      ¬ SamePrompt (fun _ => "") plainTokenizer "qwen3".toList crossDomainPromptName ['x'] 1 := by
  refine ⟨rfl, fun hprompts => ?_⟩
  have hdefault : SamePrompt (fun _ => "") plainTokenizer "qwen3".toList defaultPromptName
      ['x'] 1 := samePrompt_default rfl rfl (by decide)
  unfold SamePrompt at hprompts hdefault
  have hcross : promptTemplate crossDomainPromptName = some crossDomainPrompt := if_pos rfl
  rw [hdefault, renderLengthLimitedPrompt_plain hcross,
    renderLengthLimitedPrompt_plain promptTemplate_default] at hprompts
  obtain ⟨hprompt, _⟩ := Prod.mk.inj (Except.ok.inj hprompts)
  exact explicitStepPrompt_ne_crossDomainPrompt ['x'] hprompt

end R2opl
