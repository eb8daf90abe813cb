import R2opl.Prompt.Templates
import R2opl.Lib.LongestFit

/-!
# Prompt pairs for distillation

`render_distillation_prompt_pair` (`utils/custom_dataset.py`): the student's and the
teacher's native prompts are rendered around one prefix of the question, the longest one
that a binary search finds within both token limits.
-/

namespace R2opl

open Checked

/-- What a candidate question renders to. -/
structure PromptPair where
  studentText : PyStr
  teacherText : PyStr
  teacherIds : List Int
deriving DecidableEq, Repr

/-- The arguments that do not change during the search. -/
structure PairRenderer where
  studentTokenizer : ChatTokenizer
  teacherTokenizer : ChatTokenizer
  studentFamily : PyStr
  teacherFamily : PyStr
  studentLimit : Int
  teacherLimit : Int
  promptName : PyStr
  repr : PyStr → String

namespace PairRenderer

variable (renderer : PairRenderer)

/-- The inner `render`: the prompts of a candidate and whether they fit. -/
def render (candidate : PyStr) : Except PyError (PromptPair × Bool) := do
  let studentText ← renderChatPrompt renderer.repr renderer.studentTokenizer candidate
    renderer.studentFamily renderer.promptName
  let teacherText ← renderChatPrompt renderer.repr renderer.teacherTokenizer candidate
    renderer.teacherFamily renderer.promptName
  let studentIds := renderer.studentTokenizer.encode studentText
  let teacherIds := renderer.teacherTokenizer.encode teacherText
  let fits := decide ((studentIds.length : Int) ≤ renderer.studentLimit ∧
    (teacherIds.length : Int) ≤ renderer.teacherLimit)
  return (⟨studentText, teacherText, teacherIds⟩, fits)

end PairRenderer

/-- `render_distillation_prompt_pair` -/
def renderDistillationPromptPair (renderer : PairRenderer) (question : PyStr) :
    Except PyError (PromptPair × Bool) := do
  raiseIf (min renderer.studentLimit renderer.teacherLimit ≤ 0)
    (valueError "Student and Teacher prompt limits must be positive")
  let question := strip question
  let (full, fits) ← renderer.render question
  if fits then return (full, false)
  let (best, fits) ← renderer.render (question.take 1)
  raiseIf (fits = false) (valueError
    ("PG-OPD prompt budget cannot fit both native chat templates and one " ++
      "question character; increase the Student/Teacher prompt limits."))
  let best ← LongestFit.search (fun middle => renderer.render (question.take middle.toNat))
    best 1 question.length
  return (best, true)

/-! ### Candidates -/

namespace PairRenderer

variable (renderer : PairRenderer)

/-- Both prompts of a candidate, rendered by the native templates. -/
structure Renders (candidate : PyStr) (pair : PromptPair) : Prop where
  student : renderChatPrompt renderer.repr renderer.studentTokenizer candidate
    renderer.studentFamily renderer.promptName = .ok pair.studentText
  teacher : renderChatPrompt renderer.repr renderer.teacherTokenizer candidate
    renderer.teacherFamily renderer.promptName = .ok pair.teacherText
  ids : pair.teacherIds = renderer.teacherTokenizer.encode pair.teacherText

/-- Both prompts are within their limits. -/
def WithinLimits (pair : PromptPair) : Prop :=
  ((renderer.studentTokenizer.encode pair.studentText).length : Int) ≤ renderer.studentLimit ∧
    (pair.teacherIds.length : Int) ≤ renderer.teacherLimit

instance (pair : PromptPair) : Decidable (renderer.WithinLimits pair) :=
  inferInstanceAs (Decidable (_ ∧ _))

/-- The candidate renders to prompts within both limits. -/
def Fits (candidate : PyStr) : Prop :=
  ∃ pair, renderer.Renders candidate pair ∧ renderer.WithinLimits pair

/-- Both token counts do not decrease along the prefixes of the question. -/
def MonotoneCounts (question : PyStr) : Prop :=
  ∀ shorter longer, 1 ≤ shorter → shorter ≤ longer → longer ≤ question.length →
    ∀ pair other, renderer.Renders (question.take shorter) pair →
      renderer.Renders (question.take longer) other →
        (renderer.studentTokenizer.encode pair.studentText).length ≤
            (renderer.studentTokenizer.encode other.studentText).length ∧
          pair.teacherIds.length ≤ other.teacherIds.length

variable {renderer}

theorem render_eq_ok {candidate : PyStr} {pair : PromptPair} {fits : Bool} :
    renderer.render candidate = .ok (pair, fits) ↔
      renderer.Renders candidate pair ∧ fits = decide (renderer.WithinLimits pair) := by
  unfold render
  simp only [bind_eq_ok, pure_eq_ok, Except.ok.injEq, Prod.mk.injEq]
  constructor
  · rintro ⟨studentText, hstudent, teacherText, hteacher, rfl, rfl⟩
    exact ⟨⟨hstudent, hteacher, rfl⟩, rfl⟩
  · rintro ⟨⟨hstudent, hteacher, hids⟩, rfl⟩
    refine ⟨pair.studentText, hstudent, pair.teacherText, hteacher, ?_, ?_⟩
    · rw [← hids]
    · rw [← hids]
      rfl

theorem Renders.unique {candidate : PyStr} {pair other : PromptPair}
    (h : renderer.Renders candidate pair) (h' : renderer.Renders candidate other) :
    pair = other := by
  have hrender := (render_eq_ok.mpr ⟨h, rfl⟩).symm.trans (render_eq_ok.mpr ⟨h', rfl⟩)
  exact congrArg Prod.fst (Except.ok.inj hrender)

/-- Both prompts can be rendered for questions at all. -/
def CanRender (renderer : PairRenderer) : Prop :=
  R2opl.CanRender renderer.repr renderer.studentTokenizer renderer.studentFamily
      renderer.promptName ∧
    R2opl.CanRender renderer.repr renderer.teacherTokenizer renderer.teacherFamily
      renderer.promptName

/-- Whether a candidate that is not blank is rendered does not depend on the candidate. -/
theorem exists_renders_iff {candidate : PyStr} (h : strip candidate ≠ []) :
    (∃ pair, renderer.Renders candidate pair) ↔ renderer.CanRender := by
  unfold CanRender
  rw [← renderChatPrompt_returns_iff h, ← renderChatPrompt_returns_iff h]
  constructor
  · rintro ⟨pair, hstudent, hteacher, _⟩
    exact ⟨⟨_, hstudent⟩, ⟨_, hteacher⟩⟩
  · rintro ⟨⟨studentText, hstudent⟩, teacherText, hteacher⟩
    exact ⟨⟨studentText, teacherText, renderer.teacherTokenizer.encode teacherText⟩, hstudent,
      hteacher, rfl⟩

theorem render_error {candidate : PyStr} (h : strip candidate ≠ [])
    (hcan : ¬ renderer.CanRender) : ¬ Returns (renderer.render candidate) := by
  rintro ⟨⟨pair, fits⟩, hrender⟩
  exact hcan ((exists_renders_iff h).mp ⟨pair, (render_eq_ok.mp hrender).1⟩)

end PairRenderer

/-! ### The pair that is returned -/

/-- What the pair is, given the question without surrounding space. -/
structure PairRenderer.Chosen (renderer : PairRenderer) (question : PyStr) (pair : PromptPair)
    (truncated : Bool) (k : Nat) : Prop where
  one_le : 1 ≤ k
  le_length : k ≤ question.length
  renders : renderer.Renders (question.take k) pair
  withinLimits : renderer.WithinLimits pair
  truncated_eq : truncated = decide (k < question.length)
  longest : renderer.MonotoneCounts question → ∀ longer, 1 ≤ longer →
    longer ≤ question.length → renderer.Fits (question.take longer) → longer ≤ k

section Search

variable {renderer : PairRenderer} {question : PyStr}

/-- Under monotone token counts the prefixes that fit are closed downwards. -/
theorem downwardClosed_of_monotone {candidate : Int → PromptPair}
    (hcandidate : ∀ k : Int, 1 ≤ k → renderer.Renders (question.take k.toNat) (candidate k))
    (hmonotone : renderer.MonotoneCounts question) :
    LongestFit.DownwardClosed (fun k => decide (renderer.WithinLimits (candidate k))) 1
      question.length := by
  intro shorter longer hone hle hlength hfits
  obtain ⟨hstudent, hteacher⟩ := of_decide_eq_true hfits
  obtain ⟨hstudentLe, hteacherLe⟩ := hmonotone shorter.toNat longer.toNat (by omega) (by omega)
    (by omega) _ _ (hcandidate shorter hone) (hcandidate longer (by omega))
  apply decide_eq_true
  exact ⟨by omega, by omega⟩

/-- If the whole question does not fit and its first character does, the search chooses
    a proper prefix. -/
theorem search_chosen (hquestion : question ≠ [])
    {candidate : Int → PromptPair}
    (hcandidate : ∀ k : Int, 1 ≤ k → renderer.Renders (question.take k.toNat) (candidate k))
    (hwhole : ¬ renderer.Fits question) (hfirst : renderer.WithinLimits (candidate 1)) :
    ∃ pair k, LongestFit.search (fun middle => renderer.render (question.take middle.toNat))
        (candidate 1) 1 question.length = .ok pair ∧
      renderer.Chosen question pair true k := by
  have hlength : 1 ≤ question.length := List.length_pos_iff.mpr hquestion
  have hattempt : ∀ k : Int, 1 ≤ k → k ≤ question.length →
      renderer.render (question.take k.toNat) =
        .ok (candidate k, decide (renderer.WithinLimits (candidate k))) :=
    fun k hk _ => PairRenderer.render_eq_ok.mpr ⟨hcandidate k hk, rfl⟩
  obtain ⟨k, hsearch, hfits, hone, hbound, hgreatest⟩ :=
    LongestFit.search_spec hattempt (decide_eq_true hfirst) (le_refl 1)
  have hwithin := of_decide_eq_true hfits
  have hle : k.toNat ≤ question.length := by omega
  refine ⟨candidate k, k.toNat, hsearch, by omega, hle, hcandidate k hone, hwithin, ?_, ?_⟩
  · -- the whole question does not fit, so the prefix is a proper one
    apply Eq.symm
    apply decide_eq_true
    apply lt_of_le_of_ne hle
    intro hall
    have hrenders := hcandidate k hone
    rw [hall, List.take_length] at hrenders
    exact hwhole ⟨_, hrenders, hwithin⟩
  · rintro hmonotone longer hlonger hlengthLe ⟨pair, hrenders, hpair⟩
    have hsame : pair = candidate longer :=
      hrenders.unique (hcandidate longer (by omega))
    have hgreater := hgreatest (downwardClosed_of_monotone hcandidate hmonotone) longer
      (by omega) (by omega) (decide_eq_true (hsame ▸ hpair))
    omega

end Search

/-- Without a rendering nothing fits and the first rendering fails. -/
theorem not_canRender_fails {renderer : PairRenderer} {question : PyStr}
    (hcan : ¬ renderer.CanRender) (hquestion : strip question ≠ [])
    (hstudent : 0 < renderer.studentLimit) (hteacher : 0 < renderer.teacherLimit) :
    ¬ Returns (renderDistillationPromptPair renderer question) ∧
      ∀ candidate, strip candidate ≠ [] → ¬ renderer.Fits candidate := by
  have hblank : strip (strip question) ≠ [] := by
    rw [strip_strip]
    exact hquestion
  constructor
  · unfold renderDistillationPromptPair
    rw [raiseIf_of_not (by omega), ok_bind, returns_bind]
    rintro ⟨result, hrender, _⟩
    exact PairRenderer.render_error hblank hcan ⟨result, hrender⟩
  · rintro candidate hne ⟨pair, hrenders, _⟩
    exact hcan ((PairRenderer.exists_renders_iff hne).mp ⟨pair, hrenders⟩)

/-- The pair is chosen as it should be, or neither candidate that decides fits. -/
theorem renderDistillationPromptPair_cases (renderer : PairRenderer) {question : PyStr}
    (hquestion : strip question ≠ []) (hstudent : 0 < renderer.studentLimit)
    (hteacher : 0 < renderer.teacherLimit) :
    (∃ pair truncated k, renderDistillationPromptPair renderer question = .ok (pair, truncated) ∧
      renderer.Chosen (strip question) pair truncated k ∧
      (renderer.Fits (strip question) ∨ renderer.Fits ((strip question).take 1))) ∨
    (¬ Returns (renderDistillationPromptPair renderer question) ∧
      ¬ renderer.Fits (strip question) ∧ ¬ renderer.Fits ((strip question).take 1)) := by
  have hlimits : ¬ min renderer.studentLimit renderer.teacherLimit ≤ 0 := by omega
  have hlength : 1 ≤ (strip question).length := List.length_pos_iff.mpr hquestion
  have hblank : strip (strip question) ≠ [] := by
    rw [strip_strip]
    exact hquestion
  by_cases hcan : renderer.CanRender
  · -- every prefix has its prompts
    have hpre : ∀ k : Int, ∃ pair, 1 ≤ k →
        renderer.Renders ((strip question).take k.toNat) pair := by
      intro k
      by_cases hk : 1 ≤ k
      · obtain ⟨pair, hpair⟩ := (PairRenderer.exists_renders_iff
          (strip_take_ne_nil hquestion (k := k.toNat) (by omega))).mpr hcan
        exact ⟨pair, fun _ => hpair⟩
      · exact ⟨⟨[], [], []⟩, fun hone => absurd hone hk⟩
    obtain ⟨candidate, hcandidate⟩ := Classical.axiomOfChoice hpre
    obtain ⟨full, hfull⟩ := (PairRenderer.exists_renders_iff hblank).mpr hcan
    have hfirst : renderer.Renders ((strip question).take 1) (candidate 1) :=
      hcandidate 1 (le_refl 1)
    have hrun : renderDistillationPromptPair renderer question =
        if renderer.WithinLimits full then .ok (full, false)
        else do
          raiseIf (decide (renderer.WithinLimits (candidate 1)) = false) (valueError
            ("PG-OPD prompt budget cannot fit both native chat templates and one " ++
              "question character; increase the Student/Teacher prompt limits."))
          let best ← LongestFit.search
            (fun middle => renderer.render ((strip question).take middle.toNat))
            (candidate 1) 1 (strip question).length
          return (best, true) := by
      simp only [renderDistillationPromptPair, raiseIf_of_not hlimits, ok_bind,
        PairRenderer.render_eq_ok.mpr ⟨hfull, rfl⟩, decide_eq_true_eq,
        PairRenderer.render_eq_ok.mpr ⟨hfirst, rfl⟩]
      rfl
    by_cases hfits : renderer.WithinLimits full
    · rw [if_pos hfits] at hrun
      refine .inl ⟨full, false, (strip question).length, hrun, ?_, .inl ⟨full, hfull, hfits⟩⟩
      refine ⟨hlength, le_refl _, ?_, hfits, ?_, ?_⟩
      · rw [List.take_length]
        exact hfull
      · rw [decide_eq_false (lt_irrefl _)]
      · exact fun _ longer _ hlonger _ => hlonger
    · rw [if_neg hfits] at hrun
      have hwhole : ¬ renderer.Fits (strip question) := by
        rintro ⟨pair, hrenders, hpair⟩
        exact hfits (hrenders.unique hfull ▸ hpair)
      by_cases hone : renderer.WithinLimits (candidate 1)
      · obtain ⟨pair, k, hsearch, hchosen⟩ := search_chosen hquestion hcandidate hwhole hone
        rw [decide_eq_true hone, raiseIf_of_not Bool.true_eq_false_eq_False, ok_bind, hsearch,
          ok_bind] at hrun
        exact .inl ⟨pair, true, k, hrun, hchosen, .inr ⟨_, hfirst, hone⟩⟩
      · rw [raiseIf_bind_of_pos (decide_eq_false hone)] at hrun
        refine .inr ⟨?_, hwhole, ?_⟩
        · rw [hrun]
          exact not_returns_error _
        · rintro ⟨pair, hrenders, hpair⟩
          exact hone (hrenders.unique hfirst ▸ hpair)
  · obtain ⟨hfails, hnone⟩ := not_canRender_fails hcan hquestion hstudent hteacher
    exact .inr ⟨hfails, hnone _ hblank, hnone _ (strip_take_ne_nil hquestion (le_refl 1))⟩

/-- **Prompt pairs.**  Both prompts hold one prefix of the question, fit their limits and
    come with the right flag; the prefix is the longest fitting one when the token counts
    are monotone; and there is none exactly when neither the question nor its first
    character fits. -/
theorem renderDistillationPromptPair_spec (renderer : PairRenderer) (question : PyStr)
    (hquestion : strip question ≠ []) (hstudent : 0 < renderer.studentLimit)
    (hteacher : 0 < renderer.teacherLimit) :
    (∀ pair truncated, renderDistillationPromptPair renderer question = .ok (pair, truncated) →
      ∃ k, renderer.Chosen (strip question) pair truncated k) ∧
    (¬ Returns (renderDistillationPromptPair renderer question) ↔
      ¬ renderer.Fits (strip question) ∧ ¬ renderer.Fits ((strip question).take 1)) := by
  rcases renderDistillationPromptPair_cases renderer hquestion hstudent hteacher with
    ⟨pair, truncated, k, hrun, hchosen, hfits⟩ | ⟨hfails, hwhole, hfirst⟩
  · rw [hrun]
    refine ⟨?_, ?_⟩
    · rintro _ _ ⟨⟩
      exact ⟨k, hchosen⟩
    · have hreturns := Returns.ok (pair, truncated) (ε := PyError)
      refine ⟨fun h => absurd hreturns h, fun hnone => ?_⟩
      rcases hfits with hwhole | hfirst
      · exact absurd hwhole hnone.1
      · exact absurd hfirst hnone.2
  · refine ⟨fun pair truncated hrun => absurd ⟨_, hrun⟩ hfails, ?_⟩
    exact ⟨fun _ => ⟨hwhole, hfirst⟩, fun _ => hfails⟩

/-- A tokenizer whose prompts are the task prompt, with one token for each character of the
    question. -/
def questionTokenizer : ChatTokenizer where
  applyChatTemplate := some fun messages _ => (messages.headD ⟨"user", []⟩).content
  encode := fun text => (text.drop (explicitStepPrompt []).length).map fun c => (c.toNat : Int)

theorem questionTokenizer_encode (question : PyStr) :
    questionTokenizer.encode (explicitStepPrompt question) =
      question.map fun c => (c.toNat : Int) := by
  have happend : ∀ before : PyStr, before ++ question = before ++ [] ++ question := by
    intro before
    rw [List.append_nil]
  have hprompt : explicitStepPrompt question = explicitStepPrompt [] ++ question := happend _
  have hencode : ∀ text, questionTokenizer.encode text =
      (text.drop (explicitStepPrompt []).length).map fun c => (c.toNat : Int) := by
    simp only [questionTokenizer, implies_true]
  rw [hencode, hprompt, List.drop_left]

/-- One question token for the student and two for the teacher. -/
def oneAndTwoTokens : PairRenderer where
  studentTokenizer := questionTokenizer
  teacherTokenizer := questionTokenizer
  studentFamily := "Qwen3-1.7B".toList
  teacherFamily := "qwen3".toList
  studentLimit := 1
  teacherLimit := 2
  promptName := defaultPromptName
  repr := fun text => String.ofList text

theorem renderDistillationPromptPair_spec_one_and_two_tokens :
    ∃ pair truncated k,
      renderDistillationPromptPair oneAndTwoTokens " abc".toList = .ok (pair, truncated) ∧
        oneAndTwoTokens.Chosen "abc".toList pair truncated k := by
  obtain ⟨hchosen, hfails⟩ := renderDistillationPromptPair_spec oneAndTwoTokens " abc".toList
    (by decide) (by decide) (by decide)
  have hids := questionTokenizer_encode ['a']
  have hfits : oneAndTwoTokens.Fits ("abc".toList.take 1) := by
    refine ⟨⟨explicitStepPrompt ['a'], explicitStepPrompt ['a'], [97]⟩,
      ⟨rfl, rfl, hids.symm⟩, ?_, by decide⟩
    change ((questionTokenizer.encode (explicitStepPrompt ['a'])).length : Int) ≤ 1
    rw [hids]
    decide
  have hreturns : Returns (renderDistillationPromptPair oneAndTwoTokens " abc".toList) := by
    by_contra hnot
    exact (hfails.mp hnot).2 hfits
  obtain ⟨⟨pair, truncated⟩, hrun⟩ := hreturns
  obtain ⟨k, hk⟩ := hchosen pair truncated hrun
  exact ⟨pair, truncated, k, hrun, hk⟩

end R2opl
