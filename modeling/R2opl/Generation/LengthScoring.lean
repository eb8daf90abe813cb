import R2opl.Generation.EvaluateModel
import R2opl.Dataset.Records
import Mathlib.Algebra.Order.BigOperators.Group.List
import Mathlib.Algebra.Order.Ring.Rat
import Mathlib.Algebra.BigOperators.Ring.List
import Mathlib.Algebra.Order.Field.Basic

/-!
# Length-limited scoring

`score_completion_at_lengths`, the counters of `_run_eval_batch_job` and
`aggregate_question_results` (`utils/evaluation.py`) taken together.  A completion has one score
at each token limit, the counters of a question are sums of the scores of its completions, and
the metrics of a data set are sums of the counters of its questions.
-/

namespace R2opl

open Checked

/-! ### One completion -/

/-- What is verified at a limit. -/
def responseAt (engine : Engine) (completion : Completion) (limit : Nat) : PyStr :=
  if limit < completion.tokenIds.length then engine.decodePrefix (completion.tokenIds.take limit)
  else completion.text

def truncatedAt (completion : Completion) (limit : Nat) : Nat :=
  (decide (limit < completion.tokenIds.length) || completion.finishReason = some "length").toNat

/-- The score at one limit, on its own. -/
def scoreAt (engine : Engine) (verify : PyStr → Except PyError Bool) (limit : Nat)
    (completion : Completion) : Except PyError LengthScore := do
  let correct ← verify (responseAt engine completion limit)
  return { correct := correct.toNat, tokens := min completion.tokenIds.length limit,
           truncated := truncatedAt completion limit }

/-- The score of the untruncated completion. -/
def fullScore (verify : PyStr → Except PyError Bool) (completion : Completion) :
    Except PyError LengthScore := do
  let correct ← verify completion.text
  return { correct := correct.toNat, tokens := completion.tokenIds.length,
           truncated := (decide (completion.finishReason = some "length")).toNat }

variable {config : SamplingConfig} {engine : Engine} {completion : Completion}
  {verify : PyStr → Except PyError Bool} {limit limit' : Nat}

theorem scoreAt_eq_fullScore (h : completion.tokenIds.length ≤ limit) :
    scoreAt engine verify limit completion = fullScore verify completion := by
  have hcut : ¬ limit < completion.tokenIds.length := Nat.not_lt.mpr h
  unfold scoreAt fullScore responseAt truncatedAt
  rw [if_neg hcut, min_eq_left h, decide_eq_false hcut, Bool.false_or]

theorem truncatedAt_antitone (h : limit ≤ limit') :
    truncatedAt completion limit' ≤ truncatedAt completion limit := by
  unfold truncatedAt
  by_cases hcut : limit' < completion.tokenIds.length
  · rw [decide_eq_true hcut, decide_eq_true (h.trans_lt hcut)]
  · rw [decide_eq_false hcut, Bool.false_or]
    cases decide (completion.finishReason = some "length") with
    | false => exact Nat.zero_le _
    | true => rw [Bool.or_true]

theorem scoreAt_spec {score : LengthScore} (h : scoreAt engine verify limit completion = .ok score) :
    score.correct ≤ 1 ∧ score.tokens = min completion.tokenIds.length limit ∧
      score.truncated = truncatedAt completion limit := by
  unfold scoreAt at h
  obtain ⟨correct, -, hscore⟩ := bind_eq_ok.mp h
  obtain rfl := Except.ok.inj hscore
  exact ⟨Bool.toNat_le correct, rfl, rfl⟩

/-- The scores of the limits done so far, and the verdict on the whole text once it is known. -/
structure ScoredUpTo (engine : Engine) (completion : Completion)
    (verify : PyStr → Except PyError Bool) (done : List Nat)
    (state : Option Nat × List (Nat × LengthScore)) : Prop where
  full : ∀ correct, state.1 = some correct → ∃ verdict,
    verify completion.text = .ok verdict ∧ correct = verdict.toNat
  nodup : (Dict.keys state.2).Nodup
  scores : ∀ limit ∈ done, ∃ score, Dict.get? state.2 limit = some score ∧
    scoreAt engine verify limit completion = .ok score
  others : ∀ limit ∉ done, Dict.get? state.2 limit = none

theorem ScoredUpTo.nothing : ScoredUpTo engine completion verify [] (none, []) where
  full := fun _ h => nomatch h
  nodup := List.nodup_nil
  scores := fun _ h => absurd h List.not_mem_nil
  others := fun _ _ => rfl

theorem ScoredUpTo.set {done : List Nat} {state : Option Nat × List (Nat × LengthScore)}
    (h : ScoredUpTo engine completion verify done state) {score : LengthScore}
    (hscore : scoreAt engine verify limit completion = .ok score) {full : Option Nat}
    (hfull : ∀ correct, full = some correct → ∃ verdict,
      verify completion.text = .ok verdict ∧ correct = verdict.toNat) :
    ScoredUpTo engine completion verify (done ++ [limit])
      (full, Dict.set state.2 limit score) where
  full := hfull
  nodup := Dict.keys_set_nodup h.nodup
  scores := by
    intro other hother
    rw [Dict.get?_set]
    by_cases heq : limit = other
    · exact ⟨score, if_pos heq, heq ▸ hscore⟩
    · rw [if_neg heq]
      rcases List.mem_append.mp hother with hdone | hnew
      · exact h.scores other hdone
      · exact absurd (List.mem_singleton.mp hnew).symm heq
  others := by
    intro other hother
    rw [List.mem_append, List.mem_singleton, not_or] at hother
    rw [Dict.get?_set, if_neg fun heq => hother.2 heq.symm]
    exact h.others other hother.1

theorem scoreAtLimit_spec {done : List Nat} {state next : Option Nat × List (Nat × LengthScore)}
    (hstate : ScoredUpTo engine completion verify done state)
    (h : scoreAtLimit engine completion verify state limit = .ok next) :
    ScoredUpTo engine completion verify (done ++ [limit]) next := by
  have hscored : ∀ verdict, verify (responseAt engine completion limit) = .ok verdict →
      scoreAt engine verify limit completion = .ok {
        correct := verdict.toNat
        tokens := min completion.tokenIds.length limit
        truncated := truncatedAt completion limit } := by
    intro verdict hverify
    unfold scoreAt
    rw [hverify]
    rfl
  unfold scoreAtLimit at h
  by_cases hcut : limit < completion.tokenIds.length
  · have hresponse : responseAt engine completion limit =
        engine.decodePrefix (completion.tokenIds.take limit) := if_pos hcut
    simp only [decide_eq_true hcut, if_true] at h
    obtain ⟨verdict, hverify, hnext⟩ := bind_eq_ok.mp h
    obtain rfl := Except.ok.inj hnext
    rw [← hresponse] at hverify
    have hset := hstate.set (hscored verdict hverify) hstate.full
    unfold truncatedAt at hset
    rwa [decide_eq_true hcut] at hset
  · have hresponse : responseAt engine completion limit = completion.text := if_neg hcut
    rw [hresponse] at hscored
    have hset : ∀ correct verdict, verify completion.text = .ok verdict →
        correct = verdict.toNat → ScoredUpTo engine completion verify (done ++ [limit])
          (some correct, Dict.set state.2 limit {
            correct
            tokens := min completion.tokenIds.length limit
            truncated := (false || completion.finishReason = some "length").toNat }) := by
      rintro correct verdict hverify rfl
      have hset := hstate.set (hscored verdict hverify) fun correct hcorrect =>
        ⟨verdict, hverify, (Option.some.inj hcorrect).symm⟩
      unfold truncatedAt at hset
      rwa [decide_eq_false hcut] at hset
    simp only [decide_eq_false hcut, if_neg Bool.false_ne_true] at h
    cases hfull : state.1 with
    | some known =>
      rw [hfull] at h
      obtain rfl := Except.ok.inj h
      obtain ⟨verdict, hverify, hknown⟩ := hstate.full known hfull
      exact hset known verdict hverify hknown
    | none =>
      rw [hfull] at h
      obtain ⟨verdict, hverify, hnext⟩ := bind_eq_ok.mp h
      obtain rfl := Except.ok.inj hnext
      exact hset verdict.toNat verdict hverify rfl

/-- Each limit has the score it has on its own. -/
theorem scoreCompletionAtLengths_spec {scored : List (Nat × LengthScore)}
    (h : scoreCompletionAtLengths config engine completion verify = .ok scored) :
    ∃ full, ScoredUpTo engine completion verify config.lengthControl (full, scored) := by
  unfold scoreCompletionAtLengths at h
  obtain ⟨⟨full, values⟩, hloop, hscored⟩ := bind_eq_ok.mp h
  obtain rfl := Except.ok.inj hscored
  exact ⟨full, foldlM_accumulates (fun _ _ _ _ _ hstate hnext => scoreAtLimit_spec hstate hnext)
    .nothing hloop⟩

/-! ### The counters of a question -/

/-- What completions with these scores count. -/
def Counters.ofScores (scores : List LengthScore) : Counters where
  rollouts := scores.length
  correctCount := (scores.map LengthScore.correct).sum
  tokenCount := (scores.map LengthScore.tokens).sum
  truncatedCount := (scores.map LengthScore.truncated).sum

theorem Counters.ofScores_append (scores : List LengthScore) (score : LengthScore) :
    Counters.ofScores (scores ++ [score]) = (Counters.ofScores scores).add score := by
  unfold Counters.ofScores Counters.add
  simp only [List.length_append, List.length_singleton, List.map_append, List.map_singleton,
    List.sum_append, List.sum_singleton]

/-- Each counter grows by the score at its limit. -/
theorem foldlM_addScore {scored : List (Nat × LengthScore)} (hnodup : (Dict.keys scored).Nodup)
    {counters final : List (Nat × Counters)} (h : scored.foldlM addScore counters = .ok final)
    {score : LengthScore} (hscore : Dict.get? scored limit = some score) :
    Dict.get? final limit = (Dict.get? counters limit).map fun target => target.add score := by
  have hothers : ∀ scored : List (Nat × LengthScore), limit ∉ Dict.keys scored →
      ∀ counters, scored.foldlM addScore counters = .ok final →
      Dict.get? final limit = Dict.get? counters limit := by
    intro scored
    induction scored with
    | nil =>
      intro _ counters h
      obtain rfl := Except.ok.inj h
      rfl
    | cons item rest ih =>
      intro hlimit counters h
      unfold Dict.keys at hlimit ih
      rw [List.map_cons, List.mem_cons, not_or] at hlimit
      rw [List.foldlM_cons] at h
      obtain ⟨next, hitem, hrest⟩ := bind_eq_ok.mp h
      obtain ⟨target, -, hnext⟩ := bind_eq_ok.mp hitem
      obtain rfl := Except.ok.inj hnext
      rw [ih hlimit.2 _ hrest, Dict.get?_set, if_neg fun heq => hlimit.1 heq.symm]
  induction scored generalizing counters with
  | nil => cases hscore
  | cons item rest ih =>
    unfold Dict.keys at hnodup
    rw [List.map_cons, List.nodup_cons] at hnodup
    rw [List.foldlM_cons] at h
    obtain ⟨next, hitem, hrest⟩ := bind_eq_ok.mp h
    obtain ⟨target, htarget, hnext⟩ := bind_eq_ok.mp hitem
    obtain rfl := Except.ok.inj hnext
    rw [Dict.get?_cons] at hscore
    by_cases hkey : item.1 = limit
    · rw [if_pos hkey] at hscore
      obtain rfl := Option.some.inj hscore
      rw [hothers rest (hkey ▸ hnodup.1) _ hrest, Dict.get?_set, if_pos hkey,
        ← hkey, lookup_eq_ok.mp htarget]
      rfl
    · rw [if_neg hkey] at hscore
      rw [ih hnodup.2 hrest hscore, Dict.get?_set, if_neg hkey]

/-- The verifier as it is called for the answers to a task. -/
def verifyFor (engine : Engine) (task : EvalTask) (response : PyStr) : Except PyError Bool :=
  engine.verify response task.answer task.dataset

/-- At each limit the scores of the completions done so far are counted. -/
def CountedUpTo (config : SamplingConfig) (engine : Engine) (task : EvalTask)
    (done : List Completion) (counters : List (Nat × Counters)) : Prop :=
  ∀ limit ∈ config.lengthControl, ∃ scores,
    done.mapM (scoreAt engine (verifyFor engine task) limit) = .ok scores ∧
    Dict.get? counters limit = some (Counters.ofScores scores)

variable {task : EvalTask}

theorem CountedUpTo.nothing : CountedUpTo config engine task []
    (Dict.ofPairs (config.lengthControl.map fun limit => (limit, ⟨0, 0, 0, 0⟩))) := by
  intro limit hlimit
  refine ⟨[], rfl, ?_⟩
  rw [Dict.get?_ofPairs_map, if_pos hlimit]
  rfl

theorem addCompletion_spec {done : List Completion}
    {state next : List (Nat × Counters) × Option (List Rollout)}
    (hstate : CountedUpTo config engine task done state.1)
    (h : addCompletion config engine task state completion = .ok next) :
    CountedUpTo config engine task (done ++ [completion]) next.1 := by
  unfold addCompletion at h
  obtain ⟨scored, hscored, h⟩ := bind_eq_ok.mp h
  obtain ⟨full, -, h⟩ := bind_eq_ok.mp h
  obtain ⟨counters, hcounters, h⟩ := bind_eq_ok.mp h
  obtain rfl := Except.ok.inj h
  obtain ⟨_, hspec⟩ := scoreCompletionAtLengths_spec hscored
  intro limit hlimit
  obtain ⟨scores, hscores, hcount⟩ := hstate limit hlimit
  obtain ⟨score, hget, hscore⟩ := hspec.scores limit hlimit
  refine ⟨scores ++ [score], mapM_append_single hscores hscore, ?_⟩
  rw [foldlM_addScore hspec.nodup hcounters hget, hcount, Counters.ofScores_append]
  rfl

/-- A question that was evaluated, with the completions it was evaluated on. -/
structure ScoredQuestion (config : SamplingConfig) (engine : Engine) (collectIds : List PyStr) where
  task : EvalTask
  completions : List Completion
  result : QuestionResult
  returned : evaluateTask config { engine with generate := fun _ => completions } collectIds task =
    .ok result

variable {collectIds : List PyStr} (question : ScoredQuestion config engine collectIds)

theorem ScoredQuestion.spec : question.result.key = question.task.key ∧
    question.completions.length = config.n ∧
    CountedUpTo config engine question.task question.completions question.result.lengths := by
  have h := question.returned
  unfold evaluateTask at h
  obtain ⟨hlength, h⟩ := raiseIf_bind_eq_ok.mp h
  obtain ⟨⟨counters, rollouts⟩, hloop, h⟩ := bind_eq_ok.mp h
  have hresult := Except.ok.inj h
  rw [← hresult]
  refine ⟨rfl, not_not.mp hlength, ?_⟩
  exact foldlM_accumulates
    (P := fun done (state : List (Nat × Counters) × Option (List Rollout)) =>
      CountedUpTo config engine question.task done state.1)
    (fun _ _ _ _ _ hstate hnext => addCompletion_spec hstate hnext) .nothing hloop

/-- The counters at a limit. -/
def QuestionResult.countersAt (result : QuestionResult) (limit : Nat) : Counters :=
  (Dict.get? result.lengths limit).getD ⟨0, 0, 0, 0⟩

theorem ScoredQuestion.countersAt_eq (hlimit : limit ∈ config.lengthControl) : ∃ scores,
    question.completions.mapM (scoreAt engine (verifyFor engine question.task) limit) = .ok scores ∧
    Dict.get? question.result.lengths limit = some (Counters.ofScores scores) ∧
    question.result.countersAt limit = Counters.ofScores scores := by
  obtain ⟨scores, hscores, hget⟩ := question.spec.2.2 limit hlimit
  refine ⟨scores, hscores, hget, ?_⟩
  unfold QuestionResult.countersAt
  rw [hget]
  rfl

/-- At each limit a question has `n` rollouts, of which at most `n` are correct. -/
structure WellCounted (config : SamplingConfig) (result : QuestionResult) : Prop where
  counted : ∀ limit ∈ config.lengthControl,
    Dict.get? result.lengths limit = some (result.countersAt limit)
  rollouts : ∀ limit ∈ config.lengthControl, (result.countersAt limit).rollouts = config.n
  correct : ∀ limit ∈ config.lengthControl, (result.countersAt limit).correctCount ≤ config.n

theorem ScoredQuestion.wellCounted : WellCounted config question.result where
  counted := by
    intro limit hlimit
    obtain ⟨scores, -, hget, heq⟩ := question.countersAt_eq hlimit
    rw [heq, hget]
  rollouts := by
    intro limit hlimit
    obtain ⟨scores, hscores, -, heq⟩ := question.countersAt_eq hlimit
    rw [heq]
    exact (mapM_length hscores).trans question.spec.2.1
  correct := by
    intro limit hlimit
    obtain ⟨scores, hscores, -, heq⟩ := question.countersAt_eq hlimit
    have hle : ∀ correct ∈ scores.map LengthScore.correct, correct ≤ 1 := by
      intro correct hcorrect
      obtain ⟨score, hscore, rfl⟩ := List.mem_map.mp hcorrect
      obtain ⟨_, -, hof⟩ := exists_of_mem_mapM hscores hscore
      exact (scoreAt_spec hof).1
    have hsum := List.sum_le_card_nsmul _ _ hle
    rw [heq]
    rwa [List.length_map, mapM_length hscores, question.spec.2.1, nsmul_eq_mul, mul_one] at hsum

/-- Tokens and truncation flags are those of the completions. -/
theorem ScoredQuestion.counts (hlimit : limit ∈ config.lengthControl) :
    (question.result.countersAt limit).tokenCount = (question.completions.map fun completion =>
      min completion.tokenIds.length limit).sum ∧
    (question.result.countersAt limit).truncatedCount = (question.completions.map fun completion =>
      truncatedAt completion limit).sum := by
  obtain ⟨scores, hscores, -, heq⟩ := question.countersAt_eq hlimit
  rw [heq]
  constructor
  · exact congrArg List.sum (mapM_map (fun _ _ hscore => (scoreAt_spec hscore).2.1) hscores)
  · exact congrArg List.sum (mapM_map (fun _ _ hscore => (scoreAt_spec hscore).2.2) hscores)

/-! ### The metrics of a data set -/

section Metrics

variable (n limit : Nat) (records : List QuestionResult)

def totalCorrect : Nat := (records.map fun record => (record.countersAt limit).correctCount).sum

/-- How many questions have a correct rollout. -/
def totalPassed : Nat :=
  (records.map fun record => (decide (0 < (record.countersAt limit).correctCount)).toNat).sum

def totalTokens : Nat := (records.map fun record => (record.countersAt limit).tokenCount).sum

def totalTruncated : Nat :=
  (records.map fun record => (record.countersAt limit).truncatedCount).sum

/-- The Avg@n of each question. -/
def questionAverages : List (Nat × ℚ) :=
  records.map fun record =>
    (record.questionIndex, ((record.countersAt limit).correctCount : ℚ) / n)

/-- The metrics of a data set, computed from the counters of its questions. -/
def summaryOf : LengthSummary where
  avg := (totalCorrect limit records : ℚ) / (records.length * n : Nat)
  pass := (totalPassed limit records : ℚ) / records.length
  meanLength := (totalTokens limit records : ℚ) / (records.length * n : Nat)
  truncationRate := (totalTruncated limit records : ℚ) / (records.length * n : Nat)
  perSample := questionAverages n limit records

variable {n limit records}

theorem divide_eq {left right : Nat} (h : 0 < right) :
    divide left right = .ok ((left : ℚ) / right) := by
  unfold divide
  rw [raiseIf_of_not h.ne']
  rfl

/-- The loop over the questions of a data set. -/
theorem foldlM_tallyQuestion {dataset : PyStr} (hlimit : limit ∈ config.lengthControl)
    (hcounted : ∀ record ∈ records, WellCounted config record) :
    records.foldlM (tallyQuestion config.n dataset limit) ⟨0, 0, 0, 0, []⟩ = .ok {
      correctCount := totalCorrect limit records
      passedQuestions := totalPassed limit records
      tokenCount := totalTokens limit records
      truncatedCount := totalTruncated limit records
      perSample := Dict.ofPairs (questionAverages config.n limit records) } := by
  induction records using List.reverseRecOn with
  | nil => rfl
  | append_singleton records record ih =>
    have hrecord := hcounted record (List.mem_append_right records List.mem_cons_self)
    rw [List.foldlM_append, ih fun other hother => hcounted other (List.mem_append_left _ hother),
      ok_bind, List.foldlM_cons]
    unfold tallyQuestion
    rw [lookup_eq_ok.mpr (hrecord.counted limit hlimit), ok_bind,
      raiseIf_of_not (not_not.mpr (hrecord.rollouts limit hlimit)), ok_bind,
      raiseIf_of_not (Nat.not_lt.mpr (hrecord.correct limit hlimit)), ok_bind,
      divide_eq config.n_pos]
    unfold totalCorrect totalPassed totalTokens totalTruncated questionAverages Dict.ofPairs
    simp only [List.map_append, List.map_singleton, List.sum_append, List.sum_singleton,
      List.foldl_append, List.foldl_cons, List.foldl_nil, ok_bind, pure_eq_ok, List.foldlM_nil]

theorem summarizeLength_eq {dataset : PyStr} (hlimit : limit ∈ config.lengthControl)
    (hcounted : ∀ record ∈ records, WellCounted config record)
    (hnodup : (records.map QuestionResult.questionIndex).Nodup) (hne : records ≠ []) :
    summarizeLength config.n records.length dataset records limit =
      .ok (limit, summaryOf config.n limit records) := by
  have hlength : 0 < records.length := List.length_pos_iff.mpr hne
  have hkeys : (Dict.keys (questionAverages config.n limit records)).Nodup := by
    unfold Dict.keys questionAverages
    rwa [List.map_map]
  unfold summarizeLength
  rw [foldlM_tallyQuestion hlimit hcounted, ok_bind]
  dsimp only
  rw [divide_eq (Nat.mul_pos hlength config.n_pos), ok_bind, divide_eq hlength, ok_bind, divide_eq (Nat.mul_pos hlength config.n_pos), ok_bind,
    divide_eq (Nat.mul_pos hlength config.n_pos), ok_bind, Dict.ofPairs_eq hkeys]
  rfl

/-! ### Laws of the metrics -/

theorem summaryOf_avg : (summaryOf n limit records).avg =
    ((questionAverages n limit records).map Prod.snd).sum /
      (questionAverages n limit records).length := by
  have hsum : ((questionAverages n limit records).map Prod.snd).sum =
      (totalCorrect limit records : ℚ) / n := by
    unfold questionAverages totalCorrect
    induction records with
    | nil => exact (zero_div _).symm
    | cons record rest ih =>
      rw [List.map_cons, List.map_cons, List.sum_cons, ih, List.map_cons, List.sum_cons,
        Nat.cast_add, add_div]
  rw [hsum, questionAverages, List.length_map, div_div, mul_comm, ← Nat.cast_mul]
  rfl

theorem summaryOf_avg_le_pass (hn : 0 < n) (hne : records ≠ [])
    (hcorrect : ∀ record ∈ records, (record.countersAt limit).correctCount ≤ n) :
    (summaryOf n limit records).avg ≤ (summaryOf n limit records).pass := by
  have hlength : 0 < records.length := List.length_pos_iff.mpr hne
  have hle : totalCorrect limit records ≤ totalPassed limit records * n := by
    unfold totalCorrect totalPassed
    rw [← List.sum_map_mul_right]
    apply List.sum_le_sum
    intro record hrecord
    cases Nat.eq_zero_or_pos (record.countersAt limit).correctCount with
    | inl hzero =>
      rw [hzero]
      exact Nat.zero_le _
    | inr hpos =>
      rw [decide_eq_true hpos, Bool.toNat_true, one_mul]
      exact hcorrect record hrecord
  change (totalCorrect limit records : ℚ) / (records.length * n : Nat) ≤
    (totalPassed limit records : ℚ) / records.length
  rw [div_le_div_iff₀ (Nat.cast_pos.mpr (Nat.mul_pos hlength hn)) (Nat.cast_pos.mpr hlength),
    ← Nat.cast_mul, ← Nat.cast_mul, Nat.cast_le, Nat.mul_comm records.length n, ← Nat.mul_assoc]
  exact Nat.mul_le_mul_right records.length hle

theorem summaryOf_pass_le (hn : 0 < n) :
    (summaryOf n limit records).pass ≤ n * (summaryOf n limit records).avg := by
  have hle : totalPassed limit records ≤ totalCorrect limit records := by
    unfold totalCorrect totalPassed
    apply List.sum_le_sum
    intro record _
    cases Nat.eq_zero_or_pos (record.countersAt limit).correctCount with
    | inl hzero =>
      rw [hzero]
      exact Nat.le_refl 0
    | inr hpos =>
      rw [decide_eq_true hpos]
      exact hpos
  have hn' : (n : ℚ) ≠ 0 := Nat.cast_ne_zero.mpr hn.ne'
  change (totalPassed limit records : ℚ) / records.length ≤
    n * ((totalCorrect limit records : ℚ) / (records.length * n : Nat))
  rw [Nat.cast_mul, ← mul_div_assoc, mul_comm (records.length : ℚ), mul_div_mul_left _ _ hn']
  exact div_le_div_of_nonneg_right (Nat.cast_le.mpr hle) (Nat.cast_nonneg _)

theorem summaryOf_meanLength_mono
    (h : ∀ record ∈ records,
      (record.countersAt limit).tokenCount ≤ (record.countersAt limit').tokenCount) :
    (summaryOf n limit records).meanLength ≤ (summaryOf n limit' records).meanLength :=
  div_le_div_of_nonneg_right (Nat.cast_le.mpr (List.sum_le_sum h)) (Nat.cast_nonneg _)

theorem summaryOf_truncationRate_anti
    (h : ∀ record ∈ records,
      (record.countersAt limit').truncatedCount ≤ (record.countersAt limit).truncatedCount) :
    (summaryOf n limit' records).truncationRate ≤ (summaryOf n limit records).truncationRate :=
  div_le_div_of_nonneg_right (Nat.cast_le.mpr (List.sum_le_sum h)) (Nat.cast_nonneg _)

end Metrics

/-- A longer limit keeps more tokens and truncates less. -/
theorem ScoredQuestion.counts_mono (hlimit : limit ∈ config.lengthControl)
    (hlimit' : limit' ∈ config.lengthControl) (hle : limit ≤ limit') :
    (question.result.countersAt limit).tokenCount ≤
      (question.result.countersAt limit').tokenCount ∧
    (question.result.countersAt limit').truncatedCount ≤
      (question.result.countersAt limit).truncatedCount := by
  rw [(question.counts hlimit).1, (question.counts hlimit).2, (question.counts hlimit').1,
    (question.counts hlimit').2]
  constructor
  · exact List.sum_le_sum fun completion _ => min_le_min_left _ hle
  · exact List.sum_le_sum fun completion _ => truncatedAt_antitone hle

/-! ### Aggregation -/

/-- What `load_question_records` returns: every selected data set has questions. -/
structure QuestionCounts (datasets : List PyStr) where
  counts : List (PyStr × Nat)
  nodup : (Dict.keys counts).Nodup
  covers : ∀ dataset ∈ datasets, ∃ count, Dict.get? counts dataset = some count ∧ 0 < count

/-- The counts of the loader, for the distinct names of a configuration. -/
def QuestionCounts.ofLoaded {json : JsonText} {datasets : List PyStr} {valFiles : List QuestionFile}
    {questions : List EvaluationQuestion} {counts : List (PyStr × Nat)} (hnodup : datasets.Nodup)
    (h : loadQuestionRecords json datasets valFiles = .ok (questions, counts)) :
    QuestionCounts datasets where
  counts := counts
  nodup := by
    obtain ⟨itemsOf, _, rfl⟩ := loadQuestionRecords_counts h
    unfold Dict.keys
    rw [List.map_map]
    exact (List.map_id' datasets).symm ▸ hnodup
  covers := by
    obtain ⟨itemsOf, hitems, rfl⟩ := loadQuestionRecords_counts h
    intro dataset hdataset
    refine ⟨(itemsOf dataset).length, ?_, List.length_pos_iff.mpr (hitems dataset hdataset)⟩
    apply Dict.get?_of_mem
    · unfold Dict.keys
      rw [List.map_map]
      exact (List.map_id' datasets).symm ▸ hnodup
    · exact List.mem_map.mpr ⟨dataset, hdataset, rfl⟩

theorem mem_expectedKeys {counts : List (PyStr × Nat)} (hnodup : (Dict.keys counts).Nodup)
    {dataset : PyStr} {count index : Nat} (hcount : Dict.get? counts dataset = some count) :
    (dataset, index) ∈ expectedKeys counts ↔ index < count := by
  unfold expectedKeys
  rw [List.mem_flatMap]
  constructor
  · rintro ⟨entry, hentry, hmem⟩
    obtain ⟨other, hother, heq⟩ := List.mem_map.mp hmem
    obtain ⟨rfl, rfl⟩ := Prod.mk.inj heq
    have hget := Dict.get?_of_mem hnodup hentry
    rw [hcount] at hget
    rw [Option.some.inj hget]
    exact List.mem_range.mp hother
  · intro hindex
    exact ⟨(dataset, count), Dict.mem_of_get? hcount,
      List.mem_map.mpr ⟨index, List.mem_range.mpr hindex, rfl⟩⟩

theorem expectedKeys_nodup {counts : List (PyStr × Nat)} (hnodup : (Dict.keys counts).Nodup) :
    (expectedKeys counts).Nodup := by
  unfold expectedKeys
  rw [List.nodup_flatMap]
  constructor
  · intro entry _
    exact List.nodup_range.map fun _ _ heq => (Prod.mk.inj heq).2
  · apply (List.pairwise_map.mp hnodup).imp
    intro entry other hne key hkey hother
    obtain ⟨_, -, rfl⟩ := List.mem_map.mp hkey
    obtain ⟨_, -, heq⟩ := List.mem_map.mp hother
    exact hne (Prod.mk.inj heq).1.symm

variable {reprStr : PyStr → String}

theorem checkQuestionKeys_eq_ok {expected actual : List (PyStr × Nat)} (hnodup : expected.Nodup) :
    checkQuestionKeys reprStr expected actual = .ok () ↔ actual.Perm expected := by
  unfold checkQuestionKeys
  rw [raiseIf_bind_eq_ok, raiseIf_eq_ok, not_not, not_not]
  constructor
  · rintro ⟨hactual, hsubset, hsuperset⟩
    rw [List.perm_ext_iff_of_nodup hactual hnodup]
    exact fun key => ⟨fun h => hsubset h, fun h => hsuperset h⟩
  · intro hperm
    exact ⟨hperm.nodup_iff.mpr hnodup, hperm.subset, hperm.symm.subset⟩

/-- The results of one data set in the order of its questions. -/
def datasetRecords (results : List QuestionResult) (dataset : PyStr) : List QuestionResult :=
  (results.filter fun record => record.dataset = dataset).insertionSort
    fun a b => a.questionIndex ≤ b.questionIndex

variable {results : List QuestionResult} {counts : List (PyStr × Nat)} {dataset : PyStr}
  {count : Nat}

theorem mem_datasetRecords {record : QuestionResult} :
    record ∈ datasetRecords results dataset ↔ record ∈ results ∧ record.dataset = dataset := by
  unfold datasetRecords
  rw [List.mem_insertionSort, List.mem_filter, decide_eq_true_eq]

/-- With every expected result once, a data set has one result for each of its questions. -/
theorem map_questionIndex_datasetRecords (hnodup : (Dict.keys counts).Nodup)
    (hperm : (results.map QuestionResult.key).Perm (expectedKeys counts))
    (hcount : Dict.get? counts dataset = some count) :
    (datasetRecords results dataset).map QuestionResult.questionIndex = List.range count := by
  have hkeys : ((results.filter fun record => record.dataset = dataset).map
      QuestionResult.questionIndex).Nodup := by
    apply List.Nodup.of_map fun index => (dataset, index)
    have hsub := (List.filter_sublist (p := fun record : QuestionResult =>
      decide (record.dataset = dataset)) (l := results)).map QuestionResult.key
    convert hsub.nodup (hperm.nodup_iff.mpr (expectedKeys_nodup hnodup)) using 1
    rw [List.map_map]
    apply List.map_congr_left
    intro record hrecord
    have hdataset : record.dataset = dataset := by simpa using (List.mem_filter.mp hrecord).2
    exact congrArg (fun dataset => (dataset, record.questionIndex)) hdataset.symm
  apply List.Perm.eq_of_pairwise' (r := (· ≤ ·))
  · exact List.pairwise_map.mpr (List.pairwise_insertionSort _ _)
  · exact List.pairwise_le_range
  · apply ((List.perm_insertionSort _ _).map _).trans
    rw [List.perm_ext_iff_of_nodup hkeys List.nodup_range]
    intro index
    rw [List.mem_range, ← mem_expectedKeys hnodup hcount, ← hperm.mem_iff, List.mem_map,
      List.mem_map]
    constructor
    · rintro ⟨record, hrecord, rfl⟩
      have hdataset : record.dataset = dataset := by simpa using (List.mem_filter.mp hrecord).2
      exact ⟨record, (List.mem_filter.mp hrecord).1, by rw [← hdataset]; rfl⟩
    · rintro ⟨record, hrecord, heq⟩
      obtain ⟨rfl, rfl⟩ := Prod.mk.inj heq
      exact ⟨record, List.mem_filter.mpr ⟨hrecord, decide_eq_true rfl⟩, rfl⟩

/-- The summaries of a data set at all limits. -/
def datasetSummary (n : Nat) (lengthControl : List Nat) (results : List QuestionResult)
    (dataset : PyStr) : List (Nat × LengthSummary) :=
  Dict.ofPairs (lengthControl.map fun limit =>
    (limit, summaryOf n limit (datasetRecords results dataset)))

theorem summarizeDataset_eq (hnodup : (Dict.keys counts).Nodup)
    (hperm : (results.map QuestionResult.key).Perm (expectedKeys counts))
    (hcounted : ∀ record ∈ results, WellCounted config record)
    (hcount : Dict.get? counts dataset = some count) (hpos : 0 < count) :
    summarizeDataset reprStr config.n config.lengthControl counts results dataset =
      .ok (dataset, datasetSummary config.n config.lengthControl results dataset) := by
  have hindexes := map_questionIndex_datasetRecords hnodup hperm hcount
  have hlength : (datasetRecords results dataset).length = count := by
    rw [← List.length_map QuestionResult.questionIndex, hindexes, List.length_range]
  unfold summarizeDataset
  dsimp only
  rw [lookup_eq_ok.mpr hcount, ok_bind]
  change (config.lengthControl.mapM (summarizeLength config.n count dataset
    (datasetRecords results dataset)) >>= _) = _
  rw [mapM_eq_ok_map (g := fun limit =>
    (limit, summaryOf config.n limit (datasetRecords results dataset)))]
  · rfl
  · intro limit hlimit
    rw [← hlength]
    apply summarizeLength_eq hlimit
    · exact fun record hrecord => hcounted record (mem_datasetRecords.mp hrecord).1
    · rw [hindexes]
      exact List.nodup_range
    · exact List.ne_nil_of_length_pos (hlength ▸ hpos)

/-- The results are accepted exactly when they are those of the expected questions, each once. -/
theorem aggregateQuestionResults_eq_ok {order : List PyStr} (counts : QuestionCounts order)
    (hcounted : ∀ record ∈ results, WellCounted config record) {summaries : DatasetSummaries} :
    aggregateQuestionResults reprStr results counts.counts order config.lengthControl config.n =
        .ok summaries ↔
      (results.map QuestionResult.key).Perm (expectedKeys counts.counts) ∧
      summaries = Dict.ofPairs (order.map fun dataset =>
        (dataset, datasetSummary config.n config.lengthControl results dataset)) := by
  unfold aggregateQuestionResults
  rw [bind_eq_ok]
  constructor
  · rintro ⟨⟨⟩, hkeys, hrest⟩
    have hperm := (checkQuestionKeys_eq_ok (expectedKeys_nodup counts.nodup)).mp hkeys
    refine ⟨hperm, ?_⟩
    rw [mapM_eq_ok_map] at hrest
    · exact (Except.ok.inj hrest).symm
    · intro dataset hdataset
      obtain ⟨count, hcount, hpos⟩ := counts.covers dataset hdataset
      exact summarizeDataset_eq counts.nodup hperm hcounted hcount hpos
  · rintro ⟨hperm, rfl⟩
    refine ⟨(), (checkQuestionKeys_eq_ok (expectedKeys_nodup counts.nodup)).mpr hperm, ?_⟩
    rw [mapM_eq_ok_map]
    · rfl
    · intro dataset hdataset
      obtain ⟨count, hcount, hpos⟩ := counts.covers dataset hdataset
      exact summarizeDataset_eq counts.nodup hperm hcounted hcount hpos

/-! ### Consistency -/

/-- The laws that relate the metrics of a data set, at one limit and across limits. -/
structure ConsistentLengths (questions : List (ScoredQuestion config engine collectIds))
    (dataset : PyStr) (count : Nat) (lengths : List (Nat × LengthSummary)) : Prop where
  summarized : ∀ limit ∈ config.lengthControl, ∃ summary, Dict.get? lengths limit = some summary
  complete : ∀ limit summary, Dict.get? lengths limit = some summary →
    Dict.keys summary.perSample = List.range count
  average : ∀ limit summary, Dict.get? lengths limit = some summary →
    ∀ question ∈ questions, question.result.dataset = dataset → ∃ scores,
      question.completions.mapM (scoreAt engine (verifyFor engine question.task) limit) =
        .ok scores ∧
      Dict.get? summary.perSample question.result.questionIndex =
        some (((scores.map LengthScore.correct).sum : ℚ) / config.n)
  avg_eq_mean : ∀ limit summary, Dict.get? lengths limit = some summary →
    summary.avg = (summary.perSample.map Prod.snd).sum / summary.perSample.length
  avg_le_pass : ∀ limit summary, Dict.get? lengths limit = some summary →
    summary.avg ≤ summary.pass
  pass_le : ∀ limit summary, Dict.get? lengths limit = some summary →
    summary.pass ≤ config.n * summary.avg
  meanLength_mono : ∀ limit summary limit' summary', limit ≤ limit' →
    Dict.get? lengths limit = some summary → Dict.get? lengths limit' = some summary' →
    summary.meanLength ≤ summary'.meanLength
  truncationRate_anti : ∀ limit summary limit' summary', limit ≤ limit' →
    Dict.get? lengths limit = some summary → Dict.get? lengths limit' = some summary' →
    summary'.truncationRate ≤ summary.truncationRate

theorem datasetSummary_consistent (questions : List (ScoredQuestion config engine collectIds))
    (hnodup : (Dict.keys counts).Nodup)
    (hperm : ((questions.map ScoredQuestion.result).map QuestionResult.key).Perm
      (expectedKeys counts))
    (hcount : Dict.get? counts dataset = some count) (hpos : 0 < count) :
    ConsistentLengths questions dataset count (datasetSummary config.n config.lengthControl
      (questions.map ScoredQuestion.result) dataset) := by
  have hindexes := map_questionIndex_datasetRecords hnodup hperm hcount
  have hsome : ∀ limit summary, Dict.get? (datasetSummary config.n config.lengthControl
      (questions.map ScoredQuestion.result) dataset) limit = some summary →
      limit ∈ config.lengthControl ∧
        summary = summaryOf config.n limit
          (datasetRecords (questions.map ScoredQuestion.result) dataset) := by
    intro limit summary hget
    unfold datasetSummary at hget
    rw [Dict.get?_ofPairs_map] at hget
    by_cases hlimit : limit ∈ config.lengthControl
    · rw [if_pos hlimit] at hget
      exact ⟨hlimit, (Option.some.inj hget).symm⟩
    · rw [if_neg hlimit] at hget
      cases hget
  have hrecord : ∀ record ∈ datasetRecords (questions.map ScoredQuestion.result) dataset,
      ∃ question : ScoredQuestion config engine collectIds, record = question.result := by
    intro record hrecord
    obtain ⟨question, -, rfl⟩ := List.mem_map.mp (mem_datasetRecords.mp hrecord).1
    exact ⟨question, rfl⟩
  have hne : datasetRecords (questions.map ScoredQuestion.result) dataset ≠ [] := by
    intro hnil
    rw [hnil, List.map_nil] at hindexes
    rw [← List.length_range (n := count), ← hindexes] at hpos
    exact Nat.lt_irrefl 0 hpos
  have hkeys : ∀ limit, Dict.keys (questionAverages config.n limit
      (datasetRecords (questions.map ScoredQuestion.result) dataset)) = List.range count := by
    intro limit
    rw [← hindexes]
    unfold Dict.keys questionAverages
    rw [List.map_map]
    rfl
  constructor
  case summarized =>
    intro limit hlimit
    unfold datasetSummary
    rw [Dict.get?_ofPairs_map, if_pos hlimit]
    exact ⟨_, rfl⟩
  case complete =>
    intro limit summary hget
    obtain ⟨-, rfl⟩ := hsome limit summary hget
    exact hkeys limit
  case average =>
    intro limit summary hget question hquestion hdataset
    obtain ⟨hlimit, rfl⟩ := hsome limit summary hget
    obtain ⟨scores, hscores, -, heq⟩ := question.countersAt_eq hlimit
    refine ⟨scores, hscores, ?_⟩
    apply Dict.get?_of_mem
    · change (Dict.keys (questionAverages config.n limit _)).Nodup
      rw [hkeys limit]
      exact List.nodup_range
    · apply List.mem_map.mpr
      refine ⟨question.result, mem_datasetRecords.mpr ⟨List.mem_map_of_mem hquestion, hdataset⟩, ?_⟩
      rw [heq]
      rfl
  case avg_eq_mean =>
    intro limit summary hget
    obtain ⟨-, rfl⟩ := hsome limit summary hget
    exact summaryOf_avg
  case avg_le_pass =>
    intro limit summary hget
    obtain ⟨hlimit, rfl⟩ := hsome limit summary hget
    apply summaryOf_avg_le_pass config.n_pos hne
    intro record hmem
    obtain ⟨question, rfl⟩ := hrecord record hmem
    exact question.wellCounted.correct limit hlimit
  case pass_le =>
    intro limit summary hget
    obtain ⟨-, rfl⟩ := hsome limit summary hget
    exact summaryOf_pass_le config.n_pos
  case meanLength_mono =>
    intro limit summary limit' summary' hle hget hget'
    obtain ⟨hlimit, rfl⟩ := hsome limit summary hget
    obtain ⟨hlimit', rfl⟩ := hsome limit' summary' hget'
    apply summaryOf_meanLength_mono
    intro record hmem
    obtain ⟨question, rfl⟩ := hrecord record hmem
    exact (question.counts_mono hlimit hlimit' hle).1
  case truncationRate_anti =>
    intro limit summary limit' summary' hle hget hget'
    obtain ⟨hlimit, rfl⟩ := hsome limit summary hget
    obtain ⟨hlimit', rfl⟩ := hsome limit' summary' hget'
    apply summaryOf_truncationRate_anti
    intro record hmem
    obtain ⟨question, rfl⟩ := hrecord record hmem
    exact (question.counts_mono hlimit hlimit' hle).2

/-- At a limit that cuts none of its completions, a question counts the untruncated ones. -/
theorem ScoredQuestion.counts_full (hlimit : limit ∈ config.lengthControl)
    (hall : ∀ completion ∈ question.completions, completion.tokenIds.length ≤ limit) : ∃ scores,
    question.completions.mapM (fullScore (verifyFor engine question.task)) = .ok scores ∧
    Dict.get? question.result.lengths limit = some (Counters.ofScores scores) := by
  obtain ⟨scores, hscores, hget, -⟩ := question.countersAt_eq hlimit
  rw [mapM_congr fun completion hcompletion => scoreAt_eq_fullScore (hall completion hcompletion)]
    at hscores
  exact ⟨scores, hscores, hget⟩

/-- The answers to the first task are right as a whole and cut after one token. -/
def twoScoredQuestions : List (ScoredQuestion twoGpus echoEngine []) :=
  [{ task := ⟨"AMC".toList, 0, "7".toList, [55, 0, 9]⟩
     completions := echoEngine.generate [55, 0, 9]
     result := ⟨"AMC".toList, 0, [(1, ⟨1, 1, 1, 1⟩), (3, ⟨1, 1, 3, 0⟩)], none⟩
     returned := by decide +kernel },
   { task := ⟨"AMC".toList, 1, "78".toList, [55, 56]⟩
     completions := echoEngine.generate [55, 56]
     result := ⟨"AMC".toList, 1, [(1, ⟨1, 0, 1, 1⟩), (3, ⟨1, 1, 2, 0⟩)], none⟩
     returned := by decide +kernel }]

/-- A file with the two tasks. -/
def twoQuestionsFile : QuestionFile where
  path := "val.json"
  stem := "val".toList
  payload := .array [
    .object [("question".toList, .str "x".toList), ("answer".toList, .str "7".toList),
      ("type".toList, .str "AMC".toList)],
    .object [("question".toList, .str "y".toList), ("answer".toList, .str "78".toList),
      ("type".toList, .str "AMC".toList)]]

theorem load_twoQuestionsFile :
    loadQuestionRecords stringsOnly twoGpus.valDatasets [twoQuestionsFile] =
      .ok ([⟨"AMC".toList, 0, "x".toList, "7".toList⟩, ⟨"AMC".toList, 1, "y".toList, "78".toList⟩],
        [("AMC".toList, 2)]) := by decide +kernel

example :
    (aggregateQuestionResults String.ofList (twoScoredQuestions.map ScoredQuestion.result)
        [("AMC".toList, 2)] twoGpus.valDatasets twoGpus.lengthControl twoGpus.n).toOption =
      some [("AMC".toList, [(1, ⟨1 / 2, 1 / 2, 1, 1, [(0, 1), (1, 0)]⟩),
        (3, ⟨1, 1, 5 / 2, 0, [(0, 1), (1, 1)]⟩)])] := by
  decide +kernel

end R2opl
