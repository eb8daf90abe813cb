import R2opl.Controller.R2opl
import R2opl.Controller.Correct
import Mathlib.Algebra.Order.Ring.Rat
import Mathlib.Algebra.Field.Rat
import Mathlib.Tactic.NormNum

/-!
# The controllers implement one rule

The rule: a genuine row is correct when its verifier score is one, and its
difficulty is one minus the share of correct rows among the genuine rows of its
prompt group; a padding row is neither correct nor difficult.  All four
controllers accept the same batches and follow it, and the rule commutes with
every reordering of the rows.
-/

namespace R2opl

open Checked

variable {K : Type} [Field K] [LinearOrder K]

/-- The inputs of the controllers, each of which takes its own part of them. -/
structure ControllerInput (K : Type) where
  oldLogProbs : Tensor (Flt K)
  teacherLogProbs : Tensor (Flt K)
  responseMask : Tensor Bool
  verifierRewards : Tensor (Flt K)
  promptGroupIds : List String
  genuineTrajectoryMask : Option (Tensor Bool)
  lambda_ : Flt K
  baseMiu : Flt K
  correctMiu : Flt K

/-- What the controllers are compared on. -/
structure Outcome (K : Type) where
  correctness : Tensor Bool
  difficulty : Tensor (Flt K)
  groupSuccess : List (Flt K)

inductive Controller where
  | controllerBatch
  | batch
  | base
  | correct
deriving DecidableEq, Repr

/-- A controller on its part of the input, without probe masks. -/
def Controller.run [ToString K] (controller : Controller) (input : ControllerInput K) :
    Except PyError (Outcome K) :=
  match controller with
  | .controllerBatch => do
      let result ← computeR2oplControllerBatch input.responseMask input.verifierRewards
        input.promptGroupIds input.genuineTrajectoryMask
      return ⟨result.correctness, result.difficulty, result.groupSuccess⟩
  | .batch => do
      let result ← computeR2oplBatch input.responseMask input.verifierRewards
        input.promptGroupIds input.genuineTrajectoryMask
      return ⟨result.correctness, result.difficulty, result.groupSuccess⟩
  | .base => do
      let result ← computeR2oplBaseBatch input.oldLogProbs input.teacherLogProbs
        input.responseMask input.verifierRewards input.promptGroupIds input.lambda_
        input.baseMiu none none input.genuineTrajectoryMask
      return ⟨result.correctness, result.difficulty, result.groupSuccess⟩
  | .correct => do
      let result ← computeCorrectR2oplBatch input.responseMask input.verifierRewards
        input.promptGroupIds input.correctMiu none none input.genuineTrajectoryMask
      return ⟨result.correctness, result.difficulty, result.groupSuccess⟩

namespace ControllerInput

variable (input : ControllerInput K)

def batchSize : Nat := input.responseMask.size 0

def genuine : Tensor Bool := genuineMask input.batchSize input.genuineTrajectoryMask

/-- Finite log-probabilities of the shape of the response mask, and coefficients in
    their ranges. -/
structure Valid : Prop where
  student_shape : input.oldLogProbs.shape = input.responseMask.shape
  teacher_shape : input.teacherLogProbs.shape = input.responseMask.shape
  student_finite : ∀ row < input.responseMask.size 0, ∀ column < input.responseMask.size 1,
    (input.oldLogProbs.at2 row column).isFinite = true
  teacher_finite : ∀ row < input.responseMask.size 0, ∀ column < input.responseMask.size 1,
    (input.teacherLogProbs.at2 row column).isFinite = true
  lambda_ : ∃ x, 0 ≤ x ∧ input.lambda_ = .fin x
  baseMiu : ∃ x, 0 < x ∧ input.baseMiu = .fin x
  correctMiu : ∃ x, 0 < x ∧ input.correctMiu = .fin x

/-- The batch with its rows reordered: row `i` is the old row `source i`. -/
def reorder (source : Nat → Nat) : ControllerInput K :=
  { input with
    oldLogProbs := input.oldLogProbs.reorder source
    teacherLogProbs := input.teacherLogProbs.reorder source
    responseMask := input.responseMask.reorder source
    verifierRewards := input.verifierRewards.reorder source
    promptGroupIds := (List.range input.promptGroupIds.length).map fun row =>
      groupId input.promptGroupIds (source row)
    genuineTrajectoryMask := input.genuineTrajectoryMask.map (Tensor.reorder source) }

/-- The outcome the rule prescribes. -/
def outcome : Outcome K :=
  let correctness := correctRows input.batchSize (rowRewards input.verifierRewards)
    input.genuine
  let statistics := groupStatistics input.batchSize input.promptGroupIds input.genuine
    correctness
  ⟨correctness, statistics.difficulty, statistics.groupSuccess⟩

/-- The batches the rule accepts. -/
def Accepted : Prop :=
  Admissible input.responseMask input.verifierRewards input.promptGroupIds
    input.genuineTrajectoryMask

end ControllerInput

/-! ### Every controller follows the rule -/

/-- Without probe masks nothing is rescued. -/
theorem rescuedCorrectRows_none (batchSize : Nat) (rewards : Tensor (Flt K))
    (genuine : Tensor Bool) :
    rescuedCorrectRows batchSize rewards
        (rescuedRows batchSize rewards (flagMask batchSize none) (flagMask batchSize none))
        genuine = correctRows batchSize rewards genuine := by
  rw [rescuedCorrectRows, correctRows]
  congr 1
  funext row
  simp [rescuedRows, flagMask]

section Runs

variable [ToString K] {input : ControllerInput K}

omit [Field K] [LinearOrder K] [ToString K] in
theorem FiniteOn.of_all {values : Tensor (Flt K)} {responseMask rows : Tensor Bool}
    (h : ∀ row < responseMask.size 0, ∀ column < responseMask.size 1,
      (values.at2 row column).isFinite = true) :
    FiniteOn values (maskRows responseMask rows) :=
  fun row hrow column hcolumn _ => h row hrow column hcolumn

omit [ToString K] in
theorem ControllerInput.Valid.baseAdmissible (h : input.Valid) :
    BaseAdmissible input.oldLogProbs input.teacherLogProbs input.responseMask input.lambda_
      input.baseMiu none none input.genuineTrajectoryMask where
  student_shape := h.student_shape
  teacher_shape := h.teacher_shape
  lambda_ := h.lambda_
  miu := h.baseMiu
  truncated_shape := fun _ hnone => nomatch hnone
  probe_shape := fun _ hnone => nomatch hnone
  student_finite := FiniteOn.of_all h.student_finite
  teacher_finite := FiniteOn.of_all h.teacher_finite

/-- **The rule.**  A controller returns exactly on the accepted batches, and
    returns the prescribed outcome. -/
theorem Controller.run_eq_ok (hvalid : input.Valid) (controller : Controller)
    {outcome : Outcome K} :
    controller.run input = .ok outcome ↔ input.Accepted ∧ outcome = input.outcome := by
  cases controller with
  | controllerBatch =>
    simp only [Controller.run, bind_eq_ok, computeR2oplControllerBatch_eq_ok, pure_eq_ok,
      Except.ok.injEq]
    constructor
    · rintro ⟨_, ⟨haccepted, rfl⟩, rfl⟩
      exact ⟨haccepted, rfl⟩
    · rintro ⟨haccepted, rfl⟩
      exact ⟨_, ⟨haccepted, rfl⟩, rfl⟩
  | batch =>
    simp only [Controller.run, bind_eq_ok, computeR2oplBatch_eq_ok, pure_eq_ok,
      Except.ok.injEq]
    constructor
    · rintro ⟨_, ⟨haccepted, rfl⟩, rfl⟩
      exact ⟨haccepted, rfl⟩
    · rintro ⟨haccepted, rfl⟩
      exact ⟨_, ⟨haccepted, rfl⟩, rfl⟩
  | base =>
    have hresult : ∀ result : R2OPLBaseBatchResult K,
        computeR2oplBaseBatch input.oldLogProbs input.teacherLogProbs input.responseMask
          input.verifierRewards input.promptGroupIds input.lambda_ input.baseMiu none none
          input.genuineTrajectoryMask = .ok result →
        input.Accepted ∧
          (⟨result.correctness, result.difficulty, result.groupSuccess⟩ : Outcome K) =
            input.outcome := by
      intro result hrun
      obtain ⟨haccepted, _, heq⟩ := computeR2oplBaseBatch_eq_ok hrun
      refine ⟨haccepted, ?_⟩
      rw [heq]
      simp only [baseBatchResult, rescuedCorrectRows_none]
      rfl
    simp only [Controller.run, bind_eq_ok, pure_eq_ok, Except.ok.injEq]
    constructor
    · rintro ⟨result, hrun, rfl⟩
      exact hresult result hrun
    · rintro ⟨haccepted, rfl⟩
      obtain ⟨result, hrun⟩ := computeR2oplBaseBatch_returns haccepted hvalid.baseAdmissible
      exact ⟨result, hrun, (hresult result hrun).2⟩
  | correct =>
    have houtcome : ∀ result, result = correctBatchResult input.responseMask
        (rowRewards input.verifierRewards) input.promptGroupIds input.genuine
        (flagMask input.batchSize none) (flagMask input.batchSize none) input.correctMiu →
        (⟨result.correctness, result.difficulty, result.groupSuccess⟩ : Outcome K) =
          input.outcome := by
      rintro _ rfl
      simp only [correctBatchResult, ControllerInput.batchSize, rescuedCorrectRows_none]
      rfl
    simp only [Controller.run, bind_eq_ok, computeCorrectR2oplBatch_eq_ok, pure_eq_ok,
      Except.ok.injEq]
    constructor
    · rintro ⟨result, ⟨haccepted, _, _, _, hresult⟩, rfl⟩
      exact ⟨haccepted, houtcome result hresult⟩
    · rintro ⟨haccepted, rfl⟩
      exact ⟨_, ⟨haccepted, hvalid.correctMiu, (fun _ hnone => nomatch hnone),
        (fun _ hnone => nomatch hnone), rfl⟩, houtcome _ rfl⟩

end Runs

/-! ### Reordering the rows -/

section Reorder

variable {input : ControllerInput K} {source : Equiv.Perm Nat}

theorem genuineMask_reorder (batchSize : Nat) (mask : Option (Tensor Bool)) (row : Nat) :
    (genuineMask batchSize (mask.map (Tensor.reorder source))).at1 row =
      (genuineMask batchSize mask).at1 (source row) := by
  cases mask with
  | none => rfl
  | some given => rfl

omit [LinearOrder K] in
theorem rowRewards_reorder (rewards : Tensor (Flt K)) (row : Nat) :
    (rowRewards (rewards.reorder source)).at1 row =
      (rowRewards rewards).at1 (source row) := by
  rw [rowRewards, rowRewards, show (rewards.reorder source).ndim = rewards.ndim from rfl]
  split
  · rfl
  · rfl

omit [Field K] [LinearOrder K] in
theorem groupId_reorder {row : Nat} (hrow : row < input.promptGroupIds.length) :
    groupId (input.reorder source).promptGroupIds row =
      groupId input.promptGroupIds (source row) := by
  rw [groupId, ControllerInput.reorder, List.getD_eq_getElem?_getD, List.getElem?_map,
    List.getElem?_range hrow]
  rfl

theorem emptyRows_eq_nil {responseMask genuine : Tensor Bool} :
    emptyRows responseMask genuine = [] ↔ ∀ row < responseMask.size 0,
      ¬ (genuine.at1 row && tokenCount (maskRows responseMask genuine) row = 0) = true := by
  simp [emptyRows]

/-- Whether a batch is accepted does not depend on the order of its rows. -/
theorem ControllerInput.accepted_reorder
    (hkeeps : ∀ row, source row < input.batchSize ↔ row < input.batchSize) :
    (input.reorder source).Accepted ↔ input.Accepted := by
  have hgenuine : ∀ row, (genuineMask input.batchSize
      (input.genuineTrajectoryMask.map (Tensor.reorder source))).at1 row =
        input.genuine.at1 (source row) := genuineMask_reorder _ _
  have htokens := Share.forall_lt_comp source hkeeps fun row =>
    ¬ (input.genuine.at1 row &&
      tokenCount (maskRows input.responseMask input.genuine) row = 0) = true
  have hbinary := Share.forall_lt_comp source hkeeps fun row =>
    input.genuine.at1 row = true →
      isBinary ((rowRewards input.verifierRewards).at1 row) = true
  have hsome := Share.exists_lt_comp source hkeeps fun row => input.genuine.at1 row = true
  have hcount : ∀ row, tokenCount (maskRows (input.responseMask.reorder source)
      (genuineMask input.batchSize
        (input.genuineTrajectoryMask.map (Tensor.reorder source)))) row =
      tokenCount (maskRows input.responseMask input.genuine) (source row) := by
    intro row
    simp only [tokenCount, Tensor.row, maskRows, Tensor.at2_mat, Tensor.at2_reorder, hgenuine]
    rfl
  constructor
  · intro h
    refine ⟨h.mask_ndim, ?_, ?_, h.rewards_ndim, h.rewards_size, ?_, ?_, ?_⟩
    · have hlength := h.ids_length
      simp only [ControllerInput.reorder, List.length_map, List.length_range] at hlength
      exact hlength
    · intro given hgiven
      exact h.genuine_shape (given.reorder source) (congrArg (Option.map _) hgiven)
    · refine emptyRows_eq_nil.mpr (htokens.mp fun row hrow => ?_)
      have hempty := emptyRows_eq_nil.mp h.tokens row hrow
      rw [← hgenuine, ← hcount]
      exact hempty
    · refine hbinary.mp fun row hrow hselected => ?_
      rw [← rowRewards_reorder]
      exact h.binary row hrow ((hgenuine row).trans hselected)
    · obtain ⟨row, hrow, hselected⟩ := h.some_genuine
      exact hsome.mp ⟨row, hrow, (hgenuine row).symm.trans hselected⟩
  · intro h
    refine ⟨h.mask_ndim, ?_, ?_, h.rewards_ndim, h.rewards_size, ?_, ?_, ?_⟩
    · simp only [ControllerInput.reorder, List.length_map, List.length_range]
      exact h.ids_length
    · intro given hgiven
      obtain ⟨original, horiginal, rfl⟩ := Option.map_eq_some_iff.mp hgiven
      exact h.genuine_shape original horiginal
    · refine emptyRows_eq_nil.mpr fun row hrow => ?_
      have hempty := htokens.mpr (emptyRows_eq_nil.mp h.tokens) row hrow
      rw [← hgenuine, ← hcount] at hempty
      exact hempty
    · intro row hrow hselected
      have h' := hbinary.mpr h.binary row hrow ((hgenuine row).symm.trans hselected)
      rw [← rowRewards_reorder] at h'
      exact h'
    · obtain ⟨row, hrow, hselected⟩ := hsome.mpr h.some_genuine
      exact ⟨row, hrow, (hgenuine row).trans hselected⟩

theorem ControllerInput.Valid.reorder (h : input.Valid)
    (hkeeps : ∀ row, source row < input.batchSize ↔ row < input.batchSize) :
    (input.reorder source).Valid where
  student_shape := h.student_shape
  teacher_shape := h.teacher_shape
  student_finite := fun row hrow column hcolumn =>
    h.student_finite (source row) ((hkeeps row).mpr hrow) column hcolumn
  teacher_finite := fun row hrow column hcolumn =>
    h.teacher_finite (source row) ((hkeeps row).mpr hrow) column hcolumn
  lambda_ := h.lambda_
  baseMiu := h.baseMiu
  correctMiu := h.correctMiu

theorem correctness_reorder (row : Nat) :
    (input.reorder source).outcome.correctness.at1 row =
      input.outcome.correctness.at1 (source row) := by
  simp only [ControllerInput.outcome, correctRows, Tensor.at1_vec]
  apply congrArg₂ (fun reward genuine => Flt.eq reward 1 && genuine)
  · exact rowRewards_reorder input.verifierRewards row
  · exact genuineMask_reorder input.batchSize input.genuineTrajectoryMask row

end Reorder

/-! ### One rule -/

section Rule

variable [IsStrictOrderedRing K] {input : ControllerInput K}

/-- The difficulty the rule gives a row. -/
def ruleDifficulty (input : ControllerInput K) (row : Nat) : K :=
  if input.genuine.at1 row then
    groupDifficulty K input.promptGroupIds input.genuine input.outcome.correctness
      (groupId input.promptGroupIds row)
  else 0

theorem outcome_difficulty (haccepted : input.Accepted) {row : Nat}
    (hrow : row < input.batchSize) :
    input.outcome.difficulty.at1 row = .fin (ruleDifficulty input row) := by
  have hrow' : row < input.promptGroupIds.length := by
    rw [haccepted.ids_length]
    exact hrow
  by_cases hgenuine : input.genuine.at1 row = true
  · rw [ruleDifficulty, if_pos hgenuine]
    exact difficulty_of_genuine hrow' hgenuine
  · rw [ruleDifficulty, if_neg hgenuine]
    exact difficulty_of_padding hrow' (by simpa using hgenuine)

omit [IsStrictOrderedRing K] in
theorem ruleDifficulty_reorder (haccepted : input.Accepted) {source : Equiv.Perm Nat}
    (hkeeps : ∀ row, source row < input.batchSize ↔ row < input.batchSize) {row : Nat}
    (hrow : row < input.batchSize) :
    ruleDifficulty (input.reorder source) row = ruleDifficulty input (source row) := by
  have hlength := haccepted.ids_length
  have hids : (input.reorder source).promptGroupIds.length = input.batchSize := by
    simp only [ControllerInput.reorder, List.length_map, List.length_range]
    exact hlength
  have hgenuine : ∀ i, (input.reorder source).genuine.at1 i = input.genuine.at1 (source i) :=
    genuineMask_reorder _ _
  have hgroup : ∀ i < input.batchSize, groupId (input.reorder source).promptGroupIds i =
      groupId input.promptGroupIds (source i) := fun i hi =>
    groupId_reorder (hlength ▸ hi)
  -- the members of a group are reordered, and its share of correct rows stays
  have hindices : groupIndices (input.reorder source).promptGroupIds
      (input.reorder source).genuine (groupId input.promptGroupIds (source row)) =
      (List.range input.batchSize).filter fun i =>
        (groupId input.promptGroupIds (source i) =
          groupId input.promptGroupIds (source row)) && input.genuine.at1 (source i) := by
    rw [groupIndices, hids]
    apply List.filter_congr
    intro i hi
    rw [hgroup i (List.mem_range.mp hi), hgenuine]
  have hshare := Share.share_filter_range_comp (K := K) source hkeeps
    (fun i => (groupId input.promptGroupIds i =
      groupId input.promptGroupIds (source row)) && input.genuine.at1 i)
    input.outcome.correctness.at1
  rw [ruleDifficulty, ruleDifficulty, hgenuine, groupDifficulty, groupDifficulty,
    hgroup row hrow, hindices,
    show (input.reorder source).outcome.correctness.at1 =
      fun i => input.outcome.correctness.at1 (source i) from funext correctness_reorder,
    hshare, groupIndices, hlength]
  rfl

variable [ToString K]

/-- **The four controllers implement one rule.**  They accept the same batches and
    agree on correctness, difficulty and group success; the difficulty of a
    genuine row is one minus the share of correct rows among the genuine rows of
    its group, that of a padding row is zero; incorrect genuine rows have
    positive difficulty, correct rows a difficulty below one; and reordering the
    rows reorders acceptance, correctness and difficulty with them. -/
theorem controllers_implement_one_rule (hvalid : input.Valid) :
    (∀ left right : Controller, Returns (left.run input) ↔ Returns (right.run input)) ∧
    (∀ (left right : Controller) (first second : Outcome K),
      left.run input = .ok first → right.run input = .ok second → first = second) ∧
    (∀ (controller : Controller) (outcome : Outcome K),
      controller.run input = .ok outcome → ∀ row < input.batchSize,
        outcome.difficulty.at1 row = .fin
          (if input.genuine.at1 row then
            1 - Share.share K outcome.correctness.at1
              ((List.range input.promptGroupIds.length).filter fun other =>
                groupId input.promptGroupIds other = groupId input.promptGroupIds row &&
                  input.genuine.at1 other)
          else 0) ∧
        (input.genuine.at1 row = true → outcome.correctness.at1 row = false →
          Flt.lt 0 (outcome.difficulty.at1 row) = true) ∧
        (outcome.correctness.at1 row = true →
          Flt.lt (outcome.difficulty.at1 row) 1 = true)) ∧
    (∀ (controller : Controller) (source : Equiv.Perm Nat),
      (∀ row, source row < input.batchSize ↔ row < input.batchSize) →
      (Returns (controller.run (input.reorder source)) ↔ Returns (controller.run input)) ∧
      ∀ outcome permuted : Outcome K, controller.run input = .ok outcome →
        controller.run (input.reorder source) = .ok permuted → ∀ row < input.batchSize,
          permuted.correctness.at1 row = outcome.correctness.at1 (source row) ∧
          permuted.difficulty.at1 row = outcome.difficulty.at1 (source row)) := by
  have hreturns : ∀ (batch : ControllerInput K), batch.Valid → ∀ controller : Controller,
      Returns (controller.run batch) ↔ batch.Accepted := by
    intro batch hbatch controller
    simp only [Returns, Controller.run_eq_ok hbatch, exists_and_left, exists_eq, and_true]
  refine ⟨?_, ?_, ?_, ?_⟩
  · intro left right
    rw [hreturns input hvalid, hreturns input hvalid]
  · intro left right first second hfirst hsecond
    rw [((Controller.run_eq_ok hvalid left).mp hfirst).2,
      ((Controller.run_eq_ok hvalid right).mp hsecond).2]
  · intro controller outcome hrun row hrow
    obtain ⟨haccepted, rfl⟩ := (Controller.run_eq_ok hvalid controller).mp hrun
    have hrow' : row < input.promptGroupIds.length := by
      rw [haccepted.ids_length]
      exact hrow
    have hdifficulty := outcome_difficulty haccepted hrow
    refine ⟨hdifficulty, ?_, ?_⟩
    · intro hgenuine hincorrect
      rw [hdifficulty, Flt.zero_eq, Flt.lt_fin, decide_eq_true_eq, ruleDifficulty,
        if_pos hgenuine]
      exact groupDifficulty_pos hrow' hgenuine hincorrect
    · intro hcorrect
      have hgenuine : input.genuine.at1 row = true := (Bool.and_eq_true _ _ ▸ hcorrect).2
      rw [hdifficulty, Flt.one_eq, Flt.lt_fin, decide_eq_true_eq, ruleDifficulty,
        if_pos hgenuine]
      exact groupDifficulty_lt_one hrow' hgenuine hcorrect
  · intro controller source hkeeps
    have hpermuted := hvalid.reorder hkeeps
    refine ⟨?_, ?_⟩
    · rw [hreturns _ hpermuted, hreturns _ hvalid, ControllerInput.accepted_reorder hkeeps]
    · intro outcome permuted hrun hrunPermuted row hrow
      obtain ⟨haccepted, rfl⟩ := (Controller.run_eq_ok hvalid controller).mp hrun
      obtain ⟨haccepted', rfl⟩ := (Controller.run_eq_ok hpermuted controller).mp hrunPermuted
      refine ⟨correctness_reorder row, ?_⟩
      rw [outcome_difficulty haccepted' hrow,
        outcome_difficulty haccepted ((hkeeps row).mpr hrow),
        ruleDifficulty_reorder haccepted hkeeps hrow]

end Rule

/-- Two genuine rows of one prompt, the first one correct, and a padding row that
    repeats the prompt's id. -/
def mixedGroup : ControllerInput ℚ where
  oldLogProbs := .mat 3 1 fun _ _ => .fin (-1)
  teacherLogProbs := .mat 3 1 fun _ _ => .fin (-2)
  responseMask := .mat 3 1 fun _ _ => true
  verifierRewards := .vec 3 fun row => if row = 1 then 0 else 1
  promptGroupIds := ["a", "a", "a"]
  genuineTrajectoryMask := some (.vec 3 fun row => decide (row < 2))
  lambda_ := .fin (1 / 10)
  baseMiu := .fin 16
  correctMiu := .fin 16

theorem mixedGroup_valid : mixedGroup.Valid where
  student_shape := rfl
  teacher_shape := rfl
  student_finite := fun _ _ _ _ => rfl
  teacher_finite := fun _ _ _ _ => rfl
  lambda_ := ⟨1 / 10, by norm_num, rfl⟩
  baseMiu := ⟨16, by norm_num, rfl⟩
  correctMiu := ⟨16, by norm_num, rfl⟩

theorem mixedGroup_accepted : mixedGroup.Accepted where
  mask_ndim := rfl
  ids_length := rfl
  genuine_shape := by
    rintro _ ⟨⟩
    exact ⟨rfl, rfl⟩
  rewards_ndim := .inr rfl
  rewards_size := rfl
  tokens := by decide
  binary := by decide
  some_genuine := ⟨0, by decide, rfl⟩

/-- The base controller returns on this batch as the trainer's does, and finds the
    incorrect row difficult. -/
theorem controllers_implement_one_rule_mixed_group :
    ∃ outcome, Controller.base.run mixedGroup = .ok outcome ∧
      Flt.lt 0 (outcome.difficulty.at1 1) = true := by
  obtain ⟨hsame, _, hrule, _⟩ := controllers_implement_one_rule mixedGroup_valid
  have hrun := (Controller.run_eq_ok mixedGroup_valid .controllerBatch).mpr
    ⟨mixedGroup_accepted, rfl⟩
  obtain ⟨outcome, houtcome⟩ := (hsame .controllerBatch .base).mp ⟨_, hrun⟩
  refine ⟨outcome, houtcome, (hrule .base outcome houtcome 1 (by decide)).2.1 rfl ?_⟩
  rw [((Controller.run_eq_ok mixedGroup_valid .base).mp houtcome).2]
  decide

end R2opl
