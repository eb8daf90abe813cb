import R2opl.Probe.Ranges

/-!
# Packed probe layouts

`build_r2opl_probe_layout` and `validate_r2opl_probe_layout` of
`utils/r2opl.py`.  For a response of `K ≥ 2` semantic steps the builder appends
`K` copies of one answer probe after the untouched prompt and response; copy
`j` is a *branch* whose logical prefix is the prompt and the steps before
boundary `j`.
-/

namespace R2opl

open Checked

/-! ### Data -/

/-- A separately tokenized probe and its scored token positions. -/
structure AnswerProbe where
  text : PyStr
  tokenIds : List Int
  answerTokenPositions : List Int
  answerCharStart : Nat
  answerCharEnd : Nat
deriving DecidableEq, Repr

/-- Physical and logical placement of one appended answer-probe branch. -/
structure R2OPLProbeBranch where
  index : Nat
  afterStepIndex : Option Nat
  visiblePrefixEnd : Nat
  probeStart : Nat
  probeEnd : Nat
  answerTokenPositions : List Nat
deriving DecidableEq, Repr

/-- One packed sequence plus all metadata needed to score its probes. -/
structure R2OPLProbeLayout where
  sequenceIds : List Int
  positionIds : List Nat
  originalSequenceLength : Nat
  promptLength : Nat
  responseLength : Nat
  semanticStepRanges : List (Nat × Nat)
  probeTokenIds : List Int
  branches : List R2OPLProbeBranch
deriving DecidableEq, Repr

def R2OPLProbeLayout.numSemanticSteps (layout : R2OPLProbeLayout) : Nat :=
  layout.semanticStepRanges.length

/-- `str(after_step_index)`. -/
def afterStepText : Option Nat → String
  | none => "None"
  | some step => toString step

/-- The dataclass text of a branch, as error messages print it. -/
def R2OPLProbeBranch.text (branch : R2OPLProbeBranch) : String :=
  s!"R2OPLProbeBranch(index={branch.index}, after_step_index={afterStepText branch.afterStepIndex}, " ++
  s!"visible_prefix_end={branch.visiblePrefixEnd}, probe_start={branch.probeStart}, " ++
  s!"probe_end={branch.probeEnd}, answer_token_positions=" ++
  tupleText (branch.answerTokenPositions.map toString) ++ ")"

/-! ### Validation -/

/-- The checks on one branch, given its expected index and the physical end of
    the branch before it. -/
def validateBranch (layout : R2OPLProbeLayout) (ranges : List (Nat × Nat))
    (expectedIndex previousProbeEnd : Nat) (branch : R2OPLProbeBranch) :
    Except PyError Unit := do
  let expectedAfterStep := if expectedIndex = 0 then none else some (expectedIndex - 1)
  let expectedResponseEnd :=
    if expectedIndex = 0 then 0 else (ranges.getD (expectedIndex - 1) (0, 0)).2
  let expectedVisiblePrefixEnd := layout.promptLength + expectedResponseEnd
  let probeLength := layout.probeTokenIds.length
  raiseIf (branch.index ≠ expectedIndex)
    (valueError "R2OPL probe branch indices must be consecutive from zero.")
  raiseIf (branch.afterStepIndex ≠ expectedAfterStep) (valueError
    s!"R2OPL branch {branch.index} has after_step_index={afterStepText branch.afterStepIndex}, expected {afterStepText expectedAfterStep}.")
  raiseIf (branch.visiblePrefixEnd ≠ expectedVisiblePrefixEnd)
    (valueError s!"R2OPL branch {branch.index} has incorrect visible prefix length.")
  raiseIf (branch.probeStart ≠ previousProbeEnd)
    (valueError "R2OPL probe branches must be physically contiguous.")
  raiseIf (¬ (1 ≤ branch.visiblePrefixEnd ∧
      branch.visiblePrefixEnd ≤ layout.originalSequenceLength ∧
      layout.originalSequenceLength ≤ branch.probeStart ∧
      branch.probeStart < branch.probeEnd ∧
      branch.probeEnd ≤ layout.sequenceIds.length))
    (valueError s!"Invalid R2OPL probe branch: {branch.text}.")
  raiseIf (branch.probeEnd - branch.probeStart ≠ probeLength)
    (valueError s!"R2OPL branch {branch.index} has the wrong probe length.")
  raiseIf (slice layout.sequenceIds branch.probeStart branch.probeEnd ≠ layout.probeTokenIds)
    (valueError s!"R2OPL branch {branch.index} does not contain the shared probe IDs.")
  raiseIf (slice layout.positionIds branch.probeStart branch.probeEnd ≠
      List.range' branch.visiblePrefixEnd probeLength)
    (valueError s!"R2OPL branch {branch.index} has incorrect logical position IDs.")
  raiseIf (branch.answerTokenPositions = [])
    (valueError s!"R2OPL branch {branch.index} has no answer-token positions.")
  raiseIf (∃ position ∈ branch.answerTokenPositions,
      (position : Int) - branch.probeStart ≤ 0 ∨
        (position : Int) - branch.probeStart ≥ probeLength)
    (valueError
      s!"R2OPL branch {branch.index} has answer tokens without an in-branch predictor.")

/-- The branch loop; returns the final `previous_probe_end`. -/
def validateBranchesFrom (layout : R2OPLProbeLayout) (ranges : List (Nat × Nat)) :
    Nat → Nat → List R2OPLProbeBranch → Except PyError Nat
  | _, previousProbeEnd, [] => .ok previousProbeEnd
  | expectedIndex, previousProbeEnd, branch :: rest => do
      validateBranch layout ranges expectedIndex previousProbeEnd branch
      validateBranchesFrom layout ranges (expectedIndex + 1) branch.probeEnd rest

/-- The number of branches a response with these steps must carry. -/
def expectedBranchCount (ranges : List (Nat × Nat)) : Nat :=
  if 2 ≤ ranges.length then ranges.length else 0

/-- Lengths are naturals here, so the source's `response_length < 0` check has
    nothing to reject. -/
def validateR2oplProbeLayout (layout : R2OPLProbeLayout) : Except PyError Unit := do
  raiseIf (layout.sequenceIds.length ≠ layout.positionIds.length)
    (valueError "R2OPL sequence IDs and position IDs must have identical length.")
  raiseIf (layout.promptLength = 0)
    (valueError "R2OPL packed layouts require a non-empty prompt.")
  raiseIf (layout.originalSequenceLength ≠ layout.promptLength + layout.responseLength)
    (valueError "R2OPL original sequence length must equal prompt plus response length.")
  raiseIf (¬ (1 ≤ layout.originalSequenceLength ∧
      layout.originalSequenceLength ≤ layout.sequenceIds.length))
    (valueError "R2OPL original sequence length is invalid.")
  raiseIf (slice layout.positionIds 0 layout.originalSequenceLength ≠
      List.range layout.originalSequenceLength)
    (valueError "R2OPL must preserve original prompt/response position IDs exactly.")
  let ranges ← validateSemanticRanges (intRanges layout.semanticStepRanges)
    layout.responseLength
  raiseIf (layout.semanticStepRanges ≠ ranges)
    (valueError "R2OPL semantic step ranges must be integer contiguous ranges.")
  raiseIf (layout.branches ≠ [] ∧ layout.probeTokenIds = [])
    (valueError "R2OPL branches require non-empty probe token IDs.")
  raiseIf (layout.branches.length ≠ expectedBranchCount ranges) (valueError
    s!"R2OPL must include P_0 and one probe after every non-final step; got {layout.branches.length} branches for {ranges.length} semantic steps.")
  let previousProbeEnd ←
    validateBranchesFrom layout ranges 0 layout.originalSequenceLength layout.branches
  raiseIf (previousProbeEnd ≠ layout.sequenceIds.length)
    (valueError "R2OPL packed layout has unassigned trailing tokens.")

/-! ### What validation accepts -/

/-- Branch `index` starts at `start`, continues the logical prefix up to its
    step boundary, and holds one copy of the shared probe. -/
structure BranchAt (layout : R2OPLProbeLayout) (index start : Nat)
    (branch : R2OPLProbeBranch) : Prop where
  index_eq : branch.index = index
  afterStep : branch.afterStepIndex = if index = 0 then none else some (index - 1)
  prefixEnd : branch.visiblePrefixEnd =
    layout.promptLength + (boundaries layout.semanticStepRanges).getD index 0
  start_eq : branch.probeStart = start
  prefix_pos : 1 ≤ branch.visiblePrefixEnd
  prefix_le : branch.visiblePrefixEnd ≤ layout.originalSequenceLength
  original_le : layout.originalSequenceLength ≤ branch.probeStart
  start_lt : branch.probeStart < branch.probeEnd
  end_eq : branch.probeEnd = start + layout.probeTokenIds.length
  end_le : branch.probeEnd ≤ layout.sequenceIds.length
  ids : slice layout.sequenceIds branch.probeStart branch.probeEnd = layout.probeTokenIds
  positions : slice layout.positionIds branch.probeStart branch.probeEnd =
    List.range' branch.visiblePrefixEnd layout.probeTokenIds.length
  answers_ne : branch.answerTokenPositions ≠ []
  answers_inside : ∀ position ∈ branch.answerTokenPositions,
    branch.probeStart < position ∧ position < branch.probeEnd

/-- Branches numbered from `index` and stacked from physical position `start`. -/
def BranchesFrom (layout : R2OPLProbeLayout) :
    Nat → Nat → List R2OPLProbeBranch → Prop
  | _, _, [] => True
  | index, start, branch :: rest =>
      BranchAt layout index start branch ∧
        BranchesFrom layout (index + 1) (start + layout.probeTokenIds.length) rest

/-- The layouts that `validate_r2opl_probe_layout` accepts. -/
structure ValidLayout (layout : R2OPLProbeLayout) : Prop where
  positions_length : layout.sequenceIds.length = layout.positionIds.length
  prompt_pos : 0 < layout.promptLength
  original_eq : layout.originalSequenceLength = layout.promptLength + layout.responseLength
  original_positions : slice layout.positionIds 0 layout.originalSequenceLength =
    List.range layout.originalSequenceLength
  contiguous : Contiguous layout.responseLength layout.semanticStepRanges
  probe_ne : layout.branches ≠ [] → layout.probeTokenIds ≠ []
  branch_count : layout.branches.length = expectedBranchCount layout.semanticStepRanges
  branches : BranchesFrom layout 0 layout.originalSequenceLength layout.branches
  total : layout.sequenceIds.length = layout.originalSequenceLength +
    layout.branches.length * layout.probeTokenIds.length

theorem boundaries_getD (ranges : List (Nat × Nat)) (index : Nat) :
    (boundaries ranges).getD index 0 =
      if index = 0 then 0 else (ranges.getD (index - 1) (0, 0)).2 := by
  cases index with
  | zero => simp [boundaries]
  | succ index =>
    simp only [boundaries, Nat.add_sub_cancel, Nat.succ_ne_zero, if_false,
      List.getD_eq_getElem?_getD, List.getElem?_cons_succ, List.getElem?_map]
    cases ranges[index]? with
    | none => rfl
    | some range => rfl

theorem validateBranch_eq_ok {layout : R2OPLProbeLayout} {index start : Nat}
    {branch : R2OPLProbeBranch} :
    validateBranch layout layout.semanticStepRanges index start branch = .ok () ↔
      BranchAt layout index start branch := by
  simp only [validateBranch, bind_eq_ok, raiseIf_eq_ok, exists_and_left, exists_const,
    not_not, ne_eq, ← boundaries_getD]
  constructor
  · rintro ⟨hindex, hafter, hvisible, hstart, hbounds, hlength, hids, hpositions,
      hne, hinside⟩
    obtain ⟨hpos, hle, horiginal, hlt, hend⟩ := hbounds
    exact {
      index_eq := hindex
      afterStep := hafter
      prefixEnd := hvisible
      start_eq := hstart
      prefix_pos := hpos
      prefix_le := hle
      original_le := horiginal
      start_lt := hlt
      end_eq := by omega
      end_le := hend
      ids := hids
      positions := hpositions
      answers_ne := hne
      answers_inside := by
        intro position hposition
        by_contra hout
        exact hinside ⟨position, hposition, by omega⟩ }
  · intro h
    have hend := h.end_eq
    have hstart := h.start_eq
    refine ⟨h.index_eq, h.afterStep, h.prefixEnd, h.start_eq,
      ⟨h.prefix_pos, h.prefix_le, h.original_le, h.start_lt, h.end_le⟩, by omega,
      h.ids, h.positions, h.answers_ne, ?_⟩
    rintro ⟨position, hposition, hout⟩
    have hinside := h.answers_inside position hposition
    omega

theorem validateBranchesFrom_eq_ok {layout : R2OPLProbeLayout}
    (branches : List R2OPLProbeBranch) :
    ∀ index start final : Nat,
      validateBranchesFrom layout layout.semanticStepRanges index start branches =
          .ok final ↔
        BranchesFrom layout index start branches ∧
          final = start + branches.length * layout.probeTokenIds.length := by
  induction branches with
  | nil =>
    intro index start final
    simp [validateBranchesFrom, BranchesFrom, eq_comm]
  | cons branch rest ih =>
    intro index start final
    have hlength : start + (branch :: rest).length * layout.probeTokenIds.length =
        start + layout.probeTokenIds.length +
          rest.length * layout.probeTokenIds.length := by
      simp only [List.length_cons, Nat.succ_mul]
      omega
    simp only [validateBranchesFrom, bind_eq_ok, BranchesFrom]
    constructor
    · rintro ⟨⟨⟩, hbranch, hrest⟩
      have hat := validateBranch_eq_ok.mp hbranch
      rw [hat.end_eq] at hrest
      obtain ⟨hbranches, rfl⟩ := (ih _ _ _).mp hrest
      exact ⟨⟨hat, hbranches⟩, hlength.symm⟩
    · rintro ⟨⟨hat, hbranches⟩, rfl⟩
      refine ⟨(), validateBranch_eq_ok.mpr hat, ?_⟩
      rw [hat.end_eq, hlength]
      exact (ih _ _ _).mpr ⟨hbranches, rfl⟩

theorem validateR2oplProbeLayout_eq_ok {layout : R2OPLProbeLayout} :
    validateR2oplProbeLayout layout = .ok () ↔ ValidLayout layout := by
  simp only [validateR2oplProbeLayout, bind_eq_ok, raiseIf_eq_ok, exists_and_left,
    exists_const, not_not, ne_eq, validateSemanticRanges_eq_ok]
  constructor
  · rintro ⟨hpositions, hprompt, horiginal, hlower, hpreserve, ranges,
      ⟨hint, hcontiguous⟩, hranges, hprobe, hcount, final, hbranches, hfinal⟩
    subst hranges
    obtain ⟨hchain, rfl⟩ := (validateBranchesFrom_eq_ok _ _ _ _).mp hbranches
    exact {
      positions_length := hpositions
      prompt_pos := Nat.pos_of_ne_zero hprompt
      original_eq := horiginal
      original_positions := hpreserve
      contiguous := hcontiguous
      probe_ne := fun hne hnil => hprobe ⟨hne, hnil⟩
      branch_count := hcount
      branches := hchain
      total := hfinal.symm }
  · intro h
    have hprompt := h.prompt_pos
    have horiginal := h.original_eq
    have htotal := h.total
    refine ⟨h.positions_length, by omega, h.original_eq, by omega,
      h.original_positions, layout.semanticStepRanges, ⟨rfl, h.contiguous⟩, rfl,
      fun hne => h.probe_ne hne.1 hne.2, h.branch_count, _,
      (validateBranchesFrom_eq_ok _ _ _ _).mpr ⟨h.branches, rfl⟩, htotal.symm⟩

end R2opl
