import R2opl.Objective.SinglePrecision
import R2opl.Controller.R2opl
import R2opl.Probe.Batch

/-!
# From layouts to advantages

The step of the trainer that turns packed layouts, probe probabilities and a
controller's outcome into token advantages.  What the builders and controllers
hand over passes every check of the two kernels.  What does not is a coefficient:
an `epsilon` above one, which only the kernels refuse, and an `alpha` beyond single
precision, with which a multiplier is not finite.
-/

namespace R2opl

open Checked BinaryFormat

variable {K : Type} [Field K] [LinearOrder K] [FloorRing K]

/-- `compute_r2opl_token_modulation` on the packed metadata, and
    `r2opl_token_advantage` on its multipliers. -/
def layoutToAdvantage [ToString K] (values : R2OPLHyperparameters K) (batch : R2OPLProbeBatch)
    (probabilities : Tensor (Flt K)) (responseMask : Tensor Bool)
    (studentLogProbs teacherLogProbs : Tensor (Flt K)) (correctMask errorMask : Tensor Bool)
    (difficulty : Tensor (Flt K)) : Except PyError (Tensor (Flt K)) := do
  let modulation ← Single.computeR2oplTokenModulation probabilities responseMask
    batch.semanticStepRanges (some batch.semanticStepMask) (some batch.probeBranchMask)
    values.alphaR values.alphaD values.epsilon
  Single.r2oplTokenAdvantage studentLogProbs teacherLogProbs correctMask errorMask difficulty
    responseMask (some modulation.correctTokenMultiplier)
    (some modulation.errorTokenMultiplier) values.lambda_ values.miu

/-! ### What the pipeline is given -/

/-- One single-precision probability in `[0, 1]` for every branch of the batch. -/
structure BranchProbabilities (batch : R2OPLProbeBatch) (probabilities : Tensor (Flt K)) :
    Prop where
  shape : probabilities.shape = batch.probeBranchMask.shape
  in_unit : ∀ row branch, batch.probeBranchMask.at2 row branch = true →
    ∃ p, 0 ≤ p ∧ p ≤ 1 ∧ binary32.Represents p ∧ probabilities.at2 row branch = .fin p

/-- A response mask of the batch that covers the step ranges of every row. -/
structure CoversSteps (layouts : List R2OPLProbeLayout) (responseMask : Tensor Bool) :
    Prop where
  ndim : responseMask.ndim = 2
  rows : responseMask.size 0 = layouts.length
  covers : ∀ row layout, layouts[row]? = some layout →
    ∀ range ∈ layout.semanticStepRanges, ∀ token, range.1 ≤ token → token < range.2 →
      token < responseMask.size 1 ∧ responseMask.at2 row token = true

/-- The token masks and difficulties made from a controller's outcome: those
    `compute_r2opl_batch` returns, or those the loss makes of the rows that
    `compute_r2opl_controller_batch` found correct. -/
inductive ControllerOutput [ToString K] (responseMask : Tensor Bool) :
    Tensor Bool → Tensor Bool → Tensor (Flt K) → Prop where
  | batch {rewards : Tensor (Flt K)} {ids : List String} {genuine : Option (Tensor Bool)}
      {result : R2OPLBatchResult K}
      (h : computeR2oplBatch responseMask rewards ids genuine = .ok result) :
      ControllerOutput responseMask result.correctMask result.errorMask result.difficulty
  | controllerBatch {rewards : Tensor (Flt K)} {ids : List String}
      {genuine : Option (Tensor Bool)} {result : R2OPLControllerBatchResult K}
      (h : computeR2oplControllerBatch responseMask rewards ids genuine = .ok result) :
      ControllerOutput responseMask (maskRows responseMask result.correctness)
        (maskRows responseMask (result.correctness.map not)) result.difficulty

/-- Log-probabilities of the shape of the response mask, finite on response tokens. -/
structure ResponseLogProbs (responseMask : Tensor Bool) (logProbs : Tensor (Flt K)) :
    Prop where
  shape : logProbs.shape = responseMask.shape
  finite : FiniteOn logProbs responseMask

/-! ### Packed metadata passes the checks -/

section Packed

variable {layouts : List R2OPLProbeLayout} {masks : List (Tensor Bool)} {padTokenId : Int}
  {responseMask : Tensor Bool}

/-- The step counts the kernel reads off a packed batch. -/
def packedCounts (batch : R2OPLProbeBatch) : Tensor Nat :=
  .vec (batch.semanticStepMask.size 0) (tokenCount batch.semanticStepMask)

theorem packedCounts_at1 {row : Nat} {layout : R2OPLProbeLayout}
    (hrow : layouts[row]? = some layout) :
    (packedCounts (packBatch layouts masks padTokenId)).at1 row = layout.numSemanticSteps := by
  apply tokenCount_of_leading
  · intro step _
    simp [packBatch, hrow]
  · exact le_maxOver R2OPLProbeLayout.numSemanticSteps (List.mem_of_getElem? hrow)

/-- The ranges of a row are read back from the packed tensor. -/
theorem rowRanges_packBatch {row : Nat} {layout : R2OPLProbeLayout}
    (hrow : layouts[row]? = some layout) :
    rowRanges (packBatch layouts masks padTokenId).semanticStepRanges row
      layout.numSemanticSteps = intRanges layout.semanticStepRanges := by
  apply List.ext_getElem
  · simp [rowRanges, intRanges, R2OPLProbeLayout.numSemanticSteps]
  · intro step hleft hright
    have hstep : step < layout.semanticStepRanges.length := by
      simpa [intRanges] using hright
    simp [rowRanges, intRanges, packBatch, hrow, padRow, rangeBound, hstep]

theorem TilesFrom.mono {short long : Nat} (ranges : List (Nat × Nat)) :
    ∀ previousEnd, TilesFrom short previousEnd ranges →
      (∀ range ∈ ranges, range.2 ≤ long) → TilesFrom long previousEnd ranges := by
  induction ranges with
  | nil => intro previousEnd _ _; trivial
  | cons range rest ih =>
    obtain ⟨start, stop⟩ := range
    intro previousEnd htiles hends
    obtain ⟨hstart, hlt, _, hrest⟩ := htiles
    refine ⟨hstart, hlt, hends _ List.mem_cons_self, ih stop hrest ?_⟩
    intro range hrange
    exact hends range (List.mem_cons_of_mem _ hrange)

theorem CoversSteps.checkRowRanges (h : CoversSteps layouts responseMask) {row : Nat}
    {layout : R2OPLProbeLayout} (hvalid : ValidLayout layout)
    (hrow : layouts[row]? = some layout) :
    checkRowRanges responseMask row 0 0 (intRanges layout.semanticStepRanges) = .ok () := by
  apply checkRowRanges_of_tiles layout.semanticStepRanges 0 0
  · apply TilesFrom.mono layout.semanticStepRanges 0 hvalid.contiguous
    intro range hrange
    -- the last token of a range is covered, so the range ends inside the response
    obtain ⟨_, hlt, _⟩ := TilesFrom.bounds hvalid.contiguous range hrange
    have hlast := (h.covers row layout hrow range hrange (range.2 - 1)
      (Nat.le_sub_one_of_lt hlt) (Nat.sub_one_lt_of_lt hlt)).1
    omega
  · intro range hrange token hstart hstop
    exact (h.covers row layout hrow range hrange token hstart hstop).2

theorem equalMasks_leadingColumns {mask : Tensor Bool} {counts : Tensor Nat} {width : Nat}
    (hshape : mask.shape = [counts.size 0, width])
    (hentries : ∀ row < counts.size 0, ∀ column < width,
      mask.at2 row column = decide (column < counts.at1 row)) :
    EqualMasks mask (leadingColumns width counts) := by
  refine ⟨hshape, ?_⟩
  rw [Tensor.size, Tensor.size, hshape]
  exact hentries

theorem modulationAdmissible_packBatch {probabilities : Tensor (Flt K)}
    (hvalid : ∀ layout ∈ layouts, ValidLayout layout)
    (hprobabilities : BranchProbabilities (packBatch layouts masks padTokenId) probabilities)
    (hcovers : CoversSteps layouts responseMask) :
    ModulationAdmissible probabilities responseMask
      (packBatch layouts masks padTokenId).semanticStepRanges
      (packBatch layouts masks padTokenId).semanticStepMask
      (packBatch layouts masks padTokenId).probeBranchMask
      (packedCounts (packBatch layouts masks padTokenId)) := by
  have hlayout : ∀ row < layouts.length, ∃ layout, layouts[row]? = some layout ∧
      ValidLayout layout := by
    intro row hrow
    exact ⟨_, List.getElem?_eq_getElem hrow, hvalid _ (List.getElem_mem hrow)⟩
  have hrows : probabilities.size 0 = layouts.length := by
    rw [Tensor.size, hprobabilities.shape]
    rfl
  have hbranches : ∀ {layout}, ValidLayout layout →
      layout.branches.length = requiredBranches layout.numSemanticSteps :=
    fun hlayoutValid => hlayoutValid.branch_count
  have hwidth : probabilities.size 1 =
      maxOver (fun layout => layout.branches.length) layouts := by
    rw [Tensor.size, hprobabilities.shape]
    rfl
  exact {
    probabilities_ndim := by
      rw [Tensor.ndim, hprobabilities.shape]
      rfl
    response_ndim := hcovers.ndim
    ranges_ndim := rfl
    ranges_pairs := rfl
    probabilities_rows := hrows.trans hcovers.rows.symm
    ranges_rows := hcovers.rows.symm
    step_shape := rfl
    counts_eq := rfl
    step_leading := by
      apply equalMasks_leadingColumns rfl
      intro row hrow step _
      obtain ⟨layout, hget, _⟩ := hlayout row hrow
      rw [packedCounts_at1 hget]
      simp [packBatch, hget]
    branch_shape := hprobabilities.shape.symm
    branch_leading := by
      rw [hwidth]
      apply equalMasks_leadingColumns rfl
      intro row hrow branch _
      obtain ⟨layout, hget, hlayoutValid⟩ := hlayout row hrow
      rw [Tensor.at1_map, packedCounts_at1 hget, ← hbranches hlayoutValid]
      simp [packBatch, hget]
    branches_fit := by
      intro row hrow
      rw [hcovers.rows] at hrow
      obtain ⟨layout, hget, hlayoutValid⟩ := hlayout row hrow
      rw [packedCounts_at1 hget, ← hbranches hlayoutValid, hwidth]
      exact le_maxOver (fun layout => layout.branches.length) (List.mem_of_getElem? hget)
    finite := by
      intro row _ branch _ hactive
      obtain ⟨p, _, _, _, hp⟩ := hprobabilities.in_unit row branch hactive
      rw [hp]
      rfl
    in_unit := by
      intro row _ branch _ hactive
      obtain ⟨p, hlow, hhigh, _, hp⟩ := hprobabilities.in_unit row branch hactive
      rw [hp]
      simp [hlow, hhigh]
    ranges_ok := by
      intro row hrow
      rw [hcovers.rows] at hrow
      obtain ⟨layout, hget, hlayoutValid⟩ := hlayout row hrow
      rw [packedCounts_at1 hget, rowRanges_packBatch hget]
      exact hcovers.checkRowRanges hlayoutValid hget }

/-- A packed batch as the input of the modulation kernel. -/
def R2OPLProbeBatch.modulationInput (batch : R2OPLProbeBatch) (probabilities : Tensor (Flt K))
    (responseMask : Tensor Bool) : ModulationInput K :=
  ⟨probabilities, responseMask, batch.semanticStepRanges, some batch.semanticStepMask,
    some batch.probeBranchMask⟩

omit [Field K] [LinearOrder K] [FloorRing K] in
theorem ModulationInput.Row.rowRanges {input : ModulationInput K} {index : Nat}
    {row : SemanticRow K} (h : input.Row index row) :
    R2opl.rowRanges input.semanticStepRanges index row.numSteps = intRanges row.ranges := by
  apply List.ext_getElem
  · simp [R2opl.rowRanges, intRanges, SemanticRow.numSteps]
  · intro step hleft hright
    have hstep : step < row.ranges.length := by
      simpa [intRanges] using hright
    obtain ⟨hstart, hstop⟩ := h.range step _ (List.getElem?_eq_getElem hstep)
    simp [R2opl.rowRanges, intRanges, hstart, hstop]

/-- The row of a layout in a packed batch: the ranges of the layout, and probabilities of the
    format. -/
theorem packed_row {probabilities : Tensor (Flt K)} {row : Nat} {layout : R2OPLProbeLayout}
    (hvalid : ∀ layout ∈ layouts, ValidLayout layout)
    (hprobabilities : BranchProbabilities (packBatch layouts masks padTokenId) probabilities)
    (hcovers : CoversSteps layouts responseMask) (hrow : layouts[row]? = some layout) :
    ∃ semantic : SemanticRow K,
      ((packBatch layouts masks padTokenId).modulationInput probabilities responseMask).Row row
        semantic ∧
      semantic.Valid responseMask row ∧ semantic.ranges = layout.semanticStepRanges ∧
      ∀ branch < requiredBranches semantic.numSteps,
        binary32.Represents (semantic.probability branch) := by
  have hindex : row < responseMask.size 0 := by
    rw [hcovers.rows]
    exact (List.getElem?_eq_some_iff.mp hrow).1
  let input := (packBatch layouts masks padTokenId).modulationInput probabilities responseMask
  have hadmissible : ModulationAdmissible input.probabilities input.responseMask
      input.semanticStepRanges input.stepMask _ _ :=
    modulationAdmissible_packBatch hvalid hprobabilities hcovers
  obtain ⟨semantic, hsemantic, hsemanticValid, hcount, _⟩ := hadmissible.exists_row hindex
  rw [packedCounts_at1 hrow] at hcount
  have hranges : semantic.ranges = layout.semanticStepRanges := by
    have hread := hsemantic.rowRanges
    have hpacked : rowRanges (packBatch layouts masks padTokenId).semanticStepRanges row
        layout.numSemanticSteps = intRanges layout.semanticStepRanges := rowRanges_packBatch hrow
    rw [hcount] at hread
    exact intRanges_injective (hread.symm.trans hpacked)
  refine ⟨semantic, hsemantic, hsemanticValid, hranges, ?_⟩
  intro branch hbranch
  have hbranches : layout.branches.length = requiredBranches layout.numSemanticSteps :=
    (hvalid layout (List.mem_of_getElem? hrow)).branch_count
  have hactive : (packBatch layouts masks padTokenId).probeBranchMask.at2 row branch = true := by
    rw [hcount, ← hbranches] at hbranch
    simp [packBatch, hrow, hbranch]
  obtain ⟨p, _, _, hrepresents, hp⟩ := hprobabilities.in_unit row branch hactive
  rwa [Flt.fin.inj ((hsemantic.probability branch hbranch).symm.trans hp)]

end Packed

/-! ### A controller's outcome passes the checks -/

section Outcome

variable [ToString K] {responseMask correctMask errorMask : Tensor Bool}
  {studentLogProbs teacherLogProbs difficulty : Tensor (Flt K)}

omit [Field K] [LinearOrder K] [ToString K] in
/-- Masks of disjoint rows, with one difficulty a row. -/
theorem advantageAdmissible_of_rows {correctRows errorRows : Tensor Bool}
    (hndim : responseMask.ndim = 2)
    (hdisjoint : ∀ row, ¬ (correctRows.at1 row = true ∧ errorRows.at1 row = true))
    (hdifficulty : difficulty.shape = [responseMask.size 0])
    (hstudent : ResponseLogProbs responseMask studentLogProbs)
    (hteacher : ResponseLogProbs responseMask teacherLogProbs) :
    AdvantageAdmissible studentLogProbs teacherLogProbs difficulty
      (maskRows responseMask correctRows) (maskRows responseMask errorRows)
      responseMask where
  ndim := hndim
  student_shape := hstudent.shape
  teacher_shape := hteacher.shape
  correct_shape := (Tensor.shape_of_ndim hndim).symm
  error_shape := (Tensor.shape_of_ndim hndim).symm
  disjoint := by
    intro row _ column _ hboth
    simp only [maskRows, Tensor.at2_mat, Bool.and_eq_true] at hboth
    exact hdisjoint row ⟨hboth.1.2, hboth.2.2⟩
  inside := by
    intro row _ column _ htoken
    simp only [maskRows, Tensor.at2_mat, Bool.and_eq_true] at htoken
    rcases htoken with hcorrect | herror
    · exact hcorrect.1
    · exact herror.1
  student_finite := hstudent.finite
  teacher_finite := hteacher.finite
  difficulty_shape := hdifficulty

omit [FloorRing K] in
theorem ControllerOutput.admissible
    (h : ControllerOutput responseMask correctMask errorMask difficulty)
    (hstudent : ResponseLogProbs responseMask studentLogProbs)
    (hteacher : ResponseLogProbs responseMask teacherLogProbs) :
    AdvantageAdmissible studentLogProbs teacherLogProbs difficulty correctMask errorMask
      responseMask := by
  cases h with
  | batch hresult =>
    obtain ⟨haccepted, rfl⟩ := computeR2oplBatch_eq_ok.mp hresult
    apply advantageAdmissible_of_rows haccepted.mask_ndim
    · intro row hboth
      simp only [exceptRows, Tensor.at1_vec, Bool.and_eq_true, Bool.not_eq_true'] at hboth
      exact absurd hboth.1 (by rw [hboth.2.2]; exact Bool.false_ne_true)
    · exact shape_foldl_scoreGroup _ _
    · exact hstudent
    · exact hteacher
  | controllerBatch hresult =>
    obtain ⟨haccepted, rfl⟩ := computeR2oplControllerBatch_eq_ok.mp hresult
    apply advantageAdmissible_of_rows haccepted.mask_ndim
    · intro row hboth
      rw [Tensor.at1_map, hboth.1] at hboth
      exact absurd hboth.2 Bool.false_ne_true
    · exact shape_foldl_scoreGroup _ _
    · exact hstudent
    · exact hteacher

end Outcome

/-! ### Finite multipliers -/

/-- The probability moves as told over every step that has a successor and holds a token of the
    mask. -/
def MovesOn (moves : Flt K → Flt K → Bool) (layouts : List R2OPLProbeLayout)
    (probabilities : Tensor (Flt K)) (mask : Tensor Bool) : Prop :=
  ∀ row layout step range token, layouts[row]? = some layout →
    layout.semanticStepRanges[step]? = some range →
    step + 1 < layout.semanticStepRanges.length →
    range.1 ≤ token → token < range.2 → mask.at2 row token = true →
    moves (probabilities.at2 row step) (probabilities.at2 row (step + 1)) = true

/-- The coefficients with which the kernels return on a batch.  An `alpha` that single precision
    turns into an infinity is harmless as long as every change it scales has the sign that the
    clamp cuts off. -/
structure KernelsAccept (values : R2OPLHyperparameters K) (layouts : List R2OPLProbeLayout)
    (probabilities : Tensor (Flt K)) (correctMask errorMask : Tensor Bool) : Prop where
  epsilon : Flt.le values.epsilon 1 = true
  alphaR : Flt.lt values.alphaR (.fin binary32.overflow) = true ∨
    MovesOn (fun before after => after.lt before) layouts probabilities correctMask
  alphaD : Flt.lt values.alphaD (.fin binary32.overflow) = true ∨
    MovesOn Flt.lt layouts probabilities errorMask

section Multipliers

variable {layouts : List R2OPLProbeLayout} {responseMask mask : Tensor Bool}
  {probabilities multiplier : Tensor (Flt K)} {small : Prop} {moves : Flt K → Flt K → Bool}

omit [Field K] [LinearOrder K] [FloorRing K] in
/-- What is known of the multipliers of every row, as a condition on the batch. -/
theorem finiteOn_iff_movesOn (hcovers : CoversSteps layouts responseMask)
    (hmask : mask.shape = responseMask.shape)
    (hrows : ∀ row layout, layouts[row]? = some layout → ∃ semantic : SemanticRow K,
      semantic.ranges = layout.semanticStepRanges ∧
      (∀ branch < requiredBranches semantic.numSteps,
        probabilities.at2 row branch = .fin (semantic.probability branch)) ∧
      ∀ tokens : Nat → Prop,
        (∀ token, tokens token → (multiplier.at2 row token).isFinite = true) ↔
          small ∨ ∀ step token, semantic.Probed step → semantic.Owns step token → tokens token →
            moves (.fin (semantic.probability step)) (.fin (semantic.probability (step + 1))) =
              true) :
    FiniteOn multiplier mask ↔ small ∨ MovesOn moves layouts probabilities mask := by
  have hsize : mask.size 0 = layouts.length ∧ mask.size 1 = responseMask.size 1 := by
    rw [Tensor.size, Tensor.size, hmask]
    exact ⟨hcovers.rows, rfl⟩
  have hmoves : ∀ (row : Nat) (semantic : SemanticRow K),
      (∀ branch < requiredBranches semantic.numSteps,
        probabilities.at2 row branch = .fin (semantic.probability branch)) →
      ∀ step, semantic.Probed step →
        moves (probabilities.at2 row step) (probabilities.at2 row (step + 1)) =
          moves (.fin (semantic.probability step)) (.fin (semantic.probability (step + 1))) := by
    intro row semantic hread step hprobed
    have hlt : step + 1 < semantic.numSteps := hprobed
    have hrequired : requiredBranches semantic.numSteps = semantic.numSteps := if_pos (by omega)
    rw [hread step (by omega), hread (step + 1) (by omega)]
  constructor
  · intro hfinite
    by_cases hsmall : small
    · exact .inl hsmall
    · right
      intro row layout step range token hrow hrange hstep hlow hhigh htoken
      obtain ⟨semantic, hranges, hread, hiff⟩ := hrows row layout hrow
      have hprobed : semantic.Probed step := by
        unfold SemanticRow.Probed SemanticRow.numSteps
        rwa [hranges]
      have hcovered := hcovers.covers row layout hrow range (List.mem_of_getElem? hrange) token
        hlow hhigh
      have hrowFinite := (hiff fun token => token < mask.size 1 ∧ mask.at2 row token = true).mp
        fun token htoken => hfinite row
          (hsize.1.symm ▸ (List.getElem?_eq_some_iff.mp hrow).1) token htoken.1 htoken.2
      rw [hmoves row semantic hread step hprobed]
      exact hrowFinite.resolve_left hsmall step token hprobed
        ⟨range, hranges.symm ▸ hrange, hlow, hhigh⟩ ⟨hsize.2.symm ▸ hcovered.1, htoken⟩
  · intro hcondition row hrow column hcolumn htoken
    obtain ⟨layout, hlayout⟩ : ∃ layout, layouts[row]? = some layout :=
      ⟨_, List.getElem?_eq_getElem (hsize.1 ▸ hrow)⟩
    obtain ⟨semantic, hranges, hread, hiff⟩ := hrows row layout hlayout
    apply (hiff (mask.at2 row · = true)).mpr _ column htoken
    refine hcondition.imp_right fun hmovesOn step token hprobed howns htoken => ?_
    obtain ⟨range, hrange, hlow, hhigh⟩ := howns
    rw [← hmoves row semantic hread step hprobed]
    have hstep : step + 1 < layout.semanticStepRanges.length := hranges ▸ hprobed
    exact hmovesOn row layout step range token hlayout (hranges ▸ hrange) hstep hlow hhigh htoken

end Multipliers

/-! ### The pipeline -/

section Pipeline

variable [IsStrictOrderedRing K] [ToString K] {settings : R2OPLSettings K}
  {values : R2OPLHyperparameters K} {layouts : List R2OPLProbeLayout} {padTokenId : Int}
  {batch : R2OPLProbeBatch}
  {probabilities studentLogProbs teacherLogProbs difficulty : Tensor (Flt K)}
  {responseMask correctMask errorMask : Tensor Bool}

section Modulated

variable {masks : List (Tensor Bool)} {modulation : R2OPLTokenModulation K}
  {alphaR alphaD epsilon : K}

omit [IsStrictOrderedRing K] in
/-- The modulation kernel returns multipliers for every response token. -/
theorem exists_packed_modulation (hvalues : ValidHyperparameters values)
    (hle : Flt.le values.epsilon 1 = true) (hvalid : ∀ layout ∈ layouts, ValidLayout layout)
    (hprobabilities : BranchProbabilities (packBatch layouts masks padTokenId) probabilities)
    (hcovers : CoversSteps layouts responseMask) :
    ∃ modulation : R2OPLTokenModulation K,
      Single.run ((packBatch layouts masks padTokenId).modulationInput probabilities responseMask)
        values.alphaR values.alphaD values.epsilon = .ok modulation ∧
      modulation.correctTokenMultiplier.shape = responseMask.shape ∧
      modulation.errorTokenMultiplier.shape = responseMask.shape := by
  have hexact : ((packBatch layouts masks padTokenId).modulationInput probabilities
      responseMask).run values.alphaR values.alphaD values.epsilon = .ok _ :=
    computeR2oplTokenModulation_eq_ok.mpr ⟨hvalues.validate_gates_iff.mpr hle, _, _, _, rfl,
      rfl, modulationAdmissible_packBatch hvalid hprobabilities hcovers, rfl⟩
  refine ⟨_, bind_eq_ok.mpr ⟨_, hexact, rfl⟩, ?_, ?_⟩
  · rw [Tensor.shape_of_ndim hcovers.ndim]
    exact shape_writeSteps
  · rw [Tensor.shape_of_ndim hcovers.ndim]
    exact shape_writeSteps

/-- When its multipliers are finite on a mask. -/
theorem packed_finite_iff {mask : Tensor Bool} (halphaR : 0 ≤ alphaR) (halphaD : 0 ≤ alphaD)
    (hepsilon : 0 ≤ epsilon ∧ epsilon ≤ 1) (hvalid : ∀ layout ∈ layouts, ValidLayout layout)
    (hprobabilities : BranchProbabilities (packBatch layouts masks padTokenId) probabilities)
    (hcovers : CoversSteps layouts responseMask) (hmask : mask.shape = responseMask.shape)
    (hrun : Single.run
      ((packBatch layouts masks padTokenId).modulationInput probabilities responseMask)
      (.fin alphaR) (.fin alphaD) (.fin epsilon) = .ok modulation) :
    (FiniteOn modulation.correctTokenMultiplier mask ↔ alphaR < binary32.overflow ∨
        MovesOn (fun before after => after.lt before) layouts probabilities mask) ∧
      (FiniteOn modulation.errorTokenMultiplier mask ↔ alphaD < binary32.overflow ∨
        MovesOn Flt.lt layouts probabilities mask) := by
  have hrow : ∀ row layout, layouts[row]? = some layout → ∃ semantic : SemanticRow K,
      semantic.ranges = layout.semanticStepRanges ∧
      (∀ branch < requiredBranches semantic.numSteps,
        probabilities.at2 row branch = .fin (semantic.probability branch)) ∧
      Single.Multiplies modulation row semantic alphaR alphaD epsilon ∧
      semantic.Valid responseMask row ∧
      ∀ branch < requiredBranches semantic.numSteps,
        binary32.Represents (semantic.probability branch) := by
    intro row layout hlayout
    obtain ⟨semantic, hsemantic, hsemanticValid, hranges, hrepresents⟩ :=
      packed_row hvalid hprobabilities hcovers hlayout
    have hindex : row < responseMask.size 0 := by
      rw [hcovers.rows]
      exact (List.getElem?_eq_some_iff.mp hlayout).1
    exact ⟨semantic, hranges, hsemantic.probability,
      Single.multiplies_of_run hsemantic hsemanticValid hrun hindex, hsemanticValid, hrepresents⟩
  constructor
  · apply finiteOn_iff_movesOn hcovers hmask
    intro row layout hlayout
    obtain ⟨semantic, hranges, hread, hmultiplies, hsemanticValid, hrepresents⟩ :=
      hrow row layout hlayout
    refine ⟨semantic, hranges, hread, fun tokens => ?_⟩
    rw [hmultiplies.correct_finite_iff halphaR hepsilon hsemanticValid hrepresents]
    simp only [Flt.lt_fin, decide_eq_true_eq]
  · apply finiteOn_iff_movesOn hcovers hmask
    intro row layout hlayout
    obtain ⟨semantic, hranges, hread, hmultiplies, hsemanticValid, hrepresents⟩ :=
      hrow row layout hlayout
    refine ⟨semantic, hranges, hread, fun tokens => ?_⟩
    rw [hmultiplies.error_finite_iff halphaD hsemanticValid hrepresents]
    simp only [Flt.lt_fin, decide_eq_true_eq]

end Modulated

/-- The kernels return on what the builders hand over, if and only if they accept the
    coefficients. -/
theorem layoutToAdvantage_returns_iff_accept (hvalues : ValidHyperparameters values)
    (hbatch : buildR2oplProbeBatch layouts padTokenId = .ok batch)
    (hprobabilities : BranchProbabilities batch probabilities)
    (hcovers : CoversSteps layouts responseMask)
    (hadvantage : AdvantageAdmissible studentLogProbs teacherLogProbs difficulty correctMask
      errorMask responseMask) :
    Returns (layoutToAdvantage values batch probabilities responseMask studentLogProbs
        teacherLogProbs correctMask errorMask difficulty) ↔
      KernelsAccept values layouts probabilities correctMask errorMask := by
  obtain ⟨_, hvalid, rfl⟩ := buildR2oplProbeBatch_eq_ok.mp hbatch
  by_cases hle : Flt.le values.epsilon 1 = true
  · obtain ⟨modulation, hrun, hcorrectShape, herrorShape⟩ :=
      exists_packed_modulation hvalues hle hvalid hprobabilities hcovers
    have hadvantageCall : layoutToAdvantage values
        (packBatch layouts (layouts.map denseMask) padTokenId) probabilities responseMask
        studentLogProbs teacherLogProbs correctMask errorMask difficulty =
          Single.r2oplTokenAdvantage studentLogProbs teacherLogProbs correctMask errorMask
            difficulty responseMask (some modulation.correctTokenMultiplier)
            (some modulation.errorTokenMultiplier) values.lambda_ values.miu := by
      unfold layoutToAdvantage
      exact (congrArg (· >>= _) hrun).trans (ok_bind _ _)
    rw [hadvantageCall, Single.r2oplTokenAdvantage_returns_iff hvalues.validate_scales hadvantage
      hcorrectShape herrorShape]
    obtain ⟨alphaR, halphaR, hR⟩ := hvalues.alphaR
    obtain ⟨alphaD, halphaD, hD⟩ := hvalues.alphaD
    obtain ⟨epsilon, hepsilon, hE⟩ := hvalues.epsilon
    have hone : epsilon ≤ 1 := by
      rw [hE, Flt.one_eq, Flt.le_fin] at hle
      exact of_decide_eq_true hle
    rw [hR, hD, hE] at hrun
    rw [(packed_finite_iff halphaR halphaD ⟨hepsilon.le, hone⟩ hvalid hprobabilities hcovers
        hadvantage.correct_shape hrun).1,
      (packed_finite_iff halphaR halphaD ⟨hepsilon.le, hone⟩ hvalid hprobabilities hcovers
        hadvantage.error_shape hrun).2]
    constructor
    · rintro ⟨hcorrect, herror⟩
      refine ⟨hle, ?_, ?_⟩
      · rwa [hR, Flt.lt_fin, decide_eq_true_eq]
      · rwa [hD, Flt.lt_fin, decide_eq_true_eq]
    · intro h
      have hcorrect := h.alphaR
      have herror := h.alphaD
      rw [hR, Flt.lt_fin, decide_eq_true_eq] at hcorrect
      rw [hD, Flt.lt_fin, decide_eq_true_eq] at herror
      exact ⟨hcorrect, herror⟩
  · apply iff_of_false
    · rintro ⟨_, hrun⟩
      obtain ⟨_, hmodulation, _⟩ := bind_eq_ok.mp hrun
      obtain ⟨_, hexact, _⟩ := bind_eq_ok.mp hmodulation
      obtain ⟨hvalidated, _⟩ := computeR2oplTokenModulation_eq_ok.mp hexact
      exact hle (hvalues.validate_gates_iff.mp hvalidated)
    · exact fun h => hle h.epsilon

end Pipeline

end R2opl
