import R2opl.Controller.OneRule

/-!
# Padding rows

Both controllers that rescue truncated rows are given a mask of the genuine rows.
Two batches that agree on their genuine rows get the same outputs there and the
same metrics, but for one place: `probe_rescued` is not restricted to the genuine
rows, so that a padding row with the flags of a rescued row is reported as rescued.
-/

namespace R2opl

open Checked

variable {K : Type} [Field K] [LinearOrder K]

/-! ### The two controllers -/

structure RescueInput (K : Type) extends ControllerInput K where
  truncatedMask : Option (Tensor Bool)
  probeCorrectMask : Option (Tensor Bool)

/-- What the controllers return; the second has no error mask. -/
structure RescueOutput (K : Type) where
  correctMask : Tensor Bool
  errorMask : Option (Tensor Bool)
  difficulty : Tensor (Flt K)
  correctness : Tensor Bool
  truncated : Tensor Bool
  probeRescued : Tensor Bool
  groupSuccess : List (Flt K)
  metrics : List (String × Flt K)

inductive RescueController where
  | base
  | correct
deriving DecidableEq, Repr

def RescueController.run [ToString K] (controller : RescueController)
    (input : RescueInput K) : Except PyError (RescueOutput K) :=
  match controller with
  | .base => do
      let result ← computeR2oplBaseBatch input.oldLogProbs input.teacherLogProbs
        input.responseMask input.verifierRewards input.promptGroupIds input.lambda_
        input.baseMiu input.truncatedMask input.probeCorrectMask input.genuineTrajectoryMask
      return ⟨result.correctMask, some result.errorMask, result.difficulty,
        result.correctness, result.truncated, result.probeRescued, result.groupSuccess,
        result.metrics⟩
  | .correct => do
      let result ← computeCorrectR2oplBatch input.responseMask input.verifierRewards
        input.promptGroupIds input.correctMiu input.truncatedMask input.probeCorrectMask
        input.genuineTrajectoryMask
      return ⟨result.correctMask, none, result.difficulty, result.correctness,
        result.truncated, result.probeRescued, result.groupSuccess, result.metrics⟩

namespace RescueInput

variable (input : RescueInput K)

def truncated : Tensor Bool := flagMask input.batchSize input.truncatedMask

def probeCorrect : Tensor Bool := flagMask input.batchSize input.probeCorrectMask

def IsGenuine (row : Nat) : Prop := input.genuine.at1 row = true

/-- Some padding row is truncated, its probe passes and the verifier rejects it. -/
def RescuesPadding : Prop :=
  ∃ row < input.batchSize, input.genuine.at1 row = false ∧
    input.truncated.at1 row = true ∧ input.probeCorrect.at1 row = true ∧
    ((rowRewards input.verifierRewards).at1 row).eq 1 = false

end RescueInput

/-- The same genuine rows and coefficients, and anything in the padding rows. -/
structure SameGenuineRows (left right : RescueInput K) : Prop where
  genuineTrajectoryMask : left.genuineTrajectoryMask = right.genuineTrajectoryMask
  promptGroupIds : left.promptGroupIds = right.promptGroupIds
  lambda_ : left.lambda_ = right.lambda_
  baseMiu : left.baseMiu = right.baseMiu
  correctMiu : left.correctMiu = right.correctMiu
  responseMask : left.responseMask.AgreeOn left.IsGenuine right.responseMask
  oldLogProbs : left.oldLogProbs.AgreeOn left.IsGenuine right.oldLogProbs
  teacherLogProbs : left.teacherLogProbs.AgreeOn left.IsGenuine right.teacherLogProbs
  verifierRewards : left.verifierRewards.AgreeOn left.IsGenuine right.verifierRewards
  truncated : left.truncated.AgreeOn left.IsGenuine right.truncated
  probeCorrect : left.probeCorrect.AgreeOn left.IsGenuine right.probeCorrect

/-- The same outputs on the selected rows, and the same metrics. -/
structure SameOutput (rows : Nat → Prop) (left right : RescueOutput K) : Prop where
  correctMask : left.correctMask.AgreeOn rows right.correctMask
  errorMask : Option.Rel (Tensor.AgreeOn rows) left.errorMask right.errorMask
  difficulty : left.difficulty.AgreeOn rows right.difficulty
  correctness : left.correctness.AgreeOn rows right.correctness
  truncated : left.truncated.AgreeOn rows right.truncated
  probeRescued : left.probeRescued.AgreeOn rows right.probeRescued
  groupSuccess : left.groupSuccess = right.groupSuccess
  metrics : left.metrics = right.metrics

/-- Every row marked as rescued is a genuine row that is correct. -/
def RescuedAreGenuine (input : RescueInput K) (output : RescueOutput K) : Prop :=
  ∀ row < input.batchSize, output.probeRescued.at1 row = true →
    input.genuine.at1 row = true ∧ output.correctness.at1 row = true

/-- The padding rows of two batches make no difference to the controller. -/
def RescueController.PaddingSilent [ToString K] (controller : RescueController)
    (left right : RescueInput K) : Prop :=
  ∀ output, controller.run left = .ok output →
    ∃ output', controller.run right = .ok output' ∧ SameOutput left.IsGenuine output output' ∧
      RescuedAreGenuine left output ∧ RescuedAreGenuine right output'

/-! ### Results on all rows -/

/-- Agreement on every row of a row mask. -/
def SameRows (n : Nat) (left right : Tensor Bool) : Prop :=
  ∀ row < n, left.at1 row = right.at1 row

section Congruence

variable {n : Nat} {left right genuine : Tensor Bool}

omit [LinearOrder K] in
theorem countRows_congr (hleft : left.size 0 = n) (hright : right.size 0 = n)
    (h : SameRows n left right) : (countRows left : Flt K) = countRows right := by
  rw [countRows, countRows, hleft, hright]
  have hfilter : (List.range n).filter left.at1 = (List.range n).filter right.at1 := by
    apply List.filter_congr
    intro row hrow
    exact h row (List.mem_range.mp hrow)
  rw [hfilter]

theorem tokenCount_congr {row : Nat} (hsize : left.size 1 = right.size 1)
    (h : ∀ column < left.size 1, left.at2 row column = right.at2 row column) :
    tokenCount left row = tokenCount right row := by
  have hrow : left.row row = right.row row := by
    rw [Tensor.row, Tensor.row, ← hsize]
    apply List.map_congr_left
    intro column hcolumn
    exact h column (List.mem_range.mp hcolumn)
  rw [tokenCount, tokenCount, hrow]

omit [LinearOrder K] in
theorem countTokens_congr (hrows : left.size 0 = right.size 0)
    (h : ∀ row < left.size 0, tokenCount left row = tokenCount right row) :
    (countTokens left : Flt K) = countTokens right := by
  have hmap : (List.range (left.size 0)).map (tokenCount left) =
      (List.range (right.size 0)).map (tokenCount right) := by
    rw [← hrows]
    apply List.map_congr_left
    intro row hrow
    exact h row (List.mem_range.mp hrow)
  rw [countTokens, countTokens, hmap]

theorem successRate_congr {ids : List String} (hids : ids.length = n)
    (h : SameRows n left right) (group : String) :
    (successRate ids genuine left group : Flt K) = successRate ids genuine right group := by
  rw [successRate, successRate]
  apply congrArg
  apply List.map_congr_left
  intro row hrow
  rw [h row (hids ▸ (mem_groupIndices.mp hrow).1)]

theorem groupSuccess_congr {ids : List String} (hids : ids.length = n)
    (h : SameRows n left right) :
    (groupStatistics n ids genuine left : GroupStatistics K).groupSuccess =
      (groupStatistics n ids genuine right).groupSuccess := by
  rw [groupStatistics, groupStatistics, groupSuccess_foldl_scoreGroup,
    groupSuccess_foldl_scoreGroup]
  apply congrArg
  apply List.map_congr_left
  intro group _
  exact successRate_congr hids h group

theorem difficulty_congr {ids : List String} (hids : ids.length = n)
    (h : SameRows n left right) {row : Nat} (hrow : row < n) :
    (groupStatistics n ids genuine left : GroupStatistics K).difficulty.at1 row =
      (groupStatistics n ids genuine right).difficulty.at1 row := by
  rw [difficulty_groupStatistics (hids ▸ hrow), difficulty_groupStatistics (hids ▸ hrow),
    successRate_congr hids h]

/-- The rows of a token mask are compared column by column. -/
def SameColumns (n width : Nat) (left right : Tensor Bool) : Prop :=
  ∀ row < n, ∀ column < width, left.at2 row column = right.at2 row column

theorem sizes_of_shape {t : Tensor α} {width : Nat} (h : t.shape = [n, width]) :
    t.size 0 = n ∧ t.size 1 = width := by
  rw [Tensor.size, Tensor.size, h]
  exact ⟨rfl, rfl⟩

/-- The means of the selected rows depend on those rows alone. -/
theorem trajectoryMeans_congr {width : Nat} {values values' : Tensor (Flt K)}
    {mask mask' rows rows' : Tensor Bool} (hshape : values.shape = [n, width])
    (hshape' : values'.shape = [n, width]) (hmaskShape : mask.shape = [n, width])
    (hmaskShape' : mask'.shape = [n, width]) (hrows : SameRows n rows rows')
    (hmask : SameColumns n width mask mask')
    (hvalues : ∀ row < n, rows.at1 row = true → ∀ column < width,
      values.at2 row column = values'.at2 row column) :
    trajectoryMeans values mask rows = trajectoryMeans values' mask' rows' := by
  obtain ⟨hsize, hwidth⟩ := sizes_of_shape hshape
  obtain ⟨hsize', hwidth'⟩ := sizes_of_shape hshape'
  obtain ⟨_, hmaskWidth⟩ := sizes_of_shape hmaskShape
  obtain ⟨_, hmaskWidth'⟩ := sizes_of_shape hmaskShape'
  have hselected : (List.range n).filter rows'.at1 = (List.range n).filter rows.at1 := by
    apply List.filter_congr
    intro row hrow
    exact (hrows row (List.mem_range.mp hrow)).symm
  have hcount : ∀ row ∈ (List.range n).filter rows.at1,
      tokenCount mask row = tokenCount mask' row := by
    intro row hrow
    obtain ⟨hrange, _⟩ := List.mem_filter.mp hrow
    apply tokenCount_congr (hmaskWidth.trans hmaskWidth'.symm)
    rw [hmaskWidth]
    exact hmask row (List.mem_range.mp hrange)
  have hmeans : (((List.range n).filter rows.at1).map fun row =>
      ((List.range width).map fun column =>
        values.at2 row column * Flt.ofBool (mask.at2 row column)).sum /
          Flt.fin ((max 1 (tokenCount mask row) : Nat) : K)) =
      ((List.range n).filter rows.at1).map fun row =>
        ((List.range width).map fun column =>
          values'.at2 row column * Flt.ofBool (mask'.at2 row column)).sum /
            Flt.fin ((max 1 (tokenCount mask' row) : Nat) : K) := by
    apply List.map_congr_left
    intro row hrow
    obtain ⟨hrange, hrowSelected⟩ := List.mem_filter.mp hrow
    rw [hcount row hrow]
    congr 2
    apply List.map_congr_left
    intro column hcolumn
    rw [hvalues row (List.mem_range.mp hrange) hrowSelected column (List.mem_range.mp hcolumn),
      hmask row (List.mem_range.mp hrange) column (List.mem_range.mp hcolumn)]
  have hempty : (∃ row ∈ (List.range n).filter rows.at1, tokenCount mask row = 0) ↔
      ∃ row ∈ (List.range n).filter rows.at1, tokenCount mask' row = 0 := by
    apply exists_congr
    intro row
    apply and_congr_right
    intro hrow
    rw [hcount row hrow]
  simp only [trajectoryMeans, hsize, hwidth, hsize', hwidth', hselected, hempty, hmeans]

theorem outcomeMetrics_congr (scope : String) (groupSuccess : List (Flt K))
    (hgenuine : genuine.size 0 = n) (hleft : left.size 0 = n) (hright : right.size 0 = n)
    (h : SameRows n left right) :
    outcomeMetrics scope genuine left groupSuccess =
      outcomeMetrics scope genuine right groupSuccess := by
  have hselect : left.select genuine = right.select genuine := by
    apply Tensor.select_congr (hleft.trans hright.symm) (fun _ _ => rfl)
    intro row hrow _
    exact h row (hleft ▸ hrow)
  have herror : SameRows n (exceptRows genuine left) (exceptRows genuine right) := by
    intro row hrow
    rw [exceptRows, exceptRows, Tensor.at1_vec, Tensor.at1_vec, h row hrow]
  have hcount : (countRows (exceptRows genuine left) : Flt K) =
      countRows (exceptRows genuine right) := countRows_congr hgenuine hgenuine herror
  have hcorrect : (countRows left : Flt K) = countRows right := countRows_congr hleft hright h
  simp only [outcomeMetrics, hselect, hcorrect, hcount]

theorem rescueMetrics_congr (scope : String) {truncated truncated' : Tensor Bool}
    (hgenuine : genuine.size 0 = n) (hleft : left.size 0 = n) (hright : right.size 0 = n)
    (htruncated : ∀ row < n, genuine.at1 row = true → truncated.at1 row = truncated'.at1 row)
    (h : SameRows n left right) :
    (rescueMetrics scope genuine truncated left : List (String × Flt K)) =
      rescueMetrics scope genuine truncated' right := by
  have hboth : SameRows n (bothRows genuine truncated) (bothRows genuine truncated') := by
    intro row hrow
    rw [bothRows, bothRows, Tensor.at1_vec, Tensor.at1_vec]
    cases hmask : genuine.at1 row with
    | false => rfl
    | true => rw [htruncated row hrow hmask]
  have hselect : left.select genuine = right.select genuine := by
    apply Tensor.select_congr (hleft.trans hright.symm) (fun _ _ => rfl)
    intro row hrow _
    exact h row (hleft ▸ hrow)
  have hcount : (countRows (bothRows genuine truncated) : Flt K) =
      countRows (bothRows genuine truncated') := countRows_congr hgenuine hgenuine hboth
  have hrescued : (countRows left : Flt K) = countRows right := countRows_congr hleft hright h
  simp only [rescueMetrics, hselect, hrescued, hcount]

theorem signalMetrics_congr {width : Nat} {signal signal' difficulty difficulty' : Tensor (Flt K)}
    {errorRows errorRows' correctMask correctMask' errorMask errorMask' : Tensor Bool}
    (hsignal : signal.shape = [n, width]) (hsignal' : signal'.shape = [n, width])
    (hcorrectShape : correctMask.shape = [n, width])
    (hcorrectShape' : correctMask'.shape = [n, width])
    (herrorShape : errorMask.shape = [n, width]) (herrorShape' : errorMask'.shape = [n, width])
    (hdifficulty : ∀ row < n, difficulty.at1 row = difficulty'.at1 row)
    (hcorrect : SameRows n left right) (herror : SameRows n errorRows errorRows')
    (hcorrectMask : SameColumns n width correctMask correctMask')
    (herrorMask : SameColumns n width errorMask errorMask')
    (hvalues : ∀ row < n, errorRows.at1 row = true → ∀ column < width,
      signal.at2 row column = signal'.at2 row column) (lambda_ miu : Flt K) :
    signalMetrics signal difficulty left errorRows correctMask errorMask lambda_ miu =
      signalMetrics signal' difficulty' right errorRows' correctMask' errorMask' lambda_ miu := by
  obtain ⟨hs0, hs1⟩ := sizes_of_shape hsignal
  obtain ⟨hs0', hs1'⟩ := sizes_of_shape hsignal'
  obtain ⟨hc0, hc1⟩ := sizes_of_shape hcorrectShape
  obtain ⟨hc0', hc1'⟩ := sizes_of_shape hcorrectShape'
  -- the means over the error rows, for any values that agree on those rows
  have herrorMeans : ∀ values values' : Tensor (Flt K), values.shape = [n, width] →
      values'.shape = [n, width] → (∀ row < n, errorRows.at1 row = true → ∀ column < width,
        values.at2 row column = values'.at2 row column) →
      trajectoryMeans values errorMask errorRows = trajectoryMeans values' errorMask' errorRows' :=
    fun values values' hshape hshape' =>
      trajectoryMeans_congr hshape hshape' herrorShape herrorShape' herror herrorMask
  have hcorrectMeans : trajectoryMeans (.mat (signal.size 0) (signal.size 1)
        fun row _ => difficulty.at1 row * miu) correctMask left =
      trajectoryMeans (.mat (signal'.size 0) (signal'.size 1)
        fun row _ => difficulty'.at1 row * miu) correctMask' right := by
    rw [hs0, hs1, hs0', hs1']
    apply trajectoryMeans_congr (Tensor.shape_mat _ _ _) (Tensor.shape_mat _ _ _)
      hcorrectShape hcorrectShape' hcorrect hcorrectMask
    intro row hrow _ column _
    rw [Tensor.at2_mat, Tensor.at2_mat, hdifficulty row hrow]
  have hscaled : ∀ row < n, errorRows.at1 row = true → ∀ column < width,
      (scaledSignal difficulty lambda_ signal).at2 row column =
        (scaledSignal difficulty' lambda_ signal').at2 row column := by
    intro row hrow hselected column hcolumn
    rw [scaledSignal, scaledSignal, Tensor.at2_mat, Tensor.at2_mat, hdifficulty row hrow,
      hvalues row hrow hselected column hcolumn]
  have hscaledShape : (scaledSignal difficulty lambda_ signal).shape = [n, width] := by
    rw [scaledSignal, Tensor.shape_mat, hs0, hs1]
  have hscaledShape' : (scaledSignal difficulty' lambda_ signal').shape = [n, width] := by
    rw [scaledSignal, Tensor.shape_mat, hs0', hs1']
  have habs : ∀ {values values' : Tensor (Flt K)}, (∀ row < n, errorRows.at1 row = true →
      ∀ column < width, values.at2 row column = values'.at2 row column) →
      ∀ row < n, errorRows.at1 row = true → ∀ column < width,
        (values.map Flt.abs).at2 row column = (values'.map Flt.abs).at2 row column := by
    intro values values' heq row hrow hselected column hcolumn
    rw [Tensor.at2_map, Tensor.at2_map, heq row hrow hselected column hcolumn]
  have hany : ((List.range (correctMask.size 0)).any fun row => tokenCount correctMask row ≠ 0) =
      (List.range (correctMask'.size 0)).any fun row => tokenCount correctMask' row ≠ 0 := by
    rw [hc0, hc0', Bool.eq_iff_iff, List.any_eq_true, List.any_eq_true]
    apply exists_congr
    intro row
    apply and_congr_right
    intro hrow
    rw [tokenCount_congr (hc1.trans hc1'.symm)
      (hc1.symm ▸ hcorrectMask row (List.mem_range.mp hrow))]
  simp only [signalMetrics, hcorrectMeans, hany,
    herrorMeans _ _ hscaledShape hscaledShape' hscaled,
    herrorMeans (signal.map Flt.abs) (signal'.map Flt.abs) hsignal hsignal' (habs hvalues),
    herrorMeans _ _ hsignal hsignal' hvalues,
    herrorMeans ((scaledSignal difficulty lambda_ signal).map Flt.abs)
      ((scaledSignal difficulty' lambda_ signal').map Flt.abs) hscaledShape hscaledShape'
      (habs hscaled)]

end Congruence

/-! ### What agrees when the genuine rows do -/

namespace RescueInput

variable (input : RescueInput K)

def rescued : Tensor Bool :=
  rescuedRows input.batchSize (rowRewards input.verifierRewards) input.truncated
    input.probeCorrect

def correctness : Tensor Bool :=
  rescuedCorrectRows input.batchSize (rowRewards input.verifierRewards) input.rescued
    input.genuine

def errorRows : Tensor Bool := exceptRows input.genuine input.correctness

def correctMask : Tensor Bool := maskRows input.responseMask input.correctness

def errorMask : Tensor Bool := maskRows input.responseMask input.errorRows

def statistics : GroupStatistics K :=
  groupStatistics input.batchSize input.promptGroupIds input.genuine input.correctness

variable {input}

theorem genuine_of_correctness {row : Nat} (h : input.correctness.at1 row = true) :
    input.genuine.at1 row = true :=
  (Bool.and_eq_true _ _ ▸ h).2

theorem genuine_of_errorRows {row : Nat} (h : input.errorRows.at1 row = true) :
    input.genuine.at1 row = true :=
  (Bool.and_eq_true _ _ ▸ h).1

theorem correctness_of_rescued {row : Nat} (hrescued : input.rescued.at1 row = true)
    (hgenuine : input.genuine.at1 row = true) : input.correctness.at1 row = true := by
  rw [correctness, rescuedCorrectRows, Tensor.at1_vec, hrescued, hgenuine, Bool.or_true,
    Bool.and_true]

/-- What both controllers ask of their row masks. -/
structure Admitted (input : RescueInput K) : Prop where
  accepted : input.Accepted
  truncated : input.truncated.shape = [input.batchSize]
  probeCorrect : input.probeCorrect.shape = [input.batchSize]

theorem shape_flagMask {batchSize : Nat} {mask : Option (Tensor Bool)} :
    (flagMask batchSize mask).shape = [batchSize] ↔
      ∀ given, mask = some given → given.ndim = 1 ∧ given.size 0 = batchSize := by
  cases mask with
  | none => simp [flagMask]
  | some given =>
    rw [flagMask, Option.getD_some]
    constructor
    · rintro hshape _ ⟨⟩
      rw [Tensor.ndim, Tensor.size, hshape]
      exact ⟨rfl, rfl⟩
    · intro hmask
      obtain ⟨hndim, hsize⟩ := hmask given rfl
      obtain ⟨n, hshape⟩ := List.length_eq_one_iff.mp hndim
      rw [Tensor.size, hshape] at hsize
      rw [hshape]
      exact congrArg (fun size => [size]) hsize

omit [Field K] [LinearOrder K] in
theorem size_genuine (hmask : ∀ given, input.genuineTrajectoryMask = some given →
    given.ndim = 1 ∧ given.size 0 = input.responseMask.size 0) :
    input.genuine.size 0 = input.batchSize := by
  rw [ControllerInput.genuine, genuineMask]
  cases hgiven : input.genuineTrajectoryMask with
  | none => rfl
  | some given => exact (hmask given hgiven).2

/-- The flags of a rescued padding row are exactly what marks it. -/
theorem rescuesPadding_iff : input.RescuesPadding ↔
    ∃ row < input.batchSize, input.genuine.at1 row = false ∧
      input.rescued.at1 row = true := by
  simp only [RescuesPadding, rescued, rescuedRows, Tensor.at1_vec, Bool.and_eq_true,
    Bool.not_eq_true', and_assoc]

theorem not_rescued_of_padding (h : ¬ input.RescuesPadding) {row : Nat}
    (hrow : row < input.batchSize) (hpadding : input.genuine.at1 row = false) :
    input.rescued.at1 row = false := by
  rw [rescuesPadding_iff] at h
  apply Bool.eq_false_iff.mpr
  intro hrescued
  exact h ⟨row, hrow, hpadding, hrescued⟩

end RescueInput

namespace SameGenuineRows

variable {left right : RescueInput K} (h : SameGenuineRows left right)

include h

omit [Field K] [LinearOrder K] in
theorem batchSize_eq : left.batchSize = right.batchSize := h.responseMask.size 0

omit [Field K] [LinearOrder K] in
theorem genuine_eq : left.genuine = right.genuine := by
  rw [ControllerInput.genuine, ControllerInput.genuine, h.genuineTrajectoryMask,
    h.batchSize_eq]

omit [LinearOrder K] in
theorem rowRewards_eq (hndim : left.verifierRewards.ndim = 2 ∨ left.verifierRewards.ndim = 1)
    {row : Nat} (hrow : row < left.verifierRewards.size 0) (hgenuine : left.IsGenuine row) :
    (rowRewards left.verifierRewards).at1 row = (rowRewards right.verifierRewards).at1 row := by
  rw [rowRewards, rowRewards, ← h.verifierRewards.ndim]
  rcases hndim with htwo | hone
  · rw [if_pos htwo, if_pos htwo, Tensor.sumLast, Tensor.sumLast, Tensor.at1_vec,
      Tensor.at1_vec, Tensor.row, Tensor.row, ← h.verifierRewards.size]
    apply congrArg
    apply List.map_congr_left
    intro column hcolumn
    exact h.verifierRewards.at2 htwo hrow hgenuine (List.mem_range.mp hcolumn)
  · have hnot : ¬ left.verifierRewards.ndim = 2 := by omega
    rw [if_neg hnot, if_neg hnot]
    exact h.verifierRewards.at1 hone hrow hgenuine

omit [Field K] [LinearOrder K] in
theorem responseMask_eq (hndim : left.responseMask.ndim = 2) {row column : Nat}
    (hrow : row < left.batchSize) (hgenuine : left.IsGenuine row)
    (hcolumn : column < left.responseMask.size 1) :
    left.responseMask.at2 row column = right.responseMask.at2 row column :=
  h.responseMask.at2 hndim hrow hgenuine hcolumn

/-- Whether a batch is accepted depends on its genuine rows alone. -/
theorem accepted (hleft : left.Accepted) : right.Accepted := by
  have hgenuine := h.genuine_eq
  have hsize : left.responseMask.size 0 = right.responseMask.size 0 := h.responseMask.size 0
  have hrewards : left.verifierRewards.size 0 = right.verifierRewards.size 0 :=
    h.verifierRewards.size 0
  refine ⟨h.responseMask.ndim ▸ hleft.mask_ndim, ?_, ?_, h.verifierRewards.ndim ▸
    hleft.rewards_ndim, ?_, ?_, ?_, ?_⟩
  · rw [← h.promptGroupIds, ← hsize]
    exact hleft.ids_length
  · rw [← h.genuineTrajectoryMask, ← hsize]
    exact hleft.genuine_shape
  · rw [← hrewards, ← hsize]
    exact hleft.rewards_size
  · apply emptyRows_eq_nil.mpr
    intro row hrow hempty
    rw [← hsize] at hrow
    rw [Bool.and_eq_true, decide_eq_true_eq] at hempty
    have hmask : right.genuine.at1 row = true := hempty.1
    rw [← hgenuine] at hmask
    apply emptyRows_eq_nil.mp hleft.tokens row hrow
    rw [Bool.and_eq_true, decide_eq_true_eq]
    refine ⟨hmask, Eq.trans ?_ hempty.2⟩
    apply tokenCount_congr
    · exact h.responseMask.size 1
    intro column hcolumn
    change (left.responseMask.at2 row column && left.genuine.at1 row) =
      (right.responseMask.at2 row column && right.genuine.at1 row)
    rw [h.responseMask_eq hleft.mask_ndim hrow hmask hcolumn, hgenuine]
  · intro row hrow hmask
    rw [← hsize] at hrow
    have hleftMask : left.genuine.at1 row = true := by
      rw [hgenuine]
      exact hmask
    rw [← h.rowRewards_eq hleft.rewards_ndim (hleft.rewards_size.symm ▸ hrow) hleftMask]
    exact hleft.binary row hrow hleftMask
  · obtain ⟨row, hrow, hmask⟩ := hleft.some_genuine
    refine ⟨row, hsize ▸ hrow, ?_⟩
    change right.genuine.at1 row = true
    rw [← hgenuine]
    exact hmask

/-! ### The outputs -/

section Outputs

variable (hleft : left.Admitted)

include hleft

theorem admitted : right.Admitted where
  accepted := h.accepted hleft.accepted
  truncated := by
    rw [← h.truncated.shape, ← h.batchSize_eq]
    exact hleft.truncated
  probeCorrect := by
    rw [← h.probeCorrect.shape, ← h.batchSize_eq]
    exact hleft.probeCorrect

theorem truncated_eq {row : Nat} (hrow : row < left.batchSize) (hgenuine : left.IsGenuine row) :
    left.truncated.at1 row = right.truncated.at1 row := by
  apply h.truncated.at1 _ _ hgenuine
  · rw [Tensor.ndim, hleft.truncated, List.length_singleton]
  · rw [Tensor.size, hleft.truncated]
    exact hrow

theorem probeCorrect_eq {row : Nat} (hrow : row < left.batchSize)
    (hgenuine : left.IsGenuine row) :
    left.probeCorrect.at1 row = right.probeCorrect.at1 row := by
  apply h.probeCorrect.at1 _ _ hgenuine
  · rw [Tensor.ndim, hleft.probeCorrect, List.length_singleton]
  · rw [Tensor.size, hleft.probeCorrect]
    exact hrow

theorem reward_eq {row : Nat} (hrow : row < left.batchSize) (hgenuine : left.IsGenuine row) :
    (rowRewards left.verifierRewards).at1 row = (rowRewards right.verifierRewards).at1 row :=
  h.rowRewards_eq hleft.accepted.rewards_ndim (hleft.accepted.rewards_size.symm ▸ hrow)
    hgenuine

theorem rescued_eq {row : Nat} (hrow : row < left.batchSize) (hgenuine : left.IsGenuine row) :
    left.rescued.at1 row = right.rescued.at1 row := by
  rw [RescueInput.rescued, RescueInput.rescued, rescuedRows, rescuedRows, Tensor.at1_vec,
    Tensor.at1_vec, h.truncated_eq hleft hrow hgenuine, h.probeCorrect_eq hleft hrow hgenuine,
    h.reward_eq hleft hrow hgenuine]

/-- A padding row is never correct, so that correctness agrees everywhere. -/
theorem correctness_eq : SameRows left.batchSize left.correctness right.correctness := by
  intro row hrow
  rw [RescueInput.correctness, RescueInput.correctness, rescuedCorrectRows,
    rescuedCorrectRows, Tensor.at1_vec, Tensor.at1_vec, ← h.genuine_eq]
  cases hgenuine : left.genuine.at1 row with
  | false => rw [Bool.and_false, Bool.and_false]
  | true => rw [h.reward_eq hleft hrow hgenuine, h.rescued_eq hleft hrow hgenuine]

theorem errorRows_eq : SameRows left.batchSize left.errorRows right.errorRows := by
  intro row hrow
  rw [RescueInput.errorRows, RescueInput.errorRows, exceptRows, exceptRows, Tensor.at1_vec,
    Tensor.at1_vec, h.genuine_eq, h.correctness_eq hleft row hrow]

/-- A token mask on genuine rows agrees everywhere. -/
theorem maskRows_eq {rows rows' : Tensor Bool} (hrows : SameRows left.batchSize rows rows')
    (hsub : ∀ row, rows.at1 row = true → left.genuine.at1 row = true) :
    SameColumns left.batchSize (left.responseMask.size 1) (maskRows left.responseMask rows)
      (maskRows right.responseMask rows') := by
  intro row hrow column hcolumn
  rw [maskRows, maskRows, Tensor.at2_mat, Tensor.at2_mat, ← hrows row hrow]
  cases hselected : rows.at1 row with
  | false => rw [Bool.and_false, Bool.and_false]
  | true =>
    rw [h.responseMask_eq hleft.accepted.mask_ndim hrow (hsub row hselected) hcolumn]

theorem correctMask_eq : SameColumns left.batchSize (left.responseMask.size 1)
    left.correctMask right.correctMask :=
  h.maskRows_eq hleft (h.correctness_eq hleft) fun _ => RescueInput.genuine_of_correctness

theorem errorMask_eq : SameColumns left.batchSize (left.responseMask.size 1)
    left.errorMask right.errorMask :=
  h.maskRows_eq hleft (h.errorRows_eq hleft) fun _ => RescueInput.genuine_of_errorRows

theorem groupSuccess_eq : left.statistics.groupSuccess = right.statistics.groupSuccess := by
  rw [RescueInput.statistics, RescueInput.statistics, ← h.promptGroupIds, ← h.genuine_eq,
    ← h.batchSize_eq]
  exact groupSuccess_congr hleft.accepted.ids_length (h.correctness_eq hleft)

theorem difficulty_eq {row : Nat} (hrow : row < left.batchSize) :
    left.statistics.difficulty.at1 row = right.statistics.difficulty.at1 row := by
  rw [RescueInput.statistics, RescueInput.statistics, ← h.promptGroupIds, ← h.genuine_eq,
    ← h.batchSize_eq]
  exact difficulty_congr hleft.accepted.ids_length (h.correctness_eq hleft) hrow

end Outputs

end SameGenuineRows

/-! ### Runs -/

/-- The metrics of a controller, in terms of the parts above. -/
def RescueController.metrics (controller : RescueController) (input : RescueInput K) :
    Except PyError (List (String × Flt K)) :=
  match controller with
  | .base => do
      let signals ← signalMetrics (teacherMinusStudent input.oldLogProbs input.teacherLogProbs)
        input.statistics.difficulty input.correctness input.errorRows input.correctMask
        input.errorMask input.lambda_ input.baseMiu
      return outcomeMetrics "r2opl_base/train/" input.genuine input.correctness
          input.statistics.groupSuccess ++
        rescueMetrics "r2opl_base/train/" input.genuine input.truncated input.rescued ++
        signals ++
        [("r2opl_base/train/correct_token_count", countTokens input.correctMask),
          ("r2opl_base/train/error_token_count", countTokens input.errorMask),
          ("r2opl_base/train/lambda", input.lambda_), ("r2opl_base/train/miu", input.baseMiu)]
  | .correct =>
      let correctAdvantages :=
        (input.statistics.difficulty.select input.correctness).map (· * input.correctMiu)
      .ok (outcomeMetrics "correct_r2opl/train/" input.genuine input.correctness
          input.statistics.groupSuccess ++
        rescueMetrics "correct_r2opl/train/" input.genuine input.truncated input.rescued ++
        [("correct_r2opl/train/correct_advantage_mean", safeMean correctAdvantages),
          ("correct_r2opl/train/correct_raw_advantage_mean",
            if (List.range (input.correctMask.size 0)).any fun row =>
              tokenCount input.correctMask row ≠ 0
            then input.correctMiu else 0),
          ("correct_r2opl/train/correct_token_count", countTokens input.correctMask),
          ("correct_r2opl/train/error_token_count", countTokens input.errorMask),
          ("correct_r2opl/train/miu", input.correctMiu)])

def RescueController.output (controller : RescueController) (input : RescueInput K)
    (metrics : List (String × Flt K)) : RescueOutput K where
  correctMask := input.correctMask
  errorMask := match controller with
    | .base => some input.errorMask
    | .correct => none
  difficulty := input.statistics.difficulty
  correctness := input.correctness
  truncated := bothRows input.truncated input.genuine
  probeRescued := input.rescued
  groupSuccess := input.statistics.groupSuccess
  metrics := metrics

/-- What a controller asks beyond the rows. -/
def RescueController.Accepts (controller : RescueController) (input : RescueInput K) : Prop :=
  match controller with
  | .base => BaseAdmissible input.oldLogProbs input.teacherLogProbs input.responseMask
      input.lambda_ input.baseMiu input.truncatedMask input.probeCorrectMask
      input.genuineTrajectoryMask
  | .correct => ∃ x, 0 < x ∧ input.correctMiu = .fin x

section Runs

variable [ToString K] {left right input : RescueInput K} {output : RescueOutput K}

theorem RescueController.run_eq_ok (controller : RescueController)
    (h : controller.run input = .ok output) :
    input.Admitted ∧ controller.Accepts input ∧
      ∃ metrics, controller.metrics input = .ok metrics ∧
        output = controller.output input metrics := by
  cases controller with
  | base =>
    simp only [RescueController.run, bind_eq_ok, pure_eq_ok, Except.ok.injEq] at h
    obtain ⟨result, hrun, rfl⟩ := h
    obtain ⟨haccepted, hbase, hresult⟩ := computeR2oplBaseBatch_eq_ok hrun
    obtain ⟨signals, hsignals, hmetrics⟩ := computeR2oplBaseBatch_metrics hrun
    refine ⟨⟨haccepted, RescueInput.shape_flagMask.mpr hbase.truncated_shape,
      RescueInput.shape_flagMask.mpr hbase.probe_shape⟩, hbase, result.metrics, ?_, ?_⟩
    · rw [hresult] at hsignals hmetrics
      simp only [RescueController.metrics, bind_eq_ok, pure_eq_ok, Except.ok.injEq]
      rw [hresult]
      exact ⟨signals, hsignals, hmetrics.symm⟩
    · rw [hresult]
      rfl
  | correct =>
    simp only [RescueController.run, bind_eq_ok, pure_eq_ok, Except.ok.injEq,
      computeCorrectR2oplBatch_eq_ok] at h
    obtain ⟨result, ⟨haccepted, hmiu, htruncated, hprobe, rfl⟩, rfl⟩ := h
    exact ⟨⟨haccepted, RescueInput.shape_flagMask.mpr htruncated,
      RescueInput.shape_flagMask.mpr hprobe⟩, hmiu, _, rfl, rfl⟩

theorem RescueController.run_returns (controller : RescueController)
    (hadmitted : input.Admitted) (haccepts : controller.Accepts input) :
    Returns (controller.run input) := by
  cases controller with
  | base =>
    obtain ⟨result, hrun⟩ := computeR2oplBaseBatch_returns hadmitted.accepted haccepts
    simp only [RescueController.run, hrun, ok_bind]
    exact Returns.ok _
  | correct =>
    have hrun := computeCorrectR2oplBatch_eq_ok.mpr ⟨hadmitted.accepted, haccepts,
      RescueInput.shape_flagMask.mp hadmitted.truncated,
      RescueInput.shape_flagMask.mp hadmitted.probeCorrect, rfl⟩
    simp only [RescueController.run, hrun, ok_bind]
    exact Returns.ok _

end Runs

namespace SameGenuineRows

variable {left right : RescueInput K} (h : SameGenuineRows left right)

include h

omit [Field K] [LinearOrder K] in
theorem finiteOn {values values' : Tensor (Flt K)} (hvalues : values.AgreeOn left.IsGenuine values')
    (hndim : left.responseMask.ndim = 2) (hshape : values.shape = left.responseMask.shape)
    (hfinite : FiniteOn values (maskRows left.responseMask left.genuine)) :
    FiniteOn values' (maskRows right.responseMask right.genuine) := by
  intro row hrow column hcolumn htoken
  have hrows : row < left.responseMask.size 0 := by
    rw [h.responseMask.size]
    exact hrow
  have hcolumns : column < left.responseMask.size 1 := by
    rw [h.responseMask.size]
    exact hcolumn
  rw [maskRows, Tensor.at2_mat, Bool.and_eq_true, ← h.genuine_eq] at htoken
  obtain ⟨hmask, hgenuine⟩ := htoken
  rw [← h.responseMask_eq hndim hrows hgenuine hcolumns] at hmask
  have hvalue : values.at2 row column = values'.at2 row column := by
    apply hvalues.at2 _ _ hgenuine _
    · rw [Tensor.ndim, hshape]
      exact hndim
    · rw [Tensor.size, hshape]
      exact hrows
    · rw [Tensor.size, hshape]
      exact hcolumns
  rw [← hvalue]
  apply hfinite row hrows column hcolumns
  rw [maskRows, Tensor.at2_mat, hmask, hgenuine, Bool.and_self]

/-- The remaining checks, likewise, look at genuine rows only. -/
theorem accepts (controller : RescueController) (hleft : left.Admitted)
    (haccepts : controller.Accepts left) : controller.Accepts right := by
  cases controller with
  | base =>
    have hright := h.admitted hleft
    have hndim := hleft.accepted.mask_ndim
    refine ⟨?_, ?_, ?_, ?_, RescueInput.shape_flagMask.mp hright.truncated,
      RescueInput.shape_flagMask.mp hright.probeCorrect, ?_, ?_⟩
    · rw [← h.oldLogProbs.shape, ← h.responseMask.shape]
      exact haccepts.student_shape
    · rw [← h.teacherLogProbs.shape, ← h.responseMask.shape]
      exact haccepts.teacher_shape
    · rw [← h.lambda_]
      exact haccepts.lambda_
    · rw [← h.baseMiu]
      exact haccepts.miu
    · exact h.finiteOn h.oldLogProbs hndim haccepts.student_shape haccepts.student_finite
    · exact h.finiteOn h.teacherLogProbs hndim haccepts.teacher_shape haccepts.teacher_finite
  | correct =>
    obtain ⟨x, hpos, hmiu⟩ := haccepts
    exact ⟨x, hpos, h.correctMiu ▸ hmiu⟩

section Metrics

variable (hleft : left.Admitted)

include hleft

/-- The metrics of the pre-update signal look at the genuine rows only. -/
theorem signalMetrics_eq (hbase : RescueController.base.Accepts left) :
    signalMetrics (teacherMinusStudent left.oldLogProbs left.teacherLogProbs)
        left.statistics.difficulty left.correctness left.errorRows left.correctMask
        left.errorMask left.lambda_ left.baseMiu =
      signalMetrics (teacherMinusStudent right.oldLogProbs right.teacherLogProbs)
        right.statistics.difficulty right.correctness right.errorRows right.correctMask
        right.errorMask right.lambda_ right.baseMiu := by
  have hmaskShape : left.responseMask.shape = [left.batchSize, left.responseMask.size 1] :=
    Tensor.shape_of_ndim hleft.accepted.mask_ndim
  have hmaskShape' : right.responseMask.shape = [left.batchSize, left.responseMask.size 1] :=
    h.responseMask.shape.symm.trans hmaskShape
  have hstudent := hbase.student_shape.trans hmaskShape
  have hteacher := hbase.teacher_shape.trans hmaskShape
  obtain ⟨hrows, hcolumns⟩ := sizes_of_shape hmaskShape
  obtain ⟨hrows', hcolumns'⟩ := sizes_of_shape hmaskShape'
  obtain ⟨hstudentRows, hstudentColumns⟩ := sizes_of_shape hstudent
  obtain ⟨hteacherRows, hteacherColumns⟩ := sizes_of_shape hteacher
  have hndim : ∀ {t : Tensor (Flt K)}, t.shape = [left.batchSize, left.responseMask.size 1] →
      t.ndim = 2 := by
    intro t hshape
    rw [Tensor.ndim, hshape]
    rfl
  have hsignal : ∀ student teacher : Tensor (Flt K), student.size 0 = left.batchSize →
      student.size 1 = left.responseMask.size 1 → (teacherMinusStudent student teacher).shape =
        [left.batchSize, left.responseMask.size 1] := by
    intro student teacher hsize hwidth
    rw [teacherMinusStudent, Tensor.shape_mat, hsize, hwidth]
  rw [← h.lambda_, ← h.baseMiu]
  apply signalMetrics_congr (hsignal _ _ hstudentRows hstudentColumns)
    (hsignal _ _ ((h.oldLogProbs.size 0).symm.trans hstudentRows)
      ((h.oldLogProbs.size 1).symm.trans hstudentColumns))
  · rw [RescueInput.correctMask, maskRows, Tensor.shape_mat, hrows]
  · rw [RescueInput.correctMask, maskRows, Tensor.shape_mat, hrows', hcolumns']
  · rw [RescueInput.errorMask, maskRows, Tensor.shape_mat, hrows]
  · rw [RescueInput.errorMask, maskRows, Tensor.shape_mat, hrows', hcolumns']
  · exact fun row hrow => h.difficulty_eq hleft hrow
  · exact h.correctness_eq hleft
  · exact h.errorRows_eq hleft
  · exact h.correctMask_eq hleft
  · exact h.errorMask_eq hleft
  · intro row hrow herror column hcolumn
    have hgenuine : left.IsGenuine row := RescueInput.genuine_of_errorRows herror
    rw [teacherMinusStudent, teacherMinusStudent, Tensor.at2_mat, Tensor.at2_mat,
      h.oldLogProbs.at2 (hndim hstudent) (hstudentRows.symm ▸ hrow) hgenuine
        (hstudentColumns.symm ▸ hcolumn),
      h.teacherLogProbs.at2 (hndim hteacher) (hteacherRows.symm ▸ hrow) hgenuine
        (hteacherColumns.symm ▸ hcolumn)]

/-- If the same rows are rescued, padding rows included, all metrics are the same. -/
theorem metrics_eq (controller : RescueController) (haccepts : controller.Accepts left)
    (hrescued : SameRows left.batchSize left.rescued right.rescued) :
    controller.metrics left = controller.metrics right := by
  have hmaskSize := h.responseMask.size
  have hgenuineSize : left.genuine.size 0 = left.batchSize :=
    RescueInput.size_genuine fun given hgiven => hleft.accepted.genuine_shape given hgiven
  have houtcome : ∀ scope : String,
      outcomeMetrics scope left.genuine left.correctness left.statistics.groupSuccess =
        outcomeMetrics scope right.genuine right.correctness right.statistics.groupSuccess := by
    intro scope
    rw [← h.genuine_eq, ← h.groupSuccess_eq hleft]
    exact outcomeMetrics_congr scope _ hgenuineSize rfl h.batchSize_eq.symm
      (h.correctness_eq hleft)
  have hrescue : ∀ scope : String,
      (rescueMetrics scope left.genuine left.truncated left.rescued : List (String × Flt K)) =
        rescueMetrics scope right.genuine right.truncated right.rescued := by
    intro scope
    rw [← h.genuine_eq]
    exact rescueMetrics_congr scope hgenuineSize rfl h.batchSize_eq.symm
      (fun row hrow hgenuine => h.truncated_eq hleft hrow hgenuine) hrescued
  have hcount : ∀ {rows rows' : Tensor Bool},
      SameColumns left.batchSize (left.responseMask.size 1)
        (maskRows left.responseMask rows) (maskRows right.responseMask rows') →
      ∀ row < left.batchSize, tokenCount (maskRows left.responseMask rows) row =
        tokenCount (maskRows right.responseMask rows') row := by
    intro rows rows' hsame row hrow
    apply tokenCount_congr
    · exact hmaskSize 1
    · exact hsame row hrow
  have hcorrectCount := hcount (h.correctMask_eq hleft)
  have herrorCount := hcount (h.errorMask_eq hleft)
  have hcorrectTokens : (countTokens left.correctMask : Flt K) = countTokens right.correctMask :=
    countTokens_congr (hmaskSize 0) hcorrectCount
  have herrorTokens : (countTokens left.errorMask : Flt K) = countTokens right.errorMask :=
    countTokens_congr (hmaskSize 0) herrorCount
  cases controller with
  | base =>
    rw [RescueController.metrics, RescueController.metrics, h.signalMetrics_eq hleft haccepts]
    simp only [houtcome, hrescue, hcorrectTokens, herrorTokens, h.lambda_, h.baseMiu]
  | correct =>
    have hdifficultySize : ∀ input : RescueInput K,
        input.statistics.difficulty.size 0 = input.batchSize := by
      intro input
      rw [Tensor.size, RescueInput.statistics, groupStatistics, shape_foldl_scoreGroup]
      rfl
    have hselect : left.statistics.difficulty.select left.correctness =
        right.statistics.difficulty.select right.correctness := by
      apply Tensor.select_congr
      · rw [hdifficultySize, hdifficultySize]
        exact h.batchSize_eq
      · rw [hdifficultySize]
        exact h.correctness_eq hleft
      · rw [hdifficultySize]
        exact fun row hrow _ => h.difficulty_eq hleft hrow
    have hany : ((List.range (left.correctMask.size 0)).any fun row =>
        tokenCount left.correctMask row ≠ 0) =
        (List.range (right.correctMask.size 0)).any fun row =>
          tokenCount right.correctMask row ≠ 0 := by
      rw [show right.correctMask.size 0 = left.correctMask.size 0 from (hmaskSize 0).symm,
        Bool.eq_iff_iff, List.any_eq_true, List.any_eq_true]
      apply exists_congr
      intro row
      apply and_congr_right
      intro hrow
      rw [RescueInput.correctMask, hcorrectCount row (List.mem_range.mp hrow)]
      rfl
    simp only [RescueController.metrics, houtcome, hrescue, hcorrectTokens, herrorTokens,
      hselect, hany, h.correctMiu]

/-- The outputs agree on the genuine rows, whatever is rescued elsewhere. -/
theorem sameOutput (controller : RescueController) (metrics : List (String × Flt K)) :
    SameOutput left.IsGenuine (controller.output left metrics)
      (controller.output right metrics) := by
  have hmaskSize := h.responseMask.size
  have hdifficultyShape : ∀ input : RescueInput K,
      input.statistics.difficulty.shape = [input.batchSize] := by
    intro input
    rw [RescueInput.statistics, groupStatistics, shape_foldl_scoreGroup]
    rfl
  have hmask : ∀ {rows rows' : Tensor Bool},
      SameColumns left.batchSize (left.responseMask.size 1)
        (maskRows left.responseMask rows) (maskRows right.responseMask rows') →
      (maskRows left.responseMask rows).AgreeOn left.IsGenuine
        (maskRows right.responseMask rows') := by
    intro rows rows' hsame
    apply Tensor.AgreeOn.of_at2 (Tensor.shape_mat _ _ _)
    · rw [maskRows, Tensor.shape_mat, hmaskSize 0, hmaskSize 1]
    · exact fun row hrow _ => hsame row hrow
  have hrow : ∀ {flags flags' : Tensor Bool}, flags.shape = [left.batchSize] →
      flags'.shape = [right.batchSize] →
      (∀ row < left.batchSize, left.IsGenuine row → flags.at1 row = flags'.at1 row) →
      flags.AgreeOn left.IsGenuine flags' := by
    intro flags flags' hshape hshape' hsame
    rw [← h.batchSize_eq] at hshape'
    exact Tensor.AgreeOn.of_at1 hshape hshape' hsame
  refine ⟨hmask (h.correctMask_eq hleft), ?_, ?_, ?_, ?_, ?_, h.groupSuccess_eq hleft, rfl⟩
  · cases controller with
    | base => exact .some (hmask (h.errorMask_eq hleft))
    | correct => exact .none
  · apply Tensor.AgreeOn.of_at1 (hdifficultyShape left)
    · rw [h.batchSize_eq]
      exact hdifficultyShape right
    · exact fun row hrow _ => h.difficulty_eq hleft hrow
  · exact hrow rfl rfl fun row hlt _ => h.correctness_eq hleft row hlt
  · apply hrow
    · change [left.truncated.size 0] = [left.batchSize]
      rw [Tensor.size, hleft.truncated]
      rfl
    · change [right.truncated.size 0] = [right.batchSize]
      rw [Tensor.size, (h.admitted hleft).truncated]
      rfl
    · intro row hlt hgenuine
      change (left.truncated.at1 row && left.genuine.at1 row) =
        (right.truncated.at1 row && right.genuine.at1 row)
      rw [h.truncated_eq hleft hlt hgenuine, h.genuine_eq]
  · exact hrow rfl rfl fun row hlt hgenuine => h.rescued_eq hleft hlt hgenuine

end Metrics

end SameGenuineRows

/-! ### What padding rows can reach -/

/-- **Padding rows.**  Two batches that agree on their genuine rows get the same
    outputs there, the same metrics and rescued rows that are genuine, if and only if
    neither batch has a padding row with the flags of a rescued one. -/
theorem paddingSilent_iff [ToString K] (controller : RescueController)
    {left right : RescueInput K} (h : SameGenuineRows left right)
    (hleft : Returns (controller.run left)) :
    controller.PaddingSilent left right ↔ ¬ left.RescuesPadding ∧ ¬ right.RescuesPadding := by
  obtain ⟨output, hrun⟩ := hleft
  obtain ⟨hadmitted, haccepts, metrics, hmetrics, rfl⟩ := controller.run_eq_ok hrun
  obtain ⟨output', hrun'⟩ :=
    controller.run_returns (h.admitted hadmitted) (h.accepts controller hadmitted haccepts)
  obtain ⟨_, _, metrics', hmetrics', rfl⟩ := controller.run_eq_ok hrun'
  constructor
  · intro hsilent
    obtain ⟨_, hright, _, hrescued, hrescued'⟩ := hsilent _ hrun
    rw [hrun'] at hright
    obtain rfl := Except.ok.inj hright
    refine ⟨?_, ?_⟩
    · rw [RescueInput.rescuesPadding_iff]
      rintro ⟨row, hrow, hpadding, hmarked⟩
      rw [(hrescued row hrow hmarked).1] at hpadding
      cases hpadding
    · rw [RescueInput.rescuesPadding_iff]
      rintro ⟨row, hrow, hpadding, hmarked⟩
      rw [(hrescued' row hrow hmarked).1] at hpadding
      cases hpadding
  · rintro ⟨hquiet, hquiet'⟩ _ hrun₂
    rw [hrun] at hrun₂
    obtain rfl := Except.ok.inj hrun₂
    -- rescued rows agree: on genuine rows by assumption, elsewhere none is rescued
    have hsame : SameRows left.batchSize left.rescued right.rescued := by
      intro row hrow
      cases hgenuine : left.genuine.at1 row with
      | true => exact h.rescued_eq hadmitted hrow hgenuine
      | false =>
        rw [RescueInput.not_rescued_of_padding hquiet hrow hgenuine,
          RescueInput.not_rescued_of_padding hquiet' (h.batchSize_eq ▸ hrow)
            (h.genuine_eq ▸ hgenuine)]
    rw [h.metrics_eq hadmitted controller haccepts hsame, hmetrics'] at hmetrics
    obtain rfl := Except.ok.inj hmetrics
    have hgenuine : ∀ (input : RescueInput K) (metrics : List (String × Flt K)),
        ¬ input.RescuesPadding → RescuedAreGenuine input (controller.output input metrics) := by
      intro input _ hinput row hrow hmarked
      have hmask : input.genuine.at1 row = true := by
        apply Bool.eq_true_of_not_eq_false
        intro hpadding
        have hrescued : input.rescued.at1 row = true := hmarked
        rw [RescueInput.not_rescued_of_padding hinput hrow hpadding] at hrescued
        cases hrescued
      exact ⟨hmask, RescueInput.correctness_of_rescued hmarked hmask⟩
    exact ⟨_, hrun', h.sameOutput hadmitted controller _, hgenuine _ _ hquiet,
      hgenuine _ _ hquiet'⟩

/-- A correct row, a rescued row, and a padding row that copies row `source`. -/
def paddedWith (source : Nat) : RescueInput ℚ :=
  let copied (row : Nat) := if row = 2 then source else row
  { mixedGroup with
    verifierRewards := .vec 3 fun row => if copied row = 0 then 1 else 0
    truncatedMask := some (.vec 3 fun row => decide (copied row = 1))
    probeCorrectMask := some (.vec 3 fun row => decide (copied row = 1)) }

theorem paddedWith_sameGenuineRows (source other : Nat) :
    SameGenuineRows (paddedWith source) (paddedWith other) := by
  have hrow : ∀ row, (paddedWith source).IsGenuine row → row ≠ 2 := by
    rintro row hgenuine rfl
    cases hgenuine
  refine ⟨rfl, rfl, rfl, rfl, rfl, ⟨rfl, fun _ _ _ _ _ => rfl⟩, ⟨rfl, fun _ _ _ _ _ => rfl⟩,
    ⟨rfl, fun _ _ _ _ _ => rfl⟩, ?_, ?_, ?_⟩
  · apply Tensor.AgreeOn.of_at1 rfl rfl
    intro row _ hgenuine
    simp [paddedWith, hrow row hgenuine]
  · apply Tensor.AgreeOn.of_at1 rfl rfl
    intro row _ hgenuine
    simp [paddedWith, RescueInput.truncated, flagMask, hrow row hgenuine]
  · apply Tensor.AgreeOn.of_at1 rfl rfl
    intro row _ hgenuine
    simp [paddedWith, RescueInput.probeCorrect, flagMask, hrow row hgenuine]

theorem paddedWith_admitted (source : Nat) : (paddedWith source).Admitted where
  accepted :=
    { mask_ndim := rfl
      ids_length := rfl
      genuine_shape := by
        rintro _ ⟨⟩
        exact ⟨rfl, rfl⟩
      rewards_ndim := .inr rfl
      rewards_size := rfl
      tokens := mixedGroup_accepted.tokens
      binary := by
        intro row _ _
        change isBinary (if _ then (1 : Flt ℚ) else 0) = true
        split
        · decide
        · decide
      some_genuine := mixedGroup_accepted.some_genuine }
  truncated := rfl
  probeCorrect := rfl

theorem paddedWith_accepts (controller : RescueController) (source : Nat) :
    controller.Accepts (paddedWith source) := by
  cases controller with
  | base =>
    exact ⟨rfl, rfl, mixedGroup_valid.lambda_, mixedGroup_valid.baseMiu,
      fun _ hgiven => by cases hgiven; exact ⟨rfl, rfl⟩,
      fun _ hgiven => by cases hgiven; exact ⟨rfl, rfl⟩, fun _ _ _ _ _ => rfl,
      fun _ _ _ _ _ => rfl⟩
  | correct => exact mixedGroup_valid.correctMiu

theorem paddingSilent_iff_copied_correct_row :
    RescueController.base.PaddingSilent (paddedWith 0) (paddedWith 2) :=
  (paddingSilent_iff .base (paddedWith_sameGenuineRows 0 2)
    (RescueController.run_returns .base (paddedWith_admitted 0)
      (paddedWith_accepts .base 0))).mpr ⟨by
        rw [RescueInput.rescuesPadding_iff]
        decide, by
        rw [RescueInput.rescuesPadding_iff]
        decide⟩

/-- A padding row that copies a rescued row is reported as rescued itself. -/
theorem not_paddingSilent_copied_rescued_row :
    SameGenuineRows (paddedWith 1) (paddedWith 0) ∧
      ∀ controller : RescueController,
        ¬ controller.PaddingSilent (paddedWith 1) (paddedWith 0) := by
  refine ⟨paddedWith_sameGenuineRows 1 0, fun controller hsilent => ?_⟩
  obtain ⟨output, hrun⟩ := controller.run_returns (paddedWith_admitted 1)
    (paddedWith_accepts controller 1)
  obtain ⟨_, _, _, hrescued, _⟩ := hsilent output hrun
  obtain ⟨_, _, metrics, _, rfl⟩ := controller.run_eq_ok hrun
  have hmarked : (controller.output (paddedWith 1) metrics).probeRescued.at1 2 = true := by
    change (paddedWith 1).rescued.at1 2 = true
    decide
  have hgenuine := (hrescued 2 (by decide) hmarked).1
  cases hgenuine

end R2opl
