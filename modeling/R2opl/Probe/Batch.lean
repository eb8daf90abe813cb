import R2opl.Probe.Mask

/-!
# Packed probe batches

`build_r2opl_probe_batch` pads layouts and their masks to one rectangular
forward.  A node of the batch is a `(row, position)` pair; a node sees the keys
its mask row marks, in its own row.
-/

namespace R2opl

open Checked

/-- Padded packed-probe layouts for one model forward. -/
structure R2OPLProbeBatch where
  inputIds : Tensor Int
  positionIds : Tensor Nat
  attentionMask : Tensor Bool
  sequenceMask : Tensor Bool
  originalSequenceLengths : Tensor Nat
  responseLengths : Tensor Nat
  semanticStepRanges : Tensor Int
  semanticStepMask : Tensor Bool
  probeBranchMask : Tensor Bool
  layouts : List R2OPLProbeLayout

/-- `max(measure(layout) for layout in layouts)` over a non-empty list. -/
def maxOver (measure : R2OPLProbeLayout → Nat) (layouts : List R2OPLProbeLayout) : Nat :=
  (layouts.map measure).foldr max 0

theorem le_maxOver (measure : R2OPLProbeLayout → Nat) {layouts : List R2OPLProbeLayout}
    {layout : R2OPLProbeLayout} (hmem : layout ∈ layouts) :
    measure layout ≤ maxOver measure layouts := by
  induction layouts with
  | nil => cases hmem
  | cons head rest ih =>
    simp only [maxOver, List.map_cons, List.foldr_cons]
    rcases List.mem_cons.mp hmem with rfl | hrest
    · exact Nat.le_max_left _ _
    · exact Nat.le_trans (ih hrest) (Nat.le_max_right _ _)

/-- `row[:len(values)] = values` in a row filled with `pad`. -/
def padRow (values : List α) (pad : α) (column : Nat) : α := values.getD column pad

/-- Entry `axis` of a `(start, end)` pair. -/
def rangeBound (range : Nat × Nat) (axis : Nat) : Int :=
  if axis = 0 then range.1 else range.2

/-- The tensors the row loop fills, with the dense mask of every row. -/
def packBatch (layouts : List R2OPLProbeLayout) (masks : List (Tensor Bool))
    (padTokenId : Int) : R2OPLProbeBatch :=
  let batchSize := layouts.length
  let maxLength := maxOver (fun layout => layout.sequenceIds.length) layouts
  let maxSteps := maxOver R2OPLProbeLayout.numSemanticSteps layouts
  let maxBranches := maxOver (fun layout => layout.branches.length) layouts
  { inputIds := .mat batchSize maxLength fun row column =>
      layouts[row]?.elim padTokenId fun layout =>
        padRow layout.sequenceIds padTokenId column
    positionIds := .mat batchSize maxLength fun row column =>
      layouts[row]?.elim 0 fun layout => padRow layout.positionIds 0 column
    attentionMask := .cube batchSize maxLength maxLength fun row query key =>
      layouts[row]?.elim false fun layout =>
        decide (query < layout.sequenceIds.length ∧ key < layout.sequenceIds.length) &&
          masks[row]?.elim false fun mask => mask.at2 query key
    sequenceMask := .mat batchSize maxLength fun row column =>
      layouts[row]?.elim false fun layout => decide (column < layout.sequenceIds.length)
    originalSequenceLengths := .vec batchSize fun row =>
      layouts[row]?.elim 0 R2OPLProbeLayout.originalSequenceLength
    responseLengths := .vec batchSize fun row =>
      layouts[row]?.elim 0 R2OPLProbeLayout.responseLength
    semanticStepRanges := .cube batchSize maxSteps 2 fun row step axis =>
      layouts[row]?.elim 0 fun layout =>
        padRow (layout.semanticStepRanges.map (rangeBound · axis)) 0 step
    semanticStepMask := .mat batchSize maxSteps fun row step =>
      layouts[row]?.elim false fun layout => decide (step < layout.numSemanticSteps)
    probeBranchMask := .mat batchSize maxBranches fun row branch =>
      layouts[row]?.elim false fun layout => decide (branch < layout.branches.length)
    layouts := layouts }

/-- The source's default pad id is zero. -/
def buildR2oplProbeBatch (layouts : List R2OPLProbeLayout) (padTokenId : Int) :
    Except PyError R2OPLProbeBatch := do
  raiseIf (layouts = []) (valueError "R2OPL probe batching requires at least one layout.")
  layouts.forM validateR2oplProbeLayout
  let masks ← layouts.mapM buildDenseAttentionMask
  return packBatch layouts masks padTokenId

theorem buildR2oplProbeBatch_eq_ok {layouts : List R2OPLProbeLayout} {padTokenId : Int}
    {batch : R2OPLProbeBatch} :
    buildR2oplProbeBatch layouts padTokenId = .ok batch ↔
      layouts ≠ [] ∧ (∀ layout ∈ layouts, ValidLayout layout) ∧
        batch = packBatch layouts (layouts.map denseMask) padTokenId := by
  have hmasks : ∀ masks, (∀ layout ∈ layouts, ValidLayout layout) →
      (layouts.mapM buildDenseAttentionMask = .ok masks ↔ masks = layouts.map denseMask) := by
    intro masks hvalid
    rw [mapM_eq_ok]
    constructor
    · intro h
      clear hvalid
      induction h with
      | nil => rfl
      | cons hhead _ ih =>
        rw [List.map_cons, ← ih, (buildDenseAttentionMask_eq_ok.mp hhead).2]
    · rintro rfl
      rw [List.forall₂_map_right_iff, List.forall₂_same]
      intro layout hlayout
      exact buildDenseAttentionMask_eq_ok.mpr ⟨hvalid layout hlayout, rfl⟩
  simp only [buildR2oplProbeBatch, bind_eq_ok, raiseIf_eq_ok, exists_and_left,
    exists_const, pure_eq_ok, Except.ok.injEq]
  constructor
  · rintro ⟨hne, ⟨⟩, hall, masks, hmap, rfl⟩
    have hvalid : ∀ layout ∈ layouts, ValidLayout layout := fun layout hlayout =>
      validateR2oplProbeLayout_eq_ok.mp ((forM_eq_ok layouts).mp hall layout hlayout)
    obtain rfl := (hmasks masks hvalid).mp hmap
    exact ⟨hne, hvalid, rfl⟩
  · rintro ⟨hne, hvalid, rfl⟩
    refine ⟨hne, (), (forM_eq_ok layouts).mpr ?_, _, (hmasks _ hvalid).mpr rfl, rfl⟩
    intro layout hlayout
    exact validateR2oplProbeLayout_eq_ok.mpr (hvalid layout hlayout)

/-! ### The network of a batch -/

/-- The keys a node's mask row marks, in physical order. -/
def R2OPLProbeBatch.visible (batch : R2OPLProbeBatch) (node : Nat × Nat) :
    List (Nat × Nat) :=
  ((List.range (batch.attentionMask.size 2)).filter fun key =>
    batch.attentionMask.at3 node.1 node.2 key).map fun key => (node.1, key)

/-- A token of some layout, as opposed to padding. -/
def R2OPLProbeBatch.IsToken (batch : R2OPLProbeBatch) (node : Nat × Nat) : Prop :=
  node.1 < batch.sequenceMask.size 0 ∧ node.2 < batch.sequenceMask.size 1 ∧
    batch.sequenceMask.at2 node.1 node.2 = true

section Packed

variable {layouts : List R2OPLProbeLayout} {padTokenId : Int} {batch : R2OPLProbeBatch}

theorem packBatch_mask (masks : List (Tensor Bool)) {row : Nat}
    {layout : R2OPLProbeLayout} {mask : Tensor Bool}
    (hrow : layouts[row]? = some layout) (hmask : masks[row]? = some mask)
    (query key : Nat) :
    (packBatch layouts masks padTokenId).attentionMask.at3 row query key =
      (decide (query < layout.sequenceIds.length ∧ key < layout.sequenceIds.length) &&
        mask.at2 query key) := by
  simp [packBatch, hrow, hmask]

theorem isToken_packBatch (masks : List (Tensor Bool)) (node : Nat × Nat) :
    (packBatch layouts masks padTokenId).IsToken node ↔
      ∃ layout, layouts[node.1]? = some layout ∧
        node.2 < layout.sequenceIds.length := by
  have hsizes : (packBatch layouts masks padTokenId).sequenceMask.size 0 = layouts.length ∧
      (packBatch layouts masks padTokenId).sequenceMask.size 1 =
        maxOver (fun layout => layout.sequenceIds.length) layouts := ⟨rfl, rfl⟩
  rw [R2OPLProbeBatch.IsToken, hsizes.1, hsizes.2]
  simp only [packBatch, Tensor.at2_mat]
  constructor
  · rintro ⟨hrow, _, htoken⟩
    rw [List.getElem?_eq_getElem hrow] at htoken ⊢
    exact ⟨_, rfl, by simpa using htoken⟩
  · rintro ⟨layout, hrow, hposition⟩
    have hmem := List.mem_of_getElem? hrow
    refine ⟨(List.getElem?_eq_some_iff.mp hrow).1, ?_, by simp [hrow, hposition]⟩
    exact Nat.lt_of_lt_of_le hposition
      (le_maxOver (fun layout => layout.sequenceIds.length) hmem)

/-- The visible list of a token is its dense-mask row. -/
theorem visible_packBatch {row position : Nat} {layout : R2OPLProbeLayout}
    (hrow : layouts[row]? = some layout)
    (hposition : position < layout.sequenceIds.length) :
    (packBatch layouts (layouts.map denseMask) padTokenId).visible (row, position) =
      ((denseMask layout).trueColumns position).map fun key => (row, key) := by
  have hmask : (layouts.map denseMask)[row]? = some (denseMask layout) := by
    rw [List.getElem?_map, hrow]
    rfl
  have hsize : (packBatch layouts (layouts.map denseMask) padTokenId).attentionMask.size 2 =
      maxOver (fun layout => layout.sequenceIds.length) layouts := rfl
  have hdense : (denseMask layout).size 1 = layout.sequenceIds.length := by
    simp [Tensor.size]
  have hle := le_maxOver (fun layout => layout.sequenceIds.length)
    (List.mem_of_getElem? hrow)
  rw [R2OPLProbeBatch.visible, hsize, Tensor.trueColumns, hdense]
  congr 1
  have hsorted : ∀ n (p : Nat → Bool),
      ((List.range n).filter p).Pairwise (· < ·) := fun n p =>
    List.Pairwise.filter _ List.pairwise_lt_range
  apply (hsorted _ _).eq_of_mem_iff (hsorted _ _)
  intro key
  simp only [List.mem_filter, List.mem_range, packBatch_mask _ hrow hmask]
  constructor
  · rintro ⟨_, hkey⟩
    rw [Bool.and_eq_true, decide_eq_true_eq] at hkey
    exact ⟨hkey.1.2, hkey.2⟩
  · rintro ⟨hkey, hvalue⟩
    refine ⟨Nat.lt_of_lt_of_le hkey hle, ?_⟩
    rw [Bool.and_eq_true, decide_eq_true_eq]
    exact ⟨⟨hposition, hkey⟩, hvalue⟩

/-- A node that is not a token sees nothing. -/
theorem visible_packBatch_of_not_token (masks : List (Tensor Bool)) {node : Nat × Nat}
    (hnode : ¬ (packBatch layouts masks padTokenId).IsToken node) :
    (packBatch layouts masks padTokenId).visible node = [] := by
  rw [isToken_packBatch] at hnode
  rw [R2OPLProbeBatch.visible, List.map_eq_nil_iff, List.filter_eq_nil_iff]
  intro key _
  simp only [packBatch, Tensor.at3_cube]
  cases hrow : layouts[node.1]? with
  | none => simp
  | some layout =>
    have hposition : ¬ node.2 < layout.sequenceIds.length := fun h =>
      hnode ⟨layout, hrow, h⟩
    simp [hposition]

end Packed

end R2opl
