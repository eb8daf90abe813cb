import R2opl.Probe.Build
import R2opl.Lib.Tensor

/-!
# The branch-causal attention mask

`build_dense_attention_mask`: original tokens are ordinarily causal, a probe
branch sees its logical rollout prefix and its own causal history.  Every row
of the mask is computed here as an explicit list of visible keys.
-/

namespace R2opl

open Checked

/-- The entries of `torch.ones((n, n), dtype=torch.bool).tril()`. -/
def tril (row column : Nat) : Bool := decide (column ≤ row)

/-- The mask before any branch is written. -/
def originalMask (layout : R2OPLProbeLayout) : Tensor Bool :=
  (Tensor.mat layout.sequenceIds.length layout.sequenceIds.length fun _ _ => false).setBlock
    0 layout.originalSequenceLength 0 layout.originalSequenceLength tril

/-- The two writes of the branch loop: the rollout prefix, then the branch's own
    causal block. -/
def writeBranch (mask : Tensor Bool) (branch : R2OPLProbeBranch) : Tensor Bool :=
  (mask.setBlock branch.probeStart branch.probeEnd 0 branch.visiblePrefixEnd
      fun _ _ => true).setBlock
    branch.probeStart branch.probeEnd branch.probeStart branch.probeEnd tril

def denseMask (layout : R2OPLProbeLayout) : Tensor Bool :=
  layout.branches.foldl writeBranch (originalMask layout)

def buildDenseAttentionMask (layout : R2OPLProbeLayout) :
    Except PyError (Tensor Bool) := do
  validateR2oplProbeLayout layout
  return denseMask layout

theorem buildDenseAttentionMask_eq_ok {layout : R2OPLProbeLayout} {mask : Tensor Bool} :
    buildDenseAttentionMask layout = .ok mask ↔
      ValidLayout layout ∧ mask = denseMask layout := by
  simp only [buildDenseAttentionMask, bind_eq_ok, pure_eq_ok, Except.ok.injEq]
  constructor
  · rintro ⟨⟨⟩, hvalid, rfl⟩
    exact ⟨validateR2oplProbeLayout_eq_ok.mp hvalid, rfl⟩
  · rintro ⟨hvalid, rfl⟩
    exact ⟨(), validateR2oplProbeLayout_eq_ok.mpr hvalid, rfl⟩

/-! ### Where branches lie -/

/-- The physical rows of a branch. -/
def R2OPLProbeBranch.Holds (branch : R2OPLProbeBranch) (position : Nat) : Prop :=
  branch.probeStart ≤ position ∧ position < branch.probeEnd

theorem BranchesFrom.getElem? {layout : R2OPLProbeLayout}
    (branches : List R2OPLProbeBranch) :
    ∀ {index start : Nat}, BranchesFrom layout index start branches →
      ∀ {j : Nat} {branch : R2OPLProbeBranch}, branches[j]? = some branch →
        BranchAt layout (index + j) (start + j * layout.probeTokenIds.length) branch := by
  induction branches with
  | nil =>
    intro index start _ j branch hj
    simp at hj
  | cons head rest ih =>
    intro index start hchain j branch hj
    obtain ⟨hhead, hrest⟩ := hchain
    cases j with
    | zero =>
      obtain rfl : head = branch := by simpa using hj
      simpa using hhead
    | succ j =>
      have h := ih hrest (by simpa using hj)
      rw [show index + (j + 1) = index + 1 + j by omega,
        show start + (j + 1) * layout.probeTokenIds.length =
          start + layout.probeTokenIds.length + j * layout.probeTokenIds.length by
            rw [Nat.succ_mul]; omega]
      exact h

section Valid

variable {layout : R2OPLProbeLayout}

theorem ValidLayout.branchAt (h : ValidLayout layout) {j : Nat}
    {branch : R2OPLProbeBranch} (hj : layout.branches[j]? = some branch) :
    BranchAt layout j
      (layout.originalSequenceLength + j * layout.probeTokenIds.length) branch := by
  simpa using h.branches.getElem? _ hj

theorem ValidLayout.exists_branchAt (h : ValidLayout layout)
    {branch : R2OPLProbeBranch} (hmem : branch ∈ layout.branches) :
    ∃ j start, layout.branches[j]? = some branch ∧ BranchAt layout j start branch := by
  obtain ⟨j, hj⟩ := List.mem_iff_getElem?.mp hmem
  exact ⟨j, _, hj, h.branchAt hj⟩

/-- Stacked copies of equal length do not overlap. -/
theorem ValidLayout.disjoint (h : ValidLayout layout) {i j : Nat}
    {left right : R2OPLProbeBranch} (hi : layout.branches[i]? = some left)
    (hj : layout.branches[j]? = some right) (hij : i < j) (position : Nat)
    (hl : left.Holds position) : ¬ right.Holds position := by
  have hati := h.branchAt hi
  have hatj := h.branchAt hj
  have hstack := Nat.mul_le_mul_right layout.probeTokenIds.length (Nat.succ_le_of_lt hij)
  rw [Nat.succ_mul] at hstack
  intro hr
  have hlow := hr.1
  have hhigh := hl.2
  rw [hatj.start_eq] at hlow
  rw [hati.end_eq] at hhigh
  omega

/-- Two branches that hold one physical position are the same branch. -/
theorem ValidLayout.branch_unique (h : ValidLayout layout)
    {left right : R2OPLProbeBranch} (hleft : left ∈ layout.branches)
    (hright : right ∈ layout.branches) {position : Nat}
    (hl : left.Holds position) (hr : right.Holds position) : left = right := by
  obtain ⟨i, hi⟩ := List.mem_iff_getElem?.mp hleft
  obtain ⟨j, hj⟩ := List.mem_iff_getElem?.mp hright
  rcases Nat.lt_trichotomy i j with hlt | rfl | hgt
  · exact absurd hr (h.disjoint hi hj hlt position hl)
  · exact Option.some.inj (hi.symm.trans hj)
  · exact absurd hl (h.disjoint hj hi hgt position hr)

theorem ValidLayout.pairwise_disjoint (h : ValidLayout layout) :
    layout.branches.Pairwise fun left right =>
      ∀ position, left.Holds position → ¬ right.Holds position := by
  rw [List.pairwise_iff_getElem]
  intro i j hi hj hij
  exact h.disjoint (List.getElem?_eq_getElem hi) (List.getElem?_eq_getElem hj) hij

theorem ValidLayout.original_lt_of_holds (h : ValidLayout layout)
    {branch : R2OPLProbeBranch} (hmem : branch ∈ layout.branches) {position : Nat}
    (hholds : branch.Holds position) : layout.originalSequenceLength ≤ position := by
  obtain ⟨_, _, _, hat⟩ := h.exists_branchAt hmem
  exact Nat.le_trans hat.original_le hholds.1

theorem ValidLayout.holds_lt (h : ValidLayout layout) {branch : R2OPLProbeBranch}
    (hmem : branch ∈ layout.branches) {position : Nat} (hholds : branch.Holds position) :
    position < layout.sequenceIds.length := by
  obtain ⟨_, _, _, hat⟩ := h.exists_branchAt hmem
  exact Nat.lt_of_lt_of_le hholds.2 hat.end_le

/-- Every position of the packed sequence is original or held by a branch. -/
theorem ValidLayout.original_or_branch (h : ValidLayout layout) {position : Nat}
    (hposition : position < layout.sequenceIds.length) :
    position < layout.originalSequenceLength ∨
      ∃ branch ∈ layout.branches, branch.Holds position := by
  by_cases horiginal : position < layout.originalSequenceLength
  · exact Or.inl horiginal
  right
  let offset := position - layout.originalSequenceLength
  have htotal := h.total
  have hpos : 0 < layout.probeTokenIds.length := by
    rcases Nat.eq_zero_or_pos layout.probeTokenIds.length with hzero | hpos
    · rw [hzero, Nat.mul_zero] at htotal
      omega
    · exact hpos
  have hindex : offset / layout.probeTokenIds.length < layout.branches.length := by
    apply Nat.div_lt_of_lt_mul
    rw [Nat.mul_comm]
    omega
  obtain ⟨branch, hbranch⟩ : ∃ branch,
      layout.branches[offset / layout.probeTokenIds.length]? = some branch :=
    ⟨_, List.getElem?_eq_getElem hindex⟩
  have hat := h.branchAt hbranch
  have hdiv := Nat.div_add_mod offset layout.probeTokenIds.length
  have hmod := Nat.mod_lt offset hpos
  rw [Nat.mul_comm] at hdiv
  refine ⟨branch, List.mem_of_getElem? hbranch, ?_, ?_⟩
  · rw [hat.start_eq]
    omega
  · rw [hat.end_eq]
    omega

end Valid

/-! ### Rows of the mask -/

@[simp] theorem shape_denseMask (layout : R2OPLProbeLayout) :
    (denseMask layout).shape = [layout.sequenceIds.length, layout.sequenceIds.length] := by
  have hfold : ∀ (branches : List R2OPLProbeBranch) (mask : Tensor Bool),
      (branches.foldl writeBranch mask).shape = mask.shape := by
    intro branches
    induction branches with
    | nil => intro mask; rfl
    | cons branch rest ih =>
      intro mask
      rw [List.foldl_cons, ih]
      rfl
  exact hfold layout.branches (originalMask layout)

/-- A row outside the branches keeps what it held. -/
theorem foldl_writeBranch_of_not_holds {row column : Nat}
    (branches : List R2OPLProbeBranch) :
    ∀ mask : Tensor Bool, (∀ branch ∈ branches, ¬ branch.Holds row) →
      (branches.foldl writeBranch mask).at2 row column = mask.at2 row column := by
  induction branches with
  | nil => intro mask _; rfl
  | cons branch rest ih =>
    intro mask hrows
    rw [List.foldl_cons, ih _ fun other hother =>
      hrows other (List.mem_cons_of_mem _ hother)]
    have hrow := hrows branch List.mem_cons_self
    simp only [R2OPLProbeBranch.Holds] at hrow
    rw [writeBranch, Tensor.at2_setBlock, Tensor.at2_setBlock, if_neg (by tauto),
      if_neg (by tauto)]

/-- The row of a branch right after its own two writes. -/
theorem writeBranch_of_holds {mask : Tensor Bool} {branch : R2OPLProbeBranch}
    {row column : Nat} (hholds : branch.Holds row)
    (hordered : branch.visiblePrefixEnd ≤ branch.probeStart)
    (hmask : mask.at2 row column = false) :
    (writeBranch mask branch).at2 row column =
      decide (column < branch.visiblePrefixEnd ∨
        (branch.probeStart ≤ column ∧ column ≤ row)) := by
  obtain ⟨hstart, hend⟩ := hholds
  rw [writeBranch, Tensor.at2_setBlock, Tensor.at2_setBlock, hmask]
  by_cases hblock : branch.probeStart ≤ column ∧ column < branch.probeEnd
  · rw [if_pos ⟨hstart, hend, hblock⟩]
    simp only [tril, decide_eq_decide]
    omega
  · rw [if_neg (by tauto)]
    by_cases hvisible : column < branch.visiblePrefixEnd
    · rw [if_pos ⟨hstart, hend, Nat.zero_le _, hvisible⟩]
      exact (decide_eq_true (Or.inl hvisible)).symm
    · rw [if_neg (by tauto)]
      exact (decide_eq_false (by omega)).symm

/-- The row of a branch is written once: no other branch touches it. -/
theorem foldl_writeBranch_of_holds {row column : Nat} {branch : R2OPLProbeBranch}
    (hholds : branch.Holds row)
    (hordered : branch.visiblePrefixEnd ≤ branch.probeStart)
    (branches : List R2OPLProbeBranch) :
    ∀ mask : Tensor Bool, branch ∈ branches →
      branches.Pairwise (fun left right =>
        ∀ position, left.Holds position → ¬ right.Holds position) →
      mask.at2 row column = false →
      (branches.foldl writeBranch mask).at2 row column =
        decide (column < branch.visiblePrefixEnd ∨
          (branch.probeStart ≤ column ∧ column ≤ row)) := by
  induction branches with
  | nil => intro mask hmem _ _; cases hmem
  | cons head rest ih =>
    intro mask hmem hdisjoint hmask
    obtain ⟨hhead, hrest⟩ := List.pairwise_cons.mp hdisjoint
    rw [List.foldl_cons]
    rcases List.mem_cons.mp hmem with rfl | hmem
    · rw [foldl_writeBranch_of_not_holds rest _ fun other hother =>
        hhead other hother row hholds]
      exact writeBranch_of_holds hholds hordered hmask
    · refine ih _ hmem hrest ?_
      have hother : ¬ head.Holds row := fun h => hhead branch hmem row h hholds
      rw [← hmask]
      exact foldl_writeBranch_of_not_holds [head] mask (by simpa using hother)

section Rows

variable {layout : R2OPLProbeLayout} (h : ValidLayout layout)

include h

/-- An original query sees exactly the keys up to itself. -/
theorem denseMask_original {query : Nat} (hquery : query < layout.originalSequenceLength)
    (key : Nat) : (denseMask layout).at2 query key = decide (key ≤ query) := by
  rw [denseMask, foldl_writeBranch_of_not_holds _ _ fun branch hbranch hholds =>
    Nat.not_lt_of_le (h.original_lt_of_holds hbranch hholds) hquery]
  rw [originalMask, Tensor.at2_setBlock]
  by_cases hkey : key < layout.originalSequenceLength
  · rw [if_pos ⟨Nat.zero_le _, hquery, Nat.zero_le _, hkey⟩]
    rfl
  · rw [if_neg (by tauto), Tensor.at2_mat]
    exact (decide_eq_false (by omega)).symm

/-- A branch query sees its rollout prefix and its own past. -/
theorem denseMask_branch {branch : R2OPLProbeBranch} (hbranch : branch ∈ layout.branches)
    {query : Nat} (hquery : branch.Holds query) (key : Nat) :
    (denseMask layout).at2 query key =
      decide (key < branch.visiblePrefixEnd ∨
        (branch.probeStart ≤ key ∧ key ≤ query)) := by
  obtain ⟨_, _, _, hat⟩ := h.exists_branchAt hbranch
  have horiginal := h.original_lt_of_holds hbranch hquery
  refine foldl_writeBranch_of_holds hquery
    (Nat.le_trans hat.prefix_le hat.original_le) layout.branches _ hbranch
    h.pairwise_disjoint ?_
  rw [originalMask, Tensor.at2_setBlock, if_neg (by omega), Tensor.at2_mat]

theorem trueColumns_original {query : Nat}
    (hquery : query < layout.originalSequenceLength) :
    (denseMask layout).trueColumns query = List.range (query + 1) := by
  apply Tensor.trueColumns_eq List.pairwise_lt_range
  intro key
  rw [denseMask_original h hquery, decide_eq_true_eq, List.mem_range]
  have hsize : (denseMask layout).size 1 = layout.sequenceIds.length := by
    simp [Tensor.size]
  have htotal := h.total
  rw [hsize]
  omega

theorem trueColumns_branch {branch : R2OPLProbeBranch} (hbranch : branch ∈ layout.branches)
    {offset : Nat} (hoffset : branch.probeStart + offset < branch.probeEnd) :
    (denseMask layout).trueColumns (branch.probeStart + offset) =
      List.range branch.visiblePrefixEnd ++
        List.range' branch.probeStart (offset + 1) := by
  obtain ⟨_, _, _, hat⟩ := h.exists_branchAt hbranch
  have hordered := Nat.le_trans hat.prefix_le hat.original_le
  have hend := hat.end_le
  have hholds : branch.Holds (branch.probeStart + offset) :=
    ⟨Nat.le_add_right _ _, hoffset⟩
  have hsize : (denseMask layout).size 1 = layout.sequenceIds.length := by
    simp [Tensor.size]
  apply Tensor.trueColumns_eq
  · rw [List.pairwise_append]
    refine ⟨List.pairwise_lt_range, List.pairwise_lt_range', ?_⟩
    intro left hleft right hright
    rw [List.mem_range] at hleft
    rw [List.mem_range'_1] at hright
    omega
  · intro key
    rw [denseMask_branch h hbranch hholds, decide_eq_true_eq, List.mem_append,
      List.mem_range, List.mem_range'_1, hsize]
    omega

end Rows

end R2opl
