import R2opl.Probe.Batch
import R2opl.Lib.Layered

/-!
# Noninterference through any number of layers

The visibility relation of a packed batch is reflexive and transitive on its
tokens, stays inside a row and never reaches padding.  Hence no number of
attention layers carries information from a token to a node that does not see
it directly.
-/

namespace R2opl

open Checked

/-! ### Who sees whom inside one layout -/

/-- Query `query` of a layout sees key `key`: ordinary causality on the original
    segment, prefix and own past on a branch. -/
def R2OPLProbeLayout.Sees (layout : R2OPLProbeLayout) (query key : Nat) : Prop :=
  (query < layout.originalSequenceLength ∧ key ≤ query) ∨
    ∃ branch ∈ layout.branches, branch.Holds query ∧
      (key < branch.visiblePrefixEnd ∨ (branch.probeStart ≤ key ∧ key ≤ query))

section Layout

variable {layout : R2OPLProbeLayout} (h : ValidLayout layout)

include h

theorem ValidLayout.mem_trueColumns {query key : Nat}
    (hquery : query < layout.sequenceIds.length) :
    key ∈ (denseMask layout).trueColumns query ↔ layout.Sees query key := by
  rcases h.original_or_branch hquery with horiginal | ⟨branch, hbranch, hholds⟩
  · rw [trueColumns_original h horiginal, List.mem_range, Nat.lt_succ_iff]
    constructor
    · intro hkey
      exact Or.inl ⟨horiginal, hkey⟩
    · rintro (⟨_, hkey⟩ | ⟨branch, hbranch, hholds, _⟩)
      · exact hkey
      · exact absurd horiginal (Nat.not_lt_of_le (h.original_lt_of_holds hbranch hholds))
  · obtain ⟨offset, rfl⟩ := Nat.exists_eq_add_of_le hholds.1
    rw [trueColumns_branch h hbranch hholds.2, List.mem_append, List.mem_range,
      List.mem_range'_1]
    constructor
    · intro hkey
      exact Or.inr ⟨branch, hbranch, hholds, by omega⟩
    · rintro (⟨horiginal, _⟩ | ⟨other, hother, hheld, hkey⟩)
      · exact absurd horiginal (Nat.not_lt_of_le (h.original_lt_of_holds hbranch hholds))
      · obtain rfl := h.branch_unique hother hbranch hheld hholds
        omega

theorem ValidLayout.sees_self {query : Nat} (hquery : query < layout.sequenceIds.length) :
    layout.Sees query query := by
  rcases h.original_or_branch hquery with horiginal | ⟨branch, hbranch, hholds⟩
  · exact Or.inl ⟨horiginal, Nat.le_refl _⟩
  · exact Or.inr ⟨branch, hbranch, hholds, Or.inr ⟨hholds.1, Nat.le_refl _⟩⟩

theorem ValidLayout.sees_lt {query key : Nat} (hsees : layout.Sees query key) :
    key < layout.sequenceIds.length := by
  have htotal := h.total
  rcases hsees with ⟨horiginal, hkey⟩ | ⟨branch, hbranch, hholds, hkey⟩
  · omega
  · obtain ⟨_, _, _, hat⟩ := h.exists_branchAt hbranch
    have hvisible := hat.prefix_le
    have hquery := h.holds_lt hbranch hholds
    omega

/-- Seeing is transitive: what a branch sees outside itself is original, and an
    original token sees only what comes before it. -/
theorem ValidLayout.sees_trans {query seen far : Nat} (hsees : layout.Sees query seen)
    (hfar : layout.Sees seen far) : layout.Sees query far := by
  rcases hsees with ⟨horiginal, hseen⟩ | ⟨branch, hbranch, hholds, hseen⟩
  · rcases hfar with ⟨_, hfar⟩ | ⟨other, hother, hheld, _⟩
    · exact Or.inl ⟨horiginal, Nat.le_trans hfar hseen⟩
    · have := h.original_lt_of_holds hother hheld
      omega
  · obtain ⟨_, _, _, hat⟩ := h.exists_branchAt hbranch
    have hvisible := hat.prefix_le
    refine Or.inr ⟨branch, hbranch, hholds, ?_⟩
    rcases hfar with ⟨horiginal, hfar⟩ | ⟨other, hother, hheld, hfar⟩
    · -- an original token is seen through the prefix, not through the probe
      have hstart := hat.original_le
      exact Or.inl (by omega)
    · have hpast := h.original_lt_of_holds hother hheld
      have hown : branch.Holds seen := ⟨by omega, by have := hholds.2; omega⟩
      obtain rfl := h.branch_unique hother hbranch hheld hown
      omega

end Layout

/-! ### Who sees whom inside a batch -/

section Batch

variable {layouts : List R2OPLProbeLayout} {padTokenId : Int} {batch : R2OPLProbeBatch}
  (h : buildR2oplProbeBatch layouts padTokenId = .ok batch)

include h

theorem isToken_iff (node : Nat × Nat) :
    batch.IsToken node ↔ ∃ layout, layouts[node.1]? = some layout ∧
      node.2 < layout.sequenceIds.length := by
  obtain ⟨_, _, rfl⟩ := buildR2oplProbeBatch_eq_ok.mp h
  exact isToken_packBatch _ node

theorem mem_visible {node seen : Nat × Nat} :
    seen ∈ batch.visible node ↔ ∃ layout, layouts[node.1]? = some layout ∧
      node.2 < layout.sequenceIds.length ∧ seen.1 = node.1 ∧
        layout.Sees node.2 seen.2 := by
  have htoken := isToken_iff h node
  obtain ⟨_, hvalid, rfl⟩ := buildR2oplProbeBatch_eq_ok.mp h
  constructor
  · intro hseen
    by_cases hnode : (packBatch layouts (layouts.map denseMask) padTokenId).IsToken node
    · obtain ⟨layout, hrow, hposition⟩ := htoken.mp hnode
      rw [show node = (node.1, node.2) from rfl, visible_packBatch hrow hposition,
        List.mem_map] at hseen
      obtain ⟨key, hkey, rfl⟩ := hseen
      have hlayout := hvalid layout (List.mem_of_getElem? hrow)
      exact ⟨layout, hrow, hposition, rfl, (hlayout.mem_trueColumns hposition).mp hkey⟩
    · rw [visible_packBatch_of_not_token _ hnode] at hseen
      cases hseen
  · rintro ⟨layout, hrow, hposition, hsame, hsees⟩
    have hlayout := hvalid layout (List.mem_of_getElem? hrow)
    rw [show node = (node.1, node.2) from rfl, visible_packBatch hrow hposition,
      List.mem_map]
    exact ⟨seen.2, (hlayout.mem_trueColumns hposition).mpr hsees, Prod.ext hsame.symm rfl⟩

theorem mem_visible_self {node : Nat × Nat} (hnode : batch.IsToken node) :
    node ∈ batch.visible node := by
  obtain ⟨layout, hrow, hposition⟩ := (isToken_iff h node).mp hnode
  obtain ⟨_, hvalid, _⟩ := buildR2oplProbeBatch_eq_ok.mp h
  exact (mem_visible h).mpr ⟨layout, hrow, hposition, rfl,
    (hvalid layout (List.mem_of_getElem? hrow)).sees_self hposition⟩

theorem mem_visible_trans {node seen far : Nat × Nat} (hseen : seen ∈ batch.visible node)
    (hfar : far ∈ batch.visible seen) : far ∈ batch.visible node := by
  obtain ⟨_, hvalid, _⟩ := buildR2oplProbeBatch_eq_ok.mp h
  obtain ⟨layout, hrow, hposition, hsame, hsees⟩ := (mem_visible h).mp hseen
  obtain ⟨other, hother, _, hfarSame, hfarSees⟩ := (mem_visible h).mp hfar
  rw [hsame, hrow] at hother
  obtain rfl := Option.some.inj hother
  exact (mem_visible h).mpr ⟨layout, hrow, hposition, hfarSame.trans hsame,
    (hvalid layout (List.mem_of_getElem? hrow)).sees_trans hsees hfarSees⟩

theorem visible_inside_row {node seen : Nat × Nat} (hseen : seen ∈ batch.visible node) :
    seen.1 = node.1 ∧ batch.IsToken node ∧ batch.IsToken seen := by
  obtain ⟨_, hvalid, _⟩ := buildR2oplProbeBatch_eq_ok.mp h
  obtain ⟨layout, hrow, hposition, hsame, hsees⟩ := (mem_visible h).mp hseen
  refine ⟨hsame, (isToken_iff h node).mpr ⟨layout, hrow, hposition⟩,
    (isToken_iff h seen).mpr ⟨layout, hsame ▸ hrow, ?_⟩⟩
  exact (hvalid layout (List.mem_of_getElem? hrow)).sees_lt hsees

/-- The mask determines the position ids: a token's number is how many tokens it
    sees besides itself. -/
theorem positionIds_add_one {node : Nat × Nat} (hnode : batch.IsToken node) :
    batch.positionIds.at2 node.1 node.2 + 1 = (batch.visible node).length := by
  obtain ⟨layout, hrow, hposition⟩ := (isToken_iff h node).mp hnode
  obtain ⟨_, hvalid, rfl⟩ := buildR2oplProbeBatch_eq_ok.mp h
  have hlayout := hvalid layout (List.mem_of_getElem? hrow)
  rw [show node = (node.1, node.2) from rfl, visible_packBatch hrow hposition,
    List.length_map]
  have hread : (packBatch layouts (layouts.map denseMask) padTokenId).positionIds.at2
      node.1 node.2 = layout.positionIds.getD node.2 0 := by
    simp [packBatch, hrow, padRow]
  rw [hread, List.getD_eq_getElem?_getD]
  rcases hlayout.original_or_branch hposition with horiginal | ⟨branch, hbranch, hholds⟩
  · have hslice := congrArg (·[node.2]?) hlayout.original_positions
    simp only [getElem?_slice, Nat.sub_zero, Nat.zero_add, if_pos horiginal] at hslice
    rw [hslice, trueColumns_original hlayout horiginal, List.getElem?_range horiginal]
    simp
  · obtain ⟨_, _, _, hat⟩ := hlayout.exists_branchAt hbranch
    obtain ⟨offset, hoffset⟩ := Nat.exists_eq_add_of_le hholds.1
    have hinside := hholds.2
    have hstart := hat.start_eq
    have hend := hat.end_eq
    have hslice := congrArg (·[offset]?) hat.positions
    simp only [getElem?_slice,
      if_pos (by omega : offset < branch.probeEnd - branch.probeStart)] at hslice
    rw [hoffset, hslice, trueColumns_branch hlayout hbranch (by omega),
      List.getElem?_range' (by omega)]
    simp [Nat.add_assoc]

end Batch

/-! ### Two runs -/

/-- The state of a node after `depth` layers, when the batch is fed the token ids
    `ids` under its own position ids and mask. -/
def R2OPLProbeBatch.states {State : Type} (batch : R2OPLProbeBatch) (ids : Tensor Int)
    (embed : Int → Nat → State) (layer : Nat → List State → State) (depth : Nat)
    (node : Nat × Nat) : State :=
  Layered.state batch.visible layer
    (fun token => embed (ids.at2 token.1 token.2) (batch.positionIds.at2 token.1 token.2))
    depth node

/-- Two batches have one attention mask. -/
structure SameMask (other batch : R2OPLProbeBatch) : Prop where
  shape : other.attentionMask.shape = batch.attentionMask.shape
  entries : ∀ row < batch.attentionMask.size 0, ∀ query < batch.attentionMask.size 1,
    ∀ key < batch.attentionMask.size 2,
      other.attentionMask.at3 row query key = batch.attentionMask.at3 row query key

/-- The tokens that must not reach the probe nodes of a branch: other rows,
    padding, the response from the branch's visible prefix end on, and the probe
    tokens of the other branches. -/
def HiddenFromBranch (batch : R2OPLProbeBatch) (row : Nat) (layout : R2OPLProbeLayout)
    (branch : R2OPLProbeBranch) (node : Nat × Nat) : Prop :=
  node.1 ≠ row ∨ ¬ batch.IsToken node ∨
    (branch.visiblePrefixEnd ≤ node.2 ∧ node.2 < layout.originalSequenceLength) ∨
    ∃ other ∈ layout.branches, other ≠ branch ∧ other.Holds node.2

/-- The tokens that must not reach the original segment: other rows, padding and
    every probe token. -/
def HiddenFromOriginal (batch : R2OPLProbeBatch) (row : Nat) (layout : R2OPLProbeLayout)
    (node : Nat × Nat) : Prop :=
  node.1 ≠ row ∨ ¬ batch.IsToken node ∨ ∃ branch ∈ layout.branches, branch.Holds node.2

section TwoRuns

variable {layouts otherLayouts : List R2OPLProbeLayout} {padTokenId otherPad : Int}
  {batch other : R2OPLProbeBatch}

theorem SameMask.visible_eq (hmask : SameMask other batch) {node : Nat × Nat}
    (hrow : node.1 < batch.attentionMask.size 0)
    (hquery : node.2 < batch.attentionMask.size 1) :
    other.visible node = batch.visible node := by
  have hsize : other.attentionMask.size 2 = batch.attentionMask.size 2 := by
    rw [Tensor.size, hmask.shape, Tensor.size]
  rw [R2OPLProbeBatch.visible, R2OPLProbeBatch.visible, hsize]
  congr 1
  apply List.filter_congr
  intro key hkey
  exact hmask.entries _ hrow _ hquery _ (List.mem_range.mp hkey)

theorem IsToken.in_mask (h : buildR2oplProbeBatch layouts padTokenId = .ok batch)
    {node : Nat × Nat} (hnode : batch.IsToken node) :
    node.1 < batch.attentionMask.size 0 ∧ node.2 < batch.attentionMask.size 1 := by
  obtain ⟨_, _, rfl⟩ := buildR2oplProbeBatch_eq_ok.mp h
  exact ⟨hnode.1, hnode.2.1⟩

/-- Two built batches with one mask give a node the same state whenever the ids
    they are fed agree on everything the node sees. -/
theorem states_congr (h : buildR2oplProbeBatch layouts padTokenId = .ok batch)
    (hother : buildR2oplProbeBatch otherLayouts otherPad = .ok other)
    (hmask : SameMask other batch) {State : Type} (embed : Int → Nat → State)
    (layer : Nat → List State → State) (depth : Nat) {ids otherIds : Tensor Int}
    {node : Nat × Nat} (hnode : batch.IsToken node)
    (hids : ∀ seen ∈ batch.visible node,
      otherIds.at2 seen.1 seen.2 = ids.at2 seen.1 seen.2) :
    other.states otherIds embed layer depth node = batch.states ids embed layer depth node := by
  have hvisible : ∀ seen ∈ batch.visible node, other.visible seen = batch.visible seen := by
    intro seen hseen
    obtain ⟨_, _, htoken⟩ := visible_inside_row h hseen
    obtain ⟨hrow, hquery⟩ := IsToken.in_mask h htoken
    exact hmask.visible_eq hrow hquery
  refine Layered.state_congr_of_trans (mem_visible_self h hnode)
    (fun seen hseen far hfar => mem_visible_trans h hseen hfar) hvisible ?_ depth
  intro seen hseen
  obtain ⟨_, _, htoken⟩ := visible_inside_row h hseen
  -- the other batch has a token there too, since its mask row is not empty
  have hself := mem_visible_self h htoken
  rw [← hvisible seen hseen] at hself
  have hotherToken := (visible_inside_row hother hself).2.1
  have hposition := positionIds_add_one h htoken
  have hotherPosition := positionIds_add_one hother hotherToken
  rw [hvisible seen hseen] at hotherPosition
  rw [hids seen hseen,
    show other.positionIds.at2 seen.1 seen.2 = batch.positionIds.at2 seen.1 seen.2 by omega]

/-- A branch node sees nothing that is hidden from its branch. -/
theorem not_hidden_of_visible_branch
    (h : buildR2oplProbeBatch layouts padTokenId = .ok batch) {row position : Nat}
    {layout : R2OPLProbeLayout} (hrow : layouts[row]? = some layout)
    {branch : R2OPLProbeBranch} (hbranch : branch ∈ layout.branches)
    (hholds : branch.Holds position) {seen : Nat × Nat}
    (hseen : seen ∈ batch.visible (row, position)) :
    ¬ HiddenFromBranch batch row layout branch seen := by
  obtain ⟨_, hvalid, _⟩ := buildR2oplProbeBatch_eq_ok.mp h
  have hlayout := hvalid layout (List.mem_of_getElem? hrow)
  obtain ⟨hsame, _, htoken⟩ := visible_inside_row h hseen
  obtain ⟨found, hfound, _, _, hsees⟩ := (mem_visible h).mp hseen
  obtain rfl := Option.some.inj (hrow.symm.trans hfound)
  obtain ⟨_, _, _, hat⟩ := hlayout.exists_branchAt hbranch
  have horiginal := hlayout.original_lt_of_holds hbranch hholds
  have hvisible := hat.prefix_le
  have hstart := hat.original_le
  have hkey : seen.2 < branch.visiblePrefixEnd ∨ branch.Holds seen.2 := by
    rcases hsees with ⟨hquery, _⟩ | ⟨holder, hholder, hheld, hkey⟩
    · exact absurd hquery (Nat.not_lt_of_le horiginal)
    · obtain rfl := hlayout.branch_unique hholder hbranch hheld hholds
      rcases hkey with hkey | ⟨hlow, hhigh⟩
      · exact Or.inl hkey
      · exact Or.inr ⟨hlow, Nat.lt_of_le_of_lt hhigh hholds.2⟩
  rintro (hrowNe | hpadding | ⟨hlow, hhigh⟩ | ⟨holder, hholder, hne, hheld⟩)
  · exact hrowNe hsame
  · exact hpadding htoken
  · rcases hkey with hkey | hown
    · omega
    · exact absurd (hlayout.original_lt_of_holds hbranch hown) (Nat.not_le_of_lt hhigh)
  · rcases hkey with hkey | hown
    · have := hlayout.original_lt_of_holds hholder hheld
      omega
    · exact hne (hlayout.branch_unique hholder hbranch hheld hown)

/-- An original node sees nothing that is hidden from the original segment. -/
theorem not_hidden_of_visible_original
    (h : buildR2oplProbeBatch layouts padTokenId = .ok batch) {row position : Nat}
    {layout : R2OPLProbeLayout} (hrow : layouts[row]? = some layout)
    (horiginal : position < layout.originalSequenceLength) {seen : Nat × Nat}
    (hseen : seen ∈ batch.visible (row, position)) :
    ¬ HiddenFromOriginal batch row layout seen := by
  obtain ⟨_, hvalid, _⟩ := buildR2oplProbeBatch_eq_ok.mp h
  have hlayout := hvalid layout (List.mem_of_getElem? hrow)
  obtain ⟨hsame, _, htoken⟩ := visible_inside_row h hseen
  obtain ⟨found, hfound, _, _, hsees⟩ := (mem_visible h).mp hseen
  obtain rfl := Option.some.inj (hrow.symm.trans hfound)
  have hkey : seen.2 < layout.originalSequenceLength := by
    rcases hsees with ⟨_, hkey⟩ | ⟨holder, hholder, hheld, _⟩
    · exact Nat.lt_of_le_of_lt hkey horiginal
    · exact absurd horiginal
        (Nat.not_lt_of_le (hlayout.original_lt_of_holds hholder hheld))
  rintro (hrowNe | hpadding | ⟨branch, hbranch, hheld⟩)
  · exact hrowNe hsame
  · exact hpadding htoken
  · exact absurd (hlayout.original_lt_of_holds hbranch hheld) (Nat.not_le_of_lt hkey)

/-- **Noninterference.**  On a packed batch seeing is reflexive and transitive on
    tokens, stays inside a row and avoids padding; and for every depth and layer
    function, two batches with one mask whose ids differ only where a branch
    must not look give that branch's nodes one state, and original nodes do not
    depend on any probe token. -/
theorem packed_batch_noninterference
    (h : buildR2oplProbeBatch layouts padTokenId = .ok batch) :
    (∀ node, batch.IsToken node → node ∈ batch.visible node) ∧
    (∀ node, ∀ seen ∈ batch.visible node, ∀ far ∈ batch.visible seen,
      far ∈ batch.visible node) ∧
    (∀ node, ∀ seen ∈ batch.visible node,
      seen.1 = node.1 ∧ batch.IsToken node ∧ batch.IsToken seen) ∧
    (∀ (otherLayouts : List R2OPLProbeLayout) (otherPad : Int) (other : R2OPLProbeBatch),
      buildR2oplProbeBatch otherLayouts otherPad = .ok other → SameMask other batch →
      ∀ (row : Nat) (layout : R2OPLProbeLayout), layouts[row]? = some layout →
      ∀ (ids otherIds : Tensor Int) {State : Type} (embed : Int → Nat → State)
        (layer : Nat → List State → State) (depth position : Nat),
        (∀ branch ∈ layout.branches, branch.Holds position →
          (∀ node : Nat × Nat, otherIds.at2 node.1 node.2 ≠ ids.at2 node.1 node.2 →
            HiddenFromBranch batch row layout branch node) →
          other.states otherIds embed layer depth (row, position) =
            batch.states ids embed layer depth (row, position)) ∧
        (position < layout.originalSequenceLength →
          (∀ node : Nat × Nat, otherIds.at2 node.1 node.2 ≠ ids.at2 node.1 node.2 →
            HiddenFromOriginal batch row layout node) →
          other.states otherIds embed layer depth (row, position) =
            batch.states ids embed layer depth (row, position))) := by
  obtain ⟨_, hvalid, _⟩ := buildR2oplProbeBatch_eq_ok.mp h
  refine ⟨fun node hnode => mem_visible_self h hnode,
    fun node seen hseen far hfar => mem_visible_trans h hseen hfar,
    fun node seen hseen => visible_inside_row h hseen, ?_⟩
  intro otherLayouts otherPad other hother hmask row layout hrow ids otherIds State embed
    layer depth position
  have hlayout := hvalid layout (List.mem_of_getElem? hrow)
  constructor
  · intro branch hbranch hholds hdiffer
    refine states_congr h hother hmask embed layer depth
      ((isToken_iff h _).mpr ⟨layout, hrow, hlayout.holds_lt hbranch hholds⟩) ?_
    intro seen hseen
    by_contra hne
    exact not_hidden_of_visible_branch h hrow hbranch hholds hseen (hdiffer seen hne)
  · intro horiginal hdiffer
    have htotal := hlayout.total
    refine states_congr h hother hmask embed layer depth
      ((isToken_iff h _).mpr ⟨layout, hrow, by simp only; omega⟩) ?_
    intro seen hseen
    by_contra hne
    exact not_hidden_of_visible_original h hrow horiginal hseen (hdiffer seen hne)

/-- Two responses that differ in their last token: the second branch of the
    first, which stops before it, cannot tell them apart. -/
theorem packed_batch_noninterference_two_responses :
    ∃ (left right : R2OPLProbeLayout) (batch other : R2OPLProbeBatch),
      buildR2oplProbeLayout [11] [21, 22] [.seq [0, 1], .seq [1, 2]]
        ⟨[], [31, 32], [1], 0, 0⟩ = .ok left ∧
      buildR2oplProbeLayout [11] [21, 99] [.seq [0, 1], .seq [1, 2]]
        ⟨[], [31, 32], [1], 0, 0⟩ = .ok right ∧
      buildR2oplProbeBatch [left] 0 = .ok batch ∧
      buildR2oplProbeBatch [right] 0 = .ok other ∧
      batch.inputIds.at2 0 2 ≠ other.inputIds.at2 0 2 ∧
      ∀ {State : Type} (embed : Int → Nat → State) (layer : Nat → List State → State)
        (depth : Nat), other.states other.inputIds embed layer depth (0, 6) =
          batch.states batch.inputIds embed layer depth (0, 6) := by
  have hbuild : ∀ token : Int, buildR2oplProbeLayout [11] [21, token]
      [.seq [0, 1], .seq [1, 2]] ⟨[], [31, 32], [1], 0, 0⟩ =
        .ok (assembleLayout [11] [21, token] [(0, 1), (1, 2)] ⟨[], [31, 32], [1], 0, 0⟩) := by
    intro token
    exact buildR2oplProbeLayout_eq_ok.mpr ⟨by decide, [(0, 1), (1, 2)], rfl,
      ⟨rfl, by decide, by simp, rfl, by decide, by simp, trivial⟩,
      fun _ => ⟨by decide, by decide, by decide⟩, rfl⟩
  have hbatch : ∀ token : Int, ∃ batch, buildR2oplProbeBatch
      [assembleLayout [11] [21, token] [(0, 1), (1, 2)] ⟨[], [31, 32], [1], 0, 0⟩] 0 =
        .ok batch := by
    intro token
    refine ⟨_, buildR2oplProbeBatch_eq_ok.mpr ⟨by simp, ?_, rfl⟩⟩
    intro layout hlayout
    obtain rfl := List.mem_singleton.mp hlayout
    exact ValidLayout.of_build (hbuild token)
  obtain ⟨batch, hleft⟩ := hbatch 22
  obtain ⟨other, hright⟩ := hbatch 99
  refine ⟨_, _, batch, other, hbuild 22, hbuild 99, hleft, hright, ?_, ?_⟩
  · obtain ⟨_, _, rfl⟩ := buildR2oplProbeBatch_eq_ok.mp hleft
    obtain ⟨_, _, rfl⟩ := buildR2oplProbeBatch_eq_ok.mp hright
    decide
  · intro State embed layer depth
    obtain ⟨-, -, -, hruns⟩ := packed_batch_noninterference hleft
    have hmask : SameMask other batch := by
      obtain ⟨_, _, rfl⟩ := buildR2oplProbeBatch_eq_ok.mp hleft
      obtain ⟨_, _, rfl⟩ := buildR2oplProbeBatch_eq_ok.mp hright
      exact ⟨rfl, by decide +kernel⟩
    refine (hruns _ _ other hright hmask 0 _ rfl batch.inputIds other.inputIds embed layer
      depth 6).1 ⟨1, some 0, 2, 5, 7, [6]⟩ (by decide) ⟨by decide, by decide⟩ ?_
    intro node hdiffer
    obtain ⟨_, _, rfl⟩ := buildR2oplProbeBatch_eq_ok.mp hleft
    obtain ⟨_, _, rfl⟩ := buildR2oplProbeBatch_eq_ok.mp hright
    obtain ⟨row, column⟩ := node
    by_cases hrow : row = 0
    · subst hrow
      by_cases hcolumn : column = 2
      · subst hcolumn
        exact Or.inr (Or.inr (Or.inl ⟨by decide, by decide⟩))
      · refine absurd ?_ hdiffer
        rcases column with _ | _ | _ | column
        · rfl
        · rfl
        · exact absurd rfl hcolumn
        · rfl
    · exact Or.inl hrow

end TwoRuns

end R2opl
