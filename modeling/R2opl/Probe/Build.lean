import R2opl.Probe.Layout

/-!
# Building packed layouts

`build_r2opl_probe_layout`: the branch loop that appends the probe copies, and
the proof that what it assembles always passes `validate_r2opl_probe_layout`.
The builder is total on non-empty prompts, contiguous steps and valid probes.
-/

namespace R2opl

open Checked

/-! ### Construction -/

/-- The three lists `build_r2opl_probe_layout` extends in place. -/
structure Packing where
  sequenceIds : List Int
  positionIds : List Nat
  branches : List R2OPLProbeBranch

/-- One iteration of the branch loop. -/
def appendBranch (promptLength : Nat) (probeIds : List Int)
    (localAnswerPositions : List Nat) (index responseEnd : Nat) (packing : Packing) :
    Packing :=
  let visiblePrefixEnd := promptLength + responseEnd
  let probeStart := packing.sequenceIds.length
  let probeEnd := probeStart + probeIds.length
  { sequenceIds := packing.sequenceIds ++ probeIds
    positionIds := packing.positionIds ++ List.range' visiblePrefixEnd probeIds.length
    branches := packing.branches ++
      [{ index := index
         afterStepIndex := if index = 0 then none else some (index - 1)
         visiblePrefixEnd := visiblePrefixEnd
         probeStart := probeStart
         probeEnd := probeEnd
         answerTokenPositions := localAnswerPositions.map (probeStart + ·) }] }

/-- `for index, response_end in enumerate(visible_response_ends)`, from `index`
    on. -/
def appendBranches (promptLength : Nat) (probeIds : List Int)
    (localAnswerPositions : List Nat) : Nat → List Nat → Packing → Packing
  | _, [], packing => packing
  | index, responseEnd :: rest, packing =>
      appendBranches promptLength probeIds localAnswerPositions (index + 1) rest
        (appendBranch promptLength probeIds localAnswerPositions index responseEnd packing)

/-- `[0, *[end for _start, end in ranges[:-1]]]`. -/
def visibleResponseEnds (ranges : List (Nat × Nat)) : List Nat :=
  0 :: ranges.dropLast.map Prod.snd

/-- The layout before its final validation.  Local answer positions are used
    only when the probe is required, where they have been checked to be
    positive. -/
def assembleLayout (prompt response : List Int) (ranges : List (Nat × Nat))
    (probe : AnswerProbe) : R2OPLProbeLayout :=
  let originalIds := prompt ++ response
  let original : Packing := ⟨originalIds, List.range originalIds.length, []⟩
  let packing :=
    if 2 ≤ ranges.length then
      appendBranches prompt.length probe.tokenIds
        (probe.answerTokenPositions.map Int.toNat) 0 (visibleResponseEnds ranges) original
    else original
  { sequenceIds := packing.sequenceIds
    positionIds := packing.positionIds
    originalSequenceLength := originalIds.length
    promptLength := prompt.length
    responseLength := response.length
    semanticStepRanges := ranges
    probeTokenIds := probe.tokenIds
    branches := packing.branches }

def buildR2oplProbeLayout (promptIds responseIds : List Int)
    (semanticSteps : List SemanticStep) (probe : AnswerProbe) :
    Except PyError R2OPLProbeLayout := do
  raiseIf (promptIds = [])
    (valueError "R2OPL packed probes require at least one prompt token.")
  let stepPairs ← stepRanges 0 semanticSteps
  let ranges ← validateSemanticRanges stepPairs responseIds.length
  raiseIf (2 ≤ ranges.length ∧ probe.tokenIds = [])
    (valueError "R2OPL packed probes require a non-empty answer probe.")
  raiseIf (2 ≤ ranges.length ∧ probe.answerTokenPositions = [])
    (valueError "R2OPL packed probes require at least one answer token position.")
  raiseIf (2 ≤ ranges.length ∧ ∃ position ∈ probe.answerTokenPositions,
      position ≤ 0 ∨ position ≥ probe.tokenIds.length)
    (valueError
      "Every R2OPL answer token must have its causal predictor inside the appended answer-probe branch.")
  let layout := assembleLayout promptIds responseIds ranges probe
  validateR2oplProbeLayout layout
  return layout

/-! ### What construction produces -/

/-- A probe whose every answer token has a predecessor inside the probe. -/
structure ValidProbe (probe : AnswerProbe) : Prop where
  ids_ne : probe.tokenIds ≠ []
  answers_ne : probe.answerTokenPositions ≠ []
  answers_inside : ∀ position ∈ probe.answerTokenPositions,
    0 < position ∧ position < probe.tokenIds.length

theorem appendBranches_lists (promptLength : Nat) (probeIds : List Int)
    (localPositions : List Nat) (ends : List Nat) :
    ∀ (index : Nat) (packing : Packing),
      (appendBranches promptLength probeIds localPositions index ends packing).sequenceIds =
          packing.sequenceIds ++ (List.replicate ends.length probeIds).flatten ∧
        (appendBranches promptLength probeIds localPositions index ends packing).positionIds =
          packing.positionIds ++ ends.flatMap fun responseEnd =>
            List.range' (promptLength + responseEnd) probeIds.length := by
  induction ends with
  | nil => intro index packing; simp [appendBranches]
  | cons responseEnd rest ih =>
    intro index packing
    obtain ⟨hids, hpositions⟩ := ih (index + 1)
      (appendBranch promptLength probeIds localPositions index responseEnd packing)
    simp only [appendBranches, hids, hpositions]
    simp [appendBranch, List.replicate_succ, List.append_assoc]

/-- The branches the loop appends are well placed in any layout that holds the
    sequence the loop ends with. -/
theorem appendBranches_branches (layout : R2OPLProbeLayout) {probe : AnswerProbe}
    (hprobe : ValidProbe probe) (hids : layout.probeTokenIds = probe.tokenIds)
    (hprompt : 0 < layout.promptLength) (ends : List Nat) :
    ∀ (index : Nat) (packing : Packing),
      packing.sequenceIds.length = packing.positionIds.length →
      layout.originalSequenceLength ≤ packing.sequenceIds.length →
      (∀ j responseEnd, ends[j]? = some responseEnd →
        (boundaries layout.semanticStepRanges).getD (index + j) 0 = responseEnd ∧
          layout.promptLength + responseEnd ≤ layout.originalSequenceLength) →
      layout.sequenceIds = packing.sequenceIds ++
        (List.replicate ends.length probe.tokenIds).flatten →
      layout.positionIds = packing.positionIds ++ ends.flatMap (fun responseEnd =>
        List.range' (layout.promptLength + responseEnd) probe.tokenIds.length) →
      ∃ branches,
        (appendBranches layout.promptLength probe.tokenIds
            (probe.answerTokenPositions.map Int.toNat) index ends packing).branches =
          packing.branches ++ branches ∧
        branches.length = ends.length ∧
        BranchesFrom layout index packing.sequenceIds.length branches := by
  induction ends with
  | nil =>
    intro index packing _ _ _ _ _
    exact ⟨[], by simp [appendBranches], rfl, trivial⟩
  | cons responseEnd rest ih =>
    intro index packing hlength horiginal hends hsequence hposition
    obtain ⟨hboundary, hwithin⟩ := hends 0 responseEnd rfl
    have hlengthPos : 0 < probe.tokenIds.length :=
      List.length_pos_iff.mpr hprobe.ids_ne
    let next := appendBranch layout.promptLength probe.tokenIds
      (probe.answerTokenPositions.map Int.toNat) index responseEnd packing
    have hsequence' : layout.sequenceIds = packing.sequenceIds ++ probe.tokenIds ++
        (List.replicate rest.length probe.tokenIds).flatten := by
      simpa [List.replicate_succ, List.append_assoc] using hsequence
    have hposition' : layout.positionIds = packing.positionIds ++
        List.range' (layout.promptLength + responseEnd) probe.tokenIds.length ++
          rest.flatMap (fun responseEnd =>
            List.range' (layout.promptLength + responseEnd) probe.tokenIds.length) := by
      simpa [List.append_assoc] using hposition
    obtain ⟨branches, hbranches, hcount, hchain⟩ := ih (index + 1) next
      (by simp [next, appendBranch, hlength])
      (by simp only [next, appendBranch, List.length_append]; omega)
      (by
        intro j end' hj
        have h := hends (j + 1) end' (by simpa using hj)
        rwa [show index + 1 + j = index + (j + 1) by omega])
      (by simpa [next, appendBranch] using hsequence')
      (by simpa [next, appendBranch] using hposition')
    have hat : BranchAt layout index packing.sequenceIds.length
        { index := index
          afterStepIndex := if index = 0 then none else some (index - 1)
          visiblePrefixEnd := layout.promptLength + responseEnd
          probeStart := packing.sequenceIds.length
          probeEnd := packing.sequenceIds.length + probe.tokenIds.length
          answerTokenPositions := (probe.answerTokenPositions.map Int.toNat).map
            (packing.sequenceIds.length + ·) } := {
      index_eq := rfl
      afterStep := rfl
      prefixEnd := by
        rw [Nat.add_zero] at hboundary
        rw [hboundary]
      start_eq := rfl
      prefix_pos := Nat.le_trans hprompt (Nat.le_add_right _ _)
      prefix_le := hwithin
      original_le := horiginal
      start_lt := Nat.lt_add_of_pos_right hlengthPos
      end_eq := by rw [hids]
      end_le := by
        rw [hsequence', List.length_append, List.length_append]
        exact Nat.le_add_right _ _
      ids := by
        rw [hids, hsequence']
        exact slice_append_middle _ _ _ rfl rfl
      positions := by
        rw [hids, hposition']
        exact slice_append_middle _ _ _ hlength (by simp [hlength])
      answers_ne := by simpa using hprobe.answers_ne
      answers_inside := by
        intro position hposition
        simp only [List.mem_map] at hposition
        obtain ⟨_, ⟨answer, hanswer, rfl⟩, rfl⟩ := hposition
        have hinside := hprobe.answers_inside answer hanswer
        simp only
        omega }
    refine ⟨_ :: branches, ?_, by simp [hcount], hat, ?_⟩
    · simp only [appendBranches]
      rw [hbranches]
      simp [next, appendBranch]
    · rw [hids]
      simpa [next, appendBranch] using hchain

theorem visibleResponseEnds_getElem? {ranges : List (Nat × Nat)} {j responseEnd : Nat}
    (h : (visibleResponseEnds ranges)[j]? = some responseEnd) :
    (boundaries ranges).getD j 0 = responseEnd ∧
      (responseEnd = 0 ∨ ∃ range ∈ ranges, range.2 = responseEnd) := by
  cases j with
  | zero =>
    obtain rfl : 0 = responseEnd := by simpa [visibleResponseEnds] using h
    exact ⟨rfl, Or.inl rfl⟩
  | succ j =>
    simp only [visibleResponseEnds, List.getElem?_cons_succ, List.getElem?_map,
      Option.map_eq_some_iff, List.getElem?_dropLast] at h
    obtain ⟨range, hrange, rfl⟩ := h
    split at hrange
    · refine ⟨?_, Or.inr ⟨range, List.mem_of_getElem? hrange, rfl⟩⟩
      simp [boundaries, List.getD_eq_getElem?_getD, hrange]
    · cases hrange

theorem visibleResponseEnds_length {ranges : List (Nat × Nat)} (h : ranges ≠ []) :
    (visibleResponseEnds ranges).length = ranges.length := by
  have hpos := List.length_pos_iff.mpr h
  simp only [visibleResponseEnds, List.length_cons, List.length_map, List.length_dropLast]
  omega

/-! ### The assembled layout -/

section Assembled

variable {prompt response : List Int} {ranges : List (Nat × Nat)} {probe : AnswerProbe}

/-- The packing the branch loop starts from. -/
def originalPacking (prompt response : List Int) : Packing :=
  ⟨prompt ++ response, List.range (prompt ++ response).length, []⟩

theorem assembleLayout_sequenceIds (hsteps : 2 ≤ ranges.length) :
    (assembleLayout prompt response ranges probe).sequenceIds =
      prompt ++ response ++
        (List.replicate (visibleResponseEnds ranges).length probe.tokenIds).flatten := by
  simp only [assembleLayout, hsteps, if_true]
  exact (appendBranches_lists _ _ _ _ 0 (originalPacking prompt response)).1

theorem assembleLayout_positionIds (hsteps : 2 ≤ ranges.length) :
    (assembleLayout prompt response ranges probe).positionIds =
      List.range (prompt ++ response).length ++
        (visibleResponseEnds ranges).flatMap fun responseEnd =>
          List.range' (prompt.length + responseEnd) probe.tokenIds.length := by
  simp only [assembleLayout, hsteps, if_true]
  exact (appendBranches_lists _ _ _ _ 0 (originalPacking prompt response)).2

/-- The original segment is the prompt and the response, with or without
    probes after it. -/
theorem assembleLayout_original :
    (assembleLayout prompt response ranges probe).sequenceIds.take
      (prompt.length + response.length) = prompt ++ response := by
  by_cases hsteps : 2 ≤ ranges.length
  · rw [assembleLayout_sequenceIds hsteps, ← List.length_append]
    exact List.take_left
  · simp only [assembleLayout, hsteps, if_false]
    rw [← List.length_append]
    exact List.take_length

theorem assembleLayout_branches (hprompt : prompt ≠ [])
    (hranges : Contiguous response.length ranges) (hsteps : 2 ≤ ranges.length)
    (hprobe : ValidProbe probe) :
    (assembleLayout prompt response ranges probe).branches.length = ranges.length ∧
      BranchesFrom (assembleLayout prompt response ranges probe) 0
        (prompt ++ response).length
        (assembleLayout prompt response ranges probe).branches := by
  have hcount : (visibleResponseEnds ranges).length = ranges.length :=
    visibleResponseEnds_length (by rintro rfl; simp at hsteps)
  obtain ⟨branches, hbranches, hlength, hchain⟩ :=
    appendBranches_branches (assembleLayout prompt response ranges probe)
      hprobe rfl (List.length_pos_iff.mpr hprompt) (visibleResponseEnds ranges) 0
      (originalPacking prompt response) (by simp [originalPacking]) (Nat.le_refl _)
      (by
        intro j responseEnd hj
        obtain ⟨hboundary, hend⟩ := visibleResponseEnds_getElem? hj
        refine ⟨by simpa [assembleLayout] using hboundary, ?_⟩
        simp only [assembleLayout, List.length_append]
        rcases hend with rfl | ⟨range, hrange, rfl⟩
        · omega
        · have hbounds := TilesFrom.bounds hranges range hrange
          omega)
      (assembleLayout_sequenceIds hsteps) (assembleLayout_positionIds hsteps)
  have hbranchList :
      (assembleLayout prompt response ranges probe).branches = branches := by
    simp only [assembleLayout, hsteps, if_true]
    exact hbranches
  rw [hbranchList, hlength, hcount]
  exact ⟨rfl, hchain⟩

/-- Whatever the builder assembles from checked inputs passes its own
    validation. -/
theorem validLayout_assembleLayout (hprompt : prompt ≠ [])
    (hranges : Contiguous response.length ranges)
    (hprobe : 2 ≤ ranges.length → ValidProbe probe) :
    ValidLayout (assembleLayout prompt response ranges probe) := by
  have hpromptPos : 0 < prompt.length := List.length_pos_iff.mpr hprompt
  by_cases hsteps : 2 ≤ ranges.length
  · obtain ⟨hcount, hchain⟩ :=
      assembleLayout_branches hprompt hranges hsteps (hprobe hsteps)
    have hends : (visibleResponseEnds ranges).length = ranges.length :=
      visibleResponseEnds_length (by rintro rfl; simp at hsteps)
    exact {
      positions_length := by
        rw [assembleLayout_sequenceIds hsteps, assembleLayout_positionIds hsteps]
        simp [List.length_flatMap, Nat.add_assoc]
      prompt_pos := hpromptPos
      original_eq := List.length_append
      original_positions := by
        rw [assembleLayout_positionIds hsteps]
        exact slice_append_middle [] (List.range (prompt ++ response).length) _ rfl
          (by simp [assembleLayout])
      contiguous := hranges
      probe_ne := fun _ => (hprobe hsteps).ids_ne
      branch_count := by
        rw [hcount]
        exact (if_pos hsteps).symm
      branches := hchain
      total := by
        rw [hcount, assembleLayout_sequenceIds hsteps, List.length_append]
        simp [assembleLayout, hends] }
  · exact {
      positions_length := by simp [assembleLayout, hsteps]
      prompt_pos := hpromptPos
      original_eq := List.length_append
      original_positions := by simp [assembleLayout, hsteps, slice]
      contiguous := hranges
      probe_ne := by simp [assembleLayout, hsteps]
      branch_count := by simp [assembleLayout, hsteps, expectedBranchCount]
      branches := by simp [assembleLayout, hsteps, BranchesFrom]
      total := by simp [assembleLayout, hsteps] }

end Assembled

/-! ### Branches of an assembled layout -/

/-- A branch holds the probe token by token. -/
theorem sequenceIds_branch {layout : R2OPLProbeLayout} {probe : AnswerProbe}
    {branch : R2OPLProbeBranch} {index start : Nat} (hat : BranchAt layout index start branch)
    (hids : layout.probeTokenIds = probe.tokenIds) {offset : Nat}
    (hoffset : offset < probe.tokenIds.length) :
    layout.sequenceIds[branch.probeStart + offset]? = probe.tokenIds[offset]? := by
  have hend := hat.end_eq
  have hstart := hat.start_eq
  have hslice := congrArg (·[offset]?) hat.ids
  rw [hids] at hend
  simpa only [getElem?_slice, if_pos (by omega : offset < branch.probeEnd - branch.probeStart),
    hids] using hslice

/-- The answer positions of every built branch are the probe's own, shifted to
    the start of the branch. -/
theorem appendBranches_answers (promptLength : Nat) (probeIds : List Int)
    (localPositions : List Nat) (ends : List Nat) :
    ∀ (index : Nat) (packing : Packing),
      (∀ branch ∈ packing.branches,
        branch.answerTokenPositions = localPositions.map (branch.probeStart + ·)) →
      ∀ branch ∈
        (appendBranches promptLength probeIds localPositions index ends packing).branches,
        branch.answerTokenPositions = localPositions.map (branch.probeStart + ·) := by
  induction ends with
  | nil => intro index packing hpacking; exact hpacking
  | cons responseEnd rest ih =>
    intro index packing hpacking
    refine ih (index + 1) _ ?_
    intro branch hbranch
    rcases List.mem_append.mp hbranch with hold | hnew
    · exact hpacking branch hold
    · obtain rfl := List.mem_singleton.mp hnew
      rfl

theorem assembleLayout_answers {prompt response : List Int} {ranges : List (Nat × Nat)}
    {probe : AnswerProbe} {branch : R2OPLProbeBranch}
    (hmem : branch ∈ (assembleLayout prompt response ranges probe).branches) :
    branch.answerTokenPositions =
      (probe.answerTokenPositions.map Int.toNat).map (branch.probeStart + ·) := by
  by_cases hsteps : 2 ≤ ranges.length
  · simp only [assembleLayout, hsteps, if_true] at hmem
    exact appendBranches_answers _ _ _ _ 0 (originalPacking prompt response)
      (fun _ h => absurd h List.not_mem_nil) branch hmem
  · simp [assembleLayout, hsteps] at hmem

theorem appendBranches_prefixEnds (promptLength : Nat) (probeIds : List Int)
    (localPositions : List Nat) (ends : List Nat) :
    ∀ (index : Nat) (packing : Packing),
      (appendBranches promptLength probeIds localPositions index ends packing).branches.map
          R2OPLProbeBranch.visiblePrefixEnd =
        packing.branches.map R2OPLProbeBranch.visiblePrefixEnd ++
          ends.map (promptLength + ·) := by
  induction ends with
  | nil => intro index packing; simp [appendBranches]
  | cons responseEnd rest ih =>
    intro index packing
    rw [appendBranches, ih]
    simp [appendBranch]

/-- The prefixes that the branches continue: the prompt and the steps before each
    boundary, the last step excepted. -/
theorem assembleLayout_prefixEnds {prompt response : List Int} {ranges : List (Nat × Nat)}
    {probe : AnswerProbe} (hsteps : 2 ≤ ranges.length) :
    (assembleLayout prompt response ranges probe).branches.map
        R2OPLProbeBranch.visiblePrefixEnd =
      (visibleResponseEnds ranges).map (prompt.length + ·) := by
  simp only [assembleLayout, hsteps, if_true]
  exact appendBranches_prefixEnds _ _ _ _ 0 (originalPacking prompt response)

theorem assembleLayout_no_branch {prompt response : List Int} {ranges : List (Nat × Nat)}
    {probe : AnswerProbe} (hsteps : ¬ 2 ≤ ranges.length) :
    (assembleLayout prompt response ranges probe).branches = [] := by
  simp [assembleLayout, hsteps]

/-- The builder's specification: exactly which inputs it accepts and what it
    returns for them. -/
theorem buildR2oplProbeLayout_eq_ok {prompt response : List Int}
    {steps : List SemanticStep} {probe : AnswerProbe} {layout : R2OPLProbeLayout} :
    buildR2oplProbeLayout prompt response steps probe = .ok layout ↔
      prompt ≠ [] ∧ ∃ ranges, stepRanges 0 steps = .ok (intRanges ranges) ∧
        Contiguous response.length ranges ∧
        (2 ≤ ranges.length → ValidProbe probe) ∧
        layout = assembleLayout prompt response ranges probe := by
  simp only [buildR2oplProbeLayout, bind_eq_ok, raiseIf_eq_ok, exists_and_left,
    exists_const, validateSemanticRanges_eq_ok, pure_eq_ok, Except.ok.injEq]
  constructor
  · rintro ⟨hprompt, pairs, hpairs, ranges, ⟨rfl, hcontiguous⟩, hids, hanswers, hinside,
      ⟨⟨⟩, _, rfl⟩⟩
    refine ⟨hprompt, ranges, hpairs, hcontiguous, ?_, rfl⟩
    intro hsteps
    exact {
      ids_ne := fun hnil => hids ⟨hsteps, hnil⟩
      answers_ne := fun hnil => hanswers ⟨hsteps, hnil⟩
      answers_inside := by
        intro position hposition
        by_contra hout
        exact hinside ⟨hsteps, position, hposition, by omega⟩ }
  · rintro ⟨hprompt, ranges, hpairs, hcontiguous, hprobe, rfl⟩
    refine ⟨hprompt, _, hpairs, ranges, ⟨rfl, hcontiguous⟩,
      fun h => (hprobe h.1).ids_ne h.2, fun h => (hprobe h.1).answers_ne h.2, ?_,
      ⟨(), validateR2oplProbeLayout_eq_ok.mpr
        (validLayout_assembleLayout hprompt hcontiguous hprobe), rfl⟩⟩
    rintro ⟨hsteps, position, hposition, hout⟩
    have hinside := (hprobe hsteps).answers_inside position hposition
    omega

theorem ValidLayout.of_build {prompt response : List Int} {steps : List SemanticStep}
    {probe : AnswerProbe} {layout : R2OPLProbeLayout}
    (h : buildR2oplProbeLayout prompt response steps probe = .ok layout) :
    ValidLayout layout := by
  obtain ⟨hprompt, ranges, _, hcontiguous, hprobe, rfl⟩ :=
    buildR2oplProbeLayout_eq_ok.mp h
  exact validLayout_assembleLayout hprompt hcontiguous hprobe

end R2opl
