import R2opl.Probe.Scoring
import R2opl.Lib.Layered

/-!
# Packed probing refines separate forward passes

A branch stands for the ordinary causal sequence made of the prompt, the
response up to the branch's step boundary, and the probe.  `physicalIndex` maps
a position of that standalone sequence to the place where the packed sequence
holds it; token ids, position ids, visible keys, predictor rows and hence the
states of any causal network agree along this map.
-/

namespace R2opl

open Checked

/-! ### The two encodings -/

/-- The standalone sequence of a branch whose response prefix ends at
    `responseEnd`. -/
def standaloneIds (prompt response : List Int) (responseEnd : Nat)
    (probe : AnswerProbe) : List Int :=
  prompt ++ response.take responseEnd ++ probe.tokenIds

/-- Where the packed sequence holds position `n` of a branch's standalone
    sequence. -/
def R2OPLProbeBranch.physicalIndex (branch : R2OPLProbeBranch) (n : Nat) : Nat :=
  if n < branch.visiblePrefixEnd then n
  else branch.probeStart + (n - branch.visiblePrefixEnd)

/-- The `(token id, position id)` pair at a physical position. -/
def R2OPLProbeLayout.keyAt (layout : R2OPLProbeLayout) (position : Nat) :
    Option (Int × Nat) :=
  (layout.sequenceIds.zip layout.positionIds)[position]?

/-- What a causal sequence shows at each position: the token and its number. -/
def numbered (ids : List Int) : List (Int × Nat) := ids.zipIdx

/-- The keys an ordinary causal sequence shows the query at `position`. -/
def causalKeys (position : Nat) : List Nat := List.range (position + 1)

theorem range_map_getElem? (xs : List α) {n : Nat} (hn : n ≤ xs.length) :
    (List.range n).map (fun i => xs[i]?) = (xs.take n).map some := by
  apply List.ext_getElem?
  intro i
  simp only [List.getElem?_map, List.getElem?_take]
  by_cases hi : i < n
  · rw [List.getElem?_range hi, if_pos hi]
    simp [List.getElem?_eq_getElem (Nat.lt_of_lt_of_le hi hn)]
  · rw [if_neg hi, List.getElem?_eq_none (by simpa using hi)]
    rfl

section Keys

variable {prompt response : List Int} {responseEnd : Nat} {probe : AnswerProbe}
variable {layout : R2OPLProbeLayout} {branch : R2OPLProbeBranch}

theorem standaloneIds_length (hend : responseEnd ≤ response.length) :
    (standaloneIds prompt response responseEnd probe).length =
      prompt.length + responseEnd + probe.tokenIds.length := by
  simp only [standaloneIds, List.length_append, List.length_take]
  omega

/-- Original positions carry the prompt and response tokens under their own
    numbers. -/
theorem keyAt_original (h : ValidLayout layout)
    (horiginal : layout.sequenceIds.take layout.originalSequenceLength =
      prompt ++ response) {n : Nat} (hn : n < layout.originalSequenceLength) :
    layout.keyAt n = (numbered (prompt ++ response))[n]? := by
  have hids : layout.sequenceIds[n]? = (prompt ++ response)[n]? := by
    rw [← horiginal, List.getElem?_take, if_pos hn]
  have hpositions : layout.positionIds[n]? = some n := by
    have hslice := congrArg (·[n]?) h.original_positions
    simp only [getElem?_slice, Nat.sub_zero, Nat.zero_add, if_pos hn] at hslice
    rw [hslice, List.getElem?_range hn]
  rw [R2OPLProbeLayout.keyAt, numbered, List.getElem?_zipIdx, List.zip,
    List.getElem?_zipWith, hids, hpositions, Nat.zero_add]
  cases (prompt ++ response)[n]? <;> rfl

/-- A branch position carries its probe token under the number that continues
    the branch's prefix. -/
theorem keyAt_branch {index start : Nat} (hat : BranchAt layout index start branch)
    (hids : layout.probeTokenIds = probe.tokenIds) {offset : Nat}
    (hoffset : offset < probe.tokenIds.length) :
    layout.keyAt (branch.probeStart + offset) =
      (probe.tokenIds[offset]?).map fun id => (id, branch.visiblePrefixEnd + offset) := by
  have hend := hat.end_eq
  have hstart := hat.start_eq
  have hposition : layout.positionIds[branch.probeStart + offset]? =
      some (branch.visiblePrefixEnd + offset) := by
    have hslice := congrArg (·[offset]?) hat.positions
    rw [hids] at hend
    simp only [getElem?_slice,
      if_pos (by omega : offset < branch.probeEnd - branch.probeStart), hids] at hslice
    rw [hslice, List.getElem?_range' hoffset, Nat.one_mul]
  rw [R2OPLProbeLayout.keyAt, List.zip, List.getElem?_zipWith,
    sequenceIds_branch hat hids hoffset, hposition]
  cases probe.tokenIds[offset]? <;> rfl

/-- The probe part of a standalone sequence. -/
theorem standaloneIds_probe (hend : responseEnd ≤ response.length) (offset : Nat) :
    (standaloneIds prompt response responseEnd probe)[
      prompt.length + responseEnd + offset]? = probe.tokenIds[offset]? := by
  have hvisible : (prompt ++ response.take responseEnd).length =
      prompt.length + responseEnd := by
    simp only [List.length_append, List.length_take]
    omega
  rw [standaloneIds, List.getElem?_append_right (by omega), hvisible,
    Nat.add_sub_cancel_left]

/-- Along `physicalIndex` the packed sequence carries the standalone sequence. -/
theorem keyAt_physicalIndex (h : ValidLayout layout)
    (horiginal : layout.sequenceIds.take layout.originalSequenceLength =
      prompt ++ response)
    (hids : layout.probeTokenIds = probe.tokenIds)
    (hmem : branch ∈ layout.branches)
    (hvisible : branch.visiblePrefixEnd = prompt.length + responseEnd)
    (hend : responseEnd ≤ response.length) {n : Nat}
    (hn : n < prompt.length + responseEnd + probe.tokenIds.length) :
    layout.keyAt (branch.physicalIndex n) =
      (numbered (standaloneIds prompt response responseEnd probe))[n]? := by
  obtain ⟨index, start, _, hat⟩ := h.exists_branchAt hmem
  have hprefixLength : (prompt ++ response.take responseEnd).length =
      branch.visiblePrefixEnd := by
    simp only [List.length_append, List.length_take]
    omega
  rw [R2OPLProbeBranch.physicalIndex]
  by_cases hinside : n < branch.visiblePrefixEnd
  · rw [if_pos hinside, keyAt_original h horiginal
      (Nat.lt_of_lt_of_le hinside hat.prefix_le)]
    -- the visible part of the response is a prefix of the response
    have hresponse : (prompt ++ response)[n]? = (prompt ++ response.take responseEnd)[n]? := by
      rw [show prompt ++ response =
          prompt ++ response.take responseEnd ++ response.drop responseEnd by
        rw [List.append_assoc, List.take_append_drop]]
      exact List.getElem?_append_left (by omega)
    have hstandalone : (standaloneIds prompt response responseEnd probe)[n]? =
        (prompt ++ response.take responseEnd)[n]? :=
      List.getElem?_append_left (by omega)
    simp only [numbered, List.getElem?_zipIdx, hresponse, hstandalone]
  · obtain ⟨offset, rfl⟩ := Nat.exists_eq_add_of_le (Nat.le_of_not_lt hinside)
    rw [if_neg hinside, Nat.add_sub_cancel_left,
      keyAt_branch hat hids (by omega)]
    rw [numbered, List.getElem?_zipIdx, hvisible, standaloneIds_probe hend, Nat.zero_add]

/-- The keys a branch query sees are the images of the keys its standalone query
    sees, in the same order. -/
theorem trueColumns_physicalIndex (h : ValidLayout layout)
    (hmem : branch ∈ layout.branches) {n : Nat}
    (hn : n < branch.visiblePrefixEnd + layout.probeTokenIds.length) :
    (denseMask layout).trueColumns (branch.physicalIndex n) =
      (causalKeys n).map branch.physicalIndex := by
  obtain ⟨index, start, _, hat⟩ := h.exists_branchAt hmem
  have hkeep : ∀ m, m ≤ branch.visiblePrefixEnd →
      (List.range m).map branch.physicalIndex = List.range m := by
    intro m hm
    refine (List.map_congr_left ?_).trans (List.map_id _)
    intro key hkey
    rw [List.mem_range] at hkey
    exact if_pos (by omega)
  by_cases hinside : n < branch.visiblePrefixEnd
  · rw [causalKeys, hkeep (n + 1) hinside, R2OPLProbeBranch.physicalIndex,
      if_pos hinside]
    exact trueColumns_original h (Nat.lt_of_lt_of_le hinside hat.prefix_le)
  · obtain ⟨offset, rfl⟩ := Nat.exists_eq_add_of_le (Nat.le_of_not_lt hinside)
    have hstart := hat.start_eq
    have hend := hat.end_eq
    rw [show branch.physicalIndex (branch.visiblePrefixEnd + offset) =
        branch.probeStart + offset by
      rw [R2OPLProbeBranch.physicalIndex, if_neg hinside, Nat.add_sub_cancel_left]]
    rw [trueColumns_branch h hmem (by omega), causalKeys, Nat.add_assoc,
      List.range_add, List.map_append, hkeep _ (Nat.le_refl _), List.map_map,
      List.range'_eq_map_range]
    congr 1
    apply List.map_congr_left
    intro key _
    simp [R2OPLProbeBranch.physicalIndex]

end Keys

/-! ### The refinement -/

/-- What it means for a branch of a packed layout to stand for the sequence
    `prompt ++ response[:responseEnd] ++ probe`. -/
structure RefinesStandalone (prompt response : List Int) (probe : AnswerProbe)
    (layout : R2OPLProbeLayout) (mask : Tensor Bool) (branch : R2OPLProbeBranch)
    (responseEnd : Nat) : Prop where
  /-- The branch continues the prefix it stands for. -/
  prefixEnd : branch.visiblePrefixEnd = prompt.length + responseEnd
  /-- The query at probe offset `i` sees, in order, the first
      `visible_prefix_end + i + 1` entries of the standalone sequence. -/
  keys : ∀ i < probe.tokenIds.length,
    (mask.trueColumns (branch.probeStart + i)).map layout.keyAt =
      ((numbered (standaloneIds prompt response responseEnd probe)).take
        (branch.visiblePrefixEnd + i + 1)).map some
  /-- The score of the branch reads, for the answer token at standalone position
      `visible_prefix_end + a`, the row of the token right before it. -/
  scores : ∀ {α K : Type} [DivisionRing K] (tokenProbability : (Nat → α) → Int → K)
      (logits : Tensor α),
    branchProbability tokenProbability logits layout branch =
      mean (probe.answerTokenPositions.map fun answer =>
        tokenProbability
          (logitRow logits
            (branch.physicalIndex (branch.visiblePrefixEnd + answer.toNat - 1)))
          ((standaloneIds prompt response responseEnd probe).getD
            (branch.visiblePrefixEnd + answer.toNat) 0))
  /-- Any causal network computes at the image of a standalone position what it
      computes there in the standalone forward pass. -/
  states : ∀ {State : Type} (embed : Option (Int × Nat) → State)
      (layer : Nat → List State → State) (depth n : Nat),
    n < (standaloneIds prompt response responseEnd probe).length →
    Layered.state mask.trueColumns layer (fun key => embed (layout.keyAt key)) depth
        (branch.physicalIndex n) =
      Layered.state causalKeys layer
        (fun m => embed ((numbered (standaloneIds prompt response responseEnd probe))[m]?))
        depth n

section Refinement

variable {prompt response : List Int} {ranges : List (Nat × Nat)} {probe : AnswerProbe}

/-- Every branch of an assembled layout refines its standalone sequence. -/
theorem refinesStandalone_assembleLayout (hprompt : prompt ≠ [])
    (hranges : Contiguous response.length ranges) (hprobe : ValidProbe probe)
    {j responseEnd : Nat} {branch : R2OPLProbeBranch}
    (hj : (assembleLayout prompt response ranges probe).branches[j]? = some branch)
    (hend : (visibleResponseEnds ranges)[j]? = some responseEnd) :
    RefinesStandalone prompt response probe
      (assembleLayout prompt response ranges probe)
      (denseMask (assembleLayout prompt response ranges probe)) branch responseEnd := by
  have hvalid : ValidLayout (assembleLayout prompt response ranges probe) :=
    validLayout_assembleLayout hprompt hranges fun _ => hprobe
  have hmem := List.mem_of_getElem? hj
  have hat := hvalid.branchAt hj
  have horiginal : (assembleLayout prompt response ranges probe).sequenceIds.take
      (assembleLayout prompt response ranges probe).originalSequenceLength =
        prompt ++ response := by
    rw [show (assembleLayout prompt response ranges probe).originalSequenceLength =
      prompt.length + response.length from List.length_append]
    exact assembleLayout_original
  obtain ⟨hboundary, hwithin⟩ := visibleResponseEnds_getElem? hend
  have hvisible : branch.visiblePrefixEnd = prompt.length + responseEnd := by
    rw [hat.prefixEnd, ← hboundary]
    rfl
  have hendLe : responseEnd ≤ response.length := by
    rcases hwithin with rfl | ⟨range, hrange, rfl⟩
    · exact Nat.zero_le _
    · exact (TilesFrom.bounds hranges range hrange).2.2
  have hlength : (standaloneIds prompt response responseEnd probe).length =
      prompt.length + responseEnd + probe.tokenIds.length := standaloneIds_length hendLe
  have hkey : ∀ n, n < branch.visiblePrefixEnd + probe.tokenIds.length →
      (assembleLayout prompt response ranges probe).keyAt (branch.physicalIndex n) =
        (numbered (standaloneIds prompt response responseEnd probe))[n]? := by
    intro n hn
    exact keyAt_physicalIndex hvalid horiginal rfl hmem hvisible hendLe (by omega)
  have hcolumns : ∀ n, n < branch.visiblePrefixEnd + probe.tokenIds.length →
      (denseMask (assembleLayout prompt response ranges probe)).trueColumns
        (branch.physicalIndex n) = (causalKeys n).map branch.physicalIndex :=
    fun n hn => trueColumns_physicalIndex hvalid hmem hn
  refine ⟨hvisible, ?_, ?_, ?_⟩
  · intro i hi
    have hquery : branch.probeStart + i =
        branch.physicalIndex (branch.visiblePrefixEnd + i) := by
      simp [R2OPLProbeBranch.physicalIndex]
    rw [hquery, hcolumns _ (by omega), List.map_map,
      ← range_map_getElem? _ (by simp only [numbered, List.length_zipIdx]; omega)]
    apply List.map_congr_left
    intro n hn
    rw [causalKeys, List.mem_range] at hn
    exact hkey n (by omega)
  · intro α K _ tokenProbability logits
    rw [branchProbability, assembleLayout_answers hmem, List.map_map, List.map_map]
    congr 1
    apply List.map_congr_left
    intro answer hanswer
    have hinside := hprobe.answers_inside answer hanswer
    -- the answer token and its predictor both lie inside the branch
    have hpredictor : branch.probeStart + answer.toNat - 1 =
        branch.physicalIndex (branch.visiblePrefixEnd + answer.toNat - 1) := by
      rw [R2OPLProbeBranch.physicalIndex, if_neg (by omega)]
      omega
    have htoken : (assembleLayout prompt response ranges probe).sequenceIds[
        branch.probeStart + answer.toNat]? =
          (standaloneIds prompt response responseEnd probe)[
            branch.visiblePrefixEnd + answer.toNat]? := by
      rw [sequenceIds_branch hat rfl (by omega), hvisible, standaloneIds_probe hendLe]
    simp only [Function.comp_apply, hpredictor, List.getD_eq_getElem?_getD, htoken]
  · intro State embed layer depth n hn
    rw [hlength, ← hvisible] at hn
    refine Layered.state_map branch.physicalIndex
      (fun m => m < branch.visiblePrefixEnd + probe.tokenIds.length) ?_ hcolumns ?_
      depth n hn
    · intro m hm seen hseen
      rw [causalKeys, List.mem_range] at hseen
      omega
    · intro m hm
      rw [hkey m hm]

/-- **Packed probing refines separate forward passes.**  The builder accepts
    every non-empty prompt, contiguous partition into at least two steps and
    valid probe; the one packed sequence it returns shows every original query
    its own causal past and every branch exactly the standalone sequence the
    branch stands for. -/
theorem packed_probe_refines_standalone {steps : List SemanticStep}
    (hprompt : prompt ≠ []) (hsteps : stepRanges 0 steps = .ok (intRanges ranges))
    (hranges : Contiguous response.length ranges) (hcount : 2 ≤ ranges.length)
    (hprobe : ValidProbe probe) :
    ∃ (layout : R2OPLProbeLayout) (mask : Tensor Bool),
      buildR2oplProbeLayout prompt response steps probe = .ok layout ∧
      buildDenseAttentionMask layout = .ok mask ∧
      layout.branches.length = ranges.length ∧
      (∀ query < prompt.length + response.length,
        mask.trueColumns query = List.range (query + 1) ∧
        (mask.trueColumns query).map layout.keyAt =
          ((numbered (prompt ++ response)).take (query + 1)).map some) ∧
      (∀ (j : Nat) (branch : R2OPLProbeBranch) (responseEnd : Nat),
        layout.branches[j]? = some branch →
        (visibleResponseEnds ranges)[j]? = some responseEnd →
        RefinesStandalone prompt response probe layout mask branch responseEnd) ∧
      (∀ {α K : Type} [DivisionRing K] (tokenProbability : (Nat → α) → Int → K)
        (logits : Tensor α), logits.ndim = 2 →
        layout.sequenceIds.length ≤ logits.size 0 →
        computeR2oplProbeProbabilities tokenProbability logits layout =
          .ok (layout.branches.map (branchProbability tokenProbability logits layout))) := by
  have hvalid : ValidLayout (assembleLayout prompt response ranges probe) :=
    validLayout_assembleLayout hprompt hranges fun _ => hprobe
  have hlength : (assembleLayout prompt response ranges probe).originalSequenceLength =
      prompt.length + response.length := List.length_append
  refine ⟨assembleLayout prompt response ranges probe, _,
    buildR2oplProbeLayout_eq_ok.mpr
      ⟨hprompt, ranges, hsteps, hranges, fun _ => hprobe, rfl⟩,
    buildDenseAttentionMask_eq_ok.mpr ⟨hvalid, rfl⟩,
    (assembleLayout_branches hprompt hranges hcount hprobe).1, ?_, ?_, ?_⟩
  · intro query hquery
    have hcolumns := trueColumns_original hvalid (by omega : query <
      (assembleLayout prompt response ranges probe).originalSequenceLength)
    refine ⟨hcolumns, ?_⟩
    rw [hcolumns, ← range_map_getElem? _ (by
      simp only [numbered, List.length_zipIdx, List.length_append]; omega)]
    apply List.map_congr_left
    intro key hkey
    rw [List.mem_range] at hkey
    exact keyAt_original hvalid (by rw [hlength]; exact assembleLayout_original)
      (by omega)
  · intro j branch responseEnd hj hend
    exact refinesStandalone_assembleLayout hprompt hranges hprobe hj hend
  · intro α K _ tokenProbability logits hndim hsize
    exact computeR2oplProbeProbabilities_eq_ok.mpr ⟨hvalid, hndim, hsize, rfl⟩

/-- A two-token prompt, a response of two steps and a three-token probe. -/
theorem packed_probe_refines_standalone_two_steps :
    ∃ (layout : R2OPLProbeLayout) (mask : Tensor Bool),
      buildR2oplProbeLayout [11, 12] [21, 22, 23] [.seq [0, 1], .seq [1, 3]]
        ⟨[], [31, 32, 33], [1, 2], 0, 0⟩ = .ok layout ∧
      buildDenseAttentionMask layout = .ok mask ∧ layout.branches.length = 2 := by
  obtain ⟨layout, mask, hlayout, hmask, hcount, -⟩ :=
    @packed_probe_refines_standalone [11, 12] [21, 22, 23] [(0, 1), (1, 3)]
      ⟨[], [31, 32, 33], [1, 2], 0, 0⟩ [.seq [0, 1], .seq [1, 3]] (by decide) rfl
      ⟨rfl, by decide, by decide, rfl, by decide, by decide, trivial⟩ (by decide)
      ⟨by decide, by decide, by decide⟩
  exact ⟨layout, mask, hlayout, hmask, hcount⟩

end Refinement

end R2opl
