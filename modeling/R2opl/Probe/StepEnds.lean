import R2opl.Probe.Mask
import R2opl.Probe.Metadata

/-!
# Layouts from transmitted step ends

The actor rebuilds a layout from the zero-padded step ends a rollout carries
(`semantic_step_ranges_from_ends`, `build_r2opl_probe_layout_from_step_ends`).
Producer and consumer agree on every response that shows any text.
-/

namespace R2opl

open Checked

/-! ### The consumer -/

/-- The two forms in which step ends are accepted. -/
inductive StepEnds where
  | tensor (values : Tensor Int)
  | seq (values : List Int)

def stepEndValues : StepEnds → Except PyError (List Int)
  | .tensor values => do
      raiseIf (values.ndim ≠ 1)
        (valueError "R2OPL semantic_step_ends must be one-dimensional.")
      return (List.range (values.size 0)).map values.at1
  | .seq values => .ok values

/-- The values before the padding: the first `semantic_step_count` ones, or those
    before the first zero. -/
def trimPadding (values : List Int) : Option Int → Except PyError (List Int)
  | some count => do
      raiseIf (¬ (0 ≤ count ∧ count ≤ values.length)) (valueError
        "R2OPL semantic_step_count must lie between zero and the number of supplied ends.")
      return values.take count.toNat
  | none => do
      if 0 ∈ values then
        let firstPadding := values.idxOf 0
        raiseIf (∃ value ∈ values.drop firstPadding, value ≠ 0) (valueError
          "R2OPL zero-padded semantic_step_ends cannot contain a non-zero value later.")
        return values.take firstPadding
      return values

def semanticStepRangesFromEnds (semanticStepEnds : StepEnds) (responseLength : Nat)
    (semanticStepCount : Option Int) : Except PyError (List (Nat × Nat)) := do
  let values ← stepEndValues semanticStepEnds
  let values ← trimPadding values semanticStepCount
  raiseIf (∃ value ∈ values, value ≤ 0)
    (valueError "R2OPL semantic step ends must be positive before padding.")
  let starts := 0 :: values.dropLast
  let ranges ← zipStrict starts values
  validateSemanticRanges ranges responseLength

def buildR2oplProbeLayoutFromStepEnds (promptIds responseIds : List Int)
    (semanticStepEnds : StepEnds) (probeTokenIds probeAnswerPositions : List Int)
    (semanticStepCount : Option Int) : Except PyError R2OPLProbeLayout := do
  let ranges ← semanticStepRangesFromEnds semanticStepEnds responseIds.length
    semanticStepCount
  buildR2oplProbeLayout promptIds responseIds
    (ranges.map fun range => .seq [range.1, range.2])
    ⟨[], probeTokenIds, probeAnswerPositions, 0, 0⟩

/-! ### Ranges and their ends -/

/-- The consecutive ranges with the given ends. -/
def rangesFrom : Nat → List Nat → List (Nat × Nat)
  | _, [] => []
  | previous, stop :: rest => (previous, stop) :: rangesFrom stop rest

@[simp] theorem length_rangesFrom (ends : List Nat) :
    ∀ previous, (rangesFrom previous ends).length = ends.length := by
  induction ends with
  | nil => intro previous; rfl
  | cons stop rest ih => intro previous; simp [rangesFrom, ih]

@[simp] theorem map_snd_rangesFrom (ends : List Nat) :
    ∀ previous, (rangesFrom previous ends).map Prod.snd = ends := by
  induction ends with
  | nil => intro previous; rfl
  | cons stop rest ih => intro previous; simp [rangesFrom, ih]

theorem tilesFrom_rangesFrom {responseLength : Nat} (ends : List Nat) :
    ∀ previous, TilesFrom responseLength previous (rangesFrom previous ends) ↔
      IncreasingFrom responseLength previous ends := by
  induction ends with
  | nil => intro previous; simp [rangesFrom, TilesFrom, IncreasingFrom]
  | cons stop rest ih => intro previous; simp [rangesFrom, TilesFrom, IncreasingFrom, ih]

theorem zip_starts_ends (ends : List Nat) (hends : ends ≠ []) :
    ∀ previous : Nat,
      ((previous : Int) :: (ends.map Nat.cast).dropLast).zip (ends.map Nat.cast) =
        intRanges (rangesFrom previous ends) := by
  induction ends with
  | nil => exact absurd rfl hends
  | cons stop rest ih =>
    intro previous
    cases rest with
    | nil => rfl
    | cons next rest =>
      have htail := ih (by simp) stop
      simp only [List.map_cons, List.dropLast_cons_cons, List.zip_cons_cons, rangesFrom,
        intRanges] at htail ⊢
      rw [htail]

theorem IncreasingFrom.pos {bound : Nat} :
    ∀ {ends : List Nat} {previous : Nat}, IncreasingFrom bound previous ends →
      ∀ stop ∈ ends, 0 < stop := by
  intro ends
  induction ends with
  | nil => intro previous _ stop hstop; cases hstop
  | cons head rest ih =>
    intro previous h stop hstop
    obtain ⟨hlt, _, hrest⟩ := h
    rcases List.mem_cons.mp hstop with rfl | hmem
    · omega
    · exact ih hrest stop hmem

/-- The ends as they reach the actor: any number of zeros behind them, in a list or
    in a one-dimensional tensor. -/
inductive Transmits (ends : List Int) (padding : Nat) : StepEnds → Prop where
  | seq : Transmits ends padding (.seq (ends ++ List.replicate padding 0))
  | tensor : Transmits ends padding (.tensor (.vec (ends.length + padding) fun index =>
      (ends ++ List.replicate padding 0).getD index 0))

theorem Transmits.values {ends : List Int} {padding : Nat} {transmitted : StepEnds}
    (h : Transmits ends padding transmitted) :
    stepEndValues transmitted = .ok (ends ++ List.replicate padding 0) := by
  cases h with
  | seq => rfl
  | tensor =>
    have hread : (List.range (ends.length + padding)).map
        (fun index => (ends ++ List.replicate padding 0).getD index 0) =
          ends ++ List.replicate padding 0 := by
      apply List.ext_getElem
      · simp
      · intro index hleft hright
        simp only [List.getElem_map, List.getElem_range, List.getD_eq_getElem?_getD,
          List.getElem?_eq_getElem hright, Option.getD_some]
    exact congrArg Except.ok hread

/-- Padding is cut off, and nothing else is. -/
theorem trimPadding_none_eq_ok {values kept : List Int} :
    trimPadding values none = .ok kept ↔
      0 ∉ kept ∧ ∃ padding, values = kept ++ List.replicate padding 0 := by
  constructor
  · intro h
    unfold trimPadding at h
    dsimp only at h
    by_cases hzero : (0 : Int) ∈ values
    · rw [if_pos hzero] at h
      obtain ⟨hlater, hkept⟩ := raiseIf_bind_eq_ok.mp h
      cases hkept
      refine ⟨?_, (values.drop (values.idxOf 0)).length, ?_⟩
      · exact fun hmem => absurd (List.mem_take_iff_idxOf_lt hzero |>.mp hmem) (Nat.lt_irrefl _)
      · have hpadding : values.drop (values.idxOf 0) =
            List.replicate (values.drop (values.idxOf 0)).length 0 := by
          apply List.eq_replicate_iff.mpr ⟨rfl, ?_⟩
          intro value hvalue
          by_contra hne
          exact hlater ⟨value, hvalue, hne⟩
        rw [← hpadding, List.take_append_drop]
    · rw [if_neg hzero] at h
      cases h
      exact ⟨hzero, 0, (List.append_nil values).symm⟩
  · rintro ⟨hzero, padding, rfl⟩
    unfold trimPadding
    cases padding with
    | zero =>
      rw [List.replicate_zero, List.append_nil]
      dsimp only
      rw [if_neg hzero]
      rfl
    | succ padding =>
      have hmem : (0 : Int) ∈ kept ++ List.replicate (padding + 1) 0 :=
        List.mem_append_right _ (List.mem_replicate.mpr ⟨Nat.succ_ne_zero _, rfl⟩)
      have hindex : (kept ++ List.replicate (padding + 1) (0 : Int)).idxOf 0 = kept.length := by
        rw [List.idxOf_append_of_notMem hzero, List.replicate_succ, List.idxOf_cons_self,
          Nat.add_zero]
      dsimp only
      rw [if_pos hmem, hindex, List.drop_left, List.take_left, raiseIf_of_not, ok_bind]
      · rfl
      · rintro ⟨value, hvalue, hne⟩
        exact hne (List.eq_of_mem_replicate hvalue)

/-- An explicit count keeps what it counts. -/
theorem trimPadding_some_append (kept padding : List Int) :
    trimPadding (kept ++ padding) (some kept.length) = .ok kept := by
  unfold trimPadding
  dsimp only
  rw [raiseIf_of_not, ok_bind, Int.toNat_natCast, List.take_left]
  · rfl
  · rw [not_not, List.length_append]
    omega

/-- Padding is recognised: positive ends are what precedes the first zero. -/
theorem trimPadding_append {ends : List Int} (hpos : ∀ value ∈ ends, 0 < value)
    (padding : Nat) : trimPadding (ends ++ List.replicate padding 0) none = .ok ends :=
  trimPadding_none_eq_ok.mpr
    ⟨fun hmem => absurd (hpos 0 hmem) (Int.lt_irrefl 0), padding, rfl⟩

/-- **The step-end parser on emitted ends.**  Increasing ends are read back as their
    ranges, except that the empty list is rejected: its `zip` pairs the leading
    zero with nothing. -/
theorem semanticStepRangesFromEnds_transmitted {responseLength padding : Nat}
    {ends : List Nat} {transmitted : StepEnds}
    (hincreasing : IncreasingFrom responseLength 0 ends)
    (htransmit : Transmits (ends.map Nat.cast) padding transmitted)
    (ranges : List (Nat × Nat)) :
    semanticStepRangesFromEnds transmitted responseLength none = .ok ranges ↔
      ends ≠ [] ∧ ranges = rangesFrom 0 ends := by
  have hpos : ∀ value ∈ (ends.map Nat.cast : List Int), 0 < value := by
    intro value hvalue
    obtain ⟨stop, hstop, rfl⟩ := List.mem_map.mp hvalue
    exact Int.natCast_pos.mpr (hincreasing.pos stop hstop)
  have hchecked : ¬ ∃ value ∈ (ends.map Nat.cast : List Int), value ≤ 0 := by
    rintro ⟨value, hvalue, hle⟩
    have := hpos value hvalue
    omega
  simp only [semanticStepRangesFromEnds, htransmit.values, ok_bind,
    trimPadding_append hpos padding, raiseIf_of_not hchecked, bind_eq_ok, zipStrict_eq_ok,
    validateSemanticRanges_eq_ok, List.length_cons, List.length_dropLast, List.length_map]
  constructor
  · rintro ⟨pairs, ⟨hlength, rfl⟩, hread, _⟩
    have hends : ends ≠ [] := by
      rintro rfl
      simp at hlength
    refine ⟨hends, ?_⟩
    have hzip := zip_starts_ends ends hends 0
    rw [Int.natCast_zero] at hzip
    rw [hzip] at hread
    exact (intRanges_injective hread).symm
  · rintro ⟨hends, rfl⟩
    have hlength := List.length_pos_iff.mpr hends
    have hzip := zip_starts_ends ends hends 0
    rw [Int.natCast_zero] at hzip
    exact ⟨_, ⟨by omega, hzip.symm⟩, rfl, (tilesFrom_rangesFrom ends 0).mpr hincreasing⟩

/-! ### The language of step ends -/

theorem exists_natCast {values : List Int} (hpos : ∀ value ∈ values, 0 < value) :
    ∃ ends : List Nat, values = ends.map Nat.cast := by
  refine ⟨values.map Int.toNat, ?_⟩
  rw [List.map_map, List.map_congr_left, List.map_id]
  intro value hvalue
  exact Int.toNat_of_nonneg (hpos value hvalue).le

/-- What the parser accepts, whatever it reads, and what it reads then. -/
theorem semanticStepRangesFromEnds_eq_ok {responseLength : Nat} {values : List Int}
    {ranges : List (Nat × Nat)} (hfirst : values ≠ []) (hzero : values.head? ≠ some 0) :
    semanticStepRangesFromEnds (.seq values) responseLength none = .ok ranges ↔
      ∃ ends padding, values = ends.map Nat.cast ++ List.replicate padding 0 ∧
        IncreasingFrom responseLength 0 ends ∧ ranges = rangesFrom 0 ends := by
  constructor
  · intro h
    unfold semanticStepRangesFromEnds at h
    obtain ⟨_, hvalues, h⟩ := bind_eq_ok.mp h
    cases hvalues
    obtain ⟨kept, hkept, h⟩ := bind_eq_ok.mp h
    obtain ⟨hpositive, h⟩ := raiseIf_bind_eq_ok.mp h
    obtain ⟨pairs, hpairs, hvalid⟩ := bind_eq_ok.mp h
    obtain ⟨_, rfl⟩ := zipStrict_eq_ok.mp hpairs
    obtain ⟨hread, hcontiguous⟩ := validateSemanticRanges_eq_ok.mp hvalid
    obtain ⟨_, padding, hsplit⟩ := trimPadding_none_eq_ok.mp hkept
    obtain ⟨ends, rfl⟩ := exists_natCast fun value hvalue =>
      Int.not_le.mp fun hle => hpositive ⟨value, hvalue, hle⟩
    have hends : ends ≠ [] := by
      rintro rfl
      cases padding with
      | zero => exact hfirst hsplit
      | succ padding => exact hzero (by rw [hsplit]; rfl)
    have hzip := zip_starts_ends ends hends 0
    rw [Int.natCast_zero] at hzip
    rw [hzip] at hread
    have hranges := intRanges_injective hread
    rw [← hranges] at hcontiguous
    exact ⟨ends, padding, hsplit, (tilesFrom_rangesFrom ends 0).mp hcontiguous, hranges.symm⟩
  · rintro ⟨ends, padding, rfl, hincreasing, rfl⟩
    refine (semanticStepRangesFromEnds_transmitted hincreasing .seq _).mpr ⟨?_, rfl⟩
    rintro rfl
    cases padding with
    | zero => exact hfirst rfl
    | succ padding => exact hzero rfl

/-- A count of the ends stands for the padding behind them. -/
theorem semanticStepRangesFromEnds_count {responseLength : Nat} {ends : List Int}
    (hzero : 0 ∉ ends) (padding : Nat) :
    semanticStepRangesFromEnds (.seq (ends ++ List.replicate padding 0)) responseLength
        (some ends.length) =
      semanticStepRangesFromEnds (.seq (ends ++ List.replicate padding 0)) responseLength none := by
  unfold semanticStepRangesFromEnds stepEndValues
  rw [ok_bind, ok_bind, trimPadding_some_append,
    trimPadding_none_eq_ok.mpr ⟨hzero, padding, rfl⟩]

/-- **The language of step ends.**  A list that does not begin with a zero is accepted
    without a count if and only if it is increasing positive ends within the response with
    only zeros behind them.  What is read is contiguous and not empty, its ends are read back
    as it with any number of zeros behind them, and a count of the ends has the effect of the
    zeros. -/
theorem step_ends_language {responseLength : Nat} {values : List Int} (hfirst : values ≠ [])
    (hzero : values.head? ≠ some 0) :
    ((∃ ranges, semanticStepRangesFromEnds (.seq values) responseLength none = .ok ranges) ↔
        ∃ ends padding, values = ends.map Nat.cast ++ List.replicate padding 0 ∧
          IncreasingFrom responseLength 0 ends) ∧
      (∀ ranges, semanticStepRangesFromEnds (.seq values) responseLength none = .ok ranges →
        ranges ≠ [] ∧ Contiguous responseLength ranges ∧
        ∀ padding, semanticStepRangesFromEnds
          (.seq (ranges.map (fun range => (range.2 : Int)) ++ List.replicate padding 0))
            responseLength none = .ok ranges) ∧
      ∀ ends padding, values = ends ++ List.replicate padding 0 → 0 ∉ ends →
        semanticStepRangesFromEnds (.seq values) responseLength (some ends.length) =
          semanticStepRangesFromEnds (.seq values) responseLength none := by
  refine ⟨?_, ?_, ?_⟩
  · constructor
    · rintro ⟨ranges, h⟩
      obtain ⟨ends, padding, hsplit, hincreasing, _⟩ :=
        (semanticStepRangesFromEnds_eq_ok hfirst hzero).mp h
      exact ⟨ends, padding, hsplit, hincreasing⟩
    · rintro ⟨ends, padding, hsplit, hincreasing⟩
      exact ⟨_, (semanticStepRangesFromEnds_eq_ok hfirst hzero).mpr
        ⟨ends, padding, hsplit, hincreasing, rfl⟩⟩
  · intro ranges h
    obtain ⟨ends, padding, hsplit, hincreasing, rfl⟩ :=
      (semanticStepRangesFromEnds_eq_ok hfirst hzero).mp h
    have hends : ends ≠ [] := by
      rintro rfl
      cases padding with
      | zero => exact hfirst hsplit
      | succ padding => exact hzero (by rw [hsplit]; rfl)
    refine ⟨?_, (tilesFrom_rangesFrom ends 0).mpr hincreasing, ?_⟩
    · intro hnil
      have hlength := length_rangesFrom ends 0
      rw [hnil] at hlength
      exact hends (List.eq_nil_of_length_eq_zero hlength.symm)
    · intro zeros
      have hread : (rangesFrom 0 ends).map (fun range => (range.2 : Int)) =
          ends.map Nat.cast := by
        rw [← map_snd_rangesFrom ends 0, List.map_map, map_snd_rangesFrom]
        rfl
      rw [hread]
      exact (semanticStepRangesFromEnds_transmitted hincreasing .seq _).mpr ⟨hends, rfl⟩
  · rintro ends padding rfl hnone
    exact semanticStepRangesFromEnds_count hnone padding

theorem step_ends_language_two_ends :
    (∃ ranges, semanticStepRangesFromEnds (.seq [2, 5, 0]) 6 none = .ok ranges) ∧
      semanticStepRangesFromEnds (.seq [2, 5, 0]) 6 (some 2) =
        semanticStepRangesFromEnds (.seq [2, 5, 0]) 6 none := by
  obtain ⟨haccepts, _, hcount⟩ := @step_ends_language 6 [2, 5, 0] (by decide) (by decide)
  refine ⟨haccepts.mpr ⟨[2, 5], 1, rfl, ?_⟩, hcount [2, 5] 1 rfl (by decide)⟩
  exact ⟨by decide, by decide, by decide, by decide, trivial⟩

theorem stepRanges_seq (ranges : List (Nat × Nat)) :
    ∀ index, stepRanges index (ranges.map fun range =>
      SemanticStep.seq [(range.1 : Int), (range.2 : Int)]) = .ok (intRanges ranges) := by
  induction ranges with
  | nil => intro index; rfl
  | cons range rest ih =>
    intro index
    simp only [List.map_cons, stepRanges, stepRange, ok_bind, ih (index + 1), intRanges]
    rfl

/-! ### Agreement -/

/-- The actor's layout for the metadata of a response: a branch for each of two or
    more steps and none otherwise, at the boundaries the metadata names, with
    the probe's answer tokens at its answer positions. -/
def ConsumerAgrees (promptIds responseIds : List Int) (metadata : R2OPLProbeMetadata)
    (transmitted : StepEnds) : Prop :=
  ∃ layout, buildR2oplProbeLayoutFromStepEnds promptIds responseIds transmitted
      metadata.probeTokenIds metadata.probeAnswerPositions none = .ok layout ∧
    (2 ≤ metadata.semanticStepEnds.length →
      layout.branches.length = metadata.semanticStepEnds.length) ∧
    (metadata.semanticStepEnds.length < 2 → layout.branches = []) ∧
    layout.branches.map (fun branch =>
      (branch.visiblePrefixEnd : Int) - promptIds.length) = metadata.probeBoundaries ∧
    ∀ branch ∈ layout.branches,
      (∀ position ∈ branch.answerTokenPositions, position < layout.sequenceIds.length) ∧
      branch.answerTokenPositions.map (layout.sequenceIds[·]?) =
        metadata.probeAnswerPositions.map (metadata.probeTokenIds[·.toNat]?)

section Agreement

variable {promptIds responseIds : List Int} {metadata : R2OPLProbeMetadata}
  {ends : List Nat} {padding : Nat} {transmitted : StepEnds}

theorem ValidMetadata.probeBoundaries_eq (h : ValidMetadata responseIds.length ends metadata)
    (hmany : 2 ≤ ends.length) :
    metadata.probeBoundaries =
      (visibleResponseEnds (rangesFrom 0 ends)).map Nat.cast := by
  have hends : metadata.semanticStepEnds ≠ [] := by
    rw [h.ends_eq]
    simp only [ne_eq, List.map_eq_nil_iff]
    rintro rfl
    simp at hmany
  rw [R2OPLProbeMetadata.probeBoundaries, if_neg (by simp [h.ids_ne hmany, hends]), h.ends_eq,
    visibleResponseEnds, List.map_cons, List.map_dropLast, map_snd_rangesFrom,
    List.map_dropLast]
  rfl

/-- On a response with steps the consumer builds what the metadata announces. -/
theorem consumerAgrees_of_steps (h : ValidMetadata responseIds.length ends metadata)
    (hprompt : promptIds ≠ []) (hends : ends ≠ [])
    (htransmit : Transmits metadata.semanticStepEnds padding transmitted) :
    ConsumerAgrees promptIds responseIds metadata transmitted := by
  rw [h.ends_eq] at htransmit
  have hranges := (semanticStepRangesFromEnds_transmitted h.increasing htransmit _).mpr
    ⟨hends, rfl⟩
  have hcontiguous : Contiguous responseIds.length (rangesFrom 0 ends) :=
    (tilesFrom_rangesFrom ends 0).mpr h.increasing
  have hcount : metadata.semanticStepEnds.length = ends.length := by
    rw [h.ends_eq, List.length_map]
  let probe : AnswerProbe :=
    ⟨[], metadata.probeTokenIds, metadata.probeAnswerPositions, 0, 0⟩
  have hprobe : 2 ≤ (rangesFrom 0 ends).length → ValidProbe probe := by
    rw [length_rangesFrom]
    exact fun hmany => ⟨h.ids_ne hmany, h.answers_ne hmany, h.answers_inside⟩
  have hvalid := validLayout_assembleLayout hprompt hcontiguous hprobe
  refine ⟨assembleLayout promptIds responseIds (rangesFrom 0 ends) probe, ?_, ?_, ?_, ?_, ?_⟩
  · simp only [buildR2oplProbeLayoutFromStepEnds, hranges, ok_bind]
    exact buildR2oplProbeLayout_eq_ok.mpr
      ⟨hprompt, _, stepRanges_seq _ 0, hcontiguous, hprobe, rfl⟩
  · intro hmany
    rw [hcount] at hmany ⊢
    rw [hvalid.branch_count, expectedBranchCount]
    simp [assembleLayout, hmany]
  · intro hfew
    rw [hcount] at hfew
    exact assembleLayout_no_branch (by rw [length_rangesFrom]; omega)
  · by_cases hmany : 2 ≤ ends.length
    · have hprefixes := @assembleLayout_prefixEnds promptIds responseIds
        (rangesFrom 0 ends) probe (by rwa [length_rangesFrom])
      rw [h.probeBoundaries_eq hmany,
        show (fun branch : R2OPLProbeBranch =>
            (branch.visiblePrefixEnd : Int) - promptIds.length) =
          (fun prefixEnd : Nat => (prefixEnd : Int) - promptIds.length) ∘
            R2OPLProbeBranch.visiblePrefixEnd from rfl,
        ← List.map_map, hprefixes, List.map_map]
      apply List.map_congr_left
      intro responseEnd _
      simp only [Function.comp_apply]
      omega
    · rw [assembleLayout_no_branch (by rwa [length_rangesFrom]),
        R2OPLProbeMetadata.probeBoundaries, if_pos (Or.inl (h.unprobed (by omega)).1)]
      rfl
  · intro branch hbranch
    obtain ⟨j, start, _, hat⟩ := hvalid.exists_branchAt hbranch
    refine ⟨fun position hposition =>
      Nat.lt_of_lt_of_le (hat.answers_inside position hposition).2 hat.end_le, ?_⟩
    rw [assembleLayout_answers hbranch, List.map_map, List.map_map]
    apply List.map_congr_left
    intro answer hanswer
    have hinside := h.answers_inside answer hanswer
    have hids : (assembleLayout promptIds responseIds (rangesFrom 0 ends) probe).probeTokenIds =
        probe.tokenIds := rfl
    apply sequenceIds_branch hat hids
    rw [Int.toNat_lt hinside.1.le]
    exact hinside.2

/-- **Producer and consumer agree exactly on responses that show text.**  For all
    metadata the producer returns, every non-empty prompt and every padding: the
    actor-side builder does what the metadata announces if and only if the
    response decodes to some visible text.  On a response without any it raises
    before the padding matters. -/
theorem consumer_agrees_iff_visible {detectors : Detectors} {tokenizer : Tokenizer}
    {answer : Option PyStr}
    (h : buildR2oplProbeMetadata detectors tokenizer responseIds answer = .ok metadata)
    (hprompt : promptIds ≠ [])
    (htransmit : Transmits metadata.semanticStepEnds padding transmitted) :
    ConsumerAgrees promptIds responseIds metadata transmitted ↔
      tokenizer.decode responseIds true ≠ [] := by
  obtain ⟨steps, hsplit, hvalid⟩ := validMetadata_of_build h
  have hvisible := splitRolloutSteps_eq_nil hsplit
  constructor
  · rintro ⟨layout, hlayout, _⟩ hempty
    rw [hvalid.ends_eq] at htransmit
    simp only [buildR2oplProbeLayoutFromStepEnds, bind_eq_ok] at hlayout
    obtain ⟨ranges, hranges, _⟩ := hlayout
    have hends := ((semanticStepRangesFromEnds_transmitted hvalid.increasing htransmit
      ranges).mp hranges).1
    exact hends (by rw [hvisible.mpr hempty, List.map_nil])
  · intro htext
    refine consumerAgrees_of_steps hvalid hprompt ?_ htransmit
    simpa using fun hnil => htext (hvisible.mp hnil)

/-- A tokenizer with one token a character and an end-of-sequence token `0` that
    decodes to nothing. -/
def characterTokenizer : Tokenizer where
  decode := fun ids _ => (ids.filter (· ≠ 0)).map fun id => Char.ofNat id.toNat
  encode := fun text => (text.map fun c => c.toNat, none)

/-- Detectors that find one authored boundary, after the first character. -/
def oneBoundary : Detectors :=
  { Detectors.silent with
    explicitBoundaries := fun _ _ _ => .ok [⟨1, "explicit_step_sequence", .hard⟩] }

/-- A response of two steps and an end-of-sequence token, transmitted as a tensor
    with three zeros behind its ends. -/
theorem consumer_agrees_iff_visible_two_steps :
    ∃ metadata, buildR2oplProbeMetadata oneBoundary characterTokenizer [97, 98, 0]
        (some "4".toList) = .ok metadata ∧
      metadata.semanticStepEnds = [1, 2] ∧
      ConsumerAgrees [11] [97, 98, 0] metadata
        (.tensor (.vec 5 fun index => [1, 2, 0, 0, 0].getD index 0)) := by
  obtain ⟨metadata, hbuild, hends⟩ : ∃ metadata, buildR2oplProbeMetadata oneBoundary
      characterTokenizer [97, 98, 0] (some "4".toList) = .ok metadata ∧
        metadata.semanticStepEnds = [1, 2] := by
    refine ⟨⟨(r2oplProbePrefix ++ "4".toList ++ r2oplProbeSuffix).map
      fun c => (c.toNat : Int), [32], [1, 2]⟩, ?_, rfl⟩
    decide +kernel
  refine ⟨metadata, hbuild, hends, ?_⟩
  have hprompt : [(11 : Int)] ≠ [] := by decide
  have htransmitted : Transmits metadata.semanticStepEnds 3
      (.tensor (.vec 5 fun index => [1, 2, 0, 0, 0].getD index 0)) := by
    rw [hends]
    exact Transmits.tensor
  exact (consumer_agrees_iff_visible hbuild hprompt htransmitted).mpr (by decide)

/-- A lone end-of-sequence token: the producer returns empty metadata and the
    consumer raises on it. -/
theorem consumer_rejects_invisible_response :
    buildR2oplProbeMetadata .silent characterTokenizer [0] none = .ok ⟨[], [], []⟩ ∧
      buildR2oplProbeLayoutFromStepEnds [11] [0] (.seq [0]) [] [] none =
        .error (valueError "zip() argument 2 is shorter than argument 1") ∧
      ¬ ConsumerAgrees [11] [0] ⟨[], [], []⟩ (.seq [0]) := by
  have hraises : buildR2oplProbeLayoutFromStepEnds [11] [0] (.seq [0]) [] [] none =
      .error (valueError "zip() argument 2 is shorter than argument 1") := by
    decide +kernel
  refine ⟨by decide +kernel, hraises, ?_⟩
  rintro ⟨layout, hlayout, _⟩
  simp only at hlayout
  rw [hraises] at hlayout
  cases hlayout

end Agreement

end R2opl
