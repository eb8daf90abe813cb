import R2opl.Ersr.Equivalence

/-!
# What ERSR selects

Each series of a data set and an action is sampled on its own: as many steps as its cap
allows, different ones, all of them before the end of their rollout, and the same ones
whatever the records of other data sets are.  Over all draws every step of a series is kept
equally often.
-/

namespace R2opl

open Checked

variable {Rng : Type} {random : RandomSource Rng} {detectors : Detectors} {tokenizer : Tokenizer}
  {settings : ErsrSettings} {actionTypes : List ActionType}

/-! ### Counts -/

section Counts

variable (random settings) in
theorem Reservoir.length_offerAll (reservoir : Reservoir Rng) (candidates : List StepCandidate)
    (h : reservoir.items.length ≤ settings.maxStepsPerDataset) :
    (reservoir.offerAll random settings candidates).items.length =
      min settings.maxStepsPerDataset (reservoir.items.length + candidates.length) := by
  induction candidates generalizing reservoir with
  | nil =>
    unfold Reservoir.offerAll
    rw [List.foldl_nil, List.length_nil]
    omega
  | cons candidate rest ih =>
    obtain ⟨index, hitems⟩ := reservoir.items_offer random settings candidate
    have hlength : (Sampling.offer settings.maxStepsPerDataset index reservoir.items
        candidate).length = min settings.maxStepsPerDataset (reservoir.items.length + 1) :=
      Sampling.length_offer h
    have hnext := ih (reservoir.offer random settings candidate)
      (by rw [hitems, hlength]; exact Nat.min_le_left _ _)
    rw [hitems, hlength] at hnext
    unfold Reservoir.offerAll at hnext ⊢
    rw [List.foldl_cons, hnext, List.length_cons]
    omega

/-- The steps that a series is sampled from. -/
def seriesCandidates (detectors : Detectors) (tokenizer : Tokenizer) (settings : ErsrSettings)
    (actionTypes : List ActionType) (records : List ValidationRecord)
    (key : PyStr × ActionType) : List StepCandidate :=
  (offeredCandidates detectors tokenizer settings actionTypes records).filter fun c => c.key = key

variable (random detectors tokenizer settings actionTypes) in
/-- The rows of a series are of that series. -/
theorem key_of_mem_shuffledRows (records : List ValidationRecord) (key : PyStr × ActionType) :
    ∀ row ∈ shuffledRows random settings
      (selectCandidates random detectors tokenizer settings actionTypes records) key,
      row.key = key := by
  intro row hrow
  have hitems := (shuffledRows_perm _ key).mem_iff.mp hrow
  have hmem := (selectCandidates_sampled random detectors tokenizer settings actionTypes
    records key).subset hitems
  exact of_decide_eq_true (List.mem_filter.mp hmem).2

variable (random settings) in
theorem length_shuffledRows (records : List ValidationRecord) (key : PyStr × ActionType) :
    (shuffledRows random settings
      (selectCandidates random detectors tokenizer settings actionTypes records) key).length =
      min settings.maxStepsPerDataset
        (seriesCandidates detectors tokenizer settings actionTypes records key).length := by
  rw [(shuffledRows_perm _ key).length_eq, selectCandidates_reservoirs,
    Reservoir.length_offerAll _ _ _ _ (Nat.zero_le _), List.length_nil, Nat.zero_add]
  rfl

end Counts

/-! ### Other data sets -/

section Independence

/-- The rows of all series. -/
def selectedRows (random : RandomSource Rng) (detectors : Detectors) (tokenizer : Tokenizer)
    (settings : ErsrSettings) (actionTypes : List ActionType) (records : List ValidationRecord) :
    List StepCandidate :=
  (seriesKeys settings actionTypes).flatMap (shuffledRows random settings
    (selectCandidates random detectors tokenizer settings actionTypes records))

/-- The candidate with its record counted among the records of its data set. -/
def StepCandidate.renumber (records : List ValidationRecord) (candidate : StepCandidate) :
    StepCandidate :=
  { candidate with
    recordIndex := ((records.take candidate.recordIndex).filter fun record =>
      record.dataset = candidate.dataset).length }

theorem StepCandidate.key_renumber (records : List ValidationRecord) (candidate : StepCandidate) :
    (candidate.renumber records).key = candidate.key := rfl

theorem recordIndex_lt_of_mem_offered {records : List ValidationRecord} {candidate : StepCandidate}
    (h : candidate ∈ offeredCandidates detectors tokenizer settings actionTypes records) :
    candidate.recordIndex < records.length := by
  obtain ⟨indexed, hindexed, hcandidate⟩ := List.mem_flatMap.mp h
  rw [(mem_eligibleCandidates hcandidate).1]
  exact (List.mem_zipIdx' hindexed).1

theorem dataset_of_mem_eligible {indexed : ValidationRecord × Nat} {candidate : StepCandidate}
    (h : candidate ∈ eligibleCandidates detectors tokenizer settings actionTypes indexed) :
    candidate.dataset = indexed.1.dataset := by
  unfold eligibleCandidates at h
  split at h
  · split at h
    · exact absurd h List.not_mem_nil
    · obtain ⟨step, _, rfl⟩ := List.mem_map.mp h
      rfl
  · exact absurd h List.not_mem_nil

/-- The candidates of a record at another index. -/
theorem map_eligibleCandidates (record : ValidationRecord) (index : Nat)
    (f : StepCandidate → StepCandidate) (index' : Nat)
    (hf : ∀ step, f (stepCandidate record index step) = stepCandidate record index' step) :
    (eligibleCandidates detectors tokenizer settings actionTypes (record, index)).map f =
      eligibleCandidates detectors tokenizer settings actionTypes (record, index') := by
  unfold eligibleCandidates
  dsimp only
  split
  · split
    · rfl
    · unfold stepCandidates
      rw [List.map_map]
      exact List.map_congr_left fun step _ => hf step
  · rfl

variable (detectors tokenizer settings actionTypes) in
theorem offeredCandidates_append (records : List ValidationRecord) (record : ValidationRecord) :
    offeredCandidates detectors tokenizer settings actionTypes (records ++ [record]) =
      offeredCandidates detectors tokenizer settings actionTypes records ++
        eligibleCandidates detectors tokenizer settings actionTypes (record, records.length) := by
  unfold offeredCandidates
  rw [List.zipIdx_append, List.flatMap_append, List.zipIdx_singleton, List.flatMap_singleton,
    Nat.zero_add]

variable (detectors tokenizer settings actionTypes) in
/-- The records of one data set offer the same steps without the other records. -/
theorem map_renumber_offered (records : List ValidationRecord) (dataset : PyStr) :
    ((offeredCandidates detectors tokenizer settings actionTypes records).filter fun c =>
        c.dataset = dataset).map (StepCandidate.renumber records) =
      offeredCandidates detectors tokenizer settings actionTypes
        (records.filter fun record => record.dataset = dataset) := by
  induction records using List.reverseRecOn with
  | nil => rfl
  | append_singleton records record ih =>
    rw [offeredCandidates_append, List.filter_append, List.map_append, List.filter_append]
    have hbefore : ((offeredCandidates detectors tokenizer settings actionTypes records).filter
        fun c => c.dataset = dataset).map (StepCandidate.renumber (records ++ [record])) =
        ((offeredCandidates detectors tokenizer settings actionTypes records).filter
          fun c => c.dataset = dataset).map (StepCandidate.renumber records) := by
      apply List.map_congr_left
      intro candidate hcandidate
      have hlt := recordIndex_lt_of_mem_offered (List.mem_of_mem_filter hcandidate)
      unfold StepCandidate.renumber
      rw [List.take_append_of_le_length (Nat.le_of_lt hlt)]
    rw [hbefore, ih]
    by_cases hdataset : record.dataset = dataset
    · have hall : (eligibleCandidates detectors tokenizer settings actionTypes
          (record, records.length)).filter (fun c => c.dataset = dataset) =
          eligibleCandidates detectors tokenizer settings actionTypes
            (record, records.length) := by
        apply List.filter_eq_self.mpr
        intro candidate hcandidate
        exact decide_eq_true ((dataset_of_mem_eligible hcandidate).trans hdataset)
      rw [hall, List.filter_cons_of_pos (by simpa using hdataset), List.filter_nil,
        offeredCandidates_append]
      congr 1
      apply map_eligibleCandidates
      intro step
      unfold StepCandidate.renumber stepCandidate
      dsimp only
      rw [List.take_left' rfl, hdataset]
    · have hnone : (eligibleCandidates detectors tokenizer settings actionTypes
          (record, records.length)).filter (fun c => c.dataset = dataset) = [] := by
        apply List.filter_eq_nil_iff.mpr
        intro candidate hcandidate
        rw [dataset_of_mem_eligible hcandidate]
        simpa using hdataset
      rw [hnone, List.filter_cons_of_neg (by simpa using hdataset), List.filter_nil, List.map_nil,
        List.append_nil, List.append_nil]

/-- A reservoir of renamed candidates holds the renamed ones. -/
theorem Reservoir.offerAll_map {f : StepCandidate → StepCandidate}
    (hf : ∀ candidate, (f candidate).key = candidate.key) (candidates : List StepCandidate)
    (reservoir : Reservoir Rng) :
    Reservoir.offerAll random settings { reservoir with items := reservoir.items.map f }
        (candidates.map f) =
      { reservoir.offerAll random settings candidates with
        items := (reservoir.offerAll random settings candidates).items.map f } := by
  induction candidates generalizing reservoir with
  | nil => rfl
  | cons candidate rest ih =>
    have hstep : Reservoir.offer random settings { reservoir with items := reservoir.items.map f }
        (f candidate) =
        { reservoir.offer random settings candidate with
          items := (reservoir.offer random settings candidate).items.map f } := by
      obtain ⟨hdataset, haction⟩ := Prod.mk.inj (hf candidate)
      unfold Reservoir.offer
      dsimp only
      rw [List.length_map, hdataset, haction]
      split
      · rw [List.map_append, List.map_singleton]
      · dsimp only
        split
        · rw [List.map_set]
        · rfl
    unfold Reservoir.offerAll at ih ⊢
    rw [List.map_cons, List.foldl_cons, List.foldl_cons, hstep, ih]

/-- The rows of a series, with the other data sets' records left out. -/
theorem shuffledRows_filter (records : List ValidationRecord) (key : PyStr × ActionType) :
    (shuffledRows random settings (selectCandidates random detectors tokenizer settings actionTypes
        records) key).map (StepCandidate.renumber records) =
      shuffledRows random settings (selectCandidates random detectors tokenizer settings
        actionTypes (records.filter fun record => record.dataset = key.1)) key := by
  have hseries : ((offeredCandidates detectors tokenizer settings actionTypes records).filter
      fun c => c.key = key).map (StepCandidate.renumber records) =
      (offeredCandidates detectors tokenizer settings actionTypes
        (records.filter fun record => record.dataset = key.1)).filter fun c => c.key = key := by
    rw [← map_renumber_offered, List.filter_map, List.filter_filter]
    congr 1
    apply List.filter_congr
    intro c _
    rw [Function.comp_apply, StepCandidate.key_renumber]
    by_cases hkey : c.key = key
    · rw [← hkey]
      simp [StepCandidate.key]
    · simp [hkey]
  have hitems : ((selectCandidates random detectors tokenizer settings actionTypes
      records).reservoirs key).items.map (StepCandidate.renumber records) =
      ((selectCandidates random detectors tokenizer settings actionTypes
        (records.filter fun record => record.dataset = key.1)).reservoirs key).items := by
    rw [selectCandidates_reservoirs, selectCandidates_reservoirs, ← hseries]
    exact (congrArg Reservoir.items (Reservoir.offerAll_map
      (StepCandidate.key_renumber records) _ ⟨[], 0, none⟩)).symm
  unfold shuffledRows
  dsimp only
  rw [← hitems, List.length_map, List.map_filterMap]
  apply List.filterMap_congr
  intro i _
  rw [List.getElem?_map]

/-- The rows of one data set. -/
theorem filter_selectedRows (records : List ValidationRecord) (dataset : PyStr) :
    (selectedRows random detectors tokenizer settings actionTypes records).filter (fun row =>
        row.dataset = dataset) =
      ((seriesKeys settings actionTypes).filter fun key => key.1 = dataset).flatMap
        (shuffledRows random settings
          (selectCandidates random detectors tokenizer settings actionTypes records)) := by
  unfold selectedRows
  generalize seriesKeys settings actionTypes = keys
  induction keys with
  | nil => rfl
  | cons key rest ih =>
    rw [List.flatMap_cons, List.filter_append, ih]
    have hrows := key_of_mem_shuffledRows random detectors tokenizer settings actionTypes records
      key
    by_cases hkey : key.1 = dataset
    · rw [List.filter_cons_of_pos (by simpa using hkey), List.flatMap_cons]
      congr 1
      apply List.filter_eq_self.mpr
      intro row hrow
      rw [← hkey, ← hrows row hrow]
      exact decide_eq_true rfl
    · rw [List.filter_cons_of_neg (by simpa using hkey)]
      have hnone : (shuffledRows random settings (selectCandidates random detectors tokenizer
          settings actionTypes records) key).filter (fun row => row.dataset = dataset) = [] := by
        apply List.filter_eq_nil_iff.mpr
        intro row hrow hdataset
        apply hkey
        rw [← hrows row hrow]
        exact of_decide_eq_true hdataset
      rw [hnone, List.nil_append]

/-- What is selected for a data set is selected from its records alone. -/
theorem selectedRows_independent (records : List ValidationRecord) (dataset : PyStr) :
    ((selectedRows random detectors tokenizer settings actionTypes records).filter fun row =>
        row.dataset = dataset).map (StepCandidate.renumber records) =
      (selectedRows random detectors tokenizer settings actionTypes
        (records.filter fun record => record.dataset = dataset)).filter fun row =>
          row.dataset = dataset := by
  rw [filter_selectedRows, filter_selectedRows, List.map_flatMap]
  apply List.flatMap_congr
  intro key hkey
  obtain rfl := of_decide_eq_true (List.mem_filter.mp hkey).2
  exact shuffledRows_filter records key

end Independence

/-! ### The selection as a whole -/

section Whole

/-- A step before the last one of its rollout, in a record with the correctness that its action
    asks for. -/
structure StepCandidate.Eligible (detectors : Detectors) (tokenizer : Tokenizer)
    (records : List ValidationRecord) (candidate : StepCandidate) : Prop where
  ofRecord : ∃ record, records[candidate.recordIndex]? = some record ∧
    candidate.dataset = record.dataset ∧
    (record.correct = true ↔ candidate.actionType = .studentAction) ∧
    ∃ response steps, splitRolloutSteps detectors record.responseIds tokenizer true =
        .ok (response, steps) ∧
      candidate.stepIndex + 1 < steps.length ∧
      ∃ step ∈ steps, step.index = candidate.stepIndex ∧
        step.tokenStart = candidate.stepTokenStart ∧ step.tokenEnd = candidate.stepTokenEnd

theorem actionType_eq_studentAction (record : ValidationRecord) :
    record.correct = true ↔ record.actionType = .studentAction := by
  unfold ValidationRecord.actionType
  cases record.correct <;> decide

theorem mem_offeredCandidates {records : List ValidationRecord} {candidate : StepCandidate} :
    candidate ∈ offeredCandidates detectors tokenizer settings actionTypes records ↔
      ∃ record response steps step, records[candidate.recordIndex]? = some record ∧
        record.Wanted settings actionTypes ∧
        splitRolloutSteps detectors record.responseIds tokenizer true = .ok (response, steps) ∧
        step ∈ steps.dropLast ∧ step.tokenStart < step.tokenEnd ∧
        candidate = stepCandidate record candidate.recordIndex step := by
  unfold offeredCandidates
  rw [List.mem_flatMap]
  constructor
  · rintro ⟨⟨record, index⟩, hindexed, hcandidate⟩
    have hrecord : records[index]? = some record := List.mem_zipIdx_iff_getElem?.mp hindexed
    unfold eligibleCandidates at hcandidate
    split at hcandidate
    · next hwanted =>
      split at hcandidate
      · exact absurd hcandidate List.not_mem_nil
      · next response steps hsteps =>
        obtain ⟨step, hstep, rfl⟩ := List.mem_map.mp hcandidate
        obtain ⟨hmem, hspan⟩ := List.mem_filter.mp hstep
        exact ⟨record, response, steps, step, hrecord, hwanted, hsteps, hmem,
          of_decide_eq_true hspan, rfl⟩
    · exact absurd hcandidate List.not_mem_nil
  · rintro ⟨record, response, steps, step, hrecord, hwanted, hsteps, hstep, hspan, hcandidate⟩
    refine ⟨(record, candidate.recordIndex), List.mem_zipIdx_iff_getElem?.mpr hrecord, ?_⟩
    unfold eligibleCandidates
    dsimp only
    rw [if_pos hwanted, hsteps, hcandidate]
    exact List.mem_map_of_mem (List.mem_filter.mpr ⟨hstep, decide_eq_true hspan⟩)

/-- A step is before the last one where its index says so. -/
theorem mem_dropLast_iff {record : ValidationRecord}
    {response : PyStr} {steps : List TokenStep} {step : TokenStep}
    (hsteps : splitRolloutSteps detectors record.responseIds tokenizer true =
      .ok (response, steps)) :
    step ∈ steps.dropLast ↔ step ∈ steps ∧ step.index + 1 < steps.length := by
  have hindex {place : Nat} (hplace : steps[place]? = some step) : step.index = place := by
    have hlt := (List.getElem?_eq_some_iff.mp hplace).1
    have h := congrArg (·[place]?) (splitRolloutSteps_within hsteps).indices
    rw [List.getElem?_map, hplace, List.getElem?_range hlt] at h
    exact Option.some.inj h
  constructor
  · intro hstep
    obtain ⟨place, hplace⟩ := List.getElem?_of_mem hstep
    have hlt := (List.getElem?_eq_some_iff.mp hplace).1
    rw [List.length_dropLast] at hlt
    rw [List.getElem?_dropLast, if_pos hlt] at hplace
    rw [hindex hplace]
    exact ⟨List.mem_of_getElem? hplace, by omega⟩
  · rintro ⟨hstep, hlt⟩
    obtain ⟨place, hplace⟩ := List.getElem?_of_mem hstep
    rw [hindex hplace] at hlt
    apply List.mem_of_getElem? (i := place)
    rw [List.getElem?_dropLast, if_pos (by omega), hplace]

/-- The candidate is a step of its record. -/
def StepCandidate.Copies (detectors : Detectors) (tokenizer : Tokenizer)
    (records : List ValidationRecord) (candidate : StepCandidate) : Prop :=
  ∃ record response steps step, records[candidate.recordIndex]? = some record ∧
    splitRolloutSteps detectors record.responseIds tokenizer true = .ok (response, steps) ∧
    step ∈ steps ∧ candidate = stepCandidate record candidate.recordIndex step

theorem eligible_of_mem_offered {records : List ValidationRecord} {candidate : StepCandidate}
    (h : candidate ∈ offeredCandidates detectors tokenizer settings actionTypes records) :
    candidate.Eligible detectors tokenizer records := by
  obtain ⟨record, response, steps, step, hrecord, -, hsteps, hstep, -, hcandidate⟩ :=
    mem_offeredCandidates.mp h
  obtain ⟨hmem, hlt⟩ := (mem_dropLast_iff hsteps).mp hstep
  rw [hcandidate]
  exact ⟨record, hrecord, rfl, actionType_eq_studentAction record, response, steps, hsteps, hlt,
    step, hmem, rfl, rfl, rfl⟩

/-- A series is sampled from the eligible steps that hold a token, and from all of them. -/
theorem mem_seriesCandidates {records : List ValidationRecord} {key : PyStr × ActionType}
    {candidate : StepCandidate} :
    candidate ∈ seriesCandidates detectors tokenizer settings actionTypes records key ↔
      candidate.key = key ∧ key.1 ∈ settings.datasets ∧ key.2 ∈ actionTypes ∧
        candidate.Eligible detectors tokenizer records ∧
        candidate.stepTokenStart < candidate.stepTokenEnd ∧
        candidate.Copies detectors tokenizer records := by
  unfold seriesCandidates
  rw [List.mem_filter, decide_eq_true_eq]
  constructor
  · rintro ⟨hoffered, rfl⟩
    obtain ⟨record, response, steps, step, hrecord, hwanted, hsteps, hstep, hspan, hcandidate⟩ :=
      mem_offeredCandidates.mp hoffered
    have hmem := ((mem_dropLast_iff hsteps).mp hstep).1
    refine ⟨rfl, ?_, ?_, eligible_of_mem_offered hoffered, ?_, record, response, steps, step,
      hrecord, hsteps, hmem, hcandidate⟩
    · rw [hcandidate]
      exact hwanted.1
    · rw [hcandidate]
      exact hwanted.2
    · rw [hcandidate]
      exact hspan
  · rintro ⟨rfl, hdataset, haction, heligible, hspan, record, response, steps, step, hrecord,
      hsteps, hstep, hcandidate⟩
    refine ⟨mem_offeredCandidates.mpr ⟨record, response, steps, step, hrecord, ?_, hsteps, ?_, ?_,
      hcandidate⟩, rfl⟩
    · rw [hcandidate] at hdataset haction
      exact ⟨hdataset, haction⟩
    · obtain ⟨found, hfound, -, -, response', steps', hsteps', hlt, -⟩ := heligible.ofRecord
      obtain rfl := Option.some.inj (hrecord.symm.trans hfound)
      obtain rfl := (Prod.mk.inj (Except.ok.inj (hsteps.symm.trans hsteps'))).2
      rw [hcandidate] at hlt
      exact (mem_dropLast_iff hsteps).mpr ⟨hstep, hlt⟩
    · rw [hcandidate] at hspan
      exact hspan

/-- What is promised of the cases that `records` give. -/
structure SelectsSteps (detectors : Detectors) (tokenizer : Tokenizer) (settings : ErsrSettings)
    (actionTypes : List ActionType) (records : List ValidationRecord) (cases : List ErsrCase) :
    Prop where
  count : ∀ dataset ∈ settings.datasets, ∀ actionType ∈ actionTypes,
    (cases.filter fun c => c.toStepCandidate.key = (dataset, actionType)).length =
      min settings.maxStepsPerDataset
        (seriesCandidates detectors tokenizer settings actionTypes records
          (dataset, actionType)).length
  distinct : (cases.map fun c => c.toStepCandidate.position).Nodup
  eligible : ∀ c ∈ cases, c.toStepCandidate.Eligible detectors tokenizer records
  caseIndex : cases.map ErsrCase.caseIndex = List.range cases.length

/-- The cases of a data set, without what numbers them. -/
def datasetSteps (cases : List ErsrCase) (dataset : PyStr) : List StepCandidate :=
  (cases.map ErsrCase.toStepCandidate).filter fun row => row.dataset = dataset

theorem buildErsrStepCases_eq_ok {records : List ValidationRecord}
    {includeStudentAction includeTeacherReplace : Bool} {cases : List ErsrCase}
    {report : SelectionReport}
    (h : buildErsrStepCases random detectors tokenizer settings records includeStudentAction
      includeTeacherReplace = .ok (cases, report)) :
    cases.map ErsrCase.toStepCandidate = selectedRows random detectors tokenizer settings
      (includedActions includeStudentAction includeTeacherReplace) records := by
  unfold buildErsrStepCases at h
  rw [raiseIf_bind_eq_ok] at h
  obtain ⟨rfl, _⟩ := Prod.mk.inj (Except.ok.inj h.2)
  exact map_toStepCandidate_makeCase settings _

theorem filter_key_selectedRows (hactions : actionTypes.Nodup) (records : List ValidationRecord)
    {key : PyStr × ActionType} (hkey : key ∈ seriesKeys settings actionTypes) :
    (selectedRows random detectors tokenizer settings actionTypes records).filter (fun row =>
        row.key = key) =
      shuffledRows random settings
        (selectCandidates random detectors tokenizer settings actionTypes records) key := by
  have hnodup : (seriesKeys settings actionTypes).Nodup := seriesKeys_nodup hactions
  unfold selectedRows
  generalize seriesKeys settings actionTypes = keys at hkey hnodup ⊢
  have hseries := key_of_mem_shuffledRows random detectors tokenizer settings actionTypes records
  induction keys with
  | nil => exact absurd hkey List.not_mem_nil
  | cons first rest ih =>
    obtain ⟨hfirst, hrest⟩ := List.nodup_cons.mp hnodup
    rw [List.flatMap_cons, List.filter_append]
    by_cases hsame : first = key
    · have hself : (shuffledRows random settings (selectCandidates random detectors tokenizer
          settings actionTypes records) first).filter (fun row => row.key = key) =
          shuffledRows random settings (selectCandidates random detectors tokenizer settings
            actionTypes records) first := by
        apply List.filter_eq_self.mpr
        intro row hrow
        exact decide_eq_true ((hseries first row hrow).trans hsame)
      have hnone : (rest.flatMap (shuffledRows random settings (selectCandidates random detectors
          tokenizer settings actionTypes records))).filter (fun row => row.key = key) = [] := by
        apply List.filter_eq_nil_iff.mpr
        intro row hrow hrowKey
        obtain ⟨other, hother, hrow⟩ := List.mem_flatMap.mp hrow
        apply hfirst
        rw [hsame, ← of_decide_eq_true hrowKey, hseries other row hrow]
        exact hother
      rw [hself, hnone, List.append_nil, hsame]
    · have hnone : (shuffledRows random settings (selectCandidates random detectors tokenizer
          settings actionTypes records) first).filter (fun row => row.key = key) = [] := by
        apply List.filter_eq_nil_iff.mpr
        intro row hrow hrowKey
        exact hsame ((hseries first row hrow).symm.trans (of_decide_eq_true hrowKey))
      rw [hnone, List.nil_append]
      exact ih ((List.mem_cons.mp hkey).resolve_left (Ne.symm hsame)) hrest

/-- **Selection.**  Whatever is drawn, the cases are such steps; and those of a data set are
    selected from its own records. -/
theorem buildErsrStepCases_selects {records : List ValidationRecord}
    {includeStudentAction includeTeacherReplace : Bool} {cases : List ErsrCase}
    {report : SelectionReport}
    (h : buildErsrStepCases random detectors tokenizer settings records includeStudentAction
      includeTeacherReplace = .ok (cases, report)) :
    SelectsSteps detectors tokenizer settings
        (includedActions includeStudentAction includeTeacherReplace) records cases ∧
      ∀ (dataset : PyStr) (cases' : List ErsrCase) (report' : SelectionReport),
        buildErsrStepCases random detectors tokenizer settings
            (records.filter fun record => record.dataset = dataset) includeStudentAction
            includeTeacherReplace = .ok (cases', report') →
          (datasetSteps cases dataset).map (StepCandidate.renumber records) =
            datasetSteps cases' dataset := by
  have hactions := includedActions_nodup includeStudentAction includeTeacherReplace
  have hrows := buildErsrStepCases_eq_ok h
  have hcases := buildErsrStepCases_caseList h
  refine ⟨⟨?_, hcases.positions, ?_, hcases.caseIndex⟩, ?_⟩
  · intro dataset hdataset actionType hactionType
    have hkey : (dataset, actionType) ∈ seriesKeys settings
        (includedActions includeStudentAction includeTeacherReplace) :=
      List.mem_flatMap.mpr ⟨dataset, hdataset, List.mem_map.mpr ⟨actionType, hactionType, rfl⟩⟩
    have hlength := congrArg List.length
      (List.filter_map (f := ErsrCase.toStepCandidate)
        (p := fun row => row.key = (dataset, actionType)) (l := cases))
    rw [List.length_map, hrows, filter_key_selectedRows hactions records hkey,
      length_shuffledRows random settings records] at hlength
    exact hlength.symm
  · intro c hc
    have hrow : c.toStepCandidate ∈ cases.map ErsrCase.toStepCandidate :=
      List.mem_map_of_mem hc
    rw [hrows] at hrow
    apply eligible_of_mem_offered
    exact (rows_subperm random settings hactions
      (selectCandidates_sampled random detectors tokenizer settings _ records)).subset hrow
  · intro dataset cases' report' h'
    unfold datasetSteps
    rw [hrows, buildErsrStepCases_eq_ok h']
    exact selectedRows_independent records dataset

/-- A correct and an incorrect rollout of one question. -/
theorem buildErsrStepCases_selects_two_records : ∃ cases report,
    buildErsrStepCases inOrder cutAtTwo charTokenizer bothActions.settings twoRecords true true =
        .ok (cases, report) ∧
      SelectsSteps cutAtTwo charTokenizer bothActions.settings
        [.studentAction, .teacherReplace] twoRecords cases ∧
      ∀ (dataset : PyStr) (cases' : List ErsrCase) (report' : SelectionReport),
        buildErsrStepCases inOrder cutAtTwo charTokenizer bothActions.settings
            (twoRecords.filter fun record => record.dataset = dataset) true true =
            .ok (cases', report') →
          (datasetSteps cases dataset).map (StepCandidate.renumber twoRecords) =
            datasetSteps cases' dataset := by
  obtain ⟨⟨cases, report⟩, hbuild⟩ : Returns (buildErsrStepCases inOrder cutAtTwo charTokenizer
      bothActions.settings twoRecords true true) := by
    decide +kernel
  exact ⟨cases, report, hbuild, buildErsrStepCases_selects hbuild⟩

end Whole

/-! ### Uniform draws -/

section Uniform

/-- The generator whose `randrange(m)` is the draw at `m - first`. -/
def scriptOf (first : Nat) (draws : List Nat) : Nat → Nat := fun m => draws.getD (m - first) 0

/-- Generators that answer `randrange(m)` from a table, the one of the series `key` from
    `script`. -/
def RandomSource.scripted (random : RandomSource (Nat → Nat)) (seed : Int)
    (key : PyStr × ActionType) (script : Nat → Nat) : RandomSource (Nat → Nat) :=
  { random with
    seeded := Function.update random.seeded (random.datasetSeed seed key.1 key.2) script
    randrange := fun rng m => (rng m, rng) }

/-- A reservoir that is not full takes in what it is offered. -/
theorem Reservoir.offerAll_fill {Rng : Type} {random : RandomSource Rng}
    (candidates : List StepCandidate) (reservoir : Reservoir Rng)
    (h : reservoir.items.length + candidates.length ≤ settings.maxStepsPerDataset) :
    reservoir.offerAll random settings candidates =
      ⟨reservoir.items ++ candidates, reservoir.available + candidates.length, reservoir.rng⟩ := by
  induction candidates generalizing reservoir with
  | nil =>
    rw [List.append_nil]
    rfl
  | cons candidate rest ih =>
    rw [List.length_cons] at h
    have hoffer : reservoir.offer random settings candidate =
        ⟨reservoir.items ++ [candidate], reservoir.available + 1, reservoir.rng⟩ := by
      unfold Reservoir.offer
      dsimp only
      rw [if_pos (by omega)]
    have hrest := ih (reservoir.offer random settings candidate) (by
      rw [hoffer, List.length_append, List.length_singleton]
      omega)
    unfold Reservoir.offerAll at hrest ⊢
    rw [List.foldl_cons, hrest, hoffer, List.length_cons, List.append_assoc,
      List.singleton_append, Nat.add_assoc, Nat.add_comm 1]

/-- A full reservoir reads one draw for each candidate, below the candidates seen. -/
theorem Reservoir.items_offerAll_full {random : RandomSource (Nat → Nat)}
    {key : PyStr × ActionType} {draws : List Nat} (candidates : List StepCandidate)
    (hkey : ∀ c ∈ candidates, c.key = key) (reservoir : Reservoir (Nat → Nat))
    (hfull : reservoir.items.length = settings.maxStepsPerDataset)
    (hseen : settings.maxStepsPerDataset ≤ reservoir.available)
    (hrng : reservoir.rng.getD (scriptOf (settings.maxStepsPerDataset + 1) draws) =
      scriptOf (settings.maxStepsPerDataset + 1) draws) :
    (reservoir.offerAll (random.scripted settings.seed key
        (scriptOf (settings.maxStepsPerDataset + 1) draws)) settings candidates).items =
      Sampling.replaceAll settings.maxStepsPerDataset reservoir.items
        (draws.drop (reservoir.available - settings.maxStepsPerDataset)) candidates := by
  induction candidates generalizing reservoir with
  | nil => rfl
  | cons candidate rest ih =>
    generalize hscripted : random.scripted settings.seed key
      (scriptOf (settings.maxStepsPerDataset + 1) draws) = scripted at ih ⊢
    have hseeded : scripted.seeded (scripted.datasetSeed settings.seed candidate.dataset
        candidate.actionType) = scriptOf (settings.maxStepsPerDataset + 1) draws := by
      rw [← hscripted, ← hkey candidate List.mem_cons_self]
      exact Function.update_self _ _ _
    have hdraw : scriptOf (settings.maxStepsPerDataset + 1) draws (reservoir.available + 1) =
        (draws.drop (reservoir.available - settings.maxStepsPerDataset)).headD 0 := by
      unfold scriptOf
      rw [Nat.add_sub_add_right, List.headD_eq_head?_getD, List.head?_drop,
        List.getD_eq_getElem?_getD]
    have hoffer : reservoir.offer scripted settings candidate =
        ⟨Sampling.offer settings.maxStepsPerDataset
          ((draws.drop (reservoir.available - settings.maxStepsPerDataset)).headD 0)
          reservoir.items candidate, reservoir.available + 1,
          some (scriptOf (settings.maxStepsPerDataset + 1) draws)⟩ := by
      have hnot : ¬ reservoir.items.length < settings.maxStepsPerDataset := by omega
      have hrandrange : scripted.randrange (scriptOf (settings.maxStepsPerDataset + 1) draws)
          (reservoir.available + 1) =
          (scriptOf (settings.maxStepsPerDataset + 1) draws (reservoir.available + 1),
            scriptOf (settings.maxStepsPerDataset + 1) draws) := by
        rw [← hscripted]
        rfl
      simp only [Reservoir.offer, Sampling.offer, if_neg hnot, hseeded, hrng, hrandrange, hdraw]
    have hrest := ih (fun c hc => hkey c (List.mem_cons_of_mem _ hc))
      (reservoir.offer scripted settings candidate)
      (by
        rw [hoffer, Sampling.offer_full hfull, List.length_set]
        exact hfull)
      (by
        rw [hoffer]
        exact Nat.le_succ_of_le hseen)
      (by rw [hoffer, Option.getD_some])
    unfold Reservoir.offerAll at hrest ⊢
    rw [List.foldl_cons, hrest, hoffer]
    dsimp only
    rw [Nat.succ_sub hseen, Sampling.replaceAll, List.tail_drop]

/-- The reservoir of a series after all its steps. -/
theorem items_scripted {random : RandomSource (Nat → Nat)} {key : PyStr × ActionType}
    (draws : List Nat) (candidates : List StepCandidate) (hkey : ∀ c ∈ candidates, c.key = key)
    (hcap : settings.maxStepsPerDataset ≤ candidates.length) :
    (Reservoir.offerAll (random.scripted settings.seed key
        (scriptOf (settings.maxStepsPerDataset + 1) draws)) settings ⟨[], 0, none⟩
        candidates).items =
      Sampling.replaceAll settings.maxStepsPerDataset
        (candidates.take settings.maxStepsPerDataset) draws
        (candidates.drop settings.maxStepsPerDataset) := by
  have htake : (candidates.take settings.maxStepsPerDataset).length =
      settings.maxStepsPerDataset := by
    rw [List.length_take]
    omega
  have hfill : Reservoir.offerAll (random.scripted settings.seed key
      (scriptOf (settings.maxStepsPerDataset + 1) draws)) settings ⟨[], 0, none⟩
      (candidates.take settings.maxStepsPerDataset) =
      ⟨candidates.take settings.maxStepsPerDataset, settings.maxStepsPerDataset, none⟩ := by
    rw [Reservoir.offerAll_fill _ _ (by
      rw [htake]
      exact Nat.le_of_eq (Nat.zero_add _)), htake]
    simp
  conv_lhs => rw [← List.take_append_drop settings.maxStepsPerDataset candidates]
  unfold Reservoir.offerAll at hfill ⊢
  rw [List.foldl_append, hfill]
  have hrest : (Reservoir.offerAll (random.scripted settings.seed key
      (scriptOf (settings.maxStepsPerDataset + 1) draws)) settings
      ⟨candidates.take settings.maxStepsPerDataset, settings.maxStepsPerDataset, none⟩
      (candidates.drop settings.maxStepsPerDataset)).items = _ :=
    Reservoir.items_offerAll_full _ (fun c hc => hkey c (List.mem_of_mem_drop hc)) _ htake
      (Nat.le_refl _) rfl
  rw [Nat.sub_self, List.drop_zero] at hrest
  exact hrest

/-- The steps of the cases that are built. -/
def builtSteps {Rng : Type} (random : RandomSource Rng) (detectors : Detectors)
    (tokenizer : Tokenizer) (settings : ErsrSettings) (records : List ValidationRecord)
    (includeStudentAction includeTeacherReplace : Bool) : List StepCandidate :=
  match buildErsrStepCases random detectors tokenizer settings records includeStudentAction
    includeTeacherReplace with
  | .ok (cases, _) => cases.map ErsrCase.toStepCandidate
  | .error _ => []

theorem mem_builtSteps {Rng : Type} {random : RandomSource Rng} {records : List ValidationRecord}
    {includeStudentAction includeTeacherReplace : Bool} {candidate : StepCandidate}
    (hmem : candidate ∈ offeredCandidates detectors tokenizer settings
      (includedActions includeStudentAction includeTeacherReplace) records) :
    candidate ∈ builtSteps random detectors tokenizer settings records includeStudentAction
        includeTeacherReplace ↔
      candidate ∈ (Reservoir.offerAll random settings ⟨[], 0, none⟩
        (seriesCandidates detectors tokenizer settings
          (includedActions includeStudentAction includeTeacherReplace) records
          candidate.key)).items := by
  have hvalid := valid_of_mem_offered hmem
  have hkey : candidate.key ∈ seriesKeys settings
      (includedActions includeStudentAction includeTeacherReplace) :=
    List.mem_flatMap.mpr ⟨_, hvalid.dataset_mem, List.mem_map.mpr ⟨_, hvalid.action_mem, rfl⟩⟩
  have hrows : builtSteps random detectors tokenizer settings records includeStudentAction
      includeTeacherReplace = selectedRows random detectors tokenizer settings
        (includedActions includeStudentAction includeTeacherReplace) records := by
    unfold builtSteps
    cases hbuild : buildErsrStepCases random detectors tokenizer settings records
      includeStudentAction includeTeacherReplace with
    | ok result => exact buildErsrStepCases_eq_ok hbuild
    | error error =>
      -- an enabled action is offered, so nothing is raised
      have haction := hvalid.action_mem
      unfold buildErsrStepCases at hbuild
      cases includeStudentAction <;> cases includeTeacherReplace <;>
        first | exact absurd haction List.not_mem_nil | cases hbuild
  have hseries : (selectedRows random detectors tokenizer settings
      (includedActions includeStudentAction includeTeacherReplace) records).filter
        (fun row => row.key = candidate.key) =
      shuffledRows random settings (selectCandidates random detectors tokenizer settings
        (includedActions includeStudentAction includeTeacherReplace) records) candidate.key :=
    filter_key_selectedRows (includedActions_nodup includeStudentAction includeTeacherReplace)
      records hkey
  rw [hrows]
  unfold seriesCandidates
  rw [← selectCandidates_reservoirs, ← (shuffledRows_perm _ candidate.key).mem_iff, ← hseries,
    List.mem_filter]
  simp

variable (detectors tokenizer settings) in
/-- **Uniformity.**  Over all draws that the generator of a series can make, each of its `n`
    steps is selected in the share of the outcomes that the cap is of `n`. -/
theorem builtSteps_uniform (random : RandomSource (Nat → Nat)) (records : List ValidationRecord)
    (includeStudentAction includeTeacherReplace : Bool) (key : PyStr × ActionType)
    (hcap : settings.maxStepsPerDataset ≤ (seriesCandidates detectors tokenizer settings
      (includedActions includeStudentAction includeTeacherReplace) records key).length) :
    ∀ candidate ∈ seriesCandidates detectors tokenizer settings
        (includedActions includeStudentAction includeTeacherReplace) records key,
      let steps := (seriesCandidates detectors tokenizer settings
        (includedActions includeStudentAction includeTeacherReplace) records key).length
      let outcomes := Sampling.outcomes (settings.maxStepsPerDataset + 1)
        (steps - settings.maxStepsPerDataset)
      (outcomes.countP fun draws => candidate ∈ builtSteps
          (random.scripted settings.seed key (scriptOf (settings.maxStepsPerDataset + 1) draws))
          detectors tokenizer settings records includeStudentAction includeTeacherReplace) *
          steps =
        settings.maxStepsPerDataset * outcomes.length := by
  intro candidate hcandidate
  obtain ⟨hmem, hkey⟩ := List.mem_filter.mp hcandidate
  obtain rfl := of_decide_eq_true hkey
  have hkeys : ∀ c ∈ seriesCandidates detectors tokenizer settings
      (includedActions includeStudentAction includeTeacherReplace) records candidate.key,
      c.key = candidate.key := fun c hc => of_decide_eq_true (List.mem_filter.mp hc).2
  have hnodup : (seriesCandidates detectors tokenizer settings
      (includedActions includeStudentAction includeTeacherReplace) records
        candidate.key).Nodup :=
    ((offeredCandidates_nodup detectors tokenizer settings _ records).of_map).filter _
  have huniform := Sampling.held_uniform hcap hnodup hcandidate
  intro steps outcomes
  rw [← huniform]
  congr 1
  unfold Sampling.held
  rw [List.length_drop]
  apply List.countP_congr
  intro draws _
  rw [decide_eq_true_eq, decide_eq_true_eq, mem_builtSteps hmem,
    items_scripted draws _ hkeys hcap]

/-- Every generator reads zeros. -/
def zeroDraws : RandomSource (Nat → Nat) where
  datasetSeed := fun _ _ _ => 0
  seeded := fun _ _ => 0
  randrange := fun rng m => (rng m, rng)
  shuffled := fun _ n => List.range n
  shuffled_perm := fun _ _ => List.Perm.refl _

/-- One place for the two steps of two correct rollouts. -/
theorem builtSteps_uniform_two_rollouts :
    let settings := { bothActions.settings with
      maxStepsPerDataset := 1
      maxSteps_pos := Nat.one_pos }
    let records := twoRecords.take 1 ++ twoRecords.take 1
    let series := seriesCandidates cutAtTwo charTokenizer settings (includedActions true false)
      records ("AMC".toList, .studentAction)
    ∀ candidate ∈ series,
      let outcomes := Sampling.outcomes 2 (series.length - 1)
      (outcomes.countP fun draws => candidate ∈ builtSteps
          (zeroDraws.scripted settings.seed ("AMC".toList, .studentAction) (scriptOf 2 draws))
          cutAtTwo charTokenizer settings records true false) * series.length =
        1 * outcomes.length := by
  intro settings records series
  exact builtSteps_uniform cutAtTwo charTokenizer settings zeroDraws records true false _
    (by decide +kernel)

end Uniform

end R2opl
