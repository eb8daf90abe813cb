import R2opl.Balancing.RearrangeMicroBatches

/-!
# Ranks agree on their micro-batches

Whatever the batches of the ranks, none of them waits forever in `rearrange_micro_batches`: all of
them make as many micro-batches, each within the limit of tokens, or all of them raise one error.
-/

namespace R2opl

open Checked Collective Differencing KarmarkarKarp

variable {β : Type}

/-- The checks of the arguments pass, and there is a sample. -/
structure Rearrangeable (options : MicroBatchOptions) (lengths : SeqLengths) : Prop where
  returns : Returns (checkBatch options lengths)
  ne_nil : lengths.effective ≠ []

theorem Rearrangeable.size_pos {options : MicroBatchOptions} {lengths : SeqLengths}
    (h : Rearrangeable options lengths) : 0 < options.forceGroupSize := by
  obtain ⟨_, hreturn⟩ := h.returns
  unfold checkBatch at hreturn
  simp only [bind_eq_ok, raiseIf_eq_ok] at hreturn
  obtain ⟨-, -, -, -, -, hpos, -⟩ := hreturn
  exact Nat.pos_of_ne_zero hpos

theorem Rearrangeable.dvd {options : MicroBatchOptions} {lengths : SeqLengths}
    (h : Rearrangeable options lengths) : options.forceGroupSize ∣ lengths.effective.length := by
  obtain ⟨_, hreturn⟩ := h.returns
  unfold checkBatch at hreturn
  simp only [bind_eq_ok, raiseIf_eq_ok, not_not] at hreturn
  obtain ⟨-, -, -, -, -, -, hmod⟩ := hreturn
  exact Nat.dvd_of_mod_eq_zero hmod

theorem groupWorkloads_nonneg {options : MicroBatchOptions} {lengths : SeqLengths}
    (h : Rearrangeable options lengths) : ∀ v ∈ groupWorkloads options lengths, 0 ≤ v := by
  rw [groupWorkloads_eq h.size_pos]
  intro v hv
  obtain ⟨group, -, rfl⟩ := List.mem_map.mp hv
  exact groupWorkload_nonneg _ group

theorem groupWorkloads_length {options : MicroBatchOptions} {lengths : SeqLengths}
    (h : Rearrangeable options lengths) :
    (groupWorkloads options lengths).length = numGroups options lengths := by
  rw [groupWorkloads_eq h.size_pos, List.length_map, forcedGroups_length]
  rfl

theorem numGroups_pos {options : MicroBatchOptions} {lengths : SeqLengths}
    (h : Rearrangeable options lengths) : 0 < numGroups options lengths := by
  have hpos := List.length_pos_iff.mpr h.ne_nil
  exact Nat.div_pos (Nat.le_of_dvd hpos h.dvd) h.size_pos

/-! ### The micro-batches of a rank -/

/-- `count` micro-batches of the samples of a rank. -/
structure Rearranged (options : MicroBatchOptions) (batch : Batch β) (count : Nat)
    (result : List (List β) × List (List Nat)) : Prop where
  length_eq : result.2.length = count
  rows : result.1 = result.2.map (indexSelect batch.rows)
  perm : result.2.flatten.Perm (List.range batch.rows.length)
  ne_nil : ∀ indices ∈ result.2, indices ≠ []
  limit : ∀ indices ∈ result.2,
    (indices.map fun i => batch.lengths.effective.getD i 0).sum ≤ options.maxTokenLen
  together : ∀ indices ∈ result.2, ∀ i < batch.rows.length, ∀ j < batch.rows.length,
    i / options.forceGroupSize = j / options.forceGroupSize → (i ∈ indices ↔ j ∈ indices)
  peak : options.useDynamicBszBalance = true → ∃ rising falling, result.2 = rising ++ falling ∧
    rising.Pairwise (fun p q =>
      groupWorkload batch.lengths.effective p ≤ groupWorkload batch.lengths.effective q) ∧
    falling.Pairwise (fun p q =>
      groupWorkload batch.lengths.effective q ≤ groupWorkload batch.lengths.effective p)

/-- What the function makes of the partitions that it has found. -/
def finishMicroBatches (options : MicroBatchOptions) (batch : Batch β)
    (partitions : List (List Nat)) : List (List β) × List (List Nat) :=
  let idx := sampleIdx options.forceGroupSize partitions
  let idx := if options.useDynamicBszBalance then
    orderMicroBatches (orderKey options.forceGroupSize (groupWorkloads options batch.lengths)) idx
    else idx
  (idx.map (indexSelect batch.rows), idx)

section Finish

variable {options : MicroBatchOptions} {batch : Batch β} {count : Nat}
  {partitions : List (List Nat)}

/-- The partitions are of indices of groups. -/
theorem group_lt (hadmissible : Rearrangeable options batch.lengths)
    (h : BalancedPartitions (groupWorkloads options batch.lengths) count false partitions) :
    ∀ partition ∈ partitions, ∀ g ∈ partition,
      g < batch.lengths.effective.length / options.forceGroupSize := by
  intro partition hpartition g hg
  have hmem := h.perm.mem_iff.mp (List.mem_flatten_of_mem hpartition hg)
  rwa [List.mem_range, groupWorkloads_length hadmissible] at hmem

/-- The key of the sort is the workload of the samples. -/
theorem orderKey_eq (hadmissible : Rearrangeable options batch.lengths)
    (hlt : ∀ partition ∈ partitions, ∀ g ∈ partition,
      g < batch.lengths.effective.length / options.forceGroupSize)
    {indices : List Nat} (h : indices ∈ sampleIdx options.forceGroupSize partitions) :
    (ofLex (orderKey options.forceGroupSize (groupWorkloads options batch.lengths) indices)).1 =
      groupWorkload batch.lengths.effective indices := by
  have hpos := hadmissible.size_pos
  rw [sampleIdx_eq hpos hlt, List.mem_map] at h
  obtain ⟨partition, hpartition, rfl⟩ := h
  have hbelow := hlt partition hpartition
  have hgroups : ∀ g ∈ partition,
      g < (forcedGroups batch.lengths.effective.length options.forceGroupSize).length := by
    simpa using hbelow
  have hsum := groupWorkload_sampleIndices batch.lengths.effective _ hgroups
  have hsingle : sampleIdx options.forceGroupSize [partition] =
      [partition].map (sampleIndices
        (forcedGroups batch.lengths.effective.length options.forceGroupSize)) :=
    sampleIdx_eq hpos (by simpa using hbelow)
  rw [hsum, ← groupWorkloads_eq hpos]
  unfold sampleIdx at hsingle
  unfold orderKey partitionSum
  split
  · next hlarge =>
    rw [if_pos hlarge, List.map_singleton, List.map_singleton, List.singleton_inj] at hsingle
    rw [← hsingle, ofLex_toLex, everyNth_flatMap hpos, List.map_map]
    dsimp only
    congr 1
    apply List.map_congr_left
    intro g _
    rw [Function.comp_apply, Nat.mul_div_cancel _ hpos]
  · next hsmall =>
    rw [if_neg hsmall, List.map_singleton, List.singleton_inj] at hsingle
    rw [← hsingle, ofLex_toLex]

/-- The samples of a partition are within the limit where its groups are. -/
theorem tokens_le (hadmissible : Rearrangeable options batch.lengths)
    (hlt : ∀ partition ∈ partitions, ∀ g ∈ partition,
      g < batch.lengths.effective.length / options.forceGroupSize)
    (hwithin : withinLimit options.maxTokenLen (groupTokenLens options batch.lengths) partitions)
    {partition : List Nat} (hpartition : partition ∈ partitions) :
    ((sampleIndices (forcedGroups batch.lengths.effective.length options.forceGroupSize)
      partition).map fun i => batch.lengths.effective.getD i 0).sum ≤ options.maxTokenLen := by
  rw [tokens_sampleIndices (by simpa using hlt partition hpartition),
    ← groupTokenLens_eq hadmissible.size_pos]
  unfold withinLimit at hwithin
  simpa using List.all_eq_true.mp hwithin partition hpartition

theorem finishMicroBatches_spec (hadmissible : Rearrangeable options batch.lengths)
    (h : BalancedPartitions (groupWorkloads options batch.lengths) count false partitions)
    (hwithin : withinLimit options.maxTokenLen (groupTokenLens options batch.lengths) partitions) :
    Rearranged options batch count (finishMicroBatches options batch partitions) := by
  have hpos := hadmissible.size_pos
  have hlt := group_lt hadmissible h
  have hidx := sampleIdx_eq hpos hlt
  have hperm : (finishMicroBatches options batch partitions).2.Perm
      (sampleIdx options.forceGroupSize partitions) := by
    unfold finishMicroBatches
    dsimp only
    split
    · exact orderMicroBatches_perm _ _
    · rfl
  have hmem {indices : List Nat}
      (hindices : indices ∈ (finishMicroBatches options batch partitions).2) :
      ∃ partition ∈ partitions, sampleIndices
        (forcedGroups batch.lengths.effective.length options.forceGroupSize) partition =
          indices := by
    rw [hperm.mem_iff, hidx] at hindices
    exact List.mem_map.mp hindices
  constructor
  · rw [hperm.length_eq, hidx, List.length_map, h.length_eq]
  · rfl
  · rw [batch.rows_length, ← forcedGroups_flatten hadmissible.dvd]
    apply hperm.flatten.trans
    rw [hidx]
    apply sampleIndices_perm
    rw [forcedGroups_length]
    have hbalanced := h.perm
    rwa [groupWorkloads_length hadmissible] at hbalanced
  · intro indices hindices hnil
    obtain ⟨partition, hpartition, rfl⟩ := hmem hindices
    obtain ⟨g, hg⟩ := List.exists_mem_of_ne_nil _ (h.ne_nil partition hpartition)
    have hfirst : g * options.forceGroupSize ∈ sampleIndices
        (forcedGroups batch.lengths.effective.length options.forceGroupSize) partition := by
      rw [mem_sampleIndices_iff hpos (hlt partition hpartition), Nat.mul_div_cancel _ hpos]
      exact hg
    rw [hnil] at hfirst
    cases hfirst
  · intro indices hindices
    obtain ⟨partition, hpartition, rfl⟩ := hmem hindices
    exact tokens_le hadmissible hlt hwithin hpartition
  · intro indices hindices i _ j _ hij
    obtain ⟨partition, hpartition, rfl⟩ := hmem hindices
    rw [mem_sampleIndices_iff hpos (hlt partition hpartition),
      mem_sampleIndices_iff hpos (hlt partition hpartition), hij]
  · intro hbalance
    have horder : (finishMicroBatches options batch partitions).2 = orderMicroBatches
        (orderKey options.forceGroupSize (groupWorkloads options batch.lengths))
        (sampleIdx options.forceGroupSize partitions) := by
      simp [finishMicroBatches, hbalance]
    obtain ⟨rising, falling, heq, hrising, hfalling⟩ := orderMicroBatches_peak
      (orderKey options.forceGroupSize (groupWorkloads options batch.lengths))
      (sampleIdx options.forceGroupSize partitions)
    rw [← horder] at heq
    have hkey {indices : List Nat} (hindices : indices ∈ rising ++ falling) :
        (ofLex (orderKey options.forceGroupSize (groupWorkloads options batch.lengths) indices)).1 =
          groupWorkload batch.lengths.effective indices := by
      rw [← heq, hperm.mem_iff] at hindices
      exact orderKey_eq hadmissible hlt hindices
    refine ⟨rising, falling, heq, ?_, ?_⟩
    · apply hrising.imp_of_mem
      intro p q hp hq hle
      rw [← hkey (List.mem_append_left _ hp), ← hkey (List.mem_append_left _ hq)]
      exact Prod.Lex.monotone_fst _ _ hle
    · apply hfalling.imp_of_mem
      intro p q hp hq hle
      rw [← hkey (List.mem_append_right _ hp), ← hkey (List.mem_append_right _ hq)]
      exact Prod.Lex.monotone_fst _ _ hle

end Finish

/-! ### The ranks of a group -/

theorem length_eq_one_of_flatten {partitions : List (List Nat)}
    (hne : ∀ partition ∈ partitions, partition ≠ [])
    (hlength : partitions.flatten.length ≤ partitions.length) :
    ∀ partition ∈ partitions, partition.length = 1 := by
  induction partitions with
  | nil => simp
  | cons partition partitions ih =>
    rw [List.forall_mem_cons] at hne ⊢
    rw [List.flatten_cons, List.length_append, List.length_cons] at hlength
    have hpos := List.length_pos_iff.mpr hne.1
    have hrest : partitions.length ≤ partitions.flatten.length := by
      rw [List.length_flatten]
      have hsum := List.card_nsmul_le_sum (partitions.map List.length) 1 (by
        intro n hn
        obtain ⟨p, hp, rfl⟩ := List.mem_map.mp hn
        exact List.length_pos_iff.mpr (hne.2 p hp))
      simpa using hsum
    exact ⟨by omega, ih hne.2 (by omega)⟩

/-- As many partitions as groups: each is within the limit if each group is. -/
theorem withinLimit_of_singletons {maxTokenLen : Nat} {workloads : List Int} {tokenLens : List Nat}
    {partitions : List (List Nat)} (hlength : tokenLens.length = workloads.length)
    (h : BalancedPartitions workloads workloads.length false partitions)
    (htokens : ∀ tokens ∈ tokenLens, tokens ≤ maxTokenLen) :
    withinLimit maxTokenLen tokenLens partitions := by
  unfold withinLimit
  rw [List.all_eq_true]
  intro partition hpartition
  have hone := length_eq_one_of_flatten h.ne_nil
    (by rw [h.perm.length_eq, List.length_range, h.length_eq]) partition hpartition
  obtain ⟨g, rfl⟩ := List.length_eq_one_iff.mp hone
  have hg : g < tokenLens.length := by
    have hmem := List.mem_flatten_of_mem hpartition (List.mem_singleton.mpr rfl)
    rw [hlength]
    exact List.mem_range.mp (h.perm.mem_iff.mp hmem)
  simpa [List.getD_eq_getElem?_getD, List.getElem?_eq_getElem hg] using
    htokens _ (List.getElem_mem hg)

section Group

variable {ι : Type} [Fintype ι] [Nonempty ι]

/-- A decision that every rank has to agree to. -/
theorem reduce_min_within {within : ι → Bool} :
    reduce .min (fun r => ![if within r then (1 : Int) else 0]) 0 ≠ 0 ↔
      ∀ r, within r = true := by
  have hover : reduce .min (fun r => ![if within r then (1 : Int) else 0]) 0 =
      ReduceOp.min.over fun r => if within r then (1 : Int) else 0 := rfl
  rw [hover]
  constructor
  · intro hne r
    by_contra hr
    apply hne
    have hle := over_min_le (fun r => if within r then (1 : Int) else 0) r
    obtain ⟨r', hr'⟩ := exists_over_min_eq fun r => if within r then (1 : Int) else 0
    simp only [hr, if_false] at hle
    rw [hr'] at hle ⊢
    split at hle
    · omega
    · next hfalse => simp [hfalse]
  · intro hall
    obtain ⟨r', hr'⟩ := exists_over_min_eq fun r => if within r then (1 : Int) else 0
    rw [hr']
    simp [hall r']

/-- A rank that asks for no partition gets an error, whatever its items. -/
theorem getSeqlenBalancedPartitions_zero (workloads : List Int) :
    getSeqlenBalancedPartitions workloads 0 false =
      .error ⟨.indexError, "list index out of range"⟩ := by
  unfold getSeqlenBalancedPartitions karmarkarKarp startItems
  cases sortedItems workloads with
  | nil => rfl
  | cons item rest => simp [raiseIf_of_not, List.mapM_cons, State.new]

/-- Where no rank has more groups than another, and each group is within the limit, a number of
    micro-batches is found at the latest when each group has one of its own. -/
structure Searchable (maxTokenLen m step count : Nat) (workloads : ι → List Int)
    (tokenLens : ι → List Nat) : Prop where
  pos : 0 < count
  le : count ≤ m
  step_eq : step = 1
  workloads_length : ∀ r, (workloads r).length = m
  tokenLens_length : ∀ r, (tokenLens r).length = m
  limit : ∀ r, ∀ tokens ∈ tokenLens r, tokens ≤ maxTokenLen

/-- The ranks search in step: they stop with partitions of one number, each within the limit, or
    with one error. -/
theorem searchPartitions_agree {maxTokenLen m step : Nat} {hstep : 0 < step}
    {workloads : ι → List Int} {tokenLens : ι → List Nat}
    (hnonneg : ∀ r, ∀ v ∈ workloads r, 0 ≤ v) (hm : ∀ r, m ≤ (workloads r).length)
    (count : Nat) :
    Agree (fun _ => ¬ Searchable maxTokenLen m step count workloads tokenLens)
      (fun r => searchPartitions true maxTokenLen (workloads r) (tokenLens r) m step hstep count)
      fun partitions => ∃ found, count ≤ found ∧ step ∣ found - count ∧ 0 < found ∧
        ∀ r, BalancedPartitions (workloads r) found false (partitions r) ∧
          withinLimit maxTokenLen (tokenLens r) (partitions r) := by
  induction hleft : m + 1 - count using Nat.strongRecOn generalizing count with
  | _ left ih =>
  have hunfold : (fun r => searchPartitions true maxTokenLen (workloads r) (tokenLens r) m
      step hstep count) = fun r => _ := funext fun r => searchPartitions.eq_1 ..
  rw [hunfold]
  by_cases hmany : m < count
  · simp only [hmany, dif_pos]
    exact .throw fun hsearchable => hsearchable.le.not_gt hmany
  · simp only [hmany, dif_neg, not_false_iff]
    obtain rfl | hpos := Nat.eq_zero_or_pos count
    · -- no rank has a token, and all of them ask for no partition
      apply Agree.bind (P := fun _ => False)
      · exact Agree.ofExcept_error (fun r => getSeqlenBalancedPartitions_zero (workloads r))
          fun hsearchable => Nat.not_lt_zero 0 hsearchable.pos
      · exact fun _ hfalse => hfalse.elim
    · have hreturns (r : ι) := getSeqlenBalancedPartitions_final false (hnonneg r)
        hpos (by have := hm r; omega) (by simp)
      choose partitions hpartitions hbalanced using hreturns
      apply Agree.bind (Agree.ofExcept _ hpartitions rfl)
      rintro _ rfl
      apply Agree.bind (Agree.allReduce rfl)
      rintro _ rfl
      by_cases hall : ∀ r, withinLimit maxTokenLen (tokenLens r) (partitions r) = true
      · simp only [reduce_min_within.mpr hall, ne_eq, not_false_iff, if_true]
        apply Agree.pure
        exact ⟨count, le_refl _, by simp, hpos, fun r => ⟨hbalanced r, hall r⟩⟩
      · have hagain := not_not.mp (mt reduce_min_within.mp hall)
        simp only [hagain, ne_eq, not_true, if_false]
        apply (ih (m + 1 - (count + step)) (by omega) (count + step) rfl).mono
        · intro _ hnext hsearchable
          refine hnext { hsearchable with pos := by omega, le := ?_ }
          -- with a micro-batch for each group every rank was within the limit
          have hlast : count ≠ m := by
            rintro rfl
            refine hall fun r => ?_
            have hworkloads := hsearchable.workloads_length r
            have hsingle : BalancedPartitions (workloads r) (workloads r).length false
                (partitions r) := by
              rw [hworkloads]
              exact hbalanced r
            exact withinLimit_of_singletons
              ((hsearchable.tokenLens_length r).trans hworkloads.symm) hsingle
              (hsearchable.limit r)
          have hle := hsearchable.le
          rw [hsearchable.step_eq]
          omega
        · rintro found ⟨n, hle, hdvd, hn, hfound⟩
          refine ⟨n, by omega, ?_, hn, hfound⟩
          have hsplit : n - count = n - (count + step) + step := by omega
          rw [hsplit]
          exact dvd_add hdvd (dvd_refl step)

theorem localCount_returns {options : MicroBatchOptions} {lengths : SeqLengths}
    (h : Rearrangeable options lengths) (hmax : 0 < options.maxTokenLen) :
    ∃ count, localCount options lengths = .ok count ∧
      ∀ least, options.minNumMicroBatch = some least → least ≤ count := by
  obtain ⟨_, hreturn⟩ := h.returns
  unfold localCount
  rw [hreturn, ceildiv_eq hmax]
  refine ⟨_, rfl, ?_⟩
  intro least hleast
  rw [hleast]
  exact le_max_left _ _

/-- Without a token allowed no rank comes to a reduction. -/
theorem localCount_zero {options : MicroBatchOptions} {lengths : SeqLengths}
    (h : Rearrangeable options lengths) (hmax : options.maxTokenLen = 0) :
    localCount options lengths =
      .error ⟨.zeroDivisionError, "integer division or modulo by zero"⟩ := by
  obtain ⟨_, hreturn⟩ := h.returns
  unfold localCount
  rw [hreturn, hmax]
  rfl

theorem localCount_bounds {options : MicroBatchOptions} {lengths : SeqLengths} {count : Nat}
    (h : Rearrangeable options lengths) (hmax : 0 < options.maxTokenLen)
    (hcount : localCount options lengths = .ok count) :
    (0 < count ↔ 0 < lengths.effective.sum ∨
      ∃ least, options.minNumMicroBatch = some least ∧ 0 < least) ∧
    (count ≤ numGroups options lengths ↔
      ∀ least, options.minNumMicroBatch = some least → least ≤ numGroups options lengths) := by
  obtain ⟨_, hreturn⟩ := h.returns
  have hneeded := ceildiv_pos (a := lengths.effective.sum) hmax
  have hgroups := numGroups_pos h
  unfold localCount at hcount
  rw [hreturn, ceildiv_eq hmax] at hcount
  cases hleast : options.minNumMicroBatch with
  | none =>
    rw [hleast] at hcount
    obtain rfl := Except.ok.inj hcount
    simp only [lt_min_iff, hneeded, reduceCtorEq, false_and, exists_false, or_false, false_implies,
      implies_true, iff_true]
    exact ⟨and_iff_right hgroups, min_le_left _ _⟩
  | some least =>
    rw [hleast] at hcount
    obtain rfl := Except.ok.inj hcount
    simp only [lt_max_iff, lt_min_iff, hneeded, max_le_iff, Option.some.injEq, forall_eq',
      exists_eq_left', min_le_left, and_true]
    tauto

theorem maxOf_returns {values : List Nat} (hne : values ≠ []) : ∃ largest,
    maxOf values = .ok largest ∧ largest ∈ values ∧ ∀ v ∈ values, v ≤ largest := by
  unfold maxOf
  cases hmax : values.max? with
  | none => exact absurd (List.max?_eq_none_iff.mp hmax) hne
  | some largest => exact ⟨largest, rfl, List.max?_eq_some_iff.mp hmax⟩

theorem groupTokenLens_ne_nil {options : MicroBatchOptions} {lengths : SeqLengths}
    (h : Rearrangeable options lengths) : groupTokenLens options lengths ≠ [] := by
  rw [groupTokenLens_eq h.size_pos, ← List.length_pos_iff, List.length_map, forcedGroups_length]
  exact numGroups_pos h

/-- A multiple of the divisor stays one in steps of it. -/
theorem dvd_of_step {options : MicroBatchOptions} {start count found divisor : Nat}
    (hrounded : roundedCount options start = .ok count) (hle : count ≤ found)
    (hstep : options.step ∣ found - count) (hdivisor : options.numBatchesDividedBy = some divisor) :
    divisor ∣ found := by
  have hcount := (dvd_of_roundedCount hrounded).2 divisor hdivisor
  have hpos : divisor ≠ 0 := by
    rintro rfl
    simp [roundedCount, roundupDivisible, hdivisor] at hrounded
  have hdvd : divisor ∣ found - count := by
    obtain ⟨d, rfl⟩ := Nat.exists_eq_succ_of_ne_zero hpos
    simpa [MicroBatchOptions.step, hdivisor] using hstep
  have hsum := dvd_add hdvd hcount
  rwa [Nat.sub_add_cancel hle] at hsum

/-- Where the ranks find their micro-batches: they hold as many groups the one as the other, each
    within the limit. -/
structure Fits (options : MicroBatchOptions) (batch : ι → Batch β) : Prop where
  max_pos : 0 < options.maxTokenLen
  undivided : options.numBatchesDividedBy = none
  equal : ∀ r r', numGroups options (batch r).lengths = numGroups options (batch r').lengths
  some_count : ∃ r, 0 < (batch r).lengths.effective.sum ∨
    ∃ least, options.minNumMicroBatch = some least ∧ 0 < least
  few : ∀ least, options.minNumMicroBatch = some least →
    ∀ r, least ≤ numGroups options (batch r).lengths
  limit : ∀ r, ∀ tokens ∈ groupTokenLens options (batch r).lengths, tokens ≤ options.maxTokenLen

theorem Fits.groups_eq {options : MicroBatchOptions} {batch : ι → Batch β}
    (h : Fits options batch) (longest : ι → Nat) (r : ι) :
    (-reduce .max (fun r =>
      ![(longest r : Int), -numGroups options (batch r).lengths]) 1).toNat =
      numGroups options (batch r).lengths := by
  have hover : reduce .max (fun r =>
      ![(longest r : Int), -numGroups options (batch r).lengths]) 1 =
      ReduceOp.max.over fun r => -(numGroups options (batch r).lengths : Int) := rfl
  obtain ⟨r', hr'⟩ := exists_over_max_eq fun r => -(numGroups options (batch r).lengths : Int)
  rw [hover, hr', h.equal r' r]
  omega

/-- The number that the ranks agree on is positive, and leaves a group for each micro-batch. -/
theorem Fits.searchable {options : MicroBatchOptions} {batch : ι → Batch β}
    (h : Fits options batch) (hadmissible : ∀ r, Rearrangeable options (batch r).lengths)
    {counts : ι → Nat} (hcounts : ∀ r, localCount options (batch r).lengths = .ok (counts r))
    {count : Nat}
    (hcount : roundedCount options (reduce .max (fun r => ![(counts r : Int)]) 0).toNat = .ok count)
    (longest : ι → Nat) :
    Searchable options.maxTokenLen (-reduce .max (fun r =>
      ![(longest r : Int), -numGroups options (batch r).lengths]) 1).toNat options.step count
      (fun r => groupWorkloads options (batch r).lengths)
      fun r => groupTokenLens options (batch r).lengths := by
  have hbounds (r : ι) := localCount_bounds (hadmissible r) h.max_pos (hcounts r)
  have hover : reduce .max (fun r => ![(counts r : Int)]) 0 =
      ReduceOp.max.over fun r => (counts r : Int) := rfl
  rw [roundedCount, h.undivided, hover] at hcount
  obtain rfl := Except.ok.inj hcount
  constructor
  · obtain ⟨r, hr⟩ := h.some_count
    have hpos := (hbounds r).1.mpr hr
    have hle := le_over_max (fun r => (counts r : Int)) r
    omega
  · obtain ⟨r, hr⟩ := exists_over_max_eq fun r => (counts r : Int)
    rw [hr, h.groups_eq longest r, Int.toNat_natCast]
    exact (hbounds r).2.mpr fun least hleast => h.few least hleast r
  · simp [MicroBatchOptions.step, h.undivided]
  · intro r
    rw [groupWorkloads_length (hadmissible r), h.groups_eq longest r]
  · intro r
    rw [groupTokenLens_eq (hadmissible r).size_pos, List.length_map, forcedGroups_length,
      h.groups_eq longest r]
    rfl
  · exact h.limit

/-- The ranks of a group end up with one number of micro-batches, or they all stop with one error;
    they do not stop where their batches fit. -/
theorem rearrangeMicroBatches_agree (options : MicroBatchOptions) (batch : ι → Batch β)
    (hadmissible : ∀ r, Rearrangeable options (batch r).lengths) :
    Agree (fun _ => ¬ Fits options batch)
      (fun r => rearrangeMicroBatches true options (batch r)) fun results =>
      ∃ count, (∀ least, options.minNumMicroBatch = some least → least ≤ count) ∧
        (∀ divisor, options.numBatchesDividedBy = some divisor → divisor ∣ count) ∧
        ∀ r, Rearranged options (batch r) count (results r) := by
  unfold rearrangeMicroBatches
  obtain hmax | hmax := Nat.eq_zero_or_pos options.maxTokenLen
  · apply Agree.bind (P := fun _ => False)
    · exact Agree.ofExcept_error (fun r => localCount_zero (hadmissible r) hmax)
        fun hfits => hfits.max_pos.ne' hmax
    · exact fun _ hfalse => hfalse.elim
  choose counts hcounts hleast using fun r => localCount_returns (hadmissible r) hmax
  apply Agree.bind (Agree.ofExcept _ hcounts rfl)
  rintro _ rfl
  apply Agree.bind (Agree.allReduce rfl)
  rintro _ rfl
  apply Agree.bind (Agree.ofExcept_const (fun count hcount => ⟨count, rfl, hcount⟩) ?_)
    (P := fun values => ∃ count, values = (fun _ => count) ∧ roundedCount options _ = .ok count)
  rintro _ ⟨count, rfl, hcount⟩
  choose longest hlongest hmem _ using
    fun r => maxOf_returns (groupTokenLens_ne_nil (hadmissible r))
  apply Agree.bind (Agree.ofExcept _ hlongest rfl)
  rintro _ rfl
  apply Agree.bind (Agree.allReduce rfl)
  rintro _ rfl
  apply Agree.bind (Agree.ofExcept_const (fun _ _ => trivial) ?_) (P := fun _ => True)
  intro _ _
  have hm (r : ι) : (-reduce .max (fun r =>
      ![(longest r : Int), -numGroups options (batch r).lengths]) 1).toNat ≤
      (groupWorkloads options (batch r).lengths).length := by
    have hle : -(numGroups options (batch r).lengths : Int) ≤ reduce .max (fun r =>
        ![(longest r : Int), -numGroups options (batch r).lengths]) 1 :=
      le_over_max (fun r => -(numGroups options (batch r).lengths : Int)) r
    rw [groupWorkloads_length (hadmissible r)]
    omega
  apply Agree.bind ((searchPartitions_agree
    (fun r => groupWorkloads_nonneg (hadmissible r)) hm count).mono (fun _ hsearch hfits =>
      hsearch (hfits.searchable hadmissible hcounts hcount longest)) fun _ h => h)
  rintro partitions ⟨found, hle, hstep, -, hfound⟩
  apply Agree.pure
  refine ⟨found, ?_, fun divisor => dvd_of_step hcount hle hstep, fun r => ?_⟩
  · intro least hminimum
    have hlocal := hleast (Classical.arbitrary ι) least hminimum
    have hreduced := le_over_max (fun r => (counts r : Int)) (Classical.arbitrary ι)
    have hrounded := (dvd_of_roundedCount hcount).1
    have hagreed : reduce .max (fun r => ![(counts r : Int)]) 0 =
        ReduceOp.max.over fun r => (counts r : Int) := rfl
    omega
  · exact finishMicroBatches_spec (hadmissible r) (hfound r).1 (hfound r).2
  · -- a group is too long
    intro e herror hfits
    obtain ⟨r, hr⟩ := exists_over_max_eq fun r => (longest r : Int)
    have hover : reduce .max (fun r =>
        ![(longest r : Int), -numGroups options (batch r).lengths]) 0 = longest r := hr
    have hlimit := hfits.limit r _ (hmem r)
    rw [hover, raiseIf_of_not (by omega)] at herror
    cases herror
  · intro e herror hfits
    rw [roundedCount, hfits.undivided] at herror
    cases herror

/-- No rank of a group ever waits for a reduction that another does not come to. -/
theorem rearrangeMicroBatches_group (options : MicroBatchOptions) (batch : ι → Batch β)
    (hadmissible : ∀ r, Rearrangeable options (batch r).lengths) :
    (Agree (fun _ => ¬ Fits options batch)
      (fun r => rearrangeMicroBatches true options (batch r)) fun results =>
      ∃ count, (∀ least, options.minNumMicroBatch = some least → least ≤ count) ∧
        (∀ divisor, options.numBatchesDividedBy = some divisor → divisor ∣ count) ∧
        ∀ r, Rearranged options (batch r) count (results r)) ∧
      ∀ reached, Relation.ReflTransGen Round
        (fun r => (rearrangeMicroBatches true options (batch r)).run) reached →
          ¬ Hangs reached := by
  have hagree := rearrangeMicroBatches_agree options batch hadmissible
  exact ⟨hagree, fun _ hreached => hagree.not_hangs hreached⟩

/-- The batch of two rows that both ranks of the examples hold. -/
def twoRows : Batch Char where
  lengths := .nested [3, 4]
  rows := ['a', 'b']
  rows_length := rfl

theorem rearrangeMicroBatches_group_pair :
    (Agree (fun _ => ¬ Fits { maxTokenLen := 5 } fun _ : Fin 2 => twoRows)
      (fun _ : Fin 2 => rearrangeMicroBatches true { maxTokenLen := 5 } twoRows) fun results =>
      ∃ count, (∀ least, (none : Option Nat) = some least → least ≤ count) ∧
        (∀ divisor, (none : Option Nat) = some divisor → divisor ∣ count) ∧
        ∀ r, Rearranged { maxTokenLen := 5 } twoRows count (results r)) ∧
      ∀ reached, Relation.ReflTransGen Round
        (fun _ : Fin 2 => (rearrangeMicroBatches true { maxTokenLen := 5 } twoRows).run) reached →
          ¬ Hangs reached :=
  rearrangeMicroBatches_group { maxTokenLen := 5 } (fun _ => twoRows)
    fun _ => { returns := ⟨(), rfl⟩, ne_nil := by decide }

end Group

/-! ### A rank of its own -/

theorem searchPartitions_alone {maxTokenLen : Nat} {workloads : List Int} {tokenLens : List Nat}
    (hnonneg : ∀ v ∈ workloads, 0 ≤ v) (hlength : tokenLens.length = workloads.length)
    (htokens : ∀ tokens ∈ tokenLens, tokens ≤ maxTokenLen) {count : Nat} (hpos : 0 < count)
    (hcount : count ≤ workloads.length) (hstep : 0 < 1) :
    ∃ partitions found, (searchPartitions false maxTokenLen workloads tokenLens workloads.length 1
        hstep count).run = .done (.ok partitions) ∧ count ≤ found ∧
      BalancedPartitions workloads found false partitions ∧
      withinLimit maxTokenLen tokenLens partitions := by
  induction hleft : workloads.length - count using Nat.strongRecOn generalizing count with
  | _ left ih =>
  obtain ⟨partitions, hpartitions, hbalanced⟩ := getSeqlenBalancedPartitions_final
    false hnonneg hpos hcount (by simp)
  rw [searchPartitions.eq_1, dif_neg (by omega)]
  simp only [ofExcept_bind_eq_done, hpartitions, allReduceIf_false, Except.ok.injEq,
    exists_eq_left', pure_bind_run]
  cases hwithin : withinLimit maxTokenLen tokenLens partitions with
  | true => exact ⟨partitions, count, rfl, le_refl _, hbalanced, hwithin⟩
  | false =>
    have hlast : count ≠ workloads.length := by
      rintro rfl
      rw [withinLimit_of_singletons hlength hbalanced htokens] at hwithin
      cases hwithin
    obtain ⟨partitions', found, hrun, hle, hfound⟩ := ih (workloads.length - (count + 1))
      (by omega) (Nat.succ_pos count) (by omega) rfl
    exact ⟨partitions', found, hrun, by omega, hfound⟩

theorem searchPartitions_requires {maxTokenLen m step count : Nat} {workloads : List Int}
    {tokenLens : List Nat} {hstep : 0 < step} {partitions : List (List Nat)}
    (h : (searchPartitions false maxTokenLen workloads tokenLens m step hstep count).run =
      .done (.ok partitions)) : 0 < count ∧ count ≤ m := by
  rw [searchPartitions.eq_1] at h
  split at h
  · cases h
  · next hle =>
    rw [ofExcept_bind_eq_done] at h
    obtain ⟨found, hfound, -⟩ := h
    obtain ⟨hpos, -, -⟩ := getSeqlenBalancedPartitions_requires ⟨found, hfound⟩
    exact ⟨hpos, by omega⟩

end R2opl
