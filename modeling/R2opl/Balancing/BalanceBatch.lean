import Mathlib.Algebra.GCDMonoid.Nat
import Mathlib.Algebra.BigOperators.Ring.Finset
import R2opl.Balancing.GlobalObjective
import R2opl.Balancing.PaddingTemplate

/-!
# Balancing a global batch

`_balance_batch` of `verl/trainer/main_ppo_sync.py` pads the batch of a step with synthetic
trajectories, reorders it, and has it dealt out in equal parts.  Each rank gets one of the balanced
partitions, and the padding does not change what the group optimises.
-/

namespace R2opl

open Checked Collective Differencing KarmarkarKarp

variable {β γ : Type}

/-- A trajectory in the transfer queue, with `seq_len` of its tag. -/
structure Trajectory (β : Type) where
  row : β
  seqLen : Nat

def Trajectory.workload (trajectory : Trajectory β) : Int := calculateWorkload trajectory.seqLen

/-- `_get_required_batch_multiple`, with the global mini-batches of the critic and of the actor
    where these are updated. -/
def requiredBatchMultiple (dpSize : Nat) (critic actor : Option Nat) : Nat :=
  let multiple := match critic with
    | none => dpSize
    | some miniBatch => Nat.lcm dpSize miniBatch
  match actor with
    | none => multiple
    | some miniBatch => Nat.lcm multiple miniBatch

/-- `upsample_batch_to_divisible_size`; `padding` is the sample that
    `construct_minimal_padding_template` makes of the first trajectory. -/
def upsampleBatchToDivisibleSize (padding : Trajectory β → β) (batch : List (Trajectory β))
    (multiple : Nat) : Except PyError (List (Trajectory β)) := do
  raiseIf (multiple = 0) ⟨.zeroDivisionError, "integer modulo by zero"⟩
  let remainder := batch.length % multiple
  if remainder = 0 then return batch
  match batch.head? with
  | none => .error ⟨.indexError, "list index out of range"⟩
  | some source =>
      return batch ++ List.replicate (multiple - remainder)
        { row := padding source, seqLen := syntheticPaddingSeqLen }

/-- `_balance_batch`: what the controller hands to the dispatch. -/
def balanceBatch (padding : Trajectory β → β) (dpSize multiple : Nat)
    (batch : List (Trajectory β)) : Except PyError (List (Trajectory β)) := do
  let batch ← upsampleBatchToDivisibleSize padding batch multiple
  let partitions ← getSeqlenBalancedPartitions (batch.map Trajectory.workload) dpSize true
  return indexSelect batch partitions.flatten

theorem dvd_requiredBatchMultiple (dpSize : Nat) (critic actor : Option Nat) :
    dpSize ∣ requiredBatchMultiple dpSize critic actor := by
  unfold requiredBatchMultiple
  cases critic with
  | none =>
    cases actor with
    | none => exact dvd_refl dpSize
    | some miniBatch => exact Nat.dvd_lcm_left dpSize miniBatch
  | some critic =>
    cases actor with
    | none => exact Nat.dvd_lcm_left dpSize critic
    | some miniBatch => exact (Nat.dvd_lcm_left dpSize critic).trans (Nat.dvd_lcm_left _ miniBatch)

/-! ### Padding -/

/-- The batch grows to the next multiple, by fewer samples than that. -/
theorem upsampleBatch_returns (padding : Trajectory β → β) {batch : List (Trajectory β)}
    {multiple : Nat} (hmultiple : 0 < multiple) (hne : batch ≠ []) :
    ∃ source ∈ batch, ∃ pad < multiple, multiple ∣ batch.length + pad ∧
      upsampleBatchToDivisibleSize padding batch multiple =
        .ok (batch ++ List.replicate pad
          { row := padding source, seqLen := syntheticPaddingSeqLen }) := by
  obtain ⟨source, rest, rfl⟩ := List.exists_cons_of_ne_nil hne
  have hmod := Nat.mod_lt (source :: rest).length hmultiple
  unfold upsampleBatchToDivisibleSize
  rw [raiseIf_of_not hmultiple.ne', ok_bind]
  by_cases hremainder : (source :: rest).length % multiple = 0
  · refine ⟨source, List.mem_cons_self, 0, hmultiple, ?_, ?_⟩
    · exact Nat.dvd_of_mod_eq_zero hremainder
    · rw [if_pos hremainder, List.replicate_zero, List.append_nil]
      rfl
  · refine ⟨source, List.mem_cons_self, multiple - (source :: rest).length % multiple, by omega,
      ?_, ?_⟩
    · have hdiv := Nat.div_add_mod (source :: rest).length multiple
      refine ⟨(source :: rest).length / multiple + 1, ?_⟩
      rw [Nat.mul_add, Nat.mul_one]
      omega
    · rw [if_neg hremainder]
      rfl

/-! ### Dealing out -/

/-- Parts of one size are found again in their concatenation. -/
theorem chunks_flatten {α : Type} {size : Nat} {parts : List (List α)}
    (h : ∀ part ∈ parts, part.length = size) :
    ((List.range parts.length).map fun i => (parts.flatten.drop (i * size)).take size) = parts := by
  induction parts with
  | nil => rfl
  | cons part parts ih =>
    rw [List.forall_mem_cons] at h
    rw [List.length_cons, List.range_succ_eq_map, List.map_cons, List.map_map]
    congr 1
    · rw [Nat.zero_mul, List.drop_zero, List.flatten_cons, List.take_left' h.1]
    · conv_rhs => rw [← ih h.2]
      apply List.map_congr_left
      intro i _
      rw [Function.comp_apply, List.flatten_cons, Nat.succ_mul, Nat.add_comm, ← h.1,
        ← List.drop_drop, List.drop_left]

theorem chunkTensordict_flatten {α : Type} (size : Nat) (parts : List (List α))
    (hne : parts ≠ []) (h : ∀ part ∈ parts, part.length = size) :
    chunkTensordict parts.flatten parts.length = .ok parts := by
  have hpos := List.length_pos_iff.mpr hne
  have hlength : parts.flatten.length = size * parts.length := by
    rw [List.length_flatten, List.map_congr_left h, List.map_const', List.sum_replicate, mul_comm]
    rfl
  unfold chunkTensordict
  rw [raiseIf_of_not hpos.ne', raiseIf_of_not (by rw [hlength, Nat.mul_mod_left]; simp)]
  dsimp only
  rw [hlength, Nat.mul_div_cancel _ hpos, chunks_flatten h]
  rfl

/-- The parts of a balanced batch, one a rank. -/
structure Dealt (dpSize : Nat) (balanced : List (Trajectory β))
    (parts : List (List (Trajectory β))) : Prop where
  length_eq : parts.length = dpSize
  flatten : parts.flatten = balanced
  equal : ∀ part ∈ parts, part.length * dpSize = balanced.length
  within : ∀ bound, (∀ trajectory ∈ balanced, trajectory.workload ≤ bound) →
    Within bound (parts.map fun part => (part.map Trajectory.workload).sum)

theorem indexSelect_flatten_parts {α : Type} (rows : List α) (idx : List (List Nat)) :
    indexSelect rows idx.flatten = (idx.map (indexSelect rows)).flatten := by
  have h := indexSelect_flatten rows idx id
  simp only [List.map_id] at h
  exact h.symm

/-- What a partition sums to is the workload of the rows it selects. -/
theorem partitionSum_indexSelect {α : Type} {rows : List α} (f : α → Int) {partition : List Nat}
    (h : ∀ i ∈ partition, i < rows.length) :
    partitionSum (rows.map f) partition = ((indexSelect rows partition).map f).sum := by
  unfold partitionSum
  have hselected := congrArg (List.map (Option.map f)) (indexSelect_eq_map h)
  rw [List.map_map, List.map_map] at hselected
  have hvalues : (indexSelect rows partition).map f =
      partition.map fun i => (rows.map f).getD i 0 := by
    apply List.map_injective_iff.mpr (Option.some_injective Int)
    rw [List.map_map, List.map_map]
    refine hselected.trans ?_
    apply List.map_congr_left
    intro i hi
    simp [List.getD, List.getElem?_eq_getElem (h i hi)]
  rw [hvalues]

theorem balanced_dealt {batch : List (Trajectory β)} {dpSize : Nat} {partitions : List (List Nat)}
    (hdp : 0 < dpSize)
    (h : BalancedPartitions (batch.map Trajectory.workload) dpSize true partitions) :
    chunkTensordict (indexSelect batch partitions.flatten) dpSize =
        .ok (partitions.map (indexSelect batch)) ∧
      Dealt dpSize (indexSelect batch partitions.flatten) (partitions.map (indexSelect batch)) := by
  have hperm := h.perm
  rw [List.length_map] at hperm
  have hbelow : ∀ partition ∈ partitions, ∀ i ∈ partition, i < batch.length := by
    intro partition hpartition i hi
    exact List.mem_range.mp (hperm.mem_iff.mp (List.mem_flatten_of_mem hpartition hi))
  have hsize : (indexSelect batch partitions.flatten).length = batch.length := by
    rw [indexSelect_length fun i hi => List.mem_range.mp (hperm.mem_iff.mp hi), hperm.length_eq,
      List.length_range]
  have hequal : ∀ part ∈ partitions.map (indexSelect batch),
      part.length * dpSize = batch.length := by
    intro part hpart
    obtain ⟨partition, hpartition, rfl⟩ := List.mem_map.mp hpart
    rw [indexSelect_length (hbelow partition hpartition), h.equal rfl partition hpartition,
      List.length_map]
  have hlength : (partitions.map (indexSelect batch)).length = dpSize := by
    rw [List.length_map, h.length_eq]
  have hchunk := chunkTensordict_flatten (batch.length / dpSize)
    (partitions.map (indexSelect batch)) (List.length_pos_iff.mp (hlength ▸ hdp))
    fun part hpart => by
      rw [← hequal part hpart, Nat.mul_div_cancel _ hdp]
  rw [← indexSelect_flatten_parts, hlength] at hchunk
  refine ⟨hchunk, hlength, (indexSelect_flatten_parts batch partitions).symm,
    fun part hpart => (hequal part hpart).trans hsize.symm, fun bound hbound => ?_⟩
  have hsums : (partitions.map (indexSelect batch)).map
      (fun part => (part.map Trajectory.workload).sum) =
        partitions.map (partitionSum (batch.map Trajectory.workload)) := by
    rw [List.map_map]
    apply List.map_congr_left
    intro partition hpartition
    exact (partitionSum_indexSelect _ (hbelow partition hpartition)).symm
  have hrows : (indexSelect batch partitions.flatten).Perm batch := by
    rw [indexSelect_flatten_parts]
    exact indexSelect_perm hperm
  rw [hsums]
  apply h.within bound
  intro v hv
  obtain ⟨trajectory, htrajectory, rfl⟩ := List.mem_map.mp hv
  exact hbound trajectory (hrows.mem_iff.mpr htrajectory)

/-- A batch is padded to the multiple and dealt out in parts of one size and nearly one workload;
    nothing of it is lost or doubled. -/
theorem balanceBatch_dealt (padding : Trajectory β → β) {dpSize multiple : Nat}
    {batch : List (Trajectory β)} (hdp : 0 < dpSize) (hdvd : dpSize ∣ multiple)
    (hmultiple : 0 < multiple) (hne : batch ≠ []) :
    ∃ source ∈ batch, ∃ pad < multiple, ∃ balanced parts,
      balanceBatch padding dpSize multiple batch = .ok balanced ∧
      multiple ∣ balanced.length ∧
      balanced.Perm (batch ++ List.replicate pad
        { row := padding source, seqLen := syntheticPaddingSeqLen }) ∧
      chunkTensordict balanced dpSize = .ok parts ∧ Dealt dpSize balanced parts := by
  obtain ⟨source, hsource, pad, hpad, htotal, hreturn⟩ :=
    upsampleBatch_returns padding hmultiple hne
  refine ⟨source, hsource, pad, hpad, ?_⟩
  set upsampled := batch ++ List.replicate pad
    { row := padding source, seqLen := syntheticPaddingSeqLen } with hupsampled
  have hlength : upsampled.length = batch.length + pad := by
    rw [hupsampled, List.length_append, List.length_replicate]
  have hdivides : dpSize ∣ (upsampled.map Trajectory.workload).length := by
    rw [List.length_map, hlength]
    exact hdvd.trans htotal
  have hsize : dpSize ≤ (upsampled.map Trajectory.workload).length := by
    apply Nat.le_of_dvd _ hdivides
    rw [List.length_map, hlength]
    exact Nat.add_pos_left (List.length_pos_iff.mpr hne) pad
  have hnonneg : ∀ v ∈ upsampled.map Trajectory.workload, 0 ≤ v := by
    intro v hv
    obtain ⟨trajectory, -, rfl⟩ := List.mem_map.mp hv
    exact calculateWorkload_nonneg _
  obtain ⟨partitions, hpartitions, hbalanced⟩ :=
    getSeqlenBalancedPartitions_final true hnonneg hdp hsize fun _ => hdivides
  obtain ⟨hchunk, hdealt⟩ := balanced_dealt hdp hbalanced
  have hperm : (indexSelect upsampled partitions.flatten).Perm upsampled := by
    rw [indexSelect_flatten_parts]
    apply indexSelect_perm
    have h := hbalanced.perm
    rwa [List.length_map] at h
  refine ⟨_, _, ?_, ?_, hperm, hchunk, hdealt⟩
  · unfold balanceBatch
    rw [hreturn, ok_bind, hpartitions]
    rfl
  · rw [hperm.length_eq, hlength]
    exact htotal

theorem requiredBatchMultiple_pos {dpSize : Nat} {critic actor : Option Nat} (hdp : 0 < dpSize)
    (hcritic : ∀ miniBatch ∈ critic, 0 < miniBatch) (hactor : ∀ miniBatch ∈ actor, 0 < miniBatch) :
    0 < requiredBatchMultiple dpSize critic actor := by
  have hfirst : 0 < match critic with
      | none => dpSize
      | some miniBatch => Nat.lcm dpSize miniBatch := by
    cases critic with
    | none => exact hdp
    | some miniBatch => exact Nat.lcm_pos hdp (hcritic miniBatch rfl)
  unfold requiredBatchMultiple
  cases actor with
  | none => exact hfirst
  | some miniBatch => exact Nat.lcm_pos hfirst (hactor miniBatch rfl)

theorem dvd_requiredBatchMultiple_critic (dpSize : Nat) {critic actor : Option Nat} :
    ∀ miniBatch ∈ critic, miniBatch ∣ requiredBatchMultiple dpSize critic actor := by
  rintro miniBatch rfl
  have hfirst : miniBatch ∣ Nat.lcm dpSize miniBatch := Nat.dvd_lcm_right dpSize miniBatch
  unfold requiredBatchMultiple
  cases actor with
  | none => exact hfirst
  | some actor => exact hfirst.trans (Nat.dvd_lcm_left _ actor)

theorem dvd_requiredBatchMultiple_actor (dpSize : Nat) {critic actor : Option Nat} :
    ∀ miniBatch ∈ actor, miniBatch ∣ requiredBatchMultiple dpSize critic actor := by
  rintro miniBatch rfl
  exact Nat.dvd_lcm_right _ miniBatch

/-- The batch that is dealt out also splits into the mini-batches of the critic and the actor. -/
theorem balanceBatch_required (padding : Trajectory β → β) (dpSize : Nat)
    (critic actor : Option Nat) (batch : List (Trajectory β)) (hdp : 0 < dpSize)
    (hcritic : ∀ miniBatch ∈ critic, 0 < miniBatch) (hactor : ∀ miniBatch ∈ actor, 0 < miniBatch)
    (hne : batch ≠ []) :
    ∃ source ∈ batch, ∃ pad < requiredBatchMultiple dpSize critic actor, ∃ balanced parts,
      balanceBatch padding dpSize (requiredBatchMultiple dpSize critic actor) batch = .ok balanced ∧
      balanced.Perm (batch ++ List.replicate pad
        { row := padding source, seqLen := syntheticPaddingSeqLen }) ∧
      chunkTensordict balanced dpSize = .ok parts ∧ Dealt dpSize balanced parts ∧
      requiredBatchMultiple dpSize critic actor ∣ balanced.length ∧
      (∀ miniBatch ∈ critic, miniBatch ∣ balanced.length) ∧
      ∀ miniBatch ∈ actor, miniBatch ∣ balanced.length := by
  obtain ⟨source, hsource, pad, hpad, balanced, parts, hreturn, hdvd, hperm, hchunk, hdealt⟩ :=
    balanceBatch_dealt padding hdp (dvd_requiredBatchMultiple dpSize critic actor)
      (requiredBatchMultiple_pos hdp hcritic hactor) hne
  refine ⟨source, hsource, pad, hpad, balanced, parts, hreturn, hperm, hchunk, hdealt, hdvd, ?_, ?_⟩
  · exact fun miniBatch h => (dvd_requiredBatchMultiple_critic dpSize miniBatch h).trans hdvd
  · exact fun miniBatch h => (dvd_requiredBatchMultiple_actor dpSize miniBatch h).trans hdvd

/-- Three trajectories for two ranks and mini-batches of four. -/
theorem balanceBatch_required_three :
    ∃ source ∈ ([⟨'a', 700⟩, ⟨'b', 20⟩, ⟨'c', 300⟩] : List (Trajectory Char)), ∃ pad < 4,
      ∃ balanced parts,
      balanceBatch (fun _ => 'p') 2 4 [⟨'a', 700⟩, ⟨'b', 20⟩, ⟨'c', 300⟩] = .ok balanced ∧
      balanced.Perm ([⟨'a', 700⟩, ⟨'b', 20⟩, ⟨'c', 300⟩] ++
        List.replicate pad { row := (fun _ => 'p') source, seqLen := syntheticPaddingSeqLen }) ∧
      chunkTensordict balanced 2 = .ok parts ∧ Dealt 2 balanced parts ∧ 4 ∣ balanced.length ∧
      (∀ miniBatch ∈ (none : Option Nat), miniBatch ∣ balanced.length) ∧
      ∀ miniBatch ∈ some 4, miniBatch ∣ balanced.length :=
  balanceBatch_required (fun _ => 'p') 2 none (some 4) _ (by decide) (by simp) (by simp) (by simp)

/-! ### What the padding does to the objective -/

section Objective

variable {K : Type} [Field K] [LinearOrder K]

theorem LossRow.validSum_masked {row : LossRow K} (h : ∀ m ∈ row.mask, m = 0) :
    row.validSum = 0 := by
  unfold LossRow.validSum TorchFunctional.maskedSum
  apply List.sum_eq_zero
  intro x hx
  rw [← List.map_uncurry_zip_eq_zipWith, List.map_map] at hx
  obtain ⟨⟨loss, m⟩, hentry, rfl⟩ := List.mem_map.mp hx
  obtain rfl := h m (List.of_mem_zip hentry).2
  simp

/-- A row whose mask is zero adds nothing, whatever its losses are. -/
theorem rowLoss_masked (lossAggMode : PyStr) {row : LossRow K} (h : ∀ m ∈ row.mask, m = 0) :
    rowLoss lossAggMode row = 0 := by
  have hseq : row.seqMask = 0 := if_neg (List.sum_eq_zero h).not_gt
  unfold rowLoss
  rw [LossRow.validSum_masked h, hseq]
  simp only [ne_eq, not_true_eq_false, if_false, Flt.zero_eq, Flt.fin_mul, mul_zero, ite_self]

/-- The tokens that the losses of a batch count. -/
def trajectoryTokens (lossTokens : β → Nat) (trajectories : List (Trajectory β)) : Nat :=
  (trajectories.map fun trajectory => lossTokens trajectory.row).sum

/-- The ranks hold the rows of their parts. -/
theorem ranks_perm {dpSize : Nat} {balanced : List (Trajectory β)}
    {parts : List (List (Trajectory β))} (hdealt : Dealt dpSize balanced parts)
    {rows : Fin dpSize → List β}
    (hrows : ∀ r, rows r = (parts.getD r []).map Trajectory.row) :
    (Finset.univ.toList.flatMap rows).Perm (balanced.map Trajectory.row) := by
  have hranks : (Finset.univ : Finset (Fin dpSize)).toList.Perm (List.finRange dpSize) :=
    (List.perm_ext_iff_of_nodup (Finset.nodup_toList _) (List.nodup_finRange _)).mpr (by simp)
  have hparts : (List.finRange dpSize).map (fun r : Fin dpSize => parts.getD r []) = parts := by
    obtain rfl := hdealt.length_eq
    apply List.ext_getElem (by simp)
    intro i hi hi'
    simp
  refine (hranks.flatMap_right rows).trans (List.Perm.of_eq ?_)
  rw [← hdealt.flatten, List.map_flatten, ← congrArg (List.map (List.map Trajectory.row)) hparts,
    List.map_map, List.flatMap_def]
  congr 1
  exact List.map_congr_left fun r _ => hrows r

variable [IsStrictOrderedRing K]

/-- A step of the group on a balanced batch optimises the loss of the batch before it was padded:
    the padding, the partitions and the micro-batches leave it as it is. -/
theorem balanceBatch_objective (options : PrepareOptions) (lossAggMode : PyStr)
    (info : GlobalBatchInfo K) (lossTokens : β → Nat) (width : List β → Nat)
    (lossRow : β → LossRow K) (fields : List (PyStr × (β → γ))) (padding : Trajectory β → β)
    (dpSize multiple : Nat) [NeZero dpSize] (trajectories : List (Trajectory β))
    (original : LossMatrix K)
    (hdvd : dpSize ∣ multiple) (hmultiple : 0 < multiple) (hne : trajectories ≠ [])
    (horiginal : original.rows = trajectories.map fun trajectory => lossRow trajectory.row)
    (htokens : ∀ source ∈ trajectories, lossTokens (padding source) = 0)
    (hmask : ∀ source ∈ trajectories, ∀ m ∈ (lossRow (padding source)).mask, m = 0)
    (hmode : lossAggMode ∈ lossAggModes)
    (hinfo : ({ info with batchNumTokens := some (trajectoryTokens lossTokens trajectories : K) } :
      GlobalBatchInfo K).Normalizes lossAggMode)
    (hsize : info.dpSize = dpSize)
    (hdynamic : options.useDynamicBsz = true) (hnodup : (Dict.keys fields).Nodup) :
    ∃ balanced parts, balanceBatch padding dpSize multiple trajectories = .ok balanced ∧
      chunkTensordict balanced dpSize = .ok parts ∧
      ∀ batch : Fin dpSize → Batch β,
        (∀ r, (batch r).rows = (parts.getD r []).map Trajectory.row) →
        (∀ tokens, options.maxTokenLenPerGpu = some tokens →
          ∀ r, Rearrangeable (options.microBatchOptions tokens) (batch r).lengths) →
        Agree (fun _ => ¬ options.Fits batch)
          (fun r => forwardBackwardBatch options lossAggMode info lossTokens width lossRow fields
            (batch r)) fun outputs =>
          aggLoss lossAggMode { info with
              dpSize := 1
              batchNumTokens := some (trajectoryTokens lossTokens trajectories : K) } original =
            .ok ((∑ r, (outputs r).loss.sum) / .fin (dpSize : K)) := by
  obtain ⟨source, hsource, pad, -, balanced, parts, hreturn, -, hperm, hchunk, hdealt⟩ :=
    balanceBatch_dealt padding (NeZero.pos dpSize) hdvd hmultiple hne
  refine ⟨balanced, parts, hreturn, hchunk, fun batch hbatch hadmissible => ?_⟩
  have hrows : (Finset.univ.toList.flatMap fun r => (batch r).rows).Perm
      (trajectories.map Trajectory.row ++ List.replicate pad (padding source)) := by
    refine (ranks_perm hdealt hbatch).trans ((hperm.map Trajectory.row).trans ?_)
    rw [List.map_append, List.map_replicate]
  have hcount : globalTokens lossTokens batch = trajectoryTokens lossTokens trajectories := by
    have hsum := (hrows.map lossTokens).sum_eq
    rw [List.map_append, List.sum_append, List.map_replicate, htokens source hsource,
      List.sum_replicate, nsmul_zero, add_zero, List.map_map, List.flatMap_def, sum_map_flatten,
      List.map_map, Finset.sum_map_toList] at hsum
    unfold globalTokens trajectoryTokens
    rw [← Nat.cast_sum]
    exact congrArg Nat.cast hsum
  have hcard : Fintype.card (Fin dpSize) = dpSize := Fintype.card_fin dpSize
  have hobjective := forwardBackwardBatch_objective options lossAggMode info lossTokens width
    lossRow fields batch
    { width := 0, rows := Finset.univ.toList.flatMap fun r => (batch r).rows.map lossRow }
    hmode (by rwa [hcount, Int.cast_natCast]) (by rwa [hcard]) (List.Perm.refl _) hdynamic hnodup
    hadmissible
  rw [hcount, Int.cast_natCast, hcard] at hobjective
  obtain ⟨c, -, hscaled⟩ := aggLoss_scaled hmode hinfo
  have htotal : (LossMatrix.mk 0 (Finset.univ.toList.flatMap fun r =>
      (batch r).rows.map lossRow)).total lossAggMode = original.total lossAggMode := by
    have hsum := ((hrows.map lossRow).map (rowLoss lossAggMode)).sum_eq
    rw [List.map_append, List.map_append, List.sum_append, List.map_replicate, List.map_replicate,
      rowLoss_masked lossAggMode (hmask source hsource), List.sum_replicate, nsmul_zero, add_zero,
      List.map_flatMap, List.map_map (f := Trajectory.row)] at hsum
    unfold LossMatrix.total
    rw [horiginal]
    exact hsum
  refine hobjective.mono (fun _ h => h) fun outputs houtputs => ?_
  rw [hscaled 1 one_pos, ← htotal, ← hscaled 1 one_pos]
  exact houtputs

/-- A sample of two tokens, with the log-probabilities of a teacher. -/
def twoTokenSample : Sample ℚ :=
  [("response_mask".toList, .tensor (.vec 2 fun _ => 1)),
    ("loss_mask".toList, .tensor (.vec 2 fun _ => 1)),
    ("teacher_logprobs".toList, .tensor (.mat 7 1 fun _ _ => -1))]

def twoTokenLoss (sample : Sample ℚ) : LossRow ℚ where
  losses := [.fin 3, .fin 5]
  mask := sampleMask "response_mask".toList sample

/-- The padding of the sample. -/
def twoTokenPadding (trajectory : Trajectory (Sample ℚ)) : Sample ℚ :=
  ((constructMinimalPaddingTemplate trajectory.row [] 2).toOption.getD ([], [])).1

theorem twoTokenPadding_mask {name : PyStr}
    (hname : name ∈ ["response_mask".toList, "loss_mask".toList]) (seqLen : Nat) :
    ∀ m ∈ sampleMask name (twoTokenPadding ⟨twoTokenSample, seqLen⟩), m = 0 := by
  obtain ⟨⟨template, tag⟩, htemplate⟩ :
      Returns (constructMinimalPaddingTemplate twoTokenSample [] 2) := by
    rw [constructMinimalPaddingTemplate_returns]
    intro name _ value hvalue
    have hmem := Dict.mem_of_get? hvalue
    simp only [twoTokenSample, List.mem_cons, List.not_mem_nil, or_false, Prod.mk.injEq] at hmem
    rcases hmem with ⟨-, rfl⟩ | ⟨-, rfl⟩ | ⟨-, rfl⟩ <;> trivial
  unfold twoTokenPadding
  rw [htemplate]
  exact constructMinimalPaddingTemplate_mask htemplate hname

/-- One trajectory and its padding on two ranks. -/
theorem balanceBatch_objective_pair :
    ∃ balanced parts,
      balanceBatch twoTokenPadding 2 2 [⟨twoTokenSample, 7⟩] = .ok balanced ∧
      chunkTensordict balanced 2 = .ok parts ∧
      ∀ batch : Fin 2 → Batch (Sample ℚ),
        (∀ r, (batch r).rows = (parts.getD r []).map Trajectory.row) →
        (∀ tokens, some 256 = some tokens → ∀ r, Rearrangeable (PrepareOptions.microBatchOptions
          { maxTokenLenPerGpu := some 256, microBatchSizePerGpu := none } tokens)
            (batch r).lengths) →
        Agree (fun _ => ¬ PrepareOptions.Fits
            { maxTokenLenPerGpu := some 256, microBatchSizePerGpu := none } batch)
          (fun r => forwardBackwardBatch
            { maxTokenLenPerGpu := some 256, microBatchSizePerGpu := none } "token-mean".toList
            { dpSize := 2 } (fun sample => (sampleMask "loss_mask".toList sample).sum) List.length
            twoTokenLoss [("loss_mask".toList, sampleMask "loss_mask".toList)] (batch r))
            fun outputs =>
          aggLoss "token-mean".toList {
              dpSize := 1
              batchNumTokens := some (trajectoryTokens
                (fun sample => (sampleMask "loss_mask".toList sample).sum)
                [⟨twoTokenSample, 7⟩] : ℚ) }
            { width := 2, rows := [{ losses := [.fin 3, .fin 5], mask := [1, 1] }] } =
            .ok ((∑ r, (outputs r).loss.sum) / .fin ((2 : Nat) : ℚ)) := by
  have htokens : trajectoryTokens (fun sample => (sampleMask "loss_mask".toList sample).sum)
      [⟨twoTokenSample, 7⟩] = 2 := by decide
  obtain ⟨balanced, parts, hreturn, hchunk, hagree⟩ := balanceBatch_objective
    { maxTokenLenPerGpu := some 256, microBatchSizePerGpu := none } "token-mean".toList
    { dpSize := 2 } (fun sample => (sampleMask "loss_mask".toList sample).sum) List.length
    twoTokenLoss [("loss_mask".toList, sampleMask "loss_mask".toList)] twoTokenPadding 2 2
    [⟨twoTokenSample, 7⟩]
    { width := 2, rows := [{ losses := [.fin 3, .fin 5], mask := [1, 1] }] } (dvd_refl 2) two_pos
    (by simp) rfl
    (by
      intro source hsource
      rw [List.mem_singleton.mp hsource]
      exact List.sum_eq_zero
        (twoTokenPadding_mask (List.mem_cons_of_mem _ List.mem_cons_self) 7))
    (by
      intro source hsource
      rw [List.mem_singleton.mp hsource]
      exact twoTokenPadding_mask List.mem_cons_self 7)
    (by decide)
    { tokens := fun _ => ⟨_, rfl, by rw [htokens]; norm_num⟩
      sequences := fun h => absurd h (by decide)
      scale := fun h => absurd h (by decide) }
    rfl rfl (by simp [Dict.keys])
  exact ⟨balanced, parts, hreturn, hchunk, hagree⟩

end Objective

end R2opl
