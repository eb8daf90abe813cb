import Mathlib.Data.Fin.VecNotation
import R2opl.Balancing.GroupPartitions
import R2opl.Lib.Collective

/-!
# Micro-batches of bounded length

`rearrange_micro_batches` of `verl/utils/seqlen_balancing.py` cuts the batch of a rank into
micro-batches of at most `max_token_len` tokens.  The ranks of a data-parallel group agree on their
number: they reduce over the group before they raise, and after every attempt.
-/

namespace R2opl

open Checked Collective Differencing KarmarkarKarp

variable {β : Type}

/-! ### Batches -/

/-- Where the function finds the lengths: in the offsets of nested `input_ids`, or in the rows of
    the attention mask. -/
inductive SeqLengths where
  | nested (lengths : List Nat)
  | padded (width : Nat) (attentionMask : List (List Nat))

def SeqLengths.effective : SeqLengths → List Nat
  | .nested lengths => lengths
  | .padded _ attentionMask => attentionMask.map List.sum

/-- `max` of a Python sequence, with the message of Python 3.12. -/
def maxOf (values : List Nat) : Except PyError Nat :=
  match values.max? with
  | none => .error ⟨.valueError, "max() iterable argument is empty"⟩
  | some largest => .ok largest

def SeqLengths.maxSeqLen : SeqLengths → Except PyError Nat
  | .nested lengths => maxOf lengths
  | .padded width _ => .ok width

/-- How `max_seq_len` is written in the message: it is a tensor for nested ids. -/
def SeqLengths.shown (lengths : SeqLengths) (maxSeqLen : Nat) : String :=
  match lengths with
  | .nested _ => s!"tensor({maxSeqLen})"
  | .padded _ _ => s!"{maxSeqLen}"

/-- The batch of a rank, with what is selected of it by row. -/
structure Batch (β : Type) where
  lengths : SeqLengths
  rows : List β
  rows_length : rows.length = lengths.effective.length

/-- The arguments of the function beside the batch and its group. -/
structure MicroBatchOptions where
  maxTokenLen : Nat
  numBatchesDividedBy : Option Nat := none
  minNumMicroBatch : Option Nat := none
  useDynamicBszBalance : Bool := true
  forceGroupSize : Nat := 1

/-! ### The number of micro-batches -/

/-- `ceildiv`: `-(a // -b)` -/
def ceildiv (a b : Nat) : Except PyError Nat :=
  if b = 0 then .error ⟨.zeroDivisionError, "integer division or modulo by zero"⟩
  else .ok (-(Int.fdiv a (-b))).toNat

/-- `roundup_divisible` -/
def roundupDivisible (a b : Nat) : Except PyError Nat :=
  if b = 0 then .error ⟨.zeroDivisionError, "integer division or modulo by zero"⟩
  else .ok ((a + b - 1) / b * b)

/-- The checks of the arguments. -/
def checkBatch (options : MicroBatchOptions) (lengths : SeqLengths) : Except PyError Unit := do
  let maxSeqLen ← lengths.maxSeqLen
  raiseIf (options.maxTokenLen < maxSeqLen) ⟨.assertionError,
    "max_token_len must be greater than the sequence length. " ++
      s!"Got max_token_len={options.maxTokenLen} and max_seq_len={lengths.shown maxSeqLen}"⟩
  let batchSize := lengths.effective.length
  raiseIf (options.forceGroupSize = 0) ⟨.zeroDivisionError, "integer modulo by zero"⟩
  raiseIf (batchSize % options.forceGroupSize ≠ 0) ⟨.assertionError,
    s!"Batch size {batchSize} must be divisible by " ++
      s!"force_group_size {options.forceGroupSize}"⟩

/-- `num_groups` -/
def numGroups (options : MicroBatchOptions) (lengths : SeqLengths) : Nat :=
  lengths.effective.length / options.forceGroupSize

/-- The number that a rank starts from. -/
def localCount (options : MicroBatchOptions) (lengths : SeqLengths) : Except PyError Nat := do
  checkBatch options lengths
  let needed ← ceildiv lengths.effective.sum options.maxTokenLen
  let count := min (numGroups options lengths) needed
  return match options.minNumMicroBatch with
    | none => count
    | some least => max least count

def roundedCount (options : MicroBatchOptions) (count : Nat) : Except PyError Nat :=
  match options.numBatchesDividedBy with
  | none => .ok count
  | some divisor => roundupDivisible count divisor

/-- `num_batches_divided_by or 1` -/
def MicroBatchOptions.step (options : MicroBatchOptions) : Nat :=
  match options.numBatchesDividedBy with
  | none => 1
  | some 0 => 1
  | some divisor => divisor

theorem MicroBatchOptions.step_pos (options : MicroBatchOptions) : 0 < options.step := by
  unfold MicroBatchOptions.step
  split
  · exact Nat.one_pos
  · exact Nat.one_pos
  · next divisor hne _ => exact Nat.pos_of_ne_zero fun h => hne (by simp [h])

/-! ### Forced groups -/

/-- `values.view(-1, size).sum(dim=1)` -/
def groupSums {α : Type} [Add α] [Zero α] (size : Nat) (values : List α) : List α :=
  (List.range (values.length / size)).map fun g => ((values.drop (g * size)).take size).sum

def groupWorkloads (options : MicroBatchOptions) (lengths : SeqLengths) : List Int :=
  if options.forceGroupSize > 1 then
    groupSums options.forceGroupSize (lengths.effective.map calculateWorkload)
  else lengths.effective.map calculateWorkload

def groupTokenLens (options : MicroBatchOptions) (lengths : SeqLengths) : List Nat :=
  if options.forceGroupSize > 1 then groupSums options.forceGroupSize lengths.effective
  else lengths.effective

/-! ### The search -/

def withinLimit (maxTokenLen : Nat) (tokenLens : List Nat) (partitions : List (List Nat)) : Bool :=
  partitions.all fun partition => (partition.map fun i => tokenLens.getD i 0).sum ≤ maxTokenLen

/-- The loop that makes more and more micro-batches. -/
def searchPartitions (sync : Bool) (maxTokenLen : Nat) (workloads : List Int)
    (tokenLens : List Nat) (minNumGroups step : Nat) (hstep : 0 < step) (count : Nat) :
    ExceptT PyError Rank (List (List Nat)) :=
  if _h : minNumGroups < count then
    throw ⟨.valueError,
      "Cannot satisfy max_token_len while keeping forced groups atomic and using the same " ++
      "micro-batch count across DP ranks. " ++
      s!"Requested {count} non-empty micro-batches, but a rank has only " ++
      s!"{minNumGroups} forced groups."⟩
  else do
    let partitions ← ofExcept (getSeqlenBalancedPartitions workloads count false)
    let within := withinLimit maxTokenLen tokenLens partitions
    let agreed ← allReduceIf sync .min ![if within then 1 else 0]
    if agreed 0 ≠ 0 then
      return partitions
    else
      searchPartitions sync maxTokenLen workloads tokenLens minNumGroups step hstep (count + step)
termination_by minNumGroups + 1 - count

/-! ### The order of the micro-batches -/

/-- The indices of the samples of forced groups. -/
def sampleIdx (size : Nat) (partitions : List (List Nat)) : List (List Nat) :=
  if size > 1 then
    partitions.map fun partition => partition.flatMap fun g => List.range' (g * size) size
  else partitions

/-- `xs[::step]` -/
def everyNth {α : Type} (step : Nat) (xs : List α) : List α :=
  (xs.zipIdx.filter fun entry => entry.2 % step = 0).map Prod.fst

/-- The key of the sort. -/
def orderKey (size : Nat) (workloads : List Int) (partition : List Nat) : ℤ ×ₗ ℕ :=
  toLex (if size > 1 then
      ((everyNth size partition).map fun i => workloads.getD (i / size) 0).sum
    else (partition.map fun i => workloads.getD i 0).sum,
    partition.headD 0)

/-- The smaller ones at both ends. -/
def orderMicroBatches (key : List Nat → ℤ ×ₗ ℕ) (partitions : List (List Nat)) :
    List (List Nat) :=
  let falling := partitions.insertionSort fun p q => key q ≤ key p
  (everyNth 2 falling).reverse ++ everyNth 2 (falling.drop 1)

/-- `index_select_tensor_dict` -/
def indexSelect (rows : List β) (indices : List Nat) : List β := indices.filterMap (rows[·]?)

/-- `rearrange_micro_batches`; `sync` is `sync_micro_batch_count`. -/
def rearrangeMicroBatches (sync : Bool) (options : MicroBatchOptions) (batch : Batch β) :
    ExceptT PyError Rank (List (List β) × List (List Nat)) := do
  let lengths := batch.lengths
  let count ← ofExcept (localCount options lengths)
  let agreed ← allReduceIf sync .max ![count]
  let count ← ofExcept (roundedCount options (agreed 0).toNat)
  let workloads := groupWorkloads options lengths
  let tokenLens := groupTokenLens options lengths
  let maxGroupTokenLen ← ofExcept (maxOf tokenLens)
  let agreed ← allReduceIf sync .max ![maxGroupTokenLen, -numGroups options lengths]
  ofExcept (raiseIf (agreed 0 > options.maxTokenLen) ⟨.valueError,
    "A forced group exceeds max_token_len and cannot be split. " ++
      s!"Got max_group_token_len={agreed 0} and max_token_len={options.maxTokenLen}."⟩)
  let partitions ← searchPartitions sync options.maxTokenLen workloads tokenLens
    (-agreed 1).toNat options.step options.step_pos count
  let idx := sampleIdx options.forceGroupSize partitions
  let idx := if options.useDynamicBszBalance then
    orderMicroBatches (orderKey options.forceGroupSize workloads) idx else idx
  return (idx.map (indexSelect batch.rows), idx)

/-! ### Rounding -/

theorem ceildiv_eq {a b : Nat} (hb : 0 < b) : ceildiv a b = .ok ((a + b - 1) / b) := by
  have hdiv := Nat.div_add_mod (a + b - 1) b
  have hmod := Nat.mod_lt (a + b - 1) hb
  have hneg : Int.fdiv a (-b) = -(((a + b - 1) / b : Nat) : Int) := by
    have hquotient : (-(a : Int)) / b = -(((a + b - 1) / b : Nat) : Int) := by
      refine ((Int.ediv_emod_unique (r := b * ((a + b - 1) / b : Nat) - a) (by omega)).mpr
        ⟨by rw [Int.mul_neg]; omega, ?_, ?_⟩).1
      · rw [sub_nonneg, ← Int.natCast_mul, Int.ofNat_le]
        omega
      · rw [sub_lt_iff_lt_add, ← Int.natCast_mul, ← Int.natCast_add, Int.ofNat_lt]
        omega
    have hflip := Int.neg_fdiv_neg (-a) b
    rw [Int.neg_neg] at hflip
    rw [hflip, Int.fdiv_eq_ediv_of_nonneg _ (by omega), hquotient]
  unfold ceildiv
  rw [if_neg hb.ne', hneg, Int.neg_neg, Int.toNat_natCast]

/-- Some micro-batch is needed as soon as there is a token. -/
theorem ceildiv_pos {a b : Nat} (hb : 0 < b) : 0 < (a + b - 1) / b ↔ 0 < a := by
  rw [Nat.div_pos_iff]
  omega

theorem dvd_of_roundedCount {options : MicroBatchOptions} {count rounded : Nat}
    (h : roundedCount options count = .ok rounded) :
    count ≤ rounded ∧
      ∀ divisor, options.numBatchesDividedBy = some divisor → divisor ∣ rounded := by
  unfold roundedCount at h
  cases hdivisor : options.numBatchesDividedBy with
  | none =>
    rw [hdivisor] at h
    cases h
    exact ⟨le_refl _, by simp⟩
  | some divisor =>
    rw [hdivisor] at h
    unfold roundupDivisible at h
    dsimp only at h
    split at h
    · cases h
    · next hpos =>
      cases h
      refine ⟨?_, ?_⟩
      · have hlt := Nat.lt_mul_div_succ (count + divisor - 1) (Nat.pos_of_ne_zero hpos)
        rw [Nat.mul_add, Nat.mul_one, Nat.mul_comm] at hlt
        omega
      · intro d hd
        cases hd
        exact Nat.dvd_mul_left _ _

/-! ### Forced groups as lists of samples -/

/-- The samples of each forced group. -/
def forcedGroups (n size : Nat) : List (List Nat) :=
  (List.range (n / size)).map fun g => List.range' (g * size) size

@[simp] theorem forcedGroups_length (n size : Nat) : (forcedGroups n size).length = n / size := by
  simp [forcedGroups]

theorem forcedGroups_getD {n size g : Nat} (hg : g < n / size) :
    (forcedGroups n size).getD g [] = List.range' (g * size) size := by
  rw [List.getD_eq_getElem?_getD, List.getElem?_eq_getElem (by simpa using hg)]
  simp [forcedGroups]

theorem forcedGroups_flatten {n size : Nat} (h : size ∣ n) :
    (forcedGroups n size).flatten = List.range n := by
  have hfront (m : Nat) : ((List.range m).map fun g => List.range' (g * size) size).flatten =
      List.range (m * size) := by
    induction m with
    | zero => simp
    | succ m ih =>
      rw [List.range_succ, List.map_append, List.flatten_append, ih, Nat.succ_mul, List.range_add]
      simp [List.range'_eq_map_range]
  unfold forcedGroups
  rw [hfront, Nat.div_mul_cancel h]

theorem mem_forcedGroup {size i g : Nat} (hsize : 0 < size) :
    i ∈ List.range' (g * size) size ↔ i / size = g := by
  rw [List.mem_range'_1, Nat.div_eq_iff hsize]
  omega

/-- The values of a group, as the view of the tensor has them. -/
theorem take_drop_eq_map {α : Type} {values : List α} {size g : Nat}
    (hg : g < values.length / size) (d : α) : (values.drop (g * size)).take size =
      (List.range' (g * size) size).map fun i => values.getD i d := by
  have hend : (g + 1) * size ≤ values.length :=
    (Nat.mul_le_mul_right size hg).trans (Nat.div_mul_le_self _ _)
  rw [Nat.succ_mul] at hend
  apply List.ext_getElem
  · simp
    omega
  · intro i hi hi'
    simp only [List.length_map, List.length_range'] at hi'
    simp only [List.getElem_take, List.getElem_drop, List.getElem_map, List.getElem_range',
      Nat.one_mul]
    rw [List.getD_eq_getElem?_getD, List.getElem?_eq_getElem (by omega), Option.getD_some]

theorem groupSums_eq {α : Type} [Add α] [Zero α] (size : Nat) (values : List α) :
    groupSums size values = (forcedGroups values.length size).map fun group =>
      (group.map fun i => values.getD i 0).sum := by
  unfold groupSums forcedGroups
  rw [List.map_map]
  apply List.map_congr_left
  intro g hg
  rw [Function.comp_apply, take_drop_eq_map (List.mem_range.mp hg) 0]

theorem forcedGroups_one (n : Nat) : forcedGroups n 1 = (List.range n).map fun i => [i] := by
  simp [forcedGroups, List.range'_one]

/-- The token lengths of the forced groups, also where each sample is a group of its own. -/
theorem groupTokenLens_eq {options : MicroBatchOptions} {lengths : SeqLengths}
    (hpos : 0 < options.forceGroupSize) : groupTokenLens options lengths =
      (forcedGroups lengths.effective.length options.forceGroupSize).map fun group =>
        (group.map fun i => lengths.effective.getD i 0).sum := by
  unfold groupTokenLens
  split
  · exact groupSums_eq _ _
  · next hle =>
    obtain hone : options.forceGroupSize = 1 := by omega
    rw [hone, forcedGroups_one, List.map_map]
    apply List.ext_getElem
    · simp
    · intro i hi hi'
      simp [List.getD_eq_getElem?_getD, List.getElem?_eq_getElem hi]

theorem groupWorkloads_eq {options : MicroBatchOptions} {lengths : SeqLengths}
    (hpos : 0 < options.forceGroupSize) : groupWorkloads options lengths =
      (forcedGroups lengths.effective.length options.forceGroupSize).map
        (groupWorkload lengths.effective) := by
  have hzero : calculateWorkload 0 = 0 := rfl
  have hvalue (i : Nat) : (lengths.effective.map calculateWorkload).getD i 0 =
      calculateWorkload (lengths.effective.getD i 0) := by
    rw [List.getD_eq_getElem?_getD, List.getD_eq_getElem?_getD, List.getElem?_map]
    cases lengths.effective[i]? with
    | none => rfl
    | some _ => rfl
  unfold groupWorkloads
  split
  · rw [groupSums_eq, List.length_map]
    simp only [hvalue]
    rfl
  · next hle =>
    obtain hone : options.forceGroupSize = 1 := by omega
    rw [hone, forcedGroups_one, List.map_map]
    apply List.ext_getElem
    · simp
    · intro i hi hi'
      rw [List.length_map] at hi
      simp [groupWorkload, List.getD_eq_getElem?_getD, List.getElem?_eq_getElem hi]

/-- The samples of partitions of the forced groups. -/
theorem sampleIdx_eq {n size : Nat} (hpos : 0 < size) {partitions : List (List Nat)}
    (h : ∀ partition ∈ partitions, ∀ g ∈ partition, g < n / size) :
    sampleIdx size partitions = partitions.map (sampleIndices (forcedGroups n size)) := by
  unfold sampleIdx
  split
  · apply List.map_congr_left
    intro partition hpartition
    unfold sampleIndices
    rw [List.flatMap_def, List.flatMap_def]
    congr 1
    apply List.map_congr_left
    intro g hg
    rw [forcedGroups_getD (h partition hpartition g hg)]
  · next hle =>
    obtain rfl : size = 1 := by omega
    conv_lhs => rw [← List.map_id partitions]
    apply List.map_congr_left
    intro partition hpartition
    have hsingle : ∀ g ∈ partition, (forcedGroups n 1).getD g [] = [g] := by
      intro g hg
      rw [forcedGroups_getD (h partition hpartition g hg)]
      simp
    unfold sampleIndices
    rw [List.flatMap_def, List.map_congr_left hsingle, ← List.flatMap_def, List.flatMap_singleton']
    rfl

/-- A forced group is in the partition as a whole, or not at all. -/
theorem mem_sampleIndices_iff {n size i : Nat} (hpos : 0 < size) {partition : List Nat}
    (h : ∀ g ∈ partition, g < n / size) :
    i ∈ sampleIndices (forcedGroups n size) partition ↔ i / size ∈ partition := by
  unfold sampleIndices
  rw [List.mem_flatMap]
  constructor
  · rintro ⟨g, hg, hmem⟩
    rw [forcedGroups_getD (h g hg), mem_forcedGroup hpos] at hmem
    rwa [hmem]
  · intro hmem
    refine ⟨i / size, hmem, ?_⟩
    rw [forcedGroups_getD (h _ hmem), mem_forcedGroup hpos]

/-- The tokens of the samples are those of the groups. -/
theorem tokens_sampleIndices {lengths groups partition}
    (h : ∀ g ∈ partition, g < groups.length) :
    ((sampleIndices groups partition).map fun i => (lengths : List Nat).getD i 0).sum =
      (partition.map fun g => (groups.map fun group =>
        (group.map fun i => lengths.getD i 0).sum).getD g 0).sum := by
  induction partition with
  | nil => rfl
  | cons g partition ih =>
    have hg := h g List.mem_cons_self
    have hrest := ih fun g' hg' => h g' (List.mem_cons_of_mem g hg')
    unfold sampleIndices at hrest ⊢
    rw [List.flatMap_cons, List.map_append, List.sum_append, hrest, List.map_cons, List.sum_cons]
    congr 1
    simp [List.getD_eq_getElem?_getD, List.getElem?_eq_getElem hg]

/-! ### Every `step`-th element -/

theorem everyNth_cons {α : Type} {step : Nat} (hstep : 0 < step) (a : α) (xs : List α) :
    everyNth step (a :: xs) = a :: everyNth step (xs.drop (step - 1)) := by
  have hskipped :
      ((xs.take (step - 1)).zipIdx 1).filter (fun entry => entry.2 % step = 0) = [] := by
    rw [List.filter_eq_nil_iff]
    rintro ⟨x, i⟩ hmem
    have hbounds := List.mem_zipIdx hmem
    rw [List.length_take] at hbounds
    have hmod : i % step = i := Nat.mod_eq_of_lt (by omega)
    simp only [hmod, decide_eq_true_eq]
    omega
  unfold everyNth
  rw [List.zipIdx_cons, List.filter_cons_of_pos (by simp), List.map_cons]
  congr 1
  conv_lhs => rw [← List.take_append_drop (step - 1) xs]
  rw [List.zipIdx_append, List.filter_append, Nat.zero_add, hskipped, List.nil_append,
    List.length_take]
  obtain hshort | hlong := Nat.lt_or_ge xs.length (step - 1)
  · rw [List.drop_eq_nil_of_le hshort.le]
    rfl
  · have hshift : (xs.drop (step - 1)).zipIdx step =
        (xs.drop (step - 1)).zipIdx.map fun entry => (entry.1, step + entry.2) :=
      List.zipIdx_eq_map_add
    rw [Nat.min_eq_left hlong, Nat.add_sub_cancel' hstep, hshift, List.filter_map, List.map_map]
    simp [Function.comp_def]

theorem everyNth_sublist {α : Type} (step : Nat) (xs : List α) : (everyNth step xs).Sublist xs := by
  have hsublist := (List.filter_sublist (l := xs.zipIdx)
    (p := fun entry => entry.2 % step = 0)).map Prod.fst
  rwa [List.zipIdx_map_fst] at hsublist

/-- The heads of blocks of the length of a step. -/
theorem everyNth_flatMap {size : Nat} (hsize : 0 < size) (groups : List Nat) :
    everyNth size (groups.flatMap fun g => List.range' (g * size) size) =
      groups.map (· * size) := by
  induction groups with
  | nil => rfl
  | cons g groups ih =>
    have hblock : List.range' (g * size) size =
        g * size :: List.range' (g * size + 1) (size - 1) := by
      obtain ⟨rest, rfl⟩ : ∃ rest, size = rest + 1 := ⟨size - 1, by omega⟩
      rfl
    rw [List.flatMap_cons, hblock, List.cons_append, everyNth_cons hsize,
      List.drop_left' (by simp), ih, List.map_cons]

theorem everyNth_two_perm {α : Type} (xs : List α) :
    (everyNth 2 xs ++ everyNth 2 (xs.drop 1)).Perm xs := by
  induction xs with
  | nil => rfl
  | cons a xs ih =>
    rw [everyNth_cons Nat.two_pos, List.drop_succ_cons, List.drop_zero]
    exact (List.perm_append_comm.trans ih).cons a

theorem orderMicroBatches_perm (key : List Nat → ℤ ×ₗ ℕ) (partitions : List (List Nat)) :
    (orderMicroBatches key partitions).Perm partitions := by
  unfold orderMicroBatches
  apply ((List.reverse_perm _).append_right _).trans
  exact (everyNth_two_perm _).trans (List.perm_insertionSort _ _)

/-- The keys rise up to one micro-batch and fall from it on. -/
theorem orderMicroBatches_peak (key : List Nat → ℤ ×ₗ ℕ) (partitions : List (List Nat)) :
    ∃ rising falling, orderMicroBatches key partitions = rising ++ falling ∧
      rising.Pairwise (fun p q => key p ≤ key q) ∧
      falling.Pairwise (fun p q => key q ≤ key p) := by
  have : IsTrans (List Nat) fun p q => key q ≤ key p := ⟨fun _ _ _ hpq hqr => hqr.trans hpq⟩
  have : Std.Total fun p q : List Nat => key q ≤ key p := ⟨fun p q => le_total (key q) (key p)⟩
  have hsorted := List.pairwise_insertionSort (fun p q => key q ≤ key p) partitions
  refine ⟨_, _, rfl, ?_, ?_⟩
  · exact List.pairwise_reverse.mpr (hsorted.sublist (everyNth_sublist 2 _))
  · exact hsorted.sublist ((everyNth_sublist 2 _).trans (List.drop_sublist 1 _))

end R2opl
