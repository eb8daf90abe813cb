import Mathlib.Data.Finset.Dedup
import Mathlib.Data.Finset.Range
import R2opl.Balancing.KarmarkarKarp

/-!
# Balanced partitions

`get_seqlen_balanced_partitions` of `verl/utils/seqlen_balancing.py` checks and sorts what the
differencing method returns.  None of its checks fails where there are items enough.
-/

namespace R2opl

open Checked Differencing KarmarkarKarp

/-- `_check_and_sort_partitions` -/
def checkAndSortPartitions (size k : Nat) (partitions : List (List Nat)) :
    Except PyError (List (List Nat)) := do
  raiseIf (partitions.length ≠ k) ⟨.assertionError, s!"{partitions.length} != {k}"⟩
  let sortedPartitions ← partitions.zipIdx.mapM fun (partition, i) => do
    raiseIf (partition = []) ⟨.assertionError, s!"the {i}-th partition is empty"⟩
    return partition.insertionSort (· ≤ ·)
  raiseIf (partitions.flatten.toFinset ≠ Finset.range size) ⟨.assertionError, ""⟩
  return sortedPartitions

/-- `get_seqlen_balanced_partitions` -/
def getSeqlenBalancedPartitions (seqlens : List Int) (k : Nat) (equalSize : Bool) :
    Except PyError (List (List Nat)) := do
  raiseIf (seqlens.length < k)
    ⟨.assertionError, s!"number of items:[{seqlens.length}] < k_partitions:[{k}]"⟩
  let partitions ← karmarkarKarp seqlens k equalSize
  checkAndSortPartitions seqlens.length k partitions

/-- `k` partitions of the indices of `seqlens`, of nearly the same sum. -/
structure BalancedPartitions (seqlens : List Int) (k : Nat) (equalSize : Bool)
    (partitions : List (List Nat)) : Prop where
  length_eq : partitions.length = k
  perm : partitions.flatten.Perm (List.range seqlens.length)
  ne_nil : ∀ partition ∈ partitions, partition ≠ []
  sorted : ∀ partition ∈ partitions, partition.Pairwise (· < ·)
  equal : equalSize = true → ∀ partition ∈ partitions, partition.length * k = seqlens.length
  within : ∀ bound, (∀ v ∈ seqlens, v ≤ bound) →
    Within bound (partitions.map (partitionSum seqlens))

theorem sorted_perm (partition : List Nat) : (partition.insertionSort (· ≤ ·)).Perm partition :=
  List.perm_insertionSort _ _

theorem partitionSum_perm (seqlens : List Int) {left right : List Nat} (h : left.Perm right) :
    partitionSum seqlens left = partitionSum seqlens right :=
  (h.map _).sum_eq

theorem zipIdx_map_fst {α β : Type} (f : α → β) (xs : List α) :
    xs.zipIdx.map (f ∘ Prod.fst) = xs.map f := by
  rw [← List.map_map, List.zipIdx_map_fst]

/-- The checks pass for non-empty partitions of the indices. -/
theorem checkAndSortPartitions_returns {size k : Nat} {partitions : List (List Nat)}
    (hlength : partitions.length = k) (hne : ∀ partition ∈ partitions, partition ≠ [])
    (hperm : partitions.flatten.Perm (List.range size)) :
    checkAndSortPartitions size k partitions =
      .ok (partitions.map fun partition => partition.insertionSort (· ≤ ·)) := by
  have hsorted : (partitions.zipIdx.mapM fun (partition, i) => do
      raiseIf (partition = []) ⟨.assertionError, s!"the {i}-th partition is empty"⟩
      return partition.insertionSort (· ≤ ·)) =
      (.ok (partitions.map fun partition => partition.insertionSort (· ≤ ·)) :
        Except PyError (List (List Nat))) := by
    rw [← zipIdx_map_fst]
    apply mapM_eq_ok_map
    rintro ⟨partition, i⟩ hmem
    have hin : partition ∈ partitions := List.fst_mem_of_mem_zipIdx hmem
    simp [raiseIf_of_not (hne partition hin)]
  have hseen : partitions.flatten.toFinset = Finset.range size := by
    rw [List.toFinset_eq_of_perm _ _ hperm]
    ext idx
    rw [List.mem_toFinset, List.mem_range, Finset.mem_range]
  unfold checkAndSortPartitions
  rw [hsorted, raiseIf_of_not (not_not.mpr hlength), raiseIf_of_not (not_not.mpr hseen)]
  rfl

theorem KarmarkarKarp.Final.balanced {seqlens : List Int} {k : Nat} {equalSize : Bool}
    {final : State k} (h : Final seqlens equalSize final) (hnonneg : ∀ v ∈ seqlens, 0 ≤ v)
    (hk : 0 < k) (hsize : k ≤ seqlens.length) : BalancedPartitions seqlens k equalSize
      (final.getPartitions.map fun partition => partition.insertionSort (· ≤ ·)) := by
  have hperm : (final.getPartitions.map fun partition =>
      partition.insertionSort (· ≤ ·)).flatten.Perm (List.range seqlens.length) := by
    refine List.Perm.trans ?_ h.partitions_perm
    rw [← List.flatMap_def, ← List.flatMap_id]
    exact List.Perm.flatMap_left _ fun partition _ => sorted_perm partition
  constructor
  · rw [List.length_map, State.getPartitions, List.length_map, final.length_eq]
  · exact hperm
  · intro partition hpartition
    obtain ⟨unsorted, hunsorted, rfl⟩ := List.mem_map.mp hpartition
    intro hnil
    apply h.partitions_ne_nil hnonneg hsize unsorted hunsorted
    rw [← List.length_eq_zero_iff, ← (sorted_perm unsorted).length_eq, hnil, List.length_nil]
  · intro partition hpartition
    have hnodup : partition.Nodup := by
      have hall := hperm.nodup_iff.mpr List.nodup_range
      exact (List.nodup_flatten.mp hall).1 partition hpartition
    obtain ⟨unsorted, -, rfl⟩ := List.mem_map.mp hpartition
    have hle := List.pairwise_insertionSort (· ≤ ·) unsorted
    exact hle.imp₂ (fun a b hab hne => lt_of_le_of_ne hab hne) hnodup
  · intro hequal partition hpartition
    obtain ⟨unsorted, hunsorted, rfl⟩ := List.mem_map.mp hpartition
    obtain ⟨s, hs, rfl⟩ := List.mem_map.mp hunsorted
    rw [(sorted_perm _).length_eq, List.length_map, (h.uniform hequal).length_mul s hs,
      h.items.length_eq, sortedItems_length]
  · intro bound hbound
    have hpos : 0 ≤ bound := by
      obtain ⟨v, hv⟩ := List.exists_mem_of_length_pos (hk.trans_le hsize)
      exact (hnonneg v hv).trans (hbound v hv)
    have hsums : (final.getPartitions.map fun partition => partition.insertionSort (· ≤ ·)).map
        (partitionSum seqlens) = final.sets.map ItemSet.sum := by
      rw [← h.partitionSums, List.map_map]
      apply List.map_congr_left
      intro partition _
      exact partitionSum_perm seqlens (sorted_perm partition)
    rw [hsums]
    exact h.withinBound bound (fun v hv => ⟨hnonneg v hv, hbound v hv⟩) hpos

/-- The function returns as soon as there are as many items as partitions, and as the sizes allow,
    and it returns balanced partitions: none of its later checks ever fails. -/
theorem getSeqlenBalancedPartitions_final {seqlens : List Int} {k : Nat} (equalSize : Bool)
    (hnonneg : ∀ v ∈ seqlens, 0 ≤ v) (hk : 0 < k) (hsize : k ≤ seqlens.length)
    (hdvd : equalSize = true → k ∣ seqlens.length) :
    ∃ partitions, getSeqlenBalancedPartitions seqlens k equalSize = .ok partitions ∧
      BalancedPartitions seqlens k equalSize partitions := by
  have hne : seqlens ≠ [] := List.length_pos_iff.mp (hk.trans_le hsize)
  obtain ⟨final, hreturn, hfinal⟩ := karmarkarKarp_final hk hne hdvd
  refine ⟨_, ?_, hfinal.balanced hnonneg hk hsize⟩
  have hlength : final.getPartitions.length = k := by
    rw [State.getPartitions, List.length_map, final.length_eq]
  unfold getSeqlenBalancedPartitions
  rw [raiseIf_of_not (by omega), hreturn]
  exact checkAndSortPartitions_returns hlength (hfinal.partitions_ne_nil hnonneg hsize)
    hfinal.partitions_perm

theorem getSeqlenBalancedPartitions_requires {seqlens : List Int} {k : Nat} {equalSize : Bool}
    (h : Returns (getSeqlenBalancedPartitions seqlens k equalSize)) :
    0 < k ∧ k ≤ seqlens.length ∧ (equalSize = true → k ∣ seqlens.length) := by
  obtain ⟨result, h⟩ := h
  unfold getSeqlenBalancedPartitions at h
  simp only [bind_eq_ok, raiseIf_eq_ok] at h
  obtain ⟨-, hsize, partitions, hpartitions, -⟩ := h
  obtain ⟨hk, -, hdvd⟩ := karmarkarKarp_requires ⟨partitions, hpartitions⟩
  exact ⟨hk, by omega, hdvd⟩

/-- The function returns exactly where the arguments allow balanced partitions, and what it returns
    is always balanced. -/
theorem getSeqlenBalancedPartitions_balanced (seqlens : List Int) (k : Nat) (equalSize : Bool)
    (hnonneg : ∀ v ∈ seqlens, 0 ≤ v) :
    (Returns (getSeqlenBalancedPartitions seqlens k equalSize) ↔
      0 < k ∧ k ≤ seqlens.length ∧ (equalSize = true → k ∣ seqlens.length)) ∧
    ∀ partitions, getSeqlenBalancedPartitions seqlens k equalSize = .ok partitions →
      BalancedPartitions seqlens k equalSize partitions := by
  constructor
  · constructor
    · exact getSeqlenBalancedPartitions_requires
    · rintro ⟨hk, hsize, hdvd⟩
      obtain ⟨partitions, hreturn, -⟩ :=
        getSeqlenBalancedPartitions_final equalSize hnonneg hk hsize hdvd
      exact ⟨partitions, hreturn⟩
  · intro partitions hreturn
    obtain ⟨hk, hsize, hdvd⟩ := getSeqlenBalancedPartitions_requires ⟨partitions, hreturn⟩
    obtain ⟨found, hfound, hbalanced⟩ :=
      getSeqlenBalancedPartitions_final equalSize hnonneg hk hsize hdvd
    rwa [Except.ok.inj (hreturn.symm.trans hfound)]

theorem getSeqlenBalancedPartitions_balanced_three :
    (Returns (getSeqlenBalancedPartitions [5, 1, 3] 2 false) ↔
      0 < 2 ∧ 2 ≤ 3 ∧ (false = true → 2 ∣ 3)) ∧
    ∀ partitions, getSeqlenBalancedPartitions [5, 1, 3] 2 false = .ok partitions →
      BalancedPartitions [5, 1, 3] 2 false partitions :=
  getSeqlenBalancedPartitions_balanced [5, 1, 3] 2 false (by decide)

end R2opl
