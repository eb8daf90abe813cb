import Mathlib.Data.List.SplitBy
import Mathlib.Tactic.Positivity
import R2opl.Balancing.SeqlenPartitions

/-!
# Partitions of groups

`get_group_balanced_partitions` of `verl/utils/seqlen_balancing.py`: neighbours of one `uid` are a
group, and the groups are partitioned in place of the samples.
-/

namespace R2opl

open Checked Differencing KarmarkarKarp

/-- `calculate_workload` of one length.  The source computes it in `int64`; here it has no bound, so
    lengths from about three thousand million on are not modelled. -/
def calculateWorkload (seqlen : Nat) : Int := 24576 * seqlen + seqlen ^ 2

theorem calculateWorkload_nonneg (seqlen : Nat) : 0 ≤ calculateWorkload seqlen := by
  unfold calculateWorkload
  positivity

/-! ### Groups -/

/-- The variables of the loop over the uids. -/
structure GroupScan (α : Type) where
  groups : List (List Nat) := []
  currentUid : Option α := none
  currentIndices : List Nat := []

variable {α : Type}

/-- The groups with the last one. -/
def GroupScan.close (scan : GroupScan α) : List (List Nat) :=
  if scan.currentIndices = [] then scan.groups else scan.groups ++ [scan.currentIndices]

variable [DecidableEq α]

/-- One sample: with another uid a new group begins. -/
def GroupScan.step (scan : GroupScan α) (i : Nat) (uid : Option α) : GroupScan α :=
  if uid ≠ scan.currentUid then
    { groups := scan.close, currentUid := uid, currentIndices := [i] }
  else { scan with currentIndices := scan.currentIndices ++ [i] }

/-- The loop over the samples. -/
def GroupScan.run (uids : List (Option α)) : GroupScan α :=
  uids.zipIdx.foldl (fun scan sample => scan.step sample.2 sample.1) {}

/-- The groups of the samples; `none` is a uid that is `None`. -/
def uidGroups (uids : List (Option α)) : List (List Nat) := (GroupScan.run uids).close

/-- The indices of the samples of the groups. -/
def sampleIndices (groups : List (List Nat)) (partition : List Nat) : List Nat :=
  partition.flatMap fun g => groups.getD g []

/-- The workload of a group: that of its samples. -/
def groupWorkload (seqlens : List Nat) (group : List Nat) : Int :=
  (group.map fun i => calculateWorkload (seqlens.getD i 0)).sum

/-- `get_group_balanced_partitions` -/
def getGroupBalancedPartitions (seqlens : List Nat) (uids : List (Option α)) (k : Nat) :
    Except PyError (List (List Nat)) := do
  raiseIf (seqlens.length ≠ uids.length)
    ⟨.assertionError, "seqlen_list and uid_list must have same length"⟩
  let groups := uidGroups uids
  raiseIf (groups.length < k)
    ⟨.assertionError, s!"Number of uid groups ({groups.length}) must be >= k_partitions ({k}). " ++
      "Consider reducing world_size or increasing batch_size."⟩
  let partitions ← getSeqlenBalancedPartitions (groups.map (groupWorkload seqlens)) k true
  return partitions.map fun partition => (sampleIndices groups partition).insertionSort (· ≤ ·)

/-! ### What the loop over the uids finds -/

/-- Two samples of one uid. -/
def sameUid (uids : List (Option α)) (i j : Nat) : Bool := uids[i]? == uids[j]?

/-- What the loop knows after `n` samples. -/
structure GroupScan.Inv (uids : List (Option α)) (n : Nat) (scan : GroupScan α) : Prop where
  close : scan.close = (List.range n).splitBy (sameUid uids)
  empty : n = 0 → scan.groups = [] ∧ scan.currentIndices = []
  last : 0 < n → uids[n - 1]? = some scan.currentUid ∧ (n - 1) ∈ scan.currentIndices.getLast?

theorem splitBy_single (r : Nat → Nat → Bool) (a : Nat) : [a].splitBy r = [[a]] := rfl

theorem splitBy_extend {r : Nat → Nat → Bool} {xs : List Nat} {before : List (List Nat)}
    {last : List Nat} {a : Nat} (hne : last ≠ []) (h : xs.splitBy r = before ++ [last])
    (hr : r (last.getLast hne) a = true) : (xs ++ [a]).splitBy r = before ++ [last ++ [a]] := by
  rw [List.splitBy_eq_iff] at h ⊢
  obtain ⟨hflatten, hnil, hchains, hbreaks⟩ := h
  refine ⟨?_, ?_, ?_, ?_⟩
  · simp [hflatten]
  · simpa using fun h => hnil (List.mem_append_left _ h)
  · intro m hm
    rcases List.mem_append.mp hm with hbefore | hlast
    · exact hchains m (List.mem_append_left _ hbefore)
    · obtain rfl := List.mem_singleton.mp hlast
      have hchain := hchains last (List.mem_append_right _ (List.mem_singleton.mpr rfl))
      rw [List.isChain_append]
      refine ⟨hchain, List.IsChain.singleton a, ?_⟩
      intro x hx y hy
      rw [List.getLast?_eq_getLast_of_ne_nil hne, Option.mem_some_iff] at hx
      rw [List.head?_singleton, Option.mem_some_iff] at hy
      rw [← hx, ← hy]
      exact hr
  · rw [List.isChain_append] at hbreaks ⊢
    refine ⟨hbreaks.1, List.IsChain.singleton _, ?_⟩
    intro x hx y hy
    rw [List.head?_singleton, Option.mem_some_iff] at hy
    obtain ⟨hxne, hlne, hbreak⟩ := hbreaks.2.2 x hx last (by simp)
    subst hy
    refine ⟨hxne, by simp, ?_⟩
    rw [List.head_append_of_ne_nil hne]
    exact hbreak

theorem GroupScan.Inv.step {uids : List (Option α)} {n : Nat} {scan : GroupScan α}
    {uid : Option α} (h : scan.Inv uids n) (huid : uids[n]? = some uid) :
    (scan.step n uid).Inv uids (n + 1) := by
  obtain rfl | hpos := Nat.eq_zero_or_pos n
  · -- the first sample begins a group, also where its uid is `None`
    obtain ⟨hgroups, hindices⟩ := h.empty rfl
    unfold GroupScan.step
    split
    · exact ⟨by simp [GroupScan.close, hgroups, hindices, splitBy_single],
        by simp, by simp [huid]⟩
    · next heq =>
      rw [not_not] at heq
      exact ⟨by simp [GroupScan.close, hgroups, hindices, splitBy_single],
        by simp, by simp [huid, heq, hindices]⟩
  · obtain ⟨hlast, hmem⟩ := h.last hpos
    have hne : scan.currentIndices ≠ [] := by
      intro hnil
      simp [hnil] at hmem
    have hclose : scan.close = scan.groups ++ [scan.currentIndices] := by
      unfold GroupScan.close
      rw [if_neg hne]
    have hgetLast : scan.currentIndices.getLast hne = n - 1 := by
      rwa [List.getLast?_eq_getLast_of_ne_nil hne, Option.mem_some_iff] at hmem
    unfold GroupScan.step
    split
    · next hother =>
      refine ⟨?_, by omega, by simp [huid]⟩
      have hbreak : ∀ x ∈ (List.range n).getLast?, ∀ y ∈ [n].head?, sameUid uids x y = false := by
        intro x hx y hy
        rw [List.getLast?_range, if_neg (by omega), Option.mem_some_iff] at hx
        rw [List.head?_singleton, Option.mem_some_iff] at hy
        subst hx hy
        rw [sameUid, hlast, huid]
        simpa using fun heq => hother heq.symm
      rw [List.range_succ, List.splitBy_append hbreak, ← h.close]
      simp [GroupScan.close, splitBy_single]
    · next hsame =>
      rw [not_not] at hsame
      refine ⟨?_, by omega, by simp [huid, hsame]⟩
      have hclosed := h.close
      rw [hclose] at hclosed
      rw [List.range_succ, splitBy_extend hne hclosed.symm]
      · simp [GroupScan.close]
      · rw [hgetLast, sameUid, hlast, huid, hsame]
        simp

/-- The groups are the longest runs of one uid. -/
theorem uidGroups_eq (uids : List (Option α)) :
    uidGroups uids = (List.range uids.length).splitBy (sameUid uids) := by
  have hrun (n : Nat) (hn : n ≤ uids.length) : (GroupScan.run (uids.take n)).Inv uids n := by
    induction n with
    | zero => exact ⟨by simp [GroupScan.run, GroupScan.close], by simp [GroupScan.run], by simp⟩
    | succ n ih =>
      have huid : uids[n]? = some uids[n] := List.getElem?_eq_getElem hn
      have hstep := (ih (by omega)).step huid
      rw [List.take_add_one, huid]
      unfold GroupScan.run at hstep ⊢
      rw [Option.toList_some, List.zipIdx_append, List.foldl_append, List.length_take,
        Nat.min_eq_left (by omega), Nat.zero_add]
      exact hstep
  have hall := (hrun uids.length (le_refl _)).close
  rwa [List.take_length] at hall

/-- Neighbours that are related are in one run. -/
theorem exists_run_of_related {r : Nat → Nat → Bool} {runs : List (List Nat)} {xs ys : List Nat}
    {a b : Nat} (hnil : [] ∉ runs) (hbreaks : runs.IsChain fun left right =>
      ∃ hleft hright, r (left.getLast hleft) (right.head hright) = false)
    (hflatten : runs.flatten = xs ++ a :: b :: ys) (hr : r a b = true) :
    ∃ run ∈ runs, a ∈ run ∧ b ∈ run := by
  induction runs generalizing xs with
  | nil => simp at hflatten
  | cons run runs ih =>
    rw [List.mem_cons, not_or] at hnil
    have hrest {xs : List Nat} (hxs : runs.flatten = xs ++ a :: b :: ys) :
        ∃ run' ∈ run :: runs, a ∈ run' ∧ b ∈ run' := by
      obtain ⟨run', hmem, hab⟩ := ih hnil.2 hbreaks.tail hxs
      exact ⟨run', List.mem_cons_of_mem _ hmem, hab⟩
    rw [List.flatten_cons, List.append_eq_append_iff] at hflatten
    obtain ⟨before, -, hbefore⟩ | ⟨part, hpart, htail⟩ := hflatten
    · exact hrest hbefore
    · match part, hpart, htail with
      | [], _, htail => exact hrest (show runs.flatten = [] ++ a :: b :: ys from htail.symm)
      | [_], hpart, htail =>
        -- the run ends with the first of the two, and the next run begins with the other
        simp only [List.singleton_append, List.cons.injEq] at htail
        obtain ⟨rfl, hnext⟩ := htail
        cases runs with
        | nil => simp at hnext
        | cons next runs =>
          rw [List.isChain_cons_cons] at hbreaks
          obtain ⟨⟨hrun, hhead, hbreak⟩, -⟩ := hbreaks
          obtain ⟨first, others, rfl⟩ := List.exists_cons_of_ne_nil hhead
          simp only [List.flatten_cons, List.cons_append, List.cons.injEq] at hnext
          simp only [hpart, List.getLast_append_singleton, List.head_cons, ← hnext.1, hr] at hbreak
          cases hbreak
      | _ :: _ :: part, hpart, htail =>
        simp only [List.cons_append, List.cons.injEq] at htail
        obtain ⟨rfl, rfl, -⟩ := htail
        exact ⟨run, List.mem_cons_self, by simp [hpart], by simp [hpart]⟩

/-- A sample is in one group only. -/
theorem eq_of_mem_of_nodup {runs : List (List Nat)} (hnodup : runs.flatten.Nodup)
    {left right : List Nat} (hleft : left ∈ runs) (hright : right ∈ runs) {a : Nat}
    (ha : a ∈ left) (ha' : a ∈ right) : left = right := by
  by_contra hne
  have hsymm : Std.Symm (@List.Disjoint Nat) := ⟨fun _ _ h => h.symm⟩
  exact (List.nodup_flatten.mp hnodup).2.forall hleft hright hne ha ha'

/-- The groups of samples that follow one another with one uid. -/
theorem uidGroups_flatten (uids : List (Option α)) :
    (uidGroups uids).flatten = List.range uids.length := by
  rw [uidGroups_eq, List.flatten_splitBy]

theorem mem_group_iff_succ {uids : List (Option α)} {i : Nat} (hi : i + 1 < uids.length)
    (huid : uids[i]? = uids[i + 1]?) {group : List Nat} (hgroup : group ∈ uidGroups uids) :
    i ∈ group ↔ i + 1 ∈ group := by
  obtain ⟨rest, hrest⟩ : ∃ rest, uids.length = i + (rest + 1 + 1) := ⟨uids.length - i - 2, by omega⟩
  have hsplit : ∃ after, (uidGroups uids).flatten = List.range i ++ i :: (i + 1) :: after := by
    rw [uidGroups_flatten, hrest, List.range_add, List.range_succ_eq_map, List.range_succ_eq_map]
    exact ⟨_, by rfl⟩
  obtain ⟨after, hsplit⟩ := hsplit
  have hrun : ∃ run ∈ uidGroups uids, i ∈ run ∧ i + 1 ∈ run := by
    have hbreaks := List.isChain_getLast_head_splitBy (sameUid uids) (List.range uids.length)
    have hnil := List.nil_notMem_splitBy (sameUid uids) (List.range uids.length)
    rw [← uidGroups_eq] at hbreaks hnil
    exact exists_run_of_related hnil hbreaks hsplit (by simp [sameUid, huid])
  have hnodup : (uidGroups uids).flatten.Nodup := by
    rw [uidGroups_flatten]
    exact List.nodup_range
  obtain ⟨run, hmem, hfirst, hsecond⟩ := hrun
  constructor
  · intro h
    rw [eq_of_mem_of_nodup hnodup hgroup hmem h hfirst]
    exact hsecond
  · intro h
    rw [eq_of_mem_of_nodup hnodup hgroup hmem h hsecond]
    exact hfirst

/-! ### What is returned -/

theorem getD_map_range {β : Type} (xs : List β) (d : β) :
    (List.range xs.length).map (fun i => xs.getD i d) = xs := by
  apply List.ext_getElem
  · simp
  · intro i hi hi'
    rw [List.getElem_map, List.getElem_range, List.getD_eq_getElem?_getD,
      List.getElem?_eq_getElem hi', Option.getD_some]

/-- The samples of all groups, each once. -/
theorem sampleIndices_perm {groups partitions : List (List Nat)}
    (h : partitions.flatten.Perm (List.range groups.length)) :
    (partitions.map (sampleIndices groups)).flatten.Perm groups.flatten := by
  have hall : (partitions.map (sampleIndices groups)).flatten =
      partitions.flatten.flatMap fun g => groups.getD g [] := by
    simp only [List.flatten_eq_flatMap, List.flatMap_map, List.flatMap_assoc, id_eq]
    rfl
  rw [hall]
  apply (h.flatMap_right _).trans
  rw [List.flatMap_def, getD_map_range]

/-- `k` partitions of the samples, made of whole groups: as many groups in each, and nearly the
    same workload. -/
structure GroupBalanced (seqlens : List Nat) (uids : List (Option α)) (k : Nat)
    (partitions : List (List Nat)) : Prop where
  length_eq : partitions.length = k
  perm : partitions.flatten.Perm (List.range seqlens.length)
  sorted : ∀ partition ∈ partitions, partition.Pairwise (· < ·)
  groups : ∀ partition ∈ partitions, ∃ groups, groups ⊆ uidGroups uids ∧
    partition.Perm groups.flatten ∧ groups.length * k = (uidGroups uids).length
  together : ∀ partition ∈ partitions, ∀ i, i + 1 < uids.length → uids[i]? = uids[i + 1]? →
    (i ∈ partition ↔ i + 1 ∈ partition)
  within : ∀ bound, (∀ group ∈ uidGroups uids, groupWorkload seqlens group ≤ bound) →
    Within bound (partitions.map (groupWorkload seqlens))

theorem groupWorkload_perm (seqlens : List Nat) {left right : List Nat} (h : left.Perm right) :
    groupWorkload seqlens left = groupWorkload seqlens right :=
  (h.map _).sum_eq

theorem groupWorkload_nonneg (seqlens : List Nat) (group : List Nat) :
    0 ≤ groupWorkload seqlens group := by
  apply List.sum_nonneg
  intro workload hworkload
  obtain ⟨i, -, rfl⟩ := List.mem_map.mp hworkload
  exact calculateWorkload_nonneg _

/-- The workload of the samples of some groups is that of the groups. -/
theorem groupWorkload_sampleIndices (seqlens : List Nat) (groups : List (List Nat))
    {partition : List Nat} (h : ∀ g ∈ partition, g < groups.length) :
    groupWorkload seqlens (sampleIndices groups partition) =
      partitionSum (groups.map (groupWorkload seqlens)) partition := by
  induction partition with
  | nil => rfl
  | cons g partition ih =>
    have hg := h g List.mem_cons_self
    have hrest := ih fun g' hg' => h g' (List.mem_cons_of_mem g hg')
    unfold partitionSum groupWorkload sampleIndices at hrest ⊢
    rw [List.flatMap_cons, List.map_append, List.sum_append, hrest, List.map_cons, List.sum_cons]
    congr 1
    simp [List.getD_eq_getElem?_getD, List.getElem?_eq_getElem hg]

/-- A partition of samples is as its groups are. -/
theorem mem_partition_iff_succ {uids : List (Option α)} {groups : List (List Nat)}
    {partition : List Nat} (hgroups : groups ⊆ uidGroups uids)
    (hperm : partition.Perm groups.flatten) {i : Nat} (hi : i + 1 < uids.length)
    (huid : uids[i]? = uids[i + 1]?) : i ∈ partition ↔ i + 1 ∈ partition := by
  rw [hperm.mem_iff, hperm.mem_iff, List.mem_flatten, List.mem_flatten]
  constructor
  · rintro ⟨group, hgroup, hmem⟩
    exact ⟨group, hgroup, (mem_group_iff_succ hi huid (hgroups hgroup)).mp hmem⟩
  · rintro ⟨group, hgroup, hmem⟩
    exact ⟨group, hgroup, (mem_group_iff_succ hi huid (hgroups hgroup)).mpr hmem⟩

theorem BalancedPartitions.groupBalanced {seqlens : List Nat} {uids : List (Option α)} {k : Nat}
    {partitions : List (List Nat)} (hlength : seqlens.length = uids.length)
    (h : BalancedPartitions ((uidGroups uids).map (groupWorkload seqlens)) k true partitions) :
    GroupBalanced seqlens uids k (partitions.map fun partition =>
      (sampleIndices (uidGroups uids) partition).insertionSort (· ≤ ·)) := by
  have hbalanced := h.perm
  rw [List.length_map] at hbalanced
  have hbelow {partition : List Nat} (hpartition : partition ∈ partitions) :
      ∀ g ∈ partition, g < (uidGroups uids).length := by
    intro g hg
    exact List.mem_range.mp (hbalanced.mem_iff.mp (List.mem_flatten_of_mem hpartition hg))
  have hperm : (partitions.map fun partition => (sampleIndices (uidGroups uids)
      partition).insertionSort (· ≤ ·)).flatten.Perm (List.range seqlens.length) := by
    rw [hlength, ← uidGroups_flatten]
    refine List.Perm.trans ?_ (sampleIndices_perm hbalanced)
    rw [← List.flatMap_def, ← List.flatMap_def]
    exact List.Perm.flatMap_left _ fun partition _ => sorted_perm _
  have hgroups : ∀ partition ∈ partitions.map fun partition =>
      (sampleIndices (uidGroups uids) partition).insertionSort (· ≤ ·),
      ∃ groups, groups ⊆ uidGroups uids ∧ partition.Perm groups.flatten ∧
        groups.length * k = (uidGroups uids).length := by
    intro partition hpartition
    obtain ⟨indices, hindices, rfl⟩ := List.mem_map.mp hpartition
    refine ⟨indices.map fun g => (uidGroups uids).getD g [], ?_, ?_, ?_⟩
    · intro group hgroup
      obtain ⟨g, hg, rfl⟩ := List.mem_map.mp hgroup
      rw [List.getD_eq_getElem?_getD, List.getElem?_eq_getElem (hbelow hindices g hg),
        Option.getD_some]
      exact List.getElem_mem _
    · rw [← List.flatMap_def]
      exact sorted_perm _
    · rw [List.length_map, h.equal rfl indices hindices, List.length_map]
  constructor
  · rw [List.length_map, h.length_eq]
  · exact hperm
  · intro partition hpartition
    have hnodup : partition.Nodup := by
      have hall := hperm.nodup_iff.mpr List.nodup_range
      exact (List.nodup_flatten.mp hall).1 partition hpartition
    obtain ⟨indices, -, rfl⟩ := List.mem_map.mp hpartition
    exact (List.pairwise_insertionSort (· ≤ ·) _).imp₂
      (fun _ _ hle hne => lt_of_le_of_ne hle hne) hnodup
  · exact hgroups
  · intro partition hpartition i hi huid
    obtain ⟨groups, hsub, hunion, -⟩ := hgroups partition hpartition
    exact mem_partition_iff_succ hsub hunion hi huid
  · intro bound hbound
    have hsums : (partitions.map fun partition => (sampleIndices (uidGroups uids)
        partition).insertionSort (· ≤ ·)).map (groupWorkload seqlens) =
        partitions.map (partitionSum ((uidGroups uids).map (groupWorkload seqlens))) := by
      rw [List.map_map]
      apply List.map_congr_left
      intro partition hpartition
      rw [Function.comp_apply, groupWorkload_perm seqlens (sorted_perm _)]
      exact groupWorkload_sampleIndices seqlens _ (hbelow hpartition)
    rw [hsums]
    apply h.within bound
    simpa using hbound

theorem getGroupBalancedPartitions_requires {seqlens : List Nat} {uids : List (Option α)} {k : Nat}
    (h : Returns (getGroupBalancedPartitions seqlens uids k)) :
    seqlens.length = uids.length ∧ 0 < k ∧ k ≤ (uidGroups uids).length ∧
      k ∣ (uidGroups uids).length := by
  obtain ⟨result, hresult⟩ := h
  unfold getGroupBalancedPartitions at hresult
  simp only [bind_eq_ok, raiseIf_eq_ok, not_not] at hresult
  obtain ⟨-, hlength, -, -, partitions, hpartitions, -⟩ := hresult
  obtain ⟨hk, hsize, hdvd⟩ := getSeqlenBalancedPartitions_requires ⟨partitions, hpartitions⟩
  rw [List.length_map] at hsize hdvd
  exact ⟨hlength, hk, hsize, hdvd rfl⟩

theorem getGroupBalancedPartitions_final {seqlens : List Nat} {uids : List (Option α)} {k : Nat}
    (hlength : seqlens.length = uids.length) (hk : 0 < k) (hsize : k ≤ (uidGroups uids).length)
    (hdvd : k ∣ (uidGroups uids).length) :
    ∃ partitions, getGroupBalancedPartitions seqlens uids k = .ok partitions ∧
      GroupBalanced seqlens uids k partitions := by
  have hnonneg : ∀ v ∈ (uidGroups uids).map (groupWorkload seqlens), 0 ≤ v := by
    intro v hv
    obtain ⟨group, -, rfl⟩ := List.mem_map.mp hv
    exact groupWorkload_nonneg seqlens group
  obtain ⟨partitions, hreturn, hbalanced⟩ := getSeqlenBalancedPartitions_final
    true hnonneg hk (by rwa [List.length_map]) (by rwa [List.length_map, imp_iff_right rfl])
  refine ⟨_, ?_, hbalanced.groupBalanced hlength⟩
  unfold getGroupBalancedPartitions
  simp [raiseIf_of_not (not_not.mpr hlength), raiseIf_of_not (not_lt.mpr hsize), hreturn]

/-- The function returns exactly where the groups can be dealt out evenly, and it never takes a
    group apart. -/
theorem getGroupBalancedPartitions_balanced (seqlens : List Nat) (uids : List (Option α))
    (k : Nat) :
    (Returns (getGroupBalancedPartitions seqlens uids k) ↔
      seqlens.length = uids.length ∧ 0 < k ∧ k ≤ (uidGroups uids).length ∧
        k ∣ (uidGroups uids).length) ∧
    ∀ partitions, getGroupBalancedPartitions seqlens uids k = .ok partitions →
      GroupBalanced seqlens uids k partitions := by
  constructor
  · constructor
    · exact getGroupBalancedPartitions_requires
    · rintro ⟨hlength, hk, hsize, hdvd⟩
      obtain ⟨partitions, hreturn, -⟩ := getGroupBalancedPartitions_final hlength hk hsize hdvd
      exact ⟨partitions, hreturn⟩
  · intro partitions hreturn
    obtain ⟨hlength, hk, hsize, hdvd⟩ := getGroupBalancedPartitions_requires ⟨partitions, hreturn⟩
    obtain ⟨found, hfound, hbalanced⟩ := getGroupBalancedPartitions_final hlength hk hsize hdvd
    rwa [Except.ok.inj (hreturn.symm.trans hfound)]

end R2opl
