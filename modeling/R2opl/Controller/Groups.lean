import R2opl.Tokens
import R2opl.Lib.Share

/-!
# Prompt groups

The parts the group controllers have in common: the outcome of a row, the loop
over prompt groups and the statistics it returns.  A row is *genuine* unless it
is a padding row; only genuine rows count.
-/

namespace R2opl

open Checked

variable {K : Type} [Field K] [LinearOrder K]

/-! ### Inputs of a controller -/

/-- The check on an optional row mask. -/
def checkRowMask (message : String) (batchSize : Nat) :
    Option (Tensor Bool) → Except PyError Unit
  | none => .ok ()
  | some mask => raiseIf (mask.ndim ≠ 1 ∨ mask.size 0 ≠ batchSize) (valueError message)

/-- `torch.ones(batch_size)` when no mask is given. -/
def genuineMask (batchSize : Nat) (mask : Option (Tensor Bool)) : Tensor Bool :=
  mask.getD (.vec batchSize fun _ => true)

/-- `torch.zeros(batch_size)` when no mask is given. -/
def flagMask (batchSize : Nat) (mask : Option (Tensor Bool)) : Tensor Bool :=
  mask.getD (.vec batchSize fun _ => false)

/-- The verifier score of every row: the row sum of a two-dimensional tensor. -/
def rowRewards [Zero α] [Add α] (rewards : Tensor α) : Tensor α :=
  if rewards.ndim = 2 then rewards.sumLast else rewards

/-- `_sequence_rewards`: the row count is checked before the sum and after it. -/
def sequenceRewards (batchMessage dimensionMessage : String) (rewards : Tensor (Flt K))
    (batchSize : Nat) : Except PyError (Tensor (Flt K)) := do
  raiseIf (rewards.ndim = 2 ∧ rewards.size 0 ≠ batchSize) (valueError batchMessage)
  raiseIf (rewards.ndim ≠ 2 ∧ rewards.ndim ≠ 1) (valueError dimensionMessage)
  let sequence := rowRewards rewards
  raiseIf (sequence.size 0 ≠ batchSize) (valueError batchMessage)
  return sequence

def isBinary (reward : Flt K) : Bool := reward.eq 0 || reward.eq 1

/-- `_validate_binary_rewards`, with the texts around the invalid values. -/
def validateBinaryRewards [ToString K] (finiteMessage beforeValues afterValues : String)
    (rewards : List (Flt K)) : Except PyError Unit := do
  raiseIf (∃ reward ∈ rewards, reward.isFinite = false) (valueError finiteMessage)
  let invalid := rewards.filter fun reward => !isBinary reward
  raiseIf (invalid ≠ [])
    (valueError (beforeValues ++ listText ((invalid.take 5).map toString) ++ afterValues))

/-- The genuine rows without any response token. -/
def emptyRows (responseMask genuine : Tensor Bool) : List Nat :=
  (List.range (responseMask.size 0)).filter fun row =>
    genuine.at1 row && tokenCount (maskRows responseMask genuine) row = 0

/-- The error text names the first five of these rows. -/
def raiseOnEmptyRows (beforeRows afterRows : String) (responseMask genuine : Tensor Bool) :
    Except PyError Unit :=
  raiseIf (emptyRows responseMask genuine ≠ []) (valueError (beforeRows ++
    listText (((emptyRows responseMask genuine).take 5).map toString) ++ afterRows))

/-! ### The group loop -/

/-- `dict.fromkeys`: the group ids in order of first occurrence. -/
def orderedGroups (promptGroupIds : List String) : List String := promptGroupIds.eraseDups

def groupId (promptGroupIds : List String) (row : Nat) : String :=
  promptGroupIds.getD row ""

def groupIndices (promptGroupIds : List String) (genuine : Tensor Bool) (group : String) :
    List Nat :=
  (List.range promptGroupIds.length).filter fun row =>
    groupId promptGroupIds row = group && genuine.at1 row

structure GroupStatistics (K : Type) where
  difficulty : Tensor (Flt K)
  groupSuccess : List (Flt K)

def successRate (promptGroupIds : List String) (genuine correctness : Tensor Bool)
    (group : String) : Flt K :=
  Flt.mean ((groupIndices promptGroupIds genuine group).map fun row =>
    Flt.ofBool (correctness.at1 row))

/-- One group of the loop; a group of padding rows only is skipped. -/
def scoreGroup (promptGroupIds : List String) (genuine correctness : Tensor Bool)
    (statistics : GroupStatistics K) (group : String) : GroupStatistics K :=
  let indices := groupIndices promptGroupIds genuine group
  if indices = [] then statistics
  else
    let success : Flt K := successRate promptGroupIds genuine correctness group
    { difficulty := statistics.difficulty.setIndices indices (1 - success)
      groupSuccess := statistics.groupSuccess ++ [success] }

def groupStatistics (batchSize : Nat) (promptGroupIds : List String)
    (genuine correctness : Tensor Bool) : GroupStatistics K :=
  (orderedGroups promptGroupIds).foldl (scoreGroup promptGroupIds genuine correctness)
    ⟨.vec batchSize fun _ => 0, []⟩

/-- The number of true entries of a row mask. -/
def countRows (flags : Tensor Bool) : Flt K :=
  Flt.fin (((List.range (flags.size 0)).filter flags.at1).length : Nat)

/-- The number of true entries of a token mask. -/
def countTokens (mask : Tensor Bool) : Flt K :=
  Flt.fin (((List.range (mask.size 0)).map (tokenCount mask)).sum : Nat)

/-- `left & ~right` on row masks. -/
def exceptRows (left right : Tensor Bool) : Tensor Bool :=
  .vec (left.size 0) fun row => left.at1 row && !right.at1 row

/-- The entries with which every controller's metrics begin. -/
def outcomeMetrics (scope : String) (genuine correctness : Tensor Bool)
    (groupSuccess : List (Flt K)) : List (String × Flt K) :=
  let correct := correctness.select genuine
  [(scope ++ "mean_score", Flt.mean (correct.map Flt.ofBool)),
    (scope ++ "group_success_rate", Flt.mean groupSuccess),
    (scope ++ "prompt_difficulty_mean", Flt.mean (groupSuccess.map (1 - ·))),
    (scope ++ "correct_trajectory_count", countRows correctness),
    (scope ++ "error_trajectory_count", countRows (exceptRows genuine correctness)),
    (scope ++ "correct_trajectory_ratio", Flt.mean (correct.map Flt.ofBool)),
    (scope ++ "error_trajectory_ratio", Flt.mean (correct.map fun flag => Flt.ofBool !flag))]

/-! ### What the checks accept -/

/-- The inputs a controller accepts, of whatever it is given per row. -/
structure Admissible (responseMask : Tensor Bool) (rewards : Tensor (Flt K))
    (ids : List String) (mask : Option (Tensor Bool)) : Prop where
  mask_ndim : responseMask.ndim = 2
  ids_length : ids.length = responseMask.size 0
  genuine_shape : ∀ given, mask = some given →
    given.ndim = 1 ∧ given.size 0 = responseMask.size 0
  rewards_ndim : rewards.ndim = 2 ∨ rewards.ndim = 1
  rewards_size : rewards.size 0 = responseMask.size 0
  tokens : emptyRows responseMask (genuineMask (responseMask.size 0) mask) = []
  binary : ∀ row < responseMask.size 0,
    (genuineMask (responseMask.size 0) mask).at1 row = true →
      isBinary ((rowRewards rewards).at1 row) = true
  some_genuine : ∃ row < responseMask.size 0,
    (genuineMask (responseMask.size 0) mask).at1 row = true

theorem checkRowMask_eq_ok {message : String} {batchSize : Nat}
    {mask : Option (Tensor Bool)} :
    checkRowMask message batchSize mask = .ok () ↔
      ∀ given, mask = some given → given.ndim = 1 ∧ given.size 0 = batchSize := by
  cases mask with
  | none => simp [checkRowMask]
  | some given => simp [checkRowMask]

theorem raiseOnEmptyRows_eq_ok {before after : String}
    {responseMask genuine : Tensor Bool} :
    raiseOnEmptyRows before after responseMask genuine = .ok () ↔
      emptyRows responseMask genuine = [] := by
  rw [raiseOnEmptyRows, raiseIf_eq_ok, not_not]

theorem size_rowRewards [Zero α] [Add α] (rewards : Tensor α) :
    (rowRewards rewards).size 0 = rewards.size 0 := by
  rw [rowRewards]
  split
  · rfl
  · rfl

omit [LinearOrder K] in
theorem sequenceRewards_eq_ok {batchMessage dimensionMessage : String}
    {rewards sequence : Tensor (Flt K)} {batchSize : Nat} :
    sequenceRewards batchMessage dimensionMessage rewards batchSize = .ok sequence ↔
      (rewards.ndim = 2 ∨ rewards.ndim = 1) ∧ rewards.size 0 = batchSize ∧
        sequence = rowRewards rewards := by
  simp only [sequenceRewards, raiseIf_bind_eq_ok, size_rowRewards, pure_eq_ok,
    Except.ok.injEq, not_not, ne_eq]
  constructor
  · rintro ⟨_, hndim, hsize, rfl⟩
    exact ⟨by omega, hsize, rfl⟩
  · rintro ⟨hndim, hsize, rfl⟩
    exact ⟨fun h => h.2 hsize, by omega, hsize, rfl⟩

theorem isFinite_of_isBinary {reward : Flt K} (h : isBinary reward = true) :
    reward.isFinite = true := by
  rw [isBinary, Bool.or_eq_true, Flt.eq_iff, Flt.eq_iff] at h
  rcases h with ⟨rfl, _⟩ | ⟨rfl, _⟩
  · rfl
  · rfl

theorem validateBinaryRewards_eq_ok [ToString K] {finiteMessage before after : String}
    {rewards : List (Flt K)} :
    validateBinaryRewards finiteMessage before after rewards = .ok () ↔
      ∀ reward ∈ rewards, isBinary reward = true := by
  simp only [validateBinaryRewards, raiseIf_bind_eq_ok, raiseIf_eq_ok, not_not,
    List.filter_eq_nil_iff, ne_eq]
  constructor
  · rintro ⟨_, hbinary⟩ reward hreward
    simpa using hbinary reward hreward
  · intro hbinary
    refine ⟨?_, fun reward hreward => by simpa using hbinary reward hreward⟩
    rintro ⟨reward, hreward, hinfinite⟩
    rw [isFinite_of_isBinary (hbinary reward hreward)] at hinfinite
    cases hinfinite

theorem validateBinaryRewards_select [ToString K] {finiteMessage before after : String}
    {rewards : Tensor (Flt K)} {genuine : Tensor Bool} :
    validateBinaryRewards finiteMessage before after (rewards.select genuine) = .ok () ↔
      ∀ row < rewards.size 0, genuine.at1 row = true → isBinary (rewards.at1 row) = true := by
  rw [validateBinaryRewards_eq_ok]
  constructor
  · intro h row hrow hgenuine
    exact h _ (Tensor.mem_select.mpr ⟨row, hrow, hgenuine, rfl⟩)
  · intro h reward hreward
    obtain ⟨row, hrow, hgenuine, rfl⟩ := Tensor.mem_select.mp hreward
    exact h row hrow hgenuine

/-- Every genuine row has a response token. -/
theorem exists_token_of_emptyRows {responseMask genuine : Tensor Bool}
    (h : emptyRows responseMask genuine = []) {row : Nat} (hrow : row < responseMask.size 0)
    (hgenuine : genuine.at1 row = true) :
    ∃ column < responseMask.size 1, responseMask.at2 row column = true := by
  have hcount := List.filter_eq_nil_iff.mp h row (List.mem_range.mpr hrow)
  rw [hgenuine, Bool.true_and, decide_eq_true_eq, tokenCount, List.length_eq_zero_iff,
    List.filter_eq_nil_iff] at hcount
  simp only [Tensor.row, List.mem_map, List.mem_range, not_forall, id] at hcount
  obtain ⟨_, ⟨column, hcolumn, rfl⟩, htoken⟩ := hcount
  refine ⟨column, hcolumn, ?_⟩
  have hvalue : (maskRows responseMask genuine).at2 row column = true := by
    simpa using htoken
  exact (Bool.and_eq_true _ _ ▸ hvalue).1

/-! ### What the loop computes -/

theorem mem_groupIndices {ids : List String} {genuine : Tensor Bool} {group : String}
    {row : Nat} : row ∈ groupIndices ids genuine group ↔
      row < ids.length ∧ groupId ids row = group ∧ genuine.at1 row = true := by
  simp [groupIndices]

theorem mem_orderedGroups {ids : List String} {row : Nat} (hrow : row < ids.length) :
    groupId ids row ∈ orderedGroups ids := by
  rw [orderedGroups, List.mem_eraseDups, groupId, List.getD_eq_getElem?_getD,
    List.getElem?_eq_getElem hrow, Option.getD_some]
  exact List.getElem_mem hrow

section Loop

variable {ids : List String} {genuine correctness : Tensor Bool}

theorem shape_foldl_scoreGroup (groups : List String) :
    ∀ statistics : GroupStatistics K,
      (groups.foldl (scoreGroup ids genuine correctness) statistics).difficulty.shape =
        statistics.difficulty.shape := by
  induction groups with
  | nil => intro statistics; rfl
  | cons group rest ih =>
    intro statistics
    rw [List.foldl_cons, ih, scoreGroup]
    split
    · rfl
    · rfl

/-- A genuine row of a visited group holds its group's difficulty, any other row
    what it held before. -/
theorem difficulty_foldl_scoreGroup {row : Nat} (hrow : row < ids.length)
    (groups : List String) :
    ∀ statistics : GroupStatistics K,
      (groups.foldl (scoreGroup ids genuine correctness) statistics).difficulty.at1 row =
        if groupId ids row ∈ groups ∧ genuine.at1 row = true then
          1 - successRate ids genuine correctness (groupId ids row)
        else statistics.difficulty.at1 row := by
  induction groups with
  | nil => intro statistics; simp
  | cons group rest ih =>
    intro statistics
    rw [List.foldl_cons, ih]
    by_cases hlater : groupId ids row ∈ rest ∧ genuine.at1 row = true
    · rw [if_pos hlater, if_pos ⟨List.mem_cons_of_mem _ hlater.1, hlater.2⟩]
    · rw [if_neg hlater]
      -- the row is not visited later, so this round decides
      by_cases hhere : row ∈ groupIndices ids genuine group
      · obtain ⟨_, rfl, hgenuine⟩ := mem_groupIndices.mp hhere
        have hsome : groupIndices ids genuine (groupId ids row) ≠ [] :=
          List.ne_nil_of_mem hhere
        rw [scoreGroup, if_neg hsome, Tensor.at1_setIndices, if_pos hhere,
          if_pos ⟨List.mem_cons_self, hgenuine⟩]
      · have hkeep : (scoreGroup ids genuine correctness statistics group).difficulty.at1 row =
            statistics.difficulty.at1 row := by
          rw [scoreGroup]
          split
          · rfl
          · rw [Tensor.at1_setIndices, if_neg hhere]
        rw [hkeep, if_neg]
        rintro ⟨hmem, hgenuine⟩
        rcases List.mem_cons.mp hmem with heq | hrest
        · exact hhere (mem_groupIndices.mpr ⟨hrow, heq, hgenuine⟩)
        · exact hlater ⟨hrest, hgenuine⟩

theorem groupSuccess_foldl_scoreGroup (groups : List String) :
    ∀ statistics : GroupStatistics K,
      (groups.foldl (scoreGroup ids genuine correctness) statistics).groupSuccess =
        statistics.groupSuccess ++
          (groups.filter fun group => groupIndices ids genuine group ≠ []).map
            (successRate ids genuine correctness) := by
  induction groups with
  | nil => intro statistics; simp
  | cons group rest ih =>
    intro statistics
    rw [List.foldl_cons, ih, scoreGroup]
    by_cases hempty : groupIndices ids genuine group = []
    · simp [hempty]
    · simp [hempty]

/-- The loop finds a group exactly when some row is genuine. -/
theorem groupStatistics_ne_nil {batchSize : Nat} (hids : ids.length = batchSize) :
    (groupStatistics batchSize ids genuine correctness : GroupStatistics K).groupSuccess ≠ [] ↔
      ∃ row < batchSize, genuine.at1 row = true := by
  rw [← hids, groupStatistics, groupSuccess_foldl_scoreGroup, List.nil_append, ne_eq,
    List.map_eq_nil_iff, List.filter_eq_nil_iff, not_forall]
  constructor
  · rintro ⟨group, hgroup⟩
    rw [Classical.not_imp] at hgroup
    obtain ⟨row, hrow⟩ := List.exists_mem_of_ne_nil _ (by simpa using hgroup.2)
    obtain ⟨hlt, _, hgenuine⟩ := mem_groupIndices.mp hrow
    exact ⟨row, hlt, hgenuine⟩
  · rintro ⟨row, hrow, hgenuine⟩
    refine ⟨groupId ids row, ?_⟩
    rw [Classical.not_imp]
    have hmem := mem_groupIndices.mpr ⟨hrow, rfl, hgenuine⟩
    exact ⟨mem_orderedGroups hrow, by simpa using List.ne_nil_of_mem hmem⟩

/-- The difficulty of a row: one minus its group's success rate if it is genuine,
    zero if it is padding. -/
theorem difficulty_groupStatistics {batchSize row : Nat} (hrow : row < ids.length) :
    (groupStatistics batchSize ids genuine correctness : GroupStatistics K).difficulty.at1 row =
      if genuine.at1 row then 1 - successRate ids genuine correctness (groupId ids row)
      else 0 := by
  rw [groupStatistics, difficulty_foldl_scoreGroup hrow]
  simp [mem_orderedGroups hrow]

theorem difficulty_of_padding
    {batchSize row : Nat} (hrow : row < ids.length) (hpadding : genuine.at1 row = false) :
    (groupStatistics batchSize ids genuine correctness : GroupStatistics K).difficulty.at1 row =
      Flt.fin 0 := by
  rw [difficulty_groupStatistics hrow, hpadding]
  rfl

end Loop

/-! ### Difficulty as a share -/

section Difficulty

variable [IsStrictOrderedRing K] {ids : List String} {genuine correctness : Tensor Bool}
  {batchSize row : Nat}

/-- One minus the share of correct rows among the genuine rows of a group. -/
def groupDifficulty (K : Type) [Field K] (ids : List String) (genuine correctness : Tensor Bool)
    (group : String) : K :=
  1 - Share.share K correctness.at1 (groupIndices ids genuine group)

theorem difficulty_of_genuine (hrow : row < ids.length) (hgenuine : genuine.at1 row = true) :
    (groupStatistics batchSize ids genuine correctness : GroupStatistics K).difficulty.at1 row =
      Flt.fin (groupDifficulty K ids genuine correctness (groupId ids row)) := by
  have hmem := mem_groupIndices.mpr ⟨hrow, rfl, hgenuine⟩
  rw [difficulty_groupStatistics hrow, if_pos hgenuine, successRate,
    Flt.mean_ofBool (List.ne_nil_of_mem hmem), Flt.one_eq, Flt.fin_sub, groupDifficulty,
    Share.share]

theorem groupDifficulty_pos (hrow : row < ids.length) (hgenuine : genuine.at1 row = true)
    (hincorrect : correctness.at1 row = false) :
    0 < groupDifficulty K ids genuine correctness (groupId ids row) := by
  have hmem := mem_groupIndices.mpr ⟨hrow, rfl, hgenuine⟩
  exact sub_pos.mpr (Share.share_lt_one hmem hincorrect)

theorem groupDifficulty_nonneg (ids : List String) (genuine correctness : Tensor Bool)
    (group : String) : 0 ≤ groupDifficulty K ids genuine correctness group :=
  sub_nonneg.mpr (Share.share_le_one _ _)

/-- A group whose genuine rows are all correct has no difficulty. -/
theorem groupDifficulty_eq_zero (hrow : row < ids.length) (hgenuine : genuine.at1 row = true)
    (hall : ∀ other ∈ groupIndices ids genuine (groupId ids row), correctness.at1 other = true) :
    groupDifficulty K ids genuine correctness (groupId ids row) = 0 := by
  have hmem := mem_groupIndices.mpr ⟨hrow, rfl, hgenuine⟩
  rw [groupDifficulty, Share.share_eq_one hmem hall, sub_self]

omit [LinearOrder K] [IsStrictOrderedRing K] in
/-- The difficulty of a group depends on the rows of the group alone. -/
theorem groupDifficulty_congr {genuine' correctness' : Tensor Bool} {group : String}
    (hgenuine : ∀ row < ids.length, groupId ids row = group →
      genuine.at1 row = genuine'.at1 row)
    (hcorrectness : ∀ row < ids.length, groupId ids row = group →
      correctness.at1 row = correctness'.at1 row) :
    groupDifficulty K ids genuine correctness group =
      groupDifficulty K ids genuine' correctness' group := by
  have hindices : groupIndices ids genuine group = groupIndices ids genuine' group := by
    apply List.filter_congr
    intro row hrow
    by_cases hgroup : groupId ids row = group
    · rw [hgenuine row (List.mem_range.mp hrow) hgroup]
    · rw [decide_eq_false hgroup, Bool.false_and, Bool.false_and]
  rw [groupDifficulty, groupDifficulty, hindices]
  apply congrArg (1 - ·)
  apply Share.share_congr
  intro row hrow
  obtain ⟨hlt, hgroup, _⟩ := mem_groupIndices.mp hrow
  exact hcorrectness row hlt hgroup

theorem groupDifficulty_lt_one (hrow : row < ids.length) (hgenuine : genuine.at1 row = true)
    (hcorrect : correctness.at1 row = true) :
    groupDifficulty K ids genuine correctness (groupId ids row) < 1 := by
  have hmem := mem_groupIndices.mpr ⟨hrow, rfl, hgenuine⟩
  exact sub_lt_self 1 (Share.share_pos hmem hcorrect)

end Difficulty

end R2opl
