import R2opl.Opdvr.Contract
import Mathlib.Algebra.Order.Ring.Defs
import Mathlib.Tactic.Linarith

/-!
# The sign contract under group-relative scaling

Correct rows shall receive advantages that are not negative, incorrect rows ones
that are not positive.  The gate ensures it; the factor `reward - group mean`
turns the sign of every row below its group's mean.
-/

namespace R2opl

open Checked

variable {K : Type} [Field K] [LinearOrder K]

/-- The contract on the tokens of an advantage tensor. -/
def SignContract (correct : Tensor Bool) (advantage : Tensor (Flt K)) : Prop :=
  ∀ row < advantage.size 0, ∀ column < advantage.size 1,
    if correct.at1 row then Flt.le 0 (advantage.at2 row column) = true
    else Flt.le (advantage.at2 row column) 0 = true

/-! ### The scaling of a group -/

def groupRows (groupIds : List String) (group : String) : List Nat :=
  (List.range groupIds.length).filter fun row => groupIds.getD row "" = group

/-- The mean reward of a group. -/
def groupMean (groupIds : List String) (rewards : Nat → K) (group : String) : K :=
  ((groupRows groupIds group).map rewards).sum / (groupRows groupIds group).length

omit [LinearOrder K] in
/-- The dictionaries hold the sum and the number of the entries of every group. -/
theorem foldl_addReward (entries : List (String × K)) (key : String) :
    ∀ (totals : GroupTotals K) (sum : K), totals.sums key = .fin sum →
      let result := (entries.map fun entry => (entry.1, Flt.fin entry.2)).foldl addReward totals
      let members := entries.filter fun entry => entry.1 = key
      result.sums key = .fin (sum + (members.map Prod.snd).sum) ∧
        result.counts key = totals.counts key + members.length := by
  induction entries with
  | nil =>
    intro totals sum hsum
    simp [hsum]
  | cons entry rest ih =>
    intro totals sum hsum
    obtain ⟨group, reward⟩ := entry
    by_cases hgroup : group = key
    · subst hgroup
      have hnext : (addReward totals (group, .fin reward)).sums group = .fin (sum + reward) := by
        simp [addReward, hsum]
      obtain ⟨hsums, hcounts⟩ := ih _ _ hnext
      simp only [List.map_cons, List.foldl_cons, List.filter_cons, decide_true, if_true,
        List.sum_cons, List.length_cons]
      rw [hsums, hcounts]
      refine ⟨by rw [add_assoc], ?_⟩
      simp only [addReward, if_true]
      omega
    · have hother : ¬ key = group := fun heq => hgroup heq.symm
      have hnext : (addReward totals (group, .fin reward)).sums key = .fin sum := by
        simp [addReward, hsum, hother]
      obtain ⟨hsums, hcounts⟩ := ih _ _ hnext
      simp only [List.map_cons, List.foldl_cons, List.filter_cons, hgroup, decide_false,
        Bool.false_eq_true, if_false]
      rw [hsums, hcounts]
      simp [addReward, hother]

section Scaling

variable {groupIds : List String} {batchSize : Nat}

omit [Field K] [LinearOrder K] in
theorem zip_rewards (rewards : Nat → K) (hids : groupIds.length = batchSize) :
    groupIds.zip ((List.range batchSize).map fun row => Flt.fin (rewards row)) =
      ((List.range batchSize).map fun row => (groupIds.getD row "", rewards row)).map
        fun entry => (entry.1, Flt.fin entry.2) := by
  apply List.ext_getElem
  · simp [hids]
  · intro row hleft hright
    have hrow : row < groupIds.length := by
      rw [hids]
      simpa using hright
    simp [hrow]

/-- A row's scaling is its reward minus the mean of its group. -/
theorem opdvrGroupRelativeAdvantage_eq [CharZero K] (rewards : Nat → K) (hrows : 0 < batchSize)
    (hids : groupIds.length = batchSize) :
    ∃ scaling, opdvrGroupRelativeAdvantage (.vec batchSize fun row => Flt.fin (rewards row))
        groupIds = .ok scaling ∧
      grpdGroupAdvantage (.vec batchSize fun row => Flt.fin (rewards row)) groupIds =
        .ok scaling ∧
      ∀ row < batchSize, scaling.at1 row =
        .fin (rewards row - groupMean groupIds rewards (groupIds.getD row "")) := by
  have hnumel : (Tensor.vec batchSize fun row => Flt.fin (rewards row)).numel = batchSize :=
    Tensor.numel_of_shape rfl
  have hflat : (Tensor.vec batchSize fun row => Flt.fin (rewards row)).flatten.numel =
      batchSize := (Tensor.numel_of_shape (Tensor.shape_flatten _)).trans hnumel
  have hat : (Tensor.vec batchSize fun row => Flt.fin (rewards row)).flatten.at1 =
      fun row => Flt.fin (rewards row) := by
    funext row
    exact Tensor.at1_flatten rfl row
  have hrun : ∀ message, groupRelativeAdvantage message
      (.vec batchSize fun row => Flt.fin (rewards row)) groupIds = .ok (.vec batchSize fun row =>
        Flt.fin (rewards row) -
          (groupTotals (groupIds.zip ((List.range batchSize).map fun row =>
            Flt.fin (rewards row)))).sums (groupIds.getD row "") /
          .fin ((groupTotals (groupIds.zip ((List.range batchSize).map fun row =>
            Flt.fin (rewards row)))).counts (groupIds.getD row "") : K)) := by
    intro message
    simp only [groupRelativeAdvantage, raiseIf_bind_eq_ok, hflat, hat, not_not, ne_eq]
    exact ⟨hids, rfl⟩
  refine ⟨_, ?_, hrun _, ?_⟩
  · rw [opdvrGroupRelativeAdvantage, hrun, ok_bind, raiseIf_of_not, ok_bind, pure_eq_ok]
    rw [hnumel]
    exact hrows.ne'
  · intro row hrow
    obtain ⟨hsums, hcounts⟩ := foldl_addReward
      ((List.range batchSize).map fun row => (groupIds.getD row "", rewards row))
      (groupIds.getD row "") ⟨fun _ => 0, fun _ => 0⟩ 0 rfl
    have hmembers : ((List.range batchSize).map fun row =>
        (groupIds.getD row "", rewards row)).filter
          (fun entry => entry.1 = groupIds.getD row "") =
        (groupRows groupIds (groupIds.getD row "")).map fun row =>
          (groupIds.getD row "", rewards row) := by
      rw [List.filter_map, groupRows, hids]
      rfl
    have hmem : row ∈ groupRows groupIds (groupIds.getD row "") := by
      rw [groupRows, List.mem_filter, List.mem_range, hids]
      exact ⟨hrow, decide_eq_true rfl⟩
    have hcount : ((groupRows groupIds (groupIds.getD row "")).length : K) ≠ 0 := by
      rw [Nat.cast_ne_zero]
      exact (List.length_pos_iff.mpr (List.ne_nil_of_mem hmem)).ne'
    rw [Tensor.at1_vec, zip_rewards rewards hids, groupTotals, hsums, hcounts, hmembers, List.map_map,
      List.length_map, zero_add, Nat.zero_add, Flt.fin_div _ hcount, Flt.fin_sub]
    rfl

end Scaling

/-! ### Signs -/

/-- Not negative on a correct row, not positive on an incorrect one. -/
def HasSign (correct : Bool) (x : K) : Prop := if correct then 0 ≤ x else x ≤ 0

/-- The gate on finite signals. -/
def gateValue (correct : Bool) (x : K) : K := if correct then max (-x) 0 else -max x 0

theorem gateToken_fin (correct : Bool) (x : K) :
    gateToken correct (.fin x) = .fin (gateValue correct x) := by
  cases correct with
  | false => simp [gateToken, gateValue, Flt.clampMin_fin]
  | true => simp [gateToken, gateValue, Flt.clampMin_fin]

theorem le_iff_hasSign (correct : Bool) (x : K) :
    (if correct then Flt.le 0 (.fin x) = true else Flt.le (.fin x) 0 = true) ↔
      HasSign correct x := by
  cases correct with
  | false => simp [HasSign]
  | true => simp [HasSign]

section Signs

variable [IsStrictOrderedRing K] {correct : Bool}

theorem hasSign_gateValue (x : K) : HasSign correct (gateValue correct x) := by
  cases correct with
  | false => simp [HasSign, gateValue]
  | true => simp [HasSign, gateValue]

/-- The gate zeroes the signals that point against the verdict. -/
theorem gateValue_eq_zero {x : K} : gateValue correct x = 0 ↔ HasSign correct x := by
  cases correct with
  | false => simp [HasSign, gateValue]
  | true => simp [HasSign, gateValue]

/-- A factor keeps the sign of what it does not make zero, unless it is negative. -/
theorem hasSign_mul_iff {x factor : K} (hx : HasSign correct x) :
    HasSign correct (x * factor) ↔ x = 0 ∨ 0 ≤ factor := by
  rcases eq_or_ne x 0 with rfl | hne
  · rw [zero_mul]
    exact ⟨fun _ => .inl rfl, fun _ => hx⟩
  · cases correct with
    | true =>
      have hpos : 0 < x := lt_of_le_of_ne hx hne.symm
      simp only [HasSign, if_true, hne, false_or]
      exact mul_nonneg_iff_of_pos_left hpos
    | false =>
      have hneg : x < 0 := lt_of_le_of_ne hx hne
      simp only [HasSign, Bool.false_eq_true, if_false, hne, false_or]
      rw [← neg_nonneg, ← neg_mul]
      exact mul_nonneg_iff_of_pos_left (neg_pos.mpr hneg)

end Signs

/-! ### The contract -/

/-- The reference kernels composed: the gate and, with GRPD, the group scaling. -/
def opdvrReferenceAdvantage (grpd : Bool) (studentLogProbs teacherLogProbs : Tensor (Flt K))
    (correct : Tensor Bool) (responseMask : Option (Tensor Bool))
    (verifierRewards : Tensor (Flt K)) (groupIds : List String) :
    Except PyError (Tensor (Flt K)) := do
  let gated ← opdvrGatedAdvantage studentLogProbs teacherLogProbs correct responseMask
  if grpd then
    let scaling ← grpdGroupAdvantage verifierRewards groupIds
    return scaleRows gated scaling
  else return gated

/-- A batch of finite log-probabilities, with one verifier reward a row. -/
structure OpdvrBatch (K : Type) where
  batchSize : Nat
  width : Nat
  student : Nat → Nat → K
  teacher : Nat → Nat → K
  responseMask : Nat → Nat → Bool
  rewards : Nat → K
  groupIds : List String
  lossMaxClamp : Option K

namespace OpdvrBatch

variable (batch : OpdvrBatch K)

def studentLogProbs : Tensor (Flt K) :=
  .mat batch.batchSize batch.width fun row column => .fin (batch.student row column)

def teacherLogProbs : Tensor (Flt K) :=
  .mat batch.batchSize batch.width fun row column => .fin (batch.teacher row column)

def mask : Tensor Bool := .mat batch.batchSize batch.width batch.responseMask

def verifierRewards : Tensor (Flt K) :=
  .vec batch.batchSize fun row => .fin (batch.rewards row)

/-- `verifier_rewards > 0.5`. -/
def correctRows : Tensor Bool :=
  batch.verifierRewards.map fun reward => Flt.lt (.fin (1 / 2)) reward

/-- The signal the gate sees: the clamped difference of the log-probabilities. -/
def signal (row column : Nat) : K :=
  clampValue batch.lossMaxClamp (batch.student row column - batch.teacher row column)

def signalTensor : Tensor (Flt K) :=
  (sampledReverseKl batch.studentLogProbs batch.teacherLogProbs).map
    (clampSignal (batch.lossMaxClamp.map Flt.fin))

/-- The gate and the scaling that the production loss makes up, with the row flags expanded over
    the tokens.  No line of the source expands them: the loss hands them on as they are, one score a
    row, and the gate raises, as the contract of the outcome scores shows. -/
def run (grpd : Bool) : Except PyError (Tensor (Flt K) × Option (Tensor (Flt K))) :=
  gateAndScale grpd batch.signalTensor
    (batch.correctRows.expandRows batch.batchSize batch.width) (some batch.mask)
    batch.verifierRewards batch.groupIds

/-- Below the group mean the gate already zeroes every response token. -/
def ZeroBelowMean : Prop :=
  ∀ row < batch.batchSize,
    batch.rewards row < groupMean batch.groupIds batch.rewards (batch.groupIds.getD row "") →
    ∀ column < batch.width, batch.responseMask row column = true →
      HasSign (batch.correctRows.at1 row) (batch.signal row column)

/-- The gated value of a token. -/
def gated (row column : Nat) : K :=
  if batch.responseMask row column then
    gateValue (batch.correctRows.at1 row) (batch.signal row column)
  else 0

/-- The tensor both gates return. -/
def gatedTensor : Tensor (Flt K) :=
  gatedRows batch.signalTensor batch.correctRows batch.mask

theorem gate_eq : opdvrCorrectnessGate batch.signalTensor
    (batch.correctRows.expandRows batch.batchSize batch.width) (some batch.mask) =
      .ok batch.gatedTensor :=
  opdvrCorrectnessGate_expanded rfl rfl

/-- Without clamp the reference gate sees the same signal. -/
theorem reference_gate_eq (h : batch.lossMaxClamp = none) :
    opdvrGatedAdvantage batch.studentLogProbs batch.teacherLogProbs batch.correctRows
      (some batch.mask) = .ok batch.gatedTensor := by
  have hsignal : batch.signalTensor =
      sampledReverseKl batch.studentLogProbs batch.teacherLogProbs := by
    rw [signalTensor, h]
    rfl
  rw [gatedTensor, hsignal]
  exact opdvrGatedAdvantage_of_shapes rfl rfl rfl

theorem at2_gatedTensor (row column : Nat) :
    batch.gatedTensor.at2 row column = .fin (batch.gated row column) := by
  simp only [gatedTensor, gatedRows, Tensor.at2_mat, signalTensor, Tensor.at2_map,
    sampledReverseKl, studentLogProbs, teacherLogProbs, Flt.fin_sub, clampSignal_fin,
    gateToken_fin, mask, gated]
  cases batch.responseMask row column with
  | false => simp
  | true => simp [signal]

section Contract

variable {batch} [IsStrictOrderedRing K]

theorem hasSign_gated (row column : Nat) :
    HasSign (batch.correctRows.at1 row) (batch.gated row column) := by
  rw [gated]
  split
  · exact hasSign_gateValue _
  · rw [HasSign]
    split
    · exact le_refl 0
    · exact le_refl 0

omit [IsStrictOrderedRing K] in
/-- The contract on values, token by token. -/
theorem signContract_iff {advantage : Tensor (Flt K)} {value : Nat → Nat → K}
    (hshape : advantage.shape = [batch.batchSize, batch.width])
    (hvalue : ∀ row < batch.batchSize, ∀ column < batch.width,
      advantage.at2 row column = .fin (value row column)) :
    SignContract batch.correctRows advantage ↔ ∀ row < batch.batchSize,
      ∀ column < batch.width, HasSign (batch.correctRows.at1 row) (value row column) := by
  have hsizes : advantage.size 0 = batch.batchSize ∧ advantage.size 1 = batch.width := by
    rw [Tensor.size, Tensor.size, hshape]
    exact ⟨rfl, rfl⟩
  rw [SignContract, hsizes.1, hsizes.2]
  constructor
  · intro h row hrow column hcolumn
    have htoken := h row hrow column hcolumn
    rw [hvalue row hrow column hcolumn] at htoken
    exact (le_iff_hasSign _ _).mp htoken
  · intro h row hrow column hcolumn
    rw [hvalue row hrow column hcolumn]
    exact (le_iff_hasSign _ _).mpr (h row hrow column hcolumn)

/-- Scaling breaks the contract exactly on the tokens that the gate leaves in a row
    below its group's mean. -/
theorem scaled_iff :
    (∀ row < batch.batchSize, ∀ column < batch.width, HasSign (batch.correctRows.at1 row)
      (batch.gated row column * (batch.rewards row -
        groupMean batch.groupIds batch.rewards (batch.groupIds.getD row "")))) ↔
      batch.ZeroBelowMean := by
  constructor
  · intro h row hrow hbelow column hcolumn hmask
    rcases (hasSign_mul_iff (hasSign_gated row column)).mp (h row hrow column hcolumn) with
      hzero | hfactor
    · rw [gated, if_pos hmask] at hzero
      exact gateValue_eq_zero.mp hzero
    · exact absurd hbelow (not_lt.mpr (sub_nonneg.mp hfactor))
  · intro h row hrow column hcolumn
    apply (hasSign_mul_iff (hasSign_gated row column)).mpr
    by_cases hbelow : batch.rewards row <
        groupMean batch.groupIds batch.rewards (batch.groupIds.getD row "")
    · left
      by_cases hmask : batch.responseMask row column = true
      · rw [gated, if_pos hmask]
        exact gateValue_eq_zero.mpr (h row hrow hbelow column hcolumn hmask)
      · rw [gated, if_neg hmask]
    · right
      exact sub_nonneg.mpr (not_lt.mp hbelow)

end Contract

end OpdvrBatch

section Main

variable [IsStrictOrderedRing K] {batch : OpdvrBatch K}

/-- **The sign contract.**  On every non-empty batch with one group id a row, the
    gated and scaled advantages exist, are those of the reference kernels when no
    clamp is set, and satisfy the contract if and only if GRPD is off or every row
    whose reward is below the mean of its group has only response tokens that
    point against its verdict. -/
theorem opdvr_sign_contract_iff (grpd : Bool) (hrows : 0 < batch.batchSize)
    (hids : batch.groupIds.length = batch.batchSize) :
    ∃ advantage scaling, batch.run grpd = .ok (advantage, scaling) ∧
      (batch.lossMaxClamp = none → opdvrReferenceAdvantage grpd batch.studentLogProbs
        batch.teacherLogProbs batch.correctRows (some batch.mask) batch.verifierRewards
        batch.groupIds = .ok advantage) ∧
      (SignContract batch.correctRows advantage ↔ (grpd = true → batch.ZeroBelowMean)) := by
  cases grpd with
  | false =>
    refine ⟨batch.gatedTensor, none, ?_, ?_, ?_⟩
    · rw [OpdvrBatch.run, gateAndScale, batch.gate_eq]
      rfl
    · intro hnone
      rw [opdvrReferenceAdvantage, batch.reference_gate_eq hnone]
      rfl
    · rw [OpdvrBatch.signContract_iff rfl fun row _ column _ => batch.at2_gatedTensor row column]
      constructor
      · intro _ hfalse
        cases hfalse
      · intro _ row _ column _
        exact OpdvrBatch.hasSign_gated row column
  | true =>
    obtain ⟨scaling, hscaling, hgrpd, hfactor⟩ :=
      opdvrGroupRelativeAdvantage_eq batch.rewards hrows hids
    refine ⟨scaleRows batch.gatedTensor scaling, some scaling, ?_, ?_, ?_⟩
    · rw [OpdvrBatch.run, gateAndScale, batch.gate_eq, ok_bind, if_pos rfl,
        OpdvrBatch.verifierRewards, hscaling]
      rfl
    · intro hnone
      rw [opdvrReferenceAdvantage, batch.reference_gate_eq hnone, ok_bind, if_pos rfl,
        OpdvrBatch.verifierRewards, hgrpd]
      rfl
    · have hvalue : ∀ row < batch.batchSize, ∀ column < batch.width,
          (scaleRows batch.gatedTensor scaling).at2 row column = .fin (batch.gated row column *
            (batch.rewards row -
              groupMean batch.groupIds batch.rewards (batch.groupIds.getD row ""))) := by
        intro row hrow column _
        rw [scaleRows, Tensor.at2_mat, batch.at2_gatedTensor, hfactor row hrow, Flt.fin_mul]
      rw [OpdvrBatch.signContract_iff rfl hvalue, OpdvrBatch.scaled_iff]
      simp

/-- One prompt with a correct and an incorrect row; the student prefers both tokens. -/
def mixedRewards : OpdvrBatch ℚ where
  batchSize := 2
  width := 1
  student := fun _ _ => 0
  teacher := fun _ _ => -1
  responseMask := fun _ _ => true
  rewards := fun row => if row = 0 then 1 else 0
  groupIds := ["q", "q"]
  lossMaxClamp := none

/-- Without GRPD the contract holds on this batch. -/
theorem opdvr_sign_contract_iff_without_grpd :
    ∃ advantage scaling, mixedRewards.run false = .ok (advantage, scaling) ∧
      SignContract mixedRewards.correctRows advantage := by
  obtain ⟨advantage, scaling, hrun, _, hcontract⟩ :=
    @opdvr_sign_contract_iff ℚ _ _ _ mixedRewards false (by decide) rfl
  refine ⟨advantage, scaling, hrun, hcontract.mpr ?_⟩
  intro hfalse
  cases hfalse

/-- With GRPD the token of the incorrect row gets the advantage `1/2`. -/
theorem opdvr_scaling_turns_the_sign :
    ∃ advantage scaling, mixedRewards.run true = .ok (advantage, scaling) ∧
      mixedRewards.correctRows.at1 1 = false ∧ advantage.at2 1 0 = .fin (1 / 2) ∧
      ¬ SignContract mixedRewards.correctRows advantage := by
  obtain ⟨scaling, hscaling, _, hfactor⟩ :=
    @opdvrGroupRelativeAdvantage_eq ℚ _ _ mixedRewards.groupIds 2 _ mixedRewards.rewards
      (by decide) rfl
  have hcorrect : mixedRewards.correctRows.at1 1 = false := by decide +kernel
  have hvalue : (scaleRows mixedRewards.gatedTensor scaling).at2 1 0 = .fin (1 / 2) := by
    rw [scaleRows, Tensor.at2_mat, mixedRewards.at2_gatedTensor, hfactor 1 (by decide)]
    decide +kernel
  refine ⟨scaleRows mixedRewards.gatedTensor scaling, some scaling, ?_, hcorrect, hvalue, ?_⟩
  · rw [OpdvrBatch.run, gateAndScale, mixedRewards.gate_eq, ok_bind, if_pos rfl,
      OpdvrBatch.verifierRewards]
    rw [show mixedRewards.batchSize = 2 from rfl, hscaling]
    rfl
  · intro hcontract
    have htoken := hcontract 1 Nat.one_lt_two 0 Nat.one_pos
    rw [hcorrect, hvalue] at htoken
    exact absurd htoken (by decide +kernel)

end Main

end R2opl
