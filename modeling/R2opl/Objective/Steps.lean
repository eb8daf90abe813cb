import Mathlib.Algebra.Order.Ring.Rat
import Mathlib.Algebra.Field.Rat
import R2opl.Objective.Modulation

/-!
# Token modulation, row by row

A row of the modulation kernel is its step ranges and the probabilities of its probe branches.
Everything that the kernel returns for the row is a function of these two, whatever the other
rows hold and however far the tensors are padded.
-/

namespace R2opl

open Checked

variable {K : Type}

/-! ### Rows -/

/-- The semantic steps of one response, with the probability `P k` of probe branch `k`. -/
structure SemanticRow (K : Type) where
  ranges : List (Nat × Nat)
  probability : Nat → K

namespace SemanticRow

variable (row : SemanticRow K)

def numSteps : Nat := row.ranges.length

/-- Step `step` is there and holds the token. -/
def Owns (step token : Nat) : Prop :=
  ∃ range, row.ranges[step]? = some range ∧ range.1 ≤ token ∧ token < range.2

/-- A step with a successor: the last step is never probed. -/
def Probed (step : Nat) : Prop := step + 1 < row.numSteps

instance (step : Nat) : Decidable (row.Probed step) := inferInstanceAs (Decidable (_ < _))

def delta [Field K] (step : Nat) : K :=
  if row.Probed step then row.probability (step + 1) - row.probability step else 0

end SemanticRow

section Gates

variable [Field K] [LinearOrder K]

/-- The multiplier that a change of the probe probability gives to the tokens of a correct
    rollout. -/
def correctGate (alphaR epsilon d : K) : K := max epsilon (1 + alphaR * d)

/-- The multiplier for the tokens of an incorrect rollout. -/
def errorGate (alphaD d : K) : K := max 0 (1 - alphaD * d)

variable [IsStrictOrderedRing K] {alphaR alphaD epsilon d : K}

/-- A change of a probability moves a gate by at most its coefficient. -/
theorem scaled_change {a : K} (ha : 0 ≤ a) (hlow : -1 ≤ d) (hhigh : d ≤ 1) :
    -a ≤ a * d ∧ a * d ≤ a := by
  constructor
  · have h := mul_le_mul_of_nonneg_left hlow ha
    rwa [mul_neg_one] at h
  · have h := mul_le_mul_of_nonneg_left hhigh ha
    rwa [mul_one] at h

theorem correctGate_mem (halpha : 0 ≤ alphaR) (hepsilon : epsilon ≤ 1) (hlow : -1 ≤ d)
    (hhigh : d ≤ 1) :
    max epsilon (1 - alphaR) ≤ correctGate alphaR epsilon d ∧
      correctGate alphaR epsilon d ≤ 1 + alphaR := by
  obtain ⟨hlower, hupper⟩ := scaled_change halpha hlow hhigh
  have hdown : 1 - alphaR ≤ 1 + alphaR * d := by
    rw [sub_eq_add_neg]
    exact add_le_add_right hlower 1
  have hup : 1 + alphaR * d ≤ 1 + alphaR := add_le_add_right hupper 1
  unfold correctGate
  exact ⟨max_le_max_left epsilon hdown,
    max_le (hepsilon.trans (le_add_of_nonneg_right halpha)) hup⟩

theorem errorGate_mem (halpha : 0 ≤ alphaD) (hlow : -1 ≤ d) (hhigh : d ≤ 1) :
    max 0 (1 - alphaD) ≤ errorGate alphaD d ∧ errorGate alphaD d ≤ 1 + alphaD := by
  obtain ⟨hlower, hupper⟩ := scaled_change halpha hlow hhigh
  have hdown : 1 - alphaD ≤ 1 - alphaD * d := sub_le_sub_left hupper 1
  have hup : 1 - alphaD * d ≤ 1 + alphaD := by
    rw [sub_eq_add_neg]
    exact add_le_add_right (neg_le.mp hlower) 1
  unfold errorGate
  exact ⟨max_le_max_left 0 hdown, max_le (add_nonneg zero_le_one halpha) hup⟩

end Gates

/-! ### Written steps -/

section Written

variable {ranges : Tensor Int} {steps : Nat → List Nat} {value : Nat → Nat → α}

/-- The range of a step in the tensor holds the token. -/
def Covers (ranges : Tensor Int) (row step token : Nat) : Prop :=
  (ranges.at3 row step 0).toNat ≤ token ∧ token < (ranges.at3 row step 1).toNat

theorem at2_writeStep {tokens : Tensor α} {row step i token : Nat} :
    (Covers ranges row step token → i = row →
      (writeStep ranges value row tokens step).at2 i token = value row step) ∧
    (¬ (i = row ∧ Covers ranges row step token) →
      (writeStep ranges value row tokens step).at2 i token = tokens.at2 i token) := by
  unfold writeStep Covers
  rw [Tensor.at2_setBlock]
  constructor
  · rintro ⟨hlow, hhigh⟩ rfl
    rw [if_pos ⟨le_rfl, Nat.lt_succ_self _, hlow, hhigh⟩]
  · intro hnot
    rw [if_neg]
    rintro ⟨hrow, hrow', hlow, hhigh⟩
    exact hnot ⟨Nat.le_antisymm (Nat.lt_succ_iff.mp hrow') hrow, hlow, hhigh⟩

/-- The steps of one row leave the other rows as they are. -/
theorem at2_foldl_writeStep_of_ne {row i token : Nat} (hrow : i ≠ row) (list : List Nat)
    (tokens : Tensor α) :
    (list.foldl (writeStep ranges value row) tokens).at2 i token = tokens.at2 i token := by
  induction list generalizing tokens with
  | nil => rfl
  | cons step rest ih =>
    rw [List.foldl_cons, ih]
    exact at2_writeStep.2 fun h => hrow h.1

theorem at2_foldl_writeStep_of_uncovered {row i token : Nat} (list : List Nat)
    (huncovered : ∀ step ∈ list, ¬ Covers ranges row step token) (tokens : Tensor α) :
    (list.foldl (writeStep ranges value row) tokens).at2 i token = tokens.at2 i token := by
  induction list generalizing tokens with
  | nil => rfl
  | cons step rest ih =>
    rw [List.foldl_cons, ih fun other hother => huncovered other (List.mem_cons_of_mem _ hother)]
    exact at2_writeStep.2 fun h => huncovered step List.mem_cons_self h.2

/-- A token takes the value of the step that holds it. -/
theorem at2_foldl_writeStep_of_covered {row token : Nat} {v : α} (list : List Nat)
    (hvalue : ∀ step ∈ list, Covers ranges row step token → value row step = v)
    (hcovered : ∃ step ∈ list, Covers ranges row step token) (tokens : Tensor α) :
    (list.foldl (writeStep ranges value row) tokens).at2 row token = v := by
  induction list generalizing tokens with
  | nil =>
    obtain ⟨_, hmem, _⟩ := hcovered
    exact absurd hmem List.not_mem_nil
  | cons step rest ih =>
    rw [List.foldl_cons]
    by_cases hrest : ∃ other ∈ rest, Covers ranges row other token
    · exact ih (fun other hother => hvalue other (List.mem_cons_of_mem _ hother)) hrest _
    · -- the head is the last step that holds the token
      rw [at2_foldl_writeStep_of_uncovered rest fun other hother hcovers =>
        hrest ⟨other, hother, hcovers⟩]
      obtain ⟨other, hother, hcovers⟩ := hcovered
      rcases List.mem_cons.mp hother with rfl | hmem
      · rw [at2_writeStep.1 hcovers rfl]
        exact hvalue other List.mem_cons_self hcovers
      · exact absurd ⟨other, hmem, hcovers⟩ hrest

variable {tokens : Tensor α} {row token : Nat}

theorem at2_writeSteps_of_uncovered
    (huncovered : ∀ step ∈ steps row, ¬ Covers ranges row step token) :
    (writeSteps ranges steps value tokens).at2 row token = tokens.at2 row token := by
  apply List.foldlRecOn (motive := fun written : Tensor α =>
    written.at2 row token = tokens.at2 row token)
  · rfl
  · intro written hwritten other _
    rw [← hwritten]
    by_cases hrow : row = other
    · subst hrow
      exact at2_foldl_writeStep_of_uncovered _ huncovered written
    · exact at2_foldl_writeStep_of_ne hrow _ written

theorem at2_writeSteps_of_covered {v : α} (hrow : row < tokens.size 0)
    (hvalue : ∀ step ∈ steps row, Covers ranges row step token → value row step = v)
    (hcovered : ∃ step ∈ steps row, Covers ranges row step token) :
    (writeSteps ranges steps value tokens).at2 row token = v := by
  have hrows : ∀ (rows : List Nat) (written : Tensor α),
      row ∈ rows ∨ written.at2 row token = v →
      (rows.foldl (fun written row => (steps row).foldl (writeStep ranges value row) written)
        written).at2 row token = v := by
    intro rows
    induction rows with
    | nil =>
      intro written h
      exact h.resolve_left List.not_mem_nil
    | cons other rest ih =>
      intro written h
      rw [List.foldl_cons]
      apply ih
      by_cases hother : row = other
      · subst hother
        exact .inr (at2_foldl_writeStep_of_covered _ hvalue hcovered written)
      · rw [at2_foldl_writeStep_of_ne hother]
        exact h.imp_left fun hmem => (List.mem_cons.mp hmem).resolve_left hother
  exact hrows _ tokens (.inl (List.mem_range.mpr hrow))

end Written

/-! ### The rows of an accepted batch -/

/-- The tensors the modulation kernel reads. -/
structure ModulationInput (K : Type) where
  probabilities : Tensor (Flt K)
  responseMask : Tensor Bool
  semanticStepRanges : Tensor Int
  semanticStepMask : Option (Tensor Bool)
  probeBranchMask : Option (Tensor Bool)

namespace ModulationInput

def run [Field K] [LinearOrder K] [ToString K] (input : ModulationInput K)
    (alphaR alphaD epsilon : Flt K) : Except PyError (R2OPLTokenModulation K) :=
  computeR2oplTokenModulation input.probabilities input.responseMask input.semanticStepRanges
    input.semanticStepMask input.probeBranchMask alphaR alphaD epsilon

variable (input : ModulationInput K)

def stepMask : Tensor Bool := stepMaskOf input.semanticStepRanges input.semanticStepMask

/-- Step `step` of a row is a step of its response, not padding. -/
def HasStep (row step : Nat) : Prop :=
  step < input.stepMask.size 1 ∧ input.stepMask.at2 row step = true

/-- What the tensors say of one row: its ranges, and the probabilities of the branches that it
    is probed with. -/
structure Row (index : Nat) (row : SemanticRow K) : Prop where
  hasStep : ∀ step, input.HasStep index step ↔ step < row.numSteps
  range : ∀ step range, row.ranges[step]? = some range →
    input.semanticStepRanges.at3 index step 0 = range.1 ∧
      input.semanticStepRanges.at3 index step 1 = range.2
  probability : ∀ branch < requiredBranches row.numSteps,
    input.probabilities.at2 index branch = .fin (row.probability branch)

end ModulationInput

/-! ### What the range loop accepts -/

/-- The range loop accepts exactly the tilings whose ranges the mask covers. -/
theorem checkRowRanges_eq_ok {responseMask : Tensor Bool} {index : Nat}
    (ranges : List (Int × Int)) : ∀ step previousEnd : Nat,
      checkRowRanges responseMask index step previousEnd ranges = .ok () →
        ∃ tiles, ranges = intRanges tiles ∧ TilesFrom (responseMask.size 1) previousEnd tiles ∧
          ∀ range ∈ tiles, ∀ token, range.1 ≤ token → token < range.2 →
            responseMask.at2 index token = true := by
  induction ranges with
  | nil =>
    intro step previousEnd _
    exact ⟨[], rfl, trivial, fun _ h => absurd h List.not_mem_nil⟩
  | cons range rest ih =>
    obtain ⟨start, stop⟩ := range
    intro step previousEnd h
    unfold checkRowRanges at h
    obtain ⟨hbounds, hrest⟩ := raiseIf_bind_eq_ok.mp h
    clear h
    obtain ⟨hstart, hrest⟩ := raiseIf_bind_eq_ok.mp hrest
    obtain ⟨hmasked, hloop⟩ := raiseIf_bind_eq_ok.mp hrest
    clear hrest
    obtain ⟨_, hlt, hle⟩ := not_not.mp hbounds
    obtain rfl := not_not.mp hstart
    obtain ⟨last, rfl⟩ := Int.eq_ofNat_of_zero_le
      ((Int.natCast_nonneg previousEnd).trans hlt.le)
    obtain ⟨tiles, rfl, htiles, hcovers⟩ := ih (step + 1) last hloop
    refine ⟨(previousEnd, last) :: tiles, rfl, ⟨rfl, Int.ofNat_lt.mp hlt, Int.ofNat_le.mp hle,
      htiles⟩, ?_⟩
    intro range hrange token hlow hhigh
    rcases List.mem_cons.mp hrange with rfl | hrest
    · by_contra hfalse
      apply hmasked
      refine ⟨token, Nat.lt_of_lt_of_le hhigh (Int.ofNat_le.mp hle), Int.ofNat_le.mpr hlow,
        Int.ofNat_lt.mpr hhigh, ?_⟩
      exact Bool.eq_false_iff.mpr hfalse
    · exact hcovers range hrest token hlow hhigh

/-- A token lies in at most one step. -/
theorem TilesFrom.owner_unique {n : Nat} {ranges : List (Nat × Nat)} {previousEnd : Nat}
    (h : TilesFrom n previousEnd ranges) {step step' token : Nat} {range range' : Nat × Nat}
    (hrange : ranges[step]? = some range) (hrange' : ranges[step']? = some range')
    (hin : range.1 ≤ token ∧ token < range.2) (hin' : range'.1 ≤ token ∧ token < range'.2) :
    step = step' := by
  induction ranges generalizing previousEnd step step' with
  | nil => exact absurd hrange (by simp)
  | cons head rest ih =>
    obtain ⟨start, stop⟩ := head
    obtain ⟨rfl, hlt, hle, hrest⟩ := h
    cases step with
    | zero =>
      cases step' with
      | zero => rfl
      | succ step' =>
        obtain rfl := Option.some.inj hrange
        have hlater := (hrest.bounds range' (List.mem_of_getElem? hrange')).1
        exact absurd (hlater.trans hin'.1) (not_le.mpr hin.2)
    | succ step =>
      cases step' with
      | zero =>
        obtain rfl := Option.some.inj hrange'
        have hlater := (hrest.bounds range (List.mem_of_getElem? hrange)).1
        exact absurd (hlater.trans hin.1) (not_le.mpr hin'.2)
      | succ step' => exact congrArg (· + 1) (ih hrest hrange hrange')

/-- The row of an accepted batch: its ranges tile the start of the response, and its
    probabilities are probabilities. -/
structure SemanticRow.Valid [Field K] [LinearOrder K] (row : SemanticRow K)
    (responseMask : Tensor Bool) (index : Nat) : Prop where
  contiguous : Contiguous (responseMask.size 1) row.ranges
  covers : ∀ step token, row.Owns step token → responseMask.at2 index token = true
  in_unit : ∀ branch < requiredBranches row.numSteps,
    0 ≤ row.probability branch ∧ row.probability branch ≤ 1

theorem SemanticRow.Valid.owner_unique [Field K] [LinearOrder K] {row : SemanticRow K}
    {responseMask : Tensor Bool} {index step step' token : Nat}
    (h : row.Valid responseMask index) (hstep : row.Owns step token)
    (hstep' : row.Owns step' token) : step = step' := by
  obtain ⟨range, hrange, hin⟩ := hstep
  obtain ⟨range', hrange', hin'⟩ := hstep'
  exact TilesFrom.owner_unique h.contiguous hrange hrange' hin hin'

section Accepted

variable [Field K] [LinearOrder K] {input : ModulationInput K} {branchMask : Tensor Bool}
  {counts : Tensor Nat} {index : Nat}

/-- Every row of an accepted batch is read off its tensors. -/
theorem ModulationAdmissible.exists_row
    (h : ModulationAdmissible input.probabilities input.responseMask input.semanticStepRanges
      input.stepMask branchMask counts) (hindex : index < input.responseMask.size 0) :
    ∃ row, input.Row index row ∧ row.Valid input.responseMask index ∧
      row.numSteps = counts.at1 index ∧ row.numSteps ≤ input.semanticStepRanges.size 1 := by
  obtain ⟨tiles, htiles, hcontiguous, hcovers⟩ :=
    checkRowRanges_eq_ok _ 0 0 (h.ranges_ok index hindex)
  have hnum : tiles.length = counts.at1 index := by
    have hlength := congrArg List.length htiles
    unfold rowRanges intRanges at hlength
    rw [List.length_map, List.length_map, List.length_range] at hlength
    exact hlength.symm
  have hread : ∀ step range, tiles[step]? = some range →
      input.semanticStepRanges.at3 index step 0 = range.1 ∧
        input.semanticStepRanges.at3 index step 1 = range.2 := by
    intro step range hrange
    have hentry := congrArg (·[step]?) htiles
    unfold rowRanges intRanges at hentry
    have hstep : step < counts.at1 index := by
      rw [← hnum]
      exact (List.getElem?_eq_some_iff.mp hrange).1
    rw [List.getElem?_map, List.getElem?_map, hrange, List.getElem?_range hstep] at hentry
    exact Prod.mk.inj (Option.some.inj hentry)
  have hrows : index < branchMask.size 0 := by
    rw [Tensor.size, h.branch_shape]
    exact Nat.lt_of_lt_of_eq hindex h.probabilities_rows.symm
  have hactive : ∀ branch < requiredBranches (counts.at1 index),
      branch < input.probabilities.size 1 ∧ branchMask.at2 index branch = true := by
    intro branch hbranch
    have hfit := Nat.lt_of_lt_of_le hbranch (h.branches_fit index hindex)
    refine ⟨hfit, ?_⟩
    rw [h.branch_leading.2 index hrows branch (by rw [Tensor.size, h.branch_shape]; exact hfit)]
    exact decide_eq_true hbranch
  have hvalue : ∀ branch < requiredBranches (counts.at1 index), ∃ p,
      input.probabilities.at2 index branch = .fin p ∧ 0 ≤ p ∧ p ≤ 1 := by
    intro branch hbranch
    obtain ⟨hfit, hmask⟩ := hactive branch hbranch
    obtain ⟨p, hp⟩ := Flt.isFinite_iff.mp
      (h.finite index hrows branch (by rw [Tensor.size, h.branch_shape]; exact hfit) hmask)
    obtain ⟨hlow, hhigh⟩ := h.in_unit index hindex branch hfit hmask
    rw [hp, Flt.zero_eq, Flt.lt_fin, decide_eq_false_iff_not, not_lt] at hlow
    rw [hp, Flt.one_eq, Flt.lt_fin, decide_eq_false_iff_not, not_lt] at hhigh
    exact ⟨p, hp, hlow, hhigh⟩
  choose! probability hprobability hunit using hvalue
  have hwidth : input.stepMask.size 1 = input.semanticStepRanges.size 1 := by
    rw [Tensor.size, Tensor.size, h.step_shape, List.getD_eq_getElem?_getD,
      List.getElem?_take_of_lt (by decide), ← List.getD_eq_getElem?_getD]
  have hcount : counts.at1 index ≤ input.stepMask.size 1 := by
    rw [h.counts_eq]
    exact tokenCount_le _ _
  refine ⟨⟨tiles, probability⟩, ⟨?_, hread, ?_⟩, ⟨hcontiguous, ?_, ?_⟩, hnum, ?_⟩
  · intro step
    unfold ModulationInput.HasStep SemanticRow.numSteps
    rw [hnum]
    have hmask : ∀ step < input.stepMask.size 1,
        input.stepMask.at2 index step = decide (step < counts.at1 index) :=
      h.step_leading.2 index (by
        rw [Tensor.size, h.step_shape, List.getD_eq_getElem?_getD,
          List.getElem?_take_of_lt (by decide), ← List.getD_eq_getElem?_getD]
        exact Nat.lt_of_lt_of_eq hindex h.ranges_rows.symm)
    constructor
    · rintro ⟨hstep, htrue⟩
      rw [hmask step hstep] at htrue
      exact of_decide_eq_true htrue
    · intro hstep
      have hfit := Nat.lt_of_lt_of_le hstep hcount
      exact ⟨hfit, (hmask step hfit).trans (decide_eq_true hstep)⟩
  · intro branch hbranch
    exact hprobability branch (hnum ▸ hbranch)
  · rintro step token ⟨range, hrange, hlow, hhigh⟩
    exact hcovers range (List.mem_of_getElem? hrange) token hlow hhigh
  · intro branch hbranch
    exact hunit branch (hnum ▸ hbranch)
  · rw [SemanticRow.numSteps, hnum, ← hwidth]
    exact hcount

end Accepted

/-! ### What the kernel returns for a row -/

/-- The outputs of the kernel for the row `index`, as functions of the row alone. -/
structure Modulates [Field K] [LinearOrder K] (modulation : R2OPLTokenModulation K) (index : Nat)
    (row : SemanticRow K) (alphaR alphaD epsilon : K) : Prop where
  probedStep : ∀ step, modulation.probedStepMask.at2 index step = decide (row.Probed step)
  delta : ∀ step, modulation.probeDeltaProb.at2 index step = .fin (row.delta step)
  correctStep : ∀ step, modulation.correctStepGate.at2 index step =
    .fin (if row.Probed step then correctGate alphaR epsilon (row.delta step) else 1)
  errorStep : ∀ step, modulation.errorStepGate.at2 index step =
    .fin (if row.Probed step then errorGate alphaD (row.delta step) else 1)
  probed : ∀ step token, row.Probed step → row.Owns step token →
    modulation.correctTokenMultiplier.at2 index token =
        .fin (correctGate alphaR epsilon (row.delta step)) ∧
      modulation.errorTokenMultiplier.at2 index token = .fin (errorGate alphaD (row.delta step))
  standard : ∀ token, (∀ step, row.Probed step → ¬ row.Owns step token) →
    modulation.correctTokenMultiplier.at2 index token = .fin 1 ∧
      modulation.errorTokenMultiplier.at2 index token = .fin 1
  probedToken : ∀ token, modulation.probedTokenMask.at2 index token = true ↔
    ∃ step, row.Probed step ∧ row.Owns step token
  lastToken : ∀ token, modulation.lastStepTokenMask.at2 index token = true ↔
    ∃ step, step + 1 = row.numSteps ∧ row.Owns step token

section Row

variable {input : ModulationInput K} {index : Nat} {row : SemanticRow K}

theorem ModulationInput.Row.covers_iff (h : input.Row index row) {step token : Nat}
    (hstep : step < row.numSteps) :
    Covers input.semanticStepRanges index step token ↔ row.Owns step token := by
  obtain ⟨range, hrange⟩ : ∃ range, row.ranges[step]? = some range :=
    ⟨_, List.getElem?_eq_getElem hstep⟩
  obtain ⟨hstart, hstop⟩ := h.range step range hrange
  unfold Covers SemanticRow.Owns
  rw [hstart, hstop, Int.toNat_natCast, Int.toNat_natCast]
  constructor
  · intro hin
    exact ⟨range, hrange, hin⟩
  · rintro ⟨range', hrange', hin⟩
    obtain rfl := Option.some.inj (hrange.symm.trans hrange')
    exact hin

variable {α : Type} {value : Nat → Nat → α} {tokens : Tensor α} {counts : Tensor Nat}
  {steps : Nat → List Nat} {token : Nat}

/-- A written token has the value of the step it belongs to. -/
theorem ModulationInput.Row.written [Field K] [LinearOrder K] (h : input.Row index row)
    (hvalid : row.Valid input.responseMask index) (hindex : index < tokens.size 0)
    (hsteps : ∀ step ∈ steps index, step < row.numSteps) {step : Nat} (hstep : step ∈ steps index)
    (howns : row.Owns step token) :
    (writeSteps input.semanticStepRanges steps value tokens).at2 index token =
      value index step := by
  apply at2_writeSteps_of_covered hindex
  · intro other hother hcovers
    rw [hvalid.owner_unique ((h.covers_iff (hsteps other hother)).mp hcovers) howns]
  · exact ⟨step, hstep, (h.covers_iff (hsteps step hstep)).mpr howns⟩

theorem ModulationInput.Row.unwritten (h : input.Row index row)
    (hsteps : ∀ step ∈ steps index, step < row.numSteps)
    (hfree : ∀ step ∈ steps index, ¬ row.Owns step token) :
    (writeSteps input.semanticStepRanges steps value tokens).at2 index token =
      tokens.at2 index token := by
  apply at2_writeSteps_of_uncovered
  intro step hstep hcovers
  exact hfree step hstep ((h.covers_iff (hsteps step hstep)).mp hcovers)

theorem mem_gatedSteps (hcount : row.numSteps = counts.at1 index) {step : Nat} :
    step ∈ gatedSteps counts index ↔ row.Probed step := by
  unfold gatedSteps SemanticRow.Probed
  rw [List.mem_range, hcount]
  omega

/-- The step whose tokens are the last ones of a row. -/
def lastSteps (counts : Tensor Nat) (row : Nat) : List Nat :=
  (List.range (counts.at1 row)).filter fun step => decide (step + 1 = counts.at1 row)

/-- A mask that is written on some steps is true on the tokens of these. -/
theorem ModulationInput.Row.writtenMask [Field K] [LinearOrder K] (h : input.Row index row)
    (hvalid : row.Valid input.responseMask index) {rows width : Nat} (hindex : index < rows)
    (hsteps : ∀ step ∈ steps index, step < row.numSteps) :
    (writeSteps input.semanticStepRanges steps (fun _ _ => true)
        (.mat rows width fun _ _ => false)).at2 index token = true ↔
      ∃ step ∈ steps index, row.Owns step token := by
  constructor
  · intro htrue
    by_contra hnone
    rw [h.unwritten hsteps fun step hstep howns => hnone ⟨step, hstep, howns⟩] at htrue
    exact Bool.false_ne_true htrue
  · rintro ⟨step, hstep, howns⟩
    have hsize : index < (Tensor.mat rows width fun _ _ => false).size 0 := hindex
    exact h.written hvalid hsize hsteps hstep howns

variable [Field K] [LinearOrder K] {branchMask : Tensor Bool} {alphaR alphaD epsilon : K}

omit [Field K] [LinearOrder K] in
theorem probedSteps_at2 (hcount : row.numSteps = counts.at1 index) (width step : Nat) :
    (probedSteps width counts).at2 index step = decide (row.Probed step) := by
  unfold probedSteps leadingColumns
  rw [Tensor.at2_mat, Tensor.at1_map]
  apply decide_eq_decide.mpr
  unfold SemanticRow.Probed
  rw [hcount]
  omega

/-- The delta of a probed step is that of its two branches; padding never enters. -/
theorem ModulationInput.Row.probeDeltas (h : input.Row index row)
    (hadmissible : ModulationAdmissible input.probabilities input.responseMask
      input.semanticStepRanges input.stepMask branchMask counts)
    (hindex : index < input.responseMask.size 0) (hcount : row.numSteps = counts.at1 index)
    (hfits : row.numSteps ≤ input.semanticStepRanges.size 1) (step : Nat) :
    (R2opl.probeDeltas (safeProbabilities input.probabilities branchMask)
      (probedSteps (input.semanticStepRanges.size 1) counts)).at2 index step =
        .fin (row.delta step) := by
  unfold R2opl.probeDeltas SemanticRow.delta
  rw [Tensor.at2_mat, probedSteps_at2 hcount]
  by_cases hprobed : row.Probed step
  · have hsteps : step + 1 < row.numSteps := hprobed
    have hrequired : requiredBranches row.numSteps = row.numSteps :=
      if_pos (Nat.succ_le_of_lt (Nat.lt_of_le_of_lt (Nat.succ_le_succ (Nat.zero_le step)) hsteps))
    have hbranches : row.numSteps ≤ input.probabilities.size 1 := by
      rw [← hrequired, hcount]
      exact hadmissible.branches_fit index hindex
    have hsafe : ∀ branch < row.numSteps,
        (safeProbabilities input.probabilities branchMask).at2 index branch =
          .fin (row.probability branch) := by
      intro branch hbranch
      have hmask : branchMask.at2 index branch = true := by
        rw [hadmissible.branch_leading.2 index
          (by
            rw [Tensor.size, hadmissible.branch_shape]
            exact Nat.lt_of_lt_of_eq hindex hadmissible.probabilities_rows.symm) branch
          (by
            rw [Tensor.size, hadmissible.branch_shape]
            exact Nat.lt_of_lt_of_le hbranch hbranches)]
        have hlead : branch < requiredBranches (counts.at1 index) := by
          rw [← hcount, hrequired]
          exact hbranch
        exact decide_eq_true hlead
      unfold safeProbabilities
      rw [Tensor.at2_mat, if_pos hmask]
      exact h.probability branch (hrequired.symm ▸ hbranch)
    have hwidth : (safeProbabilities input.probabilities branchMask).size 1 =
        input.probabilities.size 1 := rfl
    have hstepWidth : (probedSteps (input.semanticStepRanges.size 1) counts).size 1 =
        input.semanticStepRanges.size 1 := rfl
    rw [if_pos hprobed, if_pos ⟨by omega, by omega, decide_eq_true hprobed⟩,
      hsafe step (Nat.lt_of_succ_lt hsteps), hsafe (step + 1) hsteps, Flt.fin_sub]
  · rw [if_neg hprobed, if_neg fun hall => hprobed (of_decide_eq_true hall.2.2)]
    rfl

/-- **One row of the modulation kernel.** -/
theorem ModulationInput.Row.modulates (h : input.Row index row)
    (hvalid : row.Valid input.responseMask index)
    (hadmissible : ModulationAdmissible input.probabilities input.responseMask
      input.semanticStepRanges input.stepMask branchMask counts)
    (hindex : index < input.responseMask.size 0) (hcount : row.numSteps = counts.at1 index)
    (hfits : row.numSteps ≤ input.semanticStepRanges.size 1) :
    Modulates (tokenModulation input.probabilities input.responseMask input.semanticStepRanges
      input.stepMask branchMask counts (.fin alphaR) (.fin alphaD) (.fin epsilon)) index row
      alphaR alphaD epsilon := by
  have hgated : ∀ step ∈ gatedSteps counts index, step < row.numSteps := fun step hstep =>
    Nat.lt_of_succ_lt ((mem_gatedSteps hcount).mp hstep)
  have hcorrect : ∀ step, (correctStepGates (probedSteps (input.semanticStepRanges.size 1) counts)
      (R2opl.probeDeltas (safeProbabilities input.probabilities branchMask)
        (probedSteps (input.semanticStepRanges.size 1) counts)) (.fin alphaR)
        (.fin epsilon)).at2 index step =
      .fin (if row.Probed step then correctGate alphaR epsilon (row.delta step) else 1) := by
    intro step
    unfold correctStepGates correctGate
    rw [Tensor.at2_mat, probedSteps_at2 hcount, h.probeDeltas hadmissible hindex hcount hfits,
      Flt.one_eq, Flt.fin_mul, Flt.fin_add, Flt.clampMin_fin, max_comm]
    by_cases hprobed : row.Probed step
    · rw [if_pos (decide_eq_true hprobed), if_pos hprobed]
    · rw [if_neg (by simpa using hprobed), if_neg hprobed]
  have herror : ∀ step, (errorStepGates (probedSteps (input.semanticStepRanges.size 1) counts)
      (R2opl.probeDeltas (safeProbabilities input.probabilities branchMask)
        (probedSteps (input.semanticStepRanges.size 1) counts)) (.fin alphaD)).at2 index step =
      .fin (if row.Probed step then errorGate alphaD (row.delta step) else 1) := by
    intro step
    unfold errorStepGates errorGate
    rw [Tensor.at2_mat, probedSteps_at2 hcount, h.probeDeltas hadmissible hindex hcount hfits,
      Flt.one_eq, Flt.zero_eq, Flt.fin_mul, Flt.fin_sub, Flt.clampMin_fin, max_comm]
    by_cases hprobed : row.Probed step
    · rw [if_pos (decide_eq_true hprobed), if_pos hprobed]
    · rw [if_neg (by simpa using hprobed), if_neg hprobed]
  refine ⟨probedSteps_at2 hcount _, h.probeDeltas hadmissible hindex hcount hfits, hcorrect,
    herror, ?_, ?_, ?_, ?_⟩
  · intro step token hprobed howns
    have hstep := (mem_gatedSteps hcount).mpr hprobed
    have hsize : index < (Tensor.mat (input.responseMask.size 0) (input.responseMask.size 1)
        fun _ _ => (1 : Flt K)).size 0 := hindex
    constructor
    · refine (h.written hvalid hsize hgated hstep howns).trans ?_
      rw [hcorrect, if_pos hprobed]
    · refine (h.written hvalid hsize hgated hstep howns).trans ?_
      rw [herror, if_pos hprobed]
  · intro token hfree
    have hnone : ∀ step ∈ gatedSteps counts index, ¬ row.Owns step token := fun step hstep =>
      hfree step ((mem_gatedSteps hcount).mp hstep)
    exact ⟨h.unwritten hgated hnone, h.unwritten hgated hnone⟩
  · intro token
    refine (h.writtenMask hvalid hindex hgated).trans ?_
    exact exists_congr fun step => and_congr_left fun _ => mem_gatedSteps hcount
  · intro token
    have hlast : ∀ step, step ∈ lastSteps counts index ↔ step + 1 = row.numSteps := by
      intro step
      unfold lastSteps
      rw [List.mem_filter, List.mem_range, decide_eq_true_eq, hcount]
      omega
    have hbound : ∀ step ∈ lastSteps counts index, step < row.numSteps := fun step hstep =>
      Nat.lt_of_succ_le ((hlast step).mp hstep).le
    refine (h.writtenMask hvalid hindex hbound).trans ?_
    exact exists_congr fun step => and_congr_left fun _ => hlast step

end Row

/-! ### Accepted batches -/

section Run

variable [Field K] [LinearOrder K] [ToString K] {input : ModulationInput K}
  {alphaR alphaD epsilon : K} {modulation : R2OPLTokenModulation K} {index : Nat}
  {row : SemanticRow K}

/-- Every row of an accepted batch is modulated on its own. -/
theorem ModulationInput.exists_modulates
    (h : input.run (.fin alphaR) (.fin alphaD) (.fin epsilon) = .ok modulation)
    (hindex : index < input.responseMask.size 0) :
    ∃ row, input.Row index row ∧ row.Valid input.responseMask index ∧
      row.numSteps ≤ input.semanticStepRanges.size 1 := by
  obtain ⟨_, _, _, counts, rfl, rfl, hadmissible, _⟩ := computeR2oplTokenModulation_eq_ok.mp h
  obtain ⟨row, hrow, hvalid, _, hfits⟩ := hadmissible.exists_row hindex
  exact ⟨row, hrow, hvalid, hfits⟩

omit [Field K] [LinearOrder K] [ToString K] in
/-- The ranges of a row are read off the tensors in one way only. -/
theorem ModulationInput.Row.ranges_unique {row' : SemanticRow K} (h : input.Row index row)
    (h' : input.Row index row') : row.ranges = row'.ranges := by
  have hlength : row.ranges.length = row'.ranges.length := by
    apply Nat.le_antisymm
    · apply Nat.le_of_not_lt
      intro hlt
      exact Nat.lt_irrefl _ ((h'.hasStep _).mp ((h.hasStep _).mpr hlt))
    · apply Nat.le_of_not_lt
      intro hlt
      exact Nat.lt_irrefl _ ((h.hasStep _).mp ((h'.hasStep _).mpr hlt))
  apply List.ext_getElem hlength
  intro step hleft hright
  obtain ⟨hstart, hstop⟩ := h.range step _ (List.getElem?_eq_getElem hleft)
  obtain ⟨hstart', hstop'⟩ := h'.range step _ (List.getElem?_eq_getElem hright)
  exact Prod.ext (Int.ofNat.inj (hstart.symm.trans hstart'))
    (Int.ofNat.inj (hstop.symm.trans hstop'))

theorem ModulationInput.Row.modulates_of_run (h : input.Row index row)
    (hvalid : row.Valid input.responseMask index)
    (hrun : input.run (.fin alphaR) (.fin alphaD) (.fin epsilon) = .ok modulation)
    (hindex : index < input.responseMask.size 0) :
    Modulates modulation index row alphaR alphaD epsilon := by
  obtain ⟨_, _, _, counts, rfl, rfl, hadmissible, rfl⟩ :=
    computeR2oplTokenModulation_eq_ok.mp hrun
  obtain ⟨other, hother, _, hcount, hfits⟩ := hadmissible.exists_row hindex
  have hsteps : row.numSteps = other.numSteps :=
    congrArg List.length (h.ranges_unique hother)
  exact h.modulates hvalid hadmissible hindex (hsteps.trans hcount) (hsteps ▸ hfits)

theorem validGates_of_run
    (h : input.run (.fin alphaR) (.fin alphaD) (.fin epsilon) = .ok modulation) :
    0 ≤ alphaR ∧ 0 ≤ alphaD ∧ 0 ≤ epsilon ∧ epsilon ≤ 1 := by
  obtain ⟨hvalid, _⟩ := computeR2oplTokenModulation_eq_ok.mp h
  obtain ⟨_, _, halphaR, halphaD, hepsilon⟩ := validateHyperparameters_eq_ok.mp hvalid
  obtain ⟨x, hx, heq⟩ := halphaR _ rfl
  obtain ⟨y, hy, heq'⟩ := halphaD _ rfl
  obtain ⟨_, hlow, hhigh⟩ := hepsilon _ rfl
  rw [Flt.zero_eq, Flt.le_fin] at hlow
  rw [Flt.one_eq, Flt.le_fin] at hhigh
  rw [Flt.fin.inj heq, Flt.fin.inj heq']
  exact ⟨hx, hy, of_decide_eq_true hlow, of_decide_eq_true hhigh⟩

end Run

/-! ### Two batches with one row in common -/

/-- The two rows have the same steps, the same ranges and the same probabilities on the branches
    that they are probed with. -/
structure SameRow (input input' : ModulationInput K) (index index' : Nat) : Prop where
  hasStep : ∀ step, input.HasStep index step ↔ input'.HasStep index' step
  range : ∀ step, input.HasStep index step →
    input.semanticStepRanges.at3 index step 0 = input'.semanticStepRanges.at3 index' step 0 ∧
      input.semanticStepRanges.at3 index step 1 = input'.semanticStepRanges.at3 index' step 1
  probability : ∀ branch, input.HasStep index 1 → input.HasStep index branch →
    input.probabilities.at2 index branch = input'.probabilities.at2 index' branch

/-- Two results agree on a row. -/
structure SameResult (modulation modulation' : R2OPLTokenModulation K) (index index' : Nat) :
    Prop where
  steps : ∀ step,
    modulation.probedStepMask.at2 index step = modulation'.probedStepMask.at2 index' step ∧
    modulation.probeDeltaProb.at2 index step = modulation'.probeDeltaProb.at2 index' step ∧
    modulation.correctStepGate.at2 index step = modulation'.correctStepGate.at2 index' step ∧
    modulation.errorStepGate.at2 index step = modulation'.errorStepGate.at2 index' step
  tokens : ∀ token,
    modulation.correctTokenMultiplier.at2 index token =
      modulation'.correctTokenMultiplier.at2 index' token ∧
    modulation.errorTokenMultiplier.at2 index token =
      modulation'.errorTokenMultiplier.at2 index' token ∧
    modulation.probedTokenMask.at2 index token = modulation'.probedTokenMask.at2 index' token ∧
    modulation.lastStepTokenMask.at2 index token =
      modulation'.lastStepTokenMask.at2 index' token

section Same

variable {input input' : ModulationInput K} {index index' : Nat} {row : SemanticRow K}

theorem SameRow.transport (h : SameRow input input' index index') (hrow : input.Row index row) :
    input'.Row index' row where
  hasStep := by
    intro step
    rw [← h.hasStep, hrow.hasStep]
  range := by
    intro step range hrange
    have hstep := (hrow.hasStep step).mpr (List.getElem?_eq_some_iff.mp hrange).1
    obtain ⟨hstart, hstop⟩ := h.range step hstep
    rw [← hstart, ← hstop]
    exact hrow.range step range hrange
  probability := by
    intro branch hbranch
    have hprobability := hrow.probability branch hbranch
    unfold requiredBranches at hbranch
    split at hbranch
    · rename_i htwo
      rw [← h.probability branch ((hrow.hasStep 1).mpr htwo) ((hrow.hasStep branch).mpr hbranch)]
      exact hprobability
    · exact absurd hbranch (Nat.not_lt_zero branch)

variable [Field K] [LinearOrder K] {modulation modulation' : R2OPLTokenModulation K}
  {alphaR alphaD epsilon : K}

theorem Modulates.sameResult (h : Modulates modulation index row alphaR alphaD epsilon)
    (h' : Modulates modulation' index' row alphaR alphaD epsilon) :
    SameResult modulation modulation' index index' where
  steps := by
    intro step
    rw [h.probedStep, h'.probedStep, h.delta, h'.delta, h.correctStep, h'.correctStep,
      h.errorStep, h'.errorStep]
    exact ⟨rfl, rfl, rfl, rfl⟩
  tokens := by
    intro token
    have hmasks : modulation.probedTokenMask.at2 index token =
          modulation'.probedTokenMask.at2 index' token ∧
        modulation.lastStepTokenMask.at2 index token =
          modulation'.lastStepTokenMask.at2 index' token :=
      ⟨Bool.eq_iff_iff.mpr ((h.probedToken token).trans (h'.probedToken token).symm),
        Bool.eq_iff_iff.mpr ((h.lastToken token).trans (h'.lastToken token).symm)⟩
    by_cases howned : ∃ step, row.Probed step ∧ row.Owns step token
    · obtain ⟨step, hprobed, howns⟩ := howned
      obtain ⟨hcorrect, herror⟩ := h.probed step token hprobed howns
      obtain ⟨hcorrect', herror'⟩ := h'.probed step token hprobed howns
      exact ⟨hcorrect.trans hcorrect'.symm, herror.trans herror'.symm, hmasks⟩
    · have hfree : ∀ step, row.Probed step → ¬ row.Owns step token := fun step hprobed howns =>
        howned ⟨step, hprobed, howns⟩
      obtain ⟨hcorrect, herror⟩ := h.standard token hfree
      obtain ⟨hcorrect', herror'⟩ := h'.standard token hfree
      exact ⟨hcorrect.trans hcorrect'.symm, herror.trans herror'.symm, hmasks⟩

variable [ToString K]

/-- A row's result depends on nothing but the row. -/
theorem SameRow.sameResult (h : SameRow input input' index index')
    (hrun : input.run (.fin alphaR) (.fin alphaD) (.fin epsilon) = .ok modulation)
    (hrun' : input'.run (.fin alphaR) (.fin alphaD) (.fin epsilon) = .ok modulation')
    (hindex : index < input.responseMask.size 0) (hindex' : index' < input'.responseMask.size 0) :
    SameResult modulation modulation' index index' := by
  obtain ⟨row, hrow, hvalid, _⟩ := ModulationInput.exists_modulates hrun hindex
  obtain ⟨other, hother, hother', _⟩ := ModulationInput.exists_modulates hrun' hindex'
  have hranges := (h.transport hrow).ranges_unique hother
  have hvalid' : row.Valid input'.responseMask index' := {
    contiguous := hranges ▸ hother'.contiguous
    covers := by
      rintro step token ⟨range, hrange, hin⟩
      exact hother'.covers step token ⟨range, hranges ▸ hrange, hin⟩
    in_unit := hvalid.in_unit }
  exact (hrow.modulates_of_run hvalid hrun hindex).sameResult
    ((h.transport hrow).modulates_of_run hvalid' hrun' hindex')

end Same

/-! ### The piecewise definition -/

/-- The multipliers of one row as its probabilities define them. -/
structure PiecewiseRow [Field K] [LinearOrder K] (modulation : R2OPLTokenModulation K)
    (index stepWidth : Nat) (row : SemanticRow K) (alphaR alphaD epsilon : K) : Prop where
  probed : ∀ step token, step + 1 < row.numSteps → row.Owns step token →
    modulation.correctTokenMultiplier.at2 index token =
        .fin (max epsilon (1 + alphaR * (row.probability (step + 1) - row.probability step))) ∧
      modulation.errorTokenMultiplier.at2 index token =
        .fin (max 0 (1 - alphaD * (row.probability (step + 1) - row.probability step)))
  last : ∀ step token, step + 1 = row.numSteps → row.Owns step token →
    modulation.correctTokenMultiplier.at2 index token = .fin 1 ∧
      modulation.errorTokenMultiplier.at2 index token = .fin 1
  trailing : ∀ token, (∀ step, ¬ row.Owns step token) →
    modulation.correctTokenMultiplier.at2 index token = .fin 1 ∧
      modulation.errorTokenMultiplier.at2 index token = .fin 1
  short : row.numSteps ≤ 1 → ∀ token,
    modulation.correctTokenMultiplier.at2 index token = .fin 1 ∧
      modulation.errorTokenMultiplier.at2 index token = .fin 1
  bounds : ∀ step token, step + 1 < row.numSteps → row.Owns step token → ∃ correct error,
    modulation.correctTokenMultiplier.at2 index token = .fin correct ∧
      modulation.errorTokenMultiplier.at2 index token = .fin error ∧
      (max epsilon (1 - alphaR) ≤ correct ∧ correct ≤ 1 + alphaR) ∧
      (max 0 (1 - alphaD) ≤ error ∧ error ≤ 1 + alphaD)
  telescopes : 0 < row.numSteps →
    ((List.range stepWidth).map (modulation.probeDeltaProb.at2 index)).sum =
      .fin (row.probability (row.numSteps - 1) - row.probability 0)

section Piecewise

variable [Field K] [LinearOrder K] [IsStrictOrderedRing K] {row : SemanticRow K} {index : Nat}
  {responseMask : Tensor Bool}

omit [LinearOrder K] [IsStrictOrderedRing K] in
theorem SemanticRow.delta_eq {step : Nat} (h : row.Probed step) :
    row.delta step = row.probability (step + 1) - row.probability step := if_pos h

/-- The change across a probed step, as a difference of two probabilities. -/
theorem SemanticRow.Valid.delta_mem (h : row.Valid responseMask index) {step : Nat}
    (hprobed : row.Probed step) : -1 ≤ row.delta step ∧ row.delta step ≤ 1 := by
  have hsteps : step + 1 < row.numSteps := hprobed
  have hrequired : requiredBranches row.numSteps = row.numSteps := if_pos (by omega)
  obtain ⟨hlow, hhigh⟩ := h.in_unit step (by omega)
  obtain ⟨hlow', hhigh'⟩ := h.in_unit (step + 1) (by omega)
  rw [SemanticRow.delta_eq hprobed]
  constructor
  · rw [neg_le_sub_iff_le_add]
    exact hhigh.trans (le_add_of_nonneg_left hlow')
  · rw [sub_le_iff_le_add]
    exact hhigh'.trans (le_add_of_nonneg_right hlow)

omit [LinearOrder K] [IsStrictOrderedRing K] in
/-- The changes up to a step add up to the change from the first probability. -/
theorem SemanticRow.sum_delta (width : Nat) :
    ((List.range width).map row.delta).sum =
      row.probability (min width (row.numSteps - 1)) - row.probability 0 := by
  induction width with
  | zero => rw [Nat.zero_min, sub_self]; rfl
  | succ width ih =>
    rw [List.range_succ, List.map_append, List.sum_append, ih, List.map_singleton,
      List.sum_singleton]
    by_cases hprobed : row.Probed width
    · have hstep : width + 1 < row.numSteps := hprobed
      rw [SemanticRow.delta_eq hprobed, Nat.min_eq_left (by omega), Nat.min_eq_left (by omega),
        add_comm, sub_add_sub_cancel]
    · have hstep : ¬ width + 1 < row.numSteps := hprobed
      rw [SemanticRow.delta, if_neg hprobed, add_zero, Nat.min_eq_right (by omega),
        Nat.min_eq_right (by omega)]

variable {modulation : R2OPLTokenModulation K} {alphaR alphaD epsilon : K} {stepWidth : Nat}

theorem Modulates.piecewise (h : Modulates modulation index row alphaR alphaD epsilon)
    (hvalid : row.Valid responseMask index) (hfits : row.numSteps ≤ stepWidth)
    (halphaR : 0 ≤ alphaR) (halphaD : 0 ≤ alphaD) (hepsilon : epsilon ≤ 1) :
    PiecewiseRow modulation index stepWidth row alphaR alphaD epsilon where
  probed := by
    intro step token hprobed howns
    rw [← SemanticRow.delta_eq hprobed]
    exact h.probed step token hprobed howns
  last := by
    intro step token hlast howns
    apply h.standard
    intro other hprobed hother
    obtain rfl := hvalid.owner_unique howns hother
    exact absurd hlast (Nat.ne_of_lt hprobed)
  trailing := by
    intro token hfree
    exact h.standard token fun step _ => hfree step
  short := by
    intro hshort token
    apply h.standard
    intro step hprobed
    exact absurd (Nat.lt_of_lt_of_le hprobed hshort) (by omega)
  bounds := by
    intro step token hprobed howns
    obtain ⟨hcorrect, herror⟩ := h.probed step token hprobed howns
    obtain ⟨hlow, hhigh⟩ := hvalid.delta_mem hprobed
    exact ⟨_, _, hcorrect, herror, correctGate_mem halphaR hepsilon hlow hhigh,
      errorGate_mem halphaD hlow hhigh⟩
  telescopes := by
    intro hpos
    have hdeltas : (List.range stepWidth).map (modulation.probeDeltaProb.at2 index) =
        (List.range stepWidth).map fun step => .fin (row.delta step) :=
      List.map_congr_left fun step _ => h.delta step
    rw [hdeltas, Flt.sum_map_fin, SemanticRow.sum_delta, Nat.min_eq_right (by omega)]

/-- **Token modulation is its piecewise definition**, and a row's result depends on nothing but
    the row. -/
theorem token_modulation_piecewise [ToString K] (input : ModulationInput K)
    (alphaR alphaD epsilon : K) (modulation : R2OPLTokenModulation K)
    (hrun : input.run (.fin alphaR) (.fin alphaD) (.fin epsilon) = .ok modulation) :
    (∀ index < input.responseMask.size 0, ∃ row, input.Row index row ∧
      row.Valid input.responseMask index ∧
      PiecewiseRow modulation index (input.semanticStepRanges.size 1) row alphaR alphaD epsilon) ∧
    ∀ (input' : ModulationInput K) (modulation' : R2OPLTokenModulation K),
      input'.run (.fin alphaR) (.fin alphaD) (.fin epsilon) = .ok modulation' →
      ∀ index < input.responseMask.size 0, ∀ index' < input'.responseMask.size 0,
        SameRow input input' index index' → SameResult modulation modulation' index index' := by
  constructor
  · intro index hindex
    obtain ⟨row, hrow, hvalid, hfits⟩ := ModulationInput.exists_modulates hrun hindex
    obtain ⟨halphaR, halphaD, _, hepsilon⟩ := validGates_of_run hrun
    exact ⟨row, hrow, hvalid, (hrow.modulates_of_run hvalid hrun hindex).piecewise hvalid hfits
      halphaR halphaD hepsilon⟩
  · intro input' modulation' hrun' index hindex index' hindex' hsame
    exact hsame.sameResult hrun hrun' hindex hindex'

end Piecewise

/-- A response with two steps beside one with a single step. -/
def risingInput : ModulationInput ℚ where
  probabilities := .mat 2 2 fun _ branch => .fin (if branch = 0 then 1 / 4 else 3 / 4)
  responseMask := .mat 2 3 fun _ _ => true
  semanticStepRanges := .cube 2 2 2 fun row step axis =>
    (([[[0, 1], [1, 3]], [[0, 2], [0, 0]]][row]?.getD [])[step]?.getD [])[axis]?.getD 0
  semanticStepMask := none
  probeBranchMask := none

theorem token_modulation_piecewise_rising : ∃ modulation,
    risingInput.run (.fin (1 / 4)) (.fin (1 / 2)) (.fin (4 / 5)) = .ok modulation ∧
    (∀ index < risingInput.responseMask.size 0, ∃ row, risingInput.Row index row ∧
      row.Valid risingInput.responseMask index ∧
      PiecewiseRow modulation index (risingInput.semanticStepRanges.size 1) row (1 / 4) (1 / 2)
        (4 / 5)) ∧
    ∀ (input' : ModulationInput ℚ) (modulation' : R2OPLTokenModulation ℚ),
      input'.run (.fin (1 / 4)) (.fin (1 / 2)) (.fin (4 / 5)) = .ok modulation' →
      ∀ index < risingInput.responseMask.size 0, ∀ index' < input'.responseMask.size 0,
        SameRow risingInput input' index index' →
          SameResult modulation modulation' index index' := by
  obtain ⟨modulation, hrun⟩ :
      Returns (risingInput.run (.fin (1 / 4)) (.fin (1 / 2)) (.fin (4 / 5))) := by
    decide +kernel
  exact ⟨modulation, hrun, token_modulation_piecewise risingInput (1 / 4) (1 / 2) (4 / 5)
    modulation hrun⟩

end R2opl
