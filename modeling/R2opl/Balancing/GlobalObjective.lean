import R2opl.Balancing.DynamicBatch
import R2opl.Lib.ScaledFloat

/-!
# The objective of a global batch

`agg_loss` of `verl/trainer/ppo/core_algos.py` divides by numbers of the global batch, and the
gradients of the ranks are averaged.  What the group optimises is the loss of the whole batch,
however it was dealt out to ranks and cut into micro-batches.
-/

namespace R2opl

open Checked Collective

variable {K : Type} [Field K] [LinearOrder K]

/-! ### The reducer -/

/-- A row of the loss matrix with its row of the mask. -/
structure LossRow (K : Type) where
  losses : List (Flt K)
  mask : List Nat

structure LossMatrix (K : Type) where
  width : Nat
  rows : List (LossRow K)

/-- `masked_sum`: what the mask hides is not read, not even a NaN. -/
def TorchFunctional.maskedSum (entries : List (Flt K × K)) : Flt K :=
  (entries.map fun entry => (if entry.2 ≠ 0 then entry.1 else 0) * .fin entry.2).sum

/-- `torch.sum(loss_mask, dim=-1)` -/
def LossRow.tokens (row : LossRow K) : Nat := row.mask.sum

/-- `masked_sum(loss_mat, loss_mask)` in one row. -/
def LossRow.validSum (row : LossRow K) : Flt K :=
  TorchFunctional.maskedSum
    (List.zipWith (fun loss (m : Nat) => (loss, (m : K))) row.losses row.mask)

/-- `torch.sum(loss_mat * loss_mask, dim=-1)` -/
def LossRow.tokenSum (row : LossRow K) : Flt K :=
  (List.zipWith (fun loss (m : Nat) => loss * Flt.fin (m : K)) row.losses row.mask).sum

/-- Whether a sequence counts: `(torch.sum(loss_mask, dim=-1) > 0).float()` -/
def LossRow.seqMask (row : LossRow K) : K := if 0 < row.tokens then 1 else 0

/-- `masked_sum(loss_mat, loss_mask)` -/
def LossMatrix.validSum (matrix : LossMatrix K) : Flt K := (matrix.rows.map LossRow.validSum).sum

/-- `masked_sum(seq_losses, seq_mask)` -/
def LossMatrix.seqSum (seqLoss : LossRow K → Flt K) (matrix : LossMatrix K) : Flt K :=
  TorchFunctional.maskedSum (matrix.rows.map fun row => (seqLoss row, row.seqMask))

/-- `torch.sum(loss_mat * loss_mask, dim=-1) / (seq_mask + 1e-8)` -/
def LossRow.tokenMean (row : LossRow K) : Flt K :=
  row.tokenSum / .fin ((row.tokens : K) + 1 / ((10 ^ 8 : Nat) : K))

/-- The keyword arguments of `agg_loss`: `config.global_batch_info`. -/
structure GlobalBatchInfo (K : Type) where
  dpSize : Nat := 1
  batchNumTokens : Option K := none
  globalBatchSize : Option K := none
  lossScaleFactor : Option K := none

/-- The number of sequences to divide by. -/
def GlobalBatchInfo.sequences (info : GlobalBatchInfo K) (matrix : LossMatrix K) :
    Except PyError K :=
  match info.globalBatchSize with
  | some size => .ok size
  | none =>
      if info.dpSize > 1 then
        .error (valueError "global_batch_size is required when dp_size > 1")
      else .ok (matrix.rows.map LossRow.seqMask).sum

def GlobalBatchInfo.tokens (info : GlobalBatchInfo K) (matrix : LossMatrix K) :
    Except PyError K :=
  match info.batchNumTokens with
  | some tokens => .ok tokens
  | none =>
      if info.dpSize > 1 then
        .error (valueError "(global) batch_num_tokens is required when dp_size > 1")
      else .ok (matrix.rows.map LossRow.tokens).sum

/-- `agg_loss` -/
def aggLoss (lossAggMode : PyStr) (info : GlobalBatchInfo K) (matrix : LossMatrix K) :
    Except PyError (Flt K) :=
  if lossAggMode = "token-mean".toList then do
    let tokens ← info.tokens matrix
    return matrix.validSum / .fin tokens * .fin (info.dpSize : K)
  else if lossAggMode = "token-sum".toList then
    .ok (matrix.validSum * .fin (info.dpSize : K))
  else if lossAggMode = "seq-mean-token-sum".toList ∨
      lossAggMode = "seq-mean-token-sum-norm".toList then do
    let sequences ← info.sequences matrix
    let loss := matrix.seqSum LossRow.tokenSum / .fin sequences * .fin (info.dpSize : K)
    if lossAggMode = "seq-mean-token-sum-norm".toList then
      return loss / .fin (info.lossScaleFactor.getD (matrix.width : K))
    else return loss
  else if lossAggMode = "seq-mean-token-mean".toList then do
    let sequences ← info.sequences matrix
    return matrix.seqSum LossRow.tokenMean / .fin sequences * .fin (info.dpSize : K)
  else .error (valueError s!"Invalid loss_agg_mode: {String.ofList lossAggMode}")

/-! ### One loss for every layout -/

/-- The modes of `agg_loss`. -/
def lossAggModes : List PyStr :=
  ["token-mean", "token-sum", "seq-mean-token-sum", "seq-mean-token-sum-norm",
    "seq-mean-token-mean"].map String.toList

/-- What a mode divides by is given, and positive. -/
structure GlobalBatchInfo.Normalizes (info : GlobalBatchInfo K) (lossAggMode : PyStr) : Prop where
  tokens : lossAggMode = "token-mean".toList → ∃ n, info.batchNumTokens = some n ∧ 0 < n
  sequences : lossAggMode ∈ ["seq-mean-token-sum".toList, "seq-mean-token-sum-norm".toList,
    "seq-mean-token-mean".toList] → ∃ n, info.globalBatchSize = some n ∧ 0 < n
  scale : lossAggMode = "seq-mean-token-sum-norm".toList →
    ∃ n, info.lossScaleFactor = some n ∧ 0 < n

/-- What a row adds to the sum of a mode. -/
def rowLoss (lossAggMode : PyStr) (row : LossRow K) : Flt K :=
  if lossAggMode = "token-mean".toList ∨ lossAggMode = "token-sum".toList then row.validSum
  else if lossAggMode = "seq-mean-token-mean".toList then
    (if row.seqMask ≠ 0 then row.tokenMean else 0) * .fin row.seqMask
  else (if row.seqMask ≠ 0 then row.tokenSum else 0) * .fin row.seqMask

/-- The sum over the rows in each mode. -/
def LossMatrix.total (lossAggMode : PyStr) (matrix : LossMatrix K) : Flt K :=
  (matrix.rows.map (rowLoss lossAggMode)).sum

theorem total_seqSum (lossAggMode : PyStr) (seqLoss : LossRow K → Flt K)
    (hrow : ∀ row : LossRow K, rowLoss lossAggMode row =
      (if row.seqMask ≠ 0 then seqLoss row else 0) * .fin row.seqMask) (matrix : LossMatrix K) :
    matrix.seqSum seqLoss = matrix.total lossAggMode := by
  unfold LossMatrix.seqSum TorchFunctional.maskedSum LossMatrix.total
  rw [List.map_map]
  congr 1
  apply List.map_congr_left
  intro row _
  rw [hrow row]
  rfl

variable [IsStrictOrderedRing K]

/-- A quotient by a number of the global batch is a scaled sum. -/
theorem quotient_scaled (total : Flt K) {n : K} (hn : 0 < n) {dpSize : Nat} (hdp : 0 < dpSize) :
    total / .fin n * .fin (dpSize : K) = total * .fin (n⁻¹ * dpSize) := by
  rw [Flt.div_pos_eq total hn,
    Flt.mul_mul_pos total (inv_pos.mpr hn) (Nat.cast_pos.mpr hdp)]

/-- Every mode scales a sum over the rows. -/
theorem aggLoss_scaled {lossAggMode : PyStr} (hmode : lossAggMode ∈ lossAggModes)
    {info : GlobalBatchInfo K} (h : info.Normalizes lossAggMode) :
    ∃ c : K, 0 < c ∧ ∀ dpSize : Nat, 0 < dpSize → ∀ matrix : LossMatrix K,
      aggLoss lossAggMode { info with dpSize } matrix =
        .ok (matrix.total lossAggMode * .fin (c * dpSize)) := by
  simp only [lossAggModes, List.map_cons, List.map_nil, List.mem_cons, List.not_mem_nil,
    or_false] at hmode
  rcases hmode with rfl | rfl | rfl | rfl | rfl
  · obtain ⟨n, hn, hpos⟩ := h.tokens rfl
    refine ⟨n⁻¹, inv_pos.mpr hpos, fun dpSize hdp matrix => ?_⟩
    have htotal : matrix.validSum = matrix.total "token-mean".toList := rfl
    unfold aggLoss GlobalBatchInfo.tokens
    rw [if_pos rfl, hn, ok_bind, htotal, quotient_scaled _ hpos hdp]
    rfl
  · refine ⟨1, one_pos, fun dpSize hdp matrix => ?_⟩
    have htotal : matrix.validSum = matrix.total "token-sum".toList := rfl
    unfold aggLoss
    rw [if_neg (by decide), if_pos rfl, htotal, one_mul]
  · obtain ⟨n, hn, hpos⟩ := h.sequences (by decide)
    refine ⟨n⁻¹, inv_pos.mpr hpos, fun dpSize hdp matrix => ?_⟩
    have htotal := total_seqSum "seq-mean-token-sum".toList LossRow.tokenSum
      (fun row => rfl) matrix
    unfold aggLoss GlobalBatchInfo.sequences
    rw [if_neg (by decide), if_neg (by decide), if_pos (by decide), hn, ok_bind, htotal,
      quotient_scaled _ hpos hdp, if_neg (by decide)]
    rfl
  · obtain ⟨n, hn, hpos⟩ := h.sequences (by decide)
    obtain ⟨s, hs, hscale⟩ := h.scale rfl
    refine ⟨n⁻¹ * s⁻¹, mul_pos (inv_pos.mpr hpos) (inv_pos.mpr hscale), fun dpSize hdp matrix => ?_⟩
    have htotal := total_seqSum "seq-mean-token-sum-norm".toList LossRow.tokenSum
      (fun row => rfl) matrix
    have hmul : (0 : K) < n⁻¹ * dpSize := mul_pos (inv_pos.mpr hpos) (Nat.cast_pos.mpr hdp)
    unfold aggLoss GlobalBatchInfo.sequences
    rw [if_neg (by decide), if_neg (by decide), if_pos (by decide), hn, ok_bind, htotal,
      quotient_scaled _ hpos hdp, if_pos rfl, hs, Option.getD_some, Flt.div_pos_eq _ hscale,
      Flt.mul_mul_pos _ hmul (inv_pos.mpr hscale), mul_right_comm]
    rfl
  · obtain ⟨n, hn, hpos⟩ := h.sequences (by decide)
    refine ⟨n⁻¹, inv_pos.mpr hpos, fun dpSize hdp matrix => ?_⟩
    have htotal := total_seqSum "seq-mean-token-mean".toList LossRow.tokenMean
      (fun row => rfl) matrix
    unfold aggLoss GlobalBatchInfo.sequences
    rw [if_neg (by decide), if_neg (by decide), if_neg (by decide), if_pos rfl, hn, ok_bind, htotal,
      quotient_scaled _ hpos hdp]
    rfl

/-! ### The pass of a rank -/

variable {β γ : Type}

/-- The loss matrix of a micro-batch: its rows do not depend on the rest of the micro-batch, its
    width may. -/
def lossMatrix (width : List β → Nat) (lossRow : β → LossRow K) (microBatch : List β) :
    LossMatrix K where
  width := width microBatch
  rows := microBatch.map lossRow

/-- `forward_backward_batch`: the tokens of the global batch are counted first. -/
def forwardBackwardBatch (options : PrepareOptions) (lossAggMode : PyStr)
    (info : GlobalBatchInfo K) (lossTokens : β → Nat) (width : List β → Nat)
    (lossRow : β → LossRow K) (fields : List (PyStr × (β → γ))) (batch : Batch β) :
    ExceptT PyError Rank (BatchOutput γ (Flt K)) := do
  let batchNumTokens ← allReduce .sum ![((batch.rows.map lossTokens).sum : Int)]
  let info := { info with batchNumTokens := some (batchNumTokens ⟨0, Nat.one_pos⟩ : K) }
  let prepared ← prepareMicroBatches true options batch
  let outputs ← ofExcept (prepared.1.mapM (forwardStep fields fun microBatch =>
    aggLoss lossAggMode info (lossMatrix width lossRow microBatch)))
  ofExcept (postprocessBatchFunc options.useDynamicBsz outputs prepared.2)

section Group

variable {ι : Type} [Fintype ι] [Nonempty ι]

theorem sum_map_flatten {α M : Type} [AddMonoid M] (f : α → M) (parts : List (List α)) :
    (parts.flatten.map f).sum = (parts.map fun part => (part.map f).sum).sum := by
  induction parts with
  | nil => rfl
  | cons part parts ih =>
    rw [List.flatten_cons, List.map_append, List.sum_append, ih, List.map_cons, List.sum_cons]

/-- The loss of a group, from those of the micro-batches of its ranks. -/
theorem group_loss (total : LossRow K → Flt K) {c : K} (hc : 0 < c) {lossRow : β → LossRow K}
    {rows : ι → List β} {microBatches : ι → List (List β)}
    (hperm : ∀ r, (microBatches r).flatten.Perm (rows r)) {global : List (LossRow K)}
    (hglobal : global.Perm (Finset.univ.toList.flatMap fun r => (rows r).map lossRow)) :
    (∑ r, ((microBatches r).map fun microBatch =>
        ((microBatch.map lossRow).map total).sum * Flt.fin (c * Fintype.card ι)).sum) /
          Flt.fin (Fintype.card ι : K) =
      (global.map total).sum * Flt.fin c := by
  have hcard : (0 : K) < Fintype.card ι := Nat.cast_pos.mpr Fintype.card_pos
  have hscale := mul_pos hc hcard
  have hrank (r : ι) : ((microBatches r).map fun microBatch =>
      ((microBatch.map lossRow).map total).sum * Flt.fin (c * Fintype.card ι)).sum =
      (((rows r).map lossRow).map total).sum * Flt.fin (c * Fintype.card ι) := by
    rw [← Flt.sum_mul_pos _ _ hscale, ← (((hperm r).map lossRow).map total).sum_eq, List.map_map,
      sum_map_flatten]
    simp only [List.map_map]
  have hall : (∑ r, (((rows r).map lossRow).map total).sum * Flt.fin (c * Fintype.card ι)) =
      (global.map total).sum * Flt.fin (c * Fintype.card ι) := by
    rw [← Finset.sum_map_toList, ← Flt.sum_mul_pos _ _ hscale, (hglobal.map total).sum_eq,
      List.flatMap_def, sum_map_flatten, List.map_map]
    rfl
  simp only [hrank]
  rw [hall, Flt.div_pos_eq _ hcard, Flt.mul_mul_pos _ hscale (inv_pos.mpr hcard), mul_assoc,
    mul_inv_cancel₀ hcard.ne', mul_one]

/-- The tokens of the global batch. -/
def globalTokens (lossTokens : β → Nat) (batch : ι → Batch β) : Int :=
  ∑ r, (((batch r).rows.map lossTokens).sum : Int)

/-- However the global batch was dealt out to the ranks, and however each of them cuts its part
    into micro-batches: the mean over the ranks of their losses is the loss of the global batch. -/
theorem forwardBackwardBatch_objective (options : PrepareOptions) (lossAggMode : PyStr)
    (info : GlobalBatchInfo K) (lossTokens : β → Nat) (width : List β → Nat)
    (lossRow : β → LossRow K) (fields : List (PyStr × (β → γ))) (batch : ι → Batch β)
    (global : LossMatrix K) (hmode : lossAggMode ∈ lossAggModes)
    (hinfo : ({ info with batchNumTokens := some (globalTokens lossTokens batch : K) } :
      GlobalBatchInfo K).Normalizes lossAggMode)
    (hsize : info.dpSize = Fintype.card ι)
    (hglobal : global.rows.Perm
      (Finset.univ.toList.flatMap fun r => (batch r).rows.map lossRow))
    (hdynamic : options.useDynamicBsz = true) (hnodup : (Dict.keys fields).Nodup)
    (hadmissible : ∀ tokens, options.maxTokenLenPerGpu = some tokens →
      ∀ r, Rearrangeable (options.microBatchOptions tokens) (batch r).lengths) :
    Agree (fun _ => ¬ options.Fits batch)
      (fun r => forwardBackwardBatch options lossAggMode info lossTokens width lossRow fields
        (batch r)) fun outputs =>
      aggLoss lossAggMode { info with
          dpSize := 1
          batchNumTokens := some (globalTokens lossTokens batch : K) } global =
        .ok ((∑ r, (outputs r).loss.sum) / .fin (Fintype.card ι : K)) := by
  obtain ⟨c, hc, hscaled⟩ := aggLoss_scaled hmode hinfo
  have hlocal (matrix : LossMatrix K) := hscaled (Fintype.card ι) Fintype.card_pos matrix
  have hwhole := hscaled 1 one_pos global
  unfold forwardBackwardBatch
  apply Agree.bind (Agree.allReduce rfl)
  rintro _ rfl
  have htokens : reduce .sum (fun r => ![(((batch r).rows.map lossTokens).sum : Int)])
      ⟨0, Nat.one_pos⟩ = globalTokens lossTokens batch := rfl
  simp only [htokens]
  apply Agree.bind (prepareMicroBatches_agree hdynamic hadmissible)
  intro prepared hprepared
  choose idx hne hperm heq using hprepared
  have hloss (microBatch : List β) := hlocal (lossMatrix width lossRow microBatch)
  rw [← hsize] at hloss
  apply Agree.bind (Agree.ofExcept _ (fun r => mapM_forwardStep hloss _) rfl)
  rintro _ rfl
  apply Agree.ofExcept (fun r =>
    { modelOutput := fields.map fun field => (field.1, (batch r).rows.map field.2)
      loss := ((idx r).map (indexSelect (batch r).rows)).map fun microBatch =>
        (lossMatrix width lossRow microBatch).total lossAggMode *
          .fin (c * info.dpSize) })
  · intro r
    dsimp only
    rw [heq r, hdynamic]
    exact postprocessBatchFunc_selected hnodup _ (hne r) (hperm r)
  · have hgroup := group_loss (rowLoss lossAggMode) hc (fun r => indexSelect_perm (hperm r)) hglobal
    rw [hwhole, hsize, Nat.cast_one, mul_one]
    exact congrArg Except.ok hgroup.symm

end Group

end R2opl
