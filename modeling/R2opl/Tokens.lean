import R2opl.Python
import R2opl.Lib.Tensor
import R2opl.Lib.ExactFloat

/-!
# Token tensors

Tensors over the tokens of a padded batch: a token mask restricted to some rows,
the number of tokens a row keeps, what it means that values are finite on a mask,
and the clamp on token losses.
-/

namespace R2opl

open Checked

variable {K : Type}

def shapeText (shape : List Nat) : String := tupleText (shape.map toString)

/-- `token_mask & rows.unsqueeze(-1)`. -/
def maskRows (tokenMask : Tensor Bool) (rows : Tensor Bool) : Tensor Bool :=
  .mat (tokenMask.size 0) (tokenMask.size 1) fun row column =>
    tokenMask.at2 row column && rows.at1 row

/-- `mask.sum(dim=-1)`. -/
def tokenCount (mask : Tensor Bool) (row : Nat) : Nat := ((mask.row row).filter id).length

/-- `torch.isfinite(values[mask]).all()` on a token mask. -/
def FiniteOn (values : Tensor (Flt K)) (mask : Tensor Bool) : Prop :=
  ∀ row < mask.size 0, ∀ column < mask.size 1, mask.at2 row column = true →
    (values.at2 row column).isFinite = true

instance (values : Tensor (Flt K)) (mask : Tensor Bool) : Decidable (FiniteOn values mask) :=
  inferInstanceAs (Decidable (∀ row < mask.size 0, ∀ column < mask.size 1, _ → _))

/-- `torch.equal` on two-dimensional masks. -/
def EqualMasks (left right : Tensor Bool) : Prop :=
  left.shape = right.shape ∧ ∀ row < left.size 0, ∀ column < left.size 1,
    left.at2 row column = right.at2 row column

instance (left right : Tensor Bool) : Decidable (EqualMasks left right) :=
  inferInstanceAs (Decidable (left.shape = right.shape ∧
    ∀ row < left.size 0, ∀ column < left.size 1, _ = _))

/-- `torch.arange(width).unsqueeze(0) < counts.unsqueeze(1)`. -/
def leadingColumns (width : Nat) (counts : Tensor Nat) : Tensor Bool :=
  .mat (counts.size 0) width fun row column => decide (column < counts.at1 row)

/-! ### Clamped signals -/

section Clamp

variable [LinearOrder K]

/-- `signal.clamp(min=-loss_max_clamp, max=loss_max_clamp)`, when it is set. -/
def clampSignal [Field K] (lossMaxClamp : Option (Flt K)) (signal : Flt K) : Flt K :=
  lossMaxClamp.elim signal fun bound => signal.clamp (-bound) bound

/-- The optional clamp on finite signals. -/
def clampValue [Neg K] (bound : Option K) (x : K) : K :=
  bound.elim x fun c => min (max x (-c)) c

variable [Field K]

theorem clampSignal_fin (bound : Option K) (x : K) :
    clampSignal (bound.map Flt.fin) (.fin x) = .fin (clampValue bound x) := by
  cases bound with
  | none => rfl
  | some c => simp [clampSignal, clampValue, Flt.clamp_fin]

theorem clampValue_zero [IsStrictOrderedRing K] {bound : Option K}
    (hbound : ∀ c ∈ bound, 0 ≤ c) : clampValue bound 0 = 0 := by
  cases bound with
  | none => rfl
  | some c =>
    have hc := hbound c rfl
    rw [clampValue, Option.elim_some, max_eq_left (neg_nonpos.mpr hc), min_eq_left hc]

end Clamp

/-! ### Counting -/

theorem tokenCount_ne_zero {mask : Tensor Bool} {row column : Nat}
    (hcolumn : column < mask.size 1) (htoken : mask.at2 row column = true) :
    tokenCount mask row ≠ 0 := by
  rw [tokenCount, ne_eq, List.length_eq_zero_iff, List.filter_eq_nil_iff, not_forall]
  refine ⟨true, ?_⟩
  rw [Classical.not_imp]
  refine ⟨List.mem_map.mpr ⟨column, List.mem_range.mpr hcolumn, htoken⟩, by simp⟩

theorem tokenCount_le (mask : Tensor Bool) (row : Nat) : tokenCount mask row ≤ mask.size 1 := by
  have hrow : (mask.row row).length = mask.size 1 := by
    rw [Tensor.row, List.length_map, List.length_range]
  rw [tokenCount, ← hrow]
  exact List.length_filter_le _ _

/-- A row whose true entries are its first `count` columns has that many. -/
theorem tokenCount_of_leading {mask : Tensor Bool} {row count : Nat}
    (hmask : ∀ column < mask.size 1, mask.at2 row column = decide (column < count))
    (hcount : count ≤ mask.size 1) : tokenCount mask row = count := by
  have hrow : mask.row row =
      (List.range (mask.size 1)).map fun column => decide (column < count) := by
    apply List.map_congr_left
    intro column hcolumn
    exact hmask column (List.mem_range.mp hcolumn)
  obtain ⟨rest, hrest⟩ := Nat.exists_eq_add_of_le hcount
  have hleading : ((List.range count).filter fun column => decide (column < count)) =
      List.range count := by
    apply List.filter_eq_self.mpr
    intro column hcolumn
    exact decide_eq_true (List.mem_range.mp hcolumn)
  have htrailing : (((List.range rest).map (count + ·)).filter
      fun column => decide (column < count)) = [] := by
    apply List.filter_eq_nil_iff.mpr
    simp
  rw [tokenCount, hrow, List.filter_map, List.length_map, Function.id_comp, hrest,
    List.range_add, List.filter_append, hleading, htrailing, List.append_nil,
    List.length_range]

end R2opl
