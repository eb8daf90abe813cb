import Mathlib.Data.List.Sort
import Mathlib.Data.List.Forall2

/-!
# Dense tensors

A tensor is a shape together with a total read function; only the entries
inside the shape are meaningful.  Shape checks are ordinary list comparisons,
and a write is the read function that sees the written block.
-/

structure Tensor (α : Type) where
  shape : List Nat
  entry : List Nat → α

namespace Tensor

variable {α β γ : Type}

def ndim (t : Tensor α) : Nat := t.shape.length

/-- `t.shape[axis]`. -/
def size (t : Tensor α) (axis : Nat) : Nat := t.shape.getD axis 0

def numel (t : Tensor α) : Nat := t.shape.foldr (· * ·) 1

def at1 (t : Tensor α) (i : Nat) : α := t.entry [i]

def at2 (t : Tensor α) (i j : Nat) : α := t.entry [i, j]

def at3 (t : Tensor α) (i j k : Nat) : α := t.entry [i, j, k]

/-! ### Tensors given by their entries -/

def vec (n : Nat) (f : Nat → α) : Tensor α :=
  ⟨[n], fun index => f (index.getD 0 0)⟩

def mat (rows columns : Nat) (f : Nat → Nat → α) : Tensor α :=
  ⟨[rows, columns], fun index => f (index.getD 0 0) (index.getD 1 0)⟩

def cube (planes rows columns : Nat) (f : Nat → Nat → Nat → α) : Tensor α :=
  ⟨[planes, rows, columns],
    fun index => f (index.getD 0 0) (index.getD 1 0) (index.getD 2 0)⟩

def map (f : α → β) (t : Tensor α) : Tensor β := ⟨t.shape, fun index => f (t.entry index)⟩

@[simp] theorem shape_vec (n : Nat) (f : Nat → α) : (vec n f).shape = [n] := rfl

@[simp] theorem shape_mat (r c : Nat) (f : Nat → Nat → α) : (mat r c f).shape = [r, c] := rfl

@[simp] theorem shape_cube (p r c : Nat) (f : Nat → Nat → Nat → α) :
    (cube p r c f).shape = [p, r, c] := rfl

@[simp] theorem shape_map (f : α → β) (t : Tensor α) : (t.map f).shape = t.shape := rfl

@[simp] theorem at1_vec (n : Nat) (f : Nat → α) (i : Nat) : (vec n f).at1 i = f i := rfl

@[simp] theorem at2_mat (r c : Nat) (f : Nat → Nat → α) (i j : Nat) :
    (mat r c f).at2 i j = f i j := rfl

@[simp] theorem at3_cube (p r c : Nat) (f : Nat → Nat → Nat → α) (i j k : Nat) :
    (cube p r c f).at3 i j k = f i j k := rfl

@[simp] theorem at1_map (f : α → β) (t : Tensor α) (i : Nat) :
    (t.map f).at1 i = f (t.at1 i) := rfl

@[simp] theorem at2_map (f : α → β) (t : Tensor α) (i j : Nat) :
    (t.map f).at2 i j = f (t.at2 i j) := rfl

theorem shape_of_ndim {t : Tensor α} (h : t.ndim = 2) : t.shape = [t.size 0, t.size 1] := by
  obtain ⟨rows, columns, hshape⟩ := List.length_eq_two.mp h
  rw [size, size, hshape]
  rfl

theorem size_of_shape {t : Tensor α} {rows columns : Nat} (h : t.shape = [rows, columns]) :
    t.size 0 = rows ∧ t.size 1 = columns := by
  rw [size, size, h]
  exact ⟨rfl, rfl⟩

/-- The index of element `i` in row-major order. -/
def unravel : List Nat → Nat → List Nat
  | [], _ => []
  | _ :: rest, i => i / rest.foldr (· * ·) 1 :: unravel rest (i % rest.foldr (· * ·) 1)

/-- `t.reshape(-1)`. -/
def flatten (t : Tensor α) : Tensor α := vec t.numel fun i => t.entry (unravel t.shape i)

@[simp] theorem shape_flatten (t : Tensor α) : t.flatten.shape = [t.numel] := rfl

theorem numel_of_shape {t : Tensor α} {n : Nat} (h : t.shape = [n]) : t.numel = n := by
  rw [numel, h]
  exact Nat.mul_one n

theorem at1_flatten {t : Tensor α} {n : Nat} (h : t.shape = [n]) (i : Nat) :
    t.flatten.at1 i = t.at1 i := by
  rw [flatten, at1_vec, h, unravel, List.foldr_nil, Nat.div_one]
  rfl

/-! ### Block writes -/

/-- `t[top:bottom, left:right] = block`, with the block read from its own
    corner. -/
def setBlock (t : Tensor α) (top bottom left right : Nat) (block : Nat → Nat → α) :
    Tensor α where
  shape := t.shape
  entry := fun index => match index with
    | [i, j] =>
        if top ≤ i ∧ i < bottom ∧ left ≤ j ∧ j < right then block (i - top) (j - left)
        else t.entry [i, j]
    | _ => t.entry index

@[simp] theorem shape_setBlock (t : Tensor α) (top bottom left right : Nat)
    (block : Nat → Nat → α) :
    (t.setBlock top bottom left right block).shape = t.shape := rfl

theorem at2_setBlock (t : Tensor α) (top bottom left right : Nat)
    (block : Nat → Nat → α) (i j : Nat) :
    (t.setBlock top bottom left right block).at2 i j =
      if top ≤ i ∧ i < bottom ∧ left ≤ j ∧ j < right then block (i - top) (j - left)
      else t.at2 i j := rfl

/-- `t[indices] = value` on a one-dimensional tensor. -/
def setIndices (t : Tensor α) (indices : List Nat) (value : α) : Tensor α where
  shape := t.shape
  entry := fun index => match index with
    | [i] => if i ∈ indices then value else t.entry [i]
    | _ => t.entry index

@[simp] theorem shape_setIndices (t : Tensor α) (indices : List Nat) (value : α) :
    (t.setIndices indices value).shape = t.shape := rfl

theorem at1_setIndices (t : Tensor α) (indices : List Nat) (value : α) (i : Nat) :
    (t.setIndices indices value).at1 i = if i ∈ indices then value else t.at1 i := rfl

/-! ### Rows -/

/-- Row `i` of a two-dimensional tensor, as a list. -/
def row (t : Tensor α) (i : Nat) : List α := (List.range (t.size 1)).map fun j => t.at2 i j

/-- The entries along the last axis, at an index into the others. -/
def lastAxis (t : Tensor α) (index : List Nat) : List α :=
  (List.range (t.shape.getLastD 0)).map fun j => t.entry (index ++ [j])

theorem lastAxis_singleton {t : Tensor α} (h : t.ndim = 2) (i : Nat) :
    t.lastAxis [i] = t.row i := by
  rw [lastAxis, shape_of_ndim h]
  rfl

/-- `t.sum(dim=-1)` of a two-dimensional tensor. -/
def sumLast [Add α] [Zero α] (t : Tensor α) : Tensor α :=
  vec (t.size 0) fun i => (t.row i).sum

/-- `t[mask]` on a one-dimensional tensor. -/
def select (t : Tensor α) (mask : Tensor Bool) : List α :=
  ((List.range (t.size 0)).filter mask.at1).map t.at1

theorem mem_select {t : Tensor α} {mask : Tensor Bool} {value : α} :
    value ∈ t.select mask ↔ ∃ i < t.size 0, mask.at1 i = true ∧ t.at1 i = value := by
  simp [select, and_assoc]

/-- All entries of a two-dimensional tensor, in row-major order. -/
def elements (t : Tensor α) : List α := (List.range (t.size 0)).flatMap t.row

/-- `t[mask]` on a two-dimensional tensor, in row-major order. -/
def selectTokens (t : Tensor α) (mask : Tensor Bool) : List α :=
  (List.range (t.size 0)).flatMap fun row =>
    ((List.range (t.size 1)).filter (mask.at2 row)).map (t.at2 row)

/-- The rows that a mask selects, in increasing order. -/
def trueRows (mask : Tensor Bool) : List Nat := (List.range (mask.size 0)).filter mask.at1

theorem mem_trueRows {mask : Tensor Bool} {row : Nat} :
    row ∈ mask.trueRows ↔ row < mask.size 0 ∧ mask.at1 row = true := by
  rw [trueRows, List.mem_filter, List.mem_range]

/-- `t[mask]` on the first axis. -/
def selectRows (t : Tensor α) (mask : Tensor Bool) : Tensor α where
  shape := mask.trueRows.length :: t.shape.tail
  entry := fun index => match index with
    | [] => t.entry []
    | i :: rest => t.entry (mask.trueRows.getD i 0 :: rest)

theorem shape_selectRows {mask : Tensor Bool} {t : Tensor α} {rows columns : Nat}
    (h : t.shape = [rows, columns]) :
    (t.selectRows mask).shape = [mask.trueRows.length, columns] := by
  rw [selectRows, h]
  rfl

@[simp] theorem at2_selectRows (t : Tensor α) (mask : Tensor Bool) (i j : Nat) :
    (t.selectRows mask).at2 i j = t.at2 (mask.trueRows.getD i 0) j := rfl

/-- `t[start:stop]` on the first axis. -/
def sliceRows (t : Tensor α) (start stop : Nat) : Tensor α where
  shape := (min stop (t.size 0) - start) :: t.shape.tail
  entry := fun index => match index with
    | [] => t.entry []
    | i :: rest => t.entry ((start + i) :: rest)

/-- `torch.cat(chunks)` of one-dimensional tensors. -/
def catVec [Zero α] (chunks : List (Tensor α)) : Tensor α :=
  let values := chunks.flatMap fun chunk => (List.range (chunk.size 0)).map chunk.at1
  vec values.length fun i => values.getD i 0

@[simp] theorem at1_sliceRows (t : Tensor α) (start stop i : Nat) :
    (t.sliceRows start stop).at1 i = t.at1 (start + i) := rfl

@[simp] theorem at2_sliceRows (t : Tensor α) (start stop i j : Nat) :
    (t.sliceRows start stop).at2 i j = t.at2 (start + i) j := rfl

theorem shape_sliceRows {t : Tensor α} (h : t.ndim = 2) (start stop : Nat) :
    (t.sliceRows start stop).shape = [min stop (t.size 0) - start, t.size 1] := by
  rw [sliceRows, size, size, shape_of_ndim h]
  rfl

theorem row_sliceRows {t : Tensor α} (h : t.ndim = 2) (start stop i : Nat) :
    (t.sliceRows start stop).row i = t.row (start + i) := by
  rw [row, size, shape_sliceRows h]
  rfl

/-- `rows.unsqueeze(-1).expand(rows, columns)`. -/
def expandRows (rows columns : Nat) (t : Tensor α) : Tensor α :=
  mat rows columns fun row _ => t.at1 row

@[simp] theorem shape_expandRows (rows columns : Nat) (t : Tensor α) :
    (expandRows rows columns t).shape = [rows, columns] := rfl

@[simp] theorem at2_expandRows (rows columns : Nat) (t : Tensor α) (i j : Nat) :
    (expandRows rows columns t).at2 i j = t.at1 i := rfl

/-- Rows reordered: row `i` of the result is row `source i` of `t`. -/
def reorder (source : Nat → Nat) (t : Tensor α) : Tensor α where
  shape := t.shape
  entry := fun index => match index with
    | [] => t.entry []
    | i :: rest => t.entry (source i :: rest)

@[simp] theorem shape_reorder (source : Nat → Nat) (t : Tensor α) :
    (t.reorder source).shape = t.shape := rfl

@[simp] theorem at1_reorder (source : Nat → Nat) (t : Tensor α) (i : Nat) :
    (t.reorder source).at1 i = t.at1 (source i) := rfl

@[simp] theorem at2_reorder (source : Nat → Nat) (t : Tensor α) (i j : Nat) :
    (t.reorder source).at2 i j = t.at2 (source i) j := rfl

/-! ### Agreement on some rows -/

/-- One shape, and the same entries in the selected rows. -/
structure AgreeOn (rows : Nat → Prop) (t u : Tensor α) : Prop where
  shape : t.shape = u.shape
  entry : ∀ row < t.size 0, rows row → ∀ rest, List.Forall₂ (· < ·) rest t.shape.tail →
    t.entry (row :: rest) = u.entry (row :: rest)

namespace AgreeOn

variable {rows : Nat → Prop} {t u : Tensor α}

theorem size (h : t.AgreeOn rows u) (axis : Nat) : t.size axis = u.size axis := by
  rw [Tensor.size, Tensor.size, h.shape]

theorem ndim (h : t.AgreeOn rows u) : t.ndim = u.ndim := by
  rw [Tensor.ndim, Tensor.ndim, h.shape]

theorem symm (h : t.AgreeOn rows u) : u.AgreeOn rows t where
  shape := h.shape.symm
  entry := by
    intro row hrow hselected rest hrest
    rw [← h.size] at hrow
    rw [← h.shape] at hrest
    exact (h.entry row hrow hselected rest hrest).symm

theorem at1 (h : t.AgreeOn rows u) (hndim : t.ndim = 1) {row : Nat} (hrow : row < t.size 0)
    (hselected : rows row) : t.at1 row = u.at1 row := by
  obtain ⟨n, hshape⟩ := List.length_eq_one_iff.mp hndim
  apply h.entry row hrow hselected
  rw [hshape]
  exact .nil

theorem at2 (h : t.AgreeOn rows u) (hndim : t.ndim = 2) {row column : Nat}
    (hrow : row < t.size 0) (hselected : rows row) (hcolumn : column < t.size 1) :
    t.at2 row column = u.at2 row column := by
  apply h.entry row hrow hselected
  rw [shape_of_ndim hndim]
  exact .cons hcolumn .nil

theorem of_at1 {n : Nat} (ht : t.shape = [n]) (hu : u.shape = [n])
    (hat : ∀ row < n, rows row → t.at1 row = u.at1 row) : t.AgreeOn rows u where
  shape := ht.trans hu.symm
  entry := by
    intro row hrow hselected rest hrest
    rw [Tensor.size, ht] at hrow
    rw [ht] at hrest
    cases hrest
    exact hat row hrow hselected

theorem of_at2 {n m : Nat} (ht : t.shape = [n, m]) (hu : u.shape = [n, m])
    (hat : ∀ row < n, rows row → ∀ column < m, t.at2 row column = u.at2 row column) :
    t.AgreeOn rows u where
  shape := ht.trans hu.symm
  entry := by
    intro row hrow hselected rest hrest
    rw [Tensor.size, ht] at hrow
    rw [ht] at hrest
    cases hrest with
    | cons hcolumn hnil =>
      cases hnil
      exact hat row hrow hselected _ hcolumn

end AgreeOn

/-- A selection depends on the mask and on the selected entries. -/
theorem select_congr {t u : Tensor α} {mask mask' : Tensor Bool} (hsize : t.size 0 = u.size 0)
    (hmask : ∀ row < t.size 0, mask.at1 row = mask'.at1 row)
    (hat : ∀ row < t.size 0, mask.at1 row = true → t.at1 row = u.at1 row) :
    t.select mask = u.select mask' := by
  have hfilter : (List.range (t.size 0)).filter mask.at1 =
      (List.range (u.size 0)).filter mask'.at1 := by
    rw [← hsize]
    apply List.filter_congr
    intro row hrow
    exact hmask row (List.mem_range.mp hrow)
  rw [select, select, ← hfilter]
  apply List.map_congr_left
  intro row hrow
  obtain ⟨hrange, hselected⟩ := List.mem_filter.mp hrow
  exact hat row (List.mem_range.mp hrange) hselected

/-- The positions of a row that hold `true`, in increasing order. -/
def trueColumns (t : Tensor Bool) (row : Nat) : List Nat :=
  (List.range (t.size 1)).filter fun column => t.at2 row column

theorem mem_trueColumns {t : Tensor Bool} {row column : Nat} :
    column ∈ t.trueColumns row ↔ column < t.size 1 ∧ t.at2 row column = true := by
  simp [trueColumns]

/-- A row is read off any strictly increasing enumeration of its true
    positions. -/
theorem trueColumns_eq {t : Tensor Bool} {row : Nat} {columns : List Nat}
    (hsorted : columns.Pairwise (· < ·))
    (hmem : ∀ column, column ∈ columns ↔ column < t.size 1 ∧ t.at2 row column = true) :
    t.trueColumns row = columns := by
  have hfilter : (t.trueColumns row).Pairwise (· < ·) :=
    List.Pairwise.filter _ List.pairwise_lt_range
  exact hfilter.eq_of_mem_iff hsorted fun column =>
    mem_trueColumns.trans (hmem column).symm

end Tensor
