import Mathlib.Analysis.SpecialFunctions.Exp
import Mathlib.Analysis.SpecialFunctions.Log.Basic
import R2opl.Lib.Exponentials
import R2opl.Lib.Tensor
import R2opl.Objective.Hyperparameters

/-!
# The entropy-gated forward KL

`compute_entropy_gated_forward_kl` and `entropy_gated_topk_forward_kl_from_logits`
(`algorithms/eopd.py`): the divergence of the Teacher's renormalised top-k distribution from
the Student's, where the Teacher's entropy is high, chunk by chunk.
-/

namespace R2opl

open Checked Exponentials

variable {K : Type} [Field K] [LinearOrder K] (e : Exponentials K)

/-! ### The code -/

/-- The forward KL at one position, before the gate. -/
def forwardKl (studentTopkLogProbs teacherTopkLogProbs : Tensor K) (position : List Nat) : K :=
  let normalizer := e.logSumExp (teacherTopkLogProbs.lastAxis position)
  ((List.range (teacherTopkLogProbs.shape.getLastD 0)).map fun rank =>
    let normalized := teacherTopkLogProbs.entry (position ++ [rank]) - normalizer
    e.exp normalized * (normalized - studentTopkLogProbs.entry (position ++ [rank]))).sum

/-- The forward KL where the Teacher's entropy is above the threshold. -/
def gatedForwardKl (studentTopkLogProbs teacherTopkLogProbs teacherEntropy : Tensor K)
    (entropyThreshold : Flt K) : Tensor K :=
  ⟨teacherTopkLogProbs.shape.dropLast, fun position =>
    if Flt.lt entropyThreshold (.fin (teacherEntropy.entry position)) then
      forwardKl e studentTopkLogProbs teacherTopkLogProbs position
    else 0⟩

def computeEntropyGatedForwardKl [ToString K]
    (studentTopkLogProbs teacherTopkLogProbs teacherEntropy : Tensor K)
    (entropyThreshold : Flt K) : Except PyError (Tensor K) := do
  raiseIf (studentTopkLogProbs.shape ≠ teacherTopkLogProbs.shape) (valueError
    "EOPD Student and Teacher Top-k log-probabilities must have identical shapes.")
  raiseIf (studentTopkLogProbs.ndim < 2 ∨ studentTopkLogProbs.shape.getLastD 0 = 0)
    (valueError "EOPD Top-k tensors must include a non-empty Top-k dimension.")
  raiseIf (teacherEntropy.shape ≠ teacherTopkLogProbs.shape.dropLast) (valueError
    "EOPD Teacher entropy must match the Top-k tensors' token dimensions.")
  checkNonNegative "EOPD entropy_threshold must be finite and non-negative, got "
    entropyThreshold
  return gatedForwardKl e studentTopkLogProbs teacherTopkLogProbs teacherEntropy entropyThreshold

/-- `torch.nn.functional.log_softmax(logits, dim=-1)` of a matrix. -/
def logSoftmax (logits : Tensor K) : Tensor K :=
  .mat (logits.size 0) (logits.size 1) fun token id =>
    logits.at2 token id - e.logSumExp (logits.row token)

/-- The entries that the ids name, row by row. -/
def gathered {α : Type} (values : Tensor α) (ids : Tensor Int) : Tensor α :=
  .mat (ids.size 0) (ids.size 1) fun token rank => values.at2 token (ids.at2 token rank).toNat

/-- `torch.gather(values, dim=-1, index=ids)` of a matrix. -/
def gatherLast {α : Type} (values : Tensor α) (ids : Tensor Int) :
    Except PyError (Tensor α) := do
  raiseIf (ids.ndim ≠ 2) (runtimeError
    "Index tensor must have the same number of dimensions as input tensor")
  raiseIf (values.size 0 < ids.size 0) (runtimeError
    "Size does not match at dimension 0 apart from dimension 1")
  raiseIf (∃ token < ids.size 0, ∃ rank < ids.size 1,
      ¬ (0 ≤ ids.at2 token rank ∧ ids.at2 token rank < values.size 1))
    (runtimeError "index is out of bounds for dimension 1")
  return gathered values ids

/-- The forward KL of a block of tokens, from their full-vocabulary logits. -/
def forwardKlOfLogits [ToString K] (studentLogits : Tensor K) (teacherTopkIds : Tensor Int)
    (teacherTopkLogProbs teacherEntropy : Tensor K) (entropyThreshold : Flt K) :
    Except PyError (Tensor K) := do
  let studentTopkLogProbs ← gatherLast (logSoftmax e studentLogits) teacherTopkIds
  computeEntropyGatedForwardKl e studentTopkLogProbs teacherTopkLogProbs teacherEntropy
    entropyThreshold

/-- `t.shape[0]` -/
def firstSize {α : Type} (t : Tensor α) : Except PyError Nat :=
  match t.shape with
  | [] => .error ⟨.indexError, "tuple index out of range"⟩
  | size :: _ => .ok size

/-- `entropy_gated_topk_forward_kl_from_logits` -/
def entropyGatedTopkForwardKlFromLogits [ToString K] (studentLogits : Tensor K)
    (teacherTopkIds : Tensor Int) (teacherTopkLogProbs teacherEntropy : Tensor K)
    (entropyThreshold : Flt K) (chunkSize : Int) : Except PyError (Tensor K) := do
  let tokens ← firstSize studentLogits
  raiseIf (teacherTopkIds.shape ≠ teacherTopkLogProbs.shape)
    (valueError "EOPD Teacher Top-k ids and log-probs must align.")
  let idTokens ← firstSize teacherTopkIds
  raiseIf (idTokens ≠ tokens)
    (valueError "EOPD Teacher tensors must be token-aligned with the logits.")
  let entropyTokens ← firstSize teacherEntropy
  raiseIf (entropyTokens ≠ tokens)
    (valueError "EOPD Teacher tensors must be token-aligned with the logits.")
  let chunkSize := (max 1 chunkSize).toNat
  let chunks ← (List.range' 0 ((tokens + chunkSize - 1) / chunkSize) chunkSize).mapM fun start =>
    let stop := min (start + chunkSize) tokens
    forwardKlOfLogits e (studentLogits.sliceRows start stop)
      (teacherTopkIds.sliceRows start stop) (teacherTopkLogProbs.sliceRows start stop)
      (teacherEntropy.sliceRows start stop) entropyThreshold
  return if chunks = [] then .vec 0 fun _ => 0 else .catVec chunks

/-! ### A block of tokens -/

variable {e} {studentLogits teacherTopkLogProbs teacherEntropy : Tensor K}
  {teacherTopkIds : Tensor Int} {entropyThreshold : Flt K}

/-- The tensors of a block: the ids name entries of the vocabulary, and the Teacher's values
    stand beside them. -/
structure TopkBlock (studentLogits : Tensor K) (teacherTopkIds : Tensor Int)
    (teacherTopkLogProbs teacherEntropy : Tensor K) (entropyThreshold : Flt K) : Prop where
  ids_ndim : teacherTopkIds.ndim = 2
  ids_rows : teacherTopkIds.size 0 ≤ studentLogits.size 0
  ids_inside : ∀ token < teacherTopkIds.size 0, ∀ rank < teacherTopkIds.size 1,
    0 ≤ teacherTopkIds.at2 token rank ∧ teacherTopkIds.at2 token rank < studentLogits.size 1
  ids_shape : teacherTopkIds.shape = teacherTopkLogProbs.shape
  ranks : teacherTopkIds.size 1 ≠ 0
  entropy_shape : teacherEntropy.shape = [teacherTopkIds.size 0]
  threshold : ∃ bound, 0 ≤ bound ∧ entropyThreshold = .fin bound

/-- The gated forward KL of a block. -/
def blockKl (e : Exponentials K) (studentLogits : Tensor K) (teacherTopkIds : Tensor Int)
    (teacherTopkLogProbs teacherEntropy : Tensor K) (entropyThreshold : Flt K) : Tensor K :=
  gatedForwardKl e (gathered (logSoftmax e studentLogits) teacherTopkIds) teacherTopkLogProbs
    teacherEntropy entropyThreshold

omit [Field K] [LinearOrder K] in
theorem gatherLast_eq_ok {values student : Tensor K} :
    gatherLast values teacherTopkIds = .ok student ↔
      teacherTopkIds.ndim = 2 ∧ teacherTopkIds.size 0 ≤ values.size 0 ∧
        (∀ token < teacherTopkIds.size 0, ∀ rank < teacherTopkIds.size 1,
          0 ≤ teacherTopkIds.at2 token rank ∧
            teacherTopkIds.at2 token rank < values.size 1) ∧
        student = gathered values teacherTopkIds := by
  unfold gatherLast
  rw [raiseIf_bind_eq_ok, raiseIf_bind_eq_ok, raiseIf_bind_eq_ok, not_not, Nat.not_lt]
  simp only [not_exists, not_and, Classical.not_imp, not_not, pure_eq_ok, Except.ok.injEq]
  rw [eq_comm (a := student)]

theorem computeEntropyGatedForwardKl_eq_ok [ToString K] {student values : Tensor K} :
    computeEntropyGatedForwardKl e student teacherTopkLogProbs teacherEntropy entropyThreshold =
        .ok values ↔
      student.shape = teacherTopkLogProbs.shape ∧
        ¬ (student.ndim < 2 ∨ student.shape.getLastD 0 = 0) ∧
        teacherEntropy.shape = teacherTopkLogProbs.shape.dropLast ∧
        (∃ bound, 0 ≤ bound ∧ entropyThreshold = .fin bound) ∧
        values = gatedForwardKl e student teacherTopkLogProbs teacherEntropy
          entropyThreshold := by
  unfold computeEntropyGatedForwardKl
  rw [raiseIf_bind_eq_ok, raiseIf_bind_eq_ok, raiseIf_bind_eq_ok, bind_eq_ok, not_not, not_not]
  constructor
  · rintro ⟨hshape, hranks, hentropy, ⟨⟩, hthreshold, hvalues⟩
    cases hvalues
    exact ⟨hshape, hranks, hentropy, checkNonNegative_eq_ok.mp hthreshold, rfl⟩
  · rintro ⟨hshape, hranks, hentropy, hthreshold, rfl⟩
    exact ⟨hshape, hranks, hentropy, (), checkNonNegative_eq_ok.mpr hthreshold, rfl⟩

theorem forwardKlOfLogits_eq_ok [ToString K] {values : Tensor K} :
    forwardKlOfLogits e studentLogits teacherTopkIds teacherTopkLogProbs teacherEntropy
        entropyThreshold = .ok values ↔
      TopkBlock studentLogits teacherTopkIds teacherTopkLogProbs teacherEntropy
          entropyThreshold ∧
        values = blockKl e studentLogits teacherTopkIds teacherTopkLogProbs teacherEntropy
          entropyThreshold := by
  have hgathered : (gathered (logSoftmax e studentLogits) teacherTopkIds).shape =
      [teacherTopkIds.size 0, teacherTopkIds.size 1] := rfl
  unfold forwardKlOfLogits
  rw [bind_eq_ok]
  constructor
  · rintro ⟨student, hstudent, hvalues⟩
    obtain ⟨hndim, hrows, hinside, rfl⟩ := gatherLast_eq_ok.mp hstudent
    obtain ⟨hshape, hranks, hentropy, hthreshold, rfl⟩ :=
      computeEntropyGatedForwardKl_eq_ok.mp hvalues
    rw [← hshape, hgathered] at hentropy
    rw [hgathered] at hshape
    rw [not_or, hgathered] at hranks
    exact ⟨⟨hndim, hrows, hinside, (Tensor.shape_of_ndim hndim).trans hshape, hranks.2, hentropy,
      hthreshold⟩, rfl⟩
  · rintro ⟨h, rfl⟩
    have hids := Tensor.shape_of_ndim h.ids_ndim
    refine ⟨_, gatherLast_eq_ok.mpr ⟨h.ids_ndim, h.ids_rows, h.ids_inside, rfl⟩,
      computeEntropyGatedForwardKl_eq_ok.mpr ⟨?_, ?_, ?_, h.threshold, rfl⟩⟩
    · rw [hgathered, ← hids]
      exact h.ids_shape
    · rw [Tensor.ndim, hgathered, not_or]
      exact ⟨Nat.lt_irrefl 2, h.ranks⟩
    · rw [h.entropy_shape, ← h.ids_shape, hids]
      rfl

/-! ### The value of a token -/

/-- The value of a token, of the rows of the token alone. -/
theorem at1_blockKl (hteacher : teacherTopkLogProbs.ndim = 2) (token : Nat) :
    (blockKl e studentLogits teacherTopkIds teacherTopkLogProbs teacherEntropy
        entropyThreshold).at1 token =
      if Flt.lt entropyThreshold (.fin (teacherEntropy.at1 token)) then
        ((List.range (teacherTopkLogProbs.size 1)).map fun rank =>
          e.exp (teacherTopkLogProbs.at2 token rank -
              e.logSumExp (teacherTopkLogProbs.row token)) *
            (teacherTopkLogProbs.at2 token rank - e.logSumExp (teacherTopkLogProbs.row token) -
              (studentLogits.at2 token (teacherTopkIds.at2 token rank).toNat -
                e.logSumExp (studentLogits.row token)))).sum
      else 0 := by
  have hlast : teacherTopkLogProbs.shape.getLastD 0 = teacherTopkLogProbs.size 1 := by
    rw [Tensor.shape_of_ndim hteacher]
    rfl
  change (if Flt.lt entropyThreshold (.fin (teacherEntropy.at1 token)) then
    forwardKl e _ teacherTopkLogProbs [token] else 0) = _
  unfold forwardKl
  rw [Tensor.lastAxis_singleton hteacher, hlast]
  rfl

/-- A chunk has the values of its tokens in the whole. -/
theorem at1_blockKl_sliceRows (hlogits : studentLogits.ndim = 2)
    (hteacher : teacherTopkLogProbs.ndim = 2) (start stop i : Nat) :
    (blockKl e (studentLogits.sliceRows start stop) (teacherTopkIds.sliceRows start stop)
        (teacherTopkLogProbs.sliceRows start stop) (teacherEntropy.sliceRows start stop)
        entropyThreshold).at1 i =
      (blockKl e studentLogits teacherTopkIds teacherTopkLogProbs teacherEntropy
        entropyThreshold).at1 (start + i) := by
  have hshape := Tensor.shape_sliceRows hteacher start stop
  rw [at1_blockKl hteacher, at1_blockKl (by rw [Tensor.ndim, hshape]; rfl),
    Tensor.row_sliceRows hteacher, Tensor.row_sliceRows hlogits, Tensor.size, hshape]
  rfl

/-- The divergence of a distribution from a part of another one is not negative. -/
theorem at1_blockKl_nonneg [IsStrictOrderedRing K]
    (h : TopkBlock studentLogits teacherTopkIds teacherTopkLogProbs teacherEntropy
      entropyThreshold) {token : Nat} (htoken : token < teacherTopkIds.size 0)
    (hnodup : (teacherTopkIds.row token).Nodup) :
    0 ≤ (blockKl e studentLogits teacherTopkIds teacherTopkLogProbs teacherEntropy
      entropyThreshold).at1 token := by
  have hids := Tensor.shape_of_ndim h.ids_ndim
  have hranks : teacherTopkLogProbs.size 1 = teacherTopkIds.size 1 := by
    rw [Tensor.size, Tensor.size, h.ids_shape]
  have hteacher : teacherTopkLogProbs.ndim = 2 := by
    rw [Tensor.ndim, ← h.ids_shape]
    exact h.ids_ndim
  rw [at1_blockKl hteacher]
  split
  · have hvocabulary : studentLogits.size 1 ≠ 0 := by
      have hfirst := h.ids_inside token htoken 0 (Nat.pos_of_ne_zero h.ranks)
      omega
    apply e.divergence_nonneg
    · have hne : teacherTopkLogProbs.row token ≠ [] := by
        rw [Tensor.row, Ne, List.map_eq_nil_iff, List.range_eq_nil, hranks]
        exact h.ranks
      have hsum := e.sum_exp_normalised hne
      rw [Tensor.row, List.map_map] at hsum
      exact hsum
    · have hplaces : ((List.range (teacherTopkLogProbs.size 1)).map fun rank =>
          (teacherTopkIds.at2 token rank).toNat).Nodup := by
        have hrow : ((List.range (teacherTopkLogProbs.size 1)).map fun rank =>
            (teacherTopkIds.at2 token rank).toNat) = (teacherTopkIds.row token).map Int.toNat := by
          rw [hranks, Tensor.row, List.map_map]
          rfl
        rw [hrow]
        apply hnodup.map_on
        intro left hleft right hright heq
        obtain ⟨rank, hrank, rfl⟩ := List.mem_map.mp hleft
        obtain ⟨rank', hrank', rfl⟩ := List.mem_map.mp hright
        have hid := h.ids_inside token htoken rank (List.mem_range.mp hrank)
        have hid' := h.ids_inside token htoken rank' (List.mem_range.mp hrank')
        omega
      have hinside : ∀ place ∈ (List.range (teacherTopkLogProbs.size 1)).map fun rank =>
          (teacherTopkIds.at2 token rank).toNat, place < studentLogits.size 1 := by
        intro place hplace
        obtain ⟨rank, hrank, rfl⟩ := List.mem_map.mp hplace
        have hid := h.ids_inside token htoken rank (hranks ▸ List.mem_range.mp hrank)
        omega
      have hsum := @sum_exp_normalised_le _ _ _ e _ _ (studentLogits.at2 token) _ hplaces
        hinside hvocabulary
      rw [List.map_map] at hsum
      exact hsum
  · exact le_refl 0

/-! ### The chunks -/

/-- A chunk of a block is a block. -/
theorem TopkBlock.sliceRows
    (h : TopkBlock studentLogits teacherTopkIds teacherTopkLogProbs teacherEntropy
      entropyThreshold) (hlogits : studentLogits.ndim = 2)
    (haligned : teacherTopkIds.size 0 = studentLogits.size 0) (start stop : Nat) :
    TopkBlock (studentLogits.sliceRows start stop) (teacherTopkIds.sliceRows start stop)
      (teacherTopkLogProbs.sliceRows start stop) (teacherEntropy.sliceRows start stop)
      entropyThreshold := by
  have hids := Tensor.shape_sliceRows h.ids_ndim start stop
  obtain ⟨hrows, hranks⟩ := Tensor.size_of_shape hids
  obtain ⟨hlogitsRows, hvocabulary⟩ :=
    Tensor.size_of_shape (Tensor.shape_sliceRows hlogits start stop)
  constructor
  case ids_ndim =>
    rw [Tensor.ndim, hids]
    rfl
  case ids_rows =>
    rw [hrows, hlogitsRows, haligned]
  case ids_inside =>
    intro token htoken rank hrank
    rw [hrows] at htoken
    rw [hranks] at hrank
    rw [hvocabulary, Tensor.at2_sliceRows]
    exact h.ids_inside _ (by omega) rank hrank
  case ids_shape =>
    have hsize : teacherTopkIds.size 0 = teacherTopkLogProbs.size 0 := by
      rw [Tensor.size, h.ids_shape, Tensor.size]
    rw [Tensor.sliceRows, Tensor.sliceRows, hsize, h.ids_shape]
  case ranks =>
    rw [hranks]
    exact h.ranks
  case entropy_shape =>
    have hsize : teacherEntropy.size 0 = teacherTopkIds.size 0 := by
      rw [Tensor.size, h.entropy_shape]
      rfl
    rw [hrows, Tensor.sliceRows, hsize, h.entropy_shape]
    rfl
  case threshold => exact h.threshold

/-- The values of a chunk, in order. -/
theorem map_at1_chunk {α : Type} {n size : Nat} {f : Nat → α} (start : Nat) :
    (List.range (min (start + size) n - start)).map (fun i => f (start + i)) =
      (slice (List.range n) start (start + size)).map f := by
  apply List.ext_getElem?
  intro i
  rw [List.getElem?_map, List.getElem?_map, getElem?_slice, Nat.add_sub_cancel_left]
  by_cases hi : i < min (start + size) n - start
  · rw [List.getElem?_range hi, if_pos (by omega), List.getElem?_range (by omega)]
    rfl
  · rw [List.getElem?_eq_none (by rw [List.length_range]; omega)]
    split
    · rw [List.getElem?_eq_none (by rw [List.length_range]; omega)]
      rfl
    · rfl

/-- The chunks of a block, one after the other, have the values of the block. -/
theorem flatMap_chunks {n size : Nat} (hsize : 0 < size) (hlogits : studentLogits.ndim = 2)
    (hteacher : teacherTopkLogProbs.ndim = 2) (hn : teacherTopkLogProbs.size 0 = n) :
    ((List.range' 0 ((n + size - 1) / size) size).flatMap fun start =>
        let chunk := blockKl e (studentLogits.sliceRows start (min (start + size) n))
          (teacherTopkIds.sliceRows start (min (start + size) n))
          (teacherTopkLogProbs.sliceRows start (min (start + size) n))
          (teacherEntropy.sliceRows start (min (start + size) n)) entropyThreshold
        (List.range (chunk.size 0)).map chunk.at1) =
      (List.range n).map (blockKl e studentLogits teacherTopkIds teacherTopkLogProbs
        teacherEntropy entropyThreshold).at1 := by
  have hchunk : ∀ start,
      (List.range ((blockKl e (studentLogits.sliceRows start (min (start + size) n))
          (teacherTopkIds.sliceRows start (min (start + size) n))
          (teacherTopkLogProbs.sliceRows start (min (start + size) n))
          (teacherEntropy.sliceRows start (min (start + size) n)) entropyThreshold).size 0)).map
        (blockKl e (studentLogits.sliceRows start (min (start + size) n))
          (teacherTopkIds.sliceRows start (min (start + size) n))
          (teacherTopkLogProbs.sliceRows start (min (start + size) n))
          (teacherEntropy.sliceRows start (min (start + size) n)) entropyThreshold).at1 =
      (slice (List.range n) start (start + size)).map (blockKl e studentLogits teacherTopkIds
        teacherTopkLogProbs teacherEntropy entropyThreshold).at1 := by
    intro start
    have hrows : (blockKl e (studentLogits.sliceRows start (min (start + size) n))
        (teacherTopkIds.sliceRows start (min (start + size) n))
        (teacherTopkLogProbs.sliceRows start (min (start + size) n))
        (teacherEntropy.sliceRows start (min (start + size) n)) entropyThreshold).size 0 =
          min (start + size) n - start := by
      rw [Tensor.size, blockKl, gatedForwardKl, Tensor.shape_sliceRows hteacher, hn,
        min_eq_left (min_le_right _ _)]
      rfl
    rw [hrows, funext (at1_blockKl_sliceRows hlogits hteacher start _), map_at1_chunk]
  have hflatten := flatten_batches hsize (List.range n)
  unfold batches at hflatten
  rw [List.length_range] at hflatten
  rw [← hflatten, List.map_flatten, List.map_map, List.flatMap_def]
  congr 1
  apply List.map_congr_left
  intro start _
  exact hchunk start

/-! ### Chunked and unchunked evaluation -/

omit [Field K] [LinearOrder K] in
theorem firstSize_eq_ok {α : Type} {t : Tensor α} {size : Nat} :
    firstSize t = .ok size ↔ ∃ rest, t.shape = size :: rest := by
  unfold firstSize
  split
  · next hshape => simp [hshape]
  · next hshape => simp [hshape, Except.ok.injEq]

/-- What the function checks before the first chunk. -/
structure TokenAligned (studentLogits : Tensor K) (teacherTopkIds : Tensor Int)
    (teacherTopkLogProbs teacherEntropy : Tensor K) : Prop where
  ids_shape : teacherTopkIds.shape = teacherTopkLogProbs.shape
  ids_first : ∃ rest, teacherTopkIds.shape = studentLogits.size 0 :: rest
  entropy_first : ∃ rest, teacherEntropy.shape = studentLogits.size 0 :: rest

omit [Field K] [LinearOrder K] in
theorem TokenAligned.ids_rows
    (h : TokenAligned studentLogits teacherTopkIds teacherTopkLogProbs teacherEntropy) :
    teacherTopkIds.size 0 = studentLogits.size 0 := by
  obtain ⟨rest, hids⟩ := h.ids_first
  rw [Tensor.size, hids]
  rfl

/-- The chunk that starts at a token. -/
def chunkFrom (e : Exponentials K) [ToString K] (studentLogits : Tensor K)
    (teacherTopkIds : Tensor Int) (teacherTopkLogProbs teacherEntropy : Tensor K)
    (entropyThreshold : Flt K) (size start : Nat) : Except PyError (Tensor K) :=
  let stop := min (start + size) (studentLogits.size 0)
  forwardKlOfLogits e (studentLogits.sliceRows start stop) (teacherTopkIds.sliceRows start stop)
    (teacherTopkLogProbs.sliceRows start stop) (teacherEntropy.sliceRows start stop)
    entropyThreshold

/-- The tokens at which chunks start. -/
def chunkStarts (tokens size : Nat) : List Nat :=
  List.range' 0 ((tokens + size - 1) / size) size

theorem entropyGatedTopkForwardKlFromLogits_eq_ok [ToString K] {chunkSize : Int}
    {values : Tensor K} (hlogits : studentLogits.ndim = 2) :
    entropyGatedTopkForwardKlFromLogits e studentLogits teacherTopkIds teacherTopkLogProbs
        teacherEntropy entropyThreshold chunkSize = .ok values ↔
      TokenAligned studentLogits teacherTopkIds teacherTopkLogProbs teacherEntropy ∧
        ∃ chunks,
          (chunkStarts (studentLogits.size 0) (max 1 chunkSize).toNat).mapM (chunkFrom e
            studentLogits teacherTopkIds teacherTopkLogProbs teacherEntropy entropyThreshold
            (max 1 chunkSize).toNat) = .ok chunks ∧
          values = if chunks = [] then .vec 0 fun _ => 0 else .catVec chunks := by
  have hfirst : firstSize studentLogits = .ok (studentLogits.size 0) :=
    firstSize_eq_ok.mpr ⟨_, Tensor.shape_of_ndim hlogits⟩
  unfold entropyGatedTopkForwardKlFromLogits
  rw [hfirst]
  change (raiseIf _ _ >>= _) = _ ↔ _
  rw [raiseIf_bind_eq_ok, not_not, bind_eq_ok]
  constructor
  · rintro ⟨hshape, idTokens, hids, hrest⟩
    rw [raiseIf_bind_eq_ok, not_not, bind_eq_ok] at hrest
    obtain ⟨rfl, entropyTokens, hentropy, hrest⟩ := hrest
    rw [raiseIf_bind_eq_ok, not_not] at hrest
    obtain ⟨rfl, hrest⟩ := hrest
    obtain ⟨chunks, hchunks, hvalues⟩ := bind_eq_ok.mp hrest
    cases hvalues
    exact ⟨⟨hshape, firstSize_eq_ok.mp hids, firstSize_eq_ok.mp hentropy⟩, chunks, hchunks, rfl⟩
  · rintro ⟨haligned, chunks, hchunks, rfl⟩
    refine ⟨haligned.ids_shape, _, firstSize_eq_ok.mpr haligned.ids_first, ?_⟩
    rw [raiseIf_bind_eq_ok, not_not, bind_eq_ok]
    refine ⟨rfl, _, firstSize_eq_ok.mpr haligned.entropy_first, ?_⟩
    rw [raiseIf_bind_eq_ok, not_not]
    exact ⟨rfl, bind_eq_ok.mpr ⟨chunks, hchunks, rfl⟩⟩

/-- The values of a block, in one vector. -/
def blockValues (e : Exponentials K) (studentLogits : Tensor K) (teacherTopkIds : Tensor Int)
    (teacherTopkLogProbs teacherEntropy : Tensor K) (entropyThreshold : Flt K) : Tensor K :=
  let values := (List.range (studentLogits.size 0)).map (blockKl e studentLogits teacherTopkIds
    teacherTopkLogProbs teacherEntropy entropyThreshold).at1
  .vec values.length fun token => values.getD token 0

theorem shape_blockValues :
    (blockValues e studentLogits teacherTopkIds teacherTopkLogProbs teacherEntropy
      entropyThreshold).shape = [studentLogits.size 0] := by
  simp [blockValues, Tensor.vec]

theorem at1_blockValues {token : Nat} (htoken : token < studentLogits.size 0) :
    (blockValues e studentLogits teacherTopkIds teacherTopkLogProbs teacherEntropy
        entropyThreshold).at1 token =
      (blockKl e studentLogits teacherTopkIds teacherTopkLogProbs teacherEntropy
        entropyThreshold).at1 token := by
  simp [blockValues, List.getD_eq_getElem?_getD, htoken]

theorem chunkStarts_eq_nil {tokens size : Nat} (hsize : 0 < size) :
    chunkStarts tokens size = [] ↔ tokens = 0 := by
  rw [chunkStarts, List.range'_eq_nil_iff, Nat.div_eq_zero_iff_lt hsize]
  omega

/-- Every token is in one of the chunks. -/
theorem exists_chunkStart {tokens size token : Nat} (hsize : 0 < size) (htoken : token < tokens) :
    ∃ start ∈ chunkStarts tokens size, start ≤ token ∧ token < start + size := by
  have hdiv := Nat.div_add_mod token size
  have hmod := Nat.mod_lt token hsize
  refine ⟨size * (token / size), List.mem_range'.mpr ⟨token / size, ?_, by rw [Nat.zero_add]⟩, ?_⟩
  · rw [Nat.lt_div_iff_mul_lt hsize, Nat.mul_comm]
    omega
  · omega

/-- The chunks of a block are evaluated to its values. -/
theorem TopkBlock.mapM_chunkFrom [ToString K]
    (h : TopkBlock studentLogits teacherTopkIds teacherTopkLogProbs teacherEntropy
      entropyThreshold) (hlogits : studentLogits.ndim = 2)
    (haligned : teacherTopkIds.size 0 = studentLogits.size 0) {size : Nat} (hsize : 0 < size) :
    ∃ chunks,
      (chunkStarts (studentLogits.size 0) size).mapM (chunkFrom e studentLogits teacherTopkIds
        teacherTopkLogProbs teacherEntropy entropyThreshold size) = .ok chunks ∧
      chunks.length = (chunkStarts (studentLogits.size 0) size).length ∧
      .catVec chunks = blockValues e studentLogits teacherTopkIds teacherTopkLogProbs
        teacherEntropy entropyThreshold := by
  refine ⟨_, mapM_eq_ok_map fun start _ => forwardKlOfLogits_eq_ok.mpr
    ⟨h.sliceRows hlogits haligned start _, rfl⟩, List.length_map .., ?_⟩
  have hteacher : teacherTopkLogProbs.ndim = 2 := by
    rw [Tensor.ndim, ← h.ids_shape]
    exact h.ids_ndim
  have hrows : teacherTopkLogProbs.size 0 = studentLogits.size 0 := by
    rw [Tensor.size, ← h.ids_shape]
    exact haligned
  unfold Tensor.catVec blockValues
  rw [List.flatMap_map]
  exact congrArg (fun values : List K => Tensor.vec values.length fun i => values.getD i 0)
    (flatMap_chunks hsize hlogits hteacher hrows)

/-- The chunks of tensors that are not a block are not all evaluated. -/
theorem TokenAligned.topkBlock [ToString K]
    (h : TokenAligned studentLogits teacherTopkIds teacherTopkLogProbs teacherEntropy)
    (hlogits : studentLogits.ndim = 2) (htokens : studentLogits.size 0 ≠ 0) {size : Nat}
    (hsize : 0 < size) {chunks : List (Tensor K)}
    (hchunks : (chunkStarts (studentLogits.size 0) size).mapM (chunkFrom e studentLogits
      teacherTopkIds teacherTopkLogProbs teacherEntropy entropyThreshold size) = .ok chunks) :
    TopkBlock studentLogits teacherTopkIds teacherTopkLogProbs teacherEntropy
      entropyThreshold := by
  have hblock : ∀ start ∈ chunkStarts (studentLogits.size 0) size,
      let stop := min (start + size) (studentLogits.size 0)
      TopkBlock (studentLogits.sliceRows start stop) (teacherTopkIds.sliceRows start stop)
        (teacherTopkLogProbs.sliceRows start stop) (teacherEntropy.sliceRows start stop)
        entropyThreshold := by
    intro start hstart
    obtain ⟨values, hvalues⟩ := returns_mapM_iff.mp ⟨chunks, hchunks⟩ start hstart
    exact (forwardKlOfLogits_eq_ok.mp hvalues).1
  obtain ⟨idsRest, hids⟩ := h.ids_first
  obtain ⟨entropyRest, hentropy⟩ := h.entropy_first
  have hidsRows := h.ids_rows
  obtain ⟨first, hfirst, _⟩ := exists_chunkStart hsize (Nat.pos_of_ne_zero htokens)
  have hndim : teacherTopkIds.ndim = 2 := by
    have hchunk := (hblock first hfirst).ids_ndim
    rw [Tensor.ndim, Tensor.sliceRows, hids] at hchunk
    rw [Tensor.ndim, hids]
    exact hchunk
  constructor
  case ids_ndim => exact hndim
  case ids_rows => exact hidsRows.le
  case ids_shape => exact h.ids_shape
  case threshold => exact (hblock first hfirst).threshold
  case ranks =>
    have hchunk := (hblock first hfirst).ranks
    rw [(Tensor.size_of_shape (Tensor.shape_sliceRows hndim _ _)).2] at hchunk
    exact hchunk
  case entropy_shape =>
    have hchunk := (hblock first hfirst).entropy_shape
    rw [Tensor.sliceRows, hentropy, List.tail_cons, List.cons.injEq] at hchunk
    rw [hentropy, hchunk.2, hidsRows]
  case ids_inside =>
    intro token htoken rank hrank
    rw [hidsRows] at htoken
    obtain ⟨start, hstart, hle, hlt⟩ := exists_chunkStart hsize htoken
    obtain ⟨hrows, hranks⟩ := Tensor.size_of_shape
      (Tensor.shape_sliceRows hndim start (min (start + size) (studentLogits.size 0)))
    obtain ⟨_, hvocabulary⟩ := Tensor.size_of_shape
      (Tensor.shape_sliceRows hlogits start (min (start + size) (studentLogits.size 0)))
    have hchunk := (hblock start hstart).ids_inside (token - start)
      (by rw [hrows, hidsRows]; omega) rank (by rw [hranks]; exact hrank)
    rw [Tensor.at2_sliceRows, hvocabulary, Nat.add_sub_cancel' hle] at hchunk
    exact hchunk

/-- What the chunked evaluation returns, at any chunk size. -/
theorem entropyGatedTopkForwardKlFromLogits_eq_ok_iff [ToString K] {chunkSize : Int}
    {values : Tensor K} (hlogits : studentLogits.ndim = 2) :
    entropyGatedTopkForwardKlFromLogits e studentLogits teacherTopkIds teacherTopkLogProbs
        teacherEntropy entropyThreshold chunkSize = .ok values ↔
      TokenAligned studentLogits teacherTopkIds teacherTopkLogProbs teacherEntropy ∧
        if studentLogits.size 0 = 0 then values = .vec 0 fun _ => 0
        else
          TopkBlock studentLogits teacherTopkIds teacherTopkLogProbs teacherEntropy
              entropyThreshold ∧
            values = blockValues e studentLogits teacherTopkIds teacherTopkLogProbs
              teacherEntropy entropyThreshold := by
  have hsize : 0 < (max 1 chunkSize).toNat := by omega
  rw [entropyGatedTopkForwardKlFromLogits_eq_ok hlogits]
  refine and_congr_right fun haligned => ?_
  split
  · next htokens =>
    rw [(chunkStarts_eq_nil hsize).mpr htokens]
    simp
  · next htokens =>
    have hchunksNe : ∀ chunks : List (Tensor K),
        chunks.length = (chunkStarts (studentLogits.size 0) (max 1 chunkSize).toNat).length →
          chunks ≠ [] := by
      intro chunks hlength hnil
      rw [hnil, List.length_nil] at hlength
      exact htokens ((chunkStarts_eq_nil hsize).mp (List.length_eq_zero_iff.mp hlength.symm))
    have hrows := haligned.ids_rows
    constructor
    · rintro ⟨chunks, hchunks, rfl⟩
      have hblock := haligned.topkBlock hlogits htokens hsize hchunks
      obtain ⟨chunks', hchunks', hlength, hvalues⟩ :=
        hblock.mapM_chunkFrom (e := e) hlogits hrows hsize
      obtain rfl := Except.ok.inj (hchunks.symm.trans hchunks')
      rw [if_neg (hchunksNe chunks hlength)]
      exact ⟨hblock, hvalues⟩
    · rintro ⟨hblock, rfl⟩
      obtain ⟨chunks, hchunks, hlength, hvalues⟩ :=
        hblock.mapM_chunkFrom (e := e) hlogits hrows hsize
      rw [← hvalues]
      exact ⟨chunks, hchunks, (if_neg (hchunksNe chunks hlength)).symm⟩

/-- **EOPD's chunks.** On full-vocabulary logits the chunked evaluation has one result for all
    chunk sizes, and every token has in it the value of the unchunked definition, which is not
    negative where the Teacher's ids are distinct; the chunks return where the definition does. -/
theorem entropyGated_chunks [IsStrictOrderedRing K] [ToString K] (e : Exponentials K)
    (studentLogits : Tensor K) (teacherTopkIds : Tensor Int)
    (teacherTopkLogProbs teacherEntropy : Tensor K) (entropyThreshold : Flt K) (chunkSize : Int)
    (hlogits : studentLogits.ndim = 2) :
    (∀ values, entropyGatedTopkForwardKlFromLogits e studentLogits teacherTopkIds
        teacherTopkLogProbs teacherEntropy entropyThreshold chunkSize = .ok values →
      values.shape = [studentLogits.size 0] ∧
        (∀ chunkSize', entropyGatedTopkForwardKlFromLogits e studentLogits teacherTopkIds
          teacherTopkLogProbs teacherEntropy entropyThreshold chunkSize' = .ok values) ∧
        ∀ token < studentLogits.size 0,
          (∃ unchunked,
            forwardKlOfLogits e studentLogits teacherTopkIds teacherTopkLogProbs teacherEntropy
                entropyThreshold = .ok unchunked ∧
              values.at1 token = unchunked.at1 token) ∧
          ((teacherTopkIds.row token).Nodup → 0 ≤ values.at1 token)) ∧
      ∀ unchunked,
        forwardKlOfLogits e studentLogits teacherTopkIds teacherTopkLogProbs teacherEntropy
            entropyThreshold = .ok unchunked →
        teacherTopkIds.size 0 = studentLogits.size 0 →
          ∃ values, entropyGatedTopkForwardKlFromLogits e studentLogits teacherTopkIds
            teacherTopkLogProbs teacherEntropy entropyThreshold chunkSize = .ok values := by
  constructor
  · intro values hvalues
    rw [entropyGatedTopkForwardKlFromLogits_eq_ok_iff hlogits] at hvalues
    have hsizes : ∀ chunkSize', entropyGatedTopkForwardKlFromLogits e studentLogits
        teacherTopkIds teacherTopkLogProbs teacherEntropy entropyThreshold chunkSize' =
          .ok values :=
      fun _ => (entropyGatedTopkForwardKlFromLogits_eq_ok_iff hlogits).mpr hvalues
    obtain ⟨haligned, hvalues⟩ := hvalues
    have hrows := haligned.ids_rows
    split at hvalues
    · next htokens =>
      rw [hvalues, htokens]
      exact ⟨rfl, hvalues ▸ hsizes, fun token htoken => absurd htoken (Nat.not_lt_zero token)⟩
    · obtain ⟨hblock, hvalues⟩ := hvalues
      refine ⟨hvalues ▸ shape_blockValues, hsizes, ?_⟩
      intro token htoken
      have hvalue := congrArg (Tensor.at1 · token) hvalues
      change values.at1 token = _ at hvalue
      rw [at1_blockValues htoken] at hvalue
      refine ⟨⟨_, forwardKlOfLogits_eq_ok.mpr ⟨hblock, rfl⟩, hvalue⟩, ?_⟩
      intro hnodup
      rw [hvalue]
      exact at1_blockKl_nonneg hblock (hrows ▸ htoken) hnodup
  · intro unchunked hunchunked hrows
    obtain ⟨hblock, _⟩ := forwardKlOfLogits_eq_ok.mp hunchunked
    have hids := Tensor.shape_of_ndim hblock.ids_ndim
    have haligned : TokenAligned studentLogits teacherTopkIds teacherTopkLogProbs
        teacherEntropy :=
      ⟨hblock.ids_shape, ⟨_, hrows ▸ hids⟩, ⟨[], hrows ▸ hblock.entropy_shape⟩⟩
    simp only [entropyGatedTopkForwardKlFromLogits_eq_ok_iff hlogits]
    by_cases htokens : studentLogits.size 0 = 0
    · refine ⟨.vec 0 fun _ => 0, haligned, ?_⟩
      rw [if_pos htokens]
    · refine ⟨blockValues e studentLogits teacherTopkIds teacherTopkLogProbs teacherEntropy
        entropyThreshold, haligned, ?_⟩
      rw [if_neg htokens]
      exact ⟨hblock, rfl⟩

/-- The exponential and the logarithm of the reals. -/
noncomputable def realExponentials : Exponentials ℝ where
  exp := Real.exp
  log := Real.log
  exp_pos := Real.exp_pos
  exp_add := Real.exp_add
  exp_log := fun _ => Real.exp_log
  add_one_le_exp := Real.add_one_le_exp

theorem entropyGated_chunks_three_tokens :
    letI : ToString ℝ := ⟨fun _ => "threshold"⟩
    let run := entropyGatedTopkForwardKlFromLogits realExponentials
      (.mat 3 2 fun token id => token + id) (.mat 3 2 fun _ rank => 1 - rank)
      (.mat 3 2 fun _ rank => -rank) (.vec 3 fun token => token) (.fin 1)
    ∃ values, run 2 = .ok values ∧ run 512 = .ok values ∧ 0 ≤ values.at1 2 := by
  let _ : ToString ℝ := ⟨fun _ => "threshold"⟩
  have hblock : TopkBlock (K := ℝ) (.mat 3 2 fun token id => token + id)
      (.mat 3 2 fun _ rank => 1 - rank) (.mat 3 2 fun _ rank => -rank)
      (.vec 3 fun token => token) (.fin 1) :=
    ⟨rfl, le_refl 3, by decide, rfl, two_ne_zero, rfl, 1, zero_le_one, rfl⟩
  obtain ⟨hvalues, hreturns⟩ := entropyGated_chunks realExponentials
    (.mat 3 2 fun token id => token + id) (.mat 3 2 fun _ rank => 1 - rank)
    (.mat 3 2 fun _ rank => -rank) (.vec 3 fun token => token) (.fin 1) 2 rfl
  obtain ⟨values, hrun⟩ := hreturns _ (forwardKlOfLogits_eq_ok.mpr ⟨hblock, rfl⟩) rfl
  obtain ⟨_, hsizes, htokens⟩ := hvalues values hrun
  exact ⟨values, hrun, hsizes 512, (htokens 2 (by decide)).2 (by decide)⟩

end R2opl
