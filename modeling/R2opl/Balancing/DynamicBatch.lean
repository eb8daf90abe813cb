import R2opl.Balancing.MicroBatchAgreement
import R2opl.Lib.Dict

/-!
# Forward passes over micro-batches

`prepare_micro_batches` and `postprocess_batch_func` of `verl/workers/engine/utils.py`: the batch
of a rank is cut, every micro-batch goes through the model, and the outputs are put back into the
order of the batch.  What comes out is what the whole batch at once would give.
-/

namespace R2opl

open Checked Collective Differencing

variable {β γ L : Type}

/-! ### Cutting -/

/-- What `prepare_micro_batches` reads of the data and gets as arguments. -/
structure PrepareOptions where
  useDynamicBsz : Bool := true
  spSize : Nat := 1
  forceGroupSize : Nat := 1
  maxTokenLenPerGpu : Option Nat
  microBatchSizePerGpu : Option Nat
  numBatchesDividedBy : Option Nat := none
  minNumMicroBatch : Option Nat := none
  useDynamicBszBalance : Bool := true

/-- The arguments of `rearrange_micro_batches`. -/
def PrepareOptions.microBatchOptions (options : PrepareOptions) (maxTokenLenPerGpu : Nat) :
    MicroBatchOptions where
  maxTokenLen := maxTokenLenPerGpu * options.spSize
  numBatchesDividedBy := options.numBatchesDividedBy
  minNumMicroBatch := options.minNumMicroBatch
  useDynamicBszBalance := options.useDynamicBszBalance
  forceGroupSize := options.forceGroupSize

/-- `chunk_tensordict` -/
def chunkTensordict (rows : List β) (chunks : Nat) : Except PyError (List (List β)) := do
  raiseIf (chunks = 0) ⟨.zeroDivisionError, "integer modulo by zero"⟩
  raiseIf (rows.length % chunks ≠ 0) ⟨.assertionError,
    s!"expecting td with length divisible by chunks, but got {rows.length} and {chunks}"⟩
  let chunkSize := rows.length / chunks
  return (List.range chunks).map fun i => (rows.drop (i * chunkSize)).take chunkSize

/-- The branch of `prepare_micro_batches` for micro-batches of one size. -/
def fixedMicroBatches (options : PrepareOptions) (rows : List β) :
    Except PyError (List (List β)) := do
  match options.microBatchSizePerGpu with
  | none => .error ⟨.keyError, "'key \"micro_batch_size_per_gpu\" not found'"⟩
  | some size =>
      raiseIf (options.forceGroupSize * size = 0)
        ⟨.zeroDivisionError, "integer modulo by zero"⟩
      raiseIf (rows.length % (options.forceGroupSize * size) ≠ 0) ⟨.assertionError,
        "data size must be divisible by force_group_size * micro_batch_size_per_gpu"⟩
      chunkTensordict rows (rows.length / (size * options.forceGroupSize))

/-- `prepare_micro_batches` -/
def prepareMicroBatches (sync : Bool) (options : PrepareOptions) (batch : Batch β) :
    ExceptT PyError Rank (List (List β) × Option (List (List Nat))) := do
  if options.useDynamicBsz then
    match options.maxTokenLenPerGpu with
    | none => throw ⟨.assertionError,
        "max_token_len_per_gpu must be set when use_dynamic_bsz is True"⟩
    | some maxTokenLenPerGpu =>
        let (microBatches, batchIdxList) ←
          rearrangeMicroBatches sync (options.microBatchOptions maxTokenLenPerGpu) batch
        return (microBatches, some batchIdxList)
  else
    let microBatches ← ofExcept (fixedMicroBatches options batch.rows)
    return (microBatches, none)

/-! ### Putting together -/

/-- `get_reverse_idx` -/
def getReverseIdx (idxMap : List Nat) : Except PyError (List Nat) :=
  idxMap.zipIdx.foldlM (fun reverse entry =>
    if entry.1 < reverse.length then .ok (reverse.set entry.1 entry.2)
    else .error ⟨.indexError, "list assignment index out of range"⟩) idxMap

/-- `restore_dynamic_batch` -/
def restoreDynamicBatch (data : List γ) (batchIdxList : List (List Nat)) :
    Except PyError (List γ) := do
  let indices := batchIdxList.flatten
  raiseIf (indices.length ≠ data.length)
    ⟨.assertionError, s!"{indices.length} vs. {data.length}"⟩
  let revertIndices ← getReverseIdx indices
  revertIndices.mapM fun i =>
    match data[i]? with
    | none => .error ⟨.indexError, "index out of range in self"⟩
    | some row => .ok row

/-- What the forward pass of a micro-batch leaves. -/
structure MicroOutput (γ L : Type) where
  modelOutput : Option (List (PyStr × List γ))
  loss : Option L

structure BatchOutput (γ L : Type) where
  modelOutput : List (PyStr × List γ)
  loss : List L

/-- The outputs of the micro-batches by their names. -/
def collectOutputs (outputs : List (MicroOutput γ L)) : List (PyStr × List (List γ)) :=
  (outputs.filterMap MicroOutput.modelOutput).foldl
    (fun collected output => output.foldl (fun collected item =>
      Dict.push collected item.1 item.2) collected) []

/-- The rows of one output, in the order of the batch. -/
def orderedOutput (useDynamicBsz : Bool) (indices : Option (List (List Nat)))
    (item : PyStr × List (List γ)) : Except PyError (PyStr × List γ) := do
  let tensors := item.2.flatten
  if useDynamicBsz then
    match indices with
    | none => .error ⟨.typeError, "'NoneType' object is not iterable"⟩
    | some indices =>
        let restored ← restoreDynamicBatch tensors indices
        return (item.1, restored)
  else return (item.1, tensors)

/-- `postprocess_batch_func`, of a batch whose `pad_mode` is `no_padding`: it asserts no other. -/
def postprocessBatchFunc (useDynamicBsz : Bool) (outputs : List (MicroOutput γ L))
    (indices : Option (List (List Nat))) : Except PyError (BatchOutput γ L) := do
  let modelOutput ← (collectOutputs outputs).mapM (orderedOutput useDynamicBsz indices)
  return { modelOutput, loss := outputs.filterMap MicroOutput.loss }

/-! ### The inverse of the indices -/

/-- Writes to distinct places. -/
theorem foldl_set_getElem? {α : Type} {entries : List (Nat × α)} {xs : List α}
    (hnodup : (entries.map Prod.fst).Nodup) {i : Nat} {x : α} (hmem : (i, x) ∈ entries)
    (hi : i < xs.length) :
    (entries.foldl (fun xs entry => xs.set entry.1 entry.2) xs)[i]? = some x := by
  induction entries generalizing xs with
  | nil => cases hmem
  | cons entry entries ih =>
    rw [List.map_cons, List.nodup_cons] at hnodup
    rw [List.foldl_cons]
    rcases List.mem_cons.mp hmem with rfl | hrest
    · -- what is written later leaves this place
      have hkeep : ∀ ys : List α, (entries.foldl (fun xs entry => xs.set entry.1 entry.2) ys)[i]? =
          ys[i]? := by
        clear ih hmem
        induction entries with
        | nil => exact fun _ => rfl
        | cons entry entries ih =>
          intro ys
          rw [List.map_cons, List.nodup_cons, List.mem_cons, not_or] at hnodup
          rw [List.foldl_cons, ih ⟨hnodup.1.2, hnodup.2.2⟩,
            List.getElem?_set_ne (Ne.symm hnodup.1.1)]
      rw [hkeep, List.getElem?_set_self hi]
    · exact ih hnodup.2 hrest (by simpa using hi)

theorem getReverseIdx_eq {idxMap : List Nat} (h : ∀ i ∈ idxMap, i < idxMap.length) :
    getReverseIdx idxMap =
      .ok (idxMap.zipIdx.foldl (fun reverse entry => reverse.set entry.1 entry.2) idxMap) := by
  unfold getReverseIdx
  have hall : ∀ entry ∈ idxMap.zipIdx, entry.1 < idxMap.length := fun entry hentry =>
    h entry.1 (List.fst_mem_of_mem_zipIdx hentry)
  generalize hlength : idxMap.length = n at hall
  generalize idxMap.zipIdx = entries at hall ⊢
  clear h
  induction entries generalizing idxMap with
  | nil => rfl
  | cons entry entries ih =>
    rw [List.forall_mem_cons] at hall
    rw [List.foldlM_cons, List.foldl_cons, if_pos (hlength.symm ▸ hall.1)]
    exact ih (by rw [List.length_set, hlength]) hall.2

/-- The inverse has, at each place, where that place is found. -/
theorem getReverseIdx_returns {idxMap : List Nat}
    (hperm : idxMap.Perm (List.range idxMap.length)) : ∃ reverse,
    getReverseIdx idxMap = .ok reverse ∧ reverse.length = idxMap.length ∧
      ∀ place (hplace : place < idxMap.length), reverse[idxMap[place]]? = some place := by
  have hbelow : ∀ i ∈ idxMap, i < idxMap.length := fun i hi =>
    List.mem_range.mp (hperm.mem_iff.mp hi)
  have hnodup : (idxMap.zipIdx.map Prod.fst).Nodup := by
    rw [List.zipIdx_map_fst]
    exact hperm.nodup_iff.mpr List.nodup_range
  refine ⟨_, getReverseIdx_eq hbelow, ?_, ?_⟩
  · generalize idxMap.zipIdx = entries
    have hkeep : ∀ xs : List Nat,
        (entries.foldl (fun reverse entry => reverse.set entry.1 entry.2) xs).length =
          xs.length := by
      induction entries with
      | nil => exact fun _ => rfl
      | cons entry entries ih =>
        intro xs
        rw [List.foldl_cons, ih, List.length_set]
    exact hkeep idxMap
  · intro place hplace
    apply foldl_set_getElem? hnodup _ (hbelow _ (List.getElem_mem hplace))
    exact List.mem_zipIdx_iff_getElem?.mpr (List.getElem?_eq_getElem hplace)

theorem indexSelect_eq_map {rows : List β} {indices : List Nat}
    (h : ∀ i ∈ indices, i < rows.length) :
    (indexSelect rows indices).map some = indices.map (rows[·]?) := by
  induction indices with
  | nil => rfl
  | cons i indices ih =>
    rw [List.forall_mem_cons] at h
    unfold indexSelect at ih ⊢
    rw [List.filterMap_cons_some (List.getElem?_eq_getElem h.1), List.map_cons, List.map_cons,
      ih h.2, List.getElem?_eq_getElem h.1]

theorem indexSelect_getElem? {rows : List β} {indices : List Nat}
    (h : ∀ i ∈ indices, i < rows.length) {place : Nat} (hplace : place < indices.length) :
    (indexSelect rows indices)[place]? = rows[indices[place]]? := by
  have hmap := congrArg (fun xs => xs[place]?) (indexSelect_eq_map h)
  simp only [List.getElem?_map, List.getElem?_eq_getElem hplace, Option.map_some] at hmap
  cases hselected : (indexSelect rows indices)[place]? with
  | none => simp [hselected] at hmap
  | some row => simpa [hselected] using hmap

theorem indexSelect_length {rows : List β} {indices : List Nat}
    (h : ∀ i ∈ indices, i < rows.length) :
    (indexSelect rows indices).length = indices.length := by
  have hlength := congrArg List.length (indexSelect_eq_map h)
  rwa [List.length_map, List.length_map] at hlength

theorem indexSelect_flatten (rows : List β) (idx : List (List Nat)) (f : β → γ) :
    (idx.map fun indices => (indexSelect rows indices).map f).flatten =
      (indexSelect rows idx.flatten).map f := by
  unfold indexSelect
  rw [List.filterMap_flatten, List.map_flatten, List.map_map]
  rfl

/-- Rows that were taken apart by index come back in their order. -/
theorem restoreDynamicBatch_selected {rows : List β} {idx : List (List Nat)}
    (hperm : idx.flatten.Perm (List.range rows.length)) (f : β → γ) :
    restoreDynamicBatch (idx.map fun indices => (indexSelect rows indices).map f).flatten idx =
      .ok (rows.map f) := by
  have hlength : idx.flatten.length = rows.length := by rw [hperm.length_eq, List.length_range]
  have hbelow : ∀ i ∈ idx.flatten, i < rows.length := fun i hi =>
    List.mem_range.mp (hperm.mem_iff.mp hi)
  obtain ⟨reverse, hreverse, hsize, hinverse⟩ := getReverseIdx_returns (hlength.symm ▸ hperm)
  have hrestored : (reverse.mapM fun i =>
      match ((indexSelect rows idx.flatten).map f)[i]? with
      | none => .error ⟨.indexError, "index out of range in self"⟩
      | some row => .ok row) = (.ok (rows.map f) : Except PyError (List γ)) := by
    rw [mapM_eq_ok, List.forall₂_iff_get]
    refine ⟨by rw [hsize, hlength, List.length_map], fun j hj hj' => ?_⟩
    rw [List.length_map] at hj'
    obtain ⟨place, hplace, hindex⟩ := List.mem_iff_getElem.mp
      (hperm.mem_iff.mpr (List.mem_range.mpr hj'))
    have hj : reverse[j] = place := by
      have hfound := hinverse place hplace
      rw [hindex, List.getElem?_eq_getElem hj] at hfound
      exact Option.some.inj hfound
    simp [hj, indexSelect_getElem? hbelow hplace, hindex, List.getElem?_eq_getElem hj']
  unfold restoreDynamicBatch
  dsimp only
  rw [indexSelect_flatten, hreverse, raiseIf_of_not (by
    rw [List.length_map, indexSelect_length hbelow, not_not])]
  exact hrestored

/-! ### The outputs by their names -/

theorem push_map {fields : List (PyStr × (β → γ))} (hnodup : (Dict.keys fields).Nodup)
    (acc : PyStr × (β → γ) → List (List γ)) {field : PyStr × (β → γ)} (hfield : field ∈ fields)
    (x : List γ) :
    Dict.push (fields.map fun field => (field.1, acc field)) field.1 x = fields.map fun other =>
      (other.1, if other.1 = field.1 then acc other ++ [x] else acc other) := by
  have hkeys : Dict.keys (fields.map fun field => (field.1, acc field)) = Dict.keys fields := by
    unfold Dict.keys
    rw [List.map_map]
    rfl
  have hget : Dict.get? (fields.map fun field => (field.1, acc field)) field.1 =
      some (acc field) :=
    Dict.get?_of_mem (hkeys ▸ hnodup) (List.mem_map_of_mem hfield)
  have hkey : field.1 ∈ Dict.keys fields := List.mem_map_of_mem hfield
  unfold Dict.push Dict.set
  rw [hkeys, if_pos hkey, hget, List.map_map]
  apply List.map_congr_left
  intro other hother
  rw [Function.comp_apply]
  by_cases hname : other.1 = field.1
  · obtain rfl := List.inj_on_of_nodup_map hnodup hother hfield hname
    rw [if_pos rfl, if_pos rfl, Option.getD_some]
  · rw [if_neg hname, if_neg hname]

/-- One more micro-batch adds its outputs to those before it. -/
theorem foldl_push_map {fields : List (PyStr × (β → γ))} (hnodup : (Dict.keys fields).Nodup)
    (acc : PyStr × (β → γ) → List (List γ)) (microBatch : List β) :
    (fields.map fun field => (field.1, microBatch.map field.2)).foldl
        (fun collected item => Dict.push collected item.1 item.2)
        (fields.map fun field => (field.1, acc field)) =
      fields.map fun field => (field.1, acc field ++ [microBatch.map field.2]) := by
  have hfront : ∀ done todo : List (PyStr × (β → γ)), fields = done ++ todo →
      ∀ acc' : PyStr × (β → γ) → List (List γ), (∀ field ∈ todo, acc' field = acc field) →
      (∀ field ∈ done, acc' field = acc field ++ [microBatch.map field.2]) →
      (todo.map fun field => (field.1, microBatch.map field.2)).foldl
        (fun collected item => Dict.push collected item.1 item.2)
        (fields.map fun field => (field.1, acc' field)) =
      fields.map fun field => (field.1, acc field ++ [microBatch.map field.2]) := by
    intro done todo
    induction todo generalizing done with
    | nil =>
      intro hfields acc' _ hdone
      rw [List.append_nil] at hfields
      apply List.map_congr_left
      intro field hfield
      rw [hdone field (hfields ▸ hfield)]
    | cons field todo ih =>
      intro hfields acc' htodo hdone
      have hkeys := hnodup
      unfold Dict.keys at hkeys
      rw [hfields, List.map_append, List.map_cons] at hkeys
      have hother := (List.nodup_append.mp hkeys).2.2
      have hlater := (List.nodup_cons.mp (List.nodup_append.mp hkeys).2.1).1
      rw [List.map_cons, List.foldl_cons,
        push_map hnodup acc' (hfields ▸ List.mem_append_right _ List.mem_cons_self)]
      apply ih (done ++ [field]) (by simp [hfields]) fun other =>
        if other.1 = field.1 then acc' other ++ [microBatch.map field.2] else acc' other
      · intro other hmem
        have hne : other.1 ≠ field.1 := by
          intro heq
          exact hlater (heq ▸ List.mem_map_of_mem (f := Prod.fst) hmem)
        rw [if_neg hne, htodo other (List.mem_cons_of_mem _ hmem)]
      · intro other hmem
        rcases List.mem_append.mp hmem with hbefore | hself
        · have hne : other.1 ≠ field.1 := hother _ (List.mem_map_of_mem (f := Prod.fst) hbefore) _
            List.mem_cons_self
          rw [if_neg hne, hdone other hbefore]
        · obtain rfl := List.mem_singleton.mp hself
          rw [if_pos rfl, htodo other List.mem_cons_self]
  exact hfront [] fields rfl acc (fun _ _ => rfl) (by simp)

/-- The outputs that the first micro-batch leaves. -/
theorem foldl_push_first {fields : List (PyStr × (β → γ))} (hnodup : (Dict.keys fields).Nodup)
    (microBatch : List β) :
    (fields.map fun field => (field.1, microBatch.map field.2)).foldl
        (fun collected item => Dict.push collected item.1 item.2) [] =
      fields.map fun field => (field.1, [microBatch.map field.2]) := by
  have hfront : ∀ done todo : List (PyStr × (β → γ)), fields = done ++ todo →
      (todo.map fun field => (field.1, microBatch.map field.2)).foldl
        (fun collected item => Dict.push collected item.1 item.2)
        (done.map fun field => (field.1, [microBatch.map field.2])) =
      fields.map fun field => (field.1, [microBatch.map field.2]) := by
    intro done todo
    induction todo generalizing done with
    | nil =>
      intro hfields
      rw [hfields, List.append_nil]
      rfl
    | cons field todo ih =>
      intro hfields
      have hkeys := hnodup
      unfold Dict.keys at hkeys
      rw [hfields, List.map_append, List.map_cons] at hkeys
      have hnew : field.1 ∉
          Dict.keys (done.map fun field => (field.1, [microBatch.map field.2])) := by
        unfold Dict.keys
        rw [List.map_map]
        intro hmem
        exact (List.nodup_append.mp hkeys).2.2 _ hmem _ List.mem_cons_self rfl
      have hnone := Dict.get?_eq_none.mpr hnew
      rw [List.map_cons, List.foldl_cons, Dict.push, hnone, Dict.set_of_not_mem hnew]
      have hgrown := ih (done ++ [field]) (by simp [hfields])
      rw [List.map_append] at hgrown
      exact hgrown
  exact hfront [] fields rfl

/-- The forward pass of a micro-batch, that works row by row. -/
def forwardMicroBatch (fields : List (PyStr × (β → γ))) (loss : List β → L)
    (microBatch : List β) : MicroOutput γ L where
  modelOutput := some (fields.map fun field => (field.1, microBatch.map field.2))
  loss := some (loss microBatch)

theorem collectOutputs_forward {fields : List (PyStr × (β → γ))}
    (hnodup : (Dict.keys fields).Nodup) (loss : List β → L) {microBatches : List (List β)}
    (hne : microBatches ≠ []) :
    collectOutputs (microBatches.map (forwardMicroBatch fields loss)) =
      fields.map fun field => (field.1, microBatches.map fun rows => rows.map field.2) := by
  obtain ⟨first, rest, rfl⟩ := List.exists_cons_of_ne_nil hne
  have hfold : ∀ (done rest : List (List β)), rest.foldl (fun collected microBatch =>
      (fields.map fun field => (field.1, microBatch.map field.2)).foldl
        (fun collected item => Dict.push collected item.1 item.2) collected)
      (fields.map fun field => (field.1, done.map fun rows => rows.map field.2)) =
      fields.map fun field => (field.1, (done ++ rest).map fun rows => rows.map field.2) := by
    intro done rest
    induction rest generalizing done with
    | nil => simp
    | cons microBatch rest ih =>
      rw [List.foldl_cons,
        foldl_push_map hnodup (fun field => done.map fun rows => rows.map field.2) microBatch]
      have hgrown := ih (done ++ [microBatch])
      rw [List.append_assoc] at hgrown
      simpa using hgrown
  have houtputs : ((first :: rest).map (forwardMicroBatch fields loss)).filterMap
      MicroOutput.modelOutput = (first :: rest).map fun microBatch =>
        fields.map fun field => (field.1, microBatch.map field.2) := by
    rw [List.filterMap_map, ← List.filterMap_eq_map]
    rfl
  unfold collectOutputs
  rw [houtputs, List.map_cons, List.foldl_cons, foldl_push_first hnodup, List.foldl_map]
  exact hfold [first] rest

theorem collectOutputs_loss (fields : List (PyStr × (β → γ))) (loss : List β → L)
    (microBatches : List (List β)) :
    (microBatches.map (forwardMicroBatch fields loss)).filterMap MicroOutput.loss =
      microBatches.map loss := by
  rw [List.filterMap_map, ← List.filterMap_eq_map]
  rfl

/-- The outputs of index-selected micro-batches come back in the order of the batch. -/
theorem postprocessBatchFunc_selected {fields : List (PyStr × (β → γ))}
    (hnodup : (Dict.keys fields).Nodup) (loss : List β → L) {rows : List β} {idx : List (List Nat)}
    (hne : idx ≠ []) (hperm : idx.flatten.Perm (List.range rows.length)) :
    postprocessBatchFunc true ((idx.map (indexSelect rows)).map (forwardMicroBatch fields loss))
        (some idx) =
      .ok { modelOutput := fields.map fun field => (field.1, rows.map field.2)
            loss := (idx.map (indexSelect rows)).map loss } := by
  have hrestored : (fields.map fun field =>
      (field.1, (idx.map (indexSelect rows)).map fun rows => rows.map field.2)).mapM
        (orderedOutput true (some idx)) =
      .ok (fields.map fun field => (field.1, rows.map field.2)) := by
    rw [mapM_eq_ok, List.forall₂_map_left_iff, List.forall₂_map_right_iff, List.forall₂_same]
    intro field _
    unfold orderedOutput
    simp only [if_true, List.map_map, Function.comp_def]
    rw [restoreDynamicBatch_selected hperm field.2]
    rfl
  unfold postprocessBatchFunc
  rw [collectOutputs_forward hnodup loss (by simpa using hne), collectOutputs_loss, hrestored]
  rfl

/-- The outputs of consecutive micro-batches are in order. -/
theorem postprocessBatchFunc_consecutive {fields : List (PyStr × (β → γ))}
    (hnodup : (Dict.keys fields).Nodup) (loss : List β → L) {microBatches : List (List β)}
    (hne : microBatches ≠ []) (indices : Option (List (List Nat))) :
    postprocessBatchFunc false (microBatches.map (forwardMicroBatch fields loss)) indices =
      .ok { modelOutput := fields.map fun field => (field.1, microBatches.flatten.map field.2)
            loss := microBatches.map loss } := by
  have hordered : (fields.map fun field =>
      (field.1, microBatches.map fun rows => rows.map field.2)).mapM (orderedOutput false indices) =
      .ok (fields.map fun field => (field.1, microBatches.flatten.map field.2)) := by
    rw [mapM_eq_ok, List.forall₂_map_left_iff, List.forall₂_map_right_iff, List.forall₂_same]
    intro field _
    unfold orderedOutput
    rw [List.map_flatten]
    rfl
  unfold postprocessBatchFunc
  rw [collectOutputs_forward hnodup loss hne, collectOutputs_loss, hordered]
  rfl

/-- `forward_step`, with a model that works row by row and its loss. -/
def forwardStep (fields : List (PyStr × (β → γ))) (loss : List β → Except PyError L)
    (microBatch : List β) : Except PyError (MicroOutput γ L) := do
  let loss ← loss microBatch
  return {
    modelOutput := some (fields.map fun field => (field.1, microBatch.map field.2))
    loss := some loss }

theorem mapM_forwardStep {fields : List (PyStr × (β → γ))} {loss : List β → Except PyError L}
    {lossOf : List β → L} (h : ∀ microBatch, loss microBatch = .ok (lossOf microBatch))
    (microBatches : List (List β)) :
    microBatches.mapM (forwardStep fields loss) =
      .ok (microBatches.map (forwardMicroBatch fields lossOf)) := by
  apply mapM_eq_ok_map
  intro microBatch _
  unfold forwardStep
  rw [h microBatch]
  rfl

theorem indexSelect_range (rows : List β) : indexSelect rows (List.range rows.length) = rows := by
  have hbelow : ∀ i ∈ List.range rows.length, i < rows.length := fun i hi => List.mem_range.mp hi
  apply List.ext_getElem?
  intro i
  obtain hi | hi := Nat.lt_or_ge i rows.length
  · rw [indexSelect_getElem? hbelow (by rwa [List.length_range]), List.getElem_range]
  · rw [List.getElem?_eq_none hi, List.getElem?_eq_none]
    rwa [indexSelect_length hbelow, List.length_range]

/-- The micro-batches of a rank hold its rows, each once. -/
theorem indexSelect_perm {rows : List β} {idx : List (List Nat)}
    (hperm : idx.flatten.Perm (List.range rows.length)) :
    (idx.map (indexSelect rows)).flatten.Perm rows := by
  have hflatten := indexSelect_flatten rows idx id
  simp only [List.map_id] at hflatten
  rw [hflatten]
  have hrows := indexSelect_range rows
  unfold indexSelect at hrows ⊢
  exact (hperm.filterMap _).trans (List.Perm.of_eq hrows)

/-! ### Whole passes -/

/-- `forward_backward_batch` without a backward pass, with a model that works row by row. -/
def forwardBatch (sync : Bool) (options : PrepareOptions) (fields : List (PyStr × (β → γ)))
    (loss : List β → L) (batch : Batch β) : ExceptT PyError Rank (BatchOutput γ L) := do
  let (microBatches, indices) ← prepareMicroBatches sync options batch
  let outputs := microBatches.map (forwardMicroBatch fields loss)
  ofExcept (postprocessBatchFunc options.useDynamicBsz outputs indices)

theorem Rearranged.idx_ne_nil {options : MicroBatchOptions} {batch : Batch β} {count : Nat}
    {result : List (List β) × List (List Nat)} (h : Rearranged options batch count result)
    (hne : batch.lengths.effective ≠ []) : result.2 ≠ [] := by
  intro hnil
  have hlength := h.perm.length_eq
  rw [hnil, List.flatten_nil, List.length_nil, List.length_range, batch.rows_length] at hlength
  exact hne (List.length_eq_zero_iff.mp hlength.symm)

/-- Where the ranks find their micro-batches. -/
def PrepareOptions.Fits {ι : Type} (options : PrepareOptions) (batch : ι → Batch β) : Prop :=
  ∃ tokens, options.maxTokenLenPerGpu = some tokens ∧
    R2opl.Fits (options.microBatchOptions tokens) batch

/-- All ranks of a group cut their batches, or all of them stop with one error. -/
theorem prepareMicroBatches_agree {ι : Type} [Fintype ι] [Nonempty ι] {options : PrepareOptions}
    {batch : ι → Batch β} (hdynamic : options.useDynamicBsz = true)
    (hadmissible : ∀ tokens, options.maxTokenLenPerGpu = some tokens →
      ∀ r, Rearrangeable (options.microBatchOptions tokens) (batch r).lengths) :
    Agree (fun _ => ¬ options.Fits batch)
      (fun r => prepareMicroBatches true options (batch r)) fun prepared =>
      ∀ r, ∃ idx, idx ≠ [] ∧ idx.flatten.Perm (List.range (batch r).rows.length) ∧
        prepared r = (idx.map (indexSelect (batch r).rows), some idx) := by
  unfold prepareMicroBatches
  simp only [hdynamic, if_true]
  cases hmax : options.maxTokenLenPerGpu with
  | none =>
    apply Agree.throw
    rintro ⟨tokens, htokens, -⟩
    rw [hmax] at htokens
    cases htokens
  | some tokens =>
    have hfails : ¬ Fits (options.microBatchOptions tokens) batch → ¬ options.Fits batch := by
      rintro hfails ⟨tokens', htokens, hfits⟩
      obtain rfl := Option.some.inj (hmax.symm.trans htokens)
      exact hfails hfits
    apply Agree.bind ((rearrangeMicroBatches_agree _ _ (hadmissible tokens hmax)).mono
      (fun _ => hfails) fun _ h => h)
    rintro results ⟨count, -, -, hmicro⟩
    apply Agree.pure
    intro r
    refine ⟨(results r).2, (hmicro r).idx_ne_nil (hadmissible tokens hmax r).ne_nil,
      (hmicro r).perm, ?_⟩
    dsimp only
    rw [(hmicro r).rows]

/-- What a rank gets of its micro-batches is what the whole batch at once would give, or all ranks
    of its group stop with one error. -/
theorem forwardBatch_agree {ι : Type} [Fintype ι] [Nonempty ι] (options : PrepareOptions)
    (fields : List (PyStr × (β → γ))) (loss : List β → L) (batch : ι → Batch β)
    (hdynamic : options.useDynamicBsz = true) (hnodup : (Dict.keys fields).Nodup)
    (hadmissible : ∀ tokens, options.maxTokenLenPerGpu = some tokens →
      ∀ r, Rearrangeable (options.microBatchOptions tokens) (batch r).lengths) :
    Agree (fun _ => ¬ options.Fits batch)
      (fun r => forwardBatch true options fields loss (batch r)) fun outputs =>
      ∀ r, (outputs r).modelOutput =
        fields.map fun field => (field.1, (batch r).rows.map field.2) := by
  unfold forwardBatch
  apply Agree.bind (prepareMicroBatches_agree hdynamic hadmissible)
  intro prepared hprepared
  choose idx hne hperm heq using hprepared
  apply Agree.ofExcept (fun r =>
    { modelOutput := fields.map fun field => (field.1, (batch r).rows.map field.2)
      loss := ((idx r).map (indexSelect (batch r).rows)).map loss })
  · intro r
    rw [heq r, hdynamic]
    exact postprocessBatchFunc_selected hnodup loss (hne r) (hperm r)
  · exact fun _ => rfl

theorem forwardBatch_agree_pair :
    Agree (fun _ => ¬ PrepareOptions.Fits
        { maxTokenLenPerGpu := some 5, microBatchSizePerGpu := none } fun _ : Fin 2 => twoRows)
      (fun _ : Fin 2 => forwardBatch true
        { maxTokenLenPerGpu := some 5, microBatchSizePerGpu := none }
        [("log_probs".toList, Char.toNat)] List.length twoRows) fun outputs =>
      ∀ r, (outputs r).modelOutput =
        [("log_probs".toList, Char.toNat)].map fun field => (field.1, twoRows.rows.map field.2) :=
  forwardBatch_agree { maxTokenLenPerGpu := some 5, microBatchSizePerGpu := none }
    [("log_probs".toList, Char.toNat)] List.length (fun _ => twoRows) rfl (by simp [Dict.keys])
    fun _ htokens _ => by
      obtain rfl := Option.some.inj htokens
      exact { returns := ⟨(), rfl⟩, ne_nil := by decide }

end R2opl
