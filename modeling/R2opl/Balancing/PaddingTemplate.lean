import Mathlib.Algebra.GroupWithZero.Nat
import Mathlib.Data.Nat.Cast.Defs
import R2opl.Lib.Mirror
import R2opl.Lib.Tensor
import R2opl.Python

/-!
# The synthetic sample

`construct_minimal_padding_template` of `verl/trainer/ppo/padding_utils.py` makes of a real sample
one of 128 tokens whose masks are zero.  The fields of the teachers, which are as long as the
sequence, are resized with it; one that is no tensor makes it raise.
-/

namespace R2opl

open Checked Dict Mirror

variable {E : Type}

/-- A field of a sample or of its tag; a value of another of Python's own types is told by its
    type and its text. -/
inductive SampleValue (E : Type) where
  | tensor (value : Tensor E)
  | pyNone
  | bool (value : Bool)
  | int (value : Int)
  | emptyDict
  | object (typeName text : String)

/-- `type(value).__name__` -/
def SampleValue.typeName : SampleValue E → String
  | .tensor _ => "Tensor"
  | .pyNone => "NoneType"
  | .bool _ => "bool"
  | .int _ => "int"
  | .emptyDict => "dict"
  | .object typeName _ => typeName

def SampleValue.IsTensor : SampleValue E → Prop
  | .tensor _ => True
  | _ => False

abbrev Sample (E : Type) := List (PyStr × SampleValue E)

/-- The field is a tensor, where it is there. -/
def HoldsTensor (sample : Sample E) (name : PyStr) : Prop :=
  ∀ value, get? sample name = some value → value.IsTensor

/-- `dict.update` -/
def updateFields (sample fields : Sample E) : Sample E := absorb (fun _ new => new) sample fields

/-- A field is replaced where it is there. -/
def replaceField (sample : Sample E) (name : PyStr)
    (replace : SampleValue E → Except PyError (SampleValue E)) : Except PyError (Sample E) :=
  match get? sample name with
  | none => .ok sample
  | some value => do return set sample name (← replace value)

/-- `value.new_full((length, *value.shape[1:]), x)`, unless the value is `None`. -/
def newFull (method : String) (length : Nat) (x : E) :
    SampleValue E → Except PyError (SampleValue E)
  | .pyNone => .ok .pyNone
  | .tensor value => .ok (.tensor ⟨length :: value.shape.tail, fun _ => x⟩)
  | value => .error ⟨.attributeError,
      s!"'{value.typeName}' object has no attribute '{method}'"⟩

/-! ### Fields -/

section Fields

variable {sample sample' : Sample E} {name : PyStr}
  {replace : SampleValue E → Except PyError (SampleValue E)}

theorem get?_updateFields (sample : Sample E) {fields : Sample E} (hnodup : (keys fields).Nodup)
    (name : PyStr) : get? (updateFields sample fields) name =
      (get? fields name).or (get? sample name) := by
  unfold updateFields
  rw [get?_absorb _ hnodup]
  cases get? fields name with
  | none => rfl
  | some value => rfl

theorem replaceField_of_ne (h : replaceField sample name replace = .ok sample') {other : PyStr}
    (hne : other ≠ name) : get? sample' other = get? sample other := by
  unfold replaceField at h
  split at h
  · rw [Except.ok.inj h]
  · obtain ⟨new, -, hset⟩ := bind_eq_ok.mp h
    rw [← Except.ok.inj hset, get?_set, if_neg hne.symm]

/-- What a field is replaced by. -/
theorem replaceField_self (h : replaceField sample name replace = .ok sample')
    {value : SampleValue E} (hvalue : get? sample name = some value) :
    ∃ new, replace value = .ok new ∧ get? sample' name = some new := by
  unfold replaceField at h
  rw [hvalue] at h
  obtain ⟨new, hnew, hset⟩ := bind_eq_ok.mp h
  refine ⟨new, hnew, ?_⟩
  rw [← Except.ok.inj hset, get?_set, if_pos rfl]

theorem replaceField_none (h : replaceField sample name replace = .ok sample')
    (hnone : get? sample name = none) : sample' = sample := by
  unfold replaceField at h
  rw [hnone] at h
  exact (Except.ok.inj h).symm

theorem replaceField_returns : Returns (replaceField sample name replace) ↔
    ∀ value, get? sample name = some value → Returns (replace value) := by
  unfold replaceField
  cases hget : get? sample name with
  | none =>
    constructor
    · intro _ value hvalue
      cases hvalue
    · exact fun _ => .ok sample
  | some found =>
    dsimp only
    rw [returns_bind]
    constructor
    · rintro ⟨new, hnew, -⟩ value hvalue
      obtain rfl := Option.some.inj hvalue
      exact ⟨new, hnew⟩
    · intro h
      obtain ⟨new, hnew⟩ := h found rfl
      exact ⟨new, hnew, .ok _⟩

theorem newFull_isTensor {method : String} {length : Nat} {x : E} {value new : SampleValue E}
    (h : newFull method length x value = .ok new) : new.IsTensor ↔ value.IsTensor := by
  cases value with
  | tensor value =>
    rw [← Except.ok.inj h]
    exact .rfl
  | pyNone => rw [← Except.ok.inj h]
  | _ => cases h

theorem newFull_returns {method : String} {length : Nat} {x : E} {value : SampleValue E}
    (h : value.IsTensor) : Returns (newFull method length x value) := by
  cases value with
  | tensor value => exact .ok _
  | _ => exact h.elim

/-- What keeps tensors apart from other values keeps them apart in the sample. -/
theorem replaceField_holdsTensor
    (hreplace : ∀ value new, replace value = .ok new → (new.IsTensor ↔ value.IsTensor))
    (h : replaceField sample name replace = .ok sample') (other : PyStr) :
    HoldsTensor sample' other ↔ HoldsTensor sample other := by
  unfold HoldsTensor
  by_cases hother : other = name
  · subst hother
    cases hget : get? sample other with
    | none => rw [replaceField_none h hget, hget]
    | some value =>
      obtain ⟨new, hnew, hget'⟩ := replaceField_self h hget
      rw [hget']
      constructor
      · intro hall found hfound
        obtain rfl := Option.some.inj hfound
        exact (hreplace value new hnew).mp (hall new rfl)
      · intro hall found hfound
        obtain rfl := Option.some.inj hfound
        exact (hreplace value new hnew).mpr (hall value rfl)
  · rw [replaceField_of_ne h hother]

end Fields

/-! ### The template -/

/-- `SYNTHETIC_PADDING_SEQ_LEN` -/
def syntheticPaddingSeqLen : Nat := 128

/-- `_FULL_SEQUENCE_TEACHER_FIELDS` -/
def fullSequenceTeacherFields : List PyStr :=
  ["teacher_ids", "teacher_logprobs", "teacher_sampled_logprobs", "teacher_entropy",
    "privileged_teacher_logprobs", "sol_unprivileged_teacher_logprobs",
    "cal_positive_teacher_logprobs", "cal_negative_teacher_logprobs",
    "teacher_max_logprobs"].map String.toList

/-- The fields that are resized, and what to. -/
def resizedFields : List (PyStr × Nat) :=
  (fullSequenceTeacherFields.map fun name => (name, syntheticPaddingSeqLen)) ++
    [("oa_opd_weights".toList, 1)]

/-- `compute_position_id_with_mask`, of a mask in one dimension. -/
def computePositionIdWithMask (mask : List Nat) : List Nat :=
  (List.range mask.length).map fun i => (mask.take (i + 1)).sum - 1

variable [AddMonoidWithOne E]

/-- `_zero_resized_tensor` -/
def zeroResizedTensor (value : SampleValue E) (leadingLength : Nat) : Option (Tensor E) :=
  match value with
  | .tensor value =>
      match value.shape with
      | [] => some ⟨[], fun _ => 0⟩
      | _ :: rest => some ⟨leadingLength :: rest, fun _ => 0⟩
  | _ => none

/-- `build_padding_position_ids` -/
def buildPaddingPositionIds (sourcePositionIds : Option (SampleValue E))
    (attentionMask : List Nat) : Tensor E :=
  let positionIds := computePositionIdWithMask attentionMask
  let leading := match sourcePositionIds with
    | some (.tensor source) => if source.ndim ≤ 1 then [] else source.shape.dropLast
    | _ => []
  ⟨leading ++ [positionIds.length], fun index => (positionIds.getD (index.getLastD 0) 0 : Nat)⟩

/-- `build_padding_routed_experts` -/
def buildPaddingRoutedExperts (sourceRoutedExperts : Option (SampleValue E)) (seqLen : Nat) :
    Option (Tensor E) :=
  sourceRoutedExperts.bind fun source => zeroResizedTensor source seqLen

/-- A padding field is resized. -/
def zeroField (name : PyStr) (length : Nat) (value : SampleValue E) :
    Except PyError (SampleValue E) :=
  match zeroResizedTensor value length with
  | none => .error ⟨.typeError, s!"Padding field '{String.ofList name}' must be a tensor, got " ++
      s!"{value.typeName}."⟩
  | some resized => .ok (.tensor resized)

/-- The fields that the template always has. -/
def minimalFields (eosTokenId : Nat) (positionIds : Tensor E) : Sample E :=
  [("prompts".toList, .tensor (.vec (syntheticPaddingSeqLen - 1) fun _ => eosTokenId)),
    ("responses".toList, .tensor (.vec 1 fun _ => eosTokenId)),
    ("input_ids".toList, .tensor (.vec syntheticPaddingSeqLen fun _ => eosTokenId)),
    ("attention_mask".toList, .tensor (.vec syntheticPaddingSeqLen fun _ => 1)),
    ("position_ids".toList, .tensor positionIds),
    ("num_turns".toList, .int 0),
    ("response_mask".toList, .tensor (.vec 1 fun _ => 0)),
    ("loss_mask".toList, .tensor (.vec 1 fun _ => 0)),
    ("rm_scores".toList, .tensor (.vec 1 fun _ => 0)),
    ("rollout_log_probs".toList, .tensor (.vec 1 fun _ => 0))]

/-- What the tag says of the template. -/
def minimalTag : Sample E :=
  [("is_padding".toList, .bool true),
    ("prompt_len".toList, .int (syntheticPaddingSeqLen - 1 : Nat)),
    ("response_len".toList, .int 1),
    ("seq_len".toList, .int syntheticPaddingSeqLen)]

/-- The loops that resize. -/
def resizeFields (fields : List (PyStr × Nat)) (sample : Sample E) : Except PyError (Sample E) :=
  fields.foldlM (fun sample field => replaceField sample field.1 (zeroField field.1 field.2)) sample

/-- The experts of the template, where it has some. -/
def placeExperts (sample : Sample E) : Option (Tensor E) → Sample E
  | some experts => set sample "routed_experts".toList (.tensor experts)
  | none => forget sample ["routed_experts".toList]

/-- The template before the fields of the teachers are resized. -/
def prepareTemplate (source : Sample E) (eosTokenId : Nat) : Except PyError (Sample E) := do
  let positionIds := buildPaddingPositionIds (get? source "position_ids".toList)
    (List.replicate syntheticPaddingSeqLen 1)
  let routedExperts := buildPaddingRoutedExperts (get? source "routed_experts".toList)
    syntheticPaddingSeqLen
  let sample ← replaceField source "teacher_ids".toList
    (newFull "new_full" syntheticPaddingSeqLen (eosTokenId : E))
  let sample ← replaceField sample "teacher_logprobs".toList
    (newFull "new_zeros" syntheticPaddingSeqLen 0)
  let sample := updateFields sample (minimalFields eosTokenId positionIds)
  let sample ← replaceField sample "multi_modal_inputs".toList fun _ => .ok .emptyDict
  return placeExperts sample routedExperts

/-- `construct_minimal_padding_template` -/
def constructMinimalPaddingTemplate (source tag : Sample E) (eosTokenId : Nat) :
    Except PyError (Sample E × Sample E) := do
  let sample ← prepareTemplate source eosTokenId
  let sample ← resizeFields resizedFields sample
  return (sample, updateFields tag minimalTag)

/-! ### What it returns -/

variable {sample sample' source template tag tag' : Sample E} {eosTokenId : Nat}

theorem resizeFields_cons {field : PyStr × Nat} {fields : List (PyStr × Nat)} :
    resizeFields (field :: fields) sample =
      replaceField sample field.1 (zeroField field.1 field.2) >>= resizeFields fields := by
  unfold resizeFields
  rw [List.foldlM_cons]

theorem resizeFields_of_not_mem {fields : List (PyStr × Nat)} {name : PyStr}
    (h : resizeFields fields sample = .ok sample') (hname : name ∉ fields.map Prod.fst) :
    get? sample' name = get? sample name := by
  induction fields generalizing sample with
  | nil => rw [Except.ok.inj h]
  | cons field fields ih =>
    rw [resizeFields_cons] at h
    obtain ⟨next, hnext, hrest⟩ := bind_eq_ok.mp h
    rw [List.map_cons, List.mem_cons, not_or] at hname
    rw [ih hrest hname.2, replaceField_of_ne hnext hname.1]

theorem zeroField_returns (name : PyStr) (length : Nat) (value : SampleValue E) :
    Returns (zeroField name length value) ↔ value.IsTensor := by
  unfold zeroField zeroResizedTensor
  cases value with
  | tensor value =>
    obtain ⟨shape, entry⟩ := value
    cases shape with
    | nil => exact ⟨fun _ => trivial, fun _ => .ok _⟩
    | cons size rest => exact ⟨fun _ => trivial, fun _ => .ok _⟩
  | _ => exact ⟨fun h => absurd h (not_returns_error _), fun h => h.elim⟩

/-- The loops return where all these fields are tensors. -/
theorem resizeFields_returns {fields : List (PyStr × Nat)} (hnodup : (fields.map Prod.fst).Nodup) :
    Returns (resizeFields fields sample) ↔
      ∀ name ∈ fields.map Prod.fst, HoldsTensor sample name := by
  induction fields generalizing sample with
  | nil => exact ⟨fun _ name hname => absurd hname List.not_mem_nil, fun _ => .ok sample⟩
  | cons field fields ih =>
    obtain ⟨hfirst, hrest⟩ := List.nodup_cons.mp hnodup
    rw [resizeFields_cons, returns_bind, List.map_cons, List.forall_mem_cons]
    have hothers {next : Sample E}
        (hnext : replaceField sample field.1 (zeroField field.1 field.2) = .ok next) :
        ∀ name ∈ fields.map Prod.fst, get? next name = get? sample name := by
      intro name hname
      exact replaceField_of_ne hnext fun heq => hfirst (heq ▸ hname)
    constructor
    · rintro ⟨next, hnext, hreturns⟩
      refine ⟨fun value hvalue => ?_, fun name hname => ?_⟩
      · exact (zeroField_returns _ _ value).mp (replaceField_returns.mp ⟨next, hnext⟩ value hvalue)
      · unfold HoldsTensor
        rw [← hothers hnext name hname]
        exact (ih hrest).mp hreturns name hname
    · rintro ⟨hhead, htail⟩
      obtain ⟨next, hnext⟩ := replaceField_returns.mpr fun value hvalue =>
        (zeroField_returns field.1 field.2 value).mpr (hhead value hvalue)
      refine ⟨next, hnext, (ih hrest).mpr fun name hname => ?_⟩
      unfold HoldsTensor
      rw [hothers hnext name hname]
      exact htail name hname

/-- The names of `minimalFields`. -/
def minimalNames : List PyStr :=
  ["prompts", "responses", "input_ids", "attention_mask", "position_ids", "num_turns",
    "response_mask", "loss_mask", "rm_scores", "rollout_log_probs"].map String.toList

theorem keys_minimalFields (eosTokenId : Nat) (positionIds : Tensor E) :
    keys (minimalFields eosTokenId positionIds) = minimalNames := rfl

theorem minimalNames_nodup : minimalNames.Nodup := by decide

/-- The fields that are resized are none of the others that change. -/
theorem resizedFields_apart : ∀ name ∈ resizedFields.map Prod.fst, name ∉ minimalNames ∧
    name ≠ "multi_modal_inputs".toList ∧ name ≠ "routed_experts".toList := by
  decide

/-- The fields that are none of the teachers', and what the others hold, before the loops. -/
structure Prepared (source : Sample E) (eosTokenId : Nat) (sample : Sample E) : Prop where
  minimal : ∀ name ∈ minimalNames, get? sample name = get? (minimalFields eosTokenId
    (buildPaddingPositionIds (get? source "position_ids".toList)
      (List.replicate syntheticPaddingSeqLen 1))) name
  kept : ∀ name ∉ minimalNames, name ∉ resizedFields.map Prod.fst →
    name ≠ "multi_modal_inputs".toList → name ≠ "routed_experts".toList →
    get? sample name = get? source name
  holdsTensor : ∀ name ∈ resizedFields.map Prod.fst,
    (HoldsTensor sample name ↔ HoldsTensor source name)

theorem minimalNames_apart : ∀ name ∈ minimalNames, name ≠ "multi_modal_inputs".toList ∧
    name ≠ "routed_experts".toList := by
  decide

theorem teacherFields_resized : "teacher_ids".toList ∈ resizedFields.map Prod.fst ∧
    "teacher_logprobs".toList ∈ resizedFields.map Prod.fst := by
  decide

omit [AddMonoidWithOne E] in
theorem get?_placeExperts (sample : Sample E) (routedExperts : Option (Tensor E)) {name : PyStr}
    (hname : name ≠ "routed_experts".toList) :
    get? (placeExperts sample routedExperts) name = get? sample name := by
  unfold placeExperts
  cases routedExperts with
  | some experts =>
    dsimp only
    rw [get?_set, if_neg hname.symm]
  | none =>
    dsimp only
    rw [get?_forget, if_neg (List.mem_singleton.not.mpr hname)]

theorem prepareTemplate_prepared (h : prepareTemplate source eosTokenId = .ok sample) :
    Prepared source eosTokenId sample := by
  unfold prepareTemplate at h
  dsimp only at h
  obtain ⟨first, hfirst, hrest⟩ := bind_eq_ok.mp h
  obtain ⟨second, hsecond, hend⟩ := bind_eq_ok.mp hrest
  obtain ⟨third, hthird, hplaced⟩ := bind_eq_ok.mp hend
  clear h hrest hend
  rw [pure_eq_ok, Except.ok.injEq] at hplaced
  set fields := minimalFields eosTokenId (buildPaddingPositionIds
    (get? source "position_ids".toList) (List.replicate syntheticPaddingSeqLen 1)) with hfields
  have hkeys : keys fields = minimalNames := keys_minimalFields _ _
  have hget {name : PyStr} (hmodal : name ≠ "multi_modal_inputs".toList)
      (hexperts : name ≠ "routed_experts".toList) :
      get? sample name = (get? fields name).or (get? second name) :=
    calc get? sample name = get? third name := by
          rw [← hplaced]
          exact get?_placeExperts third _ hexperts
      _ = get? (updateFields second fields) name := replaceField_of_ne hthird hmodal
      _ = (get? fields name).or (get? second name) :=
          get?_updateFields second (hkeys ▸ minimalNames_nodup) name
  have hother {name : PyStr} (hname : name ∉ minimalNames) : get? fields name = none := by
    rw [get?_eq_none, hkeys]
    exact hname
  constructor
  · intro name hname
    obtain ⟨hmodal, hexperts⟩ := minimalNames_apart name hname
    rw [← hkeys] at hname
    obtain ⟨value, hvalue⟩ := exists_get? hname
    rw [hget hmodal hexperts, hvalue, Option.some_or]
  · intro name hname hresized hmodal hexperts
    have hids : name ≠ "teacher_ids".toList := fun heq =>
      hresized (heq.symm ▸ teacherFields_resized.1)
    have hlogprobs : name ≠ "teacher_logprobs".toList := fun heq =>
      hresized (heq.symm ▸ teacherFields_resized.2)
    rw [hget hmodal hexperts, hother hname, Option.none_or, replaceField_of_ne hsecond hlogprobs,
      replaceField_of_ne hfirst hids]
  · intro name hname
    obtain ⟨hminimal, hmodal, hexperts⟩ := resizedFields_apart name hname
    rw [← replaceField_holdsTensor (fun _ _ => newFull_isTensor) hfirst name,
      ← replaceField_holdsTensor (fun _ _ => newFull_isTensor) hsecond name]
    unfold HoldsTensor
    rw [hget hmodal hexperts, hother hminimal, Option.none_or]

theorem prepareTemplate_returns (h : ∀ name ∈ resizedFields.map Prod.fst, HoldsTensor source name) :
    Returns (prepareTemplate source eosTokenId) := by
  have hfull : Returns (replaceField source "teacher_ids".toList
      (newFull "new_full" syntheticPaddingSeqLen (eosTokenId : E))) :=
    replaceField_returns.mpr fun value hvalue =>
      newFull_returns (h _ teacherFields_resized.1 value hvalue)
  obtain ⟨first, hfirst⟩ := hfull
  have hzeros : Returns (replaceField first "teacher_logprobs".toList
      (newFull "new_zeros" syntheticPaddingSeqLen 0)) := by
    apply replaceField_returns.mpr
    intro value hvalue
    apply newFull_returns
    exact (replaceField_holdsTensor (fun _ _ => newFull_isTensor) hfirst _).mpr
      (h _ teacherFields_resized.2) value hvalue
  obtain ⟨second, hsecond⟩ := hzeros
  unfold prepareTemplate
  dsimp only
  rw [hfirst, ok_bind, hsecond, ok_bind, returns_bind]
  obtain ⟨third, hthird⟩ : Returns (replaceField (updateFields second (minimalFields eosTokenId
      (buildPaddingPositionIds (get? source "position_ids".toList)
        (List.replicate syntheticPaddingSeqLen 1)))) "multi_modal_inputs".toList
      fun _ => .ok .emptyDict) := replaceField_returns.mpr fun _ _ => .ok _
  exact ⟨third, hthird, .ok _⟩

/-- The template is made where all fields that are resized are tensors. -/
theorem constructMinimalPaddingTemplate_returns (source tag : Sample E) (eosTokenId : Nat) :
    Returns (constructMinimalPaddingTemplate source tag eosTokenId) ↔
      ∀ name ∈ resizedFields.map Prod.fst, HoldsTensor source name := by
  have hnodup : (resizedFields.map Prod.fst).Nodup := by decide
  unfold constructMinimalPaddingTemplate
  rw [returns_bind]
  constructor
  · rintro ⟨prepared, hprepared, h⟩
    obtain ⟨template, htemplate, -⟩ := returns_bind.mp h
    intro name hname
    exact ((prepareTemplate_prepared hprepared).holdsTensor name hname).mp
      ((resizeFields_returns hnodup).mp ⟨template, htemplate⟩ name hname)
  · intro h
    obtain ⟨prepared, hprepared⟩ : Returns (prepareTemplate source eosTokenId) :=
      prepareTemplate_returns h
    obtain ⟨template, htemplate⟩ := (resizeFields_returns hnodup).mpr fun name hname =>
      ((prepareTemplate_prepared hprepared).holdsTensor name hname).mpr (h name hname)
    exact ⟨prepared, hprepared, returns_bind.mpr ⟨template, htemplate, .ok _⟩⟩

/-- The template has its own tokens, positions and masks, and the other fields of its source. -/
theorem constructMinimalPaddingTemplate_fields
    (h : constructMinimalPaddingTemplate source tag eosTokenId = .ok (template, tag')) :
    (∀ name ∈ minimalNames, get? template name = get? (minimalFields eosTokenId
      (buildPaddingPositionIds (get? source "position_ids".toList)
        (List.replicate syntheticPaddingSeqLen 1))) name) ∧
    (∀ name ∉ minimalNames, name ∉ resizedFields.map Prod.fst →
      name ≠ "multi_modal_inputs".toList → name ≠ "routed_experts".toList →
      get? template name = get? source name) ∧
    tag' = updateFields tag minimalTag := by
  unfold constructMinimalPaddingTemplate at h
  obtain ⟨prepared, hprepared, h⟩ := bind_eq_ok.mp h
  obtain ⟨resized, hresized, h⟩ := bind_eq_ok.mp h
  obtain ⟨rfl, rfl⟩ := Prod.mk.inj (Except.ok.inj h)
  have hfields := prepareTemplate_prepared hprepared
  refine ⟨fun name hname => ?_, fun name hname hother hmodal hexperts => ?_, rfl⟩
  · rw [resizeFields_of_not_mem hresized fun hmem => (resizedFields_apart name hmem).1 hname,
      hfields.minimal name hname]
  · rw [resizeFields_of_not_mem hresized hother, hfields.kept name hname hother hmodal hexperts]

/-- What the losses read of a mask: `.to(bool)` -/
def sampleMask [DecidableEq E] (name : PyStr) (sample : Sample E) : List Nat :=
  match get? sample name with
  | some (.tensor mask) => (List.range (mask.size 0)).map fun i => if mask.at1 i = 0 then 0 else 1
  | _ => []

/-- No token of the template counts. -/
theorem constructMinimalPaddingTemplate_mask [DecidableEq E]
    (h : constructMinimalPaddingTemplate source tag eosTokenId = .ok (template, tag'))
    {name : PyStr} (hname : name ∈ ["response_mask".toList, "loss_mask".toList]) :
    ∀ m ∈ sampleMask name template, m = 0 := by
  have hmask : ∀ positionIds : Tensor E,
      get? (minimalFields eosTokenId positionIds) name = some (.tensor (.vec 1 fun _ => 0)) := by
    intro positionIds
    have hnodup : (keys (minimalFields eosTokenId positionIds)).Nodup :=
      keys_minimalFields eosTokenId positionIds ▸ minimalNames_nodup
    rcases List.mem_pair.mp hname with rfl | rfl
    · exact get?_of_mem hnodup (by simp [minimalFields])
    · exact get?_of_mem hnodup (by simp [minimalFields])
  have hminimal : name ∈ minimalNames := by
    rcases List.mem_pair.mp hname with rfl | rfl
    · decide
    · decide
  have hread := ((constructMinimalPaddingTemplate_fields h).1 name hminimal).trans (hmask _)
  intro m hm
  unfold sampleMask at hm
  rw [hread] at hm
  obtain ⟨i, -, rfl⟩ := List.mem_map.mp hm
  exact if_pos rfl

end R2opl
