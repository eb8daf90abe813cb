import Mathlib.Algebra.BigOperators.Group.List.Basic
import R2opl.Ersr.TeacherPhase

/-!
# What the student phase computes

The student phase gives every case of its work one result: the marker of a case that was
skipped, or the values of its two arms.  These are the values that the case has on its own.
-/

namespace R2opl

open Checked

/-! ### One case on its own -/

/-- The verifier that grades the answers to one data set. -/
def Verifier.forDataset (verifier : Verifier) (dataset : PyStr) : Verifier :=
  { verifier with verifyResponseAnswer := fun response answer =>
      verifier.verifyDatasetResponseAnswer response answer dataset }

section Case

variable (config : ErsrEvaluation) (verifier : Verifier) (student : GenerateTokens)
  (outcome : ErsrCase → Except PyError TeacherOutcome)

/-- The prefix of the action arm, with its replacement, of a case that is not skipped. -/
def actionPrefix (c : ErsrCase) : Option (List Int × Option (List Int)) :=
  match c.actionType with
  | .studentAction => some (c.responseIds.take c.stepTokenEnd, none)
  | .teacherReplace =>
      match outcome c with
      | .ok (.replaced replacement) => some (c.before ++ replacement, some replacement)
      | _ => none

/-- The result of a case whose action is fixed. -/
def armsResult (tokenizer : Tokenizer) (c : ErsrCase) (action : List Int × Option (List Int)) :
    Except PyError ErsrResult :=
  estimateAdvantage (verifier.forDataset c.dataset) tokenizer config.settings student c action.1
    action.2

/-- The result of a case, once the teacher phase has decided it. -/
def caseResult (tokenizer : Tokenizer) (c : ErsrCase) : Except PyError ErsrResult :=
  match c.actionType with
  | .studentAction =>
      armsResult config verifier student tokenizer c (c.responseIds.take c.stepTokenEnd, none)
  | .teacherReplace => do
      match ← outcome c with
      | .skipped skipReason error => return c.result (.skipped skipReason error)
      | .replaced replacement =>
          armsResult config verifier student tokenizer c
            (c.before ++ replacement, some replacement)

end Case

/-! ### Request ids -/

section Ids

variable {config : ErsrEvaluation} {work : ErsrWork} {c c' : ErsrCase}

theorem armRequestId_inj {offset offset' index index' : Nat}
    (h : armRequestId c offset index = armRequestId c' offset' index') :
    c.caseId = c'.caseId ∧ offset = offset' ∧ index = index' := by
  obtain ⟨hrest, hindex⟩ := Separated.right_inj (colon_not_mem_natText index)
    (colon_not_mem_natText index') h
  obtain ⟨hid, hoffset⟩ := Separated.right_inj (colon_not_mem_natText offset)
    (colon_not_mem_natText offset') hrest
  exact ⟨hid, natText_injective hoffset, natText_injective hindex⟩

theorem mem_armRequests {responsePrefix : List Int} {offset : Nat} {request : GenerationRequest}
    (h : request ∈ armRequests config c responsePrefix offset) :
    ∃ index, request = armRequest config c responsePrefix offset index := by
  unfold armRequests at h
  split at h
  · exact absurd h List.not_mem_nil
  · obtain ⟨index, _, rfl⟩ := List.mem_map.mp h
    exact ⟨index, rfl⟩

theorem armRequestIds_nodup (c : ErsrCase) (responsePrefix : List Int) (offset : Nat) :
    ((armRequests config c responsePrefix offset).map GenerationRequest.requestId).Nodup := by
  unfold armRequests
  split
  · exact List.nodup_nil
  · rw [List.map_map]
    apply List.nodup_range.map
    intro index index' heq
    exact (armRequestId_inj heq).2.2

/-- The requests of the two arms of a case have different ids. -/
theorem armsFor_requestIds_nodup (c : ErsrCase) (action : List Int) :
    ((armsFor config c action).requests.map GenerationRequest.requestId).Nodup := by
  unfold CaseArms.requests armsFor
  dsimp only
  rw [List.map_append, List.nodup_append]
  refine ⟨armRequestIds_nodup c _ 0, armRequestIds_nodup c _ 1000, ?_⟩
  intro requestId hbaseline other haction heq
  obtain ⟨request, hrequest, rfl⟩ := List.mem_map.mp hbaseline
  obtain ⟨request', hrequest', rfl⟩ := List.mem_map.mp haction
  obtain ⟨index, rfl⟩ := mem_armRequests hrequest
  obtain ⟨index', rfl⟩ := mem_armRequests hrequest'
  exact absurd (armRequestId_inj heq).2.1 (by decide)

/-- The arms that a work gives to a case start from some action prefix. -/
theorem exists_armsFor {arms : CaseArms} (h : work.armsOf config c = some arms) :
    ∃ action, arms = armsFor config c action := by
  unfold ErsrWork.armsOf at h
  split at h
  · cases h
  · split at h
    · exact ⟨_, (Option.some.inj h).symm⟩
    · obtain ⟨replacement, _, rfl⟩ := Option.map_eq_some_iff.mp h
      exact ⟨_, rfl⟩

theorem mem_caseArms {item : PyStr × CaseArms} :
    item ∈ work.caseArms config ↔
      ∃ c ∈ work.cases, c.caseId = item.1 ∧ work.armsOf config c = some item.2 := by
  unfold ErsrWork.caseArms
  rw [List.mem_filterMap]
  apply exists_congr
  intro c
  rw [Option.map_eq_some_iff]
  apply and_congr_right
  intro _
  constructor
  · rintro ⟨arms, harms, rfl⟩
    exact ⟨rfl, harms⟩
  · rintro ⟨hid, harms⟩
    exact ⟨item.2, harms, Prod.ext hid rfl⟩

variable (config) in
theorem caseArms_keys_nodup (h : (work.cases.map ErsrCase.caseId).Nodup) :
    (Dict.keys (work.caseArms config)).Nodup := by
  unfold Dict.keys ErsrWork.caseArms List.Nodup
  rw [List.pairwise_map, List.pairwise_filterMap]
  apply (List.pairwise_map.mp h).imp
  intro c c' hne item hitem item' hitem'
  obtain ⟨_, _, rfl⟩ := Option.map_eq_some_iff.mp hitem
  obtain ⟨_, _, rfl⟩ := Option.map_eq_some_iff.mp hitem'
  exact hne

/-- All requests of a student phase have different ids. -/
theorem studentRequestIds_nodup (h : (work.cases.map ErsrCase.caseId).Nodup) :
    ((work.studentRequests config).map GenerationRequest.requestId).Nodup := by
  unfold ErsrWork.studentRequests
  rw [List.map_flatMap, List.nodup_flatMap]
  constructor
  · intro item hitem
    obtain ⟨c, _, _, harms⟩ := mem_caseArms.mp hitem
    obtain ⟨action, heq⟩ := exists_armsFor harms
    rw [heq]
    exact armsFor_requestIds_nodup c action
  · have hids : ∀ item ∈ work.caseArms config,
        ∀ requestId ∈ item.2.requests.map GenerationRequest.requestId,
        ∃ c : ErsrCase, c.caseId = item.1 ∧ ∃ offset index, requestId = armRequestId c offset index := by
      intro item hitem requestId hrequestId
      obtain ⟨c, _, hid, harms⟩ := mem_caseArms.mp hitem
      obtain ⟨action, heq⟩ := exists_armsFor harms
      obtain ⟨request, hrequest, rfl⟩ := List.mem_map.mp hrequestId
      rw [heq] at hrequest
      rcases List.mem_append.mp hrequest with hbaseline | haction
      · obtain ⟨index, rfl⟩ := mem_armRequests hbaseline
        exact ⟨c, hid, 0, index, rfl⟩
      · obtain ⟨index, rfl⟩ := mem_armRequests haction
        exact ⟨c, hid, 1000, index, rfl⟩
    have hkeys := List.pairwise_map.mp (caseArms_keys_nodup config h)
    apply hkeys.imp_of_mem
    intro item item' hitem hitem' hne requestId hrequest hrequest'
    obtain ⟨c, hid, offset, index, heq⟩ := hids item hitem requestId hrequest
    obtain ⟨c', hid', offset', index', heq'⟩ := hids item' hitem' requestId hrequest'
    apply hne
    rw [← hid, ← hid']
    exact (armRequestId_inj (heq.symm.trans heq')).1

end Ids

/-! ### The values of an arm -/

section Values

variable {config : ErsrEvaluation} {verifier : Verifier} {student : GenerateTokens}
  {tokenizer : Tokenizer} {outputs : List (PyStr × List Int)} {work : ErsrWork}

/-- Outputs that hold the student's answer to every request. -/
def Answers (student : GenerateTokens) (outputs : List (PyStr × List Int))
    (requests : List GenerationRequest) : Prop :=
  ∀ request ∈ requests, Dict.get? outputs request.requestId = some (answerWith student request)

theorem mapM_lookup {requests : List GenerationRequest} (h : Answers student outputs requests) :
    (requests.mapM fun request =>
      lookup outputs request.requestId (String.ofList request.requestId)) =
      .ok (requests.map (answerWith student)) := by
  rw [mapM_congr (g := fun request => pure (answerWith student request)), List.mapM_pure]
  · rfl
  · intro request hrequest
    unfold lookup
    rw [h request hrequest]
    rfl

theorem sum_toNat_empty (xs : List (List Int)) :
    (xs.map fun ids => (decide (ids.length = 0)).toNat).sum = (xs.filter (· = [])).length := by
  induction xs with
  | nil => rfl
  | cons ids xs ih =>
    rw [List.map_cons, List.sum_cons, ih]
    cases ids with
    | nil =>
      rw [List.filter_cons_of_pos (by simp), List.length_cons, Nat.add_comm]
      rfl
    | cons id ids =>
      rw [List.filter_cons_of_neg (by simp)]
      exact Nat.zero_add _

/-- The samples of an arm with room for a continuation. -/
theorem estimateValue_of_room {c : ErsrCase} {responsePrefix : List Int} {offset : Nat}
    (hroom : 0 < config.settings.maxResponseTokens - responsePrefix.length) :
    estimateValue verifier tokenizer config.settings student c responsePrefix offset = do
      let rewards ← ((armRequests config c responsePrefix offset).map (answerWith student)).mapM
        fun ids => rewardForContinuation verifier tokenizer responsePrefix ids c.answer none
      return (rewards.sum / config.settings.mcK,
        (((armRequests config c responsePrefix offset).map (answerWith student)).filter
          (· = [])).length) := by
  have hsample : ∀ index, sampleValue verifier tokenizer config.settings student c responsePrefix
      offset index = do
        let reward ← rewardForContinuation verifier tokenizer responsePrefix
          (answerWith student (armRequest config c responsePrefix offset index)) c.answer none
        return (reward, (decide ((answerWith student
          (armRequest config c responsePrefix offset index)).length = 0)).toNat) := by
    intro index
    unfold sampleValue
    dsimp only
    rw [if_neg (Int.not_le.mpr hroom)]
    rfl
  unfold estimateValue armRequests
  rw [if_neg (Int.not_le.mpr hroom), List.map_map, List.mapM_map, funext hsample, mapM_pair]
  have hrewardAt : (fun ids => rewardForContinuation verifier tokenizer responsePrefix ids c.answer
      none) ∘ answerWith student ∘ armRequest config c responsePrefix offset = fun index =>
        rewardForContinuation verifier tokenizer responsePrefix
          (answerWith student (armRequest config c responsePrefix offset index)) c.answer none := rfl
  rw [hrewardAt]
  cases hrewards : (List.range config.settings.mcK).mapM fun index =>
      rewardForContinuation verifier tokenizer responsePrefix
        (answerWith student (armRequest config c responsePrefix offset index)) c.answer none with
  | error error => rfl
  | ok rewards =>
    have hlength := mapM_length hrewards
    rw [ok_bind, pure_eq_ok, ok_bind, ok_bind]
    rw [List.map_fst_zip (by rw [hlength, List.length_map]),
      List.map_snd_zip (by rw [hlength, List.length_map])]
    have hempty := sum_toNat_empty ((List.range config.settings.mcK).map
      (answerWith student ∘ armRequest config c responsePrefix offset))
    rw [List.map_map] at hempty
    exact congrArg (fun count => Except.ok (rewards.sum / config.settings.mcK, count)) hempty

/-- The samples of an arm whose budget is exhausted. -/
theorem estimateValue_of_exhausted {c : ErsrCase} {responsePrefix : List Int} {offset : Nat}
    (hexhausted : config.settings.maxResponseTokens - responsePrefix.length ≤ 0) :
    estimateValue verifier tokenizer config.settings student c responsePrefix offset = do
      let value ← rewardForContinuation verifier tokenizer responsePrefix [] c.answer none
      return (value, config.settings.mcK) := by
  have hne : List.range config.settings.mcK ≠ [] := by
    rw [Ne, List.range_eq_nil]
    exact config.settings.mcK_pos.ne'
  unfold estimateValue
  rw [mapM_congr (g := fun _ => do
    let reward ← rewardForContinuation verifier tokenizer responsePrefix [] c.answer none
    return (reward, 1)), mapM_const _ hne]
  · cases rewardForContinuation verifier tokenizer responsePrefix [] c.answer none with
    | error error => rfl
    | ok value =>
      have hmcK : (config.settings.mcK : ℚ) ≠ 0 :=
        Nat.cast_ne_zero.mpr config.settings.mcK_pos.ne'
      simp [List.sum_replicate, hmcK]
  · intro index _
    unfold sampleValue
    dsimp only
    rw [if_pos hexhausted]
    rfl

/-- Read from the outputs of its requests, an arm has the value that its case has alone. -/
theorem armValue_eq {c : ErsrCase} {responsePrefix : List Int} {offset : Nat}
    (h : Answers student outputs (armRequests config c responsePrefix offset)) :
    armValue config verifier tokenizer outputs c
        ⟨responsePrefix, armRequests config c responsePrefix offset⟩ =
      estimateValue (verifier.forDataset c.dataset) tokenizer config.settings student c
        responsePrefix offset := by
  unfold armValue
  dsimp only
  rw [mapM_lookup h, ok_bind]
  rcases le_or_gt (config.settings.maxResponseTokens - responsePrefix.length) 0 with hroom | hroom
  · have hnone : armRequests config c responsePrefix offset = [] := if_pos hroom
    rw [estimateValue_of_exhausted hroom, hnone]
    rfl
  · have hsome : armRequests config c responsePrefix offset ≠ [] := by
      unfold armRequests
      rw [if_neg (Int.not_le.mpr hroom), Ne, List.map_eq_nil_iff, List.range_eq_nil]
      exact config.settings.mcK_pos.ne'
    rw [estimateValue_of_room hroom]
    simp only [if_neg hsome]
    rfl

/-- The result of a case from the outputs of the requests of its arms. -/
theorem studentResult_eq {c : ErsrCase} {action : List Int × Option (List Int)}
    (h : Answers student outputs (armsFor config c action.1).requests)
    (hreplacement : match c.actionType with
      | .studentAction => action.2 = none
      | .teacherReplace => ∃ replacement, action.2 = some replacement ∧
          Dict.get? work.replacements c.caseId = some replacement) :
    studentResult config verifier work outputs (c, armsFor config c action.1) =
      armsResult config verifier student work.tokenizer c action := by
  have hbaseline : Answers student outputs (armRequests config c c.before 0) :=
    fun request hrequest => h request (List.mem_append_left _ hrequest)
  have haction : Answers student outputs (armRequests config c action.1 1000) :=
    fun request hrequest => h request (List.mem_append_right _ hrequest)
  unfold studentResult armsResult estimateAdvantage armsFor
  dsimp only
  rw [armValue_eq hbaseline, armValue_eq haction]
  cases hkind : c.actionType with
  | studentAction =>
    rw [hkind] at hreplacement
    dsimp only at hreplacement ⊢
    rw [hreplacement]
    rfl
  | teacherReplace =>
    rw [hkind] at hreplacement
    obtain ⟨replacement, hsome, hget⟩ := hreplacement
    unfold lookup
    dsimp only
    rw [hget, hsome]
    rfl

end Values

/-! ### A whole work -/

section Work

variable {config : ErsrEvaluation} {verifier : Verifier} {student : GenerateTokens}
  {outcome : ErsrCase → Except PyError TeacherOutcome} {start work : ErsrWork}

/-- A work after the teacher phase. -/
structure Answered (config : ErsrEvaluation) (outcome : ErsrCase → Except PyError TeacherOutcome)
    (start work : ErsrWork) : Prop where
  prepared : start.Prepared config
  decided : Decided outcome (fun c => c ∈ start.cases ∧ c.actionType = .teacherReplace) start work
  complete : work.teacherComplete = true

theorem Answered.caseIds_nodup (h : Answered config outcome start work) :
    (work.cases.map ErsrCase.caseId).Nodup := by
  obtain ⟨_, hcases, _⟩ := h.prepared.actionTypes
  rw [h.decided.cases]
  exact hcases.caseIds_nodup

theorem Answered.caseId_inj (h : Answered config outcome start work) {c c' : ErsrCase}
    (hc : c ∈ work.cases) (hc' : c' ∈ work.cases) (heq : c.caseId = c'.caseId) : c = c' := by
  rw [h.decided.cases] at hc hc'
  exact h.prepared.caseId_inj hc hc' heq

/-- A case is marked invalid exactly when the teacher phase skipped it. -/
theorem Answered.mem_invalid (h : Answered config outcome start work) {c : ErsrCase}
    (hc : c ∈ work.cases) : c.caseId ∈ Dict.keys work.invalid ↔
      c.actionType = .teacherReplace ∧ (skipEntry outcome c).isSome := by
  constructor
  · intro hkey
    obtain ⟨item, hitem, heq⟩ := List.mem_map.mp hkey
    obtain ⟨c', ⟨hmem, haction⟩, hentry⟩ := (h.decided.invalid.mem item).mp hitem
    rw [h.decided.cases] at hc
    obtain rfl := h.prepared.caseId_inj hmem hc ((skipEntry_key hentry).trans heq)
    exact ⟨haction, hentry ▸ rfl⟩
  · rintro ⟨haction, hsome⟩
    obtain ⟨item, hentry⟩ := Option.isSome_iff_exists.mp hsome
    rw [skipEntry_key hentry]
    rw [h.decided.cases] at hc
    exact List.mem_map_of_mem ((h.decided.invalid.mem item).mpr ⟨c, ⟨hc, haction⟩, hentry⟩)

/-- The replacement of a case is the one that the teacher phase decided. -/
theorem Answered.get?_replacements (h : Answered config outcome start work) {c : ErsrCase}
    (hc : c ∈ work.cases) (haction : c.actionType = .teacherReplace) {replacement : List Int}
    (hdecision : outcome c = .ok (.replaced replacement)) :
    Dict.get? work.replacements c.caseId = some replacement := by
  rw [h.decided.cases] at hc
  apply h.decided.replacements.get?_eq_some.mpr
  refine ⟨c, ⟨hc, haction⟩, ?_⟩
  unfold replacementEntry
  rw [hdecision]

/-- The arms of a case are those of the decision of the teacher phase. -/
theorem Answered.armsOf_eq (h : Answered config outcome start work) {c : ErsrCase}
    (hc : c ∈ work.cases) : work.armsOf config c =
      (actionPrefix outcome c).map fun action => armsFor config c action.1 := by
  have hinvalid := h.mem_invalid hc
  unfold ErsrWork.armsOf actionPrefix
  cases haction : c.actionType with
  | studentAction =>
    rw [haction] at hinvalid
    rw [if_neg fun hkey => nomatch (hinvalid.mp hkey).1]
    rfl
  | teacherReplace =>
    have hmem : c ∈ start.cases := h.decided.cases ▸ hc
    obtain ⟨decision, hdecision⟩ := h.decided.returns c ⟨hmem, haction⟩
    rw [hdecision]
    unfold skipEntry at hinvalid
    rw [hdecision] at hinvalid
    cases decision with
    | skipped skipReason error =>
      rw [if_pos (hinvalid.mpr ⟨haction, rfl⟩)]
      rfl
    | replaced replacement =>
      have hget := h.get?_replacements hc haction hdecision
      dsimp only
      rw [if_neg fun hkey => nomatch (hinvalid.mp hkey).2]
      rw [hget]
      rfl

/-- `case_arms`, read by the id of a case. -/
theorem Answered.get?_caseArms (h : Answered config outcome start work) {c : ErsrCase}
    (hc : c ∈ work.cases) :
    Dict.get? (Dict.ofPairs (work.caseArms config)) c.caseId = work.armsOf config c := by
  have hnodup := caseArms_keys_nodup config h.caseIds_nodup
  rw [Dict.ofPairs_eq hnodup]
  cases harms : work.armsOf config c with
  | some arms => exact Dict.get?_of_mem hnodup (mem_caseArms.mpr ⟨c, hc, rfl, harms⟩)
  | none =>
    rw [Dict.get?_eq_none]
    intro hkey
    obtain ⟨item, hitem, heq⟩ := List.mem_map.mp hkey
    obtain ⟨c', hc', hid, harms'⟩ := mem_caseArms.mp hitem
    obtain rfl := h.caseId_inj hc' hc (hid.trans heq)
    rw [harms] at harms'
    cases harms'

/-- The cases that are not skipped, with the prefixes of their action arms. -/
def evaluatedCases (outcome : ErsrCase → Except PyError TeacherOutcome) (cases : List ErsrCase) :
    List (ErsrCase × List Int × Option (List Int)) :=
  cases.filterMap fun c => (actionPrefix outcome c).map fun action => (c, action)

theorem mem_evaluatedCases {cases : List ErsrCase}
    {item : ErsrCase × List Int × Option (List Int)} :
    item ∈ evaluatedCases outcome cases ↔
      item.1 ∈ cases ∧ actionPrefix outcome item.1 = some item.2 := by
  unfold evaluatedCases
  rw [List.mem_filterMap]
  constructor
  · rintro ⟨c, hc, hitem⟩
    obtain ⟨action, haction, rfl⟩ := Option.map_eq_some_iff.mp hitem
    exact ⟨hc, haction⟩
  · rintro ⟨hc, haction⟩
    exact ⟨item.1, hc, Option.map_eq_some_iff.mpr ⟨item.2, haction, rfl⟩⟩

/-- The student phase gives each evaluated case the result that it has alone. -/
theorem Answered.studentResults_eq (h : Answered config outcome start work) :
    studentResults config verifier student work = do
      let valid ← (evaluatedCases outcome work.cases).mapM fun item =>
        armsResult config verifier student work.tokenizer item.1 item.2
      return work.invalid.map Prod.snd ++ valid := by
  have hitems : (work.cases.filterMap fun c =>
      (Dict.get? (Dict.ofPairs (work.caseArms config)) c.caseId).map fun arms => (c, arms)) =
      (evaluatedCases outcome work.cases).map fun item => (item.1, armsFor config item.1 item.2.1) := by
    unfold evaluatedCases
    rw [List.map_filterMap]
    apply List.filterMap_congr
    intro c hc
    rw [h.get?_caseArms hc, h.armsOf_eq hc, Option.map_map, Option.map_map]
    rfl
  unfold studentResults
  rw [raiseIf_of_not (by rw [h.complete]; decide), ok_bind]
  dsimp only
  rw [hitems, List.mapM_map]
  congr 1
  apply mapM_congr
  intro item hitem
  obtain ⟨hc, haction⟩ := mem_evaluatedCases.mp hitem
  apply studentResult_eq
  · -- the requests of the case are among those of the phase
    intro request hrequest
    apply get?_generationPhase (studentRequestIds_nodup h.caseIds_nodup)
    refine List.mem_flatMap.mpr ⟨(item.1.caseId, armsFor config item.1 item.2.1), ?_, hrequest⟩
    refine mem_caseArms.mpr ⟨item.1, hc, rfl, ?_⟩
    rw [h.armsOf_eq hc, haction]
    rfl
  · unfold actionPrefix at haction
    cases hkind : item.1.actionType with
    | studentAction =>
      rw [hkind] at haction
      exact (congrArg Prod.snd (Option.some.inj haction)).symm
    | teacherReplace =>
      rw [hkind] at haction
      dsimp only at haction ⊢
      split at haction
      · rename_i replacement hdecision
        refine ⟨replacement, ?_, h.get?_replacements hc hkind hdecision⟩
        exact (congrArg Prod.snd (Option.some.inj haction)).symm
      · cases haction

/-- The marker of a case that asked for a teacher and was skipped. -/
def skipOf (outcome : ErsrCase → Except PyError TeacherOutcome) (c : ErsrCase) :
    Option (PyStr × ErsrResult) :=
  if c.actionType = .teacherReplace then skipEntry outcome c else none

variable (config verifier student) in
/-- A decided case is evaluated, or it is skipped with its marker as its result. -/
theorem evaluated_or_skipped {c : ErsrCase} (tokenizer : Tokenizer)
    (hreturns : c.actionType = .teacherReplace → Returns (outcome c)) :
    (∃ action, actionPrefix outcome c = some action ∧ skipOf outcome c = none ∧
      caseResult config verifier student outcome tokenizer c =
        armsResult config verifier student tokenizer c action) ∨
    ∃ result, actionPrefix outcome c = none ∧ skipOf outcome c = some (c.caseId, result) ∧
      caseResult config verifier student outcome tokenizer c = .ok result := by
  unfold actionPrefix skipOf caseResult skipEntry
  cases haction : c.actionType with
  | studentAction => exact .inl ⟨_, rfl, rfl, rfl⟩
  | teacherReplace =>
    obtain ⟨decision, hdecision⟩ := hreturns haction
    rw [hdecision]
    cases decision with
    | skipped skipReason error => exact .inr ⟨_, rfl, rfl, rfl⟩
    | replaced replacement => exact .inl ⟨_, rfl, rfl, rfl⟩

/-- The results of all cases are the markers of the skipped ones and the results of the
    others. -/
theorem mapM_caseResult {tokenizer : Tokenizer} {cases : List ErsrCase}
    (hreturns : ∀ c ∈ cases, c.actionType = .teacherReplace → Returns (outcome c))
    {valid : List ErsrResult} (h : ((evaluatedCases outcome cases).mapM fun item =>
      armsResult config verifier student tokenizer item.1 item.2) = .ok valid) :
    ∃ all, cases.mapM (caseResult config verifier student outcome tokenizer) = .ok all ∧
      ((cases.filterMap (skipOf outcome)).map Prod.snd ++ valid).Perm all := by
  induction cases generalizing valid with
  | nil =>
    obtain rfl := Except.ok.inj h
    exact ⟨[], rfl, List.Perm.refl _⟩
  | cons c cases ih =>
    have hrest : ∀ c' ∈ cases, c'.actionType = .teacherReplace → Returns (outcome c') :=
      fun c' hc' => hreturns c' (List.mem_cons_of_mem c hc')
    rcases evaluated_or_skipped config verifier student tokenizer
      (hreturns c List.mem_cons_self) with ⟨action, haction, hskip, hresult⟩ |
        ⟨result, haction, hskip, hresult⟩
    · unfold evaluatedCases at h
      rw [List.filterMap_cons, haction, Option.map_some] at h
      dsimp only at h
      rw [List.mapM_cons] at h
      obtain ⟨first, hfirst, h⟩ := bind_eq_ok.mp h
      obtain ⟨others, hothers, h⟩ := bind_eq_ok.mp h
      obtain rfl := Except.ok.inj h
      obtain ⟨all, hall, hperm⟩ := ih hrest hothers
      refine ⟨first :: all, ?_, ?_⟩
      · rw [List.mapM_cons, hresult, hfirst, ok_bind, hall]
        rfl
      · rw [List.filterMap_cons, hskip]
        exact List.perm_middle.trans (hperm.cons first)
    · unfold evaluatedCases at h
      rw [List.filterMap_cons, haction, Option.map_none] at h
      obtain ⟨all, hall, hperm⟩ := ih hrest h
      refine ⟨result :: all, ?_, ?_⟩
      · rw [List.mapM_cons, hresult, ok_bind, hall]
        rfl
      · rw [List.filterMap_cons, hskip]
        exact hperm.cons result

/-- The markers of a work are those of its skipped cases. -/
theorem Answered.invalid_perm (h : Answered config outcome start work) :
    work.invalid.Perm (work.cases.filterMap (skipOf outcome)) := by
  have hskips : ((work.cases.filterMap (skipOf outcome)).map Prod.fst).Nodup := by
    unfold List.Nodup
    rw [List.pairwise_map, List.pairwise_filterMap]
    apply (List.pairwise_map.mp h.caseIds_nodup).imp
    intro c c' hne item hitem item' hitem'
    unfold skipOf at hitem hitem'
    split at hitem
    · split at hitem'
      · rw [← skipEntry_key hitem, ← skipEntry_key hitem']
        exact hne
      · cases hitem'
    · cases hitem
  rw [List.perm_ext_iff_of_nodup h.decided.invalid.nodup.of_map hskips.of_map]
  intro item
  rw [h.decided.invalid.mem, List.mem_filterMap, h.decided.cases]
  apply exists_congr
  intro c
  unfold skipOf
  rw [and_assoc]
  apply and_congr_right
  intro _
  constructor
  · rintro ⟨haction, hentry⟩
    rw [if_pos haction]
    exact hentry
  · intro hentry
    split at hentry
    · exact ⟨‹_›, hentry⟩
    · cases hentry

theorem Answered.returns (h : Answered config outcome start work) :
    ∀ c ∈ work.cases, c.actionType = .teacherReplace → Returns (outcome c) := by
  intro c hc haction
  rw [h.decided.cases] at hc
  exact h.decided.returns c ⟨hc, haction⟩

/-- **The results of a work are those of its cases, one for each.** -/
theorem Answered.results_perm (h : Answered config outcome start work)
    {results : List ErsrResult} (hresults : studentResults config verifier student work = .ok results) :
    ∃ all, work.cases.mapM (caseResult config verifier student outcome work.tokenizer) = .ok all ∧
      results.Perm all := by
  rw [h.studentResults_eq] at hresults
  obtain ⟨valid, hvalid, hresults⟩ := bind_eq_ok.mp hresults
  obtain rfl := Except.ok.inj hresults
  obtain ⟨all, hall, hperm⟩ := mapM_caseResult h.returns hvalid
  exact ⟨all, hall, ((h.invalid_perm.map Prod.snd).append_right valid).trans hperm⟩

/-- A student phase returns when the results of its cases do. -/
theorem Answered.returns_studentResults (h : Answered config outcome start work)
    (hresults : ∀ c ∈ work.cases,
      Returns (caseResult config verifier student outcome work.tokenizer c)) :
    Returns (studentResults config verifier student work) := by
  rw [h.studentResults_eq]
  obtain ⟨valid, hvalid⟩ : Returns ((evaluatedCases outcome work.cases).mapM fun item =>
      armsResult config verifier student work.tokenizer item.1 item.2) := by
    apply returns_mapM
    intro item hitem
    obtain ⟨hc, haction⟩ := mem_evaluatedCases.mp hitem
    rcases evaluated_or_skipped config verifier student work.tokenizer (h.returns item.1 hc) with
      ⟨action, haction', _, heq⟩ | ⟨_, hnone, _, _⟩
    · obtain rfl := Option.some.inj (haction.symm.trans haction')
      rw [← heq]
      exact hresults item.1 hc
    · rw [haction] at hnone
      cases hnone
  rw [hvalid]
  exact ⟨_, rfl⟩

end Work

end R2opl
