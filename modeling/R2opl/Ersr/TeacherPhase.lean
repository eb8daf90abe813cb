import R2opl.Ersr.Standalone

/-!
# What the teacher phase decides

Whatever the order in which the teachers answer, every case that asks for a teacher is
decided by its own budget and its own proposal: it is marked as skipped in its work, or its
replacement is recorded there.
-/

namespace R2opl

open Checked

/-! ### Decisions -/

inductive TeacherOutcome where
  | skipped (skipReason : String) (error : Option String)
  | replaced (replacement : List Int)

def ErsrWork.record (work : ErsrWork) (c : ErsrCase) : TeacherOutcome → ErsrWork
  | .skipped skipReason error => work.markInvalid c skipReason error
  | .replaced replacement => work.recordReplacement c replacement

section Outcome

variable (config : ErsrEvaluation) (detectors : Detectors)
  (proposals : ModelSpec → GenerateTokens) (onSplitError : Option (PyError → String))

/-- What a proposal decides. -/
def proposalOutcome (tokenizer : Tokenizer) (proposal : List Int) :
    Except PyError TeacherOutcome :=
  match firstReplacementStepIds detectors proposal tokenizer with
  | .error error =>
      match onSplitError with
      | none => .error error
      | some text => .ok (.skipped "teacher_split_error" (some (text error)))
  | .ok replacement =>
      if replacement = [] then .ok (.skipped "empty_teacher_replacement" none)
      else .ok (.replaced replacement)

/-- What is decided about a case, with its teacher. -/
def ErsrWork.outcomeOf (work : ErsrWork) (teacher : ModelSpec) (c : ErsrCase) :
    Except PyError TeacherOutcome :=
  if teacherBudget config.settings c ≤ 0 then .ok (.skipped "no_teacher_budget" none)
  else proposalOutcome detectors onSplitError work.tokenizer
    (proposals teacher (c.promptIds ++ c.before) (teacherBudget config.settings c) (c.seed + 5000))

/-- What is decided about a case of a work that asks for a teacher. -/
def ErsrWork.teacherOutcome (work : ErsrWork) (c : ErsrCase) : Except PyError TeacherOutcome := do
  match ← ersrTeacherForModel config work.model with
  | none => .error (valueError "Teacher-replacement ERSR requires teacher_generate")
  | some teacher => work.outcomeOf config detectors proposals onSplitError teacher c

theorem applyProposal_eq (c : ErsrCase) (proposal : List Int) (work : ErsrWork) :
    applyProposal detectors onSplitError c proposal work =
      (proposalOutcome detectors onSplitError work.tokenizer proposal).map (work.record c) := by
  unfold applyProposal proposalOutcome
  cases firstReplacementStepIds detectors proposal work.tokenizer with
  | error error =>
    cases onSplitError with
    | none => rfl
    | some text => rfl
  | ok replacement =>
    dsimp only
    split
    · rfl
    · rfl

end Outcome

/-! ### The markers and replacements of a work -/

section Decide

variable (outcome : ErsrCase → Except PyError TeacherOutcome)

/-- The marker of a case that is skipped. -/
def skipEntry (c : ErsrCase) : Option (PyStr × ErsrResult) :=
  match outcome c with
  | .ok (.skipped skipReason error) => some (c.caseId, c.result (.skipped skipReason error))
  | _ => none

/-- The replacement of a case that has one. -/
def replacementEntry (c : ErsrCase) : Option (PyStr × List Int) :=
  match outcome c with
  | .ok (.replaced replacement) => some (c.caseId, replacement)
  | _ => none

/-- A work in which exactly the cases `done` are decided. -/
structure Decided (done : ErsrCase → Prop) (start work : ErsrWork) : Prop where
  model : work.model = start.model
  tokenizer : work.tokenizer = start.tokenizer
  cases : work.cases = start.cases
  document : work.document = start.document
  mem : ∀ c, done c → c ∈ start.cases
  returns : ∀ c, done c → Returns (outcome c)
  invalid : Dict.Holds work.invalid done (skipEntry outcome)
  replacements : Dict.Holds work.replacements done (replacementEntry outcome)

variable {outcome} {done done' : ErsrCase → Prop} {start work : ErsrWork} {c : ErsrCase}

theorem skipEntry_key {result : PyStr × ErsrResult} (h : skipEntry outcome c = some result) :
    c.caseId = result.1 := by
  unfold skipEntry at h
  split at h
  · exact congrArg Prod.fst (Option.some.inj h)
  · cases h

theorem replacementEntry_key {item : PyStr × List Int}
    (h : replacementEntry outcome c = some item) : c.caseId = item.1 := by
  unfold replacementEntry at h
  split at h
  · exact congrArg Prod.fst (Option.some.inj h)
  · cases h

theorem Decided.congr (h : Decided outcome done start work) (hdone : ∀ c, done c ↔ done' c) :
    Decided outcome done' start work := by
  obtain rfl : done = done' := funext fun c => propext (hdone c)
  exact h

theorem Decided.nothing (hinvalid : start.invalid = []) (hreplacements : start.replacements = []) :
    Decided outcome (fun _ => False) start start where
  model := rfl
  tokenizer := rfl
  cases := rfl
  document := rfl
  mem := fun _ hdone => hdone.elim
  returns := fun _ hdone => hdone.elim
  invalid := hinvalid ▸ .nothing
  replacements := hreplacements ▸ .nothing

/-- One more case is decided. -/
theorem Decided.record (h : Decided outcome done start work) {decision : TeacherOutcome}
    (hmem : c ∈ start.cases) (hout : outcome c = .ok decision)
    (hid : ∀ c', done c' → c'.caseId = c.caseId → c' = c) :
    Decided outcome (fun c' => done c' ∨ c' = c) start (work.record c decision) := by
  have hmem' : ∀ c', done c' ∨ c' = c → c' ∈ start.cases := by
    rintro c' (hdone | rfl)
    · exact h.mem c' hdone
    · exact hmem
  have hreturns : ∀ c', done c' ∨ c' = c → Returns (outcome c') := by
    rintro c' (hdone | rfl)
    · exact h.returns c' hdone
    · exact ⟨decision, hout⟩
  cases decision with
  | skipped skipReason error =>
    have hskip : skipEntry outcome c = some (c.caseId, c.result (.skipped skipReason error)) := by
      unfold skipEntry
      rw [hout]
    have hreplacement : replacementEntry outcome c = none := by
      unfold replacementEntry
      rw [hout]
    exact { h with
      mem := hmem'
      returns := hreturns
      invalid := h.invalid.set hskip fun c' hdone _ hentry => hid c' hdone (skipEntry_key hentry)
      replacements := h.replacements.skip hreplacement }
  | replaced replacement =>
    have hskip : skipEntry outcome c = none := by
      unfold skipEntry
      rw [hout]
    have hreplacement : replacementEntry outcome c = some (c.caseId, replacement) := by
      unfold replacementEntry
      rw [hout]
    exact { h with
      mem := hmem'
      returns := hreturns
      invalid := h.invalid.skip hskip
      replacements := h.replacements.set hreplacement fun c' hdone _ hentry =>
        hid c' hdone (replacementEntry_key hentry) }

end Decide

/-! ### The first loop -/

section Plan

variable (config : ErsrEvaluation)

/-- What `prepare_ersr` leaves. -/
structure ErsrWork.Prepared (work : ErsrWork) : Prop where
  actionTypes : ∃ actionTypes, CaseList config.settings actionTypes work.cases ∧
    ∀ actionType ∈ actionTypes, actionType ∈ config.actions
  teacher : Returns (ersrTeacherForModel config work.model)
  invalid : work.invalid = []
  replacements : work.replacements = []

def ErsrCase.Exhausted (c : ErsrCase) : Prop :=
  c.actionType = .teacherReplace ∧ teacherBudget config.settings c ≤ 0

def ErsrCase.Waits (c : ErsrCase) : Prop :=
  c.actionType = .teacherReplace ∧ 0 < teacherBudget config.settings c

instance (c : ErsrCase) : Decidable (c.Waits config) := inferInstanceAs (Decidable (_ ∧ _))

def teacherRow (workIndex : Nat) (model : ModelSpec) (c : ErsrCase) : TeacherRow :=
  ⟨workIndex, c, teacherRequest config workIndex model c⟩

/-- The requests for a work, with their teacher. -/
def plannedRows (indexed : ErsrWork × Nat) : List (ModelSpec × TeacherRow) :=
  match ersrTeacherForModel config indexed.1.model with
  | .ok (some teacher) => (indexed.1.cases.filter fun c => c.Waits config).map fun c =>
      (teacher, teacherRow config indexed.2 indexed.1.model c)
  | _ => []

variable {config} {start work : ErsrWork}

theorem ErsrWork.Prepared.caseId_inj (h : work.Prepared config) {c c' : ErsrCase}
    (hc : c ∈ work.cases) (hc' : c' ∈ work.cases) (heq : c.caseId = c'.caseId) : c = c' := by
  obtain ⟨_, hcases, _⟩ := h.actionTypes
  exact hcases.caseId_inj hc hc' heq

theorem ErsrWork.Prepared.action_mem (h : work.Prepared config) {c : ErsrCase}
    (hc : c ∈ work.cases) : c.actionType ∈ config.actions := by
  obtain ⟨_, hcases, hactions⟩ := h.actionTypes
  exact hactions _ (hcases.valid c hc).action_mem

/-- Without a teacher no case asks for one. -/
theorem ErsrWork.Prepared.no_teacher (h : work.Prepared config)
    (hteacher : ersrTeacherForModel config work.model = .ok none) {c : ErsrCase}
    (hc : c ∈ work.cases) : c.actionType ≠ .teacherReplace := by
  intro haction
  have hmem := h.action_mem hc
  rw [haction] at hmem
  unfold ersrTeacherForModel at hteacher
  rw [if_neg (not_not.mpr hmem)] at hteacher
  split at hteacher
  · split at hteacher <;> cases hteacher
  · cases hteacher

theorem mem_append_singleton_and {done : List ErsrCase} {c c' : ErsrCase} {p : ErsrCase → Prop} :
    c' ∈ done ++ [c] ∧ p c' ↔ (c' ∈ done ∧ p c') ∨ c' = c ∧ p c := by
  rw [List.mem_append, List.mem_singleton, or_and_right]
  apply or_congr_right
  constructor
  · rintro ⟨rfl, hp⟩
    exact ⟨rfl, hp⟩
  · rintro ⟨rfl, hp⟩
    exact ⟨rfl, hp⟩

/-- The cases of a work, one after the other. -/
theorem foldl_planCase (teacher : ModelSpec) (workIndex : Nat)
    {outcome : ErsrCase → Except PyError TeacherOutcome} (h : start.Prepared config)
    (hout : ∀ c ∈ start.cases, c.Exhausted config →
      outcome c = .ok (.skipped "no_teacher_budget" none))
    {groups : TeacherGroups} {rows : List (ModelSpec × TeacherRow)}
    (hgroups : Dict.Grouped groups rows) :
    let final := start.cases.foldl (planCase config teacher workIndex) (start, groups)
    Decided outcome (fun c => c ∈ start.cases ∧ c.Exhausted config) start final.1 ∧
      Dict.Grouped final.2 (rows ++ (start.cases.filter fun c => c.Waits config).map fun c =>
        (teacher, teacherRow config workIndex start.model c)) := by
  apply foldl_accumulates (P := fun done (state : ErsrWork × TeacherGroups) =>
    Decided outcome (fun c => c ∈ done ∧ c.Exhausted config) start state.1 ∧
      Dict.Grouped state.2 (rows ++ (done.filter fun c => c.Waits config).map fun c =>
        (teacher, teacherRow config workIndex start.model c)))
  · intro done state c hc hP
    obtain ⟨hwork, hgroups⟩ := hP
    unfold planCase
    rw [List.filter_append, List.map_append, ← List.append_assoc]
    by_cases haction : c.actionType = .teacherReplace
    · rw [if_neg (not_not.mpr haction)]
      by_cases hbudget : teacherBudget config.settings c ≤ 0
      · have hwaits : ¬ c.Waits config := fun hwaits => absurd hwaits.2 (Int.not_lt.mpr hbudget)
        rw [if_pos hbudget, List.filter_cons_of_neg (by simpa using hwaits), List.filter_nil,
          List.map_nil, List.append_nil]
        refine ⟨?_, hgroups⟩
        have hrecord := hwork.record hc (hout c hc ⟨haction, hbudget⟩) fun c' hdone heq =>
          h.caseId_inj (hwork.mem c' hdone) hc heq
        apply hrecord.congr
        intro c'
        rw [mem_append_singleton_and]
        exact or_congr_right (iff_self_and.mpr fun _ => ⟨haction, hbudget⟩)
      · have hexhausted : ¬ c.Exhausted config := fun hexhausted => hbudget hexhausted.2
        have hwaits : c.Waits config := ⟨haction, Int.not_le.mp hbudget⟩
        rw [if_neg hbudget, List.filter_cons_of_pos (by simpa using hwaits), List.filter_nil,
          hwork.model]
        refine ⟨?_, hgroups.push _ _⟩
        apply hwork.congr
        intro c'
        rw [mem_append_singleton_and]
        exact (or_iff_left fun hnew => hexhausted hnew.2).symm
    · have hexhausted : ¬ c.Exhausted config := fun hexhausted => haction hexhausted.1
      have hwaits : ¬ c.Waits config := fun hwaits => haction hwaits.1
      rw [if_pos haction, List.filter_cons_of_neg (by simpa using hwaits), List.filter_nil,
        List.map_nil, List.append_nil]
      refine ⟨?_, hgroups⟩
      apply hwork.congr
      intro c'
      rw [mem_append_singleton_and]
      exact (or_iff_left fun hnew => hexhausted hnew.2).symm
  · refine ⟨?_, ?_⟩
    · apply (Decided.nothing h.invalid h.replacements).congr
      exact fun c => (iff_false_intro fun hnil => List.not_mem_nil hnil.1).symm
    · rw [List.filter_nil, List.map_nil, List.append_nil]
      exact hgroups

variable (detectors : Detectors) (proposals : ModelSpec → GenerateTokens)
  (onSplitError : Option (PyError → String))

theorem teacherOutcome_exhausted {teacher : ModelSpec}
    (hteacher : ersrTeacherForModel config work.model = .ok (some teacher)) {c : ErsrCase}
    (hc : c.Exhausted config) :
    work.teacherOutcome config detectors proposals onSplitError c =
      .ok (.skipped "no_teacher_budget" none) := by
  unfold ErsrWork.teacherOutcome ErsrWork.outcomeOf
  rw [hteacher, ok_bind]
  exact if_pos hc.2

theorem teacherOutcome_waits {teacher : ModelSpec}
    (hteacher : ersrTeacherForModel config work.model = .ok (some teacher)) {c : ErsrCase}
    (hc : c.Waits config) (workIndex : Nat) :
    work.teacherOutcome config detectors proposals onSplitError c =
      proposalOutcome detectors onSplitError work.tokenizer
        (answerWith (proposals teacher) (teacherRequest config workIndex work.model c)) := by
  unfold ErsrWork.teacherOutcome ErsrWork.outcomeOf
  rw [hteacher, ok_bind]
  exact if_neg (Int.not_le.mpr hc.2)

variable (config) in
/-- The works of a run, each with its own cases decided. -/
structure AllDecided (done : Nat → ErsrCase → Prop) (starts works : List ErsrWork) : Prop where
  length : works.length = starts.length
  decided : ∀ i start work, starts[i]? = some start → works[i]? = some work →
    Decided (start.teacherOutcome config detectors proposals onSplitError) (done i) start work

variable {detectors proposals onSplitError} {works : List ErsrWork}
  {final : List ErsrWork × TeacherGroups}

theorem Decided.complete {outcome : ErsrCase → Except PyError TeacherOutcome}
    {done : ErsrCase → Prop} (h : Decided outcome done start work) :
    Decided outcome done start { work with teacherComplete := true } :=
  { h with }

/-- One work of the first loop. -/
theorem planWork_decided {indexed : ErsrWork × Nat} (h : indexed.1.Prepared config)
    {planned : List ErsrWork} {groups : TeacherGroups} {rows : List (ModelSpec × TeacherRow)}
    (hgroups : Dict.Grouped groups rows)
    (hstep : planWork config (planned, groups) indexed = .ok final) :
    ∃ work, final.1 = planned ++ [work] ∧
      Decided (indexed.1.teacherOutcome config detectors proposals onSplitError)
        (fun c => c ∈ indexed.1.cases ∧ c.Exhausted config) indexed.1 work ∧
      Dict.Grouped final.2 (rows ++ plannedRows config indexed) := by
  obtain ⟨work, workIndex⟩ := indexed
  unfold planWork at hstep
  obtain ⟨teacher, hteacher, hstep⟩ := bind_eq_ok.mp hstep
  unfold plannedRows
  dsimp only at h hteacher ⊢
  rw [hteacher]
  cases teacher with
  | none =>
    obtain rfl := Except.ok.inj hstep
    refine ⟨_, rfl, ?_, ?_⟩
    · apply ((Decided.nothing h.invalid h.replacements).complete).congr
      intro c
      exact (iff_false_intro fun hc => h.no_teacher hteacher hc.1 hc.2.1).symm
    · rw [List.append_nil]
      exact hgroups
  | some teacher =>
    obtain rfl := Except.ok.inj hstep
    obtain ⟨hwork, hrows⟩ := foldl_planCase teacher workIndex h
      (fun c _ hc => teacherOutcome_exhausted detectors proposals onSplitError hteacher hc) hgroups
    exact ⟨_, rfl, hwork, hrows⟩

variable (detectors proposals onSplitError) in
/-- The first loop decides the exhausted budgets and asks the teachers for all other cases. -/
theorem planTeachers_decided (h : ∀ work ∈ works, work.Prepared config)
    (hplan : planTeachers config works = .ok final) :
    AllDecided config detectors proposals onSplitError
      (fun i c => ∃ start, works[i]? = some start ∧ c ∈ start.cases ∧ c.Exhausted config)
      works final.1 ∧
    Dict.Grouped final.2 (works.zipIdx.flatMap (plannedRows config)) := by
  have hall := foldlM_accumulates (P := fun done (state : List ErsrWork × TeacherGroups) =>
      List.Forall₂ (fun indexed work =>
        Decided (indexed.1.teacherOutcome config detectors proposals onSplitError)
          (fun c => c ∈ indexed.1.cases ∧ c.Exhausted config) indexed.1 work) done state.1 ∧
      Dict.Grouped state.2 (done.flatMap (plannedRows config))) ?_ ?_ hplan
  · obtain ⟨hworks, hgroups⟩ := hall
    refine ⟨⟨?_, ?_⟩, hgroups⟩
    · have hlength := hworks.length_eq
      rw [List.length_zipIdx] at hlength
      exact hlength.symm
    · intro i start work hstart hwork
      have hi : i < works.zipIdx.length := by
        rw [List.length_zipIdx]
        exact (List.getElem?_eq_some_iff.mp hstart).1
      have hdecided := hworks.get hi (List.getElem?_eq_some_iff.mp hwork).1
      simp only [List.get_eq_getElem, List.getElem_zipIdx] at hdecided
      rw [(List.getElem?_eq_some_iff.mp hstart).2, (List.getElem?_eq_some_iff.mp hwork).2]
        at hdecided
      apply hdecided.congr
      intro c
      constructor
      · exact fun hc => ⟨start, hstart, hc⟩
      · rintro ⟨start', hstart', hc⟩
        obtain rfl := Option.some.inj (hstart.symm.trans hstart')
        exact hc
  · intro done state indexed next hindexed hP hstep
    obtain ⟨hworks, hgroups⟩ := hP
    have hprepared := h indexed.1 (List.fst_mem_of_mem_zipIdx hindexed)
    obtain ⟨work, hnext, hwork, hrows⟩ := planWork_decided hprepared hgroups hstep
    refine ⟨?_, ?_⟩
    · rw [hnext]
      exact List.rel_append hworks (.cons hwork .nil)
    · rw [List.flatMap_append, List.flatMap_cons, List.flatMap_nil, List.append_nil]
      exact hrows
  · exact ⟨.nil, List.nodup_nil, List.Perm.refl _⟩

/-! ### Request ids -/

theorem teacherRequestId_inj {i i' : Nat} {model model' : ModelSpec} {c c' : ErsrCase}
    (h : teacherRequestId i model c = teacherRequestId i' model' c') :
    i = i' ∧ (model = model' → c.caseId = c'.caseId) := by
  unfold teacherRequestId at h
  simp only [List.append_assoc, List.cons_append] at h
  obtain ⟨hindex, hrest⟩ := Separated.left_inj (colon_not_mem_natText i) (colon_not_mem_natText i')
    (List.append_cancel_left h)
  refine ⟨natText_injective hindex, ?_⟩
  rintro rfl
  exact (List.cons.inj (List.append_cancel_left hrest)).2

/-- A planned request is of a waiting case of its work. -/
theorem mem_plannedRows {indexed : ErsrWork × Nat} {item : ModelSpec × TeacherRow}
    (h : item ∈ plannedRows config indexed) :
    ersrTeacherForModel config indexed.1.model = .ok (some item.1) ∧
      ∃ c ∈ indexed.1.cases, c.Waits config ∧
        item.2 = teacherRow config indexed.2 indexed.1.model c := by
  unfold plannedRows at h
  split at h
  · rename_i teacher hteacher
    obtain ⟨c, hc, rfl⟩ := List.mem_map.mp h
    obtain ⟨hmem, hwaits⟩ := List.mem_filter.mp hc
    exact ⟨hteacher, c, hmem, of_decide_eq_true hwaits, rfl⟩
  · exact absurd h List.not_mem_nil

/-- All requests for teachers have different ids. -/
theorem plannedRequestIds_nodup (h : ∀ work ∈ works, work.Prepared config) :
    ((works.zipIdx.flatMap (plannedRows config)).map fun item =>
      item.2.request.requestId).Nodup := by
  rw [List.map_flatMap, List.nodup_flatMap]
  constructor
  · intro indexed hindexed
    have hprepared := h indexed.1 (List.fst_mem_of_mem_zipIdx hindexed)
    obtain ⟨_, hcases, _⟩ := hprepared.actionTypes
    unfold plannedRows
    split
    · rw [List.map_map]
      apply ((hcases.caseIds_nodup.of_map).filter _).map_on
      intro c hc c' hc' heq
      exact hprepared.caseId_inj (List.mem_filter.mp hc).1 (List.mem_filter.mp hc').1
        ((teacherRequestId_inj heq).2 rfl)
    · exact List.nodup_nil
  · have hindices : works.zipIdx.Pairwise fun a b => a.2 ≠ b.2 := by
      rw [← List.pairwise_map, List.zipIdx_map_snd]
      exact List.nodup_range'
    apply hindices.imp
    intro a b hne requestId ha hb
    obtain ⟨item, hitem, rfl⟩ := List.mem_map.mp ha
    obtain ⟨other, hother, hsame⟩ := List.mem_map.mp hb
    obtain ⟨_, c, _, _, hrow⟩ := mem_plannedRows hitem
    obtain ⟨_, c', _, _, hrow'⟩ := mem_plannedRows hother
    rw [hrow, hrow'] at hsame
    exact hne (teacherRequestId_inj hsame).1.symm

/-! ### The second loop -/

variable (detectors onSplitError) in
theorem applyRow_eq {outputs : List (PyStr × List Int)} {row : TeacherRow} {proposal : List Int}
    (hwork : works[row.workIndex]? = some work)
    (hget : Dict.get? outputs row.request.requestId = some proposal) :
    applyRow detectors onSplitError outputs works row =
      (proposalOutcome detectors onSplitError work.tokenizer proposal).map fun decision =>
        works.set row.workIndex (work.record row.case decision) := by
  unfold applyRow updateWork lookup
  rw [hwork, hget]
  dsimp only
  rw [ok_bind, applyProposal_eq]
  cases proposalOutcome detectors onSplitError work.tokenizer proposal <;> rfl

variable {starts : List ErsrWork} {done : Nat → ErsrCase → Prop} {teacher : ModelSpec}
  {row : TeacherRow} {outputs : List (PyStr × List Int)}

variable (detectors proposals onSplitError) in
/-- A planned row, in terms of the work that it belongs to. -/
theorem exists_of_mem_planned (hrow : (teacher, row) ∈ starts.zipIdx.flatMap (plannedRows config)) :
    ∃ start, starts[row.workIndex]? = some start ∧ start ∈ starts ∧ row.case ∈ start.cases ∧
      row.case.Waits config ∧
      start.teacherOutcome config detectors proposals onSplitError row.case =
        proposalOutcome detectors onSplitError start.tokenizer
          (answerWith (proposals teacher) row.request) := by
  obtain ⟨⟨start, workIndex⟩, hindexed, hplanned⟩ := List.mem_flatMap.mp hrow
  obtain ⟨hteacher, c, hc, hwaits, heq⟩ := mem_plannedRows hplanned
  dsimp only at hteacher hc heq
  subst heq
  refine ⟨start, ?_, List.fst_mem_of_mem_zipIdx hindexed, hc, hwaits, ?_⟩
  · exact List.mem_zipIdx_iff_getElem?.mp hindexed
  · exact teacherOutcome_waits detectors proposals onSplitError hteacher hwaits workIndex

/-- One row: it returns when its case can be decided, and then decides this case alone. -/
theorem AllDecided.applyRow (hstarts : ∀ start ∈ starts, start.Prepared config)
    (h : AllDecided config detectors proposals onSplitError done starts works)
    (hrow : (teacher, row) ∈ starts.zipIdx.flatMap (plannedRows config))
    (hget : Dict.get? outputs row.request.requestId =
      some (answerWith (proposals teacher) row.request)) :
    ∃ start, starts[row.workIndex]? = some start ∧
      (Returns (start.teacherOutcome config detectors proposals onSplitError row.case) →
        Returns (R2opl.applyRow detectors onSplitError outputs works row)) ∧
      ∀ next, R2opl.applyRow detectors onSplitError outputs works row = .ok next →
        AllDecided config detectors proposals onSplitError
          (fun i c => done i c ∨ i = row.workIndex ∧ c = row.case) starts next := by
  obtain ⟨start, hstart, hmem, hc, _, hout⟩ := exists_of_mem_planned detectors proposals onSplitError hrow
  have hlength : row.workIndex < works.length := by
    rw [h.length]
    exact (List.getElem?_eq_some_iff.mp hstart).1
  have hwork := List.getElem?_eq_getElem hlength
  have hdecided := h.decided _ start _ hstart hwork
  have happly := applyRow_eq detectors onSplitError hwork hget
  rw [hdecided.tokenizer, ← hout] at happly
  refine ⟨start, hstart, ?_, ?_⟩
  · rintro ⟨decision, hdecision⟩
    rw [happly, hdecision]
    exact ⟨_, rfl⟩
  · intro next hnext
    rw [happly] at hnext
    cases hdecision : start.teacherOutcome config detectors proposals onSplitError row.case with
    | error error =>
      rw [hdecision] at hnext
      cases hnext
    | ok decision =>
      rw [hdecision] at hnext
      obtain rfl := Except.ok.inj hnext
      refine ⟨?_, ?_⟩
      · rw [List.length_set]
        exact h.length
      · intro i start' work hstart' hwork'
        rw [List.getElem?_set] at hwork'
        split at hwork'
        · rename_i hi
          subst hi
          obtain rfl := Option.some.inj hwork'
          obtain rfl := Option.some.inj (hstart.symm.trans hstart')
          have hrecord := hdecided.record hc hdecision fun c' hdone heq =>
            (hstarts start hmem).caseId_inj (hdecided.mem c' hdone) hc heq
          exact hrecord.congr fun c' => or_congr_right (and_iff_right rfl).symm
        · rename_i hi
          apply (h.decided i start' work hstart' hwork').congr
          intro c'
          exact (or_iff_left fun hnew => hi hnew.1.symm).symm

theorem AllDecided.congr {done' : Nat → ErsrCase → Prop}
    (h : AllDecided config detectors proposals onSplitError done starts works)
    (hdone : ∀ i c, done i c ↔ done' i c) :
    AllDecided config detectors proposals onSplitError done' starts works :=
  ⟨h.length, fun i start work hstart hwork => (h.decided i start work hstart hwork).congr (hdone i)⟩

/-- The cases of the rows. -/
def DecidedBy (rows : List TeacherRow) (i : Nat) (c : ErsrCase) : Prop :=
  ∃ row ∈ rows, row.workIndex = i ∧ row.case = c

theorem decidedBy_append_singleton {rows : List TeacherRow} {i : Nat} {c : ErsrCase} :
    DecidedBy (rows ++ [row]) i c ↔ DecidedBy rows i c ∨ i = row.workIndex ∧ c = row.case := by
  unfold DecidedBy
  constructor
  · rintro ⟨other, hother, rfl, rfl⟩
    rcases List.mem_append.mp hother with hold | hnew
    · exact .inl ⟨other, hold, rfl, rfl⟩
    · obtain rfl := List.mem_singleton.mp hnew
      exact .inr ⟨rfl, rfl⟩
  · rintro (⟨other, hother, hindex, hcase⟩ | ⟨rfl, rfl⟩)
    · exact ⟨other, List.mem_append_left _ hother, hindex, hcase⟩
    · exact ⟨row, List.mem_append_right _ List.mem_cons_self, rfl, rfl⟩

variable (config) in
/-- The rows of a planned group. -/
structure PlannedGroup (starts : List ErsrWork) (group : ModelSpec × List TeacherRow) : Prop where
  mem : ∀ row ∈ group.2, (group.1, row) ∈ starts.zipIdx.flatMap (plannedRows config)
  requestIds : ((group.2.map TeacherRow.request).map GenerationRequest.requestId).Nodup

variable {group : ModelSpec × List TeacherRow}

theorem PlannedGroup.get? (h : PlannedGroup config starts group) {row : TeacherRow}
    (hrow : row ∈ group.2) :
    Dict.get? (generationPhase (answerWith (proposals group.1)) (group.2.map TeacherRow.request))
      row.request.requestId = some (answerWith (proposals group.1) row.request) :=
  get?_generationPhase h.requestIds (List.mem_map_of_mem hrow)

/-- The rows of one teacher. -/
theorem AllDecided.applyGroup (hstarts : ∀ start ∈ starts, start.Prepared config)
    (hgroup : PlannedGroup config starts group)
    (h : AllDecided config detectors proposals onSplitError done starts works)
    {next : List ErsrWork}
    (hnext : R2opl.applyGroup detectors proposals onSplitError works group = .ok next) :
    AllDecided config detectors proposals onSplitError
      (fun i c => done i c ∨ DecidedBy group.2 i c) starts next := by
  apply foldlM_accumulates (P := fun rows (works : List ErsrWork) =>
    AllDecided config detectors proposals onSplitError
      (fun i c => done i c ∨ DecidedBy rows i c) starts works) ?_ ?_ hnext
  · intro rows state row next hrow hP hstep
    obtain ⟨_, _, _, hdecided⟩ := hP.applyRow hstarts (hgroup.mem row hrow) (hgroup.get? hrow)
    apply (hdecided next hstep).congr
    intro i c
    rw [decidedBy_append_singleton, or_assoc]
  · apply h.congr
    intro i c
    exact (or_iff_left fun ⟨_, hrow, _⟩ => absurd hrow List.not_mem_nil).symm

theorem AllDecided.returns_applyGroup (hstarts : ∀ start ∈ starts, start.Prepared config)
    (hgroup : PlannedGroup config starts group)
    (h : AllDecided config detectors proposals onSplitError done starts works)
    (hreturns : ∀ start ∈ starts, ∀ c ∈ start.cases, c.actionType = .teacherReplace →
      Returns (start.teacherOutcome config detectors proposals onSplitError c)) :
    Returns (R2opl.applyGroup detectors proposals onSplitError works group) := by
  apply foldlM_returns (P := fun works => ∃ done,
    AllDecided config detectors proposals onSplitError done starts works) _ ⟨done, h⟩
  rintro state row hrow ⟨done, hP⟩
  obtain ⟨start, hstart, hrow', hdecided⟩ :=
    hP.applyRow hstarts (hgroup.mem row hrow) (hgroup.get? hrow)
  obtain ⟨start', hstart', hmem, hc, hwaits, _⟩ :=
    exists_of_mem_planned detectors proposals onSplitError (hgroup.mem row hrow)
  obtain rfl := Option.some.inj (hstart.symm.trans hstart')
  obtain ⟨next, hnext⟩ := hrow' (hreturns start hmem row.case hc hwaits.1)
  exact ⟨next, hnext, _, hdecided next hnext⟩

/-! ### Both loops -/

/-- A case that asks for a teacher is exhausted or waits. -/
theorem exhausted_or_waits {c : ErsrCase} :
    c.actionType = .teacherReplace ↔ c.Exhausted config ∨ c.Waits config := by
  constructor
  · intro haction
    rcases le_or_gt (teacherBudget config.settings c) 0 with hbudget | hbudget
    · exact .inl ⟨haction, hbudget⟩
    · exact .inr ⟨haction, hbudget⟩
  · rintro (h | h)
    · exact h.1
    · exact h.1

/-- A waiting case is among the requests for its work. -/
theorem mem_planned_of_waits (hstarts : ∀ start ∈ starts, start.Prepared config) {i : Nat}
    (hstart : starts[i]? = some start) {c : ErsrCase} (hc : c ∈ start.cases)
    (hwaits : c.Waits config) : ∃ teacher,
      (teacher, teacherRow config i start.model c) ∈ starts.zipIdx.flatMap (plannedRows config) := by
  have hprepared := hstarts start (List.mem_of_getElem? hstart)
  obtain ⟨teacher, hteacher⟩ := hprepared.teacher
  cases teacher with
  | none => exact absurd hwaits.1 (hprepared.no_teacher hteacher hc)
  | some teacher =>
    refine ⟨teacher, List.mem_flatMap.mpr ⟨(start, i), ?_, ?_⟩⟩
    · exact List.mem_zipIdx_iff_getElem?.mpr hstart
    · unfold plannedRows
      rw [hteacher]
      exact List.mem_map.mpr ⟨c, List.mem_filter.mpr ⟨hc, decide_eq_true hwaits⟩, rfl⟩

theorem plannedGroup_of_mem (hstarts : ∀ start ∈ starts, start.Prepared config)
    {groups : TeacherGroups}
    (hgroups : Dict.Grouped groups (starts.zipIdx.flatMap (plannedRows config)))
    (hgroup : group ∈ groups) : PlannedGroup config starts group where
  mem := by
    intro row hrow
    exact hgroups.perm.mem_iff.mp (Dict.mem_entries.mpr ⟨group, hgroup, rfl, hrow⟩)
  requestIds := by
    have hnodup := (hgroups.perm.map fun item => item.2.request.requestId).nodup_iff.mpr
      (plannedRequestIds_nodup hstarts)
    unfold Dict.entries at hnodup
    rw [List.map_flatMap, List.nodup_flatMap] at hnodup
    have hone := hnodup.1 group hgroup
    rw [List.map_map] at hone
    rw [List.map_map]
    exact hone

/-- The rows of all groups are the waiting cases. -/
theorem decidedBy_groups_iff (hstarts : ∀ start ∈ starts, start.Prepared config)
    {groups : TeacherGroups}
    (hgroups : Dict.Grouped groups (starts.zipIdx.flatMap (plannedRows config))) {i : Nat}
    {c : ErsrCase} : (∃ group ∈ groups, DecidedBy group.2 i c) ↔
      ∃ start, starts[i]? = some start ∧ c ∈ start.cases ∧ c.Waits config := by
  constructor
  · rintro ⟨group, hgroup, row, hrow, rfl, rfl⟩
    obtain ⟨start, hstart, _, hc, hwaits, _⟩ := exists_of_mem_planned .silent (fun _ _ _ _ => [])
      none ((plannedGroup_of_mem hstarts hgroups hgroup).mem row hrow)
    exact ⟨start, hstart, hc, hwaits⟩
  · rintro ⟨start, hstart, hc, hwaits⟩
    obtain ⟨teacher, hmem⟩ := mem_planned_of_waits hstarts hstart hc hwaits
    obtain ⟨group, hgroup, _, hrow⟩ := Dict.mem_entries.mp (hgroups.perm.mem_iff.mpr hmem)
    exact ⟨group, hgroup, _, hrow, rfl, rfl⟩

/-- The cases of the works that ask for a teacher. -/
def AsksTeacher (starts : List ErsrWork) (i : Nat) (c : ErsrCase) : Prop :=
  ∃ start, starts[i]? = some start ∧ c ∈ start.cases ∧ c.actionType = .teacherReplace

theorem AllDecided.applyGroups (hstarts : ∀ start ∈ starts, start.Prepared config)
    {groups : TeacherGroups}
    (hgroups : Dict.Grouped groups (starts.zipIdx.flatMap (plannedRows config)))
    (h : AllDecided config detectors proposals onSplitError
      (fun i c => ∃ start, starts[i]? = some start ∧ c ∈ start.cases ∧ c.Exhausted config)
      starts works)
    {next : List ErsrWork}
    (hnext : groups.foldlM (R2opl.applyGroup detectors proposals onSplitError) works = .ok next) :
    AllDecided config detectors proposals onSplitError (AsksTeacher starts) starts next := by
  have hall := foldlM_accumulates (P := fun (done : TeacherGroups) (works : List ErsrWork) =>
    AllDecided config detectors proposals onSplitError
      (fun i c => (∃ start, starts[i]? = some start ∧ c ∈ start.cases ∧ c.Exhausted config) ∨
        ∃ group ∈ done, DecidedBy group.2 i c) starts works) ?_ ?_ hnext
  · apply hall.congr
    intro i c
    rw [decidedBy_groups_iff hstarts hgroups]
    unfold AsksTeacher
    rw [← exists_or]
    apply exists_congr
    intro start
    rw [← and_or_left, ← and_or_left, exhausted_or_waits]
  · intro done state group next hgroup hP hstep
    apply (hP.applyGroup hstarts (plannedGroup_of_mem hstarts hgroups hgroup) hstep).congr
    intro i c
    rw [or_assoc]
    apply or_congr_right
    simp only [List.mem_append, List.mem_singleton, or_and_right, exists_or, exists_eq_left]
  · apply h.congr
    intro i c
    exact (or_iff_left fun ⟨_, hgroup, _⟩ => absurd hgroup List.not_mem_nil).symm

/-- **The teacher phase decides exactly the cases that ask for a teacher**, each in its own
    work. -/
theorem generateErsrReplacementsWith_decided (hstarts : ∀ start ∈ starts, start.Prepared config)
    {next : List ErsrWork}
    (hnext : generateErsrReplacementsWith config detectors proposals onSplitError starts =
      .ok next) :
    AllDecided config detectors proposals onSplitError (AsksTeacher starts) starts next ∧
      ∀ work ∈ next, work.teacherComplete = true := by
  unfold generateErsrReplacementsWith at hnext
  obtain ⟨⟨planned, groups⟩, hplan, hnext⟩ := bind_eq_ok.mp hnext
  obtain ⟨answered, hanswered, hnext⟩ := bind_eq_ok.mp hnext
  obtain rfl := Except.ok.inj hnext
  obtain ⟨hplanned, hgroups⟩ :=
    planTeachers_decided detectors proposals onSplitError hstarts hplan
  have hdecided := hplanned.applyGroups hstarts hgroups hanswered
  refine ⟨⟨?_, ?_⟩, ?_⟩
  · rw [List.length_map]
    exact hdecided.length
  · intro i start work hstart hwork
    rw [List.getElem?_map] at hwork
    obtain ⟨before, hbefore, rfl⟩ := Option.map_eq_some_iff.mp hwork
    exact (hdecided.decided i start before hstart hbefore).complete
  · intro work hwork
    obtain ⟨before, _, rfl⟩ := List.mem_map.mp hwork
    rfl

theorem returns_planTeachers (hstarts : ∀ start ∈ starts, start.Prepared config) :
    Returns (planTeachers config starts) := by
  apply foldlM_returns (P := fun _ => True) _ trivial
  intro state indexed hindexed _
  obtain ⟨teacher, hteacher⟩ := (hstarts indexed.1 (List.fst_mem_of_mem_zipIdx hindexed)).teacher
  unfold planWork
  dsimp only
  rw [hteacher, ok_bind]
  cases teacher with
  | none => exact ⟨_, rfl, trivial⟩
  | some teacher => exact ⟨_, rfl, trivial⟩

/-- The teacher phase returns when each of its cases can be decided. -/
theorem returns_generateErsrReplacementsWith (hstarts : ∀ start ∈ starts, start.Prepared config)
    (hreturns : ∀ start ∈ starts, ∀ c ∈ start.cases, c.actionType = .teacherReplace →
      Returns (start.teacherOutcome config detectors proposals onSplitError c)) :
    Returns (generateErsrReplacementsWith config detectors proposals onSplitError starts) := by
  obtain ⟨⟨planned, groups⟩, hplan⟩ := returns_planTeachers hstarts
  obtain ⟨hplanned, hgroups⟩ :=
    planTeachers_decided detectors proposals onSplitError hstarts hplan
  unfold generateErsrReplacementsWith
  rw [hplan, ok_bind]
  have hanswered : Returns
      (groups.foldlM (applyGroup detectors proposals onSplitError) planned) := by
    apply foldlM_returns (P := fun works => ∃ done,
      AllDecided config detectors proposals onSplitError done starts works) _ ⟨_, hplanned⟩
    rintro state group hgroup ⟨done, hP⟩
    have hplannedGroup := plannedGroup_of_mem hstarts hgroups hgroup
    obtain ⟨next, hnext⟩ := hP.returns_applyGroup hstarts hplannedGroup hreturns
    exact ⟨next, hnext, _, hP.applyGroup hstarts hplannedGroup hnext⟩
  obtain ⟨answered, hanswered⟩ := hanswered
  dsimp only
  rw [hanswered]
  exact ⟨_, rfl⟩

end Plan

end R2opl
