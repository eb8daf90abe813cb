import R2opl.Objective.Steps
import R2opl.Objective.Pipeline

/-!
# The advantage of a batch

The outcomes of `compute_r2opl_batch` and the multipliers of `compute_r2opl_token_modulation`,
fed to `r2opl_token_advantage`.  The advantage of a token is a function of its own row and of the
difficulty of its prompt group.
-/

namespace R2opl

open Checked

variable {K : Type} [Field K] [LinearOrder K]

/-- The tensors of a batch, with its rewards and log-probabilities. -/
structure BatchInput (K : Type) extends ModulationInput K where
  verifierRewards : Tensor (Flt K)
  promptGroupIds : List String
  genuineTrajectoryMask : Option (Tensor Bool)
  studentLogProbs : Tensor (Flt K)
  teacherLogProbs : Tensor (Flt K)

/-- The coefficients of the objective, as finite numbers. -/
structure Coefficients (K : Type) where
  lambda_ : K
  miu : K
  alphaR : K
  alphaD : K
  epsilon : K

namespace BatchInput

variable (input : BatchInput K)

def outcomes [ToString K] : Except PyError (R2OPLBatchResult K) :=
  computeR2oplBatch input.responseMask input.verifierRewards input.promptGroupIds
    input.genuineTrajectoryMask

def modulation [ToString K] (coefficients : Coefficients K) :
    Except PyError (R2OPLTokenModulation K) :=
  input.run (.fin coefficients.alphaR) (.fin coefficients.alphaD) (.fin coefficients.epsilon)

/-- The three kernels, one after the other. -/
def advantage [ToString K] (coefficients : Coefficients K) : Except PyError (Tensor (Flt K)) := do
  let result ← input.outcomes
  let modulation ← input.modulation coefficients
  r2oplTokenAdvantage input.studentLogProbs input.teacherLogProbs result.correctMask
    result.errorMask result.difficulty input.responseMask (some modulation.correctTokenMultiplier)
    (some modulation.errorTokenMultiplier) (.fin coefficients.lambda_) (.fin coefficients.miu)

def genuine : Tensor Bool := genuineMask (input.responseMask.size 0) input.genuineTrajectoryMask

def correct : Tensor Bool :=
  correctRows (input.responseMask.size 0) (rowRewards input.verifierRewards) input.genuine

/-- Token `token` of a row is a token of its response. -/
def IsResponse (index token : Nat) : Prop :=
  token < input.responseMask.size 1 ∧ input.responseMask.at2 index token = true

/-- The difficulty of the prompt group of a row. -/
def difficulty (index : Nat) : K :=
  groupDifficulty K input.promptGroupIds input.genuine input.correct
    (groupId input.promptGroupIds index)

end BatchInput

/-! ### One token -/

section Token

variable [IsStrictOrderedRing K] [ToString K] {input : BatchInput K}
  {coefficients : Coefficients K} {result : R2OPLBatchResult K}
  {modulation : R2OPLTokenModulation K}

omit [IsStrictOrderedRing K] in
theorem shape_of_modulation (h : input.modulation coefficients = .ok modulation) :
    modulation.correctTokenMultiplier.shape = input.responseMask.shape ∧
      modulation.errorTokenMultiplier.shape = input.responseMask.shape := by
  obtain ⟨_, _, _, _, _, _, hadmissible, rfl⟩ := computeR2oplTokenModulation_eq_ok.mp h
  rw [Tensor.shape_of_ndim hadmissible.response_ndim]
  exact ⟨shape_writeSteps, shape_writeSteps⟩

/-- Every multiplier is finite and not negative. -/
theorem multipliers_nonneg
    (h : input.modulation coefficients = .ok modulation) {index : Nat}
    (hindex : index < input.responseMask.size 0) (token : Nat) :
    (∃ m, 0 ≤ m ∧ modulation.correctTokenMultiplier.at2 index token = .fin m) ∧
      ∃ m, 0 ≤ m ∧ modulation.errorTokenMultiplier.at2 index token = .fin m := by
  obtain ⟨row, hrow, hvalid, _⟩ := ModulationInput.exists_modulates h hindex
  obtain ⟨_, _, hepsilon, _⟩ := validGates_of_run h
  have hmodulates := hrow.modulates_of_run hvalid h hindex
  by_cases howned : ∃ step, row.Probed step ∧ row.Owns step token
  · obtain ⟨step, hprobed, howns⟩ := howned
    obtain ⟨hcorrect, herror⟩ := hmodulates.probed step token hprobed howns
    exact ⟨⟨_, hepsilon.trans (le_max_left _ _), hcorrect⟩, ⟨_, le_max_left _ _, herror⟩⟩
  · obtain ⟨hcorrect, herror⟩ := hmodulates.standard token fun step hprobed howns =>
      howned ⟨step, hprobed, howns⟩
    exact ⟨⟨1, zero_le_one, hcorrect⟩, ⟨1, zero_le_one, herror⟩⟩

omit [IsStrictOrderedRing K] in
theorem outcomes_eq_ok (h : input.outcomes = .ok result) :
    Admissible input.responseMask input.verifierRewards input.promptGroupIds
        input.genuineTrajectoryMask ∧
      result.correctMask = maskRows input.responseMask input.correct ∧
      result.errorMask = maskRows input.responseMask (exceptRows input.genuine input.correct) ∧
      result.difficulty = (groupStatistics (input.responseMask.size 0) input.promptGroupIds
        input.genuine input.correct : GroupStatistics K).difficulty := by
  obtain ⟨hadmissible, rfl⟩ := computeR2oplBatch_eq_ok.mp h
  exact ⟨hadmissible, rfl, rfl, rfl⟩

/-- A number is zero or has the sign of the other. -/
def SignOf (x y : K) : Prop := x = 0 ∨ 0 < x ∧ 0 < y ∨ x < 0 ∧ y < 0

omit [ToString K] in
theorem signOf_scaled {a m y : K} (ha : 0 ≤ a) (hm : 0 ≤ m) : SignOf (a * y * m) y := by
  have hcomm : a * y * m = a * m * y := by rw [mul_assoc, mul_comm y, ← mul_assoc]
  rw [hcomm]
  rcases (mul_nonneg ha hm).eq_or_lt with hzero | hpos
  · rw [← hzero, zero_mul]
    exact .inl rfl
  · rcases lt_trichotomy y 0 with hy | rfl | hy
    · exact .inr (.inr ⟨mul_neg_of_pos_of_neg hpos hy, hy⟩)
    · exact .inl (mul_zero _)
    · exact .inr (.inl ⟨mul_pos hpos hy, hy⟩)

/-- What the composition says of one token. -/
structure TokenAdvantage (input : BatchInput K) (coefficients : Coefficients K)
    (modulation : R2OPLTokenModulation K) (advantage : Tensor (Flt K)) (index token : Nat) :
    Prop where
  correct : input.correct.at1 index = true → input.IsResponse index token →
    ∃ m, modulation.correctTokenMultiplier.at2 index token = .fin m ∧
      advantage.at2 index token = .fin (input.difficulty index * coefficients.miu * m) ∧
      0 ≤ input.difficulty index * coefficients.miu * m
  incorrect : input.genuine.at1 index = true → input.correct.at1 index = false →
    input.IsResponse index token →
    ∃ m teacher student, modulation.errorTokenMultiplier.at2 index token = .fin m ∧
      input.teacherLogProbs.at2 index token = .fin teacher ∧
      input.studentLogProbs.at2 index token = .fin student ∧
      advantage.at2 index token =
        .fin (input.difficulty index * coefficients.lambda_ * (teacher - student) * m) ∧
      SignOf (input.difficulty index * coefficients.lambda_ * (teacher - student) * m)
        (teacher - student)
  padding : input.genuine.at1 index = false → advantage.at2 index token = .fin 0
  masked : input.responseMask.at2 index token = false → advantage.at2 index token = .fin 0

/-- The composition returns the advantages of its outcomes, difficulties and multipliers. -/
theorem advantage_eq_ok (hresult : input.outcomes = .ok result)
    (hmodulation : input.modulation coefficients = .ok modulation)
    (hlambda : 0 ≤ coefficients.lambda_) (hmiu : 0 < coefficients.miu)
    (hstudent : ResponseLogProbs input.responseMask input.studentLogProbs)
    (hteacher : ResponseLogProbs input.responseMask input.teacherLogProbs) :
    input.advantage coefficients = .ok (tokenAdvantage input.studentLogProbs input.teacherLogProbs
      result.correctMask result.errorMask
      (.mat (input.studentLogProbs.shape.getD 0 0) (input.studentLogProbs.shape.getD 1 0)
        fun row _ => result.difficulty.at1 row)
      input.responseMask modulation.correctTokenMultiplier modulation.errorTokenMultiplier
      (.fin coefficients.lambda_) (.fin coefficients.miu)) := by
  obtain ⟨hadmissible, hcorrect, herror, _⟩ := outcomes_eq_ok hresult
  obtain ⟨hcorrectShape, herrorShape⟩ := shape_of_modulation hmodulation
  have hvalid : validateHyperparameters (some (.fin coefficients.lambda_))
      (some (.fin coefficients.miu)) none none none = .ok () := by
    rw [validateHyperparameters_eq_ok]
    refine ⟨?_, ?_, nofun, nofun, nofun⟩
    · rintro _ ⟨⟩
      exact ⟨_, hlambda, rfl⟩
    · rintro _ ⟨⟩
      exact ⟨_, hmiu, rfl⟩
  have hinput : AdvantageAdmissible input.studentLogProbs input.teacherLogProbs result.difficulty
      result.correctMask result.errorMask input.responseMask :=
    (ControllerOutput.batch hresult).admissible hstudent hteacher
  have hrows : result.correctMask.size 0 = input.responseMask.size 0 := by
    rw [hcorrect]
    rfl
  have hrows' : result.errorMask.size 0 = input.responseMask.size 0 := by
    rw [herror]
    rfl
  unfold BatchInput.advantage
  rw [hresult, ok_bind, hmodulation, ok_bind]
  apply r2oplTokenAdvantage_of_admissible hvalid hinput hcorrectShape herrorShape
  · intro index hindex token _ _
    obtain ⟨m, _, hm⟩ := (multipliers_nonneg hmodulation (hrows ▸ hindex) token).1
    rw [hm]
    rfl
  · intro index hindex token _ _
    obtain ⟨m, _, hm⟩ := (multipliers_nonneg hmodulation (hrows' ▸ hindex) token).2
    rw [hm]
    rfl

omit [IsStrictOrderedRing K] [ToString K] in
theorem genuine_of_correct {index : Nat} (h : input.correct.at1 index = true) :
    input.genuine.at1 index = true := ((Bool.and_eq_true _ _).mp h).2

/-- Every token has its advantage. -/
theorem tokenAdvantage_of_ok {advantage : Tensor (Flt K)} (hresult : input.outcomes = .ok result)
    (hmodulation : input.modulation coefficients = .ok modulation)
    (hlambda : 0 ≤ coefficients.lambda_) (hmiu : 0 < coefficients.miu)
    (hstudent : ResponseLogProbs input.responseMask input.studentLogProbs)
    (hteacher : ResponseLogProbs input.responseMask input.teacherLogProbs)
    (hadvantage : input.advantage coefficients = .ok advantage) {index : Nat}
    (hindex : index < input.responseMask.size 0) (token : Nat) :
    TokenAdvantage input coefficients modulation advantage index token := by
  obtain ⟨hadmissible, hcorrect, herror, hdifficulty⟩ := outcomes_eq_ok hresult
  obtain rfl := Except.ok.inj (hadvantage.symm.trans
    (advantage_eq_ok hresult hmodulation hlambda hmiu hstudent hteacher))
  have hids : index < input.promptGroupIds.length := hadmissible.ids_length ▸ hindex
  have hnonneg : 0 ≤ input.difficulty index := groupDifficulty_nonneg _ _ _ _
  have hgenuineDifficulty : input.genuine.at1 index = true →
      result.difficulty.at1 index = .fin (input.difficulty index) := by
    intro hgenuine
    rw [hdifficulty]
    exact difficulty_of_genuine hids hgenuine
  have hcorrectAt : result.correctMask.at2 index token =
      (input.responseMask.at2 index token && input.correct.at1 index) := by
    rw [hcorrect]
    rfl
  have herrorAt : result.errorMask.at2 index token = (input.responseMask.at2 index token &&
      (input.genuine.at1 index && !input.correct.at1 index)) := by
    rw [herror]
    rfl
  refine ⟨?_, ?_, ?_, ?_⟩
  · rintro hcorrectRow ⟨_, hresponse⟩
    obtain ⟨m, hm, hmultiplier⟩ := (multipliers_nonneg hmodulation hindex token).1
    refine ⟨m, hmultiplier, ?_, mul_nonneg (mul_nonneg hnonneg hmiu.le) hm⟩
    apply tokenAdvantage_correct
    · rw [herrorAt, hcorrectRow, Bool.not_true, Bool.and_false, Bool.and_false]
    · rw [hcorrectAt, hcorrectRow, hresponse]
      rfl
    · exact hresponse
    · exact hgenuineDifficulty (genuine_of_correct hcorrectRow)
    · exact hmultiplier
  · rintro hgenuine hincorrect ⟨htoken, hresponse⟩
    obtain ⟨m, hm, hmultiplier⟩ := (multipliers_nonneg hmodulation hindex token).2
    obtain ⟨teacher, hteacherToken⟩ := Flt.isFinite_iff.mp
      (hteacher.finite index hindex token htoken hresponse)
    obtain ⟨student, hstudentToken⟩ := Flt.isFinite_iff.mp
      (hstudent.finite index hindex token htoken hresponse)
    refine ⟨m, teacher, student, hmultiplier, hteacherToken, hstudentToken, ?_,
      signOf_scaled (mul_nonneg hnonneg hlambda) hm⟩
    apply tokenAdvantage_error
    · rw [herrorAt, hgenuine, hincorrect, hresponse]
      rfl
    · exact hresponse
    · exact hgenuineDifficulty hgenuine
    · exact hmultiplier
    · exact hteacherToken
    · exact hstudentToken
  · intro hpadding
    have hincorrect : input.correct.at1 index = false := by
      rw [Bool.eq_false_iff]
      intro hcorrectRow
      rw [genuine_of_correct hcorrectRow] at hpadding
      cases hpadding
    apply tokenAdvantage_neither
    · rw [herrorAt, hpadding, Bool.false_and, Bool.and_false]
    · rw [hcorrectAt, hincorrect, Bool.and_false]
  · intro hmasked
    apply tokenAdvantage_neither
    · rw [herrorAt, hmasked, Bool.false_and]
    · rw [hcorrectAt, hmasked, Bool.false_and]

omit [ToString K] in
/-- In a group whose genuine rows are all correct no token has an advantage. -/
theorem advantage_of_correct_group {advantage : Tensor (Flt K)}
    (hadmissible : Admissible input.responseMask input.verifierRewards input.promptGroupIds
      input.genuineTrajectoryMask) {index token : Nat} (hindex : index < input.responseMask.size 0)
    (htoken : token < input.responseMask.size 1)
    (h : TokenAdvantage input coefficients modulation advantage index token)
    (hall : ∀ other < input.responseMask.size 0,
      groupId input.promptGroupIds other = groupId input.promptGroupIds index →
      input.genuine.at1 other = true → input.correct.at1 other = true) :
    advantage.at2 index token = .fin 0 := by
  by_cases hgenuine : input.genuine.at1 index = true
  · by_cases hresponse : input.responseMask.at2 index token = true
    · have hzero : input.difficulty index = 0 := by
        apply groupDifficulty_eq_zero (hadmissible.ids_length ▸ hindex) hgenuine
        intro other hother
        obtain ⟨hlt, hgroup, hgenuineOther⟩ := mem_groupIndices.mp hother
        exact hall other (hadmissible.ids_length ▸ hlt) hgroup hgenuineOther
      obtain ⟨m, _, hvalue, _⟩ := h.correct (hall index hindex rfl hgenuine) ⟨htoken, hresponse⟩
      rw [hvalue, hzero, zero_mul, zero_mul]
    · exact h.masked (Bool.eq_false_iff.mpr hresponse)
  · exact h.padding (Bool.eq_false_iff.mpr hgenuine)

end Token

/-! ### A change in one prompt group -/

/-- Two batches that differ in the rows of one prompt group alone, and in their padding. -/
structure SameOutside (input input' : BatchInput K) (group : String) : Prop where
  ids : input.promptGroupIds = input'.promptGroupIds
  genuine : ∀ index < input.promptGroupIds.length, groupId input.promptGroupIds index ≠ group →
    input.genuine.at1 index = input'.genuine.at1 index
  rewards : ∀ index < input.promptGroupIds.length, groupId input.promptGroupIds index ≠ group →
    (rowRewards input.verifierRewards).at1 index = (rowRewards input'.verifierRewards).at1 index
  rows : ∀ index < input.promptGroupIds.length, groupId input.promptGroupIds index ≠ group →
    SameRow input.toModulationInput input'.toModulationInput index index
  response : ∀ index < input.promptGroupIds.length, groupId input.promptGroupIds index ≠ group →
    ∀ token, input.IsResponse index token ↔ input'.IsResponse index token
  logProbs : ∀ index < input.promptGroupIds.length, groupId input.promptGroupIds index ≠ group →
    ∀ token, input.IsResponse index token →
      input.studentLogProbs.at2 index token = input'.studentLogProbs.at2 index token ∧
        input.teacherLogProbs.at2 index token = input'.teacherLogProbs.at2 index token

section Local

variable {input input' : BatchInput K} {group : String} {index : Nat}

theorem SameOutside.correct (h : SameOutside input input' group)
    (hindex : index < input.promptGroupIds.length)
    (hgroup : groupId input.promptGroupIds index ≠ group) :
    input.correct.at1 index = input'.correct.at1 index := by
  unfold BatchInput.correct correctRows
  rw [Tensor.at1_vec, Tensor.at1_vec, h.rewards index hindex hgroup, h.genuine index hindex hgroup]

theorem SameOutside.difficulty (h : SameOutside input input' group)
    (hgroup : groupId input.promptGroupIds index ≠ group) :
    input.difficulty index = input'.difficulty index := by
  unfold BatchInput.difficulty
  rw [← h.ids]
  apply groupDifficulty_congr
  · intro other hother hsame
    exact h.genuine other hother (hsame ▸ hgroup)
  · intro other hother hsame
    exact h.correct hother (hsame ▸ hgroup)

variable {coefficients : Coefficients K} {modulation modulation' : R2OPLTokenModulation K}
  {advantage advantage' : Tensor (Flt K)} {token : Nat}

/-- The advantage of a token is the same when everything it is made of is. -/
theorem SameOutside.advantage_eq (h : SameOutside input input' group)
    (hindex : index < input.promptGroupIds.length)
    (hgroup : groupId input.promptGroupIds index ≠ group)
    (hsame : SameResult modulation modulation' index index)
    (hwidth : token < input.responseMask.size 1) (hwidth' : token < input'.responseMask.size 1)
    (htoken : TokenAdvantage input coefficients modulation advantage index token)
    (htoken' : TokenAdvantage input' coefficients modulation' advantage' index token) :
    advantage.at2 index token = advantage'.at2 index token := by
  have hresponse := h.response index hindex hgroup token
  have hgenuine := h.genuine index hindex hgroup
  have hcorrect := h.correct hindex hgroup
  obtain ⟨hcorrectMultiplier, herrorMultiplier, _⟩ := hsame.tokens token
  by_cases hmask : input.responseMask.at2 index token = true
  · have htokenResponse : input.IsResponse index token := ⟨hwidth, hmask⟩
    cases hgenuineRow : input.genuine.at1 index with
    | false =>
      rw [htoken.padding hgenuineRow, htoken'.padding (hgenuine.symm.trans hgenuineRow)]
    | true =>
      cases hcorrectRow : input.correct.at1 index with
      | true =>
        obtain ⟨m, hm, hvalue, _⟩ := htoken.correct hcorrectRow htokenResponse
        obtain ⟨m', hm', hvalue', _⟩ := htoken'.correct (hcorrect.symm.trans hcorrectRow)
          (hresponse.mp htokenResponse)
        obtain rfl := Flt.fin.inj (hm.symm.trans (hcorrectMultiplier.trans hm'))
        rw [hvalue, hvalue', h.difficulty hgroup]
      | false =>
        obtain ⟨m, t, s, hm, ht, hs, hvalue, _⟩ :=
          htoken.incorrect hgenuineRow hcorrectRow htokenResponse
        obtain ⟨m', t', s', hm', ht', hs', hvalue', _⟩ :=
          htoken'.incorrect (hgenuine.symm.trans hgenuineRow) (hcorrect.symm.trans hcorrectRow)
            (hresponse.mp htokenResponse)
        obtain ⟨hstudent, hteacher⟩ := h.logProbs index hindex hgroup token htokenResponse
        obtain rfl := Flt.fin.inj (hm.symm.trans (herrorMultiplier.trans hm'))
        obtain rfl := Flt.fin.inj (ht.symm.trans (hteacher.trans ht'))
        obtain rfl := Flt.fin.inj (hs.symm.trans (hstudent.trans hs'))
        rw [hvalue, hvalue', h.difficulty hgroup]
  · have hmask' : ¬ input'.responseMask.at2 index token = true := fun htrue =>
      hmask (hresponse.mpr ⟨hwidth', htrue⟩).2
    rw [htoken.masked (Bool.eq_false_iff.mpr hmask), htoken'.masked (Bool.eq_false_iff.mpr hmask')]

end Local

/-- A batch that the kernels accept, with the log-probabilities of its response tokens. -/
structure AcceptedBatch [ToString K] (input : BatchInput K) (coefficients : Coefficients K)
    (modulation : R2OPLTokenModulation K) : Prop where
  outcomes : Returns input.outcomes
  modulated : input.modulation coefficients = .ok modulation
  student : ResponseLogProbs input.responseMask input.studentLogProbs
  teacher : ResponseLogProbs input.responseMask input.teacherLogProbs

/-- **The advantage of a batch.**  Every token has the advantage that its outcome, difficulty and
    multiplier give it; groups that are solved completely have none; and a change in one prompt
    group stays there. -/
theorem token_advantage_composed [IsStrictOrderedRing K] [ToString K] (input : BatchInput K)
    (coefficients : Coefficients K) (modulation : R2OPLTokenModulation K)
    (hlambda : 0 ≤ coefficients.lambda_) (hmiu : 0 < coefficients.miu)
    (hinput : AcceptedBatch input coefficients modulation) :
    ∃ advantage, input.advantage coefficients = .ok advantage ∧
      (∀ index < input.responseMask.size 0, ∀ token < input.responseMask.size 1,
        TokenAdvantage input coefficients modulation advantage index token) ∧
      (∀ group, (∀ index < input.responseMask.size 0,
          groupId input.promptGroupIds index = group → input.genuine.at1 index = true →
            input.correct.at1 index = true) →
        ∀ index < input.responseMask.size 0, groupId input.promptGroupIds index = group →
          ∀ token < input.responseMask.size 1, advantage.at2 index token = .fin 0) ∧
      ∀ (input' : BatchInput K) (modulation' : R2OPLTokenModulation K) (group : String),
        AcceptedBatch input' coefficients modulation' → SameOutside input input' group →
        ∃ advantage', input'.advantage coefficients = .ok advantage' ∧
          ∀ index < input.responseMask.size 0, groupId input.promptGroupIds index ≠ group →
            ∀ token < input.responseMask.size 1, token < input'.responseMask.size 1 →
              advantage.at2 index token = advantage'.at2 index token := by
  obtain ⟨⟨result, hresult⟩, hmodulation, hstudent, hteacher⟩ := hinput
  have hadvantage := advantage_eq_ok hresult hmodulation hlambda hmiu hstudent hteacher
  have htokens : ∀ index < input.responseMask.size 0, ∀ token,
      TokenAdvantage input coefficients modulation _ index token := fun index hindex token =>
    tokenAdvantage_of_ok hresult hmodulation hlambda hmiu hstudent hteacher hadvantage hindex token
  obtain ⟨hadmissible, _⟩ := outcomes_eq_ok hresult
  refine ⟨_, hadvantage, fun index hindex token _ => htokens index hindex token, ?_, ?_⟩
  · rintro group hall index hindex rfl token htoken
    exact advantage_of_correct_group hadmissible hindex htoken (htokens index hindex token) hall
  · rintro input' modulation' group ⟨⟨result', hresult'⟩, hmodulation', hstudent', hteacher'⟩ hsame
    have hadvantage' := advantage_eq_ok hresult' hmodulation' hlambda hmiu hstudent' hteacher'
    obtain ⟨hadmissible', _⟩ := outcomes_eq_ok hresult'
    refine ⟨_, hadvantage', ?_⟩
    intro index hindex hgroup token htoken htoken'
    have hids : index < input.promptGroupIds.length := hadmissible.ids_length ▸ hindex
    have hindex' : index < input'.responseMask.size 0 := by
      rw [← hadmissible'.ids_length, ← hsame.ids]
      exact hids
    apply hsame.advantage_eq hids hgroup ?_ htoken htoken' (htokens index hindex token)
    · exact tokenAdvantage_of_ok hresult' hmodulation' hlambda hmiu hstudent' hteacher'
        hadvantage' hindex' token
    · exact (hsame.rows index hids hgroup).sameResult hmodulation hmodulation' hindex hindex'

/-- A correct and an incorrect response to one prompt. -/
def mixedBatch : BatchInput ℚ where
  toModulationInput := risingInput
  verifierRewards := .vec 2 fun row => if row = 0 then .fin 1 else .fin 0
  promptGroupIds := ["prompt", "prompt"]
  genuineTrajectoryMask := none
  studentLogProbs := .mat 2 3 fun _ _ => .fin (-2)
  teacherLogProbs := .mat 2 3 fun _ _ => .fin (-1)

def defaultCoefficients : Coefficients ℚ := ⟨1 / 10, 16, 1 / 4, 1 / 2, 4 / 5⟩

theorem token_advantage_composed_mixed : ∃ modulation,
    mixedBatch.modulation defaultCoefficients = .ok modulation ∧
    ∃ advantage, mixedBatch.advantage defaultCoefficients = .ok advantage ∧
      (∀ index < mixedBatch.responseMask.size 0, ∀ token < mixedBatch.responseMask.size 1,
        TokenAdvantage mixedBatch defaultCoefficients modulation advantage index token) ∧
      (∀ group, (∀ index < mixedBatch.responseMask.size 0,
          groupId mixedBatch.promptGroupIds index = group → mixedBatch.genuine.at1 index = true →
            mixedBatch.correct.at1 index = true) →
        ∀ index < mixedBatch.responseMask.size 0,
          groupId mixedBatch.promptGroupIds index = group →
          ∀ token < mixedBatch.responseMask.size 1, advantage.at2 index token = .fin 0) ∧
      ∀ (input' : BatchInput ℚ) (modulation' : R2OPLTokenModulation ℚ) (group : String),
        AcceptedBatch input' defaultCoefficients modulation' →
        SameOutside mixedBatch input' group →
        ∃ advantage', input'.advantage defaultCoefficients = .ok advantage' ∧
          ∀ index < mixedBatch.responseMask.size 0,
            groupId mixedBatch.promptGroupIds index ≠ group →
            ∀ token < mixedBatch.responseMask.size 1, token < input'.responseMask.size 1 →
              advantage.at2 index token = advantage'.at2 index token := by
  obtain ⟨modulation, hmodulation⟩ : Returns (mixedBatch.modulation defaultCoefficients) := by
    decide +kernel
  refine ⟨modulation, hmodulation, token_advantage_composed mixedBatch defaultCoefficients
    modulation (by decide +kernel) (by decide +kernel) ⟨?_, hmodulation, ⟨rfl, ?_⟩, ⟨rfl, ?_⟩⟩⟩
  · decide +kernel
  · decide +kernel
  · decide +kernel

end R2opl
