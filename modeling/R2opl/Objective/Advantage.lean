import R2opl.Objective.Modulation

/-!
# The sampled-token advantage

`r2opl_token_advantage`: correct tokens take a reinforcement signal, incorrect
tokens the distillation signal, each scaled by the difficulty of the row and by
its multiplier.
-/

namespace R2opl

open Checked

variable {K : Type} [Field K] [LinearOrder K]

/-- `_difficulty_tokens`. -/
def difficultyTokens (difficulty : Tensor (Flt K)) (shape : List Nat) :
    Except PyError (Tensor (Flt K)) :=
  let rows := shape.getD 0 0
  let columns := shape.getD 1 0
  if difficulty.ndim = 1 ∧ difficulty.size 0 = rows then
    .ok (.mat rows columns fun row _ => difficulty.at1 row)
  else if difficulty.ndim = 2 ∧ difficulty.shape = shape then .ok difficulty
  else if difficulty.ndim = 2 ∧ difficulty.shape = [rows, 1] then
    .ok (.mat rows columns fun row _ => difficulty.at2 row 0)
  else .error (valueError
    "R2OPL difficulty must have shape [batch], [batch,1], or [batch,response_length].")

/-- `_multiplier_or_one`. -/
def multiplierOrOne (value : Option (Tensor (Flt K))) (shape : List Nat) (name : String) :
    Except PyError (Tensor (Flt K)) :=
  match value with
  | none => .ok (.mat (shape.getD 0 0) (shape.getD 1 0) fun _ _ => 1)
  | some value => do
      raiseIf (value.shape ≠ shape) (valueError
        s!"R2OPL {name} must have shape {shapeText shape}, got {shapeText value.shape}.")
      return value

/-- The names and shapes of the token tensors, as the error lists them. -/
def shapeDetails (shapes : List (String × List Nat)) : String :=
  ", ".intercalate (shapes.map fun entry => entry.1 ++ "=" ++ shapeText entry.2)

def tokenAdvantage (studentLogProbs teacherLogProbs : Tensor (Flt K))
    (correctMask errorMask : Tensor Bool) (difficulty : Tensor (Flt K))
    (responseMask : Tensor Bool) (correctMultiplier errorMultiplier : Tensor (Flt K))
    (lambda_ miu : Flt K) : Tensor (Flt K) :=
  .mat (studentLogProbs.size 0) (studentLogProbs.size 1) fun row column =>
    let teacherMinusStudent := teacherLogProbs.at2 row column - studentLogProbs.at2 row column
    let correctAdvantage :=
      difficulty.at2 row column * miu * correctMultiplier.at2 row column
    let errorAdvantage := difficulty.at2 row column * lambda_ * teacherMinusStudent *
      errorMultiplier.at2 row column
    let advantage :=
      if errorMask.at2 row column then errorAdvantage
      else if correctMask.at2 row column then correctAdvantage
      else 0
    advantage * Flt.ofBool (responseMask.at2 row column)

def r2oplTokenAdvantage [ToString K] (studentLogProbs teacherLogProbs : Tensor (Flt K))
    (correctMask errorMask : Tensor Bool) (difficulty : Tensor (Flt K))
    (responseMask : Tensor Bool) (correctMultiplier errorMultiplier : Option (Tensor (Flt K)))
    (lambda_ miu : Flt K) : Except PyError (Tensor (Flt K)) := do
  validateHyperparameters (some lambda_) (some miu) none none none
  let shapes := [("student_log_probs", studentLogProbs.shape),
    ("teacher_log_probs", teacherLogProbs.shape), ("correct_mask", correctMask.shape),
    ("error_mask", errorMask.shape), ("response_mask", responseMask.shape)]
  raiseIf (∃ entry ∈ shapes, entry.2.length ≠ 2)
    (valueError "R2OPL token tensors must all be two-dimensional.")
  raiseIf (∃ entry ∈ shapes, entry.2 ≠ studentLogProbs.shape) (valueError
    ("R2OPL token tensors must share one shape; got " ++ shapeDetails shapes ++ "."))
  let shape := studentLogProbs.shape
  raiseIf (∃ row < responseMask.size 0, ∃ column < responseMask.size 1,
      (correctMask.at2 row column && errorMask.at2 row column) = true)
    (valueError "R2OPL correct and error masks must be disjoint.")
  raiseIf (∃ row < responseMask.size 0, ∃ column < responseMask.size 1,
      ((correctMask.at2 row column || errorMask.at2 row column) &&
        !responseMask.at2 row column) = true)
    (valueError "R2OPL correct/error masks must be subsets of response_mask.")
  raiseIf (¬ FiniteOn studentLogProbs responseMask)
    (valueError "R2OPL Student log-probabilities must be finite on response tokens.")
  raiseIf (¬ FiniteOn teacherLogProbs responseMask)
    (valueError "R2OPL Teacher log-probabilities must be finite on response tokens.")
  let difficulty ← difficultyTokens difficulty shape
  let correctMultiplier ← multiplierOrOne correctMultiplier shape "correct_multiplier"
  let errorMultiplier ← multiplierOrOne errorMultiplier shape "error_multiplier"
  raiseIf (¬ FiniteOn correctMultiplier correctMask)
    (valueError "R2OPL correct multipliers must be finite on correct tokens.")
  raiseIf (¬ FiniteOn errorMultiplier errorMask)
    (valueError "R2OPL error multipliers must be finite on error tokens.")
  return tokenAdvantage studentLogProbs teacherLogProbs correctMask errorMask difficulty
    responseMask correctMultiplier errorMultiplier lambda_ miu

/-! ### What it accepts -/

section Spec

variable [ToString K] {studentLogProbs teacherLogProbs difficulty : Tensor (Flt K)}
  {correctMask errorMask responseMask : Tensor Bool} {lambda_ miu : Flt K}

/-- Token tensors the kernel accepts: one shape, disjoint masks inside the response,
    finite log-probabilities. -/
structure AdvantageAdmissible (studentLogProbs teacherLogProbs difficulty : Tensor (Flt K))
    (correctMask errorMask responseMask : Tensor Bool) : Prop where
  ndim : responseMask.ndim = 2
  student_shape : studentLogProbs.shape = responseMask.shape
  teacher_shape : teacherLogProbs.shape = responseMask.shape
  correct_shape : correctMask.shape = responseMask.shape
  error_shape : errorMask.shape = responseMask.shape
  disjoint : ∀ row < responseMask.size 0, ∀ column < responseMask.size 1,
    ¬ (correctMask.at2 row column = true ∧ errorMask.at2 row column = true)
  inside : ∀ row < responseMask.size 0, ∀ column < responseMask.size 1,
    correctMask.at2 row column = true ∨ errorMask.at2 row column = true →
      responseMask.at2 row column = true
  student_finite : FiniteOn studentLogProbs responseMask
  teacher_finite : FiniteOn teacherLogProbs responseMask
  difficulty_shape : difficulty.shape = [responseMask.size 0]

omit [Field K] [LinearOrder K] [ToString K] in
theorem difficultyTokens_of_rows {shape : List Nat}
    (hshape : difficulty.shape = [shape.getD 0 0]) :
    difficultyTokens difficulty shape =
      .ok (.mat (shape.getD 0 0) (shape.getD 1 0) fun row _ => difficulty.at1 row) := by
  have hrows : difficulty.ndim = 1 ∧ difficulty.size 0 = shape.getD 0 0 := by
    rw [Tensor.ndim, Tensor.size, hshape]
    exact ⟨rfl, rfl⟩
  rw [difficultyTokens, if_pos hrows]

omit [LinearOrder K] [ToString K] in
theorem multiplierOrOne_of_shape {value : Tensor (Flt K)} {shape : List Nat} {name : String}
    (hshape : value.shape = shape) : multiplierOrOne (some value) shape name = .ok value := by
  rw [multiplierOrOne, raiseIf_of_not (not_not.mpr hshape)]
  rfl

/-- Admissible tensors get the advantage of every token. -/
theorem r2oplTokenAdvantage_of_admissible {correctMultiplier errorMultiplier : Tensor (Flt K)}
    (hvalid : validateHyperparameters (some lambda_) (some miu) none none none = .ok ())
    (h : AdvantageAdmissible studentLogProbs teacherLogProbs difficulty correctMask errorMask
      responseMask)
    (hcorrectShape : correctMultiplier.shape = responseMask.shape)
    (herrorShape : errorMultiplier.shape = responseMask.shape)
    (hcorrectFinite : FiniteOn correctMultiplier correctMask)
    (herrorFinite : FiniteOn errorMultiplier errorMask) :
    r2oplTokenAdvantage studentLogProbs teacherLogProbs correctMask errorMask difficulty
        responseMask (some correctMultiplier) (some errorMultiplier) lambda_ miu =
      .ok (tokenAdvantage studentLogProbs teacherLogProbs correctMask errorMask
        (.mat (studentLogProbs.shape.getD 0 0) (studentLogProbs.shape.getD 1 0)
          fun row _ => difficulty.at1 row)
        responseMask correctMultiplier errorMultiplier lambda_ miu) := by
  have hrows : difficulty.shape = [studentLogProbs.shape.getD 0 0] := by
    rw [h.student_shape]
    exact h.difficulty_shape
  have hdisjoint : ¬ ∃ row < responseMask.size 0, ∃ column < responseMask.size 1,
      (correctMask.at2 row column && errorMask.at2 row column) = true := by
    rintro ⟨row, hrow, column, hcolumn, hboth⟩
    exact h.disjoint row hrow column hcolumn (Bool.and_eq_true _ _ ▸ hboth)
  have hinside : ¬ ∃ row < responseMask.size 0, ∃ column < responseMask.size 1,
      ((correctMask.at2 row column || errorMask.at2 row column) &&
        !responseMask.at2 row column) = true := by
    rintro ⟨row, hrow, column, hcolumn, hout⟩
    rw [Bool.and_eq_true, Bool.or_eq_true] at hout
    rw [h.inside row hrow column hcolumn hout.1] at hout
    exact absurd hout.2 Bool.false_ne_true
  simp only [r2oplTokenAdvantage, hvalid, ok_bind]
  rw [raiseIf_of_not, ok_bind, raiseIf_of_not, ok_bind, raiseIf_of_not hdisjoint, ok_bind,
    raiseIf_of_not hinside, ok_bind, raiseIf_of_not (not_not.mpr h.student_finite), ok_bind,
    raiseIf_of_not (not_not.mpr h.teacher_finite), ok_bind, difficultyTokens_of_rows hrows,
    ok_bind, multiplierOrOne_of_shape (hcorrectShape.trans h.student_shape.symm), ok_bind,
    multiplierOrOne_of_shape (herrorShape.trans h.student_shape.symm), ok_bind,
    raiseIf_of_not (not_not.mpr hcorrectFinite), ok_bind,
    raiseIf_of_not (not_not.mpr herrorFinite), ok_bind]
  · rfl
  · simp [h.teacher_shape, h.correct_shape, h.error_shape, h.student_shape]
  · have hlength : responseMask.shape.length = 2 := h.ndim
    simp [h.teacher_shape, h.correct_shape, h.error_shape, h.student_shape, hlength]

theorem r2oplTokenAdvantage_returns {correctMultiplier errorMultiplier : Tensor (Flt K)}
    (hvalid : validateHyperparameters (some lambda_) (some miu) none none none = .ok ())
    (h : AdvantageAdmissible studentLogProbs teacherLogProbs difficulty correctMask errorMask
      responseMask)
    (hcorrectShape : correctMultiplier.shape = responseMask.shape)
    (herrorShape : errorMultiplier.shape = responseMask.shape)
    (hcorrectFinite : FiniteOn correctMultiplier correctMask)
    (herrorFinite : FiniteOn errorMultiplier errorMask) :
    Returns (r2oplTokenAdvantage studentLogProbs teacherLogProbs correctMask errorMask
      difficulty responseMask (some correctMultiplier) (some errorMultiplier) lambda_ miu) :=
  ⟨_, r2oplTokenAdvantage_of_admissible hvalid h hcorrectShape herrorShape hcorrectFinite
    herrorFinite⟩

/-- What is returned has finite multipliers on the tokens they scale. -/
theorem finite_of_r2oplTokenAdvantage {correctMultiplier errorMultiplier advantage :
      Tensor (Flt K)}
    (h : r2oplTokenAdvantage studentLogProbs teacherLogProbs correctMask errorMask difficulty
      responseMask (some correctMultiplier) (some errorMultiplier) lambda_ miu = .ok advantage) :
    FiniteOn correctMultiplier correctMask ∧ FiniteOn errorMultiplier errorMask := by
  simp only [r2oplTokenAdvantage, multiplierOrOne, bind_eq_ok, raiseIf_eq_ok, not_not, pure_eq_ok,
    Except.ok.injEq] at h
  obtain ⟨_, _, _, _, _, _, _, _, _, _, _, _, _, _, _, _, _, ⟨_, _, rfl⟩, _, ⟨_, _, rfl⟩, _,
    hcorrect, _, herror, _⟩ := h
  exact ⟨hcorrect, herror⟩

end Spec

/-! ### One token -/

section Token

variable {studentLogProbs teacherLogProbs difficulty correctMultiplier errorMultiplier :
    Tensor (Flt K)} {correctMask errorMask responseMask : Tensor Bool} {lambda_ miu : K}
  {row column : Nat}

theorem tokenAdvantage_correct {d m : K} (herror : errorMask.at2 row column = false)
    (hcorrect : correctMask.at2 row column = true) (hresponse : responseMask.at2 row column = true)
    (hdifficulty : difficulty.at2 row column = .fin d)
    (hmultiplier : correctMultiplier.at2 row column = .fin m) :
    (tokenAdvantage studentLogProbs teacherLogProbs correctMask errorMask difficulty responseMask
      correctMultiplier errorMultiplier (.fin lambda_) (.fin miu)).at2 row column =
        .fin (d * miu * m) := by
  unfold tokenAdvantage
  rw [Tensor.at2_mat, herror, hcorrect, hresponse, hdifficulty, hmultiplier]
  simp

theorem tokenAdvantage_error {d m teacher student : K} (herror : errorMask.at2 row column = true)
    (hresponse : responseMask.at2 row column = true)
    (hdifficulty : difficulty.at2 row column = .fin d)
    (hmultiplier : errorMultiplier.at2 row column = .fin m)
    (hteacher : teacherLogProbs.at2 row column = .fin teacher)
    (hstudent : studentLogProbs.at2 row column = .fin student) :
    (tokenAdvantage studentLogProbs teacherLogProbs correctMask errorMask difficulty responseMask
      correctMultiplier errorMultiplier (.fin lambda_) (.fin miu)).at2 row column =
        .fin (d * lambda_ * (teacher - student) * m) := by
  unfold tokenAdvantage
  rw [Tensor.at2_mat, herror, hresponse, hdifficulty, hmultiplier, hteacher, hstudent]
  simp

/-- A token in neither mask has no advantage, whatever its log-probabilities are. -/
theorem tokenAdvantage_neither (herror : errorMask.at2 row column = false)
    (hcorrect : correctMask.at2 row column = false) :
    (tokenAdvantage studentLogProbs teacherLogProbs correctMask errorMask difficulty responseMask
      correctMultiplier errorMultiplier (.fin lambda_) (.fin miu)).at2 row column = .fin 0 := by
  unfold tokenAdvantage
  rw [Tensor.at2_mat, herror, hcorrect]
  cases responseMask.at2 row column with
  | false => simp
  | true => simp

end Token

end R2opl
