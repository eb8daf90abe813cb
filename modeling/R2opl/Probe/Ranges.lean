import R2opl.Python

/-!
# Semantic step ranges

The response-local partition into semantic steps (`utils/r2opl.py`).  Steps
arrive either as splitter `TokenStep`s, as `(start, end)` pairs, or as the
cumulative, zero-padded token ends that the rollout side transmits; all three
are normalised to a list of natural intervals that tile a prefix of the
response.
-/

namespace R2opl

open Checked

/-! ### Inputs -/

inductive StepKind where
  | reasoning
  | finalAnswer
deriving DecidableEq, Repr

inductive Confidence where
  | hard
  | soft
deriving DecidableEq, Repr

/-- One text step aligned to a contiguous span of original rollout ids. -/
structure TokenStep where
  index : Nat
  charStart : Nat
  charEnd : Nat
  tokenStart : Nat
  tokenEnd : Nat
  text : PyStr
  kind : StepKind
  boundaryReason : String
  confidence : Confidence
deriving DecidableEq, Repr

/-- What `build_r2opl_probe_layout` accepts as one semantic step. -/
inductive SemanticStep where
  | token (step : TokenStep)
  | seq (values : List Int)
deriving DecidableEq, Repr

/-- `_step_range`: a `TokenStep` must carry its own index, a sequence must be a
    pair. -/
def stepRange (step : SemanticStep) (index : Nat) : Except PyError (Int × Int) :=
  match step with
  | .token step => do
      raiseIf (step.index ≠ index) (valueError
        s!"R2OPL semantic steps must retain consecutive source indices; expected {index}, got {step.index}.")
      return (step.tokenStart, step.tokenEnd)
  | .seq [start, stop] => .ok (start, stop)
  | .seq _ => .error (valueError
      "Each R2OPL semantic step must be a TokenStep or a (token_start, token_end) pair.")

/-- `[_step_range(step, index) for index, step in enumerate(semantic_steps)]`,
    from the enumeration index on. -/
def stepRanges : Nat → List SemanticStep → Except PyError (List (Int × Int))
  | _, [] => .ok []
  | index, step :: rest => do
      let range ← stepRange step index
      let tail ← stepRanges (index + 1) rest
      return range :: tail

/-! ### Validation -/

/-- The loop of `_validate_semantic_ranges` from step `index` on, with the end
    of the previous step.  Accepted bounds are non-negative, so the normalised
    ranges are naturals. -/
def validateRangesFrom (responseLength : Nat) :
    Nat → Int → List (Int × Int) → Except PyError (List (Nat × Nat))
  | _, _, [] => .ok []
  | index, previousEnd, (start, stop) :: rest => do
      raiseIf (¬ (0 ≤ start ∧ start < stop ∧ stop ≤ responseLength)) (valueError
        s!"Invalid R2OPL semantic token interval at step {index}: ({start}, {stop}) for response length {responseLength}.")
      raiseIf (start ≠ previousEnd) (valueError
        s!"R2OPL semantic steps must be contiguous from response token zero; step {index} starts at {start}, expected {previousEnd}.")
      let normalized ← validateRangesFrom responseLength (index + 1) stop rest
      return (start.toNat, stop.toNat) :: normalized

def validateSemanticRanges (ranges : List (Int × Int)) (responseLength : Nat) :
    Except PyError (List (Nat × Nat)) :=
  validateRangesFrom responseLength 0 0 ranges

/-- A range list as the integers it is read back as. -/
def intRanges (ranges : List (Nat × Nat)) : List (Int × Int) :=
  ranges.map fun range => (↑range.1, ↑range.2)

theorem intRanges_injective : Function.Injective intRanges := by
  apply List.map_injective_iff.mpr
  intro range range' heq
  obtain ⟨hstart, hstop⟩ := Prod.mk.inj heq
  exact Prod.ext (Int.ofNat.inj hstart) (Int.ofNat.inj hstop)

/-! ### What validation accepts -/

/-- Non-empty intervals that tile `[previousEnd, …)` inside a response of
    `responseLength` tokens without a gap. -/
def TilesFrom (responseLength : Nat) : Nat → List (Nat × Nat) → Prop
  | _, [] => True
  | previousEnd, (start, stop) :: rest =>
      start = previousEnd ∧ start < stop ∧ stop ≤ responseLength ∧
        TilesFrom responseLength stop rest

/-- A contiguous list of step ranges from response token zero. -/
def Contiguous (responseLength : Nat) (ranges : List (Nat × Nat)) : Prop :=
  TilesFrom responseLength 0 ranges

theorem validateRangesFrom_eq_ok {responseLength : Nat} (ranges : List (Int × Int)) :
    ∀ (index previousEnd : Nat) (normalized : List (Nat × Nat)),
      validateRangesFrom responseLength index previousEnd ranges = .ok normalized ↔
        ranges = intRanges normalized ∧
          TilesFrom responseLength previousEnd normalized := by
  induction ranges with
  | nil =>
    intro index previousEnd normalized
    cases normalized with
    | nil => simp [validateRangesFrom, intRanges, TilesFrom]
    | cons range rest => simp [validateRangesFrom, intRanges]
  | cons range rest ih =>
    obtain ⟨start, stop⟩ := range
    intro index previousEnd normalized
    simp only [validateRangesFrom, bind_eq_ok, raiseIf_eq_ok, pure_eq_ok,
      Except.ok.injEq, exists_and_left, exists_const, not_not]
    constructor
    · rintro ⟨hbounds, hstart, tail, htail, rfl⟩
      obtain ⟨hzero, hlt, hle⟩ := hbounds
      -- the recursion continues from `stop`, which the check makes natural
      obtain ⟨stopNat, rfl⟩ := Int.eq_ofNat_of_zero_le (by omega : 0 ≤ stop)
      obtain ⟨hrest, htiles⟩ := (ih (index + 1) stopNat tail).mp htail
      refine ⟨?_, ?_⟩
      · simp only [intRanges, List.map_cons, List.cons.injEq, Prod.mk.injEq]
        exact ⟨⟨by omega, by omega⟩, hrest⟩
      · exact ⟨by omega, by simp; omega, by simp; omega, by simpa using htiles⟩
    · cases normalized with
      | nil => rintro ⟨heq, _⟩; simp [intRanges] at heq
      | cons head tail =>
        obtain ⟨first, last⟩ := head
        rintro ⟨heq, hfirst, hlt, hle, htiles⟩
        simp only [intRanges, List.map_cons, List.cons.injEq, Prod.mk.injEq] at heq
        obtain ⟨⟨rfl, rfl⟩, hrest⟩ := heq
        refine ⟨by omega, by omega, tail, ?_, by simp⟩
        exact (ih (index + 1) last tail).mpr ⟨hrest, htiles⟩

theorem validateSemanticRanges_eq_ok {responseLength : Nat}
    {ranges : List (Int × Int)} {normalized : List (Nat × Nat)} :
    validateSemanticRanges ranges responseLength = .ok normalized ↔
      ranges = intRanges normalized ∧ Contiguous responseLength normalized :=
  validateRangesFrom_eq_ok ranges 0 0 normalized

/-! ### Tilings -/

/-- The ends of consecutive steps, with the start of the first one: boundary
    `j` is where step `j` starts and step `j - 1` ends. -/
def boundaries (ranges : List (Nat × Nat)) : List Nat :=
  0 :: ranges.map Prod.snd

theorem TilesFrom.bounds {responseLength : Nat} :
    ∀ {ranges : List (Nat × Nat)} {previousEnd : Nat},
      TilesFrom responseLength previousEnd ranges →
      ∀ range ∈ ranges,
        previousEnd ≤ range.1 ∧ range.1 < range.2 ∧ range.2 ≤ responseLength := by
  intro ranges
  induction ranges with
  | nil =>
    intro previousEnd _ range hrange
    cases hrange
  | cons head rest ih =>
    obtain ⟨start, stop⟩ := head
    intro previousEnd htiles range hrange
    obtain ⟨hstart, hlt, hle, hrest⟩ := htiles
    rcases List.mem_cons.mp hrange with rfl | hmem
    · exact ⟨by simp; omega, hlt, hle⟩
    · obtain ⟨hlow, hpos, hhigh⟩ := ih hrest range hmem
      exact ⟨by omega, hpos, hhigh⟩

end R2opl
