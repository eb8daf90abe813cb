import R2opl.Probe.Layout
import R2opl.Splitter.RolloutSteps

/-!
# Probe metadata on the rollout side

`utils/answer_probe.py` tokenizes the gold answer inside a fixed template;
`utils/r2opl_probe.py` attaches that probe and the cumulative token ends of the
semantic steps to a rollout.
-/

namespace R2opl

open Checked

/-! ### The answer probe -/

/-- One round of the loop of `_probe_offsets_fallback`: a decode that is no prefix
    of the probe text holds the preceding boundary. -/
def recoverBoundary (tokenizer : Tokenizer) (probeIds : List Int) (probeText : PyStr)
    (boundaries : List Int) (tokenEnd : Nat) : List Int :=
  let decoded := tokenizer.decode (probeIds.take tokenEnd) false
  boundaries ++ [if decoded.isPrefixOf probeText then (decoded.length : Int)
    else boundaries.getLastD 0]

def probeOffsetsFallback (tokenizer : Tokenizer) (probeIds : List Int)
    (probeText : PyStr) : Except PyError (List (Int × Int)) := do
  let boundaries := (List.range' 1 probeIds.length).foldl
    (recoverBoundary tokenizer probeIds probeText) [0]
  raiseIf (boundaries.getLastD 0 ≠ probeText.length)
    (valueError "Cannot recover probe offsets from its original token IDs.")
  zipStrict boundaries.dropLast boundaries.tail

/-- The indices of the tokens whose span overlaps the answer. -/
def overlappingPositions (offsets : List (Int × Int)) (answerCharStart answerCharEnd : Nat) :
    List Int :=
  (offsets.zipIdx.filter fun item =>
    decide (item.1.2 > (answerCharStart : Int) ∧ item.1.1 < (answerCharEnd : Int))).map
      fun item => (item.2 : Int)

def buildAnswerProbe (tokenizer : Tokenizer) (answer : PyStr)
    (probePrefix probeSuffix : PyStr) (probeName : String) :
    Except PyError AnswerProbe := do
  raiseIf (strip probeName.toList = [])
    (valueError "Answer-probe probe_name must be a non-empty string.")
  raiseIf (answer = []) (valueError
    s!"{probeName} cannot construct an answer probe for an empty dataset answer.")
  let probeText := probePrefix ++ answer ++ probeSuffix
  let answerCharStart := probePrefix.length
  let answerCharEnd := answerCharStart + answer.length
  let (probeIds, encodedOffsets) := tokenizer.encode probeText
  let offsets ← match encodedOffsets with
    | some offsets => pure offsets
    | none => probeOffsetsFallback tokenizer probeIds probeText
  raiseIf (offsets.length ≠ probeIds.length)
    (valueError "Probe offset mapping and token IDs have different lengths.")
  raiseIf (tokenizer.decode probeIds false ≠ probeText) (valueError
    s!"The complete {probeName} answer probe does not round-trip through the tokenizer.")
  let answerPositions := overlappingPositions offsets answerCharStart answerCharEnd
  raiseIf (answerPositions = []) (valueError
    s!"{probeName} probe tokenization produced no token overlapping the answer text.")
  return ⟨probeText, probeIds, answerPositions, answerCharStart, answerCharEnd⟩

def r2oplProbePrefix : PyStr := "Therefore, the answer is \\boxed\x7b".toList

def r2oplProbeSuffix : PyStr := "\x7d.".toList

def buildR2oplAnswerProbe (tokenizer : Tokenizer) (answer : PyStr) :
    Except PyError AnswerProbe :=
  buildAnswerProbe tokenizer answer r2oplProbePrefix r2oplProbeSuffix "R²OPL"

/-! ### The metadata of a rollout -/

/-- Token metadata consumed by the packed student probe forward. -/
structure R2OPLProbeMetadata where
  probeTokenIds : List Int
  probeAnswerPositions : List Int
  semanticStepEnds : List Int
deriving DecidableEq, Repr

/-- Original-response token ends at which an answer probe is appended. -/
def R2OPLProbeMetadata.probeBoundaries (metadata : R2OPLProbeMetadata) : List Int :=
  if metadata.probeTokenIds = [] ∨ metadata.semanticStepEnds = [] then []
  else 0 :: metadata.semanticStepEnds.dropLast

/-- The loop of `_validate_semantic_step_ends`; `ends` is the whole list, for the
    error text. -/
def checkStepEndsFrom (ends : List Int) (responseLength : Nat) :
    Int → List Int → Except PyError Unit
  | _, [] => .ok ()
  | previous, stop :: rest => do
      raiseIf (stop ≤ previous ∨ stop > responseLength) (runtimeError
        ("R²OPL semantic-step token ends must be strictly increasing and " ++
          s!"within the response; got {listText (ends.map toString)} for response length {responseLength}."))
      checkStepEndsFrom ends responseLength stop rest

def validateSemanticStepEnds (ends : List Int) (responseLength : Nat) :
    Except PyError (List Int) := do
  checkStepEndsFrom ends responseLength 0 ends
  return ends

def buildR2oplProbeMetadata (detectors : Detectors) (tokenizer : Tokenizer)
    (responseIds : List Int) (answer : Option PyStr) :
    Except PyError R2OPLProbeMetadata := do
  let (_, steps) ← raiseFrom (splitRolloutSteps detectors responseIds tokenizer true)
    (runtimeError "R²OPL could not construct semantic reasoning steps.")
  let semanticStepEnds ← validateSemanticStepEnds
    (steps.map fun step => (step.tokenEnd : Int)) responseIds.length
  if semanticStepEnds.length < 2 then return ⟨[], [], semanticStepEnds⟩
  let answerText := answer.getD []
  raiseIf (strip answerText = []) (valueError
    "R²OPL requires a non-empty dataset answer when a rollout has non-terminal semantic steps to probe.")
  let answerProbe ← raiseFrom (buildR2oplAnswerProbe tokenizer answerText)
    (runtimeError "R²OPL could not construct its gold-answer probe.")
  let probeTokenIds := answerProbe.tokenIds
  let probeAnswerPositions := answerProbe.answerTokenPositions
  raiseIf (probeTokenIds = [] ∨ probeAnswerPositions = [])
    (runtimeError "R²OPL answer probe must contain scored answer tokens.")
  raiseIf (∃ position ∈ probeAnswerPositions,
      position ≤ 0 ∨ position ≥ probeTokenIds.length)
    (runtimeError
      "R²OPL answer-probe positions must have causal predecessors within the probe suffix.")
  return ⟨probeTokenIds, probeAnswerPositions, semanticStepEnds⟩

/-! ### What the producer emits -/

/-- Strictly increasing naturals above `previous` and at most `bound`. -/
def IncreasingFrom (bound : Nat) : Nat → List Nat → Prop
  | _, [] => True
  | previous, stop :: rest =>
      previous < stop ∧ stop ≤ bound ∧ IncreasingFrom bound stop rest

theorem checkStepEndsFrom_eq_ok {printed : List Int} {responseLength : Nat}
    (ends : List Nat) :
    ∀ previous : Nat, checkStepEndsFrom printed responseLength previous
        (ends.map Nat.cast) = .ok () ↔ IncreasingFrom responseLength previous ends := by
  induction ends with
  | nil => intro previous; simp [checkStepEndsFrom, IncreasingFrom]
  | cons stop rest ih =>
    intro previous
    simp only [List.map_cons, checkStepEndsFrom, raiseIf_bind_eq_ok, IncreasingFrom]
    rw [ih stop]
    constructor
    · rintro ⟨hbounds, hrest⟩
      exact ⟨by omega, by omega, hrest⟩
    · rintro ⟨hlt, hle, hrest⟩
      exact ⟨by omega, hrest⟩

/-- Metadata of a response: strictly increasing step ends, and from two steps on
    a probe whose answer tokens have predecessors. -/
structure ValidMetadata (responseLength : Nat) (ends : List Nat)
    (metadata : R2OPLProbeMetadata) : Prop where
  ends_eq : metadata.semanticStepEnds = ends.map Nat.cast
  increasing : IncreasingFrom responseLength 0 ends
  unprobed : ends.length < 2 →
    metadata.probeTokenIds = [] ∧ metadata.probeAnswerPositions = []
  ids_ne : 2 ≤ ends.length → metadata.probeTokenIds ≠ []
  answers_ne : 2 ≤ ends.length → metadata.probeAnswerPositions ≠ []
  answers_inside : ∀ position ∈ metadata.probeAnswerPositions,
    0 < position ∧ position < metadata.probeTokenIds.length

section Producer

variable {detectors : Detectors} {tokenizer : Tokenizer} {responseIds : List Int}
  {answer : Option PyStr} {metadata : R2OPLProbeMetadata}

theorem validMetadata_of_build
    (h : buildR2oplProbeMetadata detectors tokenizer responseIds answer = .ok metadata) :
    ∃ steps, splitRolloutSteps detectors responseIds tokenizer true =
        .ok (tokenizer.decode responseIds true, steps) ∧
      ValidMetadata responseIds.length (steps.map TokenStep.tokenEnd) metadata := by
  simp only [buildR2oplProbeMetadata, bind_eq_ok, raiseFrom_eq_ok, Prod.exists] at h
  obtain ⟨response, steps, hsplit, ends, hends, hrest⟩ := h
  have hresponse : response = tokenizer.decode responseIds true := by
    simp only [splitRolloutSteps, bind_eq_ok] at hsplit
    obtain ⟨textSteps, _, hsplit⟩ := hsplit
    split at hsplit
    · exact (Prod.mk.inj (Except.ok.inj hsplit)).1.symm
    · simp only [bind_eq_ok, raiseIf_eq_ok, pure_eq_ok, Except.ok.injEq,
        Prod.mk.injEq] at hsplit
      obtain ⟨_, _, _, _, _, _, heq, _⟩ := hsplit
      exact heq.symm
  subst hresponse
  refine ⟨steps, hsplit, ?_⟩
  simp only [validateSemanticStepEnds, bind_eq_ok, pure_eq_ok, Except.ok.injEq] at hends
  obtain ⟨⟨⟩, hcheck, rfl⟩ := hends
  have hcast : (steps.map fun step => (step.tokenEnd : Int)) =
      (steps.map TokenStep.tokenEnd).map Nat.cast := by
    rw [List.map_map]
    rfl
  rw [hcast] at hcheck hrest
  have hincreasing := (checkStepEndsFrom_eq_ok _ 0).mp hcheck
  split at hrest
  · next hfew =>
    obtain rfl := Except.ok.inj hrest
    rw [List.length_map] at hfew
    exact {
      ends_eq := rfl
      increasing := hincreasing
      unprobed := fun _ => ⟨rfl, rfl⟩
      ids_ne := fun hmany => absurd hfew (Nat.not_lt_of_le hmany)
      answers_ne := fun hmany => absurd hfew (Nat.not_lt_of_le hmany)
      answers_inside := fun _ hposition => absurd hposition List.not_mem_nil }
  · next hmany =>
    rw [List.length_map] at hmany
    simp only [bind_eq_ok, raiseIf_eq_ok, raiseFrom_eq_ok, exists_and_left, exists_const,
      pure_eq_ok, Except.ok.injEq, not_or] at hrest
    obtain ⟨_, probe, _, ⟨hids, hanswers⟩, hinside, rfl⟩ := hrest
    exact {
      ends_eq := rfl
      increasing := hincreasing
      unprobed := fun hfew => absurd hfew hmany
      ids_ne := fun _ => hids
      answers_ne := fun _ => hanswers
      answers_inside := by
        intro position hposition
        by_contra hout
        exact hinside ⟨position, hposition, by simp only at hout; omega⟩ }

/-- There is no step exactly when nothing of the response is visible. -/
theorem splitRolloutSteps_eq_nil {response : PyStr} {steps : List TokenStep}
    (h : splitRolloutSteps detectors responseIds tokenizer true = .ok (response, steps)) :
    steps = [] ↔ tokenizer.decode responseIds true = [] := by
  simp only [splitRolloutSteps, bind_eq_ok] at h
  obtain ⟨textSteps, htext, h⟩ := h
  have hpartition := splitTextSteps_eq_ok htext
  split at h
  · next hnil =>
    subst hnil
    have hlength : 0 = (tokenizer.decode responseIds true).length := hpartition
    have hsteps : ([] : List TokenStep) = steps := (Prod.mk.inj (Except.ok.inj h)).2
    simp [← hsteps, List.length_eq_zero_iff.mp hlength.symm]
  · next hsome =>
    simp only [bind_eq_ok, raiseIf_eq_ok, pure_eq_ok, Except.ok.injEq, Prod.mk.injEq,
      exists_and_left, exists_const, not_not, ne_eq] at h
    obtain ⟨alignment, _, _, hjoin, rfl, rfl⟩ := h
    rw [← hjoin]
    constructor
    · intro hnil
      rw [hnil, List.flatMap_nil]
    · intro hempty
      -- a non-empty partition has text
      rw [hjoin] at hempty
      obtain ⟨step, rest, rfl⟩ := List.exists_cons_of_ne_nil hsome
      obtain ⟨_, _, hlt, hle, _⟩ := hpartition
      rw [hempty] at hle
      simp only [List.length_nil] at hle
      omega

end Producer

end R2opl
