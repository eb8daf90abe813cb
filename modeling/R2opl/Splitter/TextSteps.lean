import R2opl.Probe.Ranges

/-!
# Splitting a decoded response into text steps

`split_text_steps` of `utils/conservative_step_splitter.py`.  The detectors,
which look for authored structure in the text, are parameters: whatever they
report or raise, the spans built from their boundaries partition the text.
-/

namespace R2opl

open Checked

/-! ### Boundaries and their detectors -/

structure Line where
  start : Nat
  stop : Nat
  text : PyStr
deriving DecidableEq, Repr

structure Boundary where
  position : Nat
  reason : String
  confidence : Confidence
deriving DecidableEq, Repr

/-- One source-preserving text step. -/
structure TextStep where
  index : Nat
  charStart : Nat
  charEnd : Nat
  text : PyStr
  kind : StepKind
  boundaryReason : String
  confidence : Confidence
deriving DecidableEq, Repr

/-- A detector of one family of authored boundaries, given the text, its lines
    and the protected ranges. -/
abbrev BoundaryDetector :=
  PyStr → List Line → List (Nat × Nat) → Except PyError (List Boundary)

structure Detectors where
  protectedRanges : PyStr → List Line → Except PyError (List (Nat × Nat))
  explicitBoundaries : BoundaryDetector
  markdownNumberedHeadingBoundaries : BoundaryDetector
  boldNumberedHeadingBoundaries : BoundaryDetector
  numberedReasoningBoundaries : BoundaryDetector
  semanticHeadingBoundaries : BoundaryDetector
  finalAnswerBoundary : PyStr → List Line → List (Nat × Nat) → Option (Nat × Nat) →
    Except PyError (Option Boundary)
  finalAnswerParagraphBoundary : PyStr → List (Nat × Nat) → Option (Nat × Nat) →
    Except PyError (Option Boundary)

/-- Detectors that find nothing, as on a text without any authored structure. -/
def Detectors.silent : Detectors where
  protectedRanges := fun _ _ => .ok []
  explicitBoundaries := fun _ _ _ => .ok []
  markdownNumberedHeadingBoundaries := fun _ _ _ => .ok []
  boldNumberedHeadingBoundaries := fun _ _ _ => .ok []
  numberedReasoningBoundaries := fun _ _ _ => .ok []
  semanticHeadingBoundaries := fun _ _ _ => .ok []
  finalAnswerBoundary := fun _ _ _ _ => .ok none
  finalAnswerParagraphBoundary := fun _ _ _ => .ok none

def linesFrom : Nat → List PyStr → List Line
  | _, [] => []
  | cursor, value :: rest =>
      ⟨cursor, cursor + value.length, value⟩ :: linesFrom (cursor + value.length) rest

/-- `_lines`.  The kept line ends leave nothing after the last line. -/
def lines (text : PyStr) : List Line := linesFrom 0 (splitLinesKeepEnds [] text)

def isProtected (position : Nat) (ranges : List (Nat × Nat)) : Bool :=
  ranges.any fun range => decide (range.1 ≤ position ∧ position < range.2)

def boxPrefix : PyStr := "\\boxed\x7b".toList

/-- The scan for the brace that closes a box: the position after it, or `none`
    at the end of the text.  `previous` is the character before `position`. -/
def closeBox (previous : Char) : Nat → Nat → PyStr → Option Nat
  | 0, position, _ => some position
  | _ + 1, _, [] => none
  | depth + 1, position, c :: rest =>
      let escaped := previous = (Char.ofNat 92)
      if c = Char.ofNat 123 ∧ ¬ escaped then closeBox c (depth + 2) (position + 1) rest
      else if c = Char.ofNat 125 ∧ ¬ escaped then closeBox c depth (position + 1) rest
      else closeBox c (depth + 1) (position + 1) rest
termination_by structural _ _ text => text

/-- The box loop.  Every box moves the cursor, so the length of the text bounds
    the number of rounds. -/
def balancedBoxesFrom (text : PyStr) : Nat → Nat → List (Nat × Nat)
  | 0, _ => []
  | rounds + 1, cursor =>
      match findFrom boxPrefix text cursor with
      | none => []
      | some start =>
          let inside := start + boxPrefix.length
          match closeBox (Char.ofNat 123) 1 inside (text.drop inside) with
          | none => []
          | some position => (start, position) :: balancedBoxesFrom text rounds position

def balancedBoxes (text : PyStr) : List (Nat × Nat) :=
  balancedBoxesFrom text (text.length + 1) 0

/-! ### Splitting -/

/-- One round of `_deduplicate_boundaries`: a hard boundary replaces a soft one
    at its position, otherwise the first one stays. -/
def recordBoundary (byPosition : List Boundary) (boundary : Boundary) : List Boundary :=
  match byPosition.find? (·.position = boundary.position) with
  | none => byPosition ++ [boundary]
  | some previous =>
      if previous.confidence = .soft ∧ boundary.confidence = .hard then
        byPosition.map fun other =>
          if other.position = boundary.position then boundary else other
      else byPosition

def deduplicateBoundaries (boundaries : List Boundary) : List Boundary :=
  (boundaries.foldl recordBoundary []).mergeSort fun left right =>
    decide (left.position ≤ right.position)

/-- The first detector of the list that reports anything. -/
def firstDetected (text : PyStr) (lines : List Line) (protected_ : List (Nat × Nat)) :
    List BoundaryDetector → Except PyError (List Boundary)
  | [] => .ok []
  | detector :: rest => do
      let candidates ← detector text lines protected_
      if candidates ≠ [] then return candidates
      firstDetected text lines protected_ rest

def finalBoundary (detectors : Detectors) (response : PyStr) (lines : List Line)
    (protected_ : List (Nat × Nat)) (finalBox : Option (Nat × Nat)) :
    Except PyError (Option Boundary) := do
  match ← detectors.finalAnswerBoundary response lines protected_ finalBox with
  | some boundary => return some boundary
  | none => detectors.finalAnswerParagraphBoundary response protected_ finalBox

/-- The boundaries a non-empty response is split at, and its last box. -/
def proposedBoundaries (detectors : Detectors) (response : PyStr) :
    Except PyError (List Boundary × Option (Nat × Nat)) := do
  let lines := lines response
  let protected_ ← detectors.protectedRanges response lines
  let finalBox := (balancedBoxes response).getLast?
  let candidates ← firstDetected response lines protected_
    [detectors.explicitBoundaries, detectors.markdownNumberedHeadingBoundaries,
      detectors.boldNumberedHeadingBoundaries, detectors.numberedReasoningBoundaries,
      detectors.semanticHeadingBoundaries]
  let final ← finalBoundary detectors response lines protected_ finalBox
  let candidates := candidates ++ final.toList
  return ((deduplicateBoundaries candidates).filter fun boundary =>
    decide (0 < boundary.position ∧ boundary.position < response.length) &&
      !isProtected boundary.position protected_, finalBox)

/-- The step loop, from the next step index and the remaining reasons on. -/
def buildTextSteps (response : PyStr) (finalBox : Option (Nat × Nat)) :
    Nat → List Boundary → List TextStep
  | _, [] => []
  | index, reason :: rest =>
      let start := reason.position
      let stop := rest.head?.elim response.length Boundary.position
      if start ≥ stop then buildTextSteps response finalBox index rest
      else
        { index := index
          charStart := start
          charEnd := stop
          text := slice response start stop
          kind := if finalBox.any fun box => decide (start ≤ box.1 ∧ box.1 < stop) then
            .finalAnswer else .reasoning
          boundaryReason := reason.reason
          confidence := reason.confidence } ::
        buildTextSteps response finalBox (index + 1) rest

def splitTextSteps (detectors : Detectors) (response : PyStr) :
    Except PyError (List TextStep) := do
  if response = [] then return []
  let (candidates, finalBox) ← proposedBoundaries detectors response
  let steps := buildTextSteps response finalBox 0 (⟨0, "start", .hard⟩ :: candidates)
  raiseIf (steps.flatMap TextStep.text ≠ response)
    (runtimeError "Text steps do not exactly recover the source response.")
  return steps

/-! ### The spans partition the text -/

/-- Consecutive non-empty spans of `text` from `start` to its end, numbered from
    `index`. -/
def PartitionsFrom (text : PyStr) : Nat → Nat → List TextStep → Prop
  | _, start, [] => start = text.length
  | index, start, step :: rest =>
      step.index = index ∧ step.charStart = start ∧ start < step.charEnd ∧
        step.charEnd ≤ text.length ∧ step.text = slice text start step.charEnd ∧
        PartitionsFrom text (index + 1) step.charEnd rest

theorem PartitionsFrom.flatMap_text {text : PyStr} :
    ∀ {steps : List TextStep} {index start : Nat}, PartitionsFrom text index start steps →
      steps.flatMap TextStep.text = text.drop start := by
  intro steps
  induction steps with
  | nil =>
    intro index start h
    rw [show start = text.length from h, List.drop_length, List.flatMap_nil]
  | cons step rest ih =>
    intro index start h
    obtain ⟨_, _, hlt, hle, htext, hrest⟩ := h
    rw [List.flatMap_cons, ih hrest, htext, slice]
    conv_rhs => rw [← List.take_append_drop (step.charEnd - start) (text.drop start)]
    rw [List.drop_drop, show start + (step.charEnd - start) = step.charEnd by omega]

theorem PartitionsFrom.le_length {text : PyStr} {steps : List TextStep}
    {index start : Nat} (h : PartitionsFrom text index start steps) :
    start ≤ text.length := by
  cases steps with
  | nil => exact Nat.le_of_eq h
  | cons step rest =>
    obtain ⟨_, _, hlt, hle, _⟩ := h
    omega

theorem recordBoundary_nodup {byPosition : List Boundary} (boundary : Boundary)
    (h : (byPosition.map Boundary.position).Nodup) :
    ((recordBoundary byPosition boundary).map Boundary.position).Nodup := by
  rw [recordBoundary]
  cases hfind : byPosition.find? (·.position = boundary.position) with
  | none =>
    rw [List.find?_eq_none] at hfind
    simp only [List.map_append, List.map_cons, List.map_nil]
    rw [List.nodup_append]
    refine ⟨h, by simp, ?_⟩
    intro position hposition other hother
    obtain ⟨known, hknown, rfl⟩ := List.mem_map.mp hposition
    obtain rfl := List.mem_singleton.mp hother
    simpa using hfind known hknown
  | some previous =>
    by_cases hreplace : previous.confidence = .soft ∧ boundary.confidence = .hard
    · have hpositions : (byPosition.map fun other =>
          if other.position = boundary.position then boundary else other).map
            Boundary.position = byPosition.map Boundary.position := by
        rw [List.map_map]
        apply List.map_congr_left
        intro other _
        by_cases hsame : other.position = boundary.position <;> simp [hsame]
      simp only [hreplace, and_self, if_true, hpositions]
      exact h
    · simp only [hreplace, if_false]
      exact h

theorem deduplicateBoundaries_sorted (boundaries : List Boundary) :
    (deduplicateBoundaries boundaries).Pairwise fun left right =>
      left.position < right.position := by
  have hnodup : ∀ (boundaries known : List Boundary), (known.map Boundary.position).Nodup →
      ((boundaries.foldl recordBoundary known).map Boundary.position).Nodup := by
    intro boundaries
    induction boundaries with
    | nil => intro known h; exact h
    | cons boundary rest ih =>
      intro known h
      exact ih _ (recordBoundary_nodup boundary h)
  have hdistinct : (deduplicateBoundaries boundaries).Pairwise fun left right =>
      left.position ≠ right.position := by
    have hperm := List.mergeSort_perm (boundaries.foldl recordBoundary [])
      fun left right => decide (left.position ≤ right.position)
    have h := (hperm.map Boundary.position).nodup_iff.mpr (hnodup boundaries [] (by simp))
    exact List.pairwise_map.mp h
  have hordered : (deduplicateBoundaries boundaries).Pairwise fun left right =>
      left.position ≤ right.position := by
    let le : Boundary → Boundary → Bool := fun left right =>
      decide (left.position ≤ right.position)
    have htrans : ∀ a b c, le a b = true → le b c = true → le a c = true := by
      intro a b c hab hbc
      simp only [le, decide_eq_true_eq] at hab hbc ⊢
      exact Nat.le_trans hab hbc
    have htotal : ∀ a b, (le a b || le b a) = true := by
      intro a b
      simp only [le, Bool.or_eq_true, decide_eq_true_eq]
      exact Nat.le_total _ _
    have h := List.pairwise_mergeSort htrans htotal (boundaries.foldl recordBoundary [])
    exact h.imp fun hle => of_decide_eq_true hle
  exact (hordered.and hdistinct).imp fun ⟨hle, hne⟩ => Nat.lt_of_le_of_ne hle hne

/-- Strictly increasing boundaries inside the text cut it from the first one on. -/
theorem partitionsFrom_buildTextSteps {response : PyStr} (finalBox : Option (Nat × Nat))
    (boundaries : List Boundary) :
    ∀ (index : Nat) (reason : Boundary),
      (reason :: boundaries).Pairwise (fun left right => left.position < right.position) →
      (∀ boundary ∈ reason :: boundaries, boundary.position < response.length) →
      PartitionsFrom response index reason.position
        (buildTextSteps response finalBox index (reason :: boundaries)) := by
  induction boundaries with
  | nil =>
    intro index reason _ hinside
    have hlt := hinside reason List.mem_cons_self
    rw [buildTextSteps, if_neg (by simpa using hlt)]
    exact ⟨rfl, rfl, hlt, Nat.le_refl _, rfl, rfl⟩
  | cons next rest ih =>
    intro index reason hsorted hinside
    obtain ⟨hhead, htail⟩ := List.pairwise_cons.mp hsorted
    have hlt := hhead next List.mem_cons_self
    rw [buildTextSteps, if_neg (by simpa using hlt)]
    refine ⟨rfl, rfl, hlt, ?_, rfl, ?_⟩
    · exact Nat.le_of_lt (hinside next (List.mem_cons_of_mem _ List.mem_cons_self))
    · exact ih (index + 1) next htail fun boundary hboundary =>
        hinside boundary (List.mem_cons_of_mem _ hboundary)

/-- The boundaries a response is split at are strictly increasing and strictly
    inside it. -/
theorem proposedBoundaries_sorted {detectors : Detectors} {response : PyStr}
    {candidates : List Boundary} {finalBox : Option (Nat × Nat)}
    (h : proposedBoundaries detectors response = .ok (candidates, finalBox)) :
    candidates.Pairwise (fun left right => left.position < right.position) ∧
      ∀ boundary ∈ candidates,
        0 < boundary.position ∧ boundary.position < response.length := by
  simp only [proposedBoundaries, bind_eq_ok, pure_eq_ok, Except.ok.injEq,
    Prod.mk.injEq] at h
  obtain ⟨_, _, _, _, _, _, rfl, _⟩ := h
  refine ⟨(deduplicateBoundaries_sorted _).filter _, ?_⟩
  intro boundary hboundary
  have hkept := (List.mem_filter.mp hboundary).2
  rw [Bool.and_eq_true, decide_eq_true_eq] at hkept
  exact hkept.1

/-- The steps between the boundaries of a response partition it. -/
theorem proposedBoundaries_partition {detectors : Detectors} {response : PyStr}
    {candidates : List Boundary} {finalBox : Option (Nat × Nat)} (hne : response ≠ [])
    (h : proposedBoundaries detectors response = .ok (candidates, finalBox)) :
    PartitionsFrom response 0 0
      (buildTextSteps response finalBox 0 (⟨0, "start", .hard⟩ :: candidates)) := by
  obtain ⟨hsorted, hinside⟩ := proposedBoundaries_sorted h
  have hlength := List.length_pos_iff.mpr hne
  apply partitionsFrom_buildTextSteps finalBox candidates 0 ⟨0, "start", .hard⟩
  · exact List.pairwise_cons.mpr ⟨fun boundary hboundary =>
      (hinside boundary hboundary).1, hsorted⟩
  · intro boundary hboundary
    rcases List.mem_cons.mp hboundary with rfl | hmem
    · exact hlength
    · exact (hinside boundary hmem).2

/-- Whatever the detectors report, the steps returned partition the text, and
    the check that they do never fails. -/
theorem splitTextSteps_eq_ok {detectors : Detectors} {response : PyStr}
    {steps : List TextStep} (h : splitTextSteps detectors response = .ok steps) :
    PartitionsFrom response 0 0 steps := by
  by_cases hempty : response = []
  · simp only [splitTextSteps, hempty, if_true, pure_eq_ok, Except.ok.injEq] at h
    subst h hempty
    exact rfl
  · simp only [splitTextSteps, hempty, if_false, bind_eq_ok, raiseIf_eq_ok,
      pure_eq_ok, Except.ok.injEq, exists_and_left, exists_const, Prod.exists] at h
    obtain ⟨candidates, finalBox, hproposed, _, rfl⟩ := h
    exact proposedBoundaries_partition hempty hproposed

end R2opl
