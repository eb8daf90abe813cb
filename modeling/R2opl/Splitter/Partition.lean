import R2opl.Splitter.BoxAgreement
import R2opl.Splitter.ProtectedRanges
import R2opl.Splitter.StepSize

/-!
# The partition of a response

`split_text_steps` of `utils/conservative_step_splitter.py` with all its detectors: when it
returns at all, and what the steps are that it returns.
-/

namespace R2opl

open Checked Regex

/-- A closed box lies somewhere in the text. -/
def HasBalancedBox (text : PyStr) : Prop :=
  ∃ before inner after, text = before ++ boxPrefix ++ (inner ++ rightBrace :: after) ∧
    PlainEnclosed inner

/-- The steps are consecutive non-empty spans of the text, none of them but the first starts inside
    of a protected range, and one of them is the final answer if the text has one. -/
structure SplitsInto (text : PyStr) (steps : List TextStep) : Prop where
  partition : PartitionsFrom text 0 0 steps
  unprotected : ∀ ranges, protectedRanges text (lines text) = .ok ranges →
    ∀ step ∈ steps.tail, isProtected step.charStart ranges = false
  answered : HasBalancedBox text → steps.countP (fun step => step.kind = .finalAnswer) = 1
  unanswered : ¬ HasBalancedBox text → ∀ step ∈ steps, step.kind = .reasoning

/-! ### Numbers that `int` converts -/

/-- The line is a marker of an explicit step with more digits than `int` converts. -/
def LongExplicit (line : Line) : Prop :=
  ∃ found, explicitStepRe.matchAt line.text 0 = some found ∧ groupText found .indent = [] ∧
    (groupText found .number).all (fun c => (decimalValue c).isSome) = true ∧
    maxStrDigits < (groupText found .number).length

/-- The line is a numbered marker with more digits than `int` converts. -/
def LongNumbered (pattern : SplitterRegex) (line : Line) : Prop :=
  ∃ found, pattern.matchAt (lineContent line) 0 = some found ∧ groupText found .indent = [] ∧
    maxStrDigits < (groupText found .number).length

/-- The detectors in their order, each with the lines whose number it cannot convert. -/
def orderedDetectors : List (BoundaryDetector × (Line → Prop)) :=
  [(conservativeDetectors.explicitBoundaries, LongExplicit),
    (conservativeDetectors.markdownNumberedHeadingBoundaries,
      LongNumbered markdownNumberedHeadingRe),
    (conservativeDetectors.boldNumberedHeadingBoundaries, LongNumbered boldNumberedHeadingRe),
    (conservativeDetectors.numberedReasoningBoundaries, LongNumbered numberedBoldLabelRe),
    (conservativeDetectors.semanticHeadingBoundaries, fun _ => False)]

/-- Up to the first detector that reports anything, the lines outside of the protected ranges have
    only numbers that can be converted. -/
def NumbersConvert (text : PyStr) (ranges : List (Nat × Nat)) :
    List (BoundaryDetector × (Line → Prop)) → Prop
  | [] => True
  | (detector, long) :: rest =>
      (∀ line ∈ unprotectedLines (lines text) ranges, ¬ long line) ∧
        (detector text (lines text) ranges = .ok [] → NumbersConvert text ranges rest)

/-- What a text must not have: a fence with more marks than a pattern repeats, a marker with more
    digits than `int` converts, and an unclosed box before all closed ones. -/
structure Splittable (text : PyStr) : Prop where
  fences : ∀ begin, Meets text fenceRe fenceClosing 0 begin →
    (groupText begin .mark).length < maxRepeat
  numbers : ∀ ranges, protectedRanges text (lines text) = .ok ranges →
    NumbersConvert text ranges orderedDetectors
  boxes : HasBalancedBox text → ¬ ReadsNoBox text

theorem returns_intOfDigits {value : PyStr} :
    Returns (intOfDigits value) ↔ ¬ maxStrDigits < value.length := by
  unfold intOfDigits Returns
  simp only [raiseIf_bind_eq_ok, pure_eq_ok, exists_and_left]
  exact and_iff_left ⟨_, rfl⟩

theorem returns_markerNumber {value : PyStr} :
    Returns (markerNumber value) ↔
      ¬ (value.all (fun c => (decimalValue c).isSome) = true ∧ maxStrDigits < value.length) := by
  unfold markerNumber
  split
  · next hdigits =>
    rw [returns_bind, and_iff_right hdigits, ← returns_intOfDigits]
    constructor
    · rintro ⟨number, hnumber, _⟩
      exact ⟨number, hnumber⟩
    · rintro ⟨number, hnumber⟩
      exact ⟨number, hnumber, .ok _⟩
  · next hdigits => exact ⟨fun _ h => hdigits h.1, fun _ => .ok _⟩

/-- A first match decides what a marker is. -/
theorem exists_found {found : Match Char SplitterGroup} {result : Option (Match Char SplitterGroup)}
    (h : result = some found) {P : Match Char SplitterGroup → Prop} :
    (∃ found, result = some found ∧ P found) ↔ P found := by
  rw [h]
  constructor
  · rintro ⟨other, hother, hP⟩
    rwa [Option.some.inj hother]
  · exact fun hP => ⟨found, rfl, hP⟩

theorem returns_explicitMarker {line : Line} :
    Returns (explicitMarker line) ↔ ¬ LongExplicit line := by
  unfold explicitMarker LongExplicit
  cases hmatch : explicitStepRe.matchAt line.text 0 with
  | none => exact ⟨fun _ => nofun, fun _ => .ok none⟩
  | some found =>
    rw [exists_found rfl]
    dsimp only
    split
    · next hindent => exact ⟨fun _ h => hindent h.1, fun _ => .ok none⟩
    · next hindent =>
      rw [and_iff_right (not_not.mp hindent), ← returns_markerNumber]
      simp only [returns_bind]
      constructor
      · rintro ⟨number, hnumber, _⟩
        exact ⟨number, hnumber⟩
      · rintro ⟨number, hnumber⟩
        refine ⟨number, hnumber, ?_⟩
        cases number with
        | none => exact .ok none
        | some number =>
          dsimp only
          split
          · exact .ok none
          · exact .ok _

theorem returns_numberedMarker {pattern : SplitterRegex} {family reason : String} {line : Line} :
    Returns (numberedMarker pattern family reason line) ↔ ¬ LongNumbered pattern line := by
  unfold numberedMarker LongNumbered
  cases hmatch : pattern.matchAt (lineContent line) 0 with
  | none => exact ⟨fun _ => nofun, fun _ => .ok none⟩
  | some found =>
    rw [exists_found rfl]
    dsimp only
    split
    · next hindent => exact ⟨fun _ h => hindent h.1, fun _ => .ok none⟩
    · next hindent =>
      rw [and_iff_right (not_not.mp hindent), ← returns_intOfDigits]
      simp only [returns_bind]
      constructor
      · rintro ⟨number, hnumber, _⟩
        exact ⟨number, hnumber⟩
      · rintro ⟨number, hnumber⟩
        exact ⟨number, hnumber, .ok _⟩

/-- A detector that collects markers returns where it can read each of them. -/
theorem returns_detectRuns (text : PyStr) (lines : List Line) (ranges : List (Nat × Nat))
    (detect : PyStr → List Line → List (Nat × Nat) → Except PyError (List (List Marker)))
    {marker : Line → Except PyError (Option Marker)} {long : Line → Prop}
    (hmarker : ∀ line, Returns (marker line) ↔ ¬ long line)
    {runs : List Marker → List (List Marker)}
    (hdetect : detect text lines ranges = do return runs (← collectMarkers lines ranges marker)) :
    Returns (detectRuns detect text lines ranges) ↔
      ∀ line ∈ unprotectedLines lines ranges, ¬ long line := by
  unfold detectRuns
  rw [hdetect]
  unfold collectMarkers
  simp only [returns_bind, ← hmarker]
  rw [← returns_mapM_iff]
  constructor
  · rintro ⟨_, hruns, _⟩
    obtain ⟨_, hmarkers, _⟩ := bind_eq_ok.mp hruns
    obtain ⟨markers, hmap, _⟩ := bind_eq_ok.mp hmarkers
    exact ⟨markers, hmap⟩
  · rintro ⟨markers, hmap⟩
    rw [hmap]
    exact ⟨_, rfl, .ok _⟩

/-- A detector returns where it can convert the numbers of the lines that it reads. -/
theorem returns_orderedDetectors (text : PyStr) (ranges : List (Nat × Nat)) :
    ∀ entry ∈ orderedDetectors, Returns (entry.1 text (lines text) ranges) ↔
      ∀ line ∈ unprotectedLines (lines text) ranges, ¬ entry.2 line := by
  have hexplicit := returns_detectRuns text (lines text) ranges explicitRuns
    (fun _ => returns_explicitMarker) rfl
  have hmarkdown := returns_detectRuns text (lines text) ranges markdownNumberedHeadingRuns
    (fun _ => returns_numberedMarker) rfl
  have hbold := returns_detectRuns text (lines text) ranges boldNumberedHeadingRuns
    (fun _ => returns_numberedMarker) rfl
  have hnumbered := returns_detectRuns text (lines text) ranges numberedReasoningRuns
    (fun _ => returns_numberedMarker) rfl
  unfold orderedDetectors
  simp only [List.forall_mem_cons, List.not_mem_nil, false_implies, implies_true, and_true]
  refine ⟨hexplicit, hmarkdown, hbold, hnumbered, ?_⟩
  exact ⟨fun _ _ _ => not_false, fun _ => .ok _⟩

theorem returns_firstDetected {text : PyStr} {ranges : List (Nat × Nat)}
    {entries : List (BoundaryDetector × (Line → Prop))}
    (hentries : ∀ entry ∈ entries, Returns (entry.1 text (lines text) ranges) ↔
      ∀ line ∈ unprotectedLines (lines text) ranges, ¬ entry.2 line) :
    Returns (firstDetected text (lines text) ranges (entries.map Prod.fst)) ↔
      NumbersConvert text ranges entries := by
  induction entries with
  | nil => exact ⟨fun _ => trivial, fun _ => .ok []⟩
  | cons entry rest ih =>
    obtain ⟨hentry, hrest⟩ := List.forall_mem_cons.mp hentries
    rw [List.map_cons, firstDetected, NumbersConvert, ← hentry, ← ih hrest, returns_bind]
    constructor
    · rintro ⟨candidates, hcandidates, hlater⟩
      refine ⟨⟨candidates, hcandidates⟩, fun hnone => ?_⟩
      obtain rfl := Except.ok.inj (hcandidates.symm.trans hnone)
      exact hlater
    · rintro ⟨⟨candidates, hcandidates⟩, hlater⟩
      refine ⟨candidates, hcandidates, ?_⟩
      split
      · exact .ok candidates
      · next hnone =>
        rw [not_not] at hnone
        exact hlater (hnone ▸ hcandidates)

/-! ### The steps -/

theorem returns_finalBoundary (text : PyStr) (lines : List Line) (ranges : List (Nat × Nat))
    (finalBox : Option (Nat × Nat)) :
    Returns (finalBoundary conservativeDetectors text lines ranges finalBox) := by
  unfold finalBoundary
  rw [returns_bind]
  refine ⟨finalAnswerBoundary text lines ranges finalBox, rfl, ?_⟩
  split
  · exact .ok _
  · exact .ok _

/-- The splitter returns where its scanners and its detectors do. -/
theorem returns_splitTextSteps {text : PyStr} (hne : text ≠ []) :
    Returns (splitTextSteps conservativeDetectors text) ↔
      ∃ ranges, protectedRanges text (lines text) = .ok ranges ∧
        NumbersConvert text ranges orderedDetectors := by
  have hproposed : Returns (proposedBoundaries conservativeDetectors text) ↔
      ∃ ranges, protectedRanges text (lines text) = .ok ranges ∧
        NumbersConvert text ranges orderedDetectors := by
    unfold proposedBoundaries
    rw [returns_bind]
    apply exists_congr
    intro ranges
    apply and_congr_right
    intro _
    rw [← returns_firstDetected (returns_orderedDetectors text ranges), returns_bind]
    constructor
    · rintro ⟨candidates, hcandidates, _⟩
      exact ⟨candidates, hcandidates⟩
    · rintro ⟨candidates, hcandidates⟩
      refine ⟨candidates, hcandidates, ?_⟩
      obtain ⟨final, hfinal⟩ :=
        returns_finalBoundary text (lines text) ranges (balancedBoxes text).getLast?
      rw [hfinal]
      exact .ok _
  rw [← hproposed]
  unfold splitTextSteps
  rw [if_neg hne, returns_bind]
  constructor
  · rintro ⟨proposed, hproposed, _⟩
    exact ⟨proposed, hproposed⟩
  · rintro ⟨⟨candidates, finalBox⟩, hproposed⟩
    refine ⟨_, hproposed, ?_⟩
    dsimp only
    have hrecovers := (proposedBoundaries_partition hne hproposed).flatMap_text
    rw [List.drop_zero] at hrecovers
    rw [raiseIf_of_not (not_not.mpr hrecovers)]
    exact .ok _

/-- In a partition one step holds a position of the text. -/
theorem PartitionsFrom.countP {text : PyStr} {steps : List TextStep} {index start position : Nat}
    (h : PartitionsFrom text index start steps) (hlt : position < text.length) :
    steps.countP (fun step => step.charStart ≤ position ∧ position < step.charEnd) =
      if start ≤ position then 1 else 0 := by
  induction steps generalizing index start with
  | nil =>
    have hstart : start = text.length := h
    rw [if_neg (by omega)]
    rfl
  | cons step rest ih =>
    obtain ⟨_, hstart, hstep, _, _, hrest⟩ := h
    rw [List.countP_cons, ih hrest, hstart]
    simp only [decide_eq_true_eq]
    split
    · next hlater => rw [if_neg (by omega), if_pos (by omega)]
    · next hlater =>
      by_cases hfirst : start ≤ position
      · rw [if_pos ⟨hfirst, Nat.not_le.mp hlater⟩, if_pos hfirst]
      · rw [if_neg (fun h => hfirst h.1), if_neg hfirst]

theorem PartitionsFrom.le_charStart {text : PyStr} {steps : List TextStep} {index start : Nat}
    (h : PartitionsFrom text index start steps) : ∀ step ∈ steps, start ≤ step.charStart := by
  induction steps generalizing index start with
  | nil => exact nofun
  | cons first rest ih =>
    obtain ⟨_, hstart, hlt, _, _, hrest⟩ := h
    refine List.forall_mem_cons.mpr ⟨hstart.ge, fun step hstep => ?_⟩
    exact hlt.le.trans (ih hrest step hstep)

/-- All steps but the first start inside of the text. -/
theorem PartitionsFrom.tail_charStart {text : PyStr} {steps : List TextStep}
    (h : PartitionsFrom text 0 0 steps) : ∀ step ∈ steps.tail, 0 < step.charStart := by
  cases steps with
  | nil => exact nofun
  | cons first rest =>
    obtain ⟨_, _, hlt, _, _, hrest⟩ := h
    exact fun step hstep => hlt.trans_le (hrest.le_charStart step hstep)

/-- A step is the final answer where the last box starts in it. -/
theorem buildTextSteps_kind {response : PyStr} {finalBox : Option (Nat × Nat)}
    {boundaries : List Boundary} :
    ∀ index, ∀ step ∈ buildTextSteps response finalBox index boundaries,
      step.kind = if finalBox.any fun box => decide (step.charStart ≤ box.1 ∧ box.1 < step.charEnd)
        then .finalAnswer else .reasoning := by
  induction boundaries with
  | nil => exact fun index step hstep => absurd hstep List.not_mem_nil
  | cons first rest ih =>
    intro index step hstep
    rw [buildTextSteps] at hstep
    split at hstep
    · exact ih _ step hstep
    · rcases List.mem_cons.mp hstep with rfl | hlater
      · rfl
      · exact ih _ step hlater

/-- What the boundaries are that a response is split at. -/
theorem proposedBoundaries_eq_ok {text : PyStr} {candidates : List Boundary}
    {finalBox : Option (Nat × Nat)}
    (h : proposedBoundaries conservativeDetectors text = .ok (candidates, finalBox)) :
    finalBox = (balancedBoxes text).getLast? ∧
      ∀ ranges, protectedRanges text (lines text) = .ok ranges →
        ∀ boundary ∈ candidates, isProtected boundary.position ranges = false := by
  simp only [proposedBoundaries, bind_eq_ok, pure_eq_ok, Except.ok.injEq, Prod.mk.injEq] at h
  obtain ⟨ranges, hranges, _, _, _, _, rfl, rfl⟩ := h
  refine ⟨rfl, fun ranges' hranges' boundary hboundary => ?_⟩
  obtain rfl := Except.ok.inj (hranges.symm.trans hranges')
  have hkept := (List.mem_filter.mp hboundary).2
  rw [Bool.and_eq_true, Bool.not_eq_true'] at hkept
  exact hkept.2

theorem hasBalancedBox_of_reads {text : PyStr} (h : ¬ ReadsNoBox text) :
    ∃ box, (balancedBoxes text).getLast? = some box ∧ box.1 < text.length ∧
      HasBalancedBox text := by
  have hne : balancedBoxes text ≠ [] := fun hnil => h (balancedBoxes_eq_nil_iff.mp hnil)
  obtain ⟨box, hbox⟩ := Option.ne_none_iff_exists'.mp (mt List.getLast?_eq_none_iff.mp hne)
  obtain ⟨before, inner, after, hread, rfl⟩ := balancedBoxes_getLast?_iff.mp hbox
  refine ⟨_, hbox, ?_, before, inner, after, hread.split, hread.enclosed⟩
  rw [hread.split]
  simp only [boxSpan, List.length_append, List.length_cons]
  omega

/-- Whatever the splitter returns is a partition outside of the protected ranges, and labels one
    step where it reads a box. -/
theorem splitTextSteps_spec {text : PyStr} {steps : List TextStep}
    (h : splitTextSteps conservativeDetectors text = .ok steps) :
    PartitionsFrom text 0 0 steps ∧
      (∀ ranges, protectedRanges text (lines text) = .ok ranges →
        ∀ step ∈ steps.tail, isProtected step.charStart ranges = false) ∧
      (¬ ReadsNoBox text → steps.countP (fun step => step.kind = .finalAnswer) = 1) ∧
      (ReadsNoBox text → ∀ step ∈ steps, step.kind = .reasoning) := by
  have hpartition := splitTextSteps_eq_ok h
  refine ⟨hpartition, ?_⟩
  by_cases hempty : text = []
  · subst hempty
    obtain rfl : [] = steps := by
      unfold splitTextSteps at h
      rw [if_pos rfl] at h
      exact Except.ok.inj h
    have hnone : ReadsNoBox [] := balancedBoxes_eq_nil_iff.mp (by decide)
    exact ⟨fun _ _ => nofun, fun hreads => absurd hnone hreads, fun _ => nofun⟩
  · unfold splitTextSteps at h
    rw [if_neg hempty] at h
    obtain ⟨⟨candidates, finalBox⟩, hproposed, h⟩ := bind_eq_ok.mp h
    obtain ⟨-, h⟩ := raiseIf_bind_eq_ok.mp h
    obtain rfl := Except.ok.inj h
    obtain ⟨rfl, hunprotected⟩ := proposedBoundaries_eq_ok hproposed
    obtain ⟨hsorted, hinside⟩ := proposedBoundaries_sorted hproposed
    have hall : (⟨0, "start", .hard⟩ :: candidates).Pairwise fun left right : Boundary =>
        left.position < right.position :=
      List.pairwise_cons.mpr ⟨fun boundary hboundary => (hinside boundary hboundary).1, hsorted⟩
    refine ⟨?_, ?_, ?_⟩
    · intro ranges hranges step hstep
      have hpositive := hpartition.tail_charStart step hstep
      obtain ⟨⟨boundary, hboundary, hstart⟩, _⟩ :=
        buildTextSteps_spec hall 0 step (List.mem_of_mem_tail hstep)
      rcases List.mem_cons.mp hboundary with rfl | hcandidate
      · exact absurd hstart hpositive.ne
      · exact hstart ▸ hunprotected ranges hranges boundary hcandidate
    · intro hreads
      obtain ⟨box, hbox, hlt, _⟩ := hasBalancedBox_of_reads hreads
      have hcount := hpartition.countP hlt
      rw [if_pos (Nat.zero_le _)] at hcount
      rw [← hcount]
      apply List.countP_congr
      intro step hstep
      rw [buildTextSteps_kind 0 step hstep, hbox]
      simp only [Option.any_some, decide_eq_true_eq]
      split
      · next hinside => exact ⟨fun _ => hinside, fun _ => rfl⟩
      · next houtside => exact ⟨nofun, fun hinside => absurd hinside houtside⟩
    · intro hnone step hstep
      rw [buildTextSteps_kind 0 step hstep, balancedBoxes_eq_nil_iff.mpr hnone]
      rfl

theorem exists_protectedRanges_iff {text : PyStr} :
    (∃ ranges, protectedRanges text (lines text) = .ok ranges) ↔
      ∀ begin, Meets text fenceRe fenceClosing 0 begin →
        (groupText begin .mark).length < maxRepeat := by
  rw [← exists_rawScan_iff]
  constructor
  · rintro ⟨ranges, hranges⟩
    obtain ⟨raw, hraw, _⟩ := protectedRanges_eq_ok.mp hranges
    exact ⟨raw, hraw⟩
  · rintro ⟨raw, hraw⟩
    exact ⟨_, protectedRanges_eq_ok.mpr ⟨raw, hraw, rfl⟩⟩

/-- There is no number in a text without lines. -/
theorem numbersConvert_of_no_lines {text : PyStr} {ranges : List (Nat × Nat)}
    (h : lines text = []) (entries : List (BoundaryDetector × (Line → Prop))) :
    NumbersConvert text ranges entries := by
  induction entries with
  | nil => trivial
  | cons entry rest ih =>
    refine ⟨fun line hline => ?_, fun _ => ih⟩
    rw [h] at hline
    exact absurd hline List.not_mem_nil

theorem splittable_iff {text : PyStr} :
    Splittable text ↔ Returns (splitTextSteps conservativeDetectors text) ∧
      (HasBalancedBox text → ¬ ReadsNoBox text) := by
  by_cases hempty : text = []
  · subst hempty
    have hranges : protectedRanges [] (lines []) = .ok [] := by decide +kernel
    have hreturns : Returns (splitTextSteps conservativeDetectors []) := ⟨[], rfl⟩
    rw [and_iff_right hreturns]
    refine ⟨Splittable.boxes, fun hboxes => ⟨?_, ?_, hboxes⟩⟩
    · exact exists_protectedRanges_iff.mp ⟨[], hranges⟩
    · exact fun ranges _ => numbersConvert_of_no_lines rfl _
  · rw [returns_splitTextSteps hempty]
    constructor
    · rintro ⟨hfences, hnumbers, hboxes⟩
      obtain ⟨ranges, hranges⟩ := exists_protectedRanges_iff.mpr hfences
      exact ⟨⟨ranges, hranges, hnumbers ranges hranges⟩, hboxes⟩
    · rintro ⟨⟨ranges, hranges, hnumbers⟩, hboxes⟩
      refine ⟨exists_protectedRanges_iff.mp ⟨ranges, hranges⟩, fun ranges' hranges' => ?_, hboxes⟩
      obtain rfl := Except.ok.inj (hranges.symm.trans hranges')
      exact hnumbers

/-- **The partition of a response.**  A text is split into consecutive non-empty spans that start
    outside of the protected ranges, one of them the final answer if the text has a closed box,
    exactly when nothing in it stops the splitter and its first box is closed if any is. -/
theorem splitTextSteps_splitsInto (text : PyStr) :
    (∃ steps, splitTextSteps conservativeDetectors text = .ok steps ∧ SplitsInto text steps) ↔
      Splittable text := by
  rw [splittable_iff]
  constructor
  · rintro ⟨steps, hsteps, hsplits⟩
    refine ⟨⟨steps, hsteps⟩, fun hbox hnone => ?_⟩
    -- without a box that is read no step is the final answer
    obtain ⟨-, -, -, hreasoning⟩ := splitTextSteps_spec hsteps
    have hcount := hsplits.answered hbox
    rw [List.countP_eq_zero.mpr fun step hstep => by rw [hreasoning hnone step hstep]; decide]
      at hcount
    exact absurd hcount Nat.zero_ne_one
  · rintro ⟨⟨steps, hsteps⟩, hboxes⟩
    obtain ⟨hpartition, hunprotected, hanswered, hreasoning⟩ := splitTextSteps_spec hsteps
    refine ⟨steps, hsteps, hpartition, hunprotected, fun hbox => hanswered (hboxes hbox), ?_⟩
    intro hbox
    apply hreasoning
    by_contra hreads
    obtain ⟨_, _, _, hread⟩ := hasBalancedBox_of_reads hreads
    exact hbox hread

/-- After a box that is never closed, the closed one is not read, and no step is the answer. -/
theorem not_splitTextSteps_unclosed_box :
    ¬ ∃ steps, splitTextSteps conservativeDetectors "\\boxed\x7bx \\boxed\x7b5\x7d".toList =
        .ok steps ∧ SplitsInto "\\boxed\x7bx \\boxed\x7b5\x7d".toList steps := by
  rintro ⟨steps, hsteps, hsplits⟩
  have hbox : HasBalancedBox "\\boxed\x7bx \\boxed\x7b5\x7d".toList :=
    ⟨"\\boxed\x7bx ".toList, ['5'], [], by decide, ⟨by decide, by decide⟩⟩
  have hunread : ReadsNoBox "\\boxed\x7bx \\boxed\x7b5\x7d".toList :=
    balancedBoxes_eq_nil_iff.mp (by decide +kernel)
  have hcount := hsplits.answered hbox
  rw [List.countP_eq_zero.mpr fun step hstep => by
    rw [(splitTextSteps_spec hsteps).2.2.2 hunread step hstep]; decide] at hcount
  exact absurd hcount Nat.zero_ne_one

end R2opl
