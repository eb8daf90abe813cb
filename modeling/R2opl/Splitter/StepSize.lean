import Mathlib.Data.List.ReduceOption
import R2opl.Splitter.Detectors

/-!
# The size of steps

The splitter asks for a minimum of substantive characters between consecutive markers of a
run.  It holds for the steps between two markers of one run; boundaries of different runs, or
of a run and the final answer, may be closer to each other.
-/

namespace R2opl

open Checked

/-! ### Lines -/

theorem splitLinesKeepEnds_ne_nil (text : PyStr) :
    ∀ current, ∀ value ∈ splitLinesKeepEnds current text, value ≠ [] := by
  induction text with
  | nil =>
    intro current value hvalue
    unfold splitLinesKeepEnds at hvalue
    by_cases hcurrent : current = []
    · rw [if_pos hcurrent] at hvalue
      exact absurd hvalue List.not_mem_nil
    · rw [if_neg hcurrent] at hvalue
      exact List.mem_singleton.mp hvalue ▸ hcurrent
  | cons c rest ih =>
    intro current value hvalue
    unfold splitLinesKeepEnds at hvalue
    split at hvalue
    · rcases List.mem_cons.mp hvalue with rfl | hrest
      · exact List.append_ne_nil_of_right_ne_nil _ (List.cons_ne_nil c [])
      · exact ih _ value hrest
    · exact ih _ value hvalue

theorem flatten_splitLinesKeepEnds (text : PyStr) :
    ∀ current, (splitLinesKeepEnds current text).flatten = current ++ text := by
  induction text with
  | nil =>
    intro current
    unfold splitLinesKeepEnds
    by_cases hcurrent : current = []
    · rw [if_pos hcurrent, hcurrent]
      rfl
    · rw [if_neg hcurrent]
      rfl
  | cons c rest ih =>
    intro current
    unfold splitLinesKeepEnds
    split
    · rw [List.flatten_cons, ih, List.append_assoc]
      rfl
    · rw [ih, List.append_assoc]
      rfl

theorem linesFrom_sorted (values : List PyStr) (hne : ∀ value ∈ values, value ≠ []) :
    ∀ cursor, (linesFrom cursor values).Pairwise (fun left right => left.start < right.start) ∧
      ∀ line ∈ linesFrom cursor values,
        cursor ≤ line.start ∧ line.start < cursor + values.flatten.length := by
  induction values with
  | nil => exact fun cursor => ⟨.nil, fun line hline => absurd hline List.not_mem_nil⟩
  | cons value rest ih =>
    intro cursor
    have hpos : 0 < value.length :=
      List.length_pos_iff.mpr (hne value List.mem_cons_self)
    obtain ⟨hsorted, hbounds⟩ := ih (fun other hother => hne other (List.mem_cons_of_mem value hother))
      (cursor + value.length)
    unfold linesFrom
    rw [List.flatten_cons, List.length_append]
    constructor
    · apply List.pairwise_cons.mpr ⟨_, hsorted⟩
      intro line hline
      exact (Nat.lt_add_of_pos_right hpos).trans_le (hbounds line hline).1
    · intro line hline
      rcases List.mem_cons.mp hline with rfl | hrest
      · exact ⟨Nat.le_refl _, Nat.lt_add_of_pos_right (Nat.add_pos_left hpos _)⟩
      · obtain ⟨hlow, hhigh⟩ := hbounds line hrest
        exact ⟨(Nat.le_add_right _ _).trans hlow, by rwa [← Nat.add_assoc]⟩

/-- The lines of a text start one after the other, inside of it. -/
theorem lines_sorted (text : PyStr) :
    (lines text).Pairwise (fun left right => left.start < right.start) ∧
      ∀ line ∈ lines text, line.start < text.length := by
  obtain ⟨hsorted, hbounds⟩ := linesFrom_sorted (splitLinesKeepEnds [] text)
    (splitLinesKeepEnds_ne_nil text []) 0
  rw [flatten_splitLinesKeepEnds, List.nil_append, Nat.zero_add] at hbounds
  exact ⟨hsorted, fun line hline => (hbounds line hline).2⟩

/-! ### Runs of markers -/

/-- The markers stand one after the other at starts of unprotected lines of the text. -/
structure MarkersOf (text : PyStr) (protected_ : List (Nat × Nat)) (markers : List Marker) :
    Prop where
  sorted : markers.Pairwise fun left right => left.position < right.position
  inside : ∀ marker ∈ markers, marker.position < text.length
  unprotected : ∀ marker ∈ markers, isProtected marker.position protected_ = false

variable {text : PyStr} {protected_ : List (Nat × Nat)} {markers run : List Marker}

theorem MarkersOf.sublist (h : MarkersOf text protected_ markers) (hrun : run.Sublist markers) :
    MarkersOf text protected_ run where
  sorted := h.sorted.sublist hrun
  inside := fun marker hmarker => h.inside marker (hrun.subset hmarker)
  unprotected := fun marker hmarker => h.unprotected marker (hrun.subset hmarker)

theorem unprotectedLines_spec (text : PyStr) (protected_ : List (Nat × Nat)) :
    (unprotectedLines (lines text) protected_).Pairwise
        (fun left right => left.start < right.start) ∧
      ∀ line ∈ unprotectedLines (lines text) protected_,
        line.start < text.length ∧ isProtected line.start protected_ = false := by
  obtain ⟨hsorted, hinside⟩ := lines_sorted text
  refine ⟨hsorted.filter _, ?_⟩
  intro line hline
  obtain ⟨hmem, hfree⟩ := List.mem_filter.mp hline
  exact ⟨hinside line hmem, by simpa using hfree⟩

/-- Markers made from some of the lines, at their starts. -/
theorem markersOf_of_positions {found : List Line}
    (hfound : found.Sublist (unprotectedLines (lines text) protected_))
    (hpositions : markers.map Marker.position = found.map Line.start) :
    MarkersOf text protected_ markers := by
  obtain ⟨hsorted, hinside⟩ := unprotectedLines_spec text protected_
  have hmem : ∀ marker ∈ markers, ∃ line ∈ unprotectedLines (lines text) protected_,
      line.start = marker.position := by
    intro marker hmarker
    have hposition := List.mem_map_of_mem (f := Marker.position) hmarker
    rw [hpositions] at hposition
    obtain ⟨line, hline, heq⟩ := List.mem_map.mp hposition
    exact ⟨line, hfound.subset hline, heq⟩
  constructor
  · have hstarts := List.pairwise_map.mpr (hsorted.sublist hfound)
    rw [← hpositions] at hstarts
    exact List.pairwise_map.mp hstarts
  · intro marker hmarker
    obtain ⟨line, hline, heq⟩ := hmem marker hmarker
    exact heq ▸ (hinside line hline).1
  · intro marker hmarker
    obtain ⟨line, hline, heq⟩ := hmem marker hmarker
    exact heq ▸ (hinside line hline).2

theorem collectMarkers_spec {marker : Line → Except PyError (Option Marker)}
    (hmarker : ∀ line found, marker line = .ok (some found) → found.position = line.start)
    (h : collectMarkers (lines text) protected_ marker = .ok markers) :
    MarkersOf text protected_ markers := by
  unfold collectMarkers at h
  obtain ⟨found, hfound, hmarkers⟩ := bind_eq_ok.mp h
  obtain rfl := Except.ok.inj hmarkers
  have hexists : ∀ (lines : List Line) found, lines.mapM marker = .ok found →
      ∃ kept : List Line, kept.Sublist lines ∧
        found.reduceOption.map Marker.position = kept.map Line.start := by
    intro lines
    induction lines with
    | nil =>
      intro found h
      obtain rfl := Except.ok.inj h
      exact ⟨[], .slnil, rfl⟩
    | cons line rest ih =>
      intro found h
      rw [List.mapM_cons] at h
      obtain ⟨first, hfirst, h⟩ := bind_eq_ok.mp h
      obtain ⟨later, hlater, h⟩ := bind_eq_ok.mp h
      obtain rfl := Except.ok.inj h
      obtain ⟨kept, hkept, hpositions⟩ := ih later hlater
      cases first with
      | none => exact ⟨kept, hkept.cons line, hpositions⟩
      | some first =>
        refine ⟨line :: kept, hkept.cons_cons line, ?_⟩
        rw [List.reduceOption_cons_of_some, List.map_cons, List.map_cons, hpositions,
          hmarker line first hfirst]
  obtain ⟨kept, hkept, hpositions⟩ := hexists _ _ hfound
  exact markersOf_of_positions hkept hpositions

theorem explicitMarker_position {line : Line} {found : Marker}
    (h : explicitMarker line = .ok (some found)) : found.position = line.start := by
  unfold explicitMarker at h
  split at h
  · cases h
  · split at h
    · cases h
    · obtain ⟨number, -, h⟩ := bind_eq_ok.mp h
      split at h
      · cases h
      · dsimp only at h
        split at h
        · cases h
        · obtain rfl := Option.some.inj (Except.ok.inj h)
          rfl

theorem numberedMarker_position {pattern : SplitterRegex} {family reason : String} {line : Line}
    {found : Marker} (h : numberedMarker pattern family reason line = .ok (some found)) :
    found.position = line.start := by
  unfold numberedMarker at h
  split at h
  · cases h
  · split at h
    · cases h
    · obtain ⟨number, -, h⟩ := bind_eq_ok.mp h
      obtain rfl := Option.some.inj (Except.ok.inj h)
      rfl

/-- Every run is read off the markers. -/
theorem increasingRuns_sublist : ∀ run ∈ increasingRuns markers, run.Sublist markers := by
  cases markers with
  | nil => exact fun run hrun => absurd hrun List.not_mem_nil
  | cons first rest =>
    have hfold : (∀ run ∈ (rest.foldl extendRun ([], [first])).1, run.Sublist (first :: rest)) ∧
        (rest.foldl extendRun ([], [first])).2.Sublist (first :: rest) := by
      apply foldl_accumulates (P := fun done (state : List (List Marker) × List Marker) =>
        (∀ run ∈ state.1, run.Sublist (first :: done)) ∧ state.2.Sublist (first :: done))
      · rintro done state marker - ⟨hruns, hcurrent⟩
        have hgrow : (first :: done).Sublist (first :: (done ++ [marker])) :=
          List.sublist_append_left (first :: done) [marker]
        unfold extendRun
        split
        · exact ⟨fun run hrun => (hruns run hrun).trans hgrow, hcurrent.append (.refl [marker])⟩
        · refine ⟨?_, (List.sublist_append_right (first :: done) [marker])⟩
          intro run hrun
          split at hrun
          · rcases List.mem_append.mp hrun with hold | hnew
            · exact (hruns run hold).trans hgrow
            · exact (List.mem_singleton.mp hnew ▸ hcurrent).trans hgrow
          · exact (hruns run hrun).trans hgrow
      · exact ⟨fun run hrun => absurd hrun List.not_mem_nil, .refl [first]⟩
    unfold increasingRuns
    dsimp only
    split
    · intro run hrun
      rcases List.mem_append.mp hrun with hold | hnew
      · exact hfold.1 run hold
      · exact List.mem_singleton.mp hnew ▸ hfold.2
    · exact hfold.1

/-- Consecutive markers of the run have a substantive text between them. -/
def Substantive (text : PyStr) (minimum : Nat) (run : List Marker) : Prop :=
  run.IsChain fun left right =>
    minimum ≤ substantiveLength (slice text left.position right.position)

theorem completeRunPrefix_spec (minimum : Nat) : ∀ run : List Marker,
    completeRunPrefix text minimum run <+: run ∧
      Substantive text minimum (completeRunPrefix text minimum run)
  | [] => ⟨List.nil_prefix, .nil⟩
  | [last] => by
    unfold completeRunPrefix
    dsimp only
    split
    · exact ⟨List.nil_prefix, .nil⟩
    · exact ⟨List.prefix_rfl, .singleton last⟩
  | marker :: next :: rest => by
    obtain ⟨hpre, hchain⟩ := completeRunPrefix_spec minimum (next :: rest)
    unfold completeRunPrefix
    split
    · exact ⟨List.nil_prefix, .nil⟩
    · next hlong =>
      refine ⟨(List.cons_prefix_cons).mpr ⟨rfl, hpre⟩, ?_⟩
      obtain hnil | ⟨tail, htail⟩ : completeRunPrefix text minimum (next :: rest) = [] ∨
          ∃ tail, completeRunPrefix text minimum (next :: rest) = next :: tail := by
        obtain ⟨after, hafter⟩ := hpre
        cases hcomplete : completeRunPrefix text minimum (next :: rest) with
        | nil => exact .inl rfl
        | cons first tail =>
          rw [hcomplete] at hafter
          exact .inr ⟨tail, by rw [(List.cons.inj hafter).1]⟩
      · rw [hnil]
        exact .singleton marker
      · rw [htail] at hchain ⊢
        exact .cons_cons (Nat.not_lt.mp hlong) hchain

/-- What every detector reports: runs of markers with at least `minimum` between them. -/
structure ValidRun (text : PyStr) (protected_ : List (Nat × Nat)) (minimum : Nat)
    (run : List Marker) : Prop extends MarkersOf text protected_ run where
  substantive : Substantive text minimum run

theorem completeRuns_spec {minimum : Nat} {runs : List (List Marker)}
    (h : ∀ run ∈ runs, MarkersOf text protected_ run) :
    ∀ run ∈ completeRuns text minimum runs, ValidRun text protected_ minimum run := by
  intro run hrun
  unfold completeRuns at hrun
  obtain ⟨whole, hwhole, rfl⟩ := List.mem_map.mp (List.mem_filter.mp hrun).1
  obtain ⟨hpre, hchain⟩ := @completeRunPrefix_spec text minimum whole
  exact ⟨(h whole hwhole).sublist hpre.sublist, hchain⟩

theorem ValidRun.mono {minimum minimum' : Nat} (hle : minimum' ≤ minimum)
    (h : ValidRun text protected_ minimum run) : ValidRun text protected_ minimum' run :=
  ⟨h.toMarkersOf, h.substantive.imp fun _ _ hlong => hle.trans hlong⟩

theorem siblings_spec (h : MarkersOf text protected_ markers) (signature : PyStr × Nat) :
    MarkersOf text protected_ (siblings markers signature) :=
  h.sublist List.filter_sublist

theorem increasingRuns_spec (h : MarkersOf text protected_ markers) :
    ∀ run ∈ increasingRuns markers, MarkersOf text protected_ run :=
  fun run hrun => h.sublist (increasingRuns_sublist run hrun)

/-- The runs of the siblings of every signature, filtered or not. -/
theorem signatureRuns_spec {minimum : Nat} (h : MarkersOf text protected_ markers)
    (select : List (List Marker) → List (List Marker)) (hselect : ∀ runs, select runs ⊆ runs) :
    ∀ run ∈ (signatures markers).flatMap fun signature =>
        completeRuns text minimum (select (increasingRuns (siblings markers signature))),
      ValidRun text protected_ minimum run := by
  intro run hrun
  obtain ⟨signature, -, hrun⟩ := List.mem_flatMap.mp hrun
  apply completeRuns_spec _ run hrun
  intro whole hwhole
  exact increasingRuns_spec (siblings_spec h signature) whole (hselect _ hwhole)

theorem shallowestRuns_subset (runs : List (List Marker)) : shallowestRuns runs ⊆ runs :=
  List.filter_subset_self _

variable {runs : List (List Marker)}

theorem explicitRuns_spec (h : explicitRuns text (lines text) protected_ = .ok runs) :
    ∀ run ∈ runs, ValidRun text protected_ 28 run := by
  unfold explicitRuns at h
  obtain ⟨markers, hmarkers, h⟩ := bind_eq_ok.mp h
  obtain rfl := Except.ok.inj h
  have hspec := collectMarkers_spec (fun _ _ => explicitMarker_position) hmarkers
  intro run hrun
  exact signatureRuns_spec hspec id (fun _ => List.Subset.refl _) run
    (shallowestRuns_subset _ hrun)

theorem markdownNumberedHeadingRuns_spec
    (h : markdownNumberedHeadingRuns text (lines text) protected_ = .ok runs) :
    ∀ run ∈ runs, ValidRun text protected_ 60 run := by
  unfold markdownNumberedHeadingRuns at h
  obtain ⟨markers, hmarkers, h⟩ := bind_eq_ok.mp h
  obtain rfl := Except.ok.inj h
  have hspec := collectMarkers_spec (fun _ _ => numberedMarker_position) hmarkers
  intro run hrun
  exact signatureRuns_spec hspec _ (List.filter_subset_self (p := isConsecutive)) run
    (shallowestRuns_subset _ hrun)

theorem boldNumberedHeadingRuns_spec
    (h : boldNumberedHeadingRuns text (lines text) protected_ = .ok runs) :
    ∀ run ∈ runs, ValidRun text protected_ 80 run := by
  unfold boldNumberedHeadingRuns at h
  obtain ⟨markers, hmarkers, h⟩ := bind_eq_ok.mp h
  obtain rfl := Except.ok.inj h
  have hspec := collectMarkers_spec (fun _ _ => numberedMarker_position) hmarkers
  exact signatureRuns_spec hspec _ (List.filter_subset_self (p := isConsecutive))

theorem numberedReasoningRuns_spec
    (h : numberedReasoningRuns text (lines text) protected_ = .ok runs) :
    ∀ run ∈ runs, ValidRun text protected_ 80 run := by
  unfold numberedReasoningRuns at h
  obtain ⟨markers, hmarkers, h⟩ := bind_eq_ok.mp h
  obtain rfl := Except.ok.inj h
  have hspec := collectMarkers_spec (fun _ _ => numberedMarker_position) hmarkers
  intro run hrun
  apply completeRuns_spec _ run (List.mem_of_mem_filter hrun)
  intro whole hwhole
  exact increasingRuns_spec hspec whole (List.mem_of_mem_filter hwhole)

theorem semanticMarkers_spec (heading : Line → Option (Regex.Match Char SplitterGroup))
    (family : String) (requireProcessLabel : Bool) :
    MarkersOf text protected_ (semanticMarkers (unprotectedLines (lines text) protected_) heading
      family requireProcessLabel) := by
  have hkept : ∀ open_ : List Line, ∃ kept : List Line, kept.Sublist open_ ∧
      (semanticMarkers open_ heading family requireProcessLabel).map Marker.position =
        kept.map Line.start := by
    intro open_
    let pick : Line → Option (Line × Regex.Match Char SplitterGroup) := fun line =>
      (heading line).bind fun found =>
        if isSemanticHeading (groupText found .title) requireProcessLabel then some (line, found)
        else none
    have hpick : ∀ line item, pick line = some item → item.1 = line := by
      intro line item hitem
      obtain ⟨found, -, hsome⟩ := Option.bind_eq_some_iff.mp hitem
      split at hsome
      · exact congrArg Prod.fst (Option.some.inj hsome).symm
      · cases hsome
    refine ⟨(open_.filterMap pick).map Prod.fst, ?_, ?_⟩
    · induction open_ with
      | nil => exact .slnil
      | cons line rest ih =>
        cases hline : pick line with
        | none =>
          rw [List.filterMap_cons_none hline]
          exact ih.cons line
        | some item =>
          rw [List.filterMap_cons_some hline, List.map_cons, hpick line item hline]
          exact ih.cons_cons line
    · unfold semanticMarkers
      apply List.ext_getElem
      · rw [List.length_map, List.length_mapIdx, List.length_map, List.length_map]
      · intro index hleft hright
        rw [List.getElem_map, List.getElem_mapIdx, List.getElem_map, List.getElem_map]
  obtain ⟨kept, hsub, hpositions⟩ := hkept (unprotectedLines (lines text) protected_)
  exact markersOf_of_positions hsub hpositions

theorem semanticHeadingRuns_spec :
    ∀ run ∈ semanticHeadingRuns text (lines text) protected_, ValidRun text protected_ 50 run := by
  intro run hrun
  unfold semanticHeadingRuns at hrun
  dsimp only at hrun
  split at hrun
  · apply completeRuns_spec _ run (shallowestRuns_subset _ hrun)
    intro whole hwhole
    obtain ⟨signature, -, rfl⟩ := List.mem_map.mp hwhole
    exact siblings_spec (semanticMarkers_spec _ _ _) signature
  · refine (completeRuns_spec ?_ run hrun).mono (by decide : 50 ≤ 60)
    intro whole hwhole
    obtain rfl := List.mem_singleton.mp hwhole
    exact semanticMarkers_spec _ _ _

/-! ### The runs of a response -/

/-- The runs of the first detector that reports a boundary. -/
def firstRuns (text : PyStr) (lines : List Line) (protected_ : List (Nat × Nat)) :
    List (PyStr → List Line → List (Nat × Nat) → Except PyError (List (List Marker))) →
    Except PyError (List (List Marker))
  | [] => .ok []
  | detect :: rest => do
      let runs ← detect text lines protected_
      if runs.flatMap (runBoundaries text) ≠ [] then return runs
      firstRuns text lines protected_ rest

def runDetectors :
    List (PyStr → List Line → List (Nat × Nat) → Except PyError (List (List Marker))) :=
  [explicitRuns, markdownNumberedHeadingRuns, boldNumberedHeadingRuns, numberedReasoningRuns,
    fun text lines protected_ => .ok (semanticHeadingRuns text lines protected_)]

/-- The runs whose markers a response is split at. -/
def detectedRuns (response : PyStr) : Except PyError (List (List Marker)) := do
  let protected_ ← protectedRanges response (lines response)
  firstRuns response (lines response) protected_ runDetectors

theorem firstDetected_eq (text : PyStr) (lines : List Line) (protected_ : List (Nat × Nat))
    (detectors : List (PyStr → List Line → List (Nat × Nat) →
      Except PyError (List (List Marker)))) :
    firstDetected text lines protected_ (detectors.map detectRuns) =
      (firstRuns text lines protected_ detectors).map fun runs =>
        runs.flatMap (runBoundaries text) := by
  induction detectors with
  | nil => rfl
  | cons detect rest ih =>
    rw [List.map_cons, firstDetected, firstRuns, detectRuns]
    cases detect text lines protected_ with
    | error error => rfl
    | ok runs =>
      rw [ok_bind, ok_bind, pure_eq_ok, ok_bind]
      by_cases hsome : runs.flatMap (runBoundaries text) ≠ []
      · rw [if_pos hsome, if_pos hsome]
        rfl
      · rw [if_neg hsome, if_neg hsome]
        exact ih

theorem firstRuns_mem {lines : List Line}
    {detectors : List (PyStr → List Line → List (Nat × Nat) →
      Except PyError (List (List Marker)))}
    (h : firstRuns text lines protected_ detectors = .ok runs) (hrun : run ∈ runs) :
    ∃ detect ∈ detectors, detect text lines protected_ = .ok runs := by
  induction detectors with
  | nil =>
    obtain rfl := Except.ok.inj h
    exact absurd hrun List.not_mem_nil
  | cons detect rest ih =>
    rw [firstRuns] at h
    obtain ⟨found, hfound, h⟩ := bind_eq_ok.mp h
    split at h
    · obtain rfl := Except.ok.inj h
      exact ⟨detect, List.mem_cons_self, hfound⟩
    · obtain ⟨other, hother, hruns⟩ := ih h
      exact ⟨other, List.mem_cons_of_mem detect hother, hruns⟩

/-- All runs that a response is split at keep the minimum of the explicit steps. -/
theorem firstRuns_spec (h : firstRuns text (lines text) protected_ runDetectors = .ok runs) :
    ∀ run ∈ runs, ValidRun text protected_ 28 run := by
  intro run hrun
  obtain ⟨detect, hdetect, hruns⟩ := firstRuns_mem h hrun
  unfold runDetectors at hdetect
  simp only [List.mem_cons, List.not_mem_nil, or_false] at hdetect
  rcases hdetect with rfl | rfl | rfl | rfl | rfl
  · exact explicitRuns_spec hruns run hrun
  · exact (markdownNumberedHeadingRuns_spec hruns run hrun).mono (by decide)
  · exact (boldNumberedHeadingRuns_spec hruns run hrun).mono (by decide)
  · exact (numberedReasoningRuns_spec hruns run hrun).mono (by decide)
  · obtain rfl := Except.ok.inj hruns
    exact (semanticHeadingRuns_spec run hrun).mono (by decide)

/-! ### Steps between boundaries -/

/-- No position of a boundary is lost. -/
theorem exists_mem_deduplicateBoundaries {boundaries : List Boundary} {boundary : Boundary}
    (h : boundary ∈ boundaries) :
    ∃ kept ∈ deduplicateBoundaries boundaries, kept.position = boundary.position := by
  have hpositions : ∀ (known : List Boundary) (next : Boundary), known.map Boundary.position ⊆
      (recordBoundary known next).map Boundary.position ∧
      next.position ∈ (recordBoundary known next).map Boundary.position := by
    intro known next
    unfold recordBoundary
    cases hfind : known.find? (·.position = next.position) with
    | none =>
      rw [List.map_append]
      exact ⟨List.subset_append_left _ _, List.mem_append_right _ List.mem_cons_self⟩
    | some previous =>
      have hprevious : next.position ∈ known.map Boundary.position := by
        have heq : previous.position = next.position := by simpa using List.find?_some hfind
        exact heq ▸ List.mem_map_of_mem (List.mem_of_find?_eq_some hfind)
      dsimp only
      split
      · have hsame : (known.map fun other =>
            if other.position = next.position then next else other).map Boundary.position =
            known.map Boundary.position := by
          rw [List.map_map]
          apply List.map_congr_left
          intro other _
          by_cases heq : other.position = next.position
          · rw [Function.comp, if_pos heq, heq]
          · rw [Function.comp, if_neg heq]
        rw [hsame]
        exact ⟨List.Subset.refl _, hprevious⟩
      · exact ⟨List.Subset.refl _, hprevious⟩
  have hall : ∀ (boundaries known : List Boundary),
      (known ++ boundaries).map Boundary.position ⊆
        (boundaries.foldl recordBoundary known).map Boundary.position := by
    intro boundaries
    induction boundaries with
    | nil =>
      intro known
      rw [List.append_nil]
      exact List.Subset.refl _
    | cons next rest ih =>
      intro known
      apply List.Subset.trans _ (ih (recordBoundary known next))
      rw [List.map_append, List.map_append, List.map_cons]
      intro position hposition
      rcases List.mem_append.mp hposition with hknown | hrest
      · exact List.mem_append_left _ ((hpositions known next).1 hknown)
      · rcases List.mem_cons.mp hrest with rfl | hlater
        · exact List.mem_append_left _ (hpositions known next).2
        · exact List.mem_append_right _ hlater
  have hmem := hall boundaries [] (List.mem_map_of_mem h)
  obtain ⟨kept, hkept, heq⟩ := List.mem_map.mp hmem
  exact ⟨kept, List.mem_mergeSort.mpr hkept, heq⟩

/-- A step is the text between two boundaries with none between them. -/
theorem buildTextSteps_spec {response : PyStr} {finalBox : Option (Nat × Nat)}
    {boundaries : List Boundary} (hsorted : boundaries.Pairwise fun left right =>
      left.position < right.position) : ∀ index, ∀ step ∈ buildTextSteps response finalBox index boundaries,
      (∃ boundary ∈ boundaries, boundary.position = step.charStart) ∧
      step.charStart < step.charEnd ∧
      step.text = slice response step.charStart step.charEnd ∧
      ∀ boundary ∈ boundaries,
        boundary.position ≤ step.charStart ∨ step.charEnd ≤ boundary.position := by
  induction boundaries with
  | nil => exact fun index step hstep => absurd hstep List.not_mem_nil
  | cons first rest ih =>
    intro index step hstep
    obtain ⟨hfirst, hrest⟩ := List.pairwise_cons.mp hsorted
    have hnext : ∀ boundary ∈ rest,
        rest.head?.elim response.length Boundary.position ≤ boundary.position := by
      intro boundary hboundary
      cases rest with
      | nil => exact absurd hboundary List.not_mem_nil
      | cons next rest =>
        rcases List.mem_cons.mp hboundary with rfl | hlater
        · exact Nat.le_refl _
        · exact (List.rel_of_pairwise_cons hrest hlater).le
    have hlater : ∀ index, step ∈ buildTextSteps response finalBox index rest →
        (∃ boundary ∈ first :: rest, boundary.position = step.charStart) ∧
        step.charStart < step.charEnd ∧
        step.text = slice response step.charStart step.charEnd ∧
        ∀ boundary ∈ first :: rest,
          boundary.position ≤ step.charStart ∨ step.charEnd ≤ boundary.position := by
      intro index hstep
      obtain ⟨⟨start, hstart, heq⟩, hlt, htext, hbetween⟩ := ih hrest index step hstep
      refine ⟨⟨start, List.mem_cons_of_mem first hstart, heq⟩, hlt, htext, ?_⟩
      intro boundary hboundary
      rcases List.mem_cons.mp hboundary with rfl | hmem
      · exact .inl (heq ▸ (hfirst start hstart).le)
      · exact hbetween boundary hmem
    rw [buildTextSteps] at hstep
    split at hstep
    · exact hlater _ hstep
    · next hlt =>
      rcases List.mem_cons.mp hstep with rfl | htail
      · refine ⟨⟨first, List.mem_cons_self, rfl⟩, Nat.not_le.mp hlt, rfl, ?_⟩
        intro boundary hboundary
        rcases List.mem_cons.mp hboundary with rfl | hmem
        · exact .inl (Nat.le_refl _)
        · exact .inr (hnext boundary hmem)
      · exact hlater _ htail

/-- A later marker of a run has its successor's segment before it. -/
theorem ValidRun.exists_next {minimum : Nat} (h : ValidRun text protected_ minimum run)
    {left right : Marker} (hleft : left ∈ run) (hright : right ∈ run)
    (hlt : left.position < right.position) : ∃ next ∈ run.tail,
      left.position < next.position ∧ next.position ≤ right.position ∧
      minimum ≤ substantiveLength (slice text left.position next.position) := by
  have hsorted := h.sorted
  have hchain := h.substantive
  clear h
  induction run with
  | nil => exact absurd hleft List.not_mem_nil
  | cons first rest ih =>
    obtain ⟨hfirst, hrest⟩ := List.pairwise_cons.mp hsorted
    unfold Substantive at hchain ih
    rcases List.mem_cons.mp hleft with rfl | hmem
    · rcases List.mem_cons.mp hright with rfl | hlater
      · exact absurd hlt (Nat.lt_irrefl _)
      · cases rest with
        | nil => exact absurd hlater List.not_mem_nil
        | cons next rest =>
          refine ⟨next, List.mem_cons_self, hfirst next List.mem_cons_self, ?_, ?_⟩
          · rcases List.mem_cons.mp hlater with rfl | hafter
            · exact Nat.le_refl _
            · exact (List.rel_of_pairwise_cons hrest hafter).le
          · exact (List.isChain_cons_cons.mp hchain).1
    · rcases List.mem_cons.mp hright with rfl | hlater
      · exact absurd hlt (Nat.not_lt.mpr (hfirst left hmem).le)
      · obtain ⟨next, hnext, hspec⟩ := ih hmem hlater hrest (List.IsChain.of_cons hchain)
        exact ⟨next, List.mem_of_mem_tail hnext, hspec⟩

/-- **The size of a step.**  A step that starts and ends at markers of one of the runs that a
    response is split at has at least the minimum of substantive characters. -/
theorem step_size (response : PyStr) (steps : List TextStep) (runs : List (List Marker))
    (hsteps : splitTextSteps conservativeDetectors response = .ok steps)
    (hruns : detectedRuns response = .ok runs) (step : TextStep) (hstep : step ∈ steps)
    (run : List Marker) (hrun : run ∈ runs)
    (hstart : step.charStart ∈ run.map Marker.position)
    (hend : step.charEnd ∈ run.map Marker.position) : 28 ≤ substantiveLength step.text := by
  by_cases hempty : response = []
  · unfold splitTextSteps at hsteps
    rw [if_pos hempty] at hsteps
    obtain rfl := Except.ok.inj hsteps
    exact absurd hstep List.not_mem_nil
  unfold splitTextSteps at hsteps
  rw [if_neg hempty] at hsteps
  obtain ⟨⟨candidates, finalBox⟩, hproposed, hsteps⟩ := bind_eq_ok.mp hsteps
  obtain ⟨-, hsteps⟩ := raiseIf_bind_eq_ok.mp hsteps
  obtain rfl := Except.ok.inj hsteps
  obtain ⟨hsorted, hinside⟩ := proposedBoundaries_sorted hproposed
  have hall : (⟨0, "start", .hard⟩ :: candidates).Pairwise fun left right : Boundary =>
      left.position < right.position :=
    List.pairwise_cons.mpr ⟨fun boundary hboundary => (hinside boundary hboundary).1, hsorted⟩
  obtain ⟨-, hlt, htext, hbetween⟩ := buildTextSteps_spec hall 0 step hstep
  unfold detectedRuns at hruns
  obtain ⟨protected_, hprotected, hruns⟩ := bind_eq_ok.mp hruns
  unfold proposedBoundaries at hproposed
  obtain ⟨ranges, hranges, hproposed⟩ := bind_eq_ok.mp hproposed
  obtain rfl := Except.ok.inj (hprotected.symm.trans hranges)
  obtain ⟨found, hfound, hproposed⟩ := bind_eq_ok.mp hproposed
  obtain ⟨final, -, hproposed⟩ := bind_eq_ok.mp hproposed
  obtain ⟨hcandidates, -⟩ := Prod.mk.inj (Except.ok.inj hproposed)
  have hdetected := firstDetected_eq response (lines response) protected_ runDetectors
  rw [hruns] at hdetected
  obtain rfl := Except.ok.inj (hfound.symm.trans hdetected)
  obtain ⟨left, hleft, hleftStart⟩ := List.mem_map.mp hstart
  obtain ⟨right, hright, hrightEnd⟩ := List.mem_map.mp hend
  have hvalid := firstRuns_spec hruns run hrun
  rw [← hleftStart, ← hrightEnd] at hlt
  obtain ⟨next, hnext, hafter, hbefore, hlong⟩ := hvalid.exists_next hleft hright hlt
  -- The next marker of the run is a boundary, so that the step ends there.
  have hboundary : markerBoundary next ∈
      runs.flatMap (runBoundaries response) ++ final.toList := by
    apply List.mem_append_left
    apply List.mem_flatMap.mpr
    refine ⟨run, hrun, ?_⟩
    cases run with
    | nil => exact absurd hnext List.not_mem_nil
    | cons first rest =>
      exact List.mem_append_right _ (List.mem_map_of_mem hnext)
  obtain ⟨kept, hkept, hposition⟩ := exists_mem_deduplicateBoundaries hboundary
  have hpos : kept.position = next.position := hposition
  have hmember : kept ∈ candidates := by
    rw [← hcandidates]
    apply List.mem_filter.mpr
    refine ⟨hkept, ?_⟩
    rw [hpos, hvalid.unprotected next (List.mem_of_mem_tail hnext), Bool.not_false, Bool.and_true]
    exact decide_eq_true ⟨Nat.zero_lt_of_lt hafter,
      hvalid.inside next (List.mem_of_mem_tail hnext)⟩
  have hends : next.position = step.charEnd := by
    rcases hbetween kept (List.mem_cons_of_mem _ hmember) with hle | hle
    · rw [hpos, ← hleftStart] at hle
      exact absurd hafter (Nat.not_lt.mpr hle)
    · rw [hpos] at hle
      exact Nat.le_antisymm (hbefore.trans hrightEnd.le) hle
  rw [htext, ← hleftStart, ← hends]
  exact hlong

/-! ### Responses with explicit steps -/

theorem deduplicateBoundaries_of_sorted {boundaries : List Boundary}
    (h : boundaries.Pairwise fun left right => left.position < right.position) :
    deduplicateBoundaries boundaries = boundaries := by
  have hrecorded : ∀ boundaries known : List Boundary,
      (known ++ boundaries).Pairwise (fun left right => left.position < right.position) →
      boundaries.foldl recordBoundary known = known ++ boundaries := by
    intro boundaries
    induction boundaries with
    | nil => exact fun known _ => (List.append_nil known).symm
    | cons boundary rest ih =>
      intro known hsorted
      have hnew : known.find? (·.position = boundary.position) = none := by
        apply List.find?_eq_none.mpr
        intro other hother
        have hlt := (List.pairwise_append.mp hsorted).2.2 other hother boundary List.mem_cons_self
        simpa using hlt.ne
      have hsplit : known ++ boundary :: rest = (known ++ [boundary]) ++ rest := by
        rw [List.append_assoc]
        rfl
      rw [List.foldl_cons, recordBoundary, hnew]
      dsimp only
      rw [ih _ (hsplit ▸ hsorted), hsplit]
  unfold deduplicateBoundaries
  rw [hrecorded boundaries [] h, List.nil_append]
  apply List.mergeSort_of_pairwise
  exact h.imp fun hlt => decide_eq_true hlt.le

/-- The steps of a response with explicit boundaries, in order. -/
theorem splitTextSteps_explicit {response : PyStr} {protected_ : List (Nat × Nat)}
    {explicit : List Boundary} {final : Option Boundary} {finalBox : Option (Nat × Nat)}
    (hprotected : protectedRanges response (lines response) = .ok protected_)
    (hbox : (balancedBoxes response).getLast? = finalBox)
    (hexplicit : detectRuns explicitRuns response (lines response) protected_ = .ok explicit)
    (hne : explicit ≠ [])
    (hfinal : finalBoundary conservativeDetectors response (lines response) protected_ finalBox =
      .ok final)
    (hsorted : (explicit ++ final.toList).Pairwise fun left right => left.position < right.position)
    (hinside : ∀ boundary ∈ explicit ++ final.toList,
      (0 < boundary.position ∧ boundary.position < response.length) ∧
        isProtected boundary.position protected_ = false) :
    splitTextSteps conservativeDetectors response = .ok (buildTextSteps response finalBox 0
      (⟨0, "start", .hard⟩ :: (explicit ++ final.toList))) := by
  have hproposed : proposedBoundaries conservativeDetectors response =
      .ok (explicit ++ final.toList, finalBox) := by
    have hfirst : firstDetected response (lines response) protected_
        [detectRuns explicitRuns, conservativeDetectors.markdownNumberedHeadingBoundaries,
          conservativeDetectors.boldNumberedHeadingBoundaries,
          conservativeDetectors.numberedReasoningBoundaries,
          conservativeDetectors.semanticHeadingBoundaries] = .ok explicit := by
      rw [firstDetected, hexplicit, ok_bind, if_pos hne]
      rfl
    unfold proposedBoundaries
    dsimp only
    change (protectedRanges response (lines response) >>= _) = _
    rw [hprotected, ok_bind, hbox]
    change (firstDetected response (lines response) protected_ [detectRuns explicitRuns, _, _, _, _]
      >>= _) = _
    rw [hfirst, ok_bind, hfinal, ok_bind, deduplicateBoundaries_of_sorted hsorted,
      List.filter_eq_self.mpr]
    · rfl
    · intro boundary hboundary
      obtain ⟨hrange, hfree⟩ := hinside boundary hboundary
      rw [hfree, Bool.not_false, Bool.and_true]
      exact decide_eq_true hrange
  have hlength : response ≠ [] := by
    rintro rfl
    obtain ⟨boundary, hboundary⟩ := List.exists_mem_of_ne_nil explicit hne
    exact absurd (hinside boundary (List.mem_append_left _ hboundary)).1.2 (Nat.not_lt_zero _)
  have hpartition : PartitionsFrom response 0 0 (buildTextSteps response finalBox 0
      (⟨0, "start", .hard⟩ :: (explicit ++ final.toList))) := by
    apply partitionsFrom_buildTextSteps finalBox (explicit ++ final.toList) 0 ⟨0, "start", .hard⟩
    · exact List.pairwise_cons.mpr ⟨fun boundary hboundary => (hinside boundary hboundary).1.1,
        hsorted⟩
    · intro boundary hboundary
      rcases List.mem_cons.mp hboundary with rfl | hmem
      · exact List.length_pos_iff.mpr hlength
      · exact (hinside boundary hmem).1.2
  have htext : (buildTextSteps response finalBox 0 (⟨0, "start", .hard⟩ ::
      (explicit ++ final.toList))).flatMap TextStep.text = response := hpartition.flatMap_text
  unfold splitTextSteps
  rw [if_neg hlength, hproposed, ok_bind]
  dsimp only
  rw [raiseIf_of_not (not_not.mpr htext)]
  rfl

/-- Two steps, the last of which is complete. -/
def twoSteps : PyStr :=
  "Step 1: adding two to two makes four.\nStep 2: half of the four is two again.".toList

def twoStepsMarkers : List Marker :=
  [⟨0, "step".toList, 1, 0, "explicit_step_sequence", .hard⟩,
    ⟨38, "step".toList, 2, 0, "explicit_step_sequence", .hard⟩]

/-- The steps of `twoSteps`. -/
def twoTextSteps : List TextStep :=
  buildTextSteps twoSteps none 0 (⟨0, "start", .hard⟩ ::
    (twoStepsMarkers.tail.map markerBoundary))

theorem split_twoSteps :
    splitTextSteps conservativeDetectors twoSteps = .ok twoTextSteps ∧
    detectedRuns twoSteps = .ok [twoStepsMarkers] := by
  have hprotected : protectedRanges twoSteps (lines twoSteps) = .ok [] := by decide +kernel
  have hruns : explicitRuns twoSteps (lines twoSteps) [] = .ok [twoStepsMarkers] := by
    decide +kernel
  have hexplicit : detectRuns explicitRuns twoSteps (lines twoSteps) [] =
      .ok (twoStepsMarkers.tail.map markerBoundary) := by
    unfold detectRuns
    rw [hruns]
    decide +kernel
  have hbox : (balancedBoxes twoSteps).getLast? = none := by decide +kernel
  have hfinal : finalBoundary conservativeDetectors twoSteps (lines twoSteps) [] none =
      .ok none := rfl
  constructor
  · have hsteps := splitTextSteps_explicit hprotected hbox hexplicit (by decide) hfinal
      (by decide) (by decide +kernel)
    rwa [Option.toList_none, List.append_nil] at hsteps
  · unfold detectedRuns
    rw [hprotected, ok_bind]
    unfold runDetectors firstRuns
    rw [hruns, ok_bind, if_pos (by decide +kernel)]
    rfl

theorem step_size_two_steps :
    splitTextSteps conservativeDetectors twoSteps = .ok twoTextSteps ∧
    detectedRuns twoSteps = .ok [twoStepsMarkers] ∧
    ∃ step ∈ twoTextSteps, step.charStart = 0 ∧ step.charEnd = 38 ∧
      28 ≤ substantiveLength step.text := by
  obtain ⟨hsteps, hruns⟩ := split_twoSteps
  let step : TextStep := ⟨0, 0, 38, slice twoSteps 0 38, .reasoning, "start", .hard⟩
  have hstep : step ∈ twoTextSteps := by decide +kernel
  exact ⟨hsteps, hruns, step, hstep, rfl, rfl,
    step_size twoSteps twoTextSteps [twoStepsMarkers] hsteps hruns step hstep
      twoStepsMarkers (by decide) (by decide) (by decide)⟩

/-- A short last step before the heading of the final answer. -/
def shortStep : PyStr :=
  ("Step 1: adding two to two makes four.\nStep 2: done.\n" ++
    "Final answer: it is \\boxed\x7b4\x7d.").toList

/-- The second of three steps is shorter than the minimum. -/
theorem step_size_not_global : ∃ steps before step after,
    splitTextSteps conservativeDetectors shortStep = .ok steps ∧
    steps = before ++ step :: after ∧ before ≠ [] ∧ after ≠ [] ∧
    step.text = "Step 2: done.\n".toList ∧ substantiveLength step.text = 10 := by
  have hprotected : protectedRanges shortStep (lines shortStep) = .ok [] := by decide +kernel
  have hexplicit : detectRuns explicitRuns shortStep (lines shortStep) [] =
      .ok [⟨38, "explicit_step_sequence", .hard⟩] := by
    decide +kernel
  have hbox : (balancedBoxes shortStep).getLast? = some (72, 81) := by decide +kernel
  have hfinal : finalBoundary conservativeDetectors shortStep (lines shortStep) []
      (some (72, 81)) = .ok (some ⟨52, "final_answer_heading", .hard⟩) := by
    decide +kernel
  refine ⟨_, [_], _, [_], splitTextSteps_explicit hprotected hbox hexplicit (by decide) hfinal
    (by decide) (by decide +kernel), rfl, ?_, ?_, ?_, ?_⟩
  · exact List.cons_ne_nil _ _
  · exact List.cons_ne_nil _ _
  · decide +kernel
  · decide +kernel

/-- A short part before the second of two steps. -/
def shortPart : PyStr :=
  ("Step 1: sums.\nPart 1: four and four always make eight.\nPart 2: done.\n" ++
    "Step 2: half of the eight is four again.").toList

set_option maxRecDepth 2000 in
/-- A step between the markers of two runs is shorter than the minimum. -/
theorem step_size_not_across_runs : ∃ steps before step after,
    splitTextSteps conservativeDetectors shortPart = .ok steps ∧
    steps = before ++ step :: after ∧ before ≠ [] ∧ after ≠ [] ∧
    step.text = "Part 2: done.\n".toList ∧ substantiveLength step.text = 10 := by
  have hprotected : protectedRanges shortPart (lines shortPart) = .ok [] := by decide +kernel
  have hexplicit : detectRuns explicitRuns shortPart (lines shortPart) [] =
      .ok [⟨55, "explicit_step_sequence", .hard⟩, ⟨69, "explicit_step_sequence", .hard⟩] := by
    decide +kernel
  have hbox : (balancedBoxes shortPart).getLast? = none := by decide +kernel
  have hfinal : finalBoundary conservativeDetectors shortPart (lines shortPart) [] none =
      .ok none := rfl
  refine ⟨_, [_], _, [_], splitTextSteps_explicit hprotected hbox hexplicit (by decide) hfinal
    (by decide) (by decide +kernel), rfl, ?_, ?_, ?_, ?_⟩
  · exact List.cons_ne_nil _ _
  · exact List.cons_ne_nil _ _
  · decide +kernel
  · decide +kernel

end R2opl
