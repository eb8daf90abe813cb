import R2opl.Dataset.Records
import R2opl.Unicode
import Mathlib.Algebra.Order.Field.Basic
import Mathlib.Algebra.Order.Ring.Rat
import Mathlib.Algebra.Field.Rat
import Mathlib.Algebra.BigOperators.Group.List.Basic

/-!
# Validation metrics

`compute_pass_avg_metrics` and `selected_avg_metrics` (`utils/opd_runtime.py`) report one
Avg@k and Pass@k for each data set, under a key derived from its name by
`validation_namespace`.
-/

namespace R2opl

open Checked

variable {K : Type} [Field K] [LinearOrder K]

/-! ### Names of metrics -/

/-- The components of a POSIX path. -/
def pathComponents (path : PyStr) : List PyStr :=
  (path.splitOn '/').filter fun component => component ≠ [] && component ≠ ['.']

/-- `Path(path).stem`: the last component up to its last dot, unless the dot begins or ends
    it. -/
def pathStem (path : PyStr) : PyStr :=
  let name := (pathComponents path).getLastD []
  let extension := name.reverse.takeWhile (· ≠ '.')
  let dot := name.length - extension.length - 1
  if extension.length < name.length ∧ 0 < dot ∧ extension ≠ [] then name.take dot else name

/-- `lower`, up to characters that a metric name drops: besides the capital letters, the
    Kelvin sign and the dotted capital I have a lower case with an ASCII letter. -/
def lowerForMetric (c : Char) : List Char :=
  if c.toNat = 0x212a then ['k']
  else if c.toNat = 0x130 then ['i', Char.ofNat 0x307]
  else [c.toLower]

/-- `re.sub(r"20(\d{2})$", r"\1", name)` at the end of the text. -/
def shortenYearAtEnd (text : PyStr) : PyStr :=
  match text.reverse with
  | d :: c :: '0' :: '2' :: before =>
      if (decimalValue c).isSome ∧ (decimalValue d).isSome then (d :: c :: before).reverse
      else text
  | _ => text

/-- The same; the end may also come before a last line feed. -/
def shortenYear (text : PyStr) : PyStr :=
  if text.getLast? = some '\n' then shortenYearAtEnd text.dropLast ++ ['\n']
  else shortenYearAtEnd text

/-- `[a-z0-9]` -/
def isMetricChar (c : Char) : Bool :=
  ('a'.toNat ≤ c.toNat && c.toNat ≤ 'z'.toNat) || ('0'.toNat ≤ c.toNat && c.toNat ≤ '9'.toNat)

/-- What is left of a data set name. -/
def benchmarkName (dataSource : PyStr) : PyStr :=
  (shortenYear ((pathStem dataSource).flatMap lowerForMetric)).filter isMetricChar

section Repr

variable (repr : PyStr → String)

def validationNamespace (dataSource : PyStr) : Except PyError PyStr := do
  raiseIf (benchmarkName dataSource = [])
    (valueError s!"Cannot derive a validation name from {repr dataSource}")
  return "val-".toList ++ benchmarkName dataSource

/-! ### Metrics of one data set -/

structure ValidationSample (K : Type) where
  source : PyStr
  uid : PyStr
  accuracy : K

/-- `np.mean` -/
def exactMean (values : List K) : K := values.sum / values.length

/-- The rows of accuracies, one for each question, in order of first occurrence. -/
def questionRows (samples : List (ValidationSample K)) : List (List K) :=
  (Dict.groupBy ValidationSample.uid [] samples).map fun group =>
    group.2.map ValidationSample.accuracy

/-- The first `k` accuracies of a question are all there are. -/
def avgOf (rows : List (List K)) : K := exactMean (rows.map exactMean)

/-- `max(row)` -/
def rowMax (row : List K) : K := row.foldl max (row.headD 0)

def passOf (rows : List (List K)) : K := exactMean (rows.map rowMax)

def firstOf (rows : List (List K)) : K := exactMean (rows.map fun row => row.headD 0)

def passKey (prefixName : PyStr) (k : Nat) : PyStr := prefixName ++ "-core/Pass@".toList ++ natText k

def avgKey (prefixName : PyStr) (k : Nat) : PyStr := prefixName ++ "-core/Avg@".toList ++ natText k

/-- The entries of one data set in the loop of `compute_pass_avg_metrics`. -/
def addSourceMetrics (expectedRollouts : Nat) (metrics : List (PyStr × K))
    (group : PyStr × List (ValidationSample K)) : Except PyError (List (PyStr × K)) := do
  let uidToAccuracy := Dict.groupBy ValidationSample.uid [] group.2
  let bad := uidToAccuracy.filter fun entry => entry.2.length ≠ expectedRollouts
  raiseIf (bad ≠ []) (runtimeError
    (s!"Expected {expectedRollouts} rollouts per question; mismatches: " ++
      listText ((bad.take 5).map fun entry => s!"({repr entry.1}, {entry.2.length})")))
  let values := questionRows group.2
  let prefixName ← validationNamespace repr group.1
  return Dict.set (Dict.set (Dict.set metrics (passKey prefixName 1) (firstOf values))
    (passKey prefixName expectedRollouts) (passOf values))
    (avgKey prefixName expectedRollouts) (avgOf values)

/-- `compute_pass_avg_metrics`, on the zipped samples. -/
def computePassAvgMetrics (samples : List (ValidationSample K)) (expectedRollouts : Nat) :
    Except PyError (List (PyStr × K)) :=
  (Dict.groupBy ValidationSample.source [] samples).foldlM
    (addSourceMetrics repr expectedRollouts) []

/-- One round of `selected_avg_metrics`: what is selected and what is missing. -/
def selectAvg (metrics : List (PyStr × K)) (expectedRollouts : Nat)
    (state : List (PyStr × K) × List PyStr) (datasetName : PyStr) :
    Except PyError (List (PyStr × K) × List PyStr) := do
  let prefixName ← validationNamespace repr datasetName
  match Dict.get? metrics (avgKey prefixName expectedRollouts) with
  | none => return (state.1, state.2 ++ [datasetName])
  | some value => return (Dict.set state.1 datasetName value, state.2)

def selectedAvgMetrics (metrics : List (PyStr × K)) (datasetNames : List PyStr)
    (expectedRollouts : Nat) : Except PyError (List (PyStr × K)) := do
  let (selected, missing) ← datasetNames.foldlM (selectAvg repr metrics expectedRollouts) ([], [])
  raiseIf (missing ≠ []) (runtimeError
    (s!"Validation did not produce Avg@{expectedRollouts} for configured datasets: " ++
      ", ".intercalate (missing.map String.ofList)))
  return selected

end Repr

/-! ### Keeping data sets apart -/

/-- The samples of a data set. -/
def samplesOf (samples : List (ValidationSample K)) (name : PyStr) : List (ValidationSample K) :=
  samples.filter fun sample => sample.source = name

/-- Results of the configured data sets, each with the expected number of rollouts per
    question. -/
structure ExpectedResults (names : List PyStr) (expectedRollouts : Nat)
    (samples : List (ValidationSample K)) : Prop where
  configured : ∀ sample ∈ samples, sample.source ∈ names
  represented : ∀ name ∈ names, samplesOf samples name ≠ []
  rollouts : ∀ name ∈ names, ∀ row ∈ questionRows (samplesOf samples name),
    row.length = expectedRollouts

/-- Every data set is reported by itself. -/
def ReportsApart (repr : PyStr → String) (names : List PyStr) (expectedRollouts : Nat)
    (samples : List (ValidationSample K)) : Prop :=
  ∃ metrics selected, computePassAvgMetrics repr samples expectedRollouts = .ok metrics ∧
    selectedAvgMetrics repr metrics names expectedRollouts = .ok selected ∧
    ∀ name ∈ names, ∃ prefixName, validationNamespace repr name = .ok prefixName ∧
      Dict.get? selected name = some (avgOf (questionRows (samplesOf samples name))) ∧
      Dict.get? metrics (avgKey prefixName expectedRollouts) =
        some (avgOf (questionRows (samplesOf samples name))) ∧
      Dict.get? metrics (passKey prefixName expectedRollouts) =
        some (passOf (questionRows (samplesOf samples name)))

/-- No two data sets share a metric key. -/
def KeysApart (repr : PyStr → String) (names : List PyStr) : Prop :=
  ∀ name ∈ names, ∀ other ∈ names, ∀ prefixName,
    validationNamespace repr name = .ok prefixName →
      validationNamespace repr other = .ok prefixName → name = other

/-! ### Keys -/

theorem not_mem_benchmarkName (dataSource : PyStr) : '/' ∉ benchmarkName dataSource := by
  intro hmem
  have hchar := (List.mem_filter.mp hmem).2
  cases hchar

/-- The prefix of the keys of a data set. -/
def benchmarkPrefix (dataSource : PyStr) : PyStr := "val-".toList ++ benchmarkName dataSource

theorem not_mem_benchmarkPrefix (dataSource : PyStr) :
    ∀ c ∈ benchmarkPrefix dataSource ++ "-core".toList, decide (c ≠ '/') = true := by
  intro c hc
  apply decide_eq_true
  rintro rfl
  rcases List.mem_append.mp hc with hpre | hcore
  · rcases List.mem_append.mp hpre with hval | hname
    · exact absurd hval (by decide)
    · exact not_mem_benchmarkName dataSource hname
  · exact absurd hcore (by decide)

theorem validationNamespace_eq_ok {repr : PyStr → String} {dataSource prefixName : PyStr} :
    validationNamespace repr dataSource = .ok prefixName ↔
      benchmarkName dataSource ≠ [] ∧ prefixName = benchmarkPrefix dataSource := by
  unfold validationNamespace benchmarkPrefix
  rw [raiseIf_bind_eq_ok, pure_eq_ok, Except.ok.injEq, eq_comm (a := prefixName)]

/-- Keys are read off at their slash. -/
theorem key_inj {name other tail tail' : PyStr}
    (h : benchmarkPrefix name ++ "-core".toList ++ '/' :: tail =
      benchmarkPrefix other ++ "-core".toList ++ '/' :: tail') :
    benchmarkName name = benchmarkName other ∧ tail = tail' := by
  have hbefore := congrArg (List.takeWhile fun c => decide (c ≠ '/')) h
  rw [List.takeWhile_append_of_pos (not_mem_benchmarkPrefix name),
    List.takeWhile_append_of_pos (not_mem_benchmarkPrefix other), List.takeWhile_cons_of_neg (by simp),
    List.takeWhile_cons_of_neg (by simp), List.append_nil, List.append_nil,
    List.append_cancel_right_eq, benchmarkPrefix, benchmarkPrefix, List.append_cancel_left_eq] at hbefore
  rw [benchmarkPrefix, benchmarkPrefix, hbefore, List.append_cancel_left_eq] at h
  exact ⟨hbefore, (List.cons.inj h).2⟩

theorem passKey_eq (name : PyStr) (k : Nat) : passKey (benchmarkPrefix name) k =
    benchmarkPrefix name ++ "-core".toList ++ '/' :: ("Pass@".toList ++ natText k) := by
  unfold passKey
  rw [List.append_assoc, List.append_assoc]
  rfl

theorem avgKey_eq (name : PyStr) (k : Nat) : avgKey (benchmarkPrefix name) k =
    benchmarkPrefix name ++ "-core".toList ++ '/' :: ("Avg@".toList ++ natText k) := by
  unfold avgKey
  rw [List.append_assoc, List.append_assoc]
  rfl

theorem avgKey_inj {name other : PyStr} {k : Nat}
    (h : avgKey (benchmarkPrefix name) k = avgKey (benchmarkPrefix other) k) :
    benchmarkName name = benchmarkName other := by
  rw [avgKey_eq, avgKey_eq] at h
  exact (key_inj h).1

theorem passKey_inj {name other : PyStr} {j k : Nat}
    (h : passKey (benchmarkPrefix name) j = passKey (benchmarkPrefix other) k) :
    benchmarkName name = benchmarkName other := by
  rw [passKey_eq, passKey_eq] at h
  exact (key_inj h).1

theorem passKey_ne_avgKey (name other : PyStr) (j k : Nat) :
    passKey (benchmarkPrefix name) j ≠ avgKey (benchmarkPrefix other) k := by
  intro h
  rw [passKey_eq, avgKey_eq] at h
  have htail := (key_inj h).2
  cases htail

/-! ### The loop over the data sets -/

section Loop

variable {repr : PyStr → String} {k : Nat}

/-- The metrics of a data set, under its keys. -/
structure HasMetrics (metrics : List (PyStr × K)) (k : Nat) (name : PyStr)
    (rows : List (List K)) : Prop where
  avg : Dict.get? metrics (avgKey (benchmarkPrefix name) k) = some (avgOf rows)
  pass : Dict.get? metrics (passKey (benchmarkPrefix name) k) = some (passOf rows)

theorem addSourceMetrics_spec {group : PyStr × List (ValidationSample K)}
    (hname : benchmarkName group.1 ≠ []) (hrows : ∀ row ∈ questionRows group.2, row.length = k)
    (metrics : List (PyStr × K)) :
    ∃ next, addSourceMetrics repr k metrics group = .ok next ∧
      HasMetrics next k group.1 (questionRows group.2) ∧
      ∀ name rows, benchmarkName name ≠ benchmarkName group.1 → HasMetrics metrics k name rows →
        HasMetrics next k name rows := by
  have hbad : ((Dict.groupBy ValidationSample.uid [] group.2).filter fun entry =>
      decide (entry.2.length ≠ k)) = [] := by
    apply List.filter_eq_nil_iff.mpr
    intro entry hentry hlength
    apply of_decide_eq_true hlength
    have hrow := hrows _ (List.mem_map_of_mem hentry)
    rwa [List.length_map] at hrow
  refine ⟨Dict.set (Dict.set (Dict.set metrics (passKey (benchmarkPrefix group.1) 1)
      (firstOf (questionRows group.2))) (passKey (benchmarkPrefix group.1) k)
      (passOf (questionRows group.2))) (avgKey (benchmarkPrefix group.1) k)
      (avgOf (questionRows group.2)), ?_, ⟨?_, ?_⟩, ?_⟩
  · unfold addSourceMetrics
    dsimp only
    rw [hbad, raiseIf_of_not (fun hne => hne rfl), ok_bind,
      validationNamespace_eq_ok.mpr ⟨hname, rfl⟩]
    rfl
  · rw [Dict.get?_set, if_pos rfl]
  · rw [Dict.get?_set, if_neg (passKey_ne_avgKey _ _ _ _).symm, Dict.get?_set, if_pos rfl]
  · intro name rows hne h
    have hpass : ∀ j, passKey (benchmarkPrefix group.1) j ≠ passKey (benchmarkPrefix name) k :=
      fun j heq => hne (passKey_inj heq).symm
    refine ⟨?_, ?_⟩
    · rw [Dict.get?_set, if_neg (fun heq => hne (avgKey_inj heq).symm), Dict.get?_set,
        if_neg (passKey_ne_avgKey _ _ _ _), Dict.get?_set, if_neg (passKey_ne_avgKey _ _ _ _)]
      exact h.avg
    · rw [Dict.get?_set, if_neg (passKey_ne_avgKey _ _ _ _).symm, Dict.get?_set,
        if_neg (hpass k), Dict.get?_set, if_neg (hpass 1)]
      exact h.pass

/-- Data sets with different metric names keep their metrics through the loop. -/
theorem foldlM_addSourceMetrics {groups : List (PyStr × List (ValidationSample K))}
    (hnames : ∀ group ∈ groups, benchmarkName group.1 ≠ [])
    (hrows : ∀ group ∈ groups, ∀ row ∈ questionRows group.2, row.length = k)
    (hnodup : (groups.map fun group => benchmarkName group.1).Nodup) :
    ∀ metrics : List (PyStr × K), ∃ final,
      groups.foldlM (addSourceMetrics repr k) metrics = .ok final ∧
      (∀ group ∈ groups, HasMetrics final k group.1 (questionRows group.2)) ∧
      ∀ name rows, (∀ group ∈ groups, benchmarkName name ≠ benchmarkName group.1) →
        HasMetrics metrics k name rows → HasMetrics final k name rows := by
  induction groups with
  | nil =>
    intro metrics
    exact ⟨metrics, rfl, fun group hgroup => absurd hgroup List.not_mem_nil,
      fun _ _ _ h => h⟩
  | cons group rest ih =>
    intro metrics
    obtain ⟨hfirst, hrest⟩ := List.nodup_cons.mp hnodup
    obtain ⟨next, hstep, hown, hkeep⟩ := addSourceMetrics_spec
      (hnames group List.mem_cons_self) (hrows group List.mem_cons_self) metrics
    obtain ⟨final, hrun, hothers, hkept⟩ := ih
      (fun other hother => hnames other (List.mem_cons_of_mem _ hother))
      (fun other hother => hrows other (List.mem_cons_of_mem _ hother)) hrest next
    refine ⟨final, ?_, ?_, ?_⟩
    · rw [List.foldlM_cons, hstep, ok_bind]
      exact hrun
    · intro other hother
      rcases List.mem_cons.mp hother with rfl | hmem
      · apply hkept _ _ _ hown
        intro later hlater heq
        exact hfirst (List.mem_map.mpr ⟨later, hlater, heq.symm⟩)
      · exact hothers other hmem
    · intro name rows hne h
      obtain ⟨hhere, hlater⟩ := List.forall_mem_cons.mp hne
      exact hkept name rows hlater (hkeep name rows hhere h)

omit [Field K] [LinearOrder K] in
/-- The selection finds every name whose average is there. -/
theorem foldlM_selectAvg {metrics : List (PyStr × K)} {value : PyStr → K} {names : List PyStr}
    (hnames : ∀ name ∈ names, benchmarkName name ≠ [])
    (hvalues : ∀ name ∈ names,
      Dict.get? metrics (avgKey (benchmarkPrefix name) k) = some (value name)) :
    ∀ selected : List (PyStr × K), ∃ final,
      names.foldlM (selectAvg repr metrics k) (selected, []) = .ok (final, []) ∧
      (∀ name ∈ names, Dict.get? final name = some (value name)) ∧
      ∀ name ∉ names, Dict.get? final name = Dict.get? selected name := by
  induction names with
  | nil =>
    intro selected
    exact ⟨selected, rfl, fun name hname => absurd hname List.not_mem_nil, fun _ _ => rfl⟩
  | cons name rest ih =>
    intro selected
    obtain ⟨final, hrun, hfound, hkept⟩ := ih
      (fun other hother => hnames other (List.mem_cons_of_mem _ hother))
      (fun other hother => hvalues other (List.mem_cons_of_mem _ hother))
      (Dict.set selected name (value name))
    have hstep : selectAvg repr metrics k (selected, []) name =
        .ok (Dict.set selected name (value name), []) := by
      unfold selectAvg
      rw [validationNamespace_eq_ok.mpr ⟨hnames name List.mem_cons_self, rfl⟩, ok_bind,
        hvalues name List.mem_cons_self]
      rfl
    refine ⟨final, ?_, ?_, ?_⟩
    · rw [List.foldlM_cons, hstep, ok_bind]
      exact hrun
    · intro other hother
      by_cases hmem : other ∈ rest
      · exact hfound other hmem
      · obtain rfl : other = name := (List.mem_cons.mp hother).resolve_right hmem
        rw [hkept other hmem, Dict.get?_set, if_pos rfl]
    · intro other hother
      obtain ⟨hne, hmem⟩ := not_or.mp fun h => hother (List.mem_cons.mpr h)
      rw [hkept other hmem, Dict.get?_set, if_neg (Ne.symm hne)]

end Loop

/-! ### Names that keep apart -/

/-- The names have metric names, and these differ. -/
structure DistinctBenchmarkNames (names : List PyStr) : Prop where
  nonempty : ∀ name ∈ names, benchmarkName name ≠ []
  injective : ∀ name ∈ names, ∀ other ∈ names, benchmarkName name = benchmarkName other → name = other

omit [Field K] [LinearOrder K] in
theorem groupBy_source {names : List PyStr} {samples : List (ValidationSample K)}
    (hconfigured : ∀ sample ∈ samples, sample.source ∈ names)
    {group : PyStr × List (ValidationSample K)}
    (hgroup : group ∈ Dict.groupBy ValidationSample.source [] samples) :
    group.1 ∈ names ∧ group.2 = samplesOf samples group.1 := by
  obtain ⟨⟨sample, hsample, hsource⟩, hrows⟩ := Dict.mem_groupBy hgroup
  exact ⟨hsource ▸ hconfigured sample hsample, hrows⟩

theorem reportsApart_of_distinct {repr : PyStr → String} {names : List PyStr} {k : Nat}
    {samples : List (ValidationSample K)} (hdistinct : DistinctBenchmarkNames names)
    (h : ExpectedResults names k samples) : ReportsApart repr names k samples := by
  have hnodup : ((Dict.groupBy ValidationSample.source [] samples).map
      fun group => benchmarkName group.1).Nodup := by
    have hkeys := Dict.keys_groupBy_nodup ValidationSample.source samples [] List.nodup_nil
    have hmap : (Dict.groupBy ValidationSample.source [] samples).map
        (fun group => benchmarkName group.1) =
        (Dict.keys (Dict.groupBy ValidationSample.source [] samples)).map benchmarkName := by
      rw [Dict.keys, List.map_map]
      rfl
    rw [hmap]
    apply List.Nodup.map_on _ hkeys
    intro name hname other hother heq
    obtain ⟨group, hgroup, rfl⟩ := List.mem_map.mp hname
    obtain ⟨group', hgroup', rfl⟩ := List.mem_map.mp hother
    exact hdistinct.injective _ (groupBy_source h.configured hgroup).1 _
      (groupBy_source h.configured hgroup').1 heq
  obtain ⟨metrics, hcompute, hmetrics, _⟩ := foldlM_addSourceMetrics
    (fun group hgroup => hdistinct.nonempty _ (groupBy_source h.configured hgroup).1)
    (fun group hgroup => by
      obtain ⟨hname, hrows⟩ := groupBy_source h.configured hgroup
      rw [hrows]
      exact h.rollouts _ hname) hnodup []
  have hnamed : ∀ name ∈ names,
      HasMetrics metrics k name (questionRows (samplesOf samples name)) := by
    intro name hname
    obtain ⟨sample, hsample⟩ := List.exists_mem_of_ne_nil _ (h.represented name hname)
    obtain ⟨hmem, hsource⟩ := List.mem_filter.mp hsample
    have hkey := (Dict.mem_keys_groupBy ValidationSample.source samples []).mpr
      (Or.inr ⟨sample, hmem, of_decide_eq_true hsource⟩)
    obtain ⟨group, hgroup, rfl⟩ := List.mem_map.mp hkey
    rw [← (groupBy_source h.configured hgroup).2]
    exact hmetrics group hgroup
  obtain ⟨selected, hselect, hselected, _⟩ := foldlM_selectAvg
    hdistinct.nonempty (fun name hname => (hnamed name hname).avg) []
  refine ⟨metrics, selected, hcompute, ?_, ?_⟩
  · unfold selectedAvgMetrics
    rw [hselect, ok_bind]
    dsimp only
    rw [raiseIf_of_not (fun hne => hne rfl)]
    rfl
  · intro name hname
    exact ⟨benchmarkPrefix name, validationNamespace_eq_ok.mpr ⟨hdistinct.nonempty name hname, rfl⟩,
      hselected name hname, (hnamed name hname).avg, (hnamed name hname).pass⟩

theorem keysApart_of_distinct {repr : PyStr → String} {names : List PyStr}
    (hdistinct : DistinctBenchmarkNames names) : KeysApart repr names := by
  intro name hname other hother prefixName hpre hpre'
  obtain ⟨_, rfl⟩ := validationNamespace_eq_ok.mp hpre
  obtain ⟨_, heq⟩ := validationNamespace_eq_ok.mp hpre'
  apply hdistinct.injective name hname other hother
  rw [benchmarkPrefix, benchmarkPrefix, List.append_cancel_left_eq] at heq
  exact heq

/-! ### Names that do not -/

/-- One question for each data set, whose rollouts all have the accuracy of the data set. -/
def uniformSamples (names : List PyStr) (k : Nat) (accuracy : PyStr → K) :
    List (ValidationSample K) :=
  names.flatMap fun name => List.replicate k ⟨name, name, accuracy name⟩

omit [Field K] [LinearOrder K] in
theorem samplesOf_uniformSamples {names : List PyStr} (hnodup : names.Nodup) {k : Nat}
    {accuracy : PyStr → K} {name : PyStr} (hname : name ∈ names) :
    samplesOf (uniformSamples names k accuracy) name =
      List.replicate k ⟨name, name, accuracy name⟩ := by
  unfold samplesOf uniformSamples
  rw [List.filter_flatMap, Dict.flatMap_eq_single hnodup hname]
  · simp
  · intro other _ hne
    simp [hne]

omit [Field K] [LinearOrder K] in
theorem questionRows_replicate {k : Nat} (hk : 1 ≤ k) (sample : ValidationSample K) :
    questionRows (List.replicate k sample) = [List.replicate k sample.accuracy] := by
  have hgroup : ∀ n, Dict.groupBy ValidationSample.uid [] (List.replicate (n + 1) sample) =
      [(sample.uid, List.replicate (n + 1) sample)] := by
    intro n
    induction n with
    | zero => rfl
    | succ n ih =>
      rw [List.replicate_succ', Dict.groupBy, List.foldl_append]
      change Dict.push (Dict.groupBy _ _ _) _ _ = _
      rw [ih]
      simp [Dict.push, Dict.set, Dict.get?, Dict.keys]
  obtain ⟨n, rfl⟩ := Nat.exists_eq_add_of_le' hk
  unfold questionRows
  rw [hgroup, List.map_singleton, List.map_replicate]

section Uniform

variable [IsStrictOrderedRing K]

theorem avgOf_replicate {k : Nat} (hk : 1 ≤ k) (x : K) : avgOf [List.replicate k x] = x := by
  have hne : (k : K) ≠ 0 := by
    rw [Nat.cast_ne_zero]
    omega
  unfold avgOf exactMean
  rw [List.map_singleton, List.sum_singleton, List.length_singleton, List.sum_replicate,
    List.length_replicate, nsmul_eq_mul, Nat.cast_one, div_one, mul_div_cancel_left₀ _ hne]

omit [Field K] [LinearOrder K] [IsStrictOrderedRing K] in
theorem expectedResults_uniformSamples {names : List PyStr} (hnodup : names.Nodup) {k : Nat}
    (hk : 1 ≤ k) (accuracy : PyStr → K) :
    ExpectedResults names k (uniformSamples names k accuracy) where
  configured := by
    intro sample hsample
    obtain ⟨name, hname, hmem⟩ := List.mem_flatMap.mp hsample
    rw [(List.mem_replicate.mp hmem).2]
    exact hname
  represented := by
    intro name hname
    rw [samplesOf_uniformSamples hnodup hname, ne_eq, List.replicate_eq_nil_iff]
    omega
  rollouts := by
    intro name hname row hrow
    rw [samplesOf_uniformSamples hnodup hname, questionRows_replicate hk,
      List.mem_singleton] at hrow
    rw [hrow, List.length_replicate]

/-- Two data sets under one key, one all correct and the other all wrong, are not both
    reported. -/
theorem not_reportsApart_of_shared {repr : PyStr → String} {names : List PyStr} {k : Nat}
    (hnodup : names.Nodup) (hk : 1 ≤ k) {name other : PyStr} (hname : name ∈ names)
    (hother : other ∈ names) (hne : name ≠ other) (hsame : benchmarkName name = benchmarkName other) :
    ¬ ReportsApart repr names k
      (uniformSamples names k fun source => if source = name then (1 : K) else 0) := by
  rintro ⟨metrics, _, _, _, hreports⟩
  obtain ⟨_, hpre, _, havg, _⟩ := hreports name hname
  obtain ⟨_, hpre', _, havg', _⟩ := hreports other hother
  obtain ⟨_, rfl⟩ := validationNamespace_eq_ok.mp hpre
  obtain ⟨_, rfl⟩ := validationNamespace_eq_ok.mp hpre'
  rw [samplesOf_uniformSamples hnodup hname, questionRows_replicate hk, avgOf_replicate hk,
    if_pos rfl] at havg
  rw [samplesOf_uniformSamples hnodup hother, questionRows_replicate hk, avgOf_replicate hk,
    if_neg (Ne.symm hne)] at havg'
  rw [benchmarkPrefix, ← hsame] at havg'
  have hvalue : some (1 : K) = some 0 := havg.symm.trans havg'
  exact one_ne_zero (Option.some.inj hvalue)

/-- Reports that keep data sets apart come from names that do. -/
theorem distinct_of_reportsApart {repr : PyStr → String} {names : List PyStr} {k : Nat}
    (hnodup : names.Nodup) (hk : 1 ≤ k)
    (h : ∀ samples : List (ValidationSample K), ExpectedResults names k samples →
      ReportsApart repr names k samples) : DistinctBenchmarkNames names where
  nonempty := by
    intro name hname
    obtain ⟨_, _, _, _, hreports⟩ := h _ (expectedResults_uniformSamples hnodup hk fun _ => 0)
    obtain ⟨_, hpre, _⟩ := hreports name hname
    exact (validationNamespace_eq_ok.mp hpre).1
  injective := by
    intro name hname other hother hsame
    by_contra hne
    exact not_reportsApart_of_shared hnodup hk hname hother hne hsame
      (h _ (expectedResults_uniformSamples hnodup hk _))

/-- **Validation metrics.**  For distinct names all results are reported by data set, under
    keys of their own, if and only if the names, reduced to the letters and digits of their
    stems, are not empty and differ. -/
theorem reportsApart_iff (repr : PyStr → String) {names : List PyStr}
    (hnodup : names.Nodup) {k : Nat} (hk : 1 ≤ k) :
    ((∀ samples : List (ValidationSample K), ExpectedResults names k samples →
        ReportsApart repr names k samples) ∧ KeysApart repr names) ↔
      DistinctBenchmarkNames names := by
  constructor
  · rintro ⟨hreports, _⟩
    exact distinct_of_reportsApart hnodup hk hreports
  · intro hdistinct
    exact ⟨fun samples => reportsApart_of_distinct hdistinct, keysApart_of_distinct hdistinct⟩

end Uniform

theorem reportsApart_iff_two_benchmarks :
    ReportsApart (fun _ => "") ["AIME2024".toList, "gsm8k".toList] 1
      (uniformSamples ["AIME2024".toList, "gsm8k".toList] 1 fun _ => (1 : ℚ)) :=
  ((reportsApart_iff (fun _ => "")
    (show ["AIME2024".toList, "gsm8k".toList].Nodup by decide) (le_refl 1)).mpr
    ⟨by decide, by decide⟩).1 _ (expectedResults_uniformSamples (by decide) (le_refl 1) _)

/-- Two names of which one has the year in short. -/
theorem not_reportsApart_shortened_year :
    ValidDatasetNames ["AIME2024".toList, "aime-24".toList] ∧
      ExpectedResults ["AIME2024".toList, "aime-24".toList] 1
        (uniformSamples ["AIME2024".toList, "aime-24".toList] 1
          fun source => if source = "AIME2024".toList then (1 : ℚ) else 0) ∧
      ¬ ReportsApart (fun _ => "") ["AIME2024".toList, "aime-24".toList] 1
        (uniformSamples ["AIME2024".toList, "aime-24".toList] 1
          fun source => if source = "AIME2024".toList then (1 : ℚ) else 0) :=
  ⟨⟨by decide, by decide, by decide, by decide⟩,
    expectedResults_uniformSamples (by decide) (le_refl 1) _,
    not_reportsApart_of_shared (by decide) (le_refl 1) (by decide)
      (show "aime-24".toList ∈ _ by decide) (by decide) (by decide)⟩

end R2opl
