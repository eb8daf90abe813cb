import Mathlib.Data.List.Flatten
import R2opl.Objective.ProbeMetrics

/-!
# Metrics of micro-batches

The actor computes the probe metrics of every micro-batch on its own, the reducer adds up their
sums and counts, and `R2OPLTrainer._compute_metrics` divides them.  What comes out is the mean
over the whole batch, however it was cut.
-/

namespace R2opl

open Checked

variable {K : Type} [Field K] [LinearOrder K]

/-! ### The trainer -/

/-- `aliases` of `_compute_metrics`. -/
def metricAliases : List (PyStr × PyStr) :=
  [("actor/entropy".toList, "r2opl/train/entropy".toList),
    ("actor/grad_norm".toList, "r2opl/train/total_grad_norm".toList),
    ("response_length/mean".toList, "r2opl/train/response_length_mean".toList),
    ("response_length/max".toList, "r2opl/train/response_length_max".toList),
    ("perf/throughput".toList, "r2opl/perf/tokens_per_second_per_gpu".toList),
    ("perf/time_per_step".toList, "r2opl/perf/time_per_step".toList),
    ("actor/distillation/loss".toList, "r2opl/train/policy_loss".toList)]

/-- A round of the alias loop. -/
def aliasEntry (metrics : List (PyStr × Flt K)) (names : PyStr × PyStr) : Option (PyStr × Flt K) :=
  (Dict.get? metrics names.1).map fun value => (names.2, value)

/-- A round of the loop that copies `actor/r2opl/...` to `r2opl/...`. -/
def actorEntry (_ : List (PyStr × Flt K)) (item : PyStr × Flt K) : Option (PyStr × Flt K) :=
  if "actor/r2opl/".toList <+: item.1 then some (item.1.drop "actor/".toList.length, item.2)
  else none

/-- A round of the loop that divides sums by counts. -/
def meanEntry (metrics : List (PyStr × Flt K)) (item : PyStr × Flt K) : Option (PyStr × Flt K) :=
  if "r2opl/train/".toList <+: item.1 ∧ "_sum".toList <:+ item.1 then
    let stem := item.1.take (item.1.length - "_sum".toList.length)
    (Dict.get? metrics (stem ++ "_count".toList)).map fun denominator =>
      (stem ++ "_mean".toList, if Flt.lt 0 denominator then item.2 / denominator else .nan)
  else none

/-- What `_compute_metrics` makes of the metrics that its parent class has left. -/
def computeMetrics (metrics : List (PyStr × Flt K)) : List (PyStr × Flt K) :=
  let metrics := metricAliases.foldl (Dict.update aliasEntry) metrics
  let metrics := metrics.foldl (Dict.update actorEntry) metrics
  metrics.foldl (Dict.update meanEntry) metrics

/-- The trainer's scope. -/
def trainScope : PyStr := "r2opl/train".toList

section Trainer

variable {metrics : List (PyStr × Flt K)} {stem : PyStr} {value total count : Flt K}

def actorName (name : PyStr) : PyStr := "actor/".toList ++ name

omit [Field K] [LinearOrder K] in
theorem get?_aliases (name : PyStr) :
    Dict.get? (metricAliases.foldl (Dict.update aliasEntry) metrics) (actorName name) =
      Dict.get? metrics (actorName name) := by
  apply Dict.get?_foldl_update_of_ne
  intro items names hnames value hwrite
  obtain ⟨_, _, hentry⟩ := Option.map_eq_some_iff.mp hwrite
  have hname := (Prod.mk.inj hentry).1
  unfold metricAliases at hnames
  simp only [List.mem_cons, List.not_mem_nil, or_false] at hnames
  unfold actorName at hname
  rcases hnames with rfl | rfl | rfl | rfl | rfl | rfl | rfl
  all_goals simp at hname

omit [Field K] [LinearOrder K] in
/-- A name below `actor/r2opl/` is the actor's name of what it is copied to. -/
theorem actorEntry_eq_some {item : PyStr × Flt K} {name : PyStr} {v : Flt K}
    (h : actorEntry metrics item = some (name, v)) : item.1 = actorName name := by
  unfold actorEntry at h
  split at h
  · rename_i hpre
    obtain ⟨rest, hrest⟩ := hpre
    have hname := (Prod.mk.inj (Option.some.inj h)).1
    have hsplit : "actor/r2opl/".toList = "actor/".toList ++ "r2opl/".toList := rfl
    rw [← hrest, hsplit, List.append_assoc] at hname ⊢
    rw [List.drop_left] at hname
    rw [actorName, hname]
  · cases h

omit [Field K] [LinearOrder K] in
theorem actorEntry_actorName (items : List (PyStr × Flt K)) (stem : PyStr) (value : Flt K) :
    actorEntry items (actorName (metricName trainScope stem), value) =
      some (metricName trainScope stem, value) := by
  unfold actorEntry
  rw [if_pos]
  · unfold actorName
    rw [List.drop_left]
  · exact ⟨"train/".toList ++ stem, rfl⟩

omit [Field K] [LinearOrder K] in
/-- The actor's metrics are copied to the names of the controller. -/
theorem get?_actor (hnodup : (Dict.keys metrics).Nodup)
    (h : Dict.get? metrics (actorName (metricName trainScope stem)) = some value) :
    Dict.get? (metrics.foldl (Dict.update actorEntry) metrics) (metricName trainScope stem) =
      some value := by
  have hmem := Dict.mem_of_get? h
  apply Dict.get?_foldl_update (P := fun _ => True) hmem
  · exact fun _ _ _ _ => trivial
  · exact fun items _ => actorEntry_actorName items stem value
  · intro items item hitem v hentry
    exact List.inj_on_of_nodup_map hnodup hitem hmem (actorEntry_eq_some hentry)
  · trivial

/-- The name under which a statistic of the trainer is kept. -/
def statisticName (stem : PyStr) (suffix : String) : PyStr :=
  metricName trainScope (stem ++ suffix.toList)

theorem meanEntry_eq_some {items : List (PyStr × Flt K)} {item : PyStr × Flt K} {name : PyStr}
    {v : Flt K} (h : meanEntry items item = some (name, v)) :
    ∃ front, item.1 = front ++ "_sum".toList ∧ name = front ++ "_mean".toList := by
  unfold meanEntry at h
  split at h
  · rename_i hname
    obtain ⟨_, front, hfront⟩ := hname
    obtain ⟨_, _, hentry⟩ := Option.map_eq_some_iff.mp h
    refine ⟨front, hfront.symm, ?_⟩
    rw [← (Prod.mk.inj hentry).1, ← hfront, List.length_append, Nat.add_sub_cancel,
      List.take_left]
  · cases h

theorem meanEntry_statisticName {items : List (PyStr × Flt K)}
    (h : Dict.get? items (statisticName stem "_count") = some count) :
    meanEntry items (statisticName stem "_sum", total) = some (statisticName stem "_mean",
      if Flt.lt 0 count then total / count else .nan) := by
  have hsplit : ∀ suffix : String, statisticName stem suffix =
      metricName trainScope stem ++ suffix.toList := by
    intro suffix
    unfold statisticName metricName
    rw [List.append_assoc, List.cons_append]
  unfold meanEntry
  rw [if_pos]
  · rw [hsplit, List.length_append, Nat.add_sub_cancel, List.take_left]
    dsimp only
    rw [← hsplit "_count", h, ← hsplit]
    rfl
  · constructor
    · exact ⟨stem ++ "_sum".toList, rfl⟩
    · exact ⟨metricName trainScope stem, (hsplit "_sum").symm⟩

/-- No round of the last loop writes a count. -/
theorem get?_update_meanEntry (items : List (PyStr × Flt K)) (item : PyStr × Flt K) :
    Dict.get? (Dict.update meanEntry items item) (statisticName stem "_count") =
      Dict.get? items (statisticName stem "_count") := by
  apply Dict.get?_update_of_ne
  intro v h
  obtain ⟨front, _, hname⟩ := meanEntry_eq_some h
  have hcount : "_count".toList.getLast? = some 't' := by decide
  have hmean : "_mean".toList.getLast? = some 'n' := by decide
  have hlast := congrArg List.getLast? hname
  unfold statisticName metricName at hlast
  rw [← List.cons_append, ← List.append_assoc, List.getLast?_append, List.getLast?_append,
    List.getLast?_append, hcount, hmean, Option.some_or, Option.some_or] at hlast
  exact absurd (Option.some.inj hlast) (by decide)

theorem get?_means (hnodup : (Dict.keys metrics).Nodup)
    (hsum : Dict.get? metrics (statisticName stem "_sum") = some total)
    (hcount : Dict.get? metrics (statisticName stem "_count") = some count) :
    Dict.get? (metrics.foldl (Dict.update meanEntry) metrics) (statisticName stem "_mean") =
      some (if Flt.lt 0 count then total / count else .nan) := by
  have hmem := Dict.mem_of_get? hsum
  apply Dict.get?_foldl_update
    (P := fun items => Dict.get? items (statisticName stem "_count") = some count) hmem
  · intro items item _ h
    rw [get?_update_meanEntry]
    exact h
  · exact fun items h => meanEntry_statisticName h
  · intro items item hitem v hentry
    apply List.inj_on_of_nodup_map hnodup hitem hmem
    obtain ⟨front, hitem, hname⟩ := meanEntry_eq_some hentry
    have hfront : metricName trainScope stem = front := by
      unfold statisticName metricName at hname
      rw [List.append_cons, ← List.append_assoc] at hname
      have hcancel := List.append_cancel_right hname
      unfold metricName
      rw [← hcancel, List.append_cons]
    rw [hitem, ← hfront]
    unfold statisticName metricName
    rw [List.append_assoc, List.cons_append]
  · exact hcount

/-- **The trainer's mean of a statistic is its sum divided by its count.** -/
theorem get?_computeMetrics (hnodup : (Dict.keys metrics).Nodup)
    (hsum : Dict.get? metrics (actorName (statisticName stem "_sum")) = some total)
    (hcount : Dict.get? metrics (actorName (statisticName stem "_count")) = some count) :
    Dict.get? (computeMetrics metrics) (statisticName stem "_mean") =
      some (if Flt.lt 0 count then total / count else .nan) := by
  have haliases := Dict.keys_foldl_update_nodup aliasEntry metricAliases hnodup
  apply get?_means
  · exact Dict.keys_foldl_update_nodup _ _ haliases
  · apply get?_actor haliases
    rw [get?_aliases]
    exact hsum
  · apply get?_actor haliases
    rw [get?_aliases]
    exact hcount

end Trainer

/-! ### Cut batches -/

/-- Micro-batches that hold each response of the batch once, each packed to its own widths. -/
structure MicroBatches (whole : ProbeCall K) (parts : List (ProbeCall K × List Nat)) : Prop where
  partition : Pooling.Partition (whole.responseMask.size 0) (parts.map Prod.snd)
  nonempty : ∀ part ∈ parts, part.2 ≠ []
  rows : ∀ part ∈ parts, part.1.responseMask.size 0 = part.2.length
  same : ∀ part ∈ parts, ∀ (i row : Nat), part.2[i]? = some row →
    SameResponse part.1 whole i row

section Additive

variable [ToString K] {whole : ProbeCall K} {parts : List (ProbeCall K × List Nat)}
  {part : ProbeCall K × List Nat} {values : R2OPLHyperparameters K} {scope : PyStr}
  {metrics run : List (PyStr × Flt K)} {runs : List (List (PyStr × Flt K))}
  {modulation : R2OPLTokenModulation K} {name : PyStr} {f : Nat → Flt K}

omit [Field K] [LinearOrder K] [ToString K] in
theorem MicroBatches.row_lt (h : MicroBatches whole parts) (hpart : part ∈ parts) {row : Nat}
    (hrow : row ∈ part.2) : row < whole.responseMask.size 0 := by
  have hflatten : row ∈ (parts.map Prod.snd).flatten :=
    List.mem_flatten.mpr ⟨part.2, List.mem_map_of_mem hpart, hrow⟩
  exact List.mem_range.mp (h.partition.mem_iff.mp hflatten)

/-- What a micro-batch reports is what its rows add to the batch. -/
theorem MicroBatches.get?_run (h : MicroBatches whole parts) (hpart : part ∈ parts)
    (hmodulation : whole.run values.alphaR values.alphaD values.epsilon = .ok modulation)
    (hrun : part.1.metrics values scope = .ok run) (hname : IsStatistic name)
    (hf : Dict.get? (whole.rowStatistics modulation scope) name = some f) :
    Dict.get? run name = some (part.2.map f).sum := by
  obtain ⟨modulation', hmodulation', hrows', heq⟩ := metrics_eq_ok hrun
  have hsame : ∀ (i row : Nat), part.2[i]? = some row →
      (Dict.get? (part.1.rowStatistics modulation' scope) name).map (· i) = some (f row) := by
    intro i row hrow
    have hresponse := h.same part hpart i row hrow
    have hi : i < part.1.responseMask.size 0 := by
      rw [h.rows part hpart]
      exact (List.getElem?_eq_some_iff.mp hrow).1
    have hentries := (hresponse.sameModulation hmodulation' hmodulation hi
      (h.row_lt hpart (List.mem_of_getElem? hrow))).map_rowStatistics hresponse scope
    have hget := congrArg (Dict.get? · name) hentries
    rw [Dict.get?_map_values fun f : Nat → Flt K => f i,
      Dict.get?_map_values fun f : Nat → Flt K => f row, hf] at hget
    exact hget
  obtain ⟨first, hfirst⟩ := List.exists_mem_of_ne_nil _ (h.nonempty part hpart)
  obtain ⟨i, hi⟩ := List.mem_iff_getElem?.mp hfirst
  obtain ⟨g, hg, _⟩ := Option.map_eq_some_iff.mp (hsame i first hi)
  rw [get?_metrics hrows' heq hname, hg, Option.map_some, h.rows part hpart]
  congr 1
  apply Pooling.sum_range_of_rows
  intro i row hrow
  have hvalue := hsame i row hrow
  rw [hg] at hvalue
  exact Option.some.inj hvalue

/-- **Sums and counts are additive.** -/
theorem MicroBatches.sum_runs (h : MicroBatches whole parts)
    (hmetrics : whole.metrics values scope = .ok metrics)
    (hruns : parts.mapM (fun part => part.1.metrics values scope) = .ok runs)
    (hname : IsStatistic name) {value : Flt K} (hvalue : Dict.get? metrics name = some value) :
    (∀ run ∈ runs, (Dict.get? run name).isSome) ∧
      (runs.map fun run => (Dict.get? run name).getD 0).sum = value := by
  obtain ⟨modulation, hmodulation, hrows, heq⟩ := metrics_eq_ok hmetrics
  rw [get?_metrics hrows heq hname] at hvalue
  obtain ⟨f, hf, rfl⟩ := Option.map_eq_some_iff.mp hvalue
  have hreports : ∀ part ∈ parts, ∀ run, part.1.metrics values scope = .ok run →
      Dict.get? run name = some (part.2.map f).sum := fun part hpart run hrun =>
    h.get?_run hpart hmodulation hrun hname hf
  have hpairs : (∀ run ∈ runs, (Dict.get? run name).isSome) ∧
      runs.map (fun run => (Dict.get? run name).getD 0) =
        parts.map fun part => (part.2.map f).sum := by
    have hforall := (mapM_eq_ok _ _).mp hruns
    clear hruns h
    induction hforall with
    | nil => exact ⟨fun _ hrun => absurd hrun List.not_mem_nil, rfl⟩
    | cons hrun _ ih =>
      obtain ⟨hsome, hsums⟩ := ih fun part hpart => hreports part (List.mem_cons_of_mem _ hpart)
      have hget := hreports _ List.mem_cons_self _ hrun
      constructor
      · intro run hmem
        rcases List.mem_cons.mp hmem with rfl | hrest
        · rw [hget]
          rfl
        · exact hsome run hrest
      · rw [List.map_cons, List.map_cons, hsums, hget]
        rfl
  refine ⟨hpairs.1, ?_⟩
  rw [hpairs.2, ← h.partition.sum f, List.map_map]
  rfl

end Additive

/-! ### Names of the metrics -/

def countedStems : List String :=
  ["correct_probe_branch", "error_probe_branch", "correct_probe_step", "error_probe_step",
    "correct_probe_token", "error_probe_token", "correct_last_step_standard_token",
    "error_last_step_standard_token", "correct_standard_token", "error_standard_token",
    "correct_response_token", "error_response_token"]

def coefficientStems : List String := ["alpha_r", "alpha_d", "epsilon", "lambda", "miu"]

def modulationStems : List String :=
  ["correct_probe_probability", "error_probe_probability", "correct_probe_delta_prob",
    "error_probe_delta_prob", "correct_alpha_r_gate", "error_alpha_r_gate",
    "correct_alpha_d_gate", "error_alpha_d_gate", "correct_probe_modulation",
    "error_probe_modulation", "correct_last_step_multiplier", "error_last_step_multiplier"]

def advantageStems : List String :=
  ["correct_advantage", "correct_advantage_abs", "error_opd_advantage",
    "error_opd_advantage_abs", "correct_last_step_rl_advantage", "error_last_step_opd_advantage"]

def rawOpdStems : List String := ["correct_raw_opd", "error_raw_opd", "error_raw_opd_abs"]

/-- The names of all metrics of a call with the given statistics. -/
def metricStems (statistics : List String) : List String :=
  countedStems.map (· ++ "_count") ++ coefficientStems ++
    statistics.flatMap fun stem => [stem ++ "_sum", stem ++ "_count"]

theorem metricStems_nodup :
    (metricStems (modulationStems ++ advantageStems ++ rawOpdStems)).Nodup := by
  decide +kernel

theorem metricName_injective (scope : PyStr) :
    Function.Injective fun stem : String => metricName scope stem.toList := by
  intro stem stem' h
  exact String.toList_injective (List.cons.inj (List.append_cancel_left h)).2

section Names

variable {call : ProbeCall K} {modulation : R2OPLTokenModulation K} {scope : PyStr}
  {values : R2OPLHyperparameters K} {metrics : List (PyStr × Flt K)}

theorem statistics_stems (call : ProbeCall K) (modulation : R2OPLTokenModulation K) :
    ((call.statistics modulation).map MaskedStatistic.stem).Sublist
      (modulationStems ++ advantageStems ++ rawOpdStems) := by
  unfold ProbeCall.statistics
  rw [List.map_append, List.map_append]
  apply List.Sublist.append
  · apply List.Sublist.append
    · exact List.Sublist.refl modulationStems
    · cases call.tokenAdvantage with
      | none => exact List.nil_sublist _
      | some advantage => exact List.Sublist.refl advantageStems
  · cases call.studentLogProbs with
    | none => exact List.nil_sublist _
    | some student =>
      cases call.teacherLogProbs with
      | none => exact List.nil_sublist _
      | some teacher => exact List.Sublist.refl rawOpdStems

theorem keys_metrics_nodup (hmetrics : metrics = ((countedMasks modulation call.responseMask
      call.metricsInput.correctRows call.metricsInput.errorRows).map fun item =>
        (metricName scope (item.1 ++ "_count").toList, countTokens item.2)) ++
      coefficientMetrics scope values ++
      (call.statistics modulation).flatMap (MaskedStatistic.metrics scope)) :
    (Dict.keys metrics).Nodup := by
  have hkeys : Dict.keys metrics =
      (metricStems ((call.statistics modulation).map MaskedStatistic.stem)).map fun stem =>
        metricName scope stem.toList := by
    unfold Dict.keys metricStems
    rw [hmetrics, List.map_append, List.map_append, List.map_append, List.map_append,
      List.map_flatMap, List.map_flatMap, List.flatMap_map]
    rfl
  rw [hkeys]
  apply List.Nodup.map (metricName_injective scope)
  apply List.Nodup.sublist _ metricStems_nodup
  unfold metricStems
  exact List.Sublist.append_left ((statistics_stems call modulation).flatMap _) _

end Names

/-! ### Pooled means -/

section Pooled

variable [ToString K] {call : ProbeCall K} {modulation : R2OPLTokenModulation K} {scope : PyStr}
  {values : R2OPLHyperparameters K} {metrics : List (PyStr × Flt K)}

theorem get?_countedMask (h : call.metrics values scope = .ok metrics)
    (hmodulation : call.run values.alphaR values.alphaD values.epsilon = .ok modulation)
    {stem : String} {mask : Tensor Bool}
    (hmask : (stem, mask) ∈ countedMasks modulation call.responseMask
      call.metricsInput.correctRows call.metricsInput.errorRows) :
    Dict.get? metrics (metricName scope (stem ++ "_count").toList) =
      some (countTokens mask) := by
  obtain ⟨_, hmodulation', _, heq⟩ := metrics_eq_ok h
  obtain rfl := Except.ok.inj (hmodulation.symm.trans hmodulation')
  apply Dict.get?_of_mem (keys_metrics_nodup heq)
  rw [heq, List.append_assoc]
  exact List.mem_append_left _ (List.mem_map.mpr ⟨(stem, mask), hmask, rfl⟩)

theorem get?_statistic (h : call.metrics values scope = .ok metrics)
    (hmodulation : call.run values.alphaR values.alphaD values.epsilon = .ok modulation)
    {statistic : MaskedStatistic K} (hstatistic : statistic ∈ call.statistics modulation)
    {entry : PyStr × Flt K} (hentry : entry ∈ statistic.metrics scope) :
    Dict.get? metrics entry.1 = some entry.2 := by
  obtain ⟨_, hmodulation', _, heq⟩ := metrics_eq_ok h
  obtain rfl := Except.ok.inj (hmodulation.symm.trans hmodulation')
  apply Dict.get?_of_mem (keys_metrics_nodup heq)
  rw [heq]
  exact List.mem_append_right _ (List.mem_flatMap.mpr ⟨statistic, hstatistic, hentry⟩)

omit [LinearOrder K] [ToString K] in
theorem countTokens_eq_length (values : Tensor (Flt K)) (mask : Tensor Bool) :
    (countTokens mask : Flt K) = .fin ((maskedValues values mask).length : K) := by
  unfold countTokens maskedValues
  rw [List.length_flatMap]
  congr 3
  apply List.map_congr_left
  intro row _
  rw [tokenCount_eq_length, List.length_map]

/-- The mean of the selected values of a whole batch; NaN when nothing is selected. -/
def MaskedStatistic.pooledMean (statistic : MaskedStatistic K) : Flt K :=
  let selected := maskedValues statistic.values statistic.mask
  if selected = [] then .nan else Flt.mean selected

omit [ToString K] in
theorem pooledMean_eq [IsStrictOrderedRing K] (statistic : MaskedStatistic K) :
    (if Flt.lt (0 : Flt K) (countTokens statistic.mask) then
      maskedSum statistic.values statistic.mask / countTokens statistic.mask else .nan) =
        statistic.pooledMean := by
  unfold MaskedStatistic.pooledMean
  rw [countTokens_eq_length statistic.values, Flt.zero_eq, Flt.lt_fin]
  by_cases hempty : maskedValues statistic.values statistic.mask = []
  · rw [hempty, if_pos rfl, if_neg (by simp)]
  · have hpos : (0 : K) < (maskedValues statistic.values statistic.mask).length :=
      Nat.cast_pos.mpr (List.length_pos_iff.mpr hempty)
    rw [if_neg hempty, if_pos (decide_eq_true hpos)]
    rfl

/-- The reducer's metrics: under the actor's names, the sums over all micro-batches of what every
    one of them reports. -/
structure Reduced (runs : List (List (PyStr × Flt K))) (reduced : List (PyStr × Flt K)) :
    Prop where
  nodup : (Dict.keys reduced).Nodup
  sums : ∀ name, IsStatistic name → (∀ run ∈ runs, (Dict.get? run name).isSome) →
    Dict.get? reduced (actorName name) =
      some (runs.map fun run => (Dict.get? run name).getD 0).sum

end Pooled

/-! ### Probed and standard tokens -/

section Standard

variable {call : ProbeCall K} {modulation : R2OPLTokenModulation K} {mask other : Tensor Bool}
  {rows : Tensor Bool}

/-- How many tokens a mask has in the selected rows. -/
def selectedTokens (mask rows : Tensor Bool) : Nat :=
  ((List.range (mask.size 0)).map (tokenCount (maskRows mask rows))).sum

omit [Field K] [LinearOrder K] in
/-- The probed and the standard tokens are the response tokens. -/
theorem probe_add_standard (modulation : R2OPLTokenModulation K) (mask rows : Tensor Bool) :
    selectedTokens (probeTokens modulation mask) rows +
      selectedTokens (standardTokens modulation mask) rows = selectedTokens mask rows := by
  have hrow : ∀ row, tokenCount (maskRows (probeTokens modulation mask) rows) row +
      tokenCount (maskRows (standardTokens modulation mask) rows) row =
        tokenCount (maskRows mask rows) row := by
    intro row
    rw [tokenCount_eq_length, tokenCount_eq_length, tokenCount_eq_length, trueColumns_maskRows,
      trueColumns_maskRows, trueColumns_maskRows]
    unfold probeTokens standardTokens
    rw [trueColumns_bothTokens, trueColumns_exceptTokens]
    split
    · exact (List.length_eq_length_filter_add _).symm
    · rfl
  have hsizes : (probeTokens modulation mask).size 0 = mask.size 0 ∧
      (standardTokens modulation mask).size 0 = mask.size 0 := ⟨rfl, rfl⟩
  unfold selectedTokens
  rw [hsizes.1, hsizes.2, ← List.sum_map_add]
  exact congrArg List.sum (List.map_congr_left fun row _ => hrow row)

/-- The tokens of last steps are standard tokens. -/
theorem last_subset_standard [ToString K] {values : R2OPLHyperparameters K}
    (hrun : call.run values.alphaR values.alphaD values.epsilon = .ok modulation) {row : Nat}
    (hrow : row < call.responseMask.size 0) :
    (lastTokens modulation call.responseMask).trueColumns row ⊆
      (standardTokens modulation call.responseMask).trueColumns row := by
  obtain ⟨hvalid, _⟩ := computeR2oplTokenModulation_eq_ok.mp hrun
  obtain ⟨_, _, halphaR, halphaD, hepsilon⟩ := validateHyperparameters_eq_ok.mp hvalid
  obtain ⟨alphaR, _, halphaR⟩ := halphaR _ rfl
  obtain ⟨alphaD, _, halphaD⟩ := halphaD _ rfl
  obtain ⟨epsilon, hepsilon⟩ := Flt.isFinite_iff.mp (hepsilon _ rfl).1
  rw [halphaR, halphaD, hepsilon] at hrun
  obtain ⟨semantic, hsemantic, hvalidRow, _⟩ := ModulationInput.exists_modulates hrun hrow
  have hmodulates := hsemantic.modulates_of_run hvalidRow hrun hrow
  unfold lastTokens standardTokens
  rw [trueColumns_bothTokens, trueColumns_exceptTokens]
  intro token htoken
  obtain ⟨hresponse, hlast⟩ := List.mem_filter.mp htoken
  refine List.mem_filter.mpr ⟨hresponse, ?_⟩
  rw [Bool.not_eq_true', Bool.eq_false_iff]
  intro hprobed
  obtain ⟨step, hstep, howns⟩ := (hmodulates.lastToken token).mp hlast
  obtain ⟨step', hstep', howns'⟩ := (hmodulates.probedToken token).mp hprobed
  obtain rfl := hvalidRow.owner_unique howns howns'
  exact absurd hstep (Nat.ne_of_lt hstep')

omit [Field K] [LinearOrder K] in
/-- A mask inside another one has no more tokens. -/
theorem selectedTokens_mono (hsize : mask.size 0 = other.size 0)
    (hsubset : ∀ row < mask.size 0, mask.trueColumns row ⊆ other.trueColumns row) :
    selectedTokens mask rows ≤ selectedTokens other rows := by
  unfold selectedTokens
  rw [← hsize]
  apply List.sum_le_sum
  intro row hrow
  rw [tokenCount_eq_length, tokenCount_eq_length, trueColumns_maskRows, trueColumns_maskRows]
  split
  · have hnodup : (mask.trueColumns row).Nodup :=
      (List.pairwise_lt_range.imp Nat.ne_of_lt).filter _
    exact (hnodup.subperm (hsubset row (List.mem_range.mp hrow))).length_le
  · exact le_rfl

/-- The token counts of one outcome: the stems of its metrics are prefixed with `outcome`. -/
def TokenBalance (metrics : List (PyStr × Flt K)) (scope : PyStr) (outcome : String) : Prop :=
  ∃ probed standard response last : Nat,
    Dict.get? metrics (metricName scope (outcome ++ "_probe_token" ++ "_count").toList) =
      some (.fin (probed : K)) ∧
    Dict.get? metrics (metricName scope (outcome ++ "_standard_token" ++ "_count").toList) =
      some (.fin (standard : K)) ∧
    Dict.get? metrics (metricName scope (outcome ++ "_response_token" ++ "_count").toList) =
      some (.fin (response : K)) ∧
    Dict.get? metrics
        (metricName scope (outcome ++ "_last_step_standard_token" ++ "_count").toList) =
      some (.fin (last : K)) ∧
    probed + standard = response ∧ last ≤ standard

theorem tokenBalance_of_rows [ToString K] {values : R2OPLHyperparameters K} {scope : PyStr}
    {metrics : List (PyStr × Flt K)} (h : call.metrics values scope = .ok metrics)
    (hrun : call.run values.alphaR values.alphaD values.epsilon = .ok modulation)
    {outcome : String} {rows : Tensor Bool}
    (hmasks : ∀ item ∈ [(outcome ++ "_probe_token", probeTokens modulation call.responseMask),
        (outcome ++ "_standard_token", standardTokens modulation call.responseMask),
        (outcome ++ "_response_token", call.responseMask),
        (outcome ++ "_last_step_standard_token", lastTokens modulation call.responseMask)],
      (item.1, maskRows item.2 rows) ∈ countedMasks modulation call.responseMask
        call.metricsInput.correctRows call.metricsInput.errorRows) :
    TokenBalance metrics scope outcome := by
  have hlast : selectedTokens (lastTokens modulation call.responseMask) rows ≤
      selectedTokens (standardTokens modulation call.responseMask) rows :=
    selectedTokens_mono rfl fun row hrow => last_subset_standard hrun hrow
  refine ⟨_, _, _, _, ?_, ?_, ?_, ?_, probe_add_standard modulation call.responseMask rows, hlast⟩
  · exact get?_countedMask h hrun (hmasks _ List.mem_cons_self)
  · exact get?_countedMask h hrun (hmasks _ (List.mem_cons_of_mem _ List.mem_cons_self))
  · exact get?_countedMask h hrun (hmasks (_, call.responseMask) (by simp))
  · exact get?_countedMask h hrun (hmasks (_, lastTokens modulation call.responseMask) (by simp))

theorem tokenBalance [ToString K] {values : R2OPLHyperparameters K} {scope : PyStr}
    {metrics : List (PyStr × Flt K)} (h : call.metrics values scope = .ok metrics) :
    TokenBalance metrics scope "correct" ∧ TokenBalance metrics scope "error" := by
  obtain ⟨modulation, hrun, _, _⟩ := metrics_eq_ok h
  constructor
  · apply tokenBalance_of_rows h hrun
    intro item hitem
    simp only [List.mem_cons, List.not_mem_nil, or_false] at hitem
    rcases hitem with rfl | rfl | rfl | rfl
    · exact List.mem_of_getElem? (i := 4) rfl
    · exact List.mem_of_getElem? (i := 8) rfl
    · exact List.mem_of_getElem? (i := 10) rfl
    · exact List.mem_of_getElem? (i := 6) rfl
  · apply tokenBalance_of_rows h hrun
    intro item hitem
    simp only [List.mem_cons, List.not_mem_nil, or_false] at hitem
    rcases hitem with rfl | rfl | rfl | rfl
    · exact List.mem_of_getElem? (i := 5) rfl
    · exact List.mem_of_getElem? (i := 9) rfl
    · exact List.mem_of_getElem? (i := 11) rfl
    · exact List.mem_of_getElem? (i := 7) rfl

end Standard

/-! ### Micro-batches and means -/

/-- **Probe metrics are additive over micro-batches**, so that the trainer's means are those of
    the whole batch; and for each outcome the probed and the standard tokens are its response
    tokens, the last steps' tokens among the standard ones. -/
theorem probe_metrics_additive [IsStrictOrderedRing K] [ToString K] (whole : ProbeCall K)
    (parts : List (ProbeCall K × List Nat)) (values : R2OPLHyperparameters K) (scope : PyStr)
    (metrics : List (PyStr × Flt K)) (runs : List (List (PyStr × Flt K)))
    (hcut : MicroBatches whole parts) (hmetrics : whole.metrics values scope = .ok metrics)
    (hruns : parts.mapM (fun part => part.1.metrics values scope) = .ok runs) :
    (∀ name value, IsStatistic name → Dict.get? metrics name = some value →
      (∀ run ∈ runs, (Dict.get? run name).isSome) ∧
        (runs.map fun run => (Dict.get? run name).getD 0).sum = value) ∧
    (∀ reduced, scope = trainScope → Reduced runs reduced → ∀ modulation,
      whole.run values.alphaR values.alphaD values.epsilon = .ok modulation →
      ∀ statistic ∈ whole.statistics modulation,
        Dict.get? (computeMetrics reduced) (statisticName statistic.stem.toList "_mean") =
          some statistic.pooledMean) ∧
    (TokenBalance metrics scope "correct" ∧ TokenBalance metrics scope "error") ∧
    ∀ modulation, whole.run values.alphaR values.alphaD values.epsilon = .ok modulation →
      ∀ row < whole.responseMask.size 0,
        (lastTokens modulation whole.responseMask).trueColumns row ⊆
          (standardTokens modulation whole.responseMask).trueColumns row := by
  refine ⟨fun name value hname hvalue => hcut.sum_runs hmetrics hruns hname hvalue, ?_,
    tokenBalance hmetrics, fun modulation hrun row hrow => last_subset_standard hrun hrow⟩
  rintro reduced rfl hreduced modulation hrun statistic hstatistic
  have hentry : ∀ suffix value, IsStatistic (statisticName statistic.stem.toList suffix) →
      (statisticName statistic.stem.toList suffix, value) ∈ statistic.metrics trainScope →
      Dict.get? reduced (actorName (statisticName statistic.stem.toList suffix)) =
        some value := by
    intro suffix value hname hmem
    obtain ⟨hsome, hsum⟩ := hcut.sum_runs hmetrics hruns hname
      (get?_statistic hmetrics hrun hstatistic hmem)
    rw [hreduced.sums _ hname hsome, hsum]
  have hname : ∀ suffix : String, statisticName statistic.stem.toList suffix =
      metricName trainScope (statistic.stem ++ suffix).toList := by
    intro suffix
    unfold statisticName
    rw [String.toList_append]
  have hsuffix : ∀ suffix : String, suffix.toList <:+
      statisticName statistic.stem.toList suffix := by
    intro suffix
    refine ⟨metricName trainScope statistic.stem.toList, ?_⟩
    unfold statisticName metricName
    rw [List.append_assoc, List.cons_append]
  rw [← pooledMean_eq]
  apply get?_computeMetrics hreduced.nodup
  · apply hentry
    · exact .inl (hsuffix "_sum")
    · rw [hname]
      exact List.mem_cons_self
  · apply hentry
    · exact .inr (hsuffix "_count")
    · rw [hname]
      exact List.mem_cons_of_mem _ List.mem_cons_self

/-! ### Cutting by rows -/

/-- The given rows of a tensor, in their order. -/
def selectRows {α : Type} (rows : List Nat) (t : Tensor α) : Tensor α where
  shape := rows.length :: t.shape.tail
  entry := fun index => match index with
    | [] => t.entry []
    | i :: rest => t.entry (rows.getD i 0 :: rest)

/-- The micro-batch of the given rows, padded as the batch is. -/
def ProbeCall.select (call : ProbeCall K) (rows : List Nat) : ProbeCall K where
  probabilities := selectRows rows call.probabilities
  responseMask := selectRows rows call.responseMask
  semanticStepRanges := selectRows rows call.semanticStepRanges
  semanticStepMask := call.semanticStepMask.map (selectRows rows)
  probeBranchMask := call.probeBranchMask.map (selectRows rows)
  correctness := selectRows rows call.correctness
  genuineTrajectoryMask := some (selectRows rows call.metricsInput.genuine)
  tokenAdvantage := call.tokenAdvantage.map (selectRows rows)
  studentLogProbs := call.studentLogProbs.map (selectRows rows)
  teacherLogProbs := call.teacherLogProbs.map (selectRows rows)

theorem size_selectRows {α : Type} {rows : List Nat} {t : Tensor α} {axis : Nat} :
    (selectRows rows t).size (axis + 1) = t.size (axis + 1) := by
  unfold selectRows Tensor.size
  cases t.shape with
  | nil => rfl
  | cons rows columns => rfl

omit [Field K] [LinearOrder K] in
theorem sameTokens_selectRows {IsToken : Nat → Prop} {rows : List Nat} {i row : Nat}
    (hrow : rows.getD i 0 = row) (values : Option (Tensor (Flt K))) :
    SameTokens IsToken i row (values.map (selectRows rows)) values := by
  subst hrow
  cases values with
  | none => trivial
  | some values => exact fun token _ => rfl

omit [Field K] [LinearOrder K] in
/-- A selected row holds the response it was selected for. -/
theorem sameResponse_select {call : ProbeCall K} {rows : List Nat} {i row : Nat}
    (h : rows[i]? = some row) : SameResponse (call.select rows) call i row := by
  have hrow : rows.getD i 0 = row := by
    rw [List.getD_eq_getElem?_getD, h]
    rfl
  have hstep : ∀ step, (call.select rows).HasStep i step ↔ call.HasStep row step := by
    intro step
    unfold ModulationInput.HasStep ModulationInput.stepMask ProbeCall.select stepMaskOf
    subst hrow
    cases call.semanticStepMask with
    | none =>
      change step < (selectRows rows call.semanticStepRanges).size 1 ∧ _ ↔ _
      rw [size_selectRows]
      rfl
    | some mask =>
      change step < (selectRows rows mask).size 1 ∧ _ ↔ _
      rw [size_selectRows]
      rfl
  refine ⟨⟨hstep, ?_, ?_⟩, ?_, ?_, ?_, sameTokens_selectRows hrow _,
    sameTokens_selectRows hrow _, sameTokens_selectRows hrow _⟩
  · subst hrow
    exact fun step _ => ⟨rfl, rfl⟩
  · subst hrow
    exact fun branch _ _ => rfl
  · intro token
    subst hrow
    change token < (selectRows rows call.responseMask).size 1 ∧ _ ↔ _
    rw [size_selectRows]
    rfl
  · subst hrow
    rfl
  · subst hrow
    rfl

/-- Two responses, the first correct, with their advantages and log-probabilities. -/
def risingCall : ProbeCall ℚ where
  toModulationInput := risingInput
  correctness := .vec 2 fun row => decide (row = 0)
  genuineTrajectoryMask := none
  tokenAdvantage := some (.mat 2 3 fun row _ => if row = 0 then .fin 8 else .fin (-1 / 2))
  studentLogProbs := some (.mat 2 3 fun _ _ => .fin (-2))
  teacherLogProbs := some (.mat 2 3 fun _ _ => .fin (-1))

/-- The two responses in micro-batches of their own. -/
def risingParts : List (ProbeCall ℚ × List Nat) :=
  [(risingCall.select [1], [1]), (risingCall.select [0], [0])]

theorem risingParts_cut : MicroBatches risingCall risingParts where
  partition := by
    unfold Pooling.Partition
    decide
  nonempty := by
    intro part hpart
    unfold risingParts at hpart
    simp only [List.mem_cons, List.not_mem_nil, or_false] at hpart
    rcases hpart with rfl | rfl
    · exact List.cons_ne_nil _ _
    · exact List.cons_ne_nil _ _
  rows := by
    intro part hpart
    unfold risingParts at hpart
    simp only [List.mem_cons, List.not_mem_nil, or_false] at hpart
    rcases hpart with rfl | rfl
    · rfl
    · rfl
  same := by
    intro part hpart i row hrow
    unfold risingParts at hpart
    simp only [List.mem_cons, List.not_mem_nil, or_false] at hpart
    rcases hpart with rfl | rfl
    · exact sameResponse_select hrow
    · exact sameResponse_select hrow

theorem probe_metrics_additive_rising : ∃ metrics runs,
    risingCall.metrics defaultHyperparameters trainScope = .ok metrics ∧
    risingParts.mapM (fun part => part.1.metrics defaultHyperparameters trainScope) = .ok runs ∧
    (∀ name value, IsStatistic name → Dict.get? metrics name = some value →
      (∀ run ∈ runs, (Dict.get? run name).isSome) ∧
        (runs.map fun run => (Dict.get? run name).getD 0).sum = value) ∧
    (∀ reduced, trainScope = trainScope → Reduced runs reduced → ∀ modulation,
      risingCall.run (defaultHyperparameters : R2OPLHyperparameters ℚ).alphaR
        (defaultHyperparameters : R2OPLHyperparameters ℚ).alphaD
        (defaultHyperparameters : R2OPLHyperparameters ℚ).epsilon = .ok modulation →
      ∀ statistic ∈ risingCall.statistics modulation,
        Dict.get? (computeMetrics reduced) (statisticName statistic.stem.toList "_mean") =
          some statistic.pooledMean) ∧
    (TokenBalance metrics trainScope "correct" ∧ TokenBalance metrics trainScope "error") ∧
    ∀ modulation,
      risingCall.run (defaultHyperparameters : R2OPLHyperparameters ℚ).alphaR
        (defaultHyperparameters : R2OPLHyperparameters ℚ).alphaD
        (defaultHyperparameters : R2OPLHyperparameters ℚ).epsilon = .ok modulation →
      ∀ row < risingCall.responseMask.size 0,
        (lastTokens modulation risingCall.responseMask).trueColumns row ⊆
          (standardTokens modulation risingCall.responseMask).trueColumns row := by
  obtain ⟨metrics, hmetrics⟩ :
      Returns (risingCall.metrics defaultHyperparameters trainScope) := by
    decide +kernel
  obtain ⟨runs, hruns⟩ : Returns (risingParts.mapM fun part =>
      part.1.metrics defaultHyperparameters trainScope) := by
    decide +kernel
  exact ⟨metrics, runs, hmetrics, hruns, probe_metrics_additive risingCall risingParts
    defaultHyperparameters trainScope metrics runs risingParts_cut hmetrics hruns⟩

end R2opl
