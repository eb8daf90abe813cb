import R2opl.Rollout.Advantages
import R2opl.Rollout.Sampling

/-!
# Advantages of a step

The batch of a step gets its advantages after padding and balancing.  They depend neither on the
order in which the rollouts came in, nor on the order of the batch, nor on the padding.
-/

namespace R2opl

open Checked Dict

variable {K : Type}

/-! ### Padding -/

namespace SessionRow

variable {rows pads : List (SessionRow K)} {row : SessionRow K}

/-- The synthetic samples have a uid of their own, and nothing in their response counts. -/
structure Padding (rows pads : List (SessionRow K)) : Prop where
  promptUid : ∀ row ∈ rows, ∀ pad ∈ pads, pad.promptUid ≠ row.promptUid
  uid : ∀ row ∈ rows, ∀ pad ∈ pads, pad.uid ≠ row.uid
  mask : ∀ pad ∈ pads, ∀ m ∈ pad.responseMask, m = 0

theorem Padding.sessionKey_ne (h : Padding rows pads) {pad : SessionRow K} (hrow : row ∈ rows)
    (hpad : pad ∈ pads) : pad.sessionKey ≠ row.sessionKey := by
  intro heq
  exact h.promptUid row hrow pad hpad (sessionKey_injective heq).1

theorem Padding.distinct (h : Padding rows pads) (hrows : Distinct rows)
    (hpads : Distinct pads) : Distinct (rows ++ pads) := by
  unfold Distinct
  rw [List.map_append, List.nodup_append']
  refine ⟨hrows, hpads, ?_⟩
  intro key hreal hsynthetic
  obtain ⟨row, hrow, rfl⟩ := List.mem_map.mp hreal
  obtain ⟨pad, hpad, hkey⟩ := List.mem_map.mp hsynthetic
  rw [pad.key_eq, row.key_eq] at hkey
  injection Key.text_injective hkey with huid
  exact h.promptUid row hrow pad hpad huid

theorem Padding.lastOutputs_append (h : Padding rows pads) :
    lastOutputs (rows ++ pads) = lastOutputs rows ++ lastOutputs pads := by
  unfold lastOutputs
  rw [List.filter_append]
  congr 1
  · apply List.filter_congr
    intro row hrow
    rw [decide_eq_decide]
    constructor
    · exact fun hlast other hother => hlast other (List.mem_append_left _ hother)
    · intro hlast other hother hsame
      rcases List.mem_append.mp hother with hother | hpad
      · exact hlast other hother hsame
      · exact absurd hsame (h.sessionKey_ne hrow hpad)
  · apply List.filter_congr
    intro pad hpad
    rw [decide_eq_decide]
    constructor
    · exact fun hlast other hother => hlast other (List.mem_append_right _ hother)
    · intro hlast other hother hsame
      rcases List.mem_append.mp hother with hrow | hother
      · exact absurd hsame.symm (h.sessionKey_ne hrow hpad)
      · exact hlast other hother hsame

/-- What the rows get can be told from their keys. -/
theorem Distinct.exists_byKey (hdistinct : Distinct rows) (f : SessionRow K → List K) :
    ∃ byKey : PyStr → List K, ∀ row ∈ rows, byKey row.key = f row := by
  refine ⟨fun key => ((rows.find? fun other => other.key = key).map f).getD [], ?_⟩
  intro row hrow
  have hthere : (rows.find? fun other => other.key = row.key).isSome = true :=
    List.find?_isSome.mpr ⟨row, hrow, decide_eq_true rfl⟩
  obtain ⟨other, hother⟩ := Option.isSome_iff_exists.mp hthere
  have hkey : other.key = row.key := by simpa using List.find?_some hother
  dsimp only
  rw [hother, List.inj_on_of_nodup_map hdistinct (List.mem_of_find?_eq_some hother) hrow hkey]
  rfl

/-- Rows with the same keys, and the data of the transfer queue, are the same up to their order. -/
theorem perm_of_keys {rows' : List (SessionRow K)} (fields : PyStr → AdvantageRow K)
    (hdistinct : Distinct rows)
    (hfields : ∀ row ∈ rows, row.toAdvantageRow = fields row.key)
    (hfields' : ∀ row ∈ rows', row.toAdvantageRow = fields row.key)
    (hkeys : (rows'.map fun row => row.key).Perm (rows.map fun row => row.key)) :
    rows'.Perm rows := by
  have hdistinct' : (rows'.map fun row => row.key).Nodup := hkeys.nodup_iff.mpr hdistinct
  have hsame {row row' : SessionRow K} (hrow : row.toAdvantageRow = fields row.key)
      (hrow' : row'.toAdvantageRow = fields row'.key) (hkey : row.key = row'.key) :
      row = row' := by
    have htext := row.key_eq.symm.trans (hkey.trans row'.key_eq)
    injection Key.text_injective htext with huid hsession hindex
    rw [hkey, ← hrow'] at hrow
    obtain ⟨row, uid, session, index, _, _⟩ := row
    obtain ⟨row', uid', session', index', _, _⟩ := row'
    dsimp only at hrow huid hsession hindex
    subst hrow huid hsession hindex
    rfl
  rw [List.perm_ext_iff_of_nodup (hdistinct'.of_map _) (hdistinct.of_map _)]
  intro row
  constructor
  · intro hrow
    obtain ⟨other, hother, hkey⟩ :=
      List.mem_map.mp (hkeys.mem_iff.mp (List.mem_map_of_mem hrow))
    rwa [hsame (hfields' row hrow) (hfields other hother) hkey.symm]
  · intro hrow
    obtain ⟨other, hother, hkey⟩ :=
      List.mem_map.mp (hkeys.mem_iff.mpr (List.mem_map_of_mem hrow))
    rwa [hsame (hfields row hrow) (hfields' other hother) hkey.symm]

variable [Field K] (options : GrpoOptions K)

/-- The padding is in no group of the real samples. -/
theorem Padding.uidScores (h : Padding rows pads) (hrow : row ∈ rows) :
    uidScores ((lastOutputs (rows ++ pads)).map toAdvantageRow) row.uid =
      R2opl.uidScores ((lastOutputs rows).map toAdvantageRow) row.uid := by
  have hnone : ((lastOutputs pads).map toAdvantageRow).filter (fun pad => pad.uid = row.uid) =
      [] := by
    rw [List.filter_eq_nil_iff]
    intro other hother
    obtain ⟨pad, hpad, rfl⟩ := List.mem_map.mp hother
    rw [decide_eq_true_eq]
    exact h.uid row hrow pad (List.mem_of_mem_filter hpad)
  unfold R2opl.uidScores
  rw [h.lastOutputs_append, List.map_append, List.filter_append, hnone, List.append_nil]

theorem Padding.sessionAdvantage_left (h : Padding rows pads) (hdistinct : Distinct (rows ++ pads))
    (hrow : row ∈ rows) :
    sessionAdvantage options (rows ++ pads) row = sessionAdvantage options rows row := by
  have hdistinct' : Distinct rows :=
    hdistinct.sublist ((List.sublist_append_left rows pads).map _)
  obtain ⟨last, hmem, hsession⟩ := exists_finalRow hrow
  have hlast := mem_finalRows_last hmem
  have hboth : last ∈ lastOutputs (rows ++ pads) := by
    rw [h.lastOutputs_append]
    exact List.mem_append_left _ hlast
  rw [sessionAdvantage_of_last options hdistinct hboth hsession,
    sessionAdvantage_of_last options hdistinct' hlast hsession]
  unfold lastScore
  rw [h.uidScores (List.mem_of_mem_filter hlast)]

/-- Where nothing of the response counts the advantages vanish. -/
theorem sessionAdvantage_of_mask (hdistinct : Distinct rows) (hrow : row ∈ rows)
    (hmask : ∀ m ∈ row.responseMask, m = 0) :
    sessionAdvantage options rows row = row.responseMask.map fun _ => 0 := by
  obtain ⟨last, hmem, hsession⟩ := exists_finalRow hrow
  rw [sessionAdvantage_of_last options hdistinct (mem_finalRows_last hmem) hsession]
  apply List.map_congr_left
  intro m hm
  rw [hmask m hm, Nat.cast_zero, mul_zero]

end SessionRow

/-! ### Runs -/

open SessionRow

variable {partitionId : String} {prompts : PyStr → Prompt} {w w' : RolloutWorld}
  {globalSteps : Nat}

theorem stepTrajectories_perm (h : w.requested.Nodup) (h' : w'.requested.Nodup)
    (hsame : ∀ uid, (prompts uid).globalSteps = globalSteps →
      (uid ∈ w'.requested ↔ uid ∈ w.requested)) :
    (stepTrajectories prompts w'.requested globalSteps).Perm
      (stepTrajectories prompts w.requested globalSteps) := by
  rw [List.perm_ext_iff_of_nodup (stepTrajectories_nodup h' _) (stepTrajectories_nodup h _)]
  intro item
  rw [mem_stepTrajectories, mem_stepTrajectories]
  constructor
  · rintro ⟨uid, hrequested, hsteps, hitem⟩
    exact ⟨uid, (hsame uid hsteps).mp hrequested, hsteps, hitem⟩
  · rintro ⟨uid, hrequested, hsteps, hitem⟩
    exact ⟨uid, (hsame uid hsteps).mpr hrequested, hsteps, hitem⟩

/-- The rows of a batch are the data of its keys. -/
structure RowsOf (fields : PyStr → AdvantageRow K) (batch : QueuePartition)
    (rows : List (SessionRow K)) : Prop where
  keys : (rows.map fun row => row.key).Perm (batch.map fun item => item.1.text)
  fields : ∀ row ∈ rows, row.toAdvantageRow = fields row.key

/-- The keys of a batch are distinct texts. -/
theorem Inv.look_distinct (h : Inv prompts w) {batch : QueuePartition}
    (hscan : scan partitionId (some globalSteps) w.buffer = .ok (some batch))
    (hfirst : globalSteps ∉ w.sampled) {fields : PyStr → AdvantageRow K}
    {rows : List (SessionRow K)} (hrows : RowsOf fields batch rows) : Distinct rows := by
  unfold Distinct
  have htexts : (batch.map fun item => item.1.text) = (Dict.keys batch).map Key.text := by
    unfold Dict.keys
    rw [List.map_map]
    rfl
  rw [hrows.keys.nodup_iff, htexts]
  refine (h.look_keys_nodup hscan).map_on ?_
  intro key hkey key' hkey' htext
  have htrajectory : ∀ key ∈ Dict.keys batch, ∃ uid i index, key = .trajectory uid i index := by
    intro key hkey
    obtain ⟨item, hitem, rfl⟩ := List.mem_map.mp hkey
    obtain ⟨uid, -, -, hmem⟩ :=
      mem_stepTrajectories.mp ((h.look_perm hscan hfirst).mem_iff.mp hitem)
    obtain ⟨i, index, hkey, -⟩ := mem_trajectories_key hmem
    exact ⟨uid, i, index, hkey⟩
  obtain ⟨uid, i, index, rfl⟩ := htrajectory key hkey
  obtain ⟨uid', i', index', rfl⟩ := htrajectory key' hkey'
  exact Key.text_injective htext

/-- Every order of the batch and its padding gets these advantages, and the padding none. -/
def Assigns [Field K] (repr : PyStr → PyStr) (options : GrpoOptions K)
    (rows pads : List (SessionRow K)) (advantage : PyStr → List K) : Prop :=
  ∀ order : List (SessionRow K), order.Perm (rows ++ pads) → ∃ advantages : List (List K),
    computeAdvantageForMultiTrajectories repr options (order.map SessionRow.toAdvantageRow) =
      .ok advantages ∧
    List.Forall₂ (fun row result => (row ∈ rows → result = advantage row.key) ∧
      (row ∈ pads → result = row.responseMask.map fun _ => 0)) order advantages

theorem SessionRow.Padding.assigns [Field K] (repr : PyStr → PyStr) (options : GrpoOptions K)
    {rows pads : List (SessionRow K)} (h : Padding rows pads) (hrows : Distinct rows)
    (hpads : Distinct pads) {advantage : PyStr → List K}
    (hadvantage : ∀ row ∈ rows, advantage row.key = sessionAdvantage options rows row) :
    Assigns repr options rows pads advantage := by
  have hboth := h.distinct hrows hpads
  intro order horder
  have horder' : Distinct order := (horder.map _).nodup_iff.mpr hboth
  refine ⟨_, computeAdvantage_eq options repr horder', ?_⟩
  rw [List.forall₂_map_right_iff, List.forall₂_same]
  intro row hrow
  rw [sessionAdvantage_perm options hboth horder hrow]
  constructor
  · intro hreal
    rw [hadvantage row hreal, h.sessionAdvantage_left options hboth hreal]
  · intro hpad
    exact sessionAdvantage_of_mask options hboth (List.mem_append_right _ hpad) (h.mask row hpad)

/-- In two runs whose prompts of a step are the same, the first batch of the step gets the same
    advantages, whatever the interleavings were, how the batch was padded, and how it was
    ordered. -/
theorem stepAdvantages_agree [Field K] (partitionId : String) (prompts : PyStr → Prompt)
    (globalSteps : Nat) (w w' : RolloutWorld) (batch batch' : QueuePartition)
    (hreachable : RolloutReachable partitionId prompts w)
    (hreachable' : RolloutReachable partitionId prompts w')
    (hscan : scan partitionId (some globalSteps) w.buffer = .ok (some batch))
    (hscan' : scan partitionId (some globalSteps) w'.buffer = .ok (some batch'))
    (hfirst : globalSteps ∉ w.sampled) (hfirst' : globalSteps ∉ w'.sampled)
    (hsame : ∀ uid, (prompts uid).globalSteps = globalSteps →
      (uid ∈ w'.requested ↔ uid ∈ w.requested))
    (fields : PyStr → AdvantageRow K) (rows rows' pads pads' : List (SessionRow K))
    (hrows : RowsOf fields batch rows) (hrows' : RowsOf fields batch' rows')
    (hpads : Padding rows pads) (hpads' : Padding rows' pads')
    (hdistinct : Distinct pads) (hdistinct' : Distinct pads')
    (repr : PyStr → PyStr) (options : GrpoOptions K) :
    ∃ advantage : PyStr → List K, Assigns repr options rows pads advantage ∧
      Assigns repr options rows' pads' advantage := by
  have h := hreachable.inv
  have h' := hreachable'.inv
  have hreal := h.look_distinct hscan hfirst hrows
  have hreal' := h'.look_distinct hscan' hfirst' hrows'
  have hbatch : batch'.Perm batch :=
    ((h'.look_perm hscan' hfirst').trans (stepTrajectories_perm h.nodup h'.nodup hsame)).trans
      (h.look_perm hscan hfirst).symm
  have hperm : rows'.Perm rows := perm_of_keys fields hreal hrows.fields hrows'.fields
    ((hrows'.keys.trans (hbatch.map _)).trans hrows.keys.symm)
  obtain ⟨advantage, hadvantage⟩ := hreal.exists_byKey (sessionAdvantage options rows)
  refine ⟨advantage, hpads.assigns repr options hreal hdistinct hadvantage,
    hpads'.assigns repr options hreal' hdistinct' ?_⟩
  intro row hrow
  rw [hadvantage row (hperm.mem_iff.mp hrow), sessionAdvantage_perm options hreal hperm hrow]

/-- The loops of the two prompts end in another order, and one listing has all of them. -/
def listedWorld : RolloutWorld :=
  { runningWorld with
    queue := otherItems ++ [finishedItem ['q']] ++ secondItems ++ firstItems ++
      [finishedItem ['p']]
    buffer := promptItems .finished ++ otherItems ++ secondItems ++ firstItems
    published := [(['p'], 0), (['p'], 1), (['q'], 0)]
    ended := [['p'], ['q']] }

theorem listedWorld_reachable : RolloutReachable "train" twoPrompts listedWorld :=
  .head (.request 3 [['p'], ['q']] rfl (by decide) (by decide) (by decide))
    (.head (.publish ['q'] 0 { outputs := [(4, 2), (4, 3)] } (by decide) rfl (by decide))
      (.head (.finish ['q'] (by decide) (by decide) (by decide))
        (.head (.publish ['p'] 1 { outputs := [(2, 1)] } (by decide) rfl (by decide))
          (.head (.publish ['p'] 0 { outputs := [(2, 5)] } (by decide) rfl (by decide))
            (.head (.finish ['p'] (by decide) (by decide) (by decide))
              (.head (.list rfl rfl) (.single (.add listedWorld.queue rfl))))))))

/-- What the prompts generated: the reward of a row is told by its key. -/
def generatedReward (key : PyStr) : ℚ :=
  if key = (Key.trajectory ['p'] 0 0).text then 1
  else if key = (Key.trajectory ['q'] 0 1).text then 2 else 0

def generatedFields (key : PyStr) : AdvantageRow ℚ where
  key := key
  uid := key.take 1
  tokenLevelRewards := [generatedReward key]
  responseMask := [1]

def firstRows : List (SessionRow ℚ) := [promptRow ['p'] 0 0 1 natText_zero_length]

def secondRows : List (SessionRow ℚ) := [promptRow ['p'] 1 0 0 natText_zero_length]

def otherRows : List (SessionRow ℚ) :=
  [promptRow ['q'] 0 0 0 natText_zero_length, promptRow ['q'] 0 1 2 natText_one_length]

/-- A synthetic sample. -/
def padSessionRow (session : Nat) : SessionRow ℚ :=
  { promptRow ['r'] session 0 0 natText_zero_length with responseMask := [0] }

theorem polledRows_of : RowsOf generatedFields (firstItems ++ otherItems ++ secondItems)
    (firstRows ++ otherRows ++ secondRows) where
  keys := .refl _
  fields := by
    intro row hrow
    simp only [firstRows, otherRows, secondRows, List.cons_append, List.nil_append,
      List.mem_cons, List.not_mem_nil, or_false] at hrow
    rcases hrow with rfl | rfl | rfl | rfl <;> rfl

theorem listedRows_of : RowsOf generatedFields (otherItems ++ secondItems ++ firstItems)
    (otherRows ++ secondRows ++ firstRows) where
  keys := .refl _
  fields := by
    intro row hrow
    simp only [firstRows, otherRows, secondRows, List.cons_append, List.nil_append,
      List.mem_cons, List.not_mem_nil, or_false] at hrow
    rcases hrow with rfl | rfl | rfl | rfl <;> rfl

/-- One run is polled while a loop is running, the other after its end; one batch is padded with a
    synthetic sample, the other with two. -/
theorem stepAdvantages_agree_listed : ∃ advantage : PyStr → List ℚ,
    Assigns id ⟨id, 1, true⟩ (firstRows ++ otherRows ++ secondRows) [padSessionRow 0] advantage ∧
      Assigns id ⟨id, 1, true⟩ (otherRows ++ secondRows ++ firstRows)
        [padSessionRow 0, padSessionRow 1] advantage := by
  have hpads : Padding (firstRows ++ otherRows ++ secondRows) [padSessionRow 0] :=
    { promptUid := by decide
      uid := by decide
      mask := by decide }
  have hpads' : Padding (otherRows ++ secondRows ++ firstRows)
      [padSessionRow 0, padSessionRow 1] :=
    { promptUid := by decide
      uid := by decide
      mask := by decide }
  have hdistinct : Distinct [padSessionRow 0, padSessionRow 1] := by
    unfold Distinct
    decide
  exact stepAdvantages_agree "train" twoPrompts 3 polledWorld listedWorld _ _
    polledWorld_reachable listedWorld_reachable polledWorld_scan rfl (by decide) (by decide)
    (fun _ _ => .rfl) generatedFields _ _ _ _ polledRows_of listedRows_of hpads hpads'
    (List.nodup_singleton _) hdistinct id ⟨id, 1, true⟩

end R2opl
