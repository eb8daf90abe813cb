import Mathlib.Algebra.BigOperators.Ring.List
import Mathlib.Algebra.CharZero.Defs
import Mathlib.Algebra.Field.Basic
import Mathlib.Data.List.GetD
import Mathlib.Order.MinMax
import Mathlib.Tactic.Ring
import R2opl.Rollout.TrajectoryKeys

/-!
# Advantages of sessions

`compute_advantage_for_multi_trajectories` of `verl/trainer/main_ppo_sync.py`: the last output of
each session is scored against those of the other sessions of its prompt, and every output of the
session gets the score.
-/

namespace R2opl

open Checked

variable {K : Type}

section Estimator

variable [Field K]

/-! ### The estimator -/

/-- A row of the batch, with what the estimator reads. -/
structure AdvantageRow (K : Type) where
  key : PyStr
  uid : PyStr
  tokenLevelRewards : List K
  responseMask : List Nat

def AdvantageRow.score (row : AdvantageRow K) : K := row.tokenLevelRewards.sum

structure GrpoOptions (K : Type) where
  sqrt : K → K
  epsilon : K
  normAdvByStdInGrpo : Bool := true

/-- `id2mean[idx]` -/
def promptMean (scores : List K) : K :=
  if scores.length = 1 then 0 else scores.sum / scores.length

/-- `id2std[idx]` -/
def promptStd (sqrt : K → K) (scores : List K) : K :=
  if scores.length = 1 then 1
  else sqrt ((scores.map fun score => (score - promptMean scores) ^ 2).sum / (scores.length - 1))

/-- The score of a row of a group with these scores. -/
def standardize (options : GrpoOptions K) (scores : List K) (score : K) : K :=
  if options.normAdvByStdInGrpo then
    (score - promptMean scores) / (promptStd options.sqrt scores + options.epsilon)
  else score - promptMean scores

/-- `compute_grpo_outcome_advantage` -/
def computeGrpoOutcomeAdvantage (options : GrpoOptions K) (rows : List (AdvantageRow K)) :
    List (List K) :=
  let id2score := Dict.groupBy AdvantageRow.uid [] rows
  rows.map fun row =>
    let scores := ((Dict.get? id2score row.uid).getD []).map AdvantageRow.score
    row.responseMask.map fun (m : Nat) => standardize options scores row.score * m

/-! ### Sessions -/

/-- The last output of each session so far: its index, and its row. -/
def finalSessions (parsed : List (PyStr × Int)) : List (PyStr × (Int × Nat)) :=
  parsed.zipIdx.foldl (fun sessions entry =>
    match Dict.get? sessions entry.1.1 with
    | none => Dict.set sessions entry.1.1 (entry.1.2, entry.2)
    | some (index, _) =>
        if index < entry.1.2 then Dict.set sessions entry.1.1 (entry.1.2, entry.2) else sessions) []

/-- `response_mask.argmax` -/
def firstMax (mask : List Nat) : Nat := mask.idxOf (mask.foldl max 0)

/-- `session_key_to_local_index[session_key]` -/
def localIndex (repr : PyStr → PyStr) (sessions : List (PyStr × (Int × Nat))) (key : PyStr) :
    Except PyError Nat :=
  match Dict.get? (Dict.keys sessions).zipIdx key with
  | none => .error ⟨.keyError, String.ofList (repr key)⟩
  | some i => .ok i

/-- `compute_advantage_for_multi_trajectories` -/
def computeAdvantageForMultiTrajectories (repr : PyStr → PyStr) (options : GrpoOptions K)
    (rows : List (AdvantageRow K)) : Except PyError (List (List K)) := do
  let parsed ← rows.mapM fun row => parseKey repr row.key
  let sessions := finalSessions parsed
  let finalRows := sessions.filterMap fun session => rows[session.2.2]?
  let finalScores := List.zipWith (fun row advantages =>
    advantages.getD (firstMax row.responseMask) 0) finalRows
      (computeGrpoOutcomeAdvantage options finalRows)
  let rowToLocalIndex ← parsed.mapM fun entry => localIndex repr sessions entry.1
  return List.zipWith (fun row i =>
    row.responseMask.map fun (m : Nat) => finalScores.getD i 0 * m) rows rowToLocalIndex

/-! ### One order like another -/

theorem promptMean_perm {scores scores' : List K} (h : scores.Perm scores') :
    promptMean scores = promptMean scores' := by
  unfold promptMean
  rw [h.length_eq, h.sum_eq]

theorem promptStd_perm (sqrt : K → K) {scores scores' : List K} (h : scores.Perm scores') :
    promptStd sqrt scores = promptStd sqrt scores' := by
  unfold promptStd
  rw [h.length_eq, promptMean_perm h, (h.map _).sum_eq]

theorem standardize_perm (options : GrpoOptions K) {scores scores' : List K}
    (h : scores.Perm scores') : standardize options scores = standardize options scores' := by
  funext score
  unfold standardize
  rw [promptMean_perm h, promptStd_perm _ h]

/-- The scores of the rows of a prompt. -/
def uidScores (rows : List (AdvantageRow K)) (uid : PyStr) : List K :=
  (rows.filter fun row => row.uid = uid).map AdvantageRow.score

theorem computeGrpoOutcomeAdvantage_eq (options : GrpoOptions K) (rows : List (AdvantageRow K)) :
    computeGrpoOutcomeAdvantage options rows = rows.map fun row =>
      row.responseMask.map fun (m : Nat) =>
        standardize options (uidScores rows row.uid) row.score * m := by
  have hgroup (uid : PyStr) : ((Dict.get? (Dict.groupBy AdvantageRow.uid [] rows) uid).getD []).map
      AdvantageRow.score = uidScores rows uid := by
    rw [Dict.getD_groupBy]
    rfl
  unfold computeGrpoOutcomeAdvantage
  simp only [hgroup]

/-- The largest entry stands where it is first found. -/
theorem map_getD_firstMax (f : Nat → K) (hf : f 0 = 0) (mask : List Nat) :
    (mask.map f).getD (firstMax mask) 0 = f (mask.foldl max 0) := by
  have hmem : ∀ (mask : List Nat) (start : Nat), mask.foldl max start = start ∨
      mask.foldl max start ∈ mask := by
    intro mask
    induction mask with
    | nil => exact fun _ => .inl rfl
    | cons m mask ih =>
      intro start
      rw [List.foldl_cons]
      rcases ih (max start m) with heq | hin
      · rw [heq]
        rcases max_choice start m with hmax | hmax
        · exact .inl hmax
        · rw [hmax]
          exact .inr List.mem_cons_self
      · exact .inr (List.mem_cons_of_mem m hin)
  unfold firstMax
  rcases hmem mask 0 with hzero | hin
  · rw [hzero]
    by_cases hfound : 0 ∈ mask
    · have hlt := List.idxOf_lt_length_of_mem hfound
      rw [List.getD_eq_getElem?_getD, List.getElem?_map, List.getElem?_eq_getElem hlt]
      simp
    · rw [List.idxOf_eq_length hfound, List.getD_eq_default _ _ (by simp), hf]
  · have hlt := List.idxOf_lt_length_of_mem hin
    rw [List.getD_eq_getElem?_getD, List.getElem?_map, List.getElem?_eq_getElem hlt]
    simp

end Estimator

/-! ### The last output of each session -/

/-- `sessions` has the place of the last output of each session of `parsed`. -/
structure LastOutputs (parsed : List (PyStr × Int)) (sessions : List (PyStr × (Int × Nat))) :
    Prop where
  nodup : (Dict.keys sessions).Nodup
  found : ∀ session index i, Dict.get? sessions session = some (index, i) →
    parsed[i]? = some (session, index) ∧ ∀ entry ∈ parsed, entry.1 = session → entry.2 ≤ index
  all : ∀ entry ∈ parsed, entry.1 ∈ Dict.keys sessions

theorem getElem?_append_some {α : Type} {xs : List α} {i : Nat} {x y : α} (h : xs[i]? = some x) :
    (xs ++ [y])[i]? = some x := by
  have hlt := (List.getElem?_eq_some_iff.mp h).1
  rw [List.getElem?_append_left hlt, h]

/-- A session that comes for the first time, or with a later output. -/
theorem LastOutputs.set {parsed : List (PyStr × Int)} {sessions : List (PyStr × (Int × Nat))}
    (h : LastOutputs parsed sessions) {entry : PyStr × Int}
    (hlater : ∀ index i, Dict.get? sessions entry.1 = some (index, i) → index < entry.2) :
    LastOutputs (parsed ++ [entry]) (Dict.set sessions entry.1 (entry.2, parsed.length)) where
  nodup := Dict.keys_set_nodup h.nodup
  found := by
    intro session index i hget
    rw [Dict.get?_set] at hget
    split at hget
    · next heq =>
      subst heq
      obtain ⟨rfl, rfl⟩ := Prod.mk.inj (Option.some.inj hget)
      refine ⟨by simp, fun other hother hsame => ?_⟩
      rcases List.mem_append.mp hother with hold | hnew
      · cases hbefore : Dict.get? sessions entry.1 with
        | none => exact absurd (hsame ▸ h.all other hold) (Dict.get?_eq_none.mp hbefore)
        | some best =>
          exact ((h.found _ _ _ hbefore).2 other hold hsame).trans (hlater _ _ hbefore).le
      · rw [List.mem_singleton.mp hnew]
    · next hne =>
      obtain ⟨hplace, hall⟩ := h.found session index i hget
      refine ⟨getElem?_append_some hplace, fun other hother hsame => ?_⟩
      rcases List.mem_append.mp hother with hold | hnew
      · exact hall other hold hsame
      · rw [List.mem_singleton.mp hnew] at hsame
        exact absurd hsame hne
  all := by
    intro other hother
    rw [Dict.keys_set]
    rcases List.mem_append.mp hother with hold | hnew
    · split
      · exact h.all other hold
      · exact List.mem_append_left _ (h.all other hold)
    · rw [List.mem_singleton.mp hnew]
      split
      · assumption
      · exact List.mem_append_right _ (List.mem_singleton.mpr rfl)

/-- A session that comes with an earlier output. -/
theorem LastOutputs.skip {parsed : List (PyStr × Int)} {sessions : List (PyStr × (Int × Nat))}
    (h : LastOutputs parsed sessions) {entry : PyStr × Int} {index : Int} {i : Nat}
    (hget : Dict.get? sessions entry.1 = some (index, i)) (hle : entry.2 ≤ index) :
    LastOutputs (parsed ++ [entry]) sessions where
  nodup := h.nodup
  found := by
    intro session best j hbest
    obtain ⟨hplace, hall⟩ := h.found session best j hbest
    refine ⟨getElem?_append_some hplace, fun other hother hsame => ?_⟩
    rcases List.mem_append.mp hother with hold | hnew
    · exact hall other hold hsame
    · rw [List.mem_singleton.mp hnew] at hsame ⊢
      rw [hsame, hbest] at hget
      obtain ⟨rfl, rfl⟩ := Prod.mk.inj (Option.some.inj hget)
      exact hle
  all := by
    intro other hother
    rcases List.mem_append.mp hother with hold | hnew
    · exact h.all other hold
    · rw [List.mem_singleton.mp hnew]
      by_contra hmissing
      rw [Dict.get?_eq_none.mpr hmissing] at hget
      cases hget

theorem finalSessions_lastOutputs (parsed : List (PyStr × Int)) :
    LastOutputs parsed (finalSessions parsed) := by
  unfold finalSessions
  induction parsed using List.reverseRecOn with
  | nil =>
    constructor
    · exact List.nodup_nil
    · intro session index i hget
      cases hget
    · intro entry hentry
      cases hentry
  | append_singleton parsed entry ih =>
    rw [List.zipIdx_append, List.foldl_append, List.zipIdx_singleton, Nat.zero_add,
      List.foldl_cons, List.foldl_nil]
    dsimp only
    split
    · next hnone =>
      apply ih.set
      intro index i hget
      rw [hnone] at hget
      cases hget
    · next index i hget =>
      split
      · next hlt =>
        apply ih.set
        intro index' i' hget'
        obtain ⟨rfl, rfl⟩ := Prod.mk.inj (Option.some.inj (hget.symm.trans hget'))
        exact hlt
      · next hnot => exact ih.skip hget (not_lt.mp hnot)

theorem localIndex_of_mem (repr : PyStr → PyStr) {sessions : List (PyStr × (Int × Nat))}
    (hnodup : (Dict.keys sessions).Nodup) {key : PyStr} (hkey : key ∈ Dict.keys sessions) :
    localIndex repr sessions key = .ok ((Dict.keys sessions).idxOf key) := by
  have hkeys : (Dict.keys (Dict.keys sessions).zipIdx).Nodup := by
    rw [show Dict.keys (Dict.keys sessions).zipIdx = Dict.keys sessions from
      List.zipIdx_map_fst 0 _]
    exact hnodup
  have hget := Dict.get?_of_mem hkeys
    (List.mk_mem_zipIdx_iff_getElem?.mpr (List.getElem?_idxOf hkey))
  unfold localIndex
  rw [hget]

/-! ### Rows under their keys -/

/-- A row under the key of an output of a session. -/
structure SessionRow (K : Type) extends AdvantageRow K where
  promptUid : PyStr
  session : Nat
  index : Nat
  key_eq : key = (Key.trajectory promptUid session index).text
  index_digits : (natText index).length ≤ maxStrDigits

namespace SessionRow

/-- `session_key` -/
def sessionKey (row : SessionRow K) : PyStr := R2opl.sessionKey row.promptUid row.session

def parsed (row : SessionRow K) : PyStr × Int := (row.sessionKey, row.index)

/-- No output of the session comes after this one. -/
def IsLast (rows : List (SessionRow K)) (row : SessionRow K) : Prop :=
  ∀ other ∈ rows, other.sessionKey = row.sessionKey → other.index ≤ row.index

instance (rows : List (SessionRow K)) (row : SessionRow K) : Decidable (IsLast rows row) :=
  inferInstanceAs (Decidable (∀ other ∈ rows, _))

/-- The last outputs of the sessions. -/
def lastOutputs (rows : List (SessionRow K)) : List (SessionRow K) :=
  rows.filter fun row => IsLast rows row

/-- The rows hold one output each. -/
def Distinct (rows : List (SessionRow K)) : Prop := (rows.map fun row => row.key).Nodup

variable {rows : List (SessionRow K)} {row : SessionRow K}

theorem parseKey_key (repr : PyStr → PyStr) (row : SessionRow K) :
    parseKey repr row.key = .ok row.parsed := by
  rw [row.key_eq, parseKey_text repr row.promptUid row.session row.index_digits]
  rfl

/-- What the loop reads from a key tells the key. -/
theorem key_eq_of_parsed {row other : SessionRow K} (h : row.parsed = other.parsed) :
    row.key = other.key := by
  obtain ⟨hsession, hindex⟩ := Prod.mk.inj h
  obtain ⟨huid, hnumber⟩ := sessionKey_injective hsession
  rw [row.key_eq, other.key_eq, huid, hnumber, Int.ofNat_inj.mp hindex]

theorem Distinct.eq_of_parsed (hdistinct : Distinct rows) {row other : SessionRow K}
    (hrow : row ∈ rows) (hother : other ∈ rows) (h : row.parsed = other.parsed) : row = other :=
  List.inj_on_of_nodup_map hdistinct hrow hother (key_eq_of_parsed h)

/-- A session has one last output. -/
theorem Distinct.last_unique (hdistinct : Distinct rows) {last last' : SessionRow K}
    (hlast : last ∈ lastOutputs rows) (hlast' : last' ∈ lastOutputs rows)
    (h : last.sessionKey = last'.sessionKey) : last = last' := by
  obtain ⟨hmem, hmax⟩ := List.mem_filter.mp hlast
  obtain ⟨hmem', hmax'⟩ := List.mem_filter.mp hlast'
  rw [decide_eq_true_eq] at hmax hmax'
  apply hdistinct.eq_of_parsed hmem hmem'
  have hindex : last.index = last'.index :=
    (hmax' last hmem h).antisymm (hmax last' hmem' h.symm)
  unfold parsed
  rw [h, hindex]

theorem lastOutputs_perm {order : List (SessionRow K)} (h : order.Perm rows) :
    (lastOutputs order).Perm (lastOutputs rows) := by
  unfold lastOutputs
  refine (h.filter _).trans (List.Perm.of_eq (List.filter_congr fun row _ => ?_))
  rw [decide_eq_decide]
  unfold IsLast
  constructor
  · exact fun hlast other hother => hlast other (h.mem_iff.mpr hother)
  · exact fun hlast other hother => hlast other (h.mem_iff.mp hother)

/-- The rows that the loop selects. -/
def finalRows (rows : List (SessionRow K)) : List (SessionRow K) :=
  (finalSessions (rows.map parsed)).filterMap fun session => rows[session.2.2]?

theorem mem_finalRows_last (hrow : row ∈ finalRows rows) : row ∈ lastOutputs rows := by
  obtain ⟨⟨session, index, i⟩, hsession, hplace⟩ := List.mem_filterMap.mp hrow
  have hlast := finalSessions_lastOutputs (rows.map parsed)
  obtain ⟨hparsed, hall⟩ := hlast.found _ _ _ (Dict.get?_of_mem hlast.nodup hsession)
  dsimp only at hplace
  rw [List.getElem?_map, hplace] at hparsed
  obtain ⟨hkey, hindex⟩ := Prod.mk.inj (Option.some.inj hparsed)
  refine List.mem_filter.mpr ⟨List.mem_of_getElem? hplace, decide_eq_true ?_⟩
  intro other hother hsame
  have hle := hall other.parsed (List.mem_map_of_mem hother) (hsame.trans hkey)
  rw [← hindex] at hle
  exact Int.ofNat_le.mp hle

/-- The selected rows stand in the order of their sessions. -/
theorem finalRows_sessionKey (rows : List (SessionRow K)) :
    (finalRows rows).map sessionKey = Dict.keys (finalSessions (rows.map parsed)) := by
  have hlast := finalSessions_lastOutputs (rows.map parsed)
  unfold finalRows Dict.keys
  rw [List.map_filterMap, ← List.filterMap_eq_map (f := Prod.fst)]
  apply List.filterMap_congr
  rintro ⟨session, index, i⟩ hsession
  obtain ⟨hparsed, -⟩ := hlast.found _ _ _ (Dict.get?_of_mem hlast.nodup hsession)
  rw [List.getElem?_map] at hparsed
  obtain ⟨row, hplace, hrow⟩ := Option.map_eq_some_iff.mp hparsed
  have hkey : row.sessionKey = session := congrArg Prod.fst hrow
  dsimp only [Function.comp_apply]
  rw [hplace, Option.map_some, hkey]

theorem exists_finalRow (hrow : row ∈ rows) :
    ∃ last ∈ finalRows rows, last.sessionKey = row.sessionKey := by
  have hlast := finalSessions_lastOutputs (rows.map parsed)
  have hkey := hlast.all row.parsed (List.mem_map_of_mem hrow)
  rw [← finalRows_sessionKey] at hkey
  exact List.mem_map.mp hkey

theorem finalRows_perm (hdistinct : Distinct rows) :
    (finalRows rows).Perm (lastOutputs rows) := by
  have hlast := finalSessions_lastOutputs (rows.map parsed)
  have hnodup : ((finalRows rows).map sessionKey).Nodup := by
    rw [finalRows_sessionKey]
    exact hlast.nodup
  have hrows : rows.Nodup := List.Nodup.of_map _ hdistinct
  refine (List.perm_ext_iff_of_nodup (List.Nodup.of_map _ hnodup) (hrows.filter _)).mpr ?_
  intro row
  constructor
  · exact mem_finalRows_last
  · intro hrow
    obtain ⟨last, hmem, hsession⟩ := exists_finalRow (List.mem_of_mem_filter hrow)
    rwa [← hdistinct.last_unique (mem_finalRows_last hmem) hrow hsession]

/-! ### The advantages -/

variable [Field K] (options : GrpoOptions K)

/-- The score of the last output of a session, against those of its prompt. -/
def lastScore (rows : List (SessionRow K)) (last : SessionRow K) : K :=
  standardize options (uidScores ((lastOutputs rows).map toAdvantageRow) last.uid) last.score
    * (last.responseMask.foldl max 0 : ℕ)

/-- What a row gets: the score of the last output of its session. -/
def sessionAdvantage (rows : List (SessionRow K)) (row : SessionRow K) : List K :=
  match (lastOutputs rows).find? fun last => last.sessionKey = row.sessionKey with
  | none => []
  | some last => row.responseMask.map fun (m : Nat) => lastScore options rows last * m

theorem lastScore_perm {order : List (SessionRow K)} (h : order.Perm rows) :
    lastScore options order = lastScore options rows := by
  funext last
  unfold lastScore uidScores
  rw [standardize_perm options ((((lastOutputs_perm h).map _).filter _).map _)]

theorem sessionAdvantage_of_last (hdistinct : Distinct rows) {last : SessionRow K}
    (hlast : last ∈ lastOutputs rows) (hsession : last.sessionKey = row.sessionKey) :
    sessionAdvantage options rows row =
      row.responseMask.map fun (m : Nat) => lastScore options rows last * m := by
  unfold sessionAdvantage
  cases hfind : (lastOutputs rows).find? fun last => last.sessionKey = row.sessionKey with
  | none =>
    have hnot := List.find?_eq_none.mp hfind last hlast
    rw [decide_eq_true_eq] at hnot
    exact absurd hsession hnot
  | some found =>
    have hkey := List.find?_some hfind
    rw [decide_eq_true_eq] at hkey
    rw [hdistinct.last_unique (List.mem_of_find?_eq_some hfind) hlast (hkey.trans hsession.symm)]

/-- The scores of the selected rows. -/
theorem finalScores_eq (rows : List (SessionRow K)) (hdistinct : Distinct rows) :
    List.zipWith (fun row advantages => advantages.getD (firstMax row.responseMask) 0)
      ((finalRows rows).map toAdvantageRow)
      (computeGrpoOutcomeAdvantage options ((finalRows rows).map toAdvantageRow)) =
      (finalRows rows).map (lastScore options rows) := by
  rw [computeGrpoOutcomeAdvantage_eq, List.zipWith_map_right, List.zipWith_self, List.map_map]
  apply List.map_congr_left
  intro last _
  have hscores : (uidScores ((finalRows rows).map toAdvantageRow) last.uid).Perm
      (uidScores ((lastOutputs rows).map toAdvantageRow) last.uid) :=
    (((finalRows_perm hdistinct).map _).filter _).map _
  rw [Function.comp_apply, map_getD_firstMax _ (by rw [Nat.cast_zero, mul_zero])]
  unfold lastScore
  rw [standardize_perm options hscores]

/-- The score that is found at the place of the session. -/
theorem getD_finalRow (hdistinct : Distinct rows)
    (hkey : row.sessionKey ∈ Dict.keys (finalSessions (rows.map parsed))) {last : SessionRow K}
    (hmem : last ∈ finalRows rows) (hsession : last.sessionKey = row.sessionKey) :
    ((finalRows rows).map (lastScore options rows)).getD
      ((Dict.keys (finalSessions (rows.map parsed))).idxOf row.sessionKey) 0 =
      lastScore options rows last := by
  have hplace := List.getElem?_idxOf hkey
  rw [← finalRows_sessionKey, List.getElem?_map] at hplace
  obtain ⟨found, hfound, hsame⟩ := Option.map_eq_some_iff.mp hplace
  have heq : found = last := hdistinct.last_unique
    (mem_finalRows_last (List.mem_of_getElem? hfound)) (mem_finalRows_last hmem)
    (hsame.trans hsession.symm)
  rw [← finalRows_sessionKey, List.getD_eq_getElem?_getD, List.getElem?_map, hfound, heq]
  rfl

theorem computeAdvantage_eq (repr : PyStr → PyStr) (hdistinct : Distinct rows) :
    computeAdvantageForMultiTrajectories repr options (rows.map toAdvantageRow) =
      .ok (rows.map (sessionAdvantage options rows)) := by
  have hlast := finalSessions_lastOutputs (rows.map parsed)
  have hkeys : ∀ row ∈ rows,
      row.sessionKey ∈ Dict.keys (finalSessions (rows.map parsed)) := fun row hrow =>
    hlast.all row.parsed (List.mem_map_of_mem hrow)
  have hparsed : (rows.map toAdvantageRow).mapM (fun row => parseKey repr row.key) =
      .ok (rows.map parsed) := by
    rw [mapM_eq_ok, List.forall₂_map_left_iff, List.forall₂_map_right_iff, List.forall₂_same]
    exact fun row _ => row.parseKey_key repr
  have hfinal : ((finalSessions (rows.map parsed)).filterMap fun session =>
      (rows.map toAdvantageRow)[session.2.2]?) = (finalRows rows).map toAdvantageRow := by
    unfold finalRows
    rw [List.map_filterMap]
    simp only [List.getElem?_map]
  have hindex : (rows.map parsed).mapM (fun entry =>
      localIndex repr (finalSessions (rows.map parsed)) entry.1) = .ok (rows.map fun row =>
        (Dict.keys (finalSessions (rows.map parsed))).idxOf row.sessionKey) := by
    rw [mapM_eq_ok, List.forall₂_map_left_iff, List.forall₂_map_right_iff, List.forall₂_same]
    exact fun row hrow => localIndex_of_mem repr hlast.nodup (hkeys row hrow)
  unfold computeAdvantageForMultiTrajectories
  rw [hparsed, ok_bind]
  dsimp only
  rw [hfinal, finalScores_eq options rows hdistinct, hindex, ok_bind, pure_eq_ok,
    List.zipWith_map_left, List.zipWith_map_right, List.zipWith_self]
  congr 1
  apply List.map_congr_left
  intro row hrow
  obtain ⟨last, hmem, hsession⟩ := exists_finalRow hrow
  rw [sessionAdvantage_of_last options hdistinct (mem_finalRows_last hmem) hsession,
    getD_finalRow options hdistinct (hkeys row hrow) hmem hsession]

theorem sessionAdvantage_perm (hdistinct : Distinct rows) {order : List (SessionRow K)}
    (horder : order.Perm rows) (hrow : row ∈ order) :
    sessionAdvantage options order row = sessionAdvantage options rows row := by
  have hdistinct' : Distinct order := (horder.map _).nodup_iff.mpr hdistinct
  obtain ⟨last, hmem, hsession⟩ := exists_finalRow hrow
  have hlast := mem_finalRows_last hmem
  rw [sessionAdvantage_of_last options hdistinct' hlast hsession,
    sessionAdvantage_of_last options hdistinct ((lastOutputs_perm horder).mem_iff.mp hlast)
      hsession, lastScore_perm options horder]

theorem sum_map_sub_const (scores : List K) (c : K) :
    (scores.map fun score => score - c).sum = scores.sum - scores.length * c := by
  induction scores with
  | nil => simp
  | cons score scores ih =>
    rw [List.map_cons, List.sum_cons, ih, List.sum_cons, List.length_cons, Nat.cast_succ]
    ring

/-- Of two scores or more, the differences from their mean cancel. -/
theorem sum_standardize [CharZero K] {scores : List K} (h : scores.length ≠ 1) :
    (scores.map (standardize options scores)).sum = 0 := by
  have hcentered : (scores.map fun score => score - promptMean scores).sum = 0 := by
    rw [sum_map_sub_const]
    unfold promptMean
    rw [if_neg h]
    rcases eq_or_ne scores.length 0 with hzero | hpos
    · rw [List.length_eq_zero_iff.mp hzero]
      simp
    · rw [mul_div_cancel₀ _ (Nat.cast_ne_zero.mpr hpos), sub_self]
  unfold standardize
  cases options.normAdvByStdInGrpo with
  | false =>
    simp only [Bool.false_eq_true, if_false]
    exact hcentered
  | true =>
    simp only [if_true, div_eq_mul_inv]
    rw [List.sum_map_mul_right, hcentered, zero_mul]

end SessionRow

/-! ### Every order of the batch -/

open SessionRow

variable [Field K] [CharZero K]

/-- Whatever the order of the batch, a row gets the score of the last output of its session against
the last outputs of its prompt; these scores add up to zero where there are several. -/
theorem computeAdvantageForMultiTrajectories_sessions (repr : PyStr → PyStr)
    (options : GrpoOptions K) (rows : List (SessionRow K)) (hdistinct : Distinct rows) :
    ∃ advantage : SessionRow K → List K,
      (∀ order : List (SessionRow K), order.Perm rows →
        computeAdvantageForMultiTrajectories repr options
          (order.map SessionRow.toAdvantageRow) = .ok (order.map advantage)) ∧
      (∀ row ∈ rows, ∃ last ∈ lastOutputs rows, last.sessionKey = row.sessionKey ∧
        advantage row = row.responseMask.map fun (m : Nat) =>
          standardize options
            (uidScores ((lastOutputs rows).map SessionRow.toAdvantageRow) last.uid) last.score
            * (last.responseMask.foldl max 0 : ℕ) * m) ∧
      ∀ uid : PyStr,
        (uidScores ((lastOutputs rows).map SessionRow.toAdvantageRow) uid).length ≠ 1 →
        ((uidScores ((lastOutputs rows).map SessionRow.toAdvantageRow) uid).map
          (standardize options
            (uidScores ((lastOutputs rows).map SessionRow.toAdvantageRow) uid))).sum = 0 := by
  refine ⟨sessionAdvantage options rows, ?_, ?_, ?_⟩
  · intro order horder
    have hdistinct' : Distinct order := (horder.map _).nodup_iff.mpr hdistinct
    rw [computeAdvantage_eq options repr hdistinct']
    congr 1
    exact List.map_congr_left fun row hrow => sessionAdvantage_perm options hdistinct horder hrow
  · intro row hrow
    obtain ⟨last, hmem, hsession⟩ := exists_finalRow hrow
    have hlast := mem_finalRows_last hmem
    exact ⟨last, hlast, hsession, sessionAdvantage_of_last options hdistinct hlast hsession⟩
  · exact fun uid huid => sum_standardize options huid

theorem natText_zero_length : (natText 0).length ≤ maxStrDigits := by decide

theorem natText_one_length : (natText 1).length ≤ maxStrDigits := by decide

/-- A row of one token with a reward. -/
def promptRow (uid : PyStr) (session index : Nat) (reward : ℚ)
    (h : (natText index).length ≤ maxStrDigits) : SessionRow ℚ where
  key := (Key.trajectory uid session index).text
  uid := uid
  tokenLevelRewards := [reward]
  responseMask := [1]
  promptUid := uid
  session := session
  index := index
  key_eq := rfl
  index_digits := h

/-- Two outputs of the first session, and one of the second. -/
def threeOutputs : List (SessionRow ℚ) :=
  [promptRow ['p'] 0 0 0 natText_zero_length, promptRow ['p'] 0 1 1 natText_one_length,
    promptRow ['p'] 1 0 3 natText_zero_length]

theorem computeAdvantageForMultiTrajectories_sessions_three :
    Distinct threeOutputs ∧ ∃ advantage : SessionRow ℚ → List ℚ,
      ∀ order : List (SessionRow ℚ), order.Perm threeOutputs →
        computeAdvantageForMultiTrajectories id ⟨id, 1, true⟩
          (order.map SessionRow.toAdvantageRow) = .ok (order.map advantage) := by
  have hdistinct : Distinct threeOutputs := by
    unfold Distinct
    decide
  obtain ⟨advantage, hadvantage, -⟩ :=
    computeAdvantageForMultiTrajectories_sessions id ⟨id, 1, true⟩ threeOutputs hdistinct
  exact ⟨hdistinct, advantage, hadvantage⟩

end R2opl
