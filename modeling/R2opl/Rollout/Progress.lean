import R2opl.Rollout.Sampling

/-!
# No run that is stuck

From every reachable world the agent loops can end, and one poll later the trainer has its batch or
an exception.  A listing that is older than the cleanup of a batch brings the batch back.
-/

namespace R2opl

open Checked Dict Mirror

variable {partitionId : String} {prompts : PyStr → Prompt} {w w' : RolloutWorld}

/-- A run from one world to another. -/
abbrev Leads (partitionId : String) (prompts : PyStr → Prompt) :
    RolloutWorld → RolloutWorld → Prop :=
  Relation.ReflTransGen (RolloutStep partitionId prompts)

/-- The trainer has not moved. -/
structure Waits (w w' : RolloutWorld) : Prop where
  requested : w'.requested = w.requested
  driver : w'.driver = w.driver
  pollFailed : w'.pollFailed = w.pollFailed
  pads : w'.pads = w.pads
  cleared : w'.cleared = w.cleared
  sampled : w'.sampled = w.sampled
  published : w.published ⊆ w'.published
  ended : w.ended ⊆ w'.ended

theorem Waits.refl (w : RolloutWorld) : Waits w w :=
  ⟨rfl, rfl, rfl, rfl, rfl, rfl, fun _ h => h, fun _ h => h⟩

theorem Waits.trans {w'' : RolloutWorld} (h : Waits w w') (h' : Waits w' w'') : Waits w w'' where
  requested := h'.requested.trans h.requested
  driver := h'.driver.trans h.driver
  pollFailed := h'.pollFailed.trans h.pollFailed
  pads := h'.pads.trans h.pads
  cleared := h'.cleared.trans h.cleared
  sampled := h'.sampled.trans h.sampled
  published := fun _ hkey => h'.published (h.published hkey)
  ended := fun _ huid => h'.ended (h.ended huid)

/-- A run of the other parties. -/
abbrev LeadsWaiting (partitionId : String) (prompts : PyStr → Prompt) :
    RolloutWorld → RolloutWorld → Prop :=
  Relation.ReflTransGen fun w w' => RolloutStep partitionId prompts w w' ∧ Waits w w'

theorem LeadsWaiting.leads (h : LeadsWaiting partitionId prompts w w') :
    Leads partitionId prompts w w' :=
  Relation.ReflTransGen.mono (fun _ _ hstep => hstep.1) _ _ h

theorem LeadsWaiting.waits (h : LeadsWaiting partitionId prompts w w') : Waits w w' := by
  induction h with
  | refl => exact .refl w
  | tail _ hstep ih => exact ih.trans hstep.2

/-! ### The agent loops end -/

section Runs

variable (partitionId prompts)

theorem publish_all {uid : PyStr} (hrequested : uid ∈ w.requested) (n : Nat)
    (hn : n ≤ (prompts uid).sessions.length) : ∃ w', LeadsWaiting partitionId prompts w w' ∧
      ∀ i < n, (uid, i) ∈ w'.published := by
  induction n with
  | zero => exact ⟨w, .refl, fun i hi => absurd hi (Nat.not_lt_zero i)⟩
  | succ n ih =>
    obtain ⟨w', hleads, hall⟩ := ih (by omega)
    by_cases hdone : (uid, n) ∈ w'.published
    · refine ⟨w', hleads, fun i hi => ?_⟩
      obtain hlt | rfl := Nat.lt_succ_iff_lt_or_eq.mp hi
      · exact hall i hlt
      · exact hdone
    · have hsession : (prompts uid).sessions[n]? = some (prompts uid).sessions[n] :=
        List.getElem?_eq_getElem hn
      refine ⟨_, hleads.tail ⟨.publish uid n _ (hleads.waits.requested ▸ hrequested) hsession hdone,
        ⟨rfl, rfl, rfl, rfl, rfl, rfl, List.subset_cons_self _ _, fun _ h => h⟩⟩,
        fun i hi => ?_⟩
      obtain hlt | rfl := Nat.lt_succ_iff_lt_or_eq.mp hi
      · exact List.mem_cons_of_mem _ (hall i hlt)
      · exact List.mem_cons_self

theorem finish_prompt {uid : PyStr} (hrequested : uid ∈ w.requested) :
    ∃ w', LeadsWaiting partitionId prompts w w' ∧ uid ∈ w'.ended := by
  obtain ⟨w', hleads, hall⟩ := publish_all partitionId prompts hrequested _ (Nat.le_refl _)
  by_cases hdone : uid ∈ w'.ended
  · exact ⟨w', hleads, hdone⟩
  · exact ⟨_, hleads.tail ⟨.finish uid (hleads.waits.requested ▸ hrequested) hdone hall,
      ⟨rfl, rfl, rfl, rfl, rfl, rfl, fun _ h => h, List.subset_cons_self _ _⟩⟩,
      List.mem_cons_self⟩

theorem finish_all (uids : List PyStr) (hrequested : ∀ uid ∈ uids, uid ∈ w.requested) :
    ∃ w', LeadsWaiting partitionId prompts w w' ∧ ∀ uid ∈ uids, uid ∈ w'.ended := by
  induction uids with
  | nil => exact ⟨w, .refl, fun _ h => by cases h⟩
  | cons uid uids ih =>
    rw [List.forall_mem_cons] at hrequested
    obtain ⟨w', hleads, hall⟩ := ih hrequested.2
    have huid : uid ∈ w'.requested := hleads.waits.requested ▸ hrequested.1
    obtain ⟨w'', hleads', hended⟩ := finish_prompt partitionId prompts huid
    refine ⟨w'', hleads.trans hleads', ?_⟩
    rw [List.forall_mem_cons]
    exact ⟨hended, fun uid' huid' => hleads'.waits.ended (hall uid' huid')⟩

end Runs

/-! ### The poll -/

/-- The buffer knows how each of these prompts ended. -/
def Knows (prompts : PyStr → Prompt) (w : RolloutWorld) (uids : List PyStr) : Prop :=
  ∀ uid ∈ uids, ∃ tags, get? w.buffer (.prompt uid) = some tags ∧
    tags.status = (prompts uid).endTags.status

/-- What the queue says of the end of a prompt is there once the queue is added. -/
theorem Inv.get?_added (h : Inv prompts w) {uid : PyStr} (hended : uid ∈ w.ended)
    (buffer : QueuePartition) : ∃ tags, get? (buffer.add w.queue) (.prompt uid) = some tags ∧
      tags.status = (prompts uid).endTags.status := by
  obtain ⟨tags, htags, hstatus⟩ := h.settled uid hended
  unfold QueuePartition.add
  rw [get?_absorb _ h.queue.nodup, htags]
  refine ⟨_, rfl, ?_⟩
  unfold updateTags
  rw [Tags.update_status, hstatus, endTags_status, Option.some_or]

variable (partitionId) in
theorem poll_free (h : Inv prompts w) (hfree : w.listing = none) (hpolls : w.pollFailed = false) :
    ∃ w', LeadsWaiting partitionId prompts w w' ∧ Knows prompts w' w.ended := by
  have hlist : Waits w { w with listing := some w.queue } :=
    ⟨rfl, rfl, rfl, rfl, rfl, rfl, fun _ h => h, fun _ h => h⟩
  have hadd : Waits { w with listing := some w.queue }
      { w with buffer := w.buffer.add w.queue, listing := none } :=
    ⟨rfl, rfl, rfl, rfl, rfl, rfl, fun _ h => h, fun _ h => h⟩
  exact ⟨_, .head ⟨.list hfree hpolls, hlist⟩ (.single ⟨.add w.queue rfl, hadd⟩),
    fun _ hended => h.get?_added hended w.buffer⟩

variable (partitionId) in
/-- A listing on its way is added first. -/
theorem poll (h : Inv prompts w) (hpolls : w.pollFailed = false) :
    ∃ w', LeadsWaiting partitionId prompts w w' ∧ Knows prompts w' w.ended := by
  cases hlisting : w.listing with
  | none => exact poll_free partitionId h hlisting hpolls
  | some items =>
    have hadd : Waits w { w with buffer := w.buffer.add items, listing := none } :=
      ⟨rfl, rfl, rfl, rfl, rfl, rfl, fun _ h => h, fun _ h => h⟩
    obtain ⟨w', hleads, hknows⟩ := poll_free partitionId (h.add hlisting) rfl hpolls
    exact ⟨w', .head ⟨.add items hlisting, hadd⟩ hleads, hknows⟩

/-! ### The look of the trainer -/

section Look

variable {globalSteps : Nat}

/-- The prompts of the step. -/
def stepPrompts (prompts : PyStr → Prompt) (w : RolloutWorld) (globalSteps : Nat) : List PyStr :=
  w.requested.filter fun uid => (prompts uid).globalSteps = globalSteps

/-- Only a prompt of the step that has not ended makes the trainer wait. -/
theorem Inv.look_decided (h : Inv prompts w)
    (hknows : Knows prompts w (stepPrompts prompts w globalSteps)) :
    scan partitionId (some globalSteps) w.buffer ≠ .ok none := by
  intro hscan
  obtain ⟨item, hitem, hsteps, hstatus⟩ := scan_eq_none hscan
  have hget := get?_of_mem h.buffer.nodup hitem
  have hgenuine := h.buffer.genuine _ _ hget
  cases hkey : item.1 with
  | prompt uid =>
    rw [hkey] at hgenuine hget
    obtain ⟨hrequested, hof, -⟩ := hgenuine
    rw [hsteps] at hof
    have hstep := Option.some.inj (hof.resolve_left (Option.some_ne_none _))
    obtain ⟨tags, htags, hend⟩ :=
      hknows uid (List.mem_filter.mpr ⟨hrequested, decide_eq_true hstep.symm⟩)
    obtain rfl := Option.some.inj (hget.symm.trans htags)
    rw [hstatus, endTags_status] at hend
    split at hend <;> cases hend
  | trajectory uid i index =>
    rw [hkey] at hgenuine
    rcases hgenuine with ⟨-, -, session, -, hmem⟩ | ⟨-, hsuccess, -⟩
    · obtain ⟨_, _, heq⟩ := mem_sessionItems hmem
      rw [(Prod.mk.inj heq).2] at hstatus
      cases hstatus
    · rw [hstatus] at hsuccess
      cases hsuccess

/-- The trainer raises for a prompt of the step that failed. -/
theorem Inv.stops (h : Inv prompts w) {item : Key × Tags} (hitem : item ∈ w.buffer)
    (hstops : Stops (some globalSteps) item) : ∃ uid ∈ w.requested,
      (prompts uid).globalSteps = globalSteps ∧ (prompts uid).error? ≠ none := by
  have hget := get?_of_mem h.buffer.nodup hitem
  have hgenuine := h.buffer.genuine _ _ hget
  cases hkey : item.1 with
  | prompt uid =>
    rw [hkey] at hgenuine
    obtain ⟨hrequested, hof, hstatus⟩ := hgenuine
    have hsteps : item.2.globalSteps = some globalSteps := hstops.elim And.left And.left
    refine ⟨uid, hrequested, ?_, fun hnone => ?_⟩
    · rcases hof with hof | hof
      · rw [hsteps] at hof
        cases hof
      · rw [hsteps] at hof
        exact (Option.some.inj hof).symm
    · rw [endTags_status, if_pos hnone] at hstatus
      rcases hstops with ⟨-, hstop⟩ | ⟨-, hstop⟩
      · rw [hstop] at hstatus
        rcases hstatus with hstatus | ⟨-, hstatus⟩ <;> cases hstatus
      · rw [hstop] at hstatus
        rcases hstatus with hstatus | ⟨-, hstatus⟩ <;> cases hstatus
  | trajectory uid i index =>
    exfalso
    have hsuccess : item.2.status = some .success := by
      rw [hkey] at hgenuine
      rcases hgenuine with ⟨-, -, session, -, hmem⟩ | ⟨-, hsuccess, -⟩
      · obtain ⟨_, _, heq⟩ := mem_sessionItems hmem
        rw [(Prod.mk.inj heq).2]
        rfl
      · exact hsuccess
    rcases hstops with ⟨-, hstop⟩ | ⟨-, hstop⟩
    · rw [hsuccess] at hstop
      cases hstop
    · rw [hsuccess] at hstop
      cases hstop

/-- Where the prompts of the step have ended well, and something is there, there is a batch. -/
theorem Inv.look_returns (h : Inv prompts w)
    (hknows : Knows prompts w (stepPrompts prompts w globalSteps))
    (herror : ∀ uid ∈ w.requested, (prompts uid).globalSteps = globalSteps →
      (prompts uid).error? = none)
    (hsome : ∃ item ∈ w.buffer, Marked (some globalSteps) (some .success) item) :
    ∃ batch, scan partitionId (some globalSteps) w.buffer = .ok (some batch) := by
  cases hscan : scan partitionId (some globalSteps) w.buffer with
  | ok found =>
    cases found with
    | none => exact absurd hscan (h.look_decided hknows)
    | some batch => exact ⟨batch, rfl⟩
  | error e =>
    exfalso
    rcases scan_eq_error hscan with ⟨item, hitem, hstops⟩ | ⟨-, hnone⟩
    · obtain ⟨uid, hrequested, hsteps, hfailed⟩ := h.stops hitem hstops
      exact hfailed (herror uid hrequested hsteps)
    · obtain ⟨item, hitem, hmarked⟩ := hsome
      exact hnone item hitem hmarked

/-- What the prompts of a step wrote is in the buffer before the first batch. -/
theorem Inv.look_some (h : Inv prompts w)
    (hknows : Knows prompts w (stepPrompts prompts w globalSteps))
    (hfirst : globalSteps ∉ w.sampled)
    (herror : ∀ uid ∈ w.requested, (prompts uid).globalSteps = globalSteps →
      (prompts uid).error? = none)
    (hsome : stepTrajectories prompts w.requested globalSteps ≠ []) :
    ∃ item ∈ w.buffer, Marked (some globalSteps) (some .success) item := by
  obtain ⟨item, hitem⟩ := List.exists_mem_of_ne_nil _ hsome
  obtain ⟨uid, hrequested, hsteps, hmem⟩ := mem_stepTrajectories.mp hitem
  obtain ⟨tags, htags, hstatus⟩ :=
    hknows uid (List.mem_filter.mpr ⟨hrequested, decide_eq_true hsteps⟩)
  rw [endTags_status, if_pos (herror uid hrequested hsteps)] at hstatus
  have hthere := (h.mirrored hrequested htags hstatus hmem).resolve_right
    (h.not_cleared hfirst hitem)
  obtain ⟨_, _, -, hof, hsuccess⟩ := mem_trajectories_key hmem
  rw [hsteps] at hof
  exact ⟨item, hthere, hof, hsuccess⟩

end Look

/-- From every reachable world the others can bring the trainer to the end of its waiting, without
    a step of its own; it gets a batch exactly where the prompts of the step end well and with
    something. -/
theorem sample_progress (partitionId : String) (prompts : PyStr → Prompt) (w : RolloutWorld)
    (globalSteps : Nat) (hreachable : RolloutReachable partitionId prompts w)
    (hpolls : w.pollFailed = false) (hfirst : globalSteps ∉ w.sampled) :
    ∃ w', LeadsWaiting partitionId prompts w w' ∧ Waits w w' ∧
      scan partitionId (some globalSteps) w'.buffer ≠ .ok none ∧
      ((∃ batch, scan partitionId (some globalSteps) w'.buffer = .ok (some batch)) ↔
        (∀ uid ∈ w.requested, (prompts uid).globalSteps = globalSteps →
          (prompts uid).error? = none) ∧
        stepTrajectories prompts w.requested globalSteps ≠ []) := by
  obtain ⟨w₁, hleads₁, hended⟩ := finish_all partitionId prompts w.requested fun _ h => h
  have hinv₁ : Inv prompts w₁ := RolloutReachable.inv (hreachable.trans hleads₁.leads)
  obtain ⟨w₂, hleads₂, hknows⟩ :=
    poll partitionId hinv₁ (hleads₁.waits.pollFailed.trans hpolls)
  have hleads := hleads₁.trans hleads₂
  have hwaits := LeadsWaiting.waits hleads
  have hinv₂ : Inv prompts w₂ :=
    RolloutReachable.inv (hreachable.trans (LeadsWaiting.leads hleads))
  have hall : Knows prompts w₂ (stepPrompts prompts w₂ globalSteps) := fun uid hof =>
    hknows uid (hended uid (hwaits.requested ▸ List.mem_of_mem_filter hof))
  have hfirst₂ : globalSteps ∉ w₂.sampled := hwaits.sampled ▸ hfirst
  refine ⟨w₂, hleads, hwaits, hinv₂.look_decided hall, ?_⟩
  rw [← hwaits.requested]
  constructor
  · rintro ⟨batch, hscan⟩
    refine ⟨fun uid hrequested hsteps => (hinv₂.look_ended hscan hrequested hsteps).2, ?_⟩
    obtain ⟨-, -, hne⟩ := scan_eq_some.mp hscan
    obtain ⟨item, hitem⟩ := List.exists_mem_of_ne_nil _ hne
    exact List.ne_nil_of_mem ((hinv₂.look_sound hscan hitem).resolve_right hfirst₂)
  · rintro ⟨herror, hsome⟩
    exact hinv₂.look_returns hall herror (hinv₂.look_some hall hfirst₂ herror hsome)

/-- The trainer waits for two prompts, one of them with an agent loop that is running. -/
theorem sample_progress_running :
    runningWorld.driver = .waiting 3 ∧
      ∃ w', LeadsWaiting "train" twoPrompts runningWorld w' ∧ Waits runningWorld w' ∧
        scan "train" (some 3) w'.buffer ≠ .ok none ∧
        ((∃ batch, scan "train" (some 3) w'.buffer = .ok (some batch)) ↔
          (∀ uid ∈ runningWorld.requested, (twoPrompts uid).globalSteps = 3 →
            (twoPrompts uid).error? = none) ∧
          stepTrajectories twoPrompts runningWorld.requested 3 ≠ []) :=
  ⟨rfl, sample_progress "train" twoPrompts runningWorld 3 runningWorld_reachable rfl (by decide)⟩

/-! ### Old listings -/

section Stale

variable {globalSteps : Nat} {batch : QueuePartition}

/-- What the prompts of the step have written is in the queue until it is cleared. -/
theorem Inv.queued (h : Inv prompts w) {item : Key × Tags}
    (hitem : item ∈ stepTrajectories prompts w.requested globalSteps)
    (hended : ∀ uid ∈ w.requested, (prompts uid).globalSteps = globalSteps → uid ∈ w.ended)
    (hcleared : item.1 ∉ w.cleared) : get? w.queue item.1 = some item.2 := by
  obtain ⟨uid, hrequested, hsteps, hmem⟩ := mem_stepTrajectories.mp hitem
  apply h.queue.trajectory h.disjoint hrequested hmem
  obtain ⟨i, session, hsession, hwritten⟩ := mem_trajectories.mp hmem
  have hlt := (List.getElem?_eq_some_iff.mp hsession).1
  have hpublished := (h.ended uid (hended uid hrequested hsteps)).2 i hlt
  exact (h.kept uid i session hpublished hsession _ (List.mem_map_of_mem hwritten)).resolve_right
    hcleared

/-- A batch that was removed is there again once a listing from before its cleanup is added. -/
theorem mem_add_removed {queue buffer : QueuePartition} (hnodup : (keys queue).Nodup)
    {item : Key × Tags} (hitem : item ∈ batch) (hqueued : get? queue item.1 = some item.2) :
    item ∈ (buffer.remove (keys batch)).add queue := by
  have hkey : item.1 ∈ keys batch := List.mem_map_of_mem hitem
  have hgone : get? (buffer.remove (keys batch)) item.1 = none := by
    unfold QueuePartition.remove
    rw [get?_forget, if_pos hkey]
  apply mem_of_get?
  unfold QueuePartition.add
  rw [get?_absorb _ hnodup, hqueued, hgone]
  exact congrArg some (Tags.update_empty item.2)

variable (partitionId) in
/-- The trainer takes its batch, and a listing that is on its way is added. -/
theorem take_batch (hwaiting : w.driver = .waiting globalSteps)
    (hscan : scan partitionId (some globalSteps) w.buffer = .ok (some batch)) :
    ∃ buffer, Leads partitionId prompts w { w with
      buffer, listing := none, driver := .holding globalSteps batch
      sampled := globalSteps :: w.sampled } := by
  have hsample : RolloutStep partitionId prompts w { w with
      driver := .holding globalSteps batch, sampled := globalSteps :: w.sampled } :=
    .sample globalSteps batch hwaiting hscan
  cases hlisting : w.listing with
  | none =>
    refine ⟨w.buffer, .single ?_⟩
    rwa [← hlisting]
  | some items => exact ⟨_, .head hsample (.single (.add items hlisting))⟩

end Stale

/-- A listing that the polling thread asks for before the cleanup of a batch, and adds after it,
    brings the batch back: the next look at the same step returns it again, although the queue has
    none of it any more. -/
theorem stale_listing (partitionId : String) (prompts : PyStr → Prompt) (w : RolloutWorld)
    (globalSteps : Nat) (batch : QueuePartition)
    (hreachable : RolloutReachable partitionId prompts w)
    (hwaiting : w.driver = .waiting globalSteps)
    (hscan : scan partitionId (some globalSteps) w.buffer = .ok (some batch))
    (hfirst : globalSteps ∉ w.sampled) (hpolls : w.pollFailed = false) :
    ∃ w' later, Leads partitionId prompts w w' ∧ w'.driver = .idle ∧
      (∀ key ∈ keys batch, key ∉ keys w'.queue) ∧
      scan partitionId (some globalSteps) w'.buffer = .ok (some later) ∧ batch ⊆ later := by
  have h := hreachable.inv
  have hparts : batch.Perm (batch ++ []) := by rw [List.append_nil]
  obtain ⟨buffer, htaken⟩ := take_batch partitionId hwaiting hscan
  -- the listing is asked for while the trainer holds the batch
  have hleads : Leads partitionId prompts w { w with
      queue := w.queue.remove (keys batch)
      buffer := (buffer.remove (keys batch)).add w.queue
      listing := none
      driver := .idle
      cleared := keys batch ++ w.cleared
      sampled := globalSteps :: w.sampled } :=
    htaken.trans (.head (.list rfl hpolls) (.head (.clear globalSteps batch batch [] rfl hparts)
      (.head (.remove globalSteps batch [] rfl) (.single (.add w.queue rfl)))))
  have h' := RolloutReachable.inv (hreachable.trans hleads)
  have hended : ∀ uid ∈ w.requested, (prompts uid).globalSteps = globalSteps →
      uid ∈ w.ended ∧ (prompts uid).error? = none :=
    fun _ hrequested hof => h.look_ended hscan hrequested hof
  have hback : ∀ item ∈ batch, item ∈ (buffer.remove (keys batch)).add w.queue := by
    intro item hitem
    have hstep := (h.look_sound hscan hitem).resolve_right hfirst
    exact mem_add_removed h.queue.nodup hitem (h.queued hstep
      (fun uid hrequested hof => (hended uid hrequested hof).1) (h.not_cleared hfirst hstep))
  obtain ⟨later, hlater⟩ : ∃ later, scan partitionId (some globalSteps)
      ((buffer.remove (keys batch)).add w.queue) = .ok (some later) := by
    refine h'.look_returns (fun uid hof => ?_) (fun uid hrequested hof =>
      (hended uid hrequested hof).2) ?_
    · obtain ⟨hrequested, hsteps⟩ := List.mem_filter.mp hof
      exact h.get?_added (hended uid hrequested (of_decide_eq_true hsteps)).1 _
    · obtain ⟨item, hitem⟩ := List.exists_mem_of_ne_nil _ (scan_eq_some.mp hscan).2.2
      obtain ⟨hsteps, hstatus, -⟩ := (h.held hscan).item item hitem
      exact ⟨item, hback item hitem, hsteps, hstatus⟩
  refine ⟨_, later, hleads, rfl, ?_, hlater, ?_⟩
  · intro key hkey
    change key ∉ keys (w.queue.remove (keys batch))
    unfold QueuePartition.remove
    rw [mem_keys_forget]
    exact fun hthere => hthere.2 hkey
  · intro item hitem
    obtain ⟨-, rfl, -⟩ := scan_eq_some.mp hlater
    obtain ⟨hsteps, hstatus, -⟩ := (h.held hscan).item item hitem
    exact List.mem_filter.mpr ⟨hback item hitem, decide_eq_true ⟨hsteps, hstatus⟩⟩

theorem stale_listing_polled :
    ∃ w' later, Leads "train" twoPrompts polledWorld w' ∧ w'.driver = .idle ∧
      (∀ key ∈ keys (firstItems ++ otherItems ++ secondItems), key ∉ keys w'.queue) ∧
      scan "train" (some 3) w'.buffer = .ok (some later) ∧
      firstItems ++ otherItems ++ secondItems ⊆ later :=
  stale_listing "train" twoPrompts polledWorld 3 _ polledWorld_reachable rfl polledWorld_scan
    (by decide) rfl

end R2opl
