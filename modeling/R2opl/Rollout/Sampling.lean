import R2opl.Rollout.Interleavings

/-!
# What a sample holds

In every run the batch of a step holds what all of its prompts have generated: the trainer waits
for each of them, and what a prompt wrote before its end is in the buffer when its end is.
-/

namespace R2opl

open Checked Dict Mirror

variable {partitionId : String} {prompts : PyStr → Prompt} {w w' : RolloutWorld}
  {items new : QueuePartition}

/-! ### The items of an agent loop -/

theorem keys_sessionItems (uid : PyStr) (globalSteps session : Nat) (outputs : List (Nat × Nat)) :
    keys (sessionItems uid globalSteps session outputs) =
      (List.range outputs.length).map (Key.trajectory uid session) := by
  unfold keys sessionItems
  apply List.ext_getElem (by simp)
  intro i hi hi'
  simp

theorem keys_sessionItems_nodup (uid : PyStr) (globalSteps session : Nat)
    (outputs : List (Nat × Nat)) :
    (keys (sessionItems uid globalSteps session outputs)).Nodup := by
  rw [keys_sessionItems]
  apply List.Nodup.map _ List.nodup_range
  intro i j h
  injection h

theorem mem_sessionItems {uid : PyStr} {globalSteps session : Nat} {outputs : List (Nat × Nat)}
    {item : Key × Tags} (h : item ∈ sessionItems uid globalSteps session outputs) :
    ∃ index output, item = (.trajectory uid session index, outputTags globalSteps output) := by
  obtain ⟨index, hindex, rfl⟩ := List.mem_mapIdx.mp h
  exact ⟨index, outputs[index], rfl⟩

theorem mem_trajectories {uid : PyStr} {prompt : Prompt} {item : Key × Tags} :
    item ∈ trajectories uid prompt ↔ ∃ i session, prompt.sessions[i]? = some session ∧
      item ∈ sessionItems uid prompt.globalSteps i session.outputs := by
  unfold trajectories
  rw [List.mem_flatMap]
  constructor
  · rintro ⟨⟨session, i⟩, hmem, hitem⟩
    exact ⟨i, session, List.mem_zipIdx_iff_getElem?.mp hmem, hitem⟩
  · rintro ⟨i, session, hsession, hitem⟩
    exact ⟨(session, i), List.mem_zipIdx_iff_getElem?.mpr hsession, hitem⟩

theorem keys_paddingItems_nodup (padUid : PyStr) (tags : Tags) (size : Nat) :
    (keys (paddingItems padUid tags size)).Nodup := by
  unfold keys paddingItems
  rw [List.map_map]
  apply List.Nodup.map _ List.nodup_range
  intro i j h
  simpa using h

theorem keys_runningItems (globalSteps : Nat) (uids : List PyStr) :
    keys (runningItems globalSteps uids) = uids.map Key.prompt := by
  unfold keys runningItems
  rw [List.map_map]
  rfl

theorem keys_runningItems_nodup (globalSteps : Nat) {uids : List PyStr} (h : uids.Nodup) :
    (keys (runningItems globalSteps uids)).Nodup := by
  rw [keys_runningItems]
  apply h.map
  intro uid uid' heq
  injection heq

/-! ### Faithful partitions -/

/-- The end of a prompt comes after all of its trajectories. -/
def Needs (prompts : PyStr → Prompt) (key : Key) (tags : Tags) (other : Key) : Prop :=
  ∃ uid, key = .prompt uid ∧ tags.status = some .finished ∧
    other ∈ keys (trajectories uid (prompts uid))

/-- The tags tell what has happened. -/
def Genuine (prompts : PyStr → Prompt) (w : RolloutWorld) : Key → Tags → Prop
  | .prompt uid, tags => uid ∈ w.requested ∧
      (tags.globalSteps = none ∨ tags.globalSteps = some (prompts uid).globalSteps) ∧
      (tags.status = some .running ∨
        uid ∈ w.ended ∧ tags.status = (prompts uid).endTags.status)
  | .trajectory uid i index, tags =>
      (uid ∈ w.requested ∧ (uid, i) ∈ w.published ∧
        ∃ session, (prompts uid).sessions[i]? = some session ∧
          (Key.trajectory uid i index, tags) ∈
            sessionItems uid (prompts uid).globalSteps i session.outputs) ∨
      uid ∈ w.pads ∧ tags.status = some .success ∧
        ∃ globalSteps ∈ w.sampled, tags.globalSteps = some globalSteps

structure Faithful (prompts : PyStr → Prompt) (w : RolloutWorld) (items : QueuePartition) :
    Prop where
  nodup : (keys items).Nodup
  genuine : Everywhere (Genuine prompts w) items
  causal : Causal (Needs prompts) w.cleared items

/-- What is remembered only grows. -/
structure Grows (w w' : RolloutWorld) : Prop where
  requested : w.requested ⊆ w'.requested
  published : w.published ⊆ w'.published
  ended : w.ended ⊆ w'.ended
  pads : w.pads ⊆ w'.pads
  cleared : w.cleared ⊆ w'.cleared
  sampled : w.sampled ⊆ w'.sampled

theorem Grows.same (w : RolloutWorld) (queue : QueuePartition) (listing : Option QueuePartition)
    (pollFailed : Bool) (buffer : QueuePartition) (driver : Driver) :
    Grows w { w with queue, listing, pollFailed, buffer, driver } :=
  ⟨fun _ h => h, fun _ h => h, fun _ h => h, fun _ h => h, fun _ h => h, fun _ h => h⟩

theorem Genuine.mono (hgrows : Grows w w') {key : Key} {tags : Tags}
    (h : Genuine prompts w key tags) : Genuine prompts w' key tags := by
  cases key with
  | prompt uid =>
    obtain ⟨hrequested, hsteps, hstatus⟩ := h
    exact ⟨hgrows.requested hrequested, hsteps,
      hstatus.imp_right (And.imp_left (hgrows.ended ·))⟩
  | trajectory uid i index =>
    rcases h with ⟨hrequested, hpublished, hitem⟩ | ⟨hpad, hstatus, globalSteps, hsampled, hsteps⟩
    · exact .inl ⟨hgrows.requested hrequested, hgrows.published hpublished, hitem⟩
    · exact .inr ⟨hgrows.pads hpad, hstatus, globalSteps, hgrows.sampled hsampled, hsteps⟩

theorem Faithful.mono (h : Faithful prompts w items) (hgrows : Grows w w') :
    Faithful prompts w' items where
  nodup := h.nodup
  genuine := h.genuine.mono fun _ _ => Genuine.mono hgrows
  causal := h.causal.mono hgrows.cleared

theorem Faithful.nothing : Faithful prompts w [] where
  nodup := List.nodup_nil
  genuine := fun _ _ h => by cases h
  causal := fun _ _ h => by cases h

/-- One writer for each trajectory: what is written again is the same. -/
theorem Genuine.update (hdisjoint : ∀ uid ∈ w.pads, uid ∉ w.requested) {key : Key}
    {old : Option Tags} {tags : Tags} (hold : ∀ found ∈ old, Genuine prompts w key found)
    (h : Genuine prompts w key tags) : Genuine prompts w key (updateTags old tags) := by
  unfold updateTags
  cases old with
  | none => simpa using h
  | some found =>
    have hfound := hold found rfl
    rw [Option.getD_some]
    cases key with
    | prompt uid =>
      obtain ⟨hrequested, hsteps, hstatus⟩ := h
      have hkept : (found.update tags).status = tags.status := by
        rw [Tags.update_status]
        rcases hstatus with hstatus | ⟨-, hstatus⟩
        · rw [hstatus, Option.some_or]
        · rw [hstatus]
          unfold Prompt.endTags
          split <;> rfl
      refine ⟨hrequested, ?_, by rwa [hkept]⟩
      rw [Tags.update_globalSteps]
      rcases hsteps with hsteps | hsteps
      · rw [hsteps, Option.none_or]
        exact hfound.2.1
      · rw [hsteps, Option.some_or]
        exact .inr rfl
    | trajectory uid i index =>
      rcases h with ⟨hrequested, hpublished, session, hsession, hitem⟩ |
        ⟨hpad, hstatus, globalSteps, hsampled, hsteps⟩
      · rcases hfound with ⟨-, -, session', hsession', hitem'⟩ | ⟨hpad, -⟩
        · obtain rfl := Option.some.inj (hsession.symm.trans hsession')
          have hsame := List.inj_on_of_nodup_map (keys_sessionItems_nodup uid _ i _) hitem hitem'
            rfl
          obtain rfl := (Prod.mk.inj hsame).2
          rw [Tags.update_self]
          exact .inl ⟨hrequested, hpublished, session, hsession, hitem⟩
        · exact absurd hrequested (hdisjoint uid hpad)
      · refine .inr ⟨hpad, ?_, globalSteps, hsampled, ?_⟩
        · rw [Tags.update_status, hstatus, Option.some_or]
        · rw [Tags.update_globalSteps, hsteps, Option.some_or]

theorem Needs.update {key other : Key} {old : Option Tags} {tags : Tags}
    (h : Needs prompts key (updateTags old tags) other) :
    Needs prompts key tags other ∨ ∃ found ∈ old, Needs prompts key found other := by
  obtain ⟨uid, rfl, hstatus, hother⟩ := h
  unfold updateTags at hstatus
  rw [Tags.update_status] at hstatus
  cases htags : tags.status with
  | some status =>
    rw [htags, Option.some_or] at hstatus
    exact .inl ⟨uid, rfl, htags.trans hstatus, hother⟩
  | none =>
    rw [htags, Option.none_or] at hstatus
    cases old with
    | none => cases hstatus
    | some found => exact .inr ⟨found, rfl, uid, rfl, hstatus, hother⟩

theorem Faithful.add (h : Faithful prompts w items) (hdisjoint : ∀ uid ∈ w.pads, uid ∉ w.requested)
    (hnodup : (keys new).Nodup) (hgenuine : Everywhere (Genuine prompts w) new)
    (hneeds : ∀ key tags, get? new key = some tags → ∀ other, Needs prompts key tags other →
      other ∈ keys items ∨ other ∈ keys new ∨ other ∈ w.cleared) :
    Faithful prompts w (items.add new) where
  nodup := keys_absorb_nodup _ h.nodup
  genuine := h.genuine.absorb hgenuine hnodup fun _ _ _ => Genuine.update hdisjoint
  causal := h.causal.absorb hnodup hneeds fun _ _ _ _ => Needs.update

/-- Items other than the ends of prompts need nothing. -/
theorem Faithful.add_simple (h : Faithful prompts w items)
    (hdisjoint : ∀ uid ∈ w.pads, uid ∉ w.requested) (hnodup : (keys new).Nodup)
    (hgenuine : Everywhere (Genuine prompts w) new)
    (hsimple : ∀ item ∈ new, item.2.status ≠ some .finished) :
    Faithful prompts w (items.add new) := by
  apply h.add hdisjoint hnodup hgenuine
  rintro key tags hget other ⟨uid, -, hstatus, -⟩
  exact absurd hstatus (hsimple (key, tags) (mem_of_get? hget))

/-! ### The invariant -/

/-- A batch of the trainer: trajectories of the step, and synthetic samples. -/
structure Held (prompts : PyStr → Prompt) (w : RolloutWorld) (globalSteps : Nat)
    (batch : QueuePartition) : Prop where
  sampled : globalSteps ∈ w.sampled
  item : ∀ item ∈ batch, item.2.globalSteps = some globalSteps ∧
    item.2.status = some .success ∧ ∃ uid i index, item.1 = .trajectory uid i index ∧
      (uid ∈ w.requested ∧ (prompts uid).globalSteps = globalSteps ∨ uid ∈ w.pads)

def DriverHolds (prompts : PyStr → Prompt) (w : RolloutWorld) : Driver → Prop
  | .holding globalSteps batch => Held prompts w globalSteps batch
  | .removing globalSteps cleared kept =>
      Held prompts w globalSteps cleared ∧ Held prompts w globalSteps kept ∧
        keys cleared ⊆ w.cleared
  | _ => True

/-- What holds in every reachable world. -/
structure Inv (prompts : PyStr → Prompt) (w : RolloutWorld) : Prop where
  nodup : w.requested.Nodup
  disjoint : ∀ uid ∈ w.pads, uid ∉ w.requested
  ended : ∀ uid ∈ w.ended, uid ∈ w.requested ∧
    ∀ i < (prompts uid).sessions.length, (uid, i) ∈ w.published
  queue : Faithful prompts w w.queue
  listing : ∀ items ∈ w.listing, Faithful prompts w items
  buffer : Faithful prompts w w.buffer
  kept : ∀ uid i session, (uid, i) ∈ w.published → (prompts uid).sessions[i]? = some session →
    ∀ key ∈ keys (sessionItems uid (prompts uid).globalSteps i session.outputs),
      key ∈ keys w.queue ∨ key ∈ w.cleared
  settled : ∀ uid ∈ w.ended, ∃ tags, get? w.queue (.prompt uid) = some tags ∧
    tags.status = (prompts uid).endTags.status
  marked : ∀ uid ∈ w.requested, ∃ tags, get? w.buffer (.prompt uid) = some tags ∧
    tags.globalSteps = some (prompts uid).globalSteps
  cleared : ∀ key ∈ w.cleared, ∃ uid i index, key = .trajectory uid i index ∧
    (uid ∈ w.requested ∧ (prompts uid).globalSteps ∈ w.sampled ∨ uid ∈ w.pads)
  driver : DriverHolds prompts w w.driver

theorem Inv.initial : Inv prompts .initial where
  nodup := List.nodup_nil
  disjoint := fun _ h => by cases h
  ended := fun _ h => by cases h
  queue := .nothing
  listing := fun _ h => by cases h
  buffer := .nothing
  kept := fun _ _ _ h => by cases h
  settled := fun _ h => by cases h
  marked := fun _ h => by cases h
  cleared := fun _ h => by cases h
  driver := trivial

theorem Held.mono {globalSteps : Nat} {batch : QueuePartition}
    (h : Held prompts w globalSteps batch)
    (hgrows : Grows w w') : Held prompts w' globalSteps batch where
  sampled := hgrows.sampled h.sampled
  item := by
    intro item hitem
    obtain ⟨hsteps, hstatus, uid, i, index, hkey, hof⟩ := h.item item hitem
    exact ⟨hsteps, hstatus, uid, i, index, hkey,
      hof.imp (And.imp_left (hgrows.requested ·)) (hgrows.pads ·)⟩

theorem Held.sublist {globalSteps : Nat} {batch part : QueuePartition}
    (h : Held prompts w globalSteps batch) (hpart : ∀ item ∈ part, item ∈ batch) :
    Held prompts w globalSteps part :=
  ⟨h.sampled, fun item hitem => h.item item (hpart item hitem)⟩

theorem DriverHolds.mono {driver : Driver} (h : DriverHolds prompts w driver)
    (hgrows : Grows w w') : DriverHolds prompts w' driver := by
  cases driver with
  | holding globalSteps batch => exact Held.mono h hgrows
  | removing globalSteps cleared kept =>
    exact ⟨h.1.mono hgrows, h.2.1.mono hgrows, fun _ hkey => hgrows.cleared (h.2.2 hkey)⟩
  | _ => trivial

theorem Inv.cleared_mono (h : Inv prompts w) (hgrows : Grows w w') : ∀ key ∈ w.cleared,
    ∃ uid i index, key = .trajectory uid i index ∧
      (uid ∈ w'.requested ∧ (prompts uid).globalSteps ∈ w'.sampled ∨ uid ∈ w'.pads) := by
  intro key hkey
  obtain ⟨uid, i, index, heq, hof⟩ := h.cleared key hkey
  exact ⟨uid, i, index, heq,
    hof.imp (And.imp (hgrows.requested ·) (hgrows.sampled ·)) (hgrows.pads ·)⟩

/-- Taking over items of other keys leaves a key as it is. -/
theorem get?_add_of_not_mem {key : Key} (hnodup : (keys new).Nodup) (h : key ∉ keys new) :
    get? (items.add new) key = get? items key := by
  unfold QueuePartition.add
  rw [get?_absorb _ hnodup, get?_eq_none.mpr h]
  rfl

theorem prompt_not_mem_sessionItems {uid uid' : PyStr} {globalSteps session : Nat}
    {outputs : List (Nat × Nat)} :
    Key.prompt uid ∉ keys (sessionItems uid' globalSteps session outputs) := by
  rw [keys_sessionItems]
  simp

theorem prompt_not_mem_paddingItems {uid padUid : PyStr} {tags : Tags} {size : Nat} :
    Key.prompt uid ∉ keys (paddingItems padUid tags size) := by
  unfold keys paddingItems
  simp

theorem Held.prompt_not_mem {globalSteps : Nat} {batch : QueuePartition}
    (h : Held prompts w globalSteps batch) (uid : PyStr) : Key.prompt uid ∉ keys batch := by
  intro hmem
  obtain ⟨item, hitem, hkey⟩ := List.mem_map.mp hmem
  obtain ⟨-, -, _, _, _, htrajectory, -⟩ := h.item item hitem
  rw [hkey] at htrajectory
  cases htrajectory

/-! ### One step -/

theorem Inv.request (h : Inv prompts w) {globalSteps : Nat} {uids : List PyStr}
    (hnodup : uids.Nodup) (hfresh : ∀ uid ∈ uids, uid ∉ w.requested ∧ uid ∉ w.pads)
    (hsteps : ∀ uid ∈ uids, (prompts uid).globalSteps = globalSteps) :
    Inv prompts { w with
      buffer := w.buffer.add (runningItems globalSteps uids)
      requested := uids ++ w.requested
      driver := .waiting globalSteps } := by
  set w' : RolloutWorld := { w with
    buffer := w.buffer.add (runningItems globalSteps uids)
    requested := uids ++ w.requested
    driver := .waiting globalSteps } with hw'
  have hgrows : Grows w w' := ⟨List.subset_append_right _ _, fun _ h => h, fun _ h => h,
    fun _ h => h, fun _ h => h, fun _ h => h⟩
  have hdisjoint : ∀ uid ∈ w'.pads, uid ∉ w'.requested := by
    intro uid hpad hmem
    rcases List.mem_append.mp hmem with hnew | hold
    · exact (hfresh uid hnew).2 hpad
    · exact h.disjoint uid hpad hold
  have hkeys := keys_runningItems_nodup globalSteps hnodup
  refine { h with
    nodup := List.nodup_append.mpr ⟨hnodup, h.nodup, fun uid hnew old hold heq =>
      (hfresh uid hnew).1 (heq ▸ hold)⟩
    disjoint := hdisjoint
    ended := fun uid hended => (h.ended uid hended).imp_left (hgrows.requested ·)
    queue := h.queue.mono hgrows
    listing := fun items hitems => (h.listing items hitems).mono hgrows
    buffer := (h.buffer.mono hgrows).add_simple hdisjoint hkeys ?_ ?_
    marked := ?_
    cleared := h.cleared_mono hgrows
    driver := trivial }
  · intro key tags hget
    obtain ⟨uid, huid, hitem⟩ := List.mem_map.mp (mem_of_get? hget)
    obtain ⟨rfl, rfl⟩ := Prod.mk.inj hitem
    exact ⟨List.mem_append_left _ huid, .inr (congrArg some (hsteps uid huid).symm), .inl rfl⟩
  · intro item hitem
    obtain ⟨uid, -, rfl⟩ := List.mem_map.mp hitem
    simp
  · intro uid hmem
    change ∃ tags, get? (w.buffer.add (runningItems globalSteps uids)) (.prompt uid) = some tags ∧ _
    rcases List.mem_append.mp hmem with hnew | hold
    · have hget : get? (runningItems globalSteps uids) (.prompt uid) =
          some { globalSteps := some globalSteps, status := some .running } :=
        get?_of_mem hkeys (List.mem_map_of_mem hnew)
      unfold QueuePartition.add
      rw [get?_absorb _ hkeys, hget, hsteps uid hnew]
      exact ⟨_, rfl, rfl⟩
    · rw [get?_add_of_not_mem hkeys]
      · exact h.marked uid hold
      · rw [keys_runningItems]
        intro hmem
        obtain ⟨uid', huid', heq⟩ := List.mem_map.mp hmem
        injection heq with heq
        exact (hfresh uid' huid').1 (heq ▸ hold)

theorem Inv.publish (h : Inv prompts w) {uid : PyStr} {i : Nat} {session : AgentSession}
    (hrequested : uid ∈ w.requested) (hsession : (prompts uid).sessions[i]? = some session) :
    Inv prompts { w with
      queue := w.queue.add (sessionItems uid (prompts uid).globalSteps i session.outputs)
      published := (uid, i) :: w.published } := by
  set w' : RolloutWorld := { w with
    queue := w.queue.add (sessionItems uid (prompts uid).globalSteps i session.outputs)
    published := (uid, i) :: w.published } with hw'
  have hgrows : Grows w w' := ⟨fun _ h => h, List.subset_cons_self _ _, fun _ h => h,
    fun _ h => h, fun _ h => h, fun _ h => h⟩
  have hkeys := keys_sessionItems_nodup uid (prompts uid).globalSteps i session.outputs
  refine { h with
    ended := fun uid hended =>
      (h.ended uid hended).imp_right fun hall i hi => hgrows.published (hall i hi)
    queue := (h.queue.mono hgrows).add_simple h.disjoint hkeys ?_ ?_
    listing := fun items hitems => (h.listing items hitems).mono hgrows
    buffer := h.buffer.mono hgrows
    kept := ?_
    settled := ?_
    driver := DriverHolds.mono h.driver hgrows }
  · intro key tags hget
    have hitem := mem_of_get? hget
    obtain ⟨index, output, heq⟩ := mem_sessionItems hitem
    obtain ⟨rfl, rfl⟩ := Prod.mk.inj heq
    exact .inl ⟨hrequested, List.mem_cons_self, session, hsession, hitem⟩
  · intro item hitem
    obtain ⟨index, output, rfl⟩ := mem_sessionItems hitem
    simp [outputTags]
  · intro uid' i' session' hpublished hsession' key hkey
    change key ∈ keys (w.queue.add _) ∨ _
    unfold QueuePartition.add
    rw [mem_keys_absorb _ hkeys]
    rcases List.mem_cons.mp hpublished with heq | hold
    · obtain ⟨rfl, rfl⟩ := Prod.mk.inj heq
      obtain rfl := Option.some.inj (hsession.symm.trans hsession')
      exact .inl (.inr hkey)
    · exact (h.kept uid' i' session' hold hsession' key hkey).imp_left .inl
  · intro uid' hended
    change ∃ tags, get? (w.queue.add _) _ = some tags ∧ _
    rw [get?_add_of_not_mem hkeys prompt_not_mem_sessionItems]
    exact h.settled uid' hended

theorem endTags_status (prompt : Prompt) : prompt.endTags.status =
    some (if prompt.error? = none then .finished else .failure) := by
  unfold Prompt.endTags
  cases prompt.error? with
  | none => rfl
  | some error => rfl

theorem endTags_globalSteps (prompt : Prompt) : prompt.endTags.globalSteps = none := by
  unfold Prompt.endTags
  split <;> rfl

theorem Inv.finish (h : Inv prompts w) {uid : PyStr} (hrequested : uid ∈ w.requested)
    (hall : ∀ i < (prompts uid).sessions.length, (uid, i) ∈ w.published) :
    Inv prompts { w with
      queue := w.queue.add [(.prompt uid, (prompts uid).endTags)]
      ended := uid :: w.ended } := by
  set w' : RolloutWorld := { w with
    queue := w.queue.add [(.prompt uid, (prompts uid).endTags)]
    ended := uid :: w.ended } with hw'
  have hgrows : Grows w w' := ⟨fun _ h => h, fun _ h => h, List.subset_cons_self _ _,
    fun _ h => h, fun _ h => h, fun _ h => h⟩
  have hkeys : (keys [(Key.prompt uid, (prompts uid).endTags)]).Nodup := List.nodup_singleton _
  refine { h with
    ended := ?_
    queue := (h.queue.mono hgrows).add h.disjoint hkeys ?_ ?_
    listing := fun items hitems => (h.listing items hitems).mono hgrows
    buffer := h.buffer.mono hgrows
    kept := ?_
    settled := ?_
    driver := DriverHolds.mono h.driver hgrows }
  · intro uid' hended
    rcases List.mem_cons.mp hended with rfl | hold
    · exact ⟨hrequested, hall⟩
    · exact h.ended uid' hold
  · intro key tags hget
    obtain ⟨rfl, rfl⟩ := Prod.mk.inj (List.mem_singleton.mp (mem_of_get? hget))
    exact ⟨hrequested, .inl (endTags_globalSteps _), .inr ⟨List.mem_cons_self, rfl⟩⟩
  · -- everything that the prompt has written is in the queue, or was cleared
    rintro key tags hget other ⟨uid', rfl, -, hother⟩
    obtain ⟨heq, -⟩ := Prod.mk.inj (List.mem_singleton.mp (mem_of_get? hget))
    injection heq with heq
    subst heq
    obtain ⟨item, hitem, rfl⟩ := List.mem_map.mp hother
    obtain ⟨i, session, hsession, hmem⟩ := mem_trajectories.mp hitem
    have hlt := (List.getElem?_eq_some_iff.mp hsession).1
    rcases h.kept uid' i session (hall i hlt) hsession item.1 (List.mem_map_of_mem hmem) with
      hkept | hcleared
    · exact .inl hkept
    · exact .inr (.inr hcleared)
  · intro uid' i session hpublished hsession key hkey
    change key ∈ keys (w.queue.add _) ∨ _
    unfold QueuePartition.add
    rw [mem_keys_absorb _ hkeys]
    exact (h.kept uid' i session hpublished hsession key hkey).imp_left .inl
  · intro uid' hended
    change ∃ tags, get? (w.queue.add _) _ = some tags ∧ _
    by_cases heq : uid = uid'
    · subst heq
      unfold QueuePartition.add
      rw [get?_absorb _ hkeys, get?_cons, if_pos rfl]
      refine ⟨_, rfl, ?_⟩
      unfold updateTags
      rw [Tags.update_status, endTags_status, Option.some_or]
    · rw [get?_add_of_not_mem hkeys (by simpa [keys] using Ne.symm heq)]
      exact h.settled uid' ((List.mem_cons.mp hended).resolve_left (Ne.symm heq))

/-- The queue and the buffer stay as they are. -/
theorem Inv.others (h : Inv prompts w) {listing : Option QueuePartition} {pollFailed : Bool}
    {driver : Driver} (hlisting : ∀ items ∈ listing, Faithful prompts w items)
    (hdriver : DriverHolds prompts w driver) :
    Inv prompts { w with listing, pollFailed, driver } := by
  have hgrows := Grows.same w w.queue listing pollFailed w.buffer driver
  exact { h with
    queue := h.queue.mono hgrows
    listing := fun items hitems => (hlisting items hitems).mono hgrows
    buffer := h.buffer.mono hgrows
    driver := hdriver.mono hgrows }

/-- What a listing says of a prompt goes over what the buffer had. -/
theorem Inv.add (h : Inv prompts w) {items : QueuePartition} (hlisting : w.listing = some items) :
    Inv prompts { w with buffer := w.buffer.add items, listing := none } := by
  have hgrows := Grows.same w w.queue none w.pollFailed (w.buffer.add items) w.driver
  have hitems := h.listing items hlisting
  have hadded := h.buffer.add h.disjoint hitems.nodup hitems.genuine
    fun key tags hget other hneeds => .inr (hitems.causal key tags hget other hneeds)
  refine { h with
    queue := h.queue.mono hgrows
    listing := fun _ h => by cases h
    buffer := hadded.mono hgrows
    marked := ?_
    driver := DriverHolds.mono h.driver hgrows }
  intro uid hrequested
  obtain ⟨tags, htags, hsteps⟩ := h.marked uid hrequested
  change ∃ tags, get? (w.buffer.add items) _ = some tags ∧ _
  unfold QueuePartition.add
  rw [get?_absorb _ hitems.nodup, htags]
  cases hget : get? items (.prompt uid) with
  | none => exact ⟨tags, rfl, hsteps⟩
  | some listed =>
    refine ⟨_, rfl, ?_⟩
    unfold updateTags
    rw [Option.getD_some, Tags.update_globalSteps, hsteps]
    rcases (hitems.genuine _ _ hget).2.1 with hnone | hsome
    · rw [hnone, Option.none_or]
    · rw [hsome, Option.some_or]

/-- The batch that a look returns. -/
theorem Inv.held (h : Inv prompts w) {globalSteps : Nat} {batch : QueuePartition}
    (hscan : scan partitionId (some globalSteps) w.buffer = .ok (some batch)) :
    Held prompts { w with sampled := globalSteps :: w.sampled } globalSteps batch := by
  obtain ⟨-, rfl, -⟩ := scan_eq_some.mp hscan
  refine ⟨List.mem_cons_self, fun item hitem => ?_⟩
  obtain ⟨hmem, hmarked⟩ := List.mem_filter.mp hitem
  obtain ⟨hsteps, hstatus⟩ := of_decide_eq_true hmarked
  refine ⟨hsteps, hstatus, ?_⟩
  have hgenuine := h.buffer.genuine item.1 item.2 (get?_of_mem h.buffer.nodup hmem)
  cases hkey : item.1 with
  | prompt uid =>
    -- a prompt never succeeds
    rw [hkey] at hgenuine
    obtain ⟨-, -, hof⟩ := hgenuine
    rw [hstatus, endTags_status] at hof
    rcases hof with hof | ⟨-, hof⟩
    · cases hof
    · split at hof <;> cases hof
  | trajectory uid i index =>
    rw [hkey] at hgenuine
    refine ⟨uid, i, index, rfl, ?_⟩
    rcases hgenuine with ⟨hrequested, -, session, -, hmem⟩ | ⟨hpad, -⟩
    · obtain ⟨_, output, heq⟩ := mem_sessionItems hmem
      have htags := (Prod.mk.inj heq).2
      rw [htags] at hsteps
      exact .inl ⟨hrequested, Option.some.inj hsteps⟩
    · exact .inr hpad

theorem Inv.sample (h : Inv prompts w) {globalSteps : Nat} {batch : QueuePartition}
    (hscan : scan partitionId (some globalSteps) w.buffer = .ok (some batch)) :
    Inv prompts { w with
      driver := .holding globalSteps batch
      sampled := globalSteps :: w.sampled } := by
  have hgrows : Grows w { w with
      driver := .holding globalSteps batch
      sampled := globalSteps :: w.sampled } := ⟨fun _ h => h, fun _ h => h, fun _ h => h,
    fun _ h => h, fun _ h => h, List.subset_cons_self _ _⟩
  exact { h with
    queue := h.queue.mono hgrows
    listing := fun items hitems => (h.listing items hitems).mono hgrows
    buffer := h.buffer.mono hgrows
    cleared := h.cleared_mono hgrows
    driver := (h.held hscan).mono (Grows.same _ _ _ _ _ _) }

theorem Inv.pad (h : Inv prompts w) {globalSteps : Nat} {batch : QueuePartition}
    {source : Key × Tags} {padUid : PyStr} {size : Nat}
    (hholding : w.driver = .holding globalSteps batch) (hsource : source ∈ batch)
    (hfresh : padUid ∉ w.requested ∧ padUid ∉ w.pads) :
    Inv prompts { w with
      queue := w.queue.add (paddingItems padUid source.2 size)
      pads := padUid :: w.pads
      driver := .holding globalSteps (batch ++ paddingItems padUid source.2 size) } := by
  set w' : RolloutWorld := { w with
    queue := w.queue.add (paddingItems padUid source.2 size)
    pads := padUid :: w.pads
    driver := .holding globalSteps (batch ++ paddingItems padUid source.2 size) } with hw'
  have hgrows : Grows w w' := ⟨fun _ h => h, fun _ h => h, fun _ h => h,
    List.subset_cons_self _ _, fun _ h => h, fun _ h => h⟩
  have hheld : Held prompts w globalSteps batch := by
    have hdriver := h.driver
    rwa [hholding] at hdriver
  have hkeys := keys_paddingItems_nodup padUid source.2 size
  have hdisjoint : ∀ uid ∈ w'.pads, uid ∉ w'.requested := by
    intro uid hpad
    rcases List.mem_cons.mp hpad with rfl | hold
    · exact hfresh.1
    · exact h.disjoint uid hold
  obtain ⟨hsteps, hstatus, -⟩ := hheld.item source hsource
  have hpadding : ∀ item ∈ paddingItems padUid source.2 size, ∃ index,
      item = (.trajectory padUid index 0, source.2.padding) := by
    intro item hitem
    obtain ⟨index, -, rfl⟩ := List.mem_map.mp hitem
    exact ⟨index, rfl⟩
  refine { h with
    disjoint := hdisjoint
    queue := (h.queue.mono hgrows).add_simple hdisjoint hkeys ?_ ?_
    listing := fun items hitems => (h.listing items hitems).mono hgrows
    buffer := h.buffer.mono hgrows
    kept := ?_
    settled := ?_
    cleared := h.cleared_mono hgrows
    driver := ⟨hheld.sampled, ?_⟩ }
  · intro key tags hget
    obtain ⟨index, heq⟩ := hpadding (key, tags) (mem_of_get? hget)
    obtain ⟨rfl, rfl⟩ := Prod.mk.inj heq
    exact .inr ⟨List.mem_cons_self, hstatus, globalSteps, hheld.sampled, hsteps⟩
  · intro item hitem
    obtain ⟨index, rfl⟩ := hpadding item hitem
    change source.2.status ≠ _
    rw [hstatus]
    decide
  · intro uid i session hpublished hsession key hkey
    change key ∈ keys (w.queue.add _) ∨ _
    unfold QueuePartition.add
    rw [mem_keys_absorb _ hkeys]
    exact (h.kept uid i session hpublished hsession key hkey).imp_left .inl
  · intro uid hended
    change ∃ tags, get? (w.queue.add _) _ = some tags ∧ _
    rw [get?_add_of_not_mem hkeys prompt_not_mem_paddingItems]
    exact h.settled uid hended
  · intro item hitem
    rcases List.mem_append.mp hitem with hold | hnew
    · exact (hheld.mono hgrows).item item hold
    · obtain ⟨index, rfl⟩ := hpadding item hnew
      exact ⟨hsteps, hstatus, padUid, index, 0, rfl, .inr List.mem_cons_self⟩

theorem Inv.clear (h : Inv prompts w) {globalSteps : Nat} {batch cleared kept : QueuePartition}
    (hholding : w.driver = .holding globalSteps batch) (hparts : batch.Perm (cleared ++ kept)) :
    Inv prompts { w with
      queue := w.queue.remove (keys cleared)
      cleared := keys cleared ++ w.cleared
      driver := .removing globalSteps cleared kept } := by
  set w' : RolloutWorld := { w with
    queue := w.queue.remove (keys cleared)
    cleared := keys cleared ++ w.cleared
    driver := .removing globalSteps cleared kept } with hw'
  have hgrows : Grows w w' := ⟨fun _ h => h, fun _ h => h, fun _ h => h, fun _ h => h,
    List.subset_append_right _ _, fun _ h => h⟩
  have hheld : Held prompts w globalSteps batch := by
    have hdriver := h.driver
    rwa [hholding] at hdriver
  have hcleared : Held prompts w globalSteps cleared := hheld.sublist fun item hitem =>
    hparts.mem_iff.mpr (List.mem_append_left _ hitem)
  have hkept : Held prompts w globalSteps kept := hheld.sublist fun item hitem =>
    hparts.mem_iff.mpr (List.mem_append_right _ hitem)
  refine { h with
    queue := ?_
    listing := fun items hitems => (h.listing items hitems).mono hgrows
    buffer := h.buffer.mono hgrows
    kept := ?_
    settled := ?_
    cleared := ?_
    driver := ⟨hcleared.mono hgrows, hkept.mono hgrows, List.subset_append_left _ _⟩ }
  · exact {
      nodup := keys_forget_nodup _ h.queue.nodup
      genuine := (h.queue.mono hgrows).genuine.forget _
      causal := h.queue.causal.forget (List.subset_append_right _ _)
        (List.subset_append_left _ _) }
  · intro uid i session hpublished hsession key hkey
    change key ∈ keys (w.queue.remove _) ∨ key ∈ keys cleared ++ w.cleared
    unfold QueuePartition.remove
    rw [mem_keys_forget, List.mem_append]
    by_cases hgone : key ∈ keys cleared
    · exact .inr (.inl hgone)
    · exact (h.kept uid i session hpublished hsession key hkey).imp (⟨·, hgone⟩) .inr
  · intro uid hended
    change ∃ tags, get? (w.queue.remove _) _ = some tags ∧ _
    unfold QueuePartition.remove
    rw [get?_forget, if_neg (hcleared.prompt_not_mem uid)]
    exact h.settled uid hended
  · intro key hkey
    rcases List.mem_append.mp hkey with hnew | hold
    · obtain ⟨item, hitem, rfl⟩ := List.mem_map.mp hnew
      obtain ⟨-, -, uid, i, index, hkey, hof⟩ := hcleared.item item hitem
      refine ⟨uid, i, index, hkey, hof.imp_left ?_⟩
      rintro ⟨hrequested, hsteps⟩
      exact ⟨hrequested, hsteps ▸ hcleared.sampled⟩
    · exact h.cleared_mono hgrows key hold

theorem Inv.remove (h : Inv prompts w) {globalSteps : Nat} {cleared kept : QueuePartition}
    (hremoving : w.driver = .removing globalSteps cleared kept) :
    Inv prompts { w with
      buffer := w.buffer.remove (keys cleared)
      driver := if kept = [] then .idle else .holding globalSteps kept } := by
  have hgrows := Grows.same w w.queue w.listing w.pollFailed (w.buffer.remove (keys cleared))
    (if kept = [] then .idle else .holding globalSteps kept)
  have hdriver := h.driver
  rw [hremoving] at hdriver
  obtain ⟨hcleared, hkept, hgone⟩ := hdriver
  refine { h with
    queue := h.queue.mono hgrows
    listing := fun items hitems => (h.listing items hitems).mono hgrows
    buffer := ?_
    marked := ?_
    driver := ?_ }
  · exact {
      nodup := keys_forget_nodup _ h.buffer.nodup
      genuine := (h.buffer.mono hgrows).genuine.forget _
      causal := h.buffer.causal.forget (fun _ h => h) hgone }
  · intro uid hrequested
    change ∃ tags, get? (w.buffer.remove _) _ = some tags ∧ _
    unfold QueuePartition.remove
    rw [get?_forget, if_neg (hcleared.prompt_not_mem uid)]
    exact h.marked uid hrequested
  · dsimp only
    split
    · trivial
    · exact hkept.mono (Grows.same w _ _ _ _ _)

theorem Inv.step (h : Inv prompts w) (hstep : RolloutStep partitionId prompts w w') :
    Inv prompts w' := by
  cases hstep with
  | request globalSteps uids _ hnodup hfresh hsteps => exact h.request hnodup hfresh hsteps
  | publish uid i session hrequested hsession _ => exact h.publish hrequested hsession
  | finish uid hrequested _ hall => exact h.finish hrequested hall
  | list =>
    exact h.others (fun items hitems => Option.some.inj hitems ▸ h.queue) h.driver
  | add items hlisting => exact h.add hlisting
  | pollFails => exact h.others h.listing h.driver
  | sample globalSteps batch _ hscan => exact h.sample hscan
  | raise => exact h.others h.listing trivial
  | raisePoll => exact h.others h.listing trivial
  | pad globalSteps batch source padUid size hholding hsource hfresh =>
    exact h.pad hholding hsource hfresh
  | clear globalSteps batch cleared kept hholding hparts => exact h.clear hholding hparts
  | remove globalSteps cleared kept hremoving => exact h.remove hremoving

theorem RolloutReachable.inv (h : RolloutReachable partitionId prompts w) : Inv prompts w := by
  induction h with
  | refl => exact .initial
  | tail _ hstep ih => exact ih.step hstep

/-! ### The batch of a step -/

theorem trajectories_nodup (uid : PyStr) (prompt : Prompt) : (trajectories uid prompt).Nodup := by
  unfold trajectories
  rw [List.nodup_flatMap]
  constructor
  · rintro ⟨session, i⟩ -
    exact (keys_sessionItems_nodup uid prompt.globalSteps i session.outputs).of_map _
  · rw [List.pairwise_iff_getElem]
    intro i j hi hj hlt item hitem hitem'
    obtain ⟨_, _, rfl⟩ := mem_sessionItems hitem
    obtain ⟨_, _, heq⟩ := mem_sessionItems hitem'
    simp only [List.get_eq_getElem, List.getElem_zipIdx, Prod.mk.injEq, Key.trajectory.injEq] at heq
    omega

/-- All that the prompts of a step have generated. -/
def stepTrajectories (prompts : PyStr → Prompt) (requested : List PyStr) (globalSteps : Nat) :
    QueuePartition :=
  (requested.filter fun uid => (prompts uid).globalSteps = globalSteps).flatMap fun uid =>
    trajectories uid (prompts uid)

theorem mem_stepTrajectories {requested : List PyStr} {globalSteps : Nat} {item : Key × Tags} :
    item ∈ stepTrajectories prompts requested globalSteps ↔ ∃ uid ∈ requested,
      (prompts uid).globalSteps = globalSteps ∧ item ∈ trajectories uid (prompts uid) := by
  simp [stepTrajectories, List.mem_flatMap, and_assoc]

theorem mem_trajectories_key {uid : PyStr} {prompt : Prompt} {item : Key × Tags}
    (h : item ∈ trajectories uid prompt) :
    ∃ i index, item.1 = .trajectory uid i index ∧ item.2.globalSteps = some prompt.globalSteps ∧
      item.2.status = some .success := by
  obtain ⟨i, session, -, hitem⟩ := mem_trajectories.mp h
  obtain ⟨index, output, rfl⟩ := mem_sessionItems hitem
  exact ⟨i, index, rfl, rfl, rfl⟩

theorem stepTrajectories_nodup {requested : List PyStr} (h : requested.Nodup)
    (globalSteps : Nat) : (stepTrajectories prompts requested globalSteps).Nodup := by
  unfold stepTrajectories
  rw [List.nodup_flatMap]
  refine ⟨fun uid _ => trajectories_nodup uid _, ?_⟩
  refine (h.filter _).imp fun {uid uid'} hne item hitem hitem' => hne ?_
  obtain ⟨_, _, hkey, -⟩ := mem_trajectories_key hitem
  obtain ⟨_, _, hkey', -⟩ := mem_trajectories_key hitem'
  rw [hkey] at hkey'
  injection hkey'

section Look

variable {globalSteps : Nat} {batch : QueuePartition}

/-- What the buffer says of a prompt of the step. -/
theorem Inv.look (h : Inv prompts w) {uid : PyStr} (hrequested : uid ∈ w.requested)
    (hsteps : (prompts uid).globalSteps = globalSteps) : ∃ item ∈ w.buffer, item.1 = .prompt uid ∧
      (Marked (some globalSteps) (some .running) item ∨
        uid ∈ w.ended ∧ Marked (some globalSteps) (prompts uid).endTags.status item) := by
  obtain ⟨tags, htags, hmarked⟩ := h.marked uid hrequested
  obtain ⟨-, -, hstatus⟩ := h.buffer.genuine _ _ htags
  rw [hsteps] at hmarked
  exact ⟨(.prompt uid, tags), mem_of_get? htags, rfl,
    hstatus.imp (⟨hmarked, ·⟩) (And.imp_right (⟨hmarked, ·⟩))⟩

/-- A batch comes after the end of every prompt of the step, and none of them failed. -/
theorem Inv.look_ended (h : Inv prompts w)
    (hscan : scan partitionId (some globalSteps) w.buffer = .ok (some batch)) {uid : PyStr}
    (hrequested : uid ∈ w.requested) (hsteps : (prompts uid).globalSteps = globalSteps) :
    uid ∈ w.ended ∧ (prompts uid).error? = none := by
  obtain ⟨hall, -, -⟩ := scan_eq_some.mp hscan
  obtain ⟨item, hitem, -, hmarked⟩ := h.look hrequested hsteps
  obtain ⟨hstops, hrunning⟩ := hall item hitem
  obtain ⟨hended, hmarked⟩ := hmarked.resolve_left hrunning
  refine ⟨hended, ?_⟩
  by_contra herror
  rw [endTags_status, if_neg herror] at hmarked
  exact hstops (.inr hmarked)

/-- The tags of a trajectory are those that were written with it. -/
theorem Faithful.trajectory (h : Faithful prompts w items)
    (hdisjoint : ∀ uid ∈ w.pads, uid ∉ w.requested) {uid : PyStr} (hrequested : uid ∈ w.requested)
    {item : Key × Tags} (hmem : item ∈ trajectories uid (prompts uid))
    (hthere : item.1 ∈ keys items) : get? items item.1 = some item.2 := by
  obtain ⟨found, hfound⟩ := exists_get? hthere
  obtain ⟨i, session, hsession, hwritten⟩ := mem_trajectories.mp hmem
  obtain ⟨index, output, rfl⟩ := mem_sessionItems hwritten
  rcases h.genuine _ _ hfound with ⟨-, -, session', hsession', hmem'⟩ | ⟨hpad, -⟩
  · obtain rfl := Option.some.inj (hsession.symm.trans hsession')
    have hsame := List.inj_on_of_nodup_map (keys_sessionItems_nodup uid _ i _) hwritten hmem' rfl
    rwa [← (Prod.mk.inj hsame).2] at hfound
  · exact absurd hrequested (hdisjoint uid hpad)

/-- Where the buffer has the end of a prompt it has what the prompt wrote, as far as that was not
    cleared. -/
theorem Inv.mirrored (h : Inv prompts w) {uid : PyStr} (hrequested : uid ∈ w.requested)
    {tags : Tags} (hget : get? w.buffer (.prompt uid) = some tags)
    (hstatus : tags.status = some .finished) {item : Key × Tags}
    (hmem : item ∈ trajectories uid (prompts uid)) : item ∈ w.buffer ∨ item.1 ∈ w.cleared := by
  have hneeds : Needs prompts (.prompt uid) tags item.1 :=
    ⟨uid, rfl, hstatus, List.mem_map_of_mem hmem⟩
  refine (h.buffer.causal _ _ hget _ hneeds).imp_left fun hthere => ?_
  exact mem_of_get? (h.buffer.trajectory h.disjoint hrequested hmem hthere)

/-- What a prompt of the step wrote is in the batch, as far as it was not cleared before. -/
theorem Inv.look_complete (h : Inv prompts w)
    (hscan : scan partitionId (some globalSteps) w.buffer = .ok (some batch)) {item : Key × Tags}
    (hitem : item ∈ stepTrajectories prompts w.requested globalSteps) :
    item ∈ batch ∨ item.1 ∈ w.cleared := by
  obtain ⟨uid, hrequested, hsteps, hmem⟩ := mem_stepTrajectories.mp hitem
  obtain ⟨hended, herror⟩ := h.look_ended hscan hrequested hsteps
  obtain ⟨found, hfound, hkey, hmarked⟩ := h.look hrequested hsteps
  obtain ⟨hall, rfl, -⟩ := scan_eq_some.mp hscan
  obtain ⟨-, hmarked⟩ := hmarked.resolve_left (hall found hfound).2
  rw [endTags_status, if_pos herror] at hmarked
  have hget : get? w.buffer (.prompt uid) = some found.2 :=
    get?_of_mem h.buffer.nodup (hkey ▸ hfound)
  refine (h.mirrored hrequested hget hmarked.2 hmem).imp_left fun hthere => ?_
  obtain ⟨_, _, -, hof, hstatus⟩ := mem_trajectories_key hmem
  rw [hsteps] at hof
  exact List.mem_filter.mpr ⟨hthere, decide_eq_true ⟨hof, hstatus⟩⟩

/-- The batch holds nothing else, unless there was a batch of the step before. -/
theorem Inv.look_sound (h : Inv prompts w)
    (hscan : scan partitionId (some globalSteps) w.buffer = .ok (some batch)) {item : Key × Tags}
    (hitem : item ∈ batch) :
    item ∈ stepTrajectories prompts w.requested globalSteps ∨ globalSteps ∈ w.sampled := by
  obtain ⟨-, rfl, -⟩ := scan_eq_some.mp hscan
  obtain ⟨hmem, hmarked⟩ := List.mem_filter.mp hitem
  obtain ⟨hsteps, -⟩ := of_decide_eq_true hmarked
  obtain ⟨-, -, uid, i, index, hkey, -⟩ := (h.held hscan).item item hitem
  have hgenuine := h.buffer.genuine item.1 item.2 (get?_of_mem h.buffer.nodup hmem)
  rw [hkey] at hgenuine
  rcases hgenuine with ⟨hrequested, -, session, hsession, hwritten⟩ | ⟨-, -, old, hold, hof⟩
  · left
    rw [← hkey] at hwritten
    have htrajectory := mem_trajectories.mpr ⟨i, session, hsession, hwritten⟩
    obtain ⟨_, _, -, hof, -⟩ := mem_trajectories_key htrajectory
    rw [hsteps] at hof
    exact mem_stepTrajectories.mpr ⟨uid, hrequested, (Option.some.inj hof).symm, htrajectory⟩
  · right
    rw [hsteps] at hof
    rwa [Option.some.inj hof]

theorem Inv.look_keys_nodup (h : Inv prompts w)
    (hscan : scan partitionId (some globalSteps) w.buffer = .ok (some batch)) :
    (keys batch).Nodup := by
  obtain ⟨-, rfl, -⟩ := scan_eq_some.mp hscan
  exact h.buffer.nodup.sublist (List.filter_sublist.map _)

/-- Nothing of a step is cleared before its first batch. -/
theorem Inv.not_cleared (h : Inv prompts w) (hfirst : globalSteps ∉ w.sampled) {item : Key × Tags}
    (hitem : item ∈ stepTrajectories prompts w.requested globalSteps) : item.1 ∉ w.cleared := by
  intro hcleared
  obtain ⟨uid, hrequested, hsteps, hmem⟩ := mem_stepTrajectories.mp hitem
  obtain ⟨i, index, hkey, -⟩ := mem_trajectories_key hmem
  obtain ⟨uid', i', index', hkey', hof⟩ := h.cleared _ hcleared
  rw [hkey] at hkey'
  injection hkey' with huid
  subst huid
  rcases hof with ⟨-, hsampled⟩ | hpad
  · exact hfirst (hsteps ▸ hsampled)
  · exact h.disjoint uid hpad hrequested

theorem Inv.look_perm (h : Inv prompts w)
    (hscan : scan partitionId (some globalSteps) w.buffer = .ok (some batch))
    (hfirst : globalSteps ∉ w.sampled) :
    batch.Perm (stepTrajectories prompts w.requested globalSteps) := by
  rw [List.perm_ext_iff_of_nodup ((h.look_keys_nodup hscan).of_map _)
    (stepTrajectories_nodup h.nodup _)]
  intro item
  constructor
  · exact fun hitem => (h.look_sound hscan hitem).resolve_right hfirst
  · exact fun hitem => (h.look_complete hscan hitem).resolve_right (h.not_cleared hfirst hitem)

end Look

/-- In every run, and however old the listings are that the buffer is made from: the first batch
    of a step comes after the end of all its prompts, and is what they have generated. -/
theorem sample_exact (partitionId : String) (prompts : PyStr → Prompt) (w : RolloutWorld)
    (globalSteps : Nat) (batch : QueuePartition)
    (hreachable : RolloutReachable partitionId prompts w)
    (hscan : scan partitionId (some globalSteps) w.buffer = .ok (some batch))
    (hfirst : globalSteps ∉ w.sampled) :
    (∀ uid ∈ w.requested, (prompts uid).globalSteps = globalSteps →
      uid ∈ w.ended ∧ (prompts uid).error? = none) ∧
      batch.Perm (stepTrajectories prompts w.requested globalSteps) := by
  have h := hreachable.inv
  exact ⟨fun uid => h.look_ended hscan, h.look_perm hscan hfirst⟩

/-- Two prompts of the third step: one with two agent loops, the other with a loop that has two
    outputs. -/
def twoPrompts (uid : PyStr) : Prompt where
  globalSteps := 3
  loops := .ok (if uid = ['p'] then [{ outputs := [(2, 5)] }, { outputs := [(2, 1)] }]
    else [{ outputs := [(4, 2), (4, 3)] }])

/-- What the two loops of the first prompt write. -/
def firstItems : QueuePartition := [(.trajectory ['p'] 0 0, outputTags 3 (2, 5))]

def secondItems : QueuePartition := [(.trajectory ['p'] 1 0, outputTags 3 (2, 1))]

/-- What the loop of the other prompt writes. -/
def otherItems : QueuePartition :=
  [(.trajectory ['q'] 0 0, outputTags 3 (4, 2)), (.trajectory ['q'] 0 1, outputTags 3 (4, 3))]

def finishedItem (uid : PyStr) : Key × Tags := (.prompt uid, { status := some .finished })

/-- What the buffer says of both prompts. -/
def promptItems (status : Status) : QueuePartition :=
  [(.prompt ['p'], { globalSteps := some 3, status := some status }),
    (.prompt ['q'], { globalSteps := some 3, status := some status })]

/-- The second loop of the first prompt is still running, and the other one has not ended. -/
def runningWorld : RolloutWorld where
  queue := firstItems ++ otherItems
  listing := none
  pollFailed := false
  buffer := promptItems .running ++ firstItems ++ otherItems
  driver := .waiting 3
  requested := [['p'], ['q']]
  published := [(['q'], 0), (['p'], 0)]
  ended := []
  pads := []
  cleared := []
  sampled := []

theorem runningWorld_reachable : RolloutReachable "train" twoPrompts runningWorld :=
  .head (.request 3 [['p'], ['q']] rfl (by decide) (by decide) (by decide))
    (.head (.publish ['p'] 0 { outputs := [(2, 5)] } (by decide) rfl (by decide))
      (.head (.publish ['q'] 0 { outputs := [(4, 2), (4, 3)] } (by decide) rfl (by decide))
        (.head (.list rfl rfl) (.single (.add runningWorld.queue rfl)))))

/-- Both prompts have ended, and were polled after a listing that was older. -/
def polledWorld : RolloutWorld :=
  { runningWorld with
    queue := firstItems ++ otherItems ++ secondItems ++ [finishedItem ['q'], finishedItem ['p']]
    buffer := promptItems .finished ++ firstItems ++ otherItems ++ secondItems
    published := [(['p'], 1), (['q'], 0), (['p'], 0)]
    ended := [['p'], ['q']] }

theorem polledWorld_reachable : RolloutReachable "train" twoPrompts polledWorld :=
  runningWorld_reachable.trans
    (.head (.list rfl rfl)
      (.head (.publish ['p'] 1 { outputs := [(2, 1)] } (by decide) rfl (by decide))
        (.head (.finish ['q'] (by decide) (by decide) (by decide))
          (.head (.finish ['p'] (by decide) (by decide) (by decide))
            (.head (.add runningWorld.queue rfl)
              (.head (.list rfl rfl) (.single (.add polledWorld.queue rfl))))))))

theorem polledWorld_scan : scan "train" (some 3) polledWorld.buffer =
    .ok (some (firstItems ++ otherItems ++ secondItems)) := rfl

theorem sample_exact_polled :
    (∀ uid ∈ polledWorld.requested, (twoPrompts uid).globalSteps = 3 →
      uid ∈ polledWorld.ended ∧ (twoPrompts uid).error? = none) ∧
      (firstItems ++ otherItems ++ secondItems).Perm
        (stepTrajectories twoPrompts polledWorld.requested 3) :=
  sample_exact "train" twoPrompts polledWorld 3 _ polledWorld_reachable polledWorld_scan
    (by decide)

/-- A later batch of the same step still has all that is new, and each key once. -/
theorem sample_again (partitionId : String) (prompts : PyStr → Prompt) (w : RolloutWorld)
    (globalSteps : Nat) (batch : QueuePartition)
    (hreachable : RolloutReachable partitionId prompts w)
    (hscan : scan partitionId (some globalSteps) w.buffer = .ok (some batch)) :
    (∀ uid ∈ w.requested, (prompts uid).globalSteps = globalSteps →
      uid ∈ w.ended ∧ (prompts uid).error? = none) ∧
      (keys batch).Nodup ∧
      ∀ item ∈ stepTrajectories prompts w.requested globalSteps,
        item ∈ batch ∨ item.1 ∈ w.cleared := by
  have h := hreachable.inv
  exact ⟨fun uid => h.look_ended hscan, h.look_keys_nodup hscan,
    fun item => h.look_complete hscan⟩

/-- A part of the first batch was cleared and removed. -/
def clearedWorld : RolloutWorld :=
  { polledWorld with
    queue := otherItems ++ secondItems ++ [finishedItem ['q'], finishedItem ['p']]
    buffer := promptItems .finished ++ otherItems ++ secondItems
    driver := .holding 3 (otherItems ++ secondItems)
    cleared := [.trajectory ['p'] 0 0]
    sampled := [3] }

theorem clearedWorld_reachable : RolloutReachable "train" twoPrompts clearedWorld :=
  polledWorld_reachable.trans
    (.head (.sample 3 _ rfl polledWorld_scan)
      (.head (.clear 3 _ firstItems (otherItems ++ secondItems) rfl (.refl _))
        (.single (.remove 3 firstItems (otherItems ++ secondItems) rfl))))

theorem sample_again_cleared :
    (∀ uid ∈ clearedWorld.requested, (twoPrompts uid).globalSteps = 3 →
      uid ∈ clearedWorld.ended ∧ (twoPrompts uid).error? = none) ∧
      (keys (otherItems ++ secondItems)).Nodup ∧
      ∀ item ∈ stepTrajectories twoPrompts clearedWorld.requested 3,
        item ∈ otherItems ++ secondItems ∨ item.1 ∈ clearedWorld.cleared :=
  sample_again "train" twoPrompts clearedWorld 3 _ clearedWorld_reachable rfl

end R2opl
