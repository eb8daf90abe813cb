import R2opl.Lib.Checked
import R2opl.Lib.Mirror
import R2opl.Python

/-!
# The replay buffer

`ReplayBuffer` of `verl/trainer/main_ppo_sync.py` holds the metadata of a partition of the transfer
queue.  Its `sample` waits until no prompt of a step is running any more, and returns what has come
of them.
-/

namespace R2opl

open Checked Dict Mirror

/-! ### Keys and tags -/

/-- A key of the transfer queue: the `uid` of a prompt, or one of the outputs of its agent loops. -/
inductive Key where
  | prompt (uid : PyStr)
  | trajectory (uid : PyStr) (session index : Nat)
deriving DecidableEq

/-- How the key is written: `uid` or `{uid}_{session_id}_{i}`. -/
def Key.text : Key → PyStr
  | .prompt uid => uid
  | .trajectory uid session index => uid ++ '_' :: natText session ++ '_' :: natText index

inductive Status where
  | running
  | finished
  | success
  | failure
deriving DecidableEq

/-- What is known of a key; a field that was never written is absent. -/
structure Tags where
  globalSteps : Option Nat := none
  status : Option Status := none
  promptLen : Option Nat := none
  responseLen : Option Nat := none
  seqLen : Option Nat := none
  isPadding : Option Bool := none
  error : Option PyStr := none
deriving DecidableEq

/-- `tags.update(new)` -/
def Tags.update (tags new : Tags) : Tags where
  globalSteps := new.globalSteps.or tags.globalSteps
  status := new.status.or tags.status
  promptLen := new.promptLen.or tags.promptLen
  responseLen := new.responseLen.or tags.responseLen
  seqLen := new.seqLen.or tags.seqLen
  isPadding := new.isPadding.or tags.isPadding
  error := new.error.or tags.error

@[simp] theorem Tags.update_globalSteps (tags new : Tags) :
    (tags.update new).globalSteps = new.globalSteps.or tags.globalSteps := rfl

@[simp] theorem Tags.update_status (tags new : Tags) :
    (tags.update new).status = new.status.or tags.status := rfl

@[simp] theorem Tags.update_self (tags : Tags) : tags.update tags = tags := by
  simp [Tags.update]

@[simp] theorem Tags.update_empty (tags : Tags) : Tags.update {} tags = tags := by
  simp [Tags.update]

/-- The tags of a key after new ones have come; a key that is not there begins with `{}`. -/
def updateTags (tags : Option Tags) (new : Tags) : Tags := (tags.getD {}).update new

/-- A partition of the buffer, or of the transfer queue. -/
abbrev QueuePartition := List (Key × Tags)

/-! ### Operations -/

/-- `ReplayBuffer.add`; the transfer queue takes its items in the same way. -/
def QueuePartition.add (partition items : QueuePartition) : QueuePartition :=
  absorb updateTags partition items

/-- `ReplayBuffer.remove` -/
def QueuePartition.remove (partition : QueuePartition) (keys : List Key) : QueuePartition :=
  forget partition keys

/-- The default of `tag.get("error", ...)`. -/
def missingError : PyStr := "see AgentLoopWorkerTQ logs for the original exception".toList

def stepText : Option Nat → String
  | none => "None"
  | some globalSteps => s!"{globalSteps}"

/-- One item of the loop in `sample`: whether to wait, and what was collected. -/
def scanItem (partitionId : String) (globalSteps : Option Nat) (found : Bool × QueuePartition)
    (item : Key × Tags) : Except PyError (Bool × QueuePartition) :=
  if item.2.globalSteps ≠ globalSteps then .ok found
  else match item.2.status with
    | none => .error ⟨.keyError, "'status'"⟩
    | some .running => .ok (true, found.2)
    | some .failure => .error (runtimeError
        (s!"Rollout failed for {partitionId} prompt {String.ofList item.1.text} at step " ++
          s!"{stepText globalSteps}: {String.ofList (item.2.error.getD missingError)}"))
    | some .success => .ok (found.1, found.2 ++ [item])
    | some .finished => .ok found

/-- One look of `sample` at the partition, under the lock: nothing while it has to wait. -/
def scan (partitionId : String) (globalSteps : Option Nat) (partition : QueuePartition) :
    Except PyError (Option QueuePartition) := do
  let (shouldWait, batch) ← partition.foldlM (scanItem partitionId globalSteps) (false, [])
  if shouldWait then return none
  raiseIf (batch = []) (runtimeError
    (s!"No successful rollouts for {partitionId} at step {stepText globalSteps}; " ++
      "refusing to pass an empty batch to data-parallel workers"))
  return some batch

/-! ### What a look finds -/

section Scan

variable {partitionId : String} {globalSteps : Option Nat} {partition batch : QueuePartition}

/-- The item belongs to the step and has this status. -/
def Marked (globalSteps : Option Nat) (status : Option Status) (item : Key × Tags) : Prop :=
  item.2.globalSteps = globalSteps ∧ item.2.status = status

instance (globalSteps : Option Nat) (status : Option Status) (item : Key × Tags) :
    Decidable (Marked globalSteps status item) :=
  inferInstanceAs (Decidable (_ ∧ _))

/-- The item stops the loop. -/
def Stops (globalSteps : Option Nat) (item : Key × Tags) : Prop :=
  Marked globalSteps none item ∨ Marked globalSteps (some .failure) item

theorem scanItem_eq_ok {found result : Bool × QueuePartition} {item : Key × Tags} :
    scanItem partitionId globalSteps found item = .ok result ↔
      ¬ Stops globalSteps item ∧
      result = (found.1 || decide (Marked globalSteps (some .running) item),
        found.2 ++ if Marked globalSteps (some .success) item then [item] else []) := by
  unfold scanItem Stops
  by_cases hstep : item.2.globalSteps = globalSteps
  · have hmarked (status : Option Status) :
        Marked globalSteps status item ↔ item.2.status = status := and_iff_right hstep
    rw [if_neg (not_not.mpr hstep)]
    simp only [hmarked]
    cases hstatus : item.2.status with
    | none => simp
    | some status =>
      cases status with
      | finished =>
        simp
        exact eq_comm
      | _ => simp [eq_comm]
  · have hmarked (status : Option Status) : ¬ Marked globalSteps status item := fun h => hstep h.1
    simp [hstep, hmarked]
    exact eq_comm

theorem scanItems_eq_ok {found result : Bool × QueuePartition} :
    partition.foldlM (scanItem partitionId globalSteps) found = .ok result ↔
      (∀ item ∈ partition, ¬ Stops globalSteps item) ∧
      result = (found.1 ||
          partition.any fun item => decide (Marked globalSteps (some .running) item),
        found.2 ++ partition.filter fun item => Marked globalSteps (some .success) item) := by
  induction partition generalizing found with
  | nil =>
    simp only [List.foldlM_nil, List.any_nil, Bool.or_false, List.filter_nil, List.append_nil,
      List.not_mem_nil, false_implies, implies_true, true_and]
    exact ⟨fun h => (Except.ok.inj h).symm, fun h => congrArg Except.ok h.symm⟩
  | cons item partition ih =>
    rw [List.foldlM_cons, bind_eq_ok, List.forall_mem_cons]
    simp only [scanItem_eq_ok, ih]
    constructor
    · rintro ⟨_, ⟨hitem, rfl⟩, hrest, rfl⟩
      refine ⟨⟨hitem, hrest⟩, ?_⟩
      by_cases hsuccess : Marked globalSteps (some .success) item
      · simp [hsuccess, Bool.or_assoc]
      · simp [hsuccess, Bool.or_assoc]
    · rintro ⟨⟨hitem, hrest⟩, rfl⟩
      refine ⟨_, ⟨hitem, rfl⟩, hrest, ?_⟩
      by_cases hsuccess : Marked globalSteps (some .success) item
      · simp [hsuccess, Bool.or_assoc]
      · simp [hsuccess, Bool.or_assoc]

/-- A batch is returned where nothing runs and nothing has failed. -/
theorem scan_eq_some : scan partitionId globalSteps partition = .ok (some batch) ↔
    (∀ item ∈ partition, ¬ Stops globalSteps item ∧ ¬ Marked globalSteps (some .running) item) ∧
      batch = partition.filter (fun item => Marked globalSteps (some .success) item) ∧
      batch ≠ [] := by
  unfold scan
  rw [bind_eq_ok]
  simp only [scanItems_eq_ok, Bool.false_or, List.nil_append]
  constructor
  · rintro ⟨_, ⟨hstops, rfl⟩, h⟩
    dsimp only at h
    split at h
    · cases h
    · next hwait =>
      rw [bind_eq_ok] at h
      obtain ⟨_, hne, hbatch⟩ := h
      rw [raiseIf_eq_ok] at hne
      obtain rfl := Option.some.inj (Except.ok.inj hbatch)
      refine ⟨fun item hitem => ⟨hstops item hitem, fun hrunning => hwait ?_⟩, rfl, hne⟩
      exact List.any_eq_true.mpr ⟨item, hitem, by simpa using hrunning⟩
  · rintro ⟨hall, rfl, hne⟩
    refine ⟨_, ⟨fun item hitem => (hall item hitem).1, rfl⟩, ?_⟩
    dsimp only
    rw [if_neg, raiseIf_of_not hne]
    · rfl
    · rw [List.any_eq_true]
      rintro ⟨item, hitem, hrunning⟩
      exact (hall item hitem).2 (by simpa using hrunning)

/-- It waits only for something that runs. -/
theorem scan_eq_none (h : scan partitionId globalSteps partition = .ok none) :
    ∃ item ∈ partition, Marked globalSteps (some .running) item := by
  unfold scan at h
  rw [bind_eq_ok] at h
  obtain ⟨_, hfold, h⟩ := h
  obtain ⟨-, rfl⟩ := scanItems_eq_ok.mp hfold
  dsimp only at h
  split at h
  · next hwait =>
    rw [Bool.false_or, List.any_eq_true] at hwait
    obtain ⟨item, hitem, hrunning⟩ := hwait
    exact ⟨item, hitem, by simpa using hrunning⟩
  · rw [bind_eq_ok] at h
    obtain ⟨_, -, h⟩ := h
    cases h

/-- It raises for an item that stops it, or where nothing runs and there is nothing to return. -/
theorem scan_eq_error {e : PyError} (h : scan partitionId globalSteps partition = .error e) :
    (∃ item ∈ partition, Stops globalSteps item) ∨
      (∀ item ∈ partition, ¬ Marked globalSteps (some .running) item) ∧
      ∀ item ∈ partition, ¬ Marked globalSteps (some .success) item := by
  by_contra hnot
  rw [not_or, not_exists] at hnot
  have hstops : ∀ item ∈ partition, ¬ Stops globalSteps item := fun item hitem hstop =>
    hnot.1 item ⟨hitem, hstop⟩
  have hfold : partition.foldlM (scanItem partitionId globalSteps) (false, []) = .ok _ :=
    scanItems_eq_ok.mpr ⟨hstops, rfl⟩
  unfold scan at h
  rw [hfold, ok_bind] at h
  dsimp only at h
  split at h
  · cases h
  · next hwait =>
    apply hnot.2
    rw [Bool.false_or, Bool.not_eq_true, List.any_eq_false] at hwait
    refine ⟨fun item hitem => by simpa using hwait item hitem, fun item hitem hsuccess => ?_⟩
    rw [raiseIf_of_not] at h
    · cases h
    · intro hnil
      rw [List.nil_append, List.filter_eq_nil_iff] at hnil
      exact hnil item hitem (by simpa using hsuccess)

end Scan

end R2opl
