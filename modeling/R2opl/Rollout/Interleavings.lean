import Mathlib.Logic.Relation
import R2opl.Rollout.ReplayBuffer

/-!
# Rollouts in any order

The trainer of `verl/trainer/main_ppo_sync.py` hands its prompts to agent loops, which write what
they generate into the transfer queue; a thread polls the queue into the replay buffer, and the
trainer samples its batch from there.  Everything happens in any order, and a listing of the queue
may be old when it reaches the buffer.
-/

namespace R2opl

open Checked Dict Mirror

/-! ### What the agent loops generate -/

/-- What comes of one agent loop: the lengths of its prompts and responses, and how it raised. -/
structure AgentSession where
  outputs : List (Nat × Nat)
  error : Option PyStr := none

/-- A prompt and what comes of it: its agent loops, or how it raised before they were started. -/
structure Prompt where
  globalSteps : Nat
  loops : Except PyStr (List AgentSession)

def Prompt.sessions (prompt : Prompt) : List AgentSession :=
  match prompt.loops with
  | .error _ => []
  | .ok sessions => sessions

/-- The tags of `_agent_loop_postprocess`. -/
def outputTags (globalSteps : Nat) (output : Nat × Nat) : Tags where
  globalSteps := some globalSteps
  status := some .success
  promptLen := some output.1
  responseLen := some output.2
  seqLen := some (output.1 + output.2)

/-- What `_agent_loop_postprocess` puts into the transfer queue. -/
def sessionItems (uid : PyStr) (globalSteps session : Nat) (outputs : List (Nat × Nat)) :
    QueuePartition :=
  outputs.mapIdx fun index output => (.trajectory uid session index, outputTags globalSteps output)

/-- All that the agent loops of a prompt write. -/
def trajectories (uid : PyStr) (prompt : Prompt) : QueuePartition :=
  prompt.sessions.zipIdx.flatMap fun (session, i) =>
    sessionItems uid prompt.globalSteps i session.outputs

/-- The exception of a prompt. -/
def Prompt.error? (prompt : Prompt) : Option PyStr :=
  match prompt.loops with
  | .error error => some error
  | .ok sessions =>
      match sessions.filterMap AgentSession.error with
      | [] => none
      | errors => some ("RuntimeError: ".toList ++ List.intercalate "; ".toList errors)

/-- The tags that `_run_prompt` writes last. -/
def Prompt.endTags (prompt : Prompt) : Tags :=
  match prompt.error? with
  | none => { status := some .finished }
  | some error => { status := some .failure, error := some error }

/-! ### The parties -/

/-- What the trainer is about. -/
inductive Driver where
  | idle
  | waiting (globalSteps : Nat)
  | holding (globalSteps : Nat) (batch : QueuePartition)
  | removing (globalSteps : Nat) (cleared kept : QueuePartition)
  | failed (error : PyError)

/-- A partition of the transfer queue, the buffer that mirrors it, and who works on them.  What has
    been requested, written, cleared and sampled is only remembered for the statements. -/
structure RolloutWorld where
  queue : QueuePartition
  listing : Option QueuePartition
  pollFailed : Bool
  buffer : QueuePartition
  driver : Driver
  requested : List PyStr
  published : List (PyStr × Nat)
  ended : List PyStr
  pads : List PyStr
  cleared : List Key
  sampled : List Nat

def RolloutWorld.initial : RolloutWorld where
  queue := []
  listing := none
  pollFailed := false
  buffer := []
  driver := .idle
  requested := []
  published := []
  ended := []
  pads := []
  cleared := []
  sampled := []

/-- `generate_sequences` of the manager marks its prompts first. -/
def runningItems (globalSteps : Nat) (uids : List PyStr) : QueuePartition :=
  uids.map fun uid => (.prompt uid, { globalSteps := some globalSteps, status := some .running })

/-- The tags of a synthetic sample. -/
def Tags.padding (tags : Tags) : Tags :=
  { tags with
    promptLen := some 127
    responseLen := some 1
    seqLen := some 128
    isPadding := some true }

/-- The synthetic samples of `upsample_batch_to_divisible_size`. -/
def paddingItems (padUid : PyStr) (tags : Tags) (size : Nat) : QueuePartition :=
  (List.range size).map fun index => (.trajectory padUid index 0, tags.padding)

variable (partitionId : String) (prompts : PyStr → Prompt)

/-- What can happen next. -/
inductive RolloutStep : RolloutWorld → RolloutWorld → Prop where
  /-- `generate_sequences`: a uid is never used twice. -/
  | request {w : RolloutWorld} (globalSteps : Nat) (uids : List PyStr) (hidle : w.driver = .idle)
      (hnodup : uids.Nodup) (hfresh : ∀ uid ∈ uids, uid ∉ w.requested ∧ uid ∉ w.pads)
      (hsteps : ∀ uid ∈ uids, (prompts uid).globalSteps = globalSteps) :
      RolloutStep w { w with
        buffer := w.buffer.add (runningItems globalSteps uids)
        requested := uids ++ w.requested
        driver := .waiting globalSteps }
  /-- An agent loop ends, and has written what it generated. -/
  | publish {w : RolloutWorld} (uid : PyStr) (i : Nat) (session : AgentSession)
      (hrequested : uid ∈ w.requested) (hsession : (prompts uid).sessions[i]? = some session)
      (hnew : (uid, i) ∉ w.published) :
      RolloutStep w { w with
        queue := w.queue.add (sessionItems uid (prompts uid).globalSteps i session.outputs)
        published := (uid, i) :: w.published }
  /-- `_run_prompt` ends, after all of its agent loops. -/
  | finish {w : RolloutWorld} (uid : PyStr) (hrequested : uid ∈ w.requested) (hnew : uid ∉ w.ended)
      (hall : ∀ i < (prompts uid).sessions.length, (uid, i) ∈ w.published) :
      RolloutStep w { w with
        queue := w.queue.add [(.prompt uid, (prompts uid).endTags)]
        ended := uid :: w.ended }
  /-- The polling thread asks the queue. -/
  | list {w : RolloutWorld} (hfree : w.listing = none) (hpolls : w.pollFailed = false) :
      RolloutStep w { w with listing := some w.queue }
  /-- The polling thread adds what it was told. -/
  | add {w : RolloutWorld} (items : QueuePartition) (hlisting : w.listing = some items) :
      RolloutStep w { w with buffer := w.buffer.add items, listing := none }
  | pollFails {w : RolloutWorld} (hfree : w.listing = none) :
      RolloutStep w { w with pollFailed := true }
  /-- A look of `sample` that ends it. -/
  | sample {w : RolloutWorld} (globalSteps : Nat) (batch : QueuePartition)
      (hwaiting : w.driver = .waiting globalSteps)
      (hscan : scan partitionId (some globalSteps) w.buffer = .ok (some batch)) :
      RolloutStep w { w with
        driver := .holding globalSteps batch
        sampled := globalSteps :: w.sampled }
  | raise {w : RolloutWorld} (globalSteps : Nat) (error : PyError)
      (hwaiting : w.driver = .waiting globalSteps)
      (hscan : scan partitionId (some globalSteps) w.buffer = .error error) :
      RolloutStep w { w with driver := .failed error }
  | raisePoll {w : RolloutWorld} (globalSteps : Nat) (hwaiting : w.driver = .waiting globalSteps)
      (hpolls : w.pollFailed = true) :
      RolloutStep w { w with
        driver := .failed (runtimeError "TransferQueue metadata polling failed") }
  /-- `upsample_batch_to_divisible_size` -/
  | pad {w : RolloutWorld} (globalSteps : Nat) (batch : QueuePartition) (source : Key × Tags)
      (padUid : PyStr) (size : Nat) (hholding : w.driver = .holding globalSteps batch)
      (hsource : source ∈ batch)
      (hfresh : padUid ∉ w.requested ∧ padUid ∉ w.pads) :
      RolloutStep w { w with
        queue := w.queue.add (paddingItems padUid source.2 size)
        pads := padUid :: w.pads
        driver := .holding globalSteps (batch ++ paddingItems padUid source.2 size) }
  /-- `tq.kv_clear` of the batch, or of a part of it. -/
  | clear {w : RolloutWorld} (globalSteps : Nat) (batch cleared kept : QueuePartition)
      (hholding : w.driver = .holding globalSteps batch) (hparts : batch.Perm (cleared ++ kept)) :
      RolloutStep w { w with
        queue := w.queue.remove (keys cleared)
        cleared := keys cleared ++ w.cleared
        driver := .removing globalSteps cleared kept }
  /-- `ReplayBuffer.remove` of what was cleared. -/
  | remove {w : RolloutWorld} (globalSteps : Nat) (cleared kept : QueuePartition)
      (hremoving : w.driver = .removing globalSteps cleared kept) :
      RolloutStep w { w with
        buffer := w.buffer.remove (keys cleared)
        driver := if kept = [] then .idle else .holding globalSteps kept }

def RolloutReachable (w : RolloutWorld) : Prop :=
  Relation.ReflTransGen (RolloutStep partitionId prompts) .initial w

end R2opl
