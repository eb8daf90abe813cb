import Mathlib.Algebra.Field.Rat
import R2opl.Python
import R2opl.Lib.Dict
import R2opl.Lib.WorkQueue

/-!
# The GPU pool

`GpuPool.run` and `run_generation_phase` (`utils/evaluation.py`): one worker for each GPU
takes batches from a shared queue.  Whatever the interleaving, the messages sorted by their
batch are those of running the jobs one after the other.
-/

namespace R2opl

open Checked WorkQueue

/-- The fields of `EvaluationConfig` that the pool reads. -/
structure PoolConfig where
  gpus : List Nat
  rolloutsPerGpuBatch : Nat
  n : Nat
  gpus_ne : gpus ≠ []
  rollouts_pos : 0 < rolloutsPerGpuBatch
  n_pos : 0 < n
  n_dvd : n ∣ rolloutsPerGpuBatch

/-- `EvaluationConfig.questions_per_gpu_batch`. -/
def PoolConfig.questionsPerGpuBatch (config : PoolConfig) : Nat :=
  config.rolloutsPerGpuBatch / config.n

/-- `(count + len(config.gpus) - 1) // len(config.gpus)`. -/
def PoolConfig.perGpu (config : PoolConfig) (count : Nat) : Nat :=
  (count + config.gpus.length - 1) / config.gpus.length

/-! ### `GpuPool.run` -/

section Run

variable {J R : Type}

/-- The messages that `run` may return: those of some interleaving of the workers, sorted by
    their batch. -/
def GpuPool.Runs (config : PoolConfig) (work : J → Except PyError R) (jobs : List J)
    (messages : List (Nat × R)) : Prop :=
  if jobs = [] then messages = []
  else ∃ pool, Reachable work config.gpus.length jobs pool ∧ pool.Returned jobs.length ∧
    messages = pool.received.insertionSort fun a b => a.1 ≤ b.1

/-- While no worker fails, `run` comes to return. -/
theorem GpuPool.exists_runs (config : PoolConfig) {work : J → Except PyError R} {jobs : List J}
    (hok : ∀ job ∈ jobs, Returns (work job)) :
    ∃ messages, GpuPool.Runs config work jobs messages := by
  unfold GpuPool.Runs
  by_cases hnone : jobs = []
  · exact ⟨[], by rw [if_pos hnone]⟩
  · have hstart : Reachable work config.gpus.length jobs (initial config.gpus.length jobs) :=
      Reachable.start
    obtain ⟨pool, hsteps, hreturned⟩ :=
      hstart.returns (List.length_pos_iff.mpr config.gpus_ne) hok
    exact ⟨_, (if_neg hnone).mpr ⟨pool, Reachable.start.trans hsteps, hreturned, rfl⟩⟩

/-- The messages are those of running the jobs one after the other. -/
theorem GpuPool.Runs.eq_sequential {config : PoolConfig} {work : J → Except PyError R}
    {jobs : List J} {messages : List (Nat × R)} {results : List R}
    (h : GpuPool.Runs config work jobs messages) (hresults : jobs.mapM work = .ok results) :
    messages.map Prod.snd = results := by
  have hmap : jobs.map work = results.map .ok := by
    have hforall := (mapM_eq_ok _ _).mp hresults
    clear h hresults
    induction hforall with
    | nil => rfl
    | cons hjob _ ih => rw [List.map_cons, List.map_cons, hjob, ih]
  unfold GpuPool.Runs at h
  split at h
  · rename_i hnone
    rw [hnone] at hmap
    rw [h, List.map_eq_nil_iff.mp hmap.symm]
    rfl
  · obtain ⟨pool, hreachable, hreturned, rfl⟩ := h
    exact sorted_of_perm_enumerate (hreachable.received_perm hmap hreturned)

end Run

/-! ### `run_generation_phase` -/

structure GenerationRequest where
  ids : List Int
  maxTokens : Int
  seed : Int
  temperature : ℚ
  topP : ℚ
  topK : Int
  requestId : PyStr
deriving DecidableEq

/-- `_run_generate_job`; the language model answers every request on its own. -/
def runGenerateJob (generate : GenerationRequest → List Int)
    (requests : List GenerationRequest) : Except PyError (List (List Int)) := do
  raiseIf (¬ (1 ≤ requests.length ∧ requests.length ≤ 1000000000))
    (valueError s!"Invalid generate job size: {requests.length}")
  return requests.map generate

/-- The batches of a generation phase. -/
def generationJobs (config : PoolConfig) (requests : List GenerationRequest) :
    List (List GenerationRequest) :=
  batches (min config.rolloutsPerGpuBatch (config.perGpu requests.length)) requests

/-- The outputs of a generation phase, from the messages of its pool. -/
def pairOutputs (requests : List GenerationRequest) (messages : List (Nat × List (List Int))) :
    Except PyError (List (PyStr × List Int)) := do
  let flatOutputs := messages.flatMap Prod.snd
  raiseIf (flatOutputs.length ≠ requests.length) (runtimeError
    s!"Generation phase returned {flatOutputs.length} outputs for {requests.length} requests.")
  return Dict.ofPairs ((requests.map GenerationRequest.requestId).zip flatOutputs)

/-- What `run_generation_phase` may return. -/
def RunGenerationPhase (config : PoolConfig) (generate : GenerationRequest → List Int)
    (requests : List GenerationRequest) (outputs : Except PyError (List (PyStr × List Int))) :
    Prop :=
  if requests = [] then outputs = .ok []
  else ∃ messages,
    GpuPool.Runs config (runGenerateJob generate) (generationJobs config requests) messages ∧
    outputs = pairOutputs requests messages

/-- A generation phase that answers its requests one after the other. -/
def generationPhase (generate : GenerationRequest → List Int)
    (requests : List GenerationRequest) : List (PyStr × List Int) :=
  Dict.ofPairs (requests.map fun request => (request.requestId, generate request))

theorem perGpu_pos (config : PoolConfig) {count : Nat} (h : 0 < count) :
    0 < config.perGpu count := by
  have hgpus : 0 < config.gpus.length := List.length_pos_iff.mpr config.gpus_ne
  apply Nat.div_pos _ hgpus
  omega

/-- The batches of a phase hold its requests in order. -/
theorem flatten_generationJobs (config : PoolConfig) {requests : List GenerationRequest}
    (h : requests ≠ []) : (generationJobs config requests).flatten = requests := by
  apply flatten_batches
  exact lt_min config.rollouts_pos (perGpu_pos config (List.length_pos_iff.mpr h))

/-- The results of the jobs of a phase, one after the other. -/
theorem flatMap_runGenerateJob {generate : GenerationRequest → List Int}
    {jobs : List (List GenerationRequest)} {results : List (List (List Int))}
    (h : jobs.mapM (runGenerateJob generate) = .ok results) :
    results.flatten = jobs.flatten.map generate := by
  have hforall := (mapM_eq_ok _ _).mp h
  clear h
  induction hforall with
  | nil => rfl
  | cons hjob _ ih =>
    obtain ⟨_, hjob⟩ := raiseIf_bind_eq_ok.mp hjob
    rw [List.flatten_cons, List.flatten_cons, List.map_append, ih, ← Except.ok.inj hjob]

theorem exists_runGenerationPhase (config : PoolConfig) {generate : GenerationRequest → List Int}
    {requests : List GenerationRequest}
    (hok : ∀ job ∈ generationJobs config requests, Returns (runGenerateJob generate job)) :
    ∃ outputs, RunGenerationPhase config generate requests outputs := by
  unfold RunGenerationPhase
  split
  · exact ⟨_, rfl⟩
  · obtain ⟨messages, hruns⟩ := GpuPool.exists_runs config hok
    exact ⟨_, messages, hruns, rfl⟩

/-- **Pairing.**  In every interleaving in which no worker fails, a generation phase returns
    what answering its requests in order returns. -/
theorem runGenerationPhase_eq {config : PoolConfig} {generate : GenerationRequest → List Int}
    {requests : List GenerationRequest} {outputs : Except PyError (List (PyStr × List Int))}
    (hok : ∀ job ∈ generationJobs config requests, Returns (runGenerateJob generate job))
    (h : RunGenerationPhase config generate requests outputs) :
    outputs = .ok (generationPhase generate requests) := by
  unfold RunGenerationPhase at h
  split at h
  · rename_i hnone
    rw [h, hnone]
    rfl
  · rename_i hsome
    obtain ⟨messages, hruns, rfl⟩ := h
    obtain ⟨results, hresults⟩ := returns_mapM hok
    have hflat : messages.flatMap Prod.snd = requests.map generate := by
      rw [List.flatMap_def, hruns.eq_sequential hresults, flatMap_runGenerateJob hresults,
        flatten_generationJobs config hsome]
    unfold pairOutputs generationPhase
    dsimp only
    rw [hflat, raiseIf_of_not (not_not.mpr (List.length_map generate)), ok_bind, List.zip_map']
    rfl

/-- With distinct request ids every request has its own output, and nothing else is there. -/
theorem generationPhase_eq {generate : GenerationRequest → List Int}
    {requests : List GenerationRequest}
    (hnodup : (requests.map GenerationRequest.requestId).Nodup) :
    generationPhase generate requests =
      requests.map fun request => (request.requestId, generate request) := by
  apply Dict.ofPairs_eq
  unfold Dict.keys
  rw [List.map_map]
  exact hnodup

theorem get?_generationPhase {generate : GenerationRequest → List Int}
    {requests : List GenerationRequest}
    (hnodup : (requests.map GenerationRequest.requestId).Nodup) {request : GenerationRequest}
    (hrequest : request ∈ requests) :
    Dict.get? (generationPhase generate requests) request.requestId =
      some (generate request) := by
  rw [generationPhase_eq hnodup]
  apply Dict.get?_of_mem
  · unfold Dict.keys
    rw [List.map_map]
    exact hnodup
  · exact List.mem_map.mpr ⟨request, hrequest, rfl⟩

end R2opl
