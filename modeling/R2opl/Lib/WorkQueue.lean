import Mathlib.Data.List.Perm.Basic
import Mathlib.Data.List.Sort
import Mathlib.Data.List.Count
import Mathlib.Logic.Relation

/-!
# Workers over one job queue

An owner starts some workers, waits until each is ready, puts its jobs on a queue that all
of them take from, and collects one result for each job.  Messages are received in any
order.  The multiset of jobs, finished or not, is an invariant of every interleaving: an
owner that has all its results has each job's result once.
-/

namespace WorkQueue

variable {ε J R : Type}

/-! ### The pool -/

inductive Worker (J : Type) where
  | starting
  | idle
  | running (job : Nat × J)
  | exited

inductive Message (R : Type) where
  | ready
  | done (key : Nat) (result : R)
  | failed

/-- The workers, what the owner has still to put on the queue, the queue, the messages in
    transit, and what the owner has received. -/
structure Pool (J R : Type) where
  workers : List (Worker J)
  pending : List (Nat × J)
  queue : List (Nat × J)
  sent : List (Message R)
  started : Nat
  received : List (Nat × R)
  failed : Bool

def enumerate {α : Type} (xs : List α) : List (Nat × α) := xs.mapIdx Prod.mk

def initial (n : Nat) (jobs : List J) : Pool J R where
  workers := List.replicate n .starting
  pending := enumerate jobs
  queue := []
  sent := []
  started := 0
  received := []
  failed := false

namespace Pool

/-- The owner waits for a message: until every worker is ready, or until it has a result for
    each of its jobs. -/
def Waits (total : Nat) (pool : Pool J R) : Prop :=
  pool.failed = false ∧ (pool.started < pool.workers.length ∨
    pool.pending = [] ∧ pool.received.length < total)

/-- The owner receives a message; one of another kind than it waits for is a failure. -/
def receive (message : Message R) (pool : Pool J R) : Pool J R :=
  if pool.started < pool.workers.length then
    match message with
    | .ready => { pool with started := pool.started + 1 }
    | _ => { pool with failed := true }
  else
    match message with
    | .done key result => { pool with received := pool.received ++ [(key, result)] }
    | _ => { pool with failed := true }

/-- The owner has every worker ready and a result for each of its jobs. -/
structure Returned (total : Nat) (pool : Pool J R) : Prop where
  failed : pool.failed = false
  started : pool.started = pool.workers.length
  pending : pool.pending = []
  received : pool.received.length = total

end Pool

/-- One step of one of the parties. -/
inductive Step (work : J → Except ε R) (total : Nat) : Pool J R → Pool J R → Prop where
  | start {pool : Pool J R} {before after : List (Worker J)}
      (hworkers : pool.workers = before ++ .starting :: after) :
      Step work total pool { pool with
        workers := before ++ .idle :: after
        sent := pool.sent ++ [.ready] }
  | submit {pool : Pool J R} {job : Nat × J} {rest : List (Nat × J)}
      (hrunning : pool.failed = false) (hstarted : pool.started = pool.workers.length)
      (hpending : pool.pending = job :: rest) :
      Step work total pool { pool with pending := rest, queue := pool.queue ++ [job] }
  | take {pool : Pool J R} {before after : List (Worker J)} {job : Nat × J}
      {rest : List (Nat × J)} (hworkers : pool.workers = before ++ .idle :: after)
      (hqueue : pool.queue = job :: rest) :
      Step work total pool { pool with
        workers := before ++ .running job :: after
        queue := rest }
  | put {pool : Pool J R} {before after : List (Worker J)} {job : Nat × J} {result : R}
      (hworkers : pool.workers = before ++ .running job :: after)
      (hresult : work job.2 = .ok result) :
      Step work total pool { pool with
        workers := before ++ .idle :: after
        sent := pool.sent ++ [.done job.1 result] }
  | fail {pool : Pool J R} {before after : List (Worker J)} {job : Nat × J} {error : ε}
      (hworkers : pool.workers = before ++ .running job :: after)
      (herror : work job.2 = .error error) :
      Step work total pool { pool with
        workers := before ++ .exited :: after
        sent := pool.sent ++ [.failed] }
  | receive {pool : Pool J R} {before after : List (Message R)} {message : Message R}
      (hwaits : pool.Waits total) (hsent : pool.sent = before ++ message :: after) :
      Step work total pool (Pool.receive message { pool with sent := before ++ after })
  | notice {pool : Pool J R} (hwaits : pool.Waits total) (hexited : .exited ∈ pool.workers) :
      Step work total pool { pool with failed := true }

/-- The states of every interleaving of `n` workers. -/
inductive Reachable (work : J → Except ε R) (n : Nat) (jobs : List J) : Pool J R → Prop where
  | start : Reachable work n jobs (initial n jobs)
  | next {pool pool' : Pool J R} (previous : Reachable work n jobs pool)
      (hstep : Step work jobs.length pool pool') : Reachable work n jobs pool'

/-! ### What is where -/

@[simp]
def Worker.job : Worker J → Option (Nat × J)
  | .running job => some job
  | _ => none

@[simp]
def Worker.isStarting : Worker J → Bool
  | .starting => true
  | _ => false

@[simp]
def Message.result : Message R → Option (Nat × R)
  | .done key result => some (key, result)
  | _ => none

@[simp]
def Message.isReady : Message R → Bool
  | .ready => true
  | _ => false

namespace Pool

variable (work : J → Except ε R) (pool : Pool J R)

/-- The jobs that are not finished. -/
def unfinished : List (Nat × J) :=
  pool.pending ++ pool.queue ++ pool.workers.filterMap Worker.job

/-- The results, in transit and received. -/
def finished : List (Nat × R) :=
  pool.sent.filterMap Message.result ++ pool.received

/-- What every job gives, whether it is finished or not. -/
def outcomes : List (Nat × Except ε R) :=
  pool.unfinished.map (fun job => (job.1, work job.2)) ++
    pool.finished.map (fun result => (result.1, .ok result.2))

end Pool

/-- No job is lost or done twice, and the phases of the protocol do not mix. -/
structure Accounted (work : J → Except ε R) (n : Nat) (jobs : List J) (pool : Pool J R) :
    Prop where
  workers : pool.workers.length = n
  conserved : (pool.outcomes work).Perm (enumerate (jobs.map work))
  readies : pool.workers.countP Worker.isStarting + pool.sent.countP Message.isReady +
    pool.started = n
  startup : pool.started < n → pool.pending = enumerate jobs ∧ pool.queue = [] ∧
    pool.workers.filterMap Worker.job = [] ∧ pool.sent.filterMap Message.result = [] ∧
    pool.received = []
  exited : .exited ∉ pool.workers
  sent : .failed ∉ pool.sent
  failed : pool.failed = false

variable {work : J → Except ε R} {n : Nat} {jobs : List J} {pool pool' : Pool J R}

theorem enumerate_map {α β : Type} (f : α → β) (xs : List α) :
    enumerate (xs.map f) = (enumerate xs).map fun x => (x.1, f x.2) := by
  apply List.ext_getElem?
  intro i
  simp [enumerate, Function.comp_def]

theorem accounted_initial : Accounted work n jobs (initial n jobs) where
  workers := List.length_replicate
  conserved := by
    have hidle : (List.replicate n (Worker.starting : Worker J)).filterMap Worker.job = [] :=
      List.filterMap_eq_nil_iff.mpr fun worker hworker => by
        rw [List.eq_of_mem_replicate hworker]
        rfl
    simp [Pool.outcomes, Pool.unfinished, Pool.finished, initial, hidle, enumerate_map]
  readies := by
    have hstarting : (List.replicate n (Worker.starting : Worker J)).countP Worker.isStarting =
        n := by
      rw [List.countP_eq_length.mpr, List.length_replicate]
      intro worker hworker
      rw [List.eq_of_mem_replicate hworker]
      rfl
    simp [initial, hstarting]
  startup := by
    intro _
    refine ⟨rfl, rfl, ?_, rfl, rfl⟩
    exact List.filterMap_eq_nil_iff.mpr fun worker hworker => by
      rw [List.eq_of_mem_replicate hworker]
      rfl
  exited := by
    intro hexited
    cases List.eq_of_mem_replicate hexited
  sent := List.not_mem_nil
  failed := rfl

/-- An unfinished job of an accounted pool is one of the jobs. -/
theorem Accounted.work_ok (h : Accounted work n jobs pool)
    (hok : ∀ job ∈ jobs, ∃ result, work job = .ok result) {job : Nat × J}
    (hjob : job ∈ pool.unfinished) : ∃ result, work job.2 = .ok result := by
  have hmem : (job.1, work job.2) ∈ pool.outcomes work :=
    List.mem_append_left _ (List.mem_map_of_mem hjob)
  have hentry := h.conserved.mem_iff.mp hmem
  rw [enumerate_map] at hentry
  obtain ⟨entry, hentry, heq⟩ := List.mem_map.mp hentry
  obtain ⟨i, hi, rfl⟩ := List.mem_mapIdx.mp hentry
  obtain ⟨result, hresult⟩ := hok _ (List.getElem_mem hi)
  exact ⟨result, (Prod.mk.inj heq).2.symm.trans hresult⟩

section Steps

variable {before after : List (Worker J)}

theorem mem_unfinished {job : Nat × J} (hworkers : pool.workers = before ++ .running job :: after) :
    job ∈ pool.unfinished := by
  unfold Pool.unfinished
  rw [hworkers]
  apply List.mem_append_right
  exact List.mem_filterMap.mpr ⟨_, List.mem_append_right _ List.mem_cons_self, rfl⟩

theorem accounted_start (h : Accounted work n jobs pool)
    (hworkers : pool.workers = before ++ .starting :: after) :
    Accounted work n jobs { pool with
      workers := before ++ .idle :: after
      sent := pool.sent ++ [.ready] } := by
  obtain ⟨hcount, hconserved, hreadies, hstartup, hexited, hsent, hfailed⟩ := h
  have hbusy : (before ++ Worker.idle :: after).filterMap Worker.job =
      pool.workers.filterMap Worker.job := by
    simp [hworkers, List.filterMap_cons]
  have hresults : (pool.sent ++ [Message.ready]).filterMap Message.result =
      pool.sent.filterMap Message.result := by
    simp
  rw [hworkers] at hcount hreadies hexited
  constructor
  · simpa using hcount
  · unfold Pool.outcomes Pool.unfinished Pool.finished
    rw [hbusy, hresults]
    exact hconserved
  · simp [List.countP_cons] at hreadies ⊢
    omega
  · rw [hbusy, hresults]
    exact hstartup
  · simpa using hexited
  · simpa using hsent
  · exact hfailed

theorem accounted_submit {job : Nat × J} {rest : List (Nat × J)} (h : Accounted work n jobs pool)
    (hstarted : pool.started = pool.workers.length) (hpending : pool.pending = job :: rest) :
    Accounted work n jobs { pool with pending := rest, queue := pool.queue ++ [job] } := by
  obtain ⟨hcount, hconserved, hreadies, hstartup, hexited, hsent, hfailed⟩ := h
  constructor
  · exact hcount
  · refine List.Perm.trans (List.Perm.append_right _ (List.Perm.map _ ?_)) hconserved
    unfold Pool.unfinished
    rw [hpending]
    apply List.Perm.append_right
    rw [← List.append_assoc]
    exact List.perm_append_comm
  · exact hreadies
  · intro hlt
    change pool.started < n at hlt
    omega
  · exact hexited
  · exact hsent
  · exact hfailed

theorem accounted_take {job : Nat × J} {rest : List (Nat × J)} (h : Accounted work n jobs pool)
    (hworkers : pool.workers = before ++ .idle :: after) (hqueue : pool.queue = job :: rest) :
    Accounted work n jobs { pool with
      workers := before ++ .running job :: after
      queue := rest } := by
  obtain ⟨hcount, hconserved, hreadies, hstartup, hexited, hsent, hfailed⟩ := h
  constructor
  · rw [hworkers] at hcount
    simpa using hcount
  · refine List.Perm.trans (List.Perm.append_right _ (List.Perm.map _ ?_)) hconserved
    unfold Pool.unfinished
    rw [hqueue, hworkers, List.append_assoc, List.append_assoc]
    apply List.Perm.append_left
    simp only [List.filterMap_append, List.filterMap_cons, Worker.job]
    exact (List.perm_middle.append_left _).trans List.perm_middle
  · simpa [hworkers] using hreadies
  · intro hlt
    rw [hqueue] at hstartup
    exact absurd (hstartup hlt).2.1 (List.cons_ne_nil _ _)
  · simpa [hworkers] using hexited
  · exact hsent
  · exact hfailed

theorem accounted_put {job : Nat × J} {result : R} (h : Accounted work n jobs pool)
    (hworkers : pool.workers = before ++ .running job :: after)
    (hresult : work job.2 = .ok result) :
    Accounted work n jobs { pool with
      workers := before ++ .idle :: after
      sent := pool.sent ++ [.done job.1 result] } := by
  obtain ⟨hcount, hconserved, hreadies, hstartup, hexited, hsent, hfailed⟩ := h
  constructor
  · simpa [hworkers] using hcount
  · refine List.Perm.trans ?_ hconserved
    classical
    apply List.perm_iff_count.mpr
    intro outcome
    simp [Pool.outcomes, Pool.unfinished, Pool.finished, hworkers, hresult, List.filterMap_cons, List.count_cons]
    omega
  · simpa [hworkers] using hreadies
  · intro hlt
    rw [hworkers] at hstartup
    have hbusy := (hstartup hlt).2.2.1
    simp at hbusy
  · simpa [hworkers] using hexited
  · simpa using hsent
  · exact hfailed

/-- A message that the owner takes out of the transit. -/
theorem sent_parts {before after : List (Message R)} {message : Message R}
    (hsent : pool.sent = before ++ message :: after) :
    pool.sent.countP Message.isReady =
        (before ++ after).countP Message.isReady + [message].countP Message.isReady ∧
      (pool.sent.filterMap Message.result).Perm
        ((before ++ after).filterMap Message.result ++ [message].filterMap Message.result) := by
  have hperm : pool.sent.Perm ((before ++ after) ++ [message]) := by
    rw [hsent]
    exact List.perm_middle.trans (List.perm_append_singleton _ _).symm
  constructor
  · rw [hperm.countP_eq, List.countP_append]
  · rw [← List.filterMap_append]
    exact hperm.filterMap _

theorem accounted_receive {before after : List (Message R)} {message : Message R}
    (h : Accounted work n jobs pool) (hsent : pool.sent = before ++ message :: after) :
    Accounted work n jobs (Pool.receive message { pool with sent := before ++ after }) := by
  obtain ⟨hready, hresults⟩ := sent_parts hsent
  obtain ⟨hcount, hconserved, hreadies, hstartup, hexited, hfailure, hfailed⟩ := h
  have hleft : Message.failed ∉ before ++ after := fun hmem => hfailure (by
    rw [hsent]
    exact List.perm_middle.mem_iff.mpr (List.mem_cons_of_mem _ hmem))
  cases message with
  | failed =>
    exact absurd (hsent ▸ List.mem_append_right before List.mem_cons_self) hfailure
  | ready =>
    simp only [List.countP_singleton, Message.isReady, if_pos] at hready
    simp only [List.filterMap_cons, Message.result, List.filterMap_nil, List.append_nil]
      at hresults
    have hlt : pool.started < pool.workers.length := by omega
    have hreceived : Pool.receive .ready { pool with sent := before ++ after } =
        { pool with sent := before ++ after, started := pool.started + 1 } := if_pos hlt
    rw [hreceived]
    constructor
    · exact hcount
    · refine List.Perm.trans (List.Perm.append_left _ (List.Perm.map _ ?_)) hconserved
      exact hresults.symm.append_right _
    · change pool.workers.countP _ + (before ++ after).countP _ + (pool.started + 1) = n
      omega
    · intro hmore
      obtain ⟨hpending, hqueue, hbusy, hnone, hreceived⟩ := hstartup (by omega)
      rw [hnone] at hresults
      exact ⟨hpending, hqueue, hbusy, hresults.nil_eq.symm, hreceived⟩
    · exact hexited
    · exact hleft
    · exact hfailed
  | done key result =>
    simp only [List.countP_singleton, Message.isReady] at hready
    simp only [List.filterMap_cons, Message.result, List.filterMap_nil] at hresults
    have hall : ¬ pool.started < n := fun hlt => by
      rw [(hstartup hlt).2.2.2.1] at hresults
      exact absurd hresults.nil_eq.symm (List.append_ne_nil_of_right_ne_nil _ (List.cons_ne_nil _ _))
    have hreceived : Pool.receive (.done key result) { pool with sent := before ++ after } =
        { pool with
          sent := before ++ after
          received := pool.received ++ [(key, result)] } := by
      rw [← hcount] at hall
      exact if_neg hall
    rw [hreceived]
    constructor
    · exact hcount
    · refine List.Perm.trans (List.Perm.append_left _ (List.Perm.map _ ?_)) hconserved
      apply (List.Perm.append_left _ List.perm_append_comm).trans
      rw [← List.append_assoc]
      exact (hresults.append_right _).symm
    · change pool.workers.countP _ + (before ++ after).countP _ + pool.started = n
      simp only [Bool.false_eq_true, if_false, Nat.add_zero] at hready
      rw [← hready]
      exact hreadies
    · exact fun hlt => absurd hlt hall
    · exact hexited
    · exact hleft
    · exact hfailed

theorem accounted_step (hok : ∀ job ∈ jobs, ∃ result, work job = .ok result)
    (h : Accounted work n jobs pool) (hstep : Step work jobs.length pool pool') :
    Accounted work n jobs pool' := by
  cases hstep with
  | start hworkers => exact accounted_start h hworkers
  | submit _ hstarted hpending => exact accounted_submit h hstarted hpending
  | take hworkers hqueue => exact accounted_take h hworkers hqueue
  | put hworkers hresult => exact accounted_put h hworkers hresult
  | fail hworkers herror =>
    have hjob := mem_unfinished hworkers
    obtain ⟨result, hresult⟩ := h.work_ok hok hjob
    rw [hresult] at herror
    cases herror
  | receive _ hsent => exact accounted_receive h hsent
  | notice _ hexited => exact absurd hexited h.exited

end Steps

theorem Reachable.accounted (hok : ∀ job ∈ jobs, ∃ result, work job = .ok result)
    (h : Reachable work n jobs pool) : Accounted work n jobs pool := by
  induction h with
  | start => exact accounted_initial
  | next _ hstep ih => exact accounted_step hok ih hstep

/-! ### The results -/

/-- An owner that has all its results has each of them once. -/
theorem Reachable.received_perm {results : List R} (h : Reachable work n jobs pool)
    (hresults : jobs.map work = results.map .ok) (hreturned : pool.Returned jobs.length) :
    pool.received.Perm (enumerate results) := by
  have hok : ∀ job ∈ jobs, ∃ result, work job = .ok result := by
    intro job hjob
    have hmem : work job ∈ results.map .ok := hresults ▸ List.mem_map_of_mem hjob
    obtain ⟨result, _, heq⟩ := List.mem_map.mp hmem
    exact ⟨result, heq.symm⟩
  have hconserved := (h.accounted hok).conserved
  -- the received results are as many as the jobs, which leaves nothing elsewhere
  have hlength := hconserved.length_eq
  unfold Pool.outcomes Pool.finished at hconserved hlength
  simp only [List.length_append, List.length_map, enumerate, List.length_mapIdx] at hlength
  rw [hreturned.received] at hlength
  have hunfinished : pool.unfinished = [] := List.length_eq_zero_iff.mp (by omega)
  have htransit : pool.sent.filterMap Message.result = [] :=
    List.length_eq_zero_iff.mp (by omega)
  rw [hunfinished, htransit, hresults, enumerate_map] at hconserved
  have hinjective : Function.Injective fun x : Nat × R => (x.1, (Except.ok x.2 : Except ε R)) := by
    intro x y hxy
    have hpair := Prod.mk.inj hxy
    exact Prod.ext hpair.1 (Except.ok.inj hpair.2)
  exact (List.map_perm_map_iff hinjective).mp hconserved

/-- Sorted by their keys, they are in the order of the jobs. -/
theorem sorted_of_perm_enumerate {received : List (Nat × R)} {results : List R}
    (h : received.Perm (enumerate results)) :
    (received.insertionSort fun a b => a.1 ≤ b.1).map Prod.snd = results := by
  have hordered : (enumerate results).Pairwise fun a b => a.1 ≤ b.1 := by
    unfold enumerate
    rw [List.pairwise_iff_getElem]
    intro i j hi hj hij
    simpa using hij.le
  have hsame : ∀ a b, a ∈ received.insertionSort (fun a b => a.1 ≤ b.1) → b ∈ enumerate results →
      a.1 ≤ b.1 → b.1 ≤ a.1 → a = b := by
    intro a b ha hb hle hge
    have ha := h.mem_iff.mp ((List.mem_insertionSort _).mp ha)
    obtain ⟨i, hi, rfl⟩ := List.mem_mapIdx.mp ha
    obtain ⟨j, hj, rfl⟩ := List.mem_mapIdx.mp hb
    obtain rfl : i = j := le_antisymm hle hge
    rfl
  rw [List.Perm.eq_of_pairwise hsame (List.pairwise_insertionSort _ _) hordered
    ((List.perm_insertionSort _ _).trans h)]
  apply List.ext_getElem?
  intro i
  simp [enumerate, Function.comp_def]

/-! ### Progress -/

/-- What the pool has still to do. -/
def Pool.remaining (pool : Pool J R) : Nat :=
  2 * pool.workers.countP Worker.isStarting + 4 * pool.pending.length +
    3 * pool.queue.length + 2 * (pool.workers.filterMap Worker.job).length + pool.sent.length

/-- The owner has never more results than jobs, and all of them when nothing is left. -/
theorem Accounted.length (h : Accounted work n jobs pool) :
    pool.unfinished.length + (pool.sent.filterMap Message.result).length +
      pool.received.length = jobs.length := by
  have hlength := h.conserved.length_eq
  unfold Pool.outcomes Pool.finished at hlength
  simp only [List.length_append, List.length_map, enumerate, List.length_mapIdx] at hlength
  omega

/-- While the owner starts its workers, one of them is starting or has said it is ready. -/
theorem Accounted.step_startup (h : Accounted work n jobs pool) (total : Nat)
    (hstarted : pool.started < pool.workers.length) : ∃ pool', Step work total pool pool' := by
  have hreadies := h.readies
  rw [← h.workers] at hreadies
  by_cases hstarting : 0 < pool.workers.countP Worker.isStarting
  · obtain ⟨worker, hworker, hkind⟩ := List.countP_pos_iff.mp hstarting
    obtain ⟨before, after, hworkers⟩ := List.append_of_mem hworker
    cases worker with
    | starting => exact ⟨_, .start hworkers⟩
    | idle => cases hkind
    | running job => cases hkind
    | exited => cases hkind
  · have hready : 0 < pool.sent.countP Message.isReady := by omega
    obtain ⟨message, hmessage, _⟩ := List.countP_pos_iff.mp hready
    obtain ⟨before, after, hsent⟩ := List.append_of_mem hmessage
    exact ⟨_, .receive ⟨h.failed, .inl hstarted⟩ hsent⟩

/-- With nothing in transit and nothing running, a worker takes the next job. -/
theorem Accounted.step_take (h : Accounted work n jobs pool) (total : Nat) (hworkers : 0 < n)
    (hstarted : pool.started = pool.workers.length)
    (hbusy : pool.workers.filterMap Worker.job = []) {job : Nat × J} {rest : List (Nat × J)}
    (hqueue : pool.queue = job :: rest) : ∃ pool', Step work total pool pool' := by
  have hstarting : pool.workers.countP Worker.isStarting = 0 := by
    have hreadies := h.readies
    rw [← h.workers] at hreadies
    omega
  have hexited := h.exited
  have hcount := h.workers
  cases hall : pool.workers with
  | nil =>
    rw [hall] at hcount
    exact absurd hcount hworkers.ne
  | cons worker others =>
    rw [hall] at hbusy hstarting hexited
    cases worker with
    | idle => exact ⟨_, .take (hall.trans (List.nil_append _).symm) hqueue⟩
    | starting => simp at hstarting
    | running job => simp at hbusy
    | exited => simp at hexited

/-- Until the owner has all its results some party can move. -/
theorem Reachable.progress (hworkers : 0 < n) (hok : ∀ job ∈ jobs, ∃ result, work job = .ok result)
    (h : Reachable work n jobs pool) (hreturned : ¬ pool.Returned jobs.length) :
    ∃ pool', Step work jobs.length pool pool' := by
  have haccounted := h.accounted hok
  have hlength := haccounted.length
  by_cases hstarted : pool.started < pool.workers.length
  · exact haccounted.step_startup _ hstarted
  have hall : pool.started = pool.workers.length := by
    have hreadies := haccounted.readies
    rw [← haccounted.workers] at hreadies
    omega
  cases hpending : pool.pending with
  | cons job rest => exact ⟨_, .submit haccounted.failed hall hpending⟩
  | nil =>
    have hless : pool.received.length < jobs.length := by
      apply lt_of_le_of_ne (by omega)
      intro hreceived
      exact hreturned ⟨haccounted.failed, hall, hpending, hreceived⟩
    cases hsent : pool.sent with
    | cons message rest =>
      exact ⟨_, .receive ⟨haccounted.failed, .inr ⟨hpending, hless⟩⟩
        (hsent.trans (List.nil_append _).symm)⟩
    | nil =>
      by_cases hbusy : pool.workers.filterMap Worker.job = []
      · cases hqueue : pool.queue with
        | cons job rest => exact haccounted.step_take _ hworkers hall hbusy hqueue
        | nil =>
          rw [Pool.unfinished, hpending, hqueue, hbusy, hsent] at hlength
          simp at hlength
          omega
      · obtain ⟨job, hjob⟩ := List.exists_mem_of_ne_nil _ hbusy
        obtain ⟨worker, hworker, hrunning⟩ := List.mem_filterMap.mp hjob
        obtain ⟨before, after, hparts⟩ := List.append_of_mem hworker
        cases worker with
        | running current =>
          obtain ⟨result, hresult⟩ := haccounted.work_ok hok (mem_unfinished hparts)
          exact ⟨_, .put hparts hresult⟩
        | starting => cases hrunning
        | idle => cases hrunning
        | exited => cases hrunning

/-- Every move leaves less to do, so every interleaving comes to an end. -/
theorem Reachable.remaining_lt (hok : ∀ job ∈ jobs, ∃ result, work job = .ok result)
    (h : Reachable work n jobs pool) (hstep : Step work jobs.length pool pool') :
    pool'.remaining < pool.remaining := by
  have haccounted := h.accounted hok
  cases hstep with
  | start hworkers =>
    simp [Pool.remaining, hworkers, List.countP_cons, List.filterMap_cons]
    omega
  | submit _ _ hpending =>
    simp [Pool.remaining, hpending]
    omega
  | take hworkers hqueue =>
    simp [Pool.remaining, hworkers, hqueue, List.filterMap_cons]
    omega
  | put hworkers _ =>
    simp [Pool.remaining, hworkers, List.filterMap_cons]
    omega
  | fail hworkers herror =>
    obtain ⟨result, hresult⟩ := haccounted.work_ok hok (mem_unfinished hworkers)
    rw [hresult] at herror
    cases herror
  | receive _ hsent =>
    unfold Pool.remaining Pool.receive
    simp only [hsent]
    split <;> split <;> simp
  | notice _ hexited => exact absurd hexited haccounted.exited

theorem Reachable.trans (h : Reachable work n jobs pool)
    (hsteps : Relation.ReflTransGen (Step work jobs.length) pool pool') :
    Reachable work n jobs pool' := by
  induction hsteps with
  | refl => exact h
  | tail _ hstep ih => exact .next ih hstep

/-- From every state of every interleaving the owner comes to have all its results. -/
theorem Reachable.returns (hworkers : 0 < n) (hok : ∀ job ∈ jobs, ∃ result, work job = .ok result)
    (h : Reachable work n jobs pool) :
    ∃ pool', Relation.ReflTransGen (Step work jobs.length) pool pool' ∧
      pool'.Returned jobs.length := by
  induction hremaining : pool.remaining using Nat.strong_induction_on generalizing pool with
  | _ remaining ih =>
    by_cases hreturned : pool.Returned jobs.length
    · exact ⟨pool, .refl, hreturned⟩
    · obtain ⟨next, hstep⟩ := h.progress hworkers hok hreturned
      have hless := h.remaining_lt hok hstep
      rw [hremaining] at hless
      obtain ⟨last, hsteps, hlast⟩ := ih _ hless (.next h hstep) rfl
      exact ⟨last, .head hstep hsteps, hlast⟩

end WorkQueue
