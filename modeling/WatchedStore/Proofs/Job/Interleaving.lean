import Mathlib.Logic.Pairwise
import WatchedStore.Proofs.Job.Scripts
import WatchedStore.Proofs.Store.Held

/-! # Jobs on keys of their own

Any number of jobs execute their operations on one executor, one operation at a time and in any
order that keeps the order inside each job; which workers do it, and how many they are, shows in
that order and nowhere else. What an operation prints and how it ends depends on what its own keys
hold, so jobs that name no key in common do not notice each other. What showing prints depends on
all keys, so no job shows the store. Nothing is said about what is logged, nor about the
subscribers, who may follow the keys of several jobs.
-/

namespace WatchedStore

open WatchedStore.Text

/-- The keys that an operation names, valid or not. -/
def Operation.keys : Operation → List String
  | write pairs => pairs.map Prod.fst
  | read keys => keys
  | delete keys => keys
  | print | wait _ | backup | help => []

/-- The keys that a job names. -/
def Job.keys (operations : List Operation) : List String := operations.flatMap Operation.keys

/-- What an operation leaves under a key that held these values. -/
def Operation.leaves : Operation → String → List String → List String
  | write pairs, key, held =>
    let own := (goodPairs pairs).filter fun pair => pair.1 = key
    own.foldl (fun held pair => fill pair.2 held) held
  | delete keys, key, held => held.drop (keys.count key)
  | read _, _, held | print, _, held | wait _, _, held | backup, _, held | help, _, held => held

/-- A key that an operation does not name is left alone. -/
theorem Operation.leaves_of_not_mem {operation : Operation} {key : String}
    (absent : key ∉ operation.keys) (held : List String) : operation.leaves key held = held := by
  cases operation with
  | write pairs =>
    have unnamed : (goodPairs pairs).filter (fun pair => pair.1 = key) = [] := by
      refine List.filter_eq_nil_iff.mpr fun pair member same => absent ?_
      exact List.mem_map.mpr ⟨pair, List.mem_of_mem_filter member, of_decide_eq_true same⟩
    simp only [leaves, unnamed, List.foldl_nil]
  | delete keys =>
    have unnamed : keys.count key = 0 := List.count_eq_zero.mpr absent
    rw [leaves, unnamed, List.drop_zero]
  | read | print | wait | backup | help => rfl

namespace Executor

theorem held_execute (executor : Executor) (job : String) (operation : Operation) (output : Writer)
    (key : String) :
    (executor.execute job operation output).executor.hub.store.held key =
      operation.leaves key (executor.hub.store.held key) := by
  rw [hub_execute]
  cases operation with
  | write pairs => exact executor.hub.held_write pairs key
  | delete keys => exact executor.hub.held_delete keys key
  | read | print | wait | backup | help => rfl

/-- What an operation other than showing prints, and how it ends, depends on what its keys hold. -/
theorem execute_congr {first second : Executor} {operation : Operation}
    (silent : operation ≠ .print)
    (same : ∀ key ∈ operation.keys, first.hub.store.held key = second.hub.store.held key)
    (job : String) (output : Writer) :
    (first.execute job operation output).result = (second.execute job operation output).result ∧
      (first.execute job operation output).output =
        (second.execute job operation output).output := by
  cases operation with
  | print => exact absurd rfl silent
  | read keys =>
    have values : first.hub.store.read (sortKeys keys) = second.hub.store.read (sortKeys keys) := by
      refine List.map_congr_left fun key member => ?_
      have named : key ∈ keys := List.mem_mergeSort.mp member
      rw [← Store.head?_held, ← Store.head?_held, same key named]
    simp only [execute, emit, values, and_self]
  | delete keys =>
    have answers : (first.hub.delete keys).answer = (second.hub.delete keys).answer :=
      Hub.answer_delete_congr same
    simp only [execute, emit, answers, and_self]
  | wait milliseconds =>
    unfold execute
    dsimp only
    split <;> exact ⟨rfl, rfl⟩
  | write | backup | help => exact ⟨rfl, rfl⟩

end Executor

/-- Jobs under way on one executor, each with its output and with the results of the operations that
it has executed. -/
structure JobRuns (ι : Type) where
  executor : Executor
  output : ι → Writer
  results : ι → List (Except Error Unit)

/-- Events of jobs, in an order that keeps the order inside each job. -/
def Interleaves {ι : Type} [DecidableEq ι] (events : List (ι × Operation))
    (jobs : ι → List Operation) : Prop :=
  ∀ job, (events.filter fun event => event.1 = job).map Prod.snd = jobs job

namespace JobRuns

variable {ι : Type} [DecidableEq ι] (name : ι → String)

/-- No job has executed anything. -/
def start (executor : Executor) (output : ι → Writer) : JobRuns ι := ⟨executor, output, fun _ => []⟩

/-- A job executes an operation. -/
def step (runs : JobRuns ι) (event : ι × Operation) : JobRuns ι :=
  let done := runs.executor.execute (name event.1) event.2 (runs.output event.1)
  { executor := done.executor
    output := Function.update runs.output event.1 done.output
    results := Function.update runs.results event.1 (runs.results event.1 ++ [done.result]) }

/-- The jobs after a run of such steps. -/
def after (runs : JobRuns ι) (events : List (ι × Operation)) : JobRuns ι :=
  events.foldl (step name) runs

/-- To a job two runs look alike if its output and its results are the same, and what its keys
hold. -/
structure Alike (job : ι) (keys : List String) (one other : JobRuns ι) : Prop where
  output : one.output job = other.output job
  results : one.results job = other.results job
  held : ∀ key ∈ keys, one.executor.hub.store.held key = other.executor.hub.store.held key

variable {name} {job : ι} {keys : List String} {one other : JobRuns ι}

/-- What runs look like to a job stays alike when the job executes an operation in both. -/
theorem Alike.step_both (alike : Alike job keys one other) {operation : Operation}
    (silent : operation ≠ .print) (own : ∀ key ∈ operation.keys, key ∈ keys) :
    Alike job keys (one.step name (job, operation)) (other.step name (job, operation)) := by
  obtain ⟨result, output⟩ := Executor.execute_congr silent
    (fun key named => alike.held key (own key named)) (name job) (other.output job)
  constructor
  case output => simp only [step, Function.update_self, alike.output, output]
  case results => simp only [step, Function.update_self, alike.output, alike.results, result]
  case held =>
    intro key member
    simp only [step, Executor.held_execute, alike.held key member]

/-- They stay alike when another job executes an operation in one of them. -/
theorem Alike.step_one (alike : Alike job keys one other) {event : ι × Operation}
    (foreign : event.1 ≠ job) (apart : ∀ key ∈ keys, key ∉ event.2.keys) :
    Alike job keys (one.step name event) other := by
  constructor
  case output => simp only [step, Function.update_of_ne (Ne.symm foreign), alike.output]
  case results => simp only [step, Function.update_of_ne (Ne.symm foreign), alike.results]
  case held =>
    intro key member
    simp only [step, Executor.held_execute, Operation.leaves_of_not_mem (apart key member),
      alike.held key member]

/-- To a job a run looks like the run of its own operations alone. -/
theorem Alike.after (alike : Alike job keys one other) {events : List (ι × Operation)}
    (own : ∀ event ∈ events, event.1 = job →
      event.2 ≠ .print ∧ ∀ key ∈ event.2.keys, key ∈ keys)
    (apart : ∀ event ∈ events, event.1 ≠ job → ∀ key ∈ keys, key ∉ event.2.keys) :
    Alike job keys (one.after name events)
      (other.after name (events.filter fun event => event.1 = job)) := by
  induction events generalizing one other with
  | nil => exact alike
  | cons event rest ih =>
    have ownRest := fun later (member : later ∈ rest) => own later (List.mem_cons_of_mem _ member)
    have apartRest := fun later (member : later ∈ rest) =>
      apart later (List.mem_cons_of_mem _ member)
    by_cases here : event.1 = job
    · obtain ⟨silent, named⟩ := own event List.mem_cons_self here
      subst here
      rw [List.filter_cons_of_pos (by simp)]
      exact ih (alike.step_both silent named) ownRest apartRest
    · rw [List.filter_cons_of_neg (by simpa using here)]
      exact ih (alike.step_one here (apart event List.mem_cons_self here)) ownRest apartRest

/-- What a key holds that no operation names stays as it is. -/
theorem held_after {key : String} (runs : JobRuns ι) {events : List (ι × Operation)}
    (unnamed : ∀ event ∈ events, key ∉ event.2.keys) :
    (runs.after name events).executor.hub.store.held key = runs.executor.hub.store.held key := by
  induction events generalizing runs with
  | nil => rfl
  | cons event rest ih =>
    have first : (runs.step name event).executor.hub.store.held key =
        runs.executor.hub.store.held key := by
      simp only [step, Executor.held_execute,
        Operation.leaves_of_not_mem (unnamed event List.mem_cons_self)]
    exact (ih _ fun later member => unnamed later (List.mem_cons_of_mem _ member)).trans first

end JobRuns

section Interleaved

variable {ι : Type} [DecidableEq ι] {jobs : ι → List Operation} {events : List (ι × Operation)}

theorem Interleaves.mem (interleaved : Interleaves events jobs) {event : ι × Operation}
    (member : event ∈ events) : event.2 ∈ jobs event.1 := by
  rw [← interleaved event.1]
  exact List.mem_map_of_mem (List.mem_filter.mpr ⟨member, decide_eq_true rfl⟩)

/-- The events of one job are its operations. -/
theorem Interleaves.filter_eq (interleaved : Interleaves events jobs) (job : ι) :
    (events.filter fun event => event.1 = job) =
      (jobs job).map fun operation => (job, operation) := by
  rw [← interleaved job, List.map_map]
  refine (List.map_id _).symm.trans (List.map_congr_left fun event member => ?_)
  have same : event.1 = job := of_decide_eq_true (List.mem_filter.mp member).2
  exact Prod.ext same rfl

end Interleaved

namespace JobRuns

variable {ι : Type} [DecidableEq ι]

/-- To each job a run in which the jobs name no key in common looks like its own run alone. -/
theorem alike_alone {jobs : ι → List Operation} (silent : ∀ job, .print ∉ jobs job)
    (disjoint : Pairwise fun one other => (Job.keys (jobs one)).Disjoint (Job.keys (jobs other)))
    {events : List (ι × Operation)} (interleaved : Interleaves events jobs) (runs : JobRuns ι)
    (name : ι → String) (job : ι) :
    Alike job (Job.keys (jobs job)) (runs.after name events)
      (runs.after name ((jobs job).map fun operation => (job, operation))) := by
  have same : Alike job (Job.keys (jobs job)) runs runs := ⟨rfl, rfl, fun _ _ => rfl⟩
  rw [← interleaved.filter_eq job]
  apply same.after
  · rintro event member rfl
    have own := interleaved.mem member
    exact ⟨fun shows => silent event.1 (shows ▸ own),
      fun key named => List.mem_flatMap.mpr ⟨event.2, own, named⟩⟩
  · intro event member foreign key here named
    exact disjoint foreign (List.mem_flatMap.mpr ⟨event.2, interleaved.mem member, named⟩) here

/-- Jobs none of which shows the store and which name no key in common, in any order of their
operations, from any store and with any outputs: what each of them prints, how each of its
operations ends and what its keys have for values in the end is as if it had been alone. A key that
none of them names keeps its value. So the order of the operations of different jobs changes no
output and no result. -/
theorem after_of_disjoint (executor : Executor) (output : ι → Writer) (name : ι → String)
    (jobs : ι → List Operation) (silent : ∀ job, .print ∉ jobs job)
    (disjoint : Pairwise fun one other => (Job.keys (jobs one)).Disjoint (Job.keys (jobs other)))
    {events : List (ι × Operation)} (interleaved : Interleaves events jobs) :
    let fresh := start executor output
    let runs := fresh.after name events
    (∀ job,
      let alone := fresh.after name ((jobs job).map fun operation => (job, operation))
      runs.output job = alone.output job ∧ runs.results job = alone.results job ∧
        ∀ key ∈ Job.keys (jobs job),
          runs.executor.hub.store.value? key = alone.executor.hub.store.value? key) ∧
    (∀ key, (∀ job, key ∉ Job.keys (jobs job)) →
      runs.executor.hub.store.value? key = executor.hub.store.value? key) ∧
    ∀ others, Interleaves others jobs → ∀ job,
      (fresh.after name others).output job = runs.output job ∧
        (fresh.after name others).results job = runs.results job := by
  intro fresh runs
  have alike := fun job => alike_alone silent disjoint interleaved fresh name job
  refine ⟨fun job => ⟨(alike job).output, (alike job).results, fun key member => ?_⟩, ?_, ?_⟩
  · rw [← Store.head?_held, (alike job).held key member, Store.head?_held]
  · intro key unnamed
    have kept : runs.executor.hub.store.held key = executor.hub.store.held key := by
      refine held_after fresh fun event member named => unnamed event.1 ?_
      exact List.mem_flatMap.mpr ⟨event.2, interleaved.mem member, named⟩
    rw [← Store.head?_held, kept, Store.head?_held]
  · intro others reordered job
    have again := alike_alone silent disjoint reordered fresh name job
    exact ⟨again.output.trans (alike job).output.symm,
      again.results.trans (alike job).results.symm⟩

/-- Two jobs whose keys share a bucket, with a repeated key, a key that is none and a backup. -/
theorem after_of_disjoint_in_one_bucket :
    let held := ((Hub.empty 1).write [("a3", "old"), ("a4", "kept")]).hub
    let executor : Executor :=
      ⟨.standard, held, ⟨Path.ofText "./jobs", 2, 0, 0, [], []⟩, .file, FileTree.empty⟩
    let jobs : Fin 2 → List Operation := fun
      | 0 => [.write [("a1", "1"), ("_", "x"), ("a1", "2")], .read ["a3", "a1", "_"]]
      | 1 => [.write [("a2", "5")], .backup, .delete ["a2", "A1", "a2"]]
    let events : List (Fin 2 × Operation) :=
      [(1, .write [("a2", "5")]), (0, .write [("a1", "1"), ("_", "x"), ("a1", "2")]), (1, .backup),
        (1, .delete ["a2", "A1", "a2"]), (0, .read ["a3", "a1", "_"])]
    let fresh := start executor fun _ => .unlimited
    let runs := fresh.after (fun _ => "job") events
    let alone := fresh.after (fun _ => "job") ((jobs 0).map fun operation => (0, operation))
    (runs.output 1).written = encode "[(A1,KVSMISSING)(a2,KVSMISSING)]\n" ∧
      runs.output 0 = alone.output 0 ∧ runs.executor.hub.store.value? "a1" = some "2" ∧
      runs.executor.hub.store.value? "a4" = some "kept" := by
  intro held executor jobs events fresh runs alone
  have silent : ∀ job, .print ∉ jobs job := by decide +kernel
  have apart : ∀ one other, one ≠ other → ∀ key ∈ Job.keys (jobs one),
      key ∉ Job.keys (jobs other) := by
    decide +kernel
  have disjoint : Pairwise fun one other =>
      (Job.keys (jobs one)).Disjoint (Job.keys (jobs other)) :=
    fun one other different key named => apart one other different key named
  have interleaved : Interleaves events jobs := by
    unfold Interleaves
    decide +kernel
  obtain ⟨same, unnamed, -⟩ := after_of_disjoint executor (fun _ => .unlimited) (fun _ => "job")
    jobs silent disjoint interleaved
  obtain ⟨printed, -, values⟩ := same 0
  have named : "a1" ∈ Job.keys (jobs 0) := by decide +kernel
  have free : ∀ job, "a4" ∉ Job.keys (jobs job) := by decide +kernel
  have left : alone.executor.hub.store.value? "a1" = some "2" := by decide +kernel
  have before : executor.hub.store.value? "a4" = some "kept" := by decide +kernel
  have missing : (runs.output 1).written = encode "[(A1,KVSMISSING)(a2,KVSMISSING)]\n" := by
    decide +kernel
  simp only [fresh, runs, alone] at left missing ⊢
  exact ⟨missing, printed, (values "a1" named).trans left, (unnamed "a4" free).trans before⟩

end JobRuns

end WatchedStore
