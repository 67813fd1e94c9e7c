import WatchedStore.Job.Script
import WatchedStore.Proofs.Store.Run

/-! # What scripts do to the store

A script changes the store through the operations that its lines spell and in no other way: neither
its output nor the backups have a part in it. What every such operation keeps is kept by a script
however it ends, and by any number of scripts run one after the other.
-/

namespace WatchedStore

open WatchedStore.Text

/-- The calls by which an operation changes the store. -/
def Operation.edits : Operation → List Call
  | write pairs => [.write pairs]
  | delete keys => [.delete keys]
  | read _ | print | wait _ | backup | help => []

/-- Some line spells the operation. -/
def Operation.IsSpelled (operation : Operation) : Prop :=
  ∃ number line, Job.parseLine number line = .ok (some operation)

namespace Executor

variable {executor : Executor}

/-- The store after an operation is the one after its edits. -/
theorem hub_execute (executor : Executor) (job : String) (operation : Operation) (output : Writer) :
    (executor.execute job operation output).executor.hub = executor.hub.after operation.edits := by
  cases operation with
  | wait milliseconds =>
    unfold execute
    dsimp only
    split <;> rfl
  | write | delete | read | print | backup | help => rfl

/-- No operation changes how snapshots are written. -/
theorem writer_execute (executor : Executor) (job : String) (operation : Operation)
    (output : Writer) :
    (executor.execute job operation output).executor.writer = executor.writer := by
  cases operation with
  | wait milliseconds =>
    unfold execute
    dsimp only
    split <;> rfl
  | write | delete | read | print | backup | help => rfl

/-- What every operation that a line spells keeps, a script keeps, wherever it ends. -/
theorem runLines_keeps {motive : Executor → Prop} {job : String}
    (keeps : ∀ (executor : Executor) (operation : Operation) (output : Writer),
      operation.IsSpelled → motive executor →
      motive (executor.execute job operation output).executor)
    (start : motive executor) (number : Nat) (summary : Summary) (output : Writer)
    (warnings : List Warning) (script : List Bytes) :
    motive (executor.runLines job number summary output warnings script).executor := by
  induction script generalizing executor number summary output warnings with
  | nil => exact start
  | cons bytes rest ih =>
    rw [runLines]
    cases decode? bytes with
    | none => exact start
    | some line =>
      dsimp only
      cases parsed : Job.parseLine number line with
      | error error => exact ih start _ _ _ _
      | ok result =>
        cases result with
        | none => exact ih start _ _ _ _
        | some operation =>
          have kept := keeps executor operation output ⟨number, line, parsed⟩ start
          dsimp only
          split
          · exact ih kept _ _ _ _
          · exact kept
          · exact ih kept _ _ _ _

/-- An executor after scripts that ran one after the other, each for its job and with an output of
its own. -/
def afterScripts (executor : Executor) (scripts : List (String × Bytes × Writer)) : Executor :=
  scripts.foldl (fun executor script => (executor.runScript script.1 script.2.1 script.2.2).executor)
    executor

/-- A later executor that differs in its store by operations that lines spell. -/
structure Leads (executor later : Executor) : Prop where
  writer : later.writer = executor.writer
  edited : ∃ operations : List Operation, (∀ operation ∈ operations, operation.IsSpelled) ∧
    later.hub = executor.hub.after (operations.flatMap Operation.edits)

theorem Leads.execute {later : Executor} (leads : executor.Leads later) (job : String)
    {operation : Operation} (spelled : operation.IsSpelled) (output : Writer) :
    executor.Leads (later.execute job operation output).executor where
  writer := (writer_execute later job operation output).trans leads.writer
  edited := by
    obtain ⟨operations, all, hub⟩ := leads.edited
    refine ⟨operations ++ [operation], ?_, ?_⟩
    · intro other member
      rcases List.mem_append.mp member with member | member
      · exact all other member
      · exact List.mem_singleton.mp member ▸ spelled
    · rw [hub_execute, hub, List.flatMap_append, List.flatMap_singleton, Hub.after, Hub.after,
        Hub.after, List.foldl_append]

/-- Scripts lead on, whatever their lines hold and however their outputs fail. -/
theorem leads_afterScripts (executor : Executor) (scripts : List (String × Bytes × Writer)) :
    executor.Leads (executor.afterScripts scripts) := by
  have start : executor.Leads executor := ⟨rfl, [], fun _ none => absurd none List.not_mem_nil, rfl⟩
  unfold afterScripts
  refine List.foldlRecOn scripts _ start fun later leads script _ => ?_
  exact runLines_keeps (fun current operation output spelled leads =>
    leads.execute script.1 spelled output) leads 1 _ _ _ _

end Executor

end WatchedStore
