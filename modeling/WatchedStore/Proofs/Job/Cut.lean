import WatchedStore.Job.Script
import WatchedStore.Proofs.Job.Pieces

/-! # Scripts whose output is full

An output that takes a number of bytes and then nothing more cuts what a script prints to its first
bytes. The script ends with the operation whose text does not fit, which has done its work by then.
Where everything fits, nothing tells the run from one with an output without a limit.
-/

namespace WatchedStore

open WatchedStore.Text

/-- The operations that lines spell, up to the first line that is not text. -/
def Job.operations (number : Nat) : List Bytes → List Operation
  | [] => []
  | bytes :: rest =>
    match decode? bytes with
    | none => []
    | some line =>
      match parseLine number line with
      | .ok (some operation) => operation :: operations (number + 1) rest
      | .ok none => operations (number + 1) rest
      | .error _ => operations (number + 1) rest

namespace Executor

variable {output : Writer} {job : String}

/-- A line ends the script, or it is passed over, or it spells an operation that runs and ends the
script if its text does not fit. What comes next then does not depend on the output. -/
theorem runLines_cons (executor : Executor) (job : String) (number : Nat) (summary : Summary)
    (warnings : List Warning) (bytes : Bytes) (rest : List Bytes) :
    (Job.operations number (bytes :: rest) = [] ∧
      ∀ output, executor.runLines job number summary output warnings (bytes :: rest) =
        ⟨.error (.io .notText), executor, output, warnings⟩) ∨
    (Job.operations number (bytes :: rest) = Job.operations (number + 1) rest ∧
      ∃ next logged, ∀ output,
        executor.runLines job number summary output warnings (bytes :: rest) =
          executor.runLines job (number + 1) next output logged rest) ∨
    ∃ operation next logged,
      Job.operations number (bytes :: rest) = operation :: Job.operations (number + 1) rest ∧
      ∀ output : Writer, output.flushFails = false →
        executor.runLines job number summary output warnings (bytes :: rest) =
          match output.put (executor.prints job operation) with
          | (.error failure, after) =>
            ⟨.error (.io failure), executor.perform job operation, after, logged⟩
          | (.ok (), after) =>
            (executor.perform job operation).runLines job (number + 1) next after logged rest := by
  cases text : decode? bytes with
  | none =>
    refine .inl ⟨by simp only [Job.operations, text], fun output => ?_⟩
    simp only [runLines, text]
  | some line =>
    cases parsed : Job.parseLine number line with
    | error error =>
      refine .inr (.inl ⟨by simp only [Job.operations, text, parsed],
        { summary with failed := summary.failed + 1 }, warnings ++ [.lineRefused job error],
        fun output => ?_⟩)
      simp only [runLines, text, parsed]
    | ok spelled =>
      cases spelled with
      | none =>
        refine .inr (.inl ⟨by simp only [Job.operations, text, parsed], summary, warnings,
          fun output => ?_⟩)
        simp only [runLines, text, parsed]
      | some operation =>
        refine .inr (.inr ⟨operation, { summary with executed := summary.executed + 1 },
          warnings ++ (executor.execute job operation .unlimited).warnings,
          by simp only [Job.operations, text, parsed], fun output flushes => ?_⟩)
        simp only [runLines, text, parsed]
        rw [execute_eq_put executor job operation flushes]
        rcases output.put (executor.prints job operation) with ⟨_ | _, after⟩
        · rfl
        · rfl

/-- Where an output takes all that a script prints, the result and what is logged do not depend on
the output. -/
theorem runLines_of_fits (executor : Executor) (job : String) (number : Nat) (summary : Summary)
    (warnings : List Warning) (script : List Bytes) :
    ∃ result logged, ∀ output : Writer, output.flushFails = false →
      (output.put (executor.printsAll job (Job.operations number script))).1 = .ok () →
      executor.runLines job number summary output warnings script =
        ⟨result, executor.performAll job (Job.operations number script),
          (output.put (executor.printsAll job (Job.operations number script))).2, logged⟩ := by
  induction script generalizing executor number summary warnings with
  | nil =>
    refine ⟨.ok summary, warnings, fun output flushes _ => ?_⟩
    simp only [runLines, finishScript, Writer.flush, flushes, Job.operations, printsAll,
      Writer.put_nil]
    rfl
  | cons bytes rest ih =>
    rcases executor.runLines_cons job number summary warnings bytes rest with
      ⟨spelled, ends⟩ | ⟨spelled, next, logged, passes⟩ | ⟨operation, next, logged, spelled, runs⟩
    · refine ⟨.error (.io .notText), warnings, fun output _ _ => ?_⟩
      rw [ends, spelled, printsAll, Writer.put_nil]
      rfl
    · obtain ⟨result, later, same⟩ := ih executor (number + 1) next logged
      refine ⟨result, later, fun output flushes fits => ?_⟩
      rw [spelled] at fits ⊢
      rw [passes]
      exact same output flushes fits
    · obtain ⟨result, later, same⟩ := ih (executor.perform job operation) (number + 1) next logged
      refine ⟨result, later, fun output flushes fits => ?_⟩
      have flushesThen : (output.put (executor.prints job operation)).2.flushFails = false :=
        (Writer.flushFails_put ..).trans flushes
      rw [spelled, printsAll, Writer.put_append] at fits ⊢
      rw [runs output flushes]
      generalize output.put (executor.prints job operation) = taken at fits flushesThen ⊢
      obtain ⟨_ | _, after⟩ := taken
      · cases fits
      · exact same after flushesThen fits

/-- Where an output does not take all that a script prints, the script ends with the first operation
whose text does not fit, and that operation has done its work. -/
theorem runLines_of_full (executor : Executor) (number : Nat) (summary : Summary)
    (warnings : List Warning) (script : List Bytes) (flushes : output.flushFails = false)
    {failure : IoFailure}
    (full : (output.put (executor.printsAll job (Job.operations number script))).1 =
      .error failure) :
    let operations := Job.operations number script
    let run := executor.runLines job number summary output warnings script
    run.result = .error (.io failure) ∧
      run.output = (output.put (executor.printsAll job operations)).2 ∧
      ∃ before operation later, operations = before ++ operation :: later ∧
        (output.put (executor.printsAll job before)).1 = .ok () ∧
        (output.put (executor.printsAll job (before ++ [operation]))).1 = .error failure ∧
        run.executor = executor.performAll job (before ++ [operation]) := by
  induction script generalizing executor number summary warnings output with
  | nil =>
    rw [Job.operations, printsAll, Writer.put_nil] at full
    cases full
  | cons bytes rest ih =>
    dsimp only at ih ⊢
    rcases executor.runLines_cons job number summary warnings bytes rest with
      ⟨spelled, ends⟩ | ⟨spelled, next, logged, passes⟩ | ⟨operation, next, logged, spelled, runs⟩
    · rw [spelled, printsAll, Writer.put_nil] at full
      cases full
    · rw [spelled] at full ⊢
      rw [passes]
      exact ih executor (number + 1) next logged flushes full
    · have flushesThen : (output.put (executor.prints job operation)).2.flushFails = false :=
        (Writer.flushFails_put ..).trans flushes
      rw [spelled, printsAll, Writer.put_append] at full ⊢
      rw [runs output flushes]
      cases taken : output.put (executor.prints job operation) with
      | mk result after =>
        rw [taken] at full flushesThen
        cases result with
        | error refused =>
          cases full
          refine ⟨rfl, rfl, [], operation, _, rfl, ?_, ?_, rfl⟩
          · rw [printsAll, Writer.put_nil]
          · rw [List.nil_append, printsAll, Writer.put_append, taken]
        | ok _ =>
          obtain ⟨ended, written, before, last, later, split, fits, fails, left⟩ :=
            ih (executor.perform job operation) (number + 1) next logged flushesThen full
          refine ⟨ended, written, operation :: before, last, later, ?_, ?_, ?_, left⟩
          · exact congrArg (operation :: ·) split
          · rw [printsAll, Writer.put_append, taken]
            exact fits
          · rw [List.cons_append, printsAll, Writer.put_append, taken]
            exact fails

/-- A script prints on an output that takes `room` bytes and then fails, in either way, the first
`room` bytes of what it prints on one without a limit. If these are all, both runs end alike and
leave the same behind. If not, the script fails with the failure of the output, and what it leaves
behind is what its operations do up to and including the first one whose text goes past these
bytes. -/
theorem runScript_cut (executor : Executor) (job : String) (script : Bytes) (room : Nat)
    (stalls : Bool) :
    let output : Writer := ⟨some room, stalls, false, []⟩
    let whole := executor.runScript job script .unlimited
    let cut := executor.runScript job script output
    let operations := Job.operations 1 (lines script)
    (whole.output.written = executor.printsAll job operations ∧
      whole.executor = executor.performAll job operations) ∧
    cut.output.written = whole.output.written.take room ∧
    (whole.output.written.length ≤ room →
      cut.result = whole.result ∧ cut.executor = whole.executor ∧ cut.warnings = whole.warnings) ∧
    (room < whole.output.written.length →
      cut.result = .error (.io output.fullFailure) ∧
      ∃ before operation later, operations = before ++ operation :: later ∧
        (executor.printsAll job before).length ≤ room ∧
        room < (executor.printsAll job (before ++ [operation])).length ∧
        cut.executor = executor.performAll job (before ++ [operation])) := by
  intro output whole cut operations
  obtain ⟨result, logged, same⟩ := executor.runLines_of_fits job 1 ⟨0, 0⟩ [] (lines script)
  have unlimited : whole = _ := same .unlimited rfl rfl
  have printed : whole.output.written = executor.printsAll job operations := by
    rw [unlimited]
    rfl
  have takes : ∀ bytes : Bytes, (output.put bytes).1 = .ok () ↔ bytes.length ≤ room := by
    intro bytes
    change (if bytes.length ≤ room then Except.ok () else .error output.fullFailure) = _ ↔ _
    split <;> simp_all
  have fails : ∀ bytes : Bytes,
      (output.put bytes).1 = .error output.fullFailure ↔ room < bytes.length := by
    intro bytes
    change (if bytes.length ≤ room then Except.ok () else .error output.fullFailure) = _ ↔ _
    split <;> simp_all
  rw [printed]
  refine ⟨⟨rfl, by rw [unlimited]⟩, ?_, ?_, ?_⟩
  · rcases Nat.lt_or_ge room (executor.printsAll job operations).length with longer | short
    · obtain ⟨-, written, -⟩ :=
        executor.runLines_of_full 1 ⟨0, 0⟩ [] (lines script) rfl ((fails _).mpr longer)
      exact congrArg Writer.written written
    · have fitting : cut = _ := same output rfl ((takes _).mpr short)
      rw [fitting]
      rfl
  · intro short
    have fitting : cut = _ := same output rfl ((takes _).mpr short)
    rw [fitting, unlimited]
    exact ⟨rfl, rfl, rfl⟩
  · intro longer
    obtain ⟨ended, -, before, operation, later, split, fits, past, left⟩ :=
      executor.runLines_of_full 1 ⟨0, 0⟩ [] (lines script) rfl ((fails _).mpr longer)
    exact ⟨ended, before, operation, later, split, (takes _).mp fits, (fails _).mp past, left⟩

/-- A report of which nothing but the bracket fits: the key is deleted, and the next line is not
run. -/
example :
    let held := ((Hub.empty 1).write [("a", "1")]).hub
    let executor : Executor :=
      ⟨.standard, held, ⟨Path.ofText "./jobs", 2, 0, 0, [], []⟩, .file, FileTree.empty⟩
    let script := encode "DELETE [a,b]\nWRITE [(c,1)]"
    let cut := executor.runScript "job" script ⟨some 1, true, false, []⟩
    cut.output.written = encode "[" ∧ cut.executor.hub.store.snapshot = [] := by
  decide +kernel

end Executor

end WatchedStore
