import WatchedStore.Executor
import WatchedStore.Job.File
import WatchedStore.Job.Line
import WatchedStore.Text.Line

/-! # Running job scripts

A script runs line by line. A line that is no operation is logged and counted as failed, and so is
an operation that fails for a reason other than its input or output. A failing output ends the run
at once, and so does a line that is not text. At the end the output is flushed.
-/

namespace WatchedStore

open WatchedStore.Text

/-- The counts of a finished script. -/
structure Summary where
  /-- Operations that ran. -/
  executed : Nat
  /-- Lines that were no operation or whose operation failed. -/
  failed : Nat
deriving DecidableEq, Repr

/-- What running a script leaves behind. -/
structure ScriptRun where
  result : Except Error Summary
  executor : Executor
  output : Writer
  warnings : List Warning

namespace Executor

/-- Ends a script: the output is flushed. -/
def finishScript (executor : Executor) (summary : Summary) (output : Writer)
    (warnings : List Warning) : ScriptRun :=
  ⟨(output.flush.map fun _ => summary).mapError .io, executor, output, warnings⟩

/-- Runs the lines of a script from the one with the given number on. -/
def runLines (executor : Executor) (job : String) (number : Nat) (summary : Summary)
    (output : Writer) (warnings : List Warning) : List Bytes → ScriptRun
  | [] => executor.finishScript summary output warnings
  | bytes :: rest =>
    match decode? bytes with
    | none => ⟨.error (.io .notText), executor, output, warnings⟩
    | some line =>
      match Job.parseLine number line with
      | .ok none => runLines executor job (number + 1) summary output warnings rest
      | .error error =>
        runLines executor job (number + 1) { summary with failed := summary.failed + 1 } output
          (warnings ++ [.lineRefused job error]) rest
      | .ok (some operation) =>
        let execution := executor.execute job operation output
        let warnings := warnings ++ execution.warnings
        match execution.result with
        | .ok () =>
          runLines execution.executor job (number + 1)
            { summary with executed := summary.executed + 1 } execution.output warnings rest
        | .error (.io failure) =>
          ⟨.error (.io failure), execution.executor, execution.output, warnings⟩
        | .error error =>
          runLines execution.executor job (number + 1)
            { summary with failed := summary.failed + 1 } execution.output
            (warnings ++ [.lineFailed job number error]) rest

/-- Runs a script for a job. -/
def runScript (executor : Executor) (job : String) (script : Bytes) (output : Writer) : ScriptRun :=
  executor.runLines job 1 ⟨0, 0⟩ output [] (lines script)

/-- Runs a job: reads its script, and puts what it prints in its output file. -/
def runJob (executor : Executor) (job : JobFile) : Except Error Summary × Executor :=
  match executor.files.read job.input with
  | .error failure => (.error (.io failure), executor)
  | .ok script =>
    match executor.files.write job.output [] with
    | .error failure => (.error (.io failure), executor)
    | .ok files =>
      let run := { executor with files := files }.runScript job.name script .unlimited
      match run.executor.files.write job.output run.output.written with
      | .error failure => (.error (.io failure), run.executor)
      | .ok files => (run.result, { run.executor with files := files })

/-- Runs jobs one after the other and reports on each. -/
def runJobs (executor : Executor) : List JobFile → List (JobFile × Except Error Summary) × Executor
  | [] => ([], executor)
  | job :: rest =>
    let (result, executor) := executor.runJob job
    let (reports, executor) := runJobs executor rest
    ((job, result) :: reports, executor)

end Executor

end WatchedStore
