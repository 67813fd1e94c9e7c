import WatchedStore.Daemon.Arguments
import WatchedStore.Job.Script
import WatchedStore.Session.Rendezvous

/-! # The daemon

The daemon starts an executor whose backups go to the directory of the jobs, listens for clients,
and runs the jobs that it finds there. Only a start that fails makes it fail: what a job comes to is
logged, and a directory that cannot be read counts as one without jobs. An order may ask it to go on
serving clients behind the jobs; the outcome is then the state at that moment.
-/

namespace WatchedStore.Daemon

open WatchedStore.Session

/-- What became of a job. -/
abbrev JobReport := JobFile × Except Error Summary

/-- What the daemon leaves behind. -/
structure Outcome where
  exitCode : Nat
  /-- Why it did not start, or why it found no jobs. -/
  complaint : Option Error
  reports : List JobReport
  files : FileTree

/-- The exit code for a start that failed. -/
def startFailed : Nat := 1

/-- The exit code for arguments that make no sense. -/
def usageFailed : Nat := 2

/-- The exit code for buffers that memory cannot hold. -/
def brokenOff : Nat := 101

/-- Runs the jobs of an executor to the end of their backups. -/
def runDirectory (executor : Executor) : Outcome :=
  match JobFile.discover executor.files (.ofText executor.settings.jobsDir) with
  | .error failure => ⟨0, some (.io failure), [], executor.files⟩
  | .ok jobs =>
    let (reports, executor) := executor.runJobs jobs
    ⟨0, none, reports, executor.settle.files⟩

/-- Starts the daemon, runs the jobs and stops it. -/
def run (host : Host) (order : Order) (files : FileTree) : Outcome :=
  match Executor.start order.settings .file files with
  | .error error => ⟨startFailed, some error, [], files⟩
  | .ok executor =>
    match Rendezvous.listen host order.settings executor.hub with
    | .error (.refused error) => ⟨startFailed, some error, [], executor.files⟩
    | .error .tooLarge => ⟨brokenOff, none, [], executor.files⟩
    | .ok _ => runDirectory executor

/-- Reads the arguments of the command line and does what they ask for. -/
def runArguments (host : Host) (arguments : List String) (files : FileTree) : Outcome :=
  match readArguments arguments with
  | .error _ => ⟨usageFailed, none, [], files⟩
  | .ok .showVersion => ⟨0, none, [], files⟩
  | .ok .showHelp => ⟨0, none, [], files⟩
  | .ok (.run order) => run host order files

end WatchedStore.Daemon
