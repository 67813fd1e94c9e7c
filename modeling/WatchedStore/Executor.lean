import WatchedStore.Backups
import WatchedStore.Hub
import WatchedStore.Job.Operation
import WatchedStore.Settings
import WatchedStore.Writer

/-! # The executor

An executor owns a store with its mailboxes, the backups and the file tree that receives them, and
executes the operations of jobs. What an operation prints goes to the writer of the job; faults of
single pairs are logged, so an operation fails only when its output or its backup does.
-/

namespace WatchedStore

open WatchedStore.Text

/-- The running parts of an instance. -/
structure Executor where
  settings : Settings
  hub : Hub
  backups : Backups
  writer : SnapshotWriter
  files : FileTree
deriving DecidableEq, Repr

/-- What executing one operation leaves behind. -/
structure Execution where
  result : Except Error Unit
  executor : Executor
  output : Writer
  warnings : List Warning

/-- The summary of the commands. -/
def helpText : String :=
  "Available commands:\n  WRITE [(key,value)(key2,value2),...]\n  READ [key,key2,...]\n" ++
    "  DELETE [key,key2,...]\n  SHOW\n  WAIT <delay_ms>\n  BACKUP\n  HELP\n"

/-- Keys in the order of their UTF-8 bytes, which is that of their code points. -/
def sortKeys (keys : List String) : List String := keys.mergeSort fun a b => decide (a ≤ b)

namespace Executor

/-- Starts an instance with an empty store: checks the settings, then creates the directory of the
backups. -/
def start (settings : Settings) (writer : SnapshotWriter) (files : FileTree) :
    Except Error Executor :=
  match settings.validate with
  | .error error => .error error
  | .ok () =>
    let directory := Path.ofText settings.backupDir
    match Backups.create directory settings.maxBackups with
    | .error error => .error error
    | .ok backups =>
      match files.createDirectories directory with
      | .error failure => .error (.start (.backupDirectory settings.backupDir failure))
      | .ok files => .ok ⟨settings, Hub.empty settings.subscriberLimit, backups, writer, files⟩

/-- Starts a backup for a job, after waiting for a slot if none is free. -/
def backup (executor : Executor) (job : String) : Ticket × Executor :=
  let (ticket, backups, files) :=
    executor.backups.request executor.hub.store job executor.writer executor.files
  (ticket, { executor with backups := backups, files := files })

/-- Waits until no backup is running. -/
def settle (executor : Executor) : Executor :=
  let (backups, files) := executor.backups.settle executor.writer executor.files
  { executor with backups := backups, files := files }

/-- Hands a text to the output of a job. -/
def emit (executor : Executor) (output : Writer) (warnings : List Warning) (text : String) :
    Execution :=
  let (result, output) := output.putText text
  ⟨result.mapError .io, executor, output, warnings⟩

/-- Executes one operation for a job. -/
def execute (executor : Executor) (job : String) (operation : Operation) (output : Writer) :
    Execution :=
  match operation with
  | .write pairs =>
    let reply := executor.hub.write pairs
    let refused := reply.answer.map fun rejection =>
      Warning.writeRefused job rejection.key rejection.error
    ⟨.ok (), { executor with hub := reply.hub }, output, reply.warnings ++ refused⟩
  | .read keys => executor.emit output [] (Report.reading (executor.hub.store.read (sortKeys keys)))
  | .delete keys =>
    let reply := executor.hub.delete keys
    { executor with hub := reply.hub }.emit output reply.warnings (Report.missing reply.answer)
  | .print => executor.emit output [] (Report.listing executor.hub.store.snapshot)
  | .wait milliseconds =>
    if milliseconds = 0 then ⟨.ok (), executor, output, []⟩
    else
      let (result, output) := output.putFlushed (encode "Waiting...\n")
      ⟨result.mapError .io, executor, output, []⟩
  | .backup => ⟨.ok (), (executor.backup job).2, output, []⟩
  | .help => executor.emit output [] helpText

end Executor

end WatchedStore
