import WatchedStore.Daemon.Run
import WatchedStore.Shell

/-! # The command line

Two programs that work on the standard streams. With `shell` as the first argument, a client shell
runs its commands from standard input against a server in the same process, whose store holds the
pairs of a list such as `[(a,1)(b,2)]`. Otherwise the arguments are those of the daemon, and
standard input is the script of its only job; what the job prints and backs up goes to standard
output.
-/

namespace WatchedStore.CommandLine

open WatchedStore.Session WatchedStore.Text WatchedStore.Wire

/-- The name and number of this program. -/
def version : String := "watched-store 1.0.0"

/-- How to call the program. -/
def usage : String :=
  "usage: watched-store DIRECTORY [MAX_THREADS] [MAX_BACKUPS] [OPTION ...]\n" ++
  "       watched-store shell [LIST]\n\n" ++
  "  -l, --listen ADDRESS         where clients announce themselves\n" ++
  "  -w, --session-workers N      sessions served at the same time\n" ++
  "  -b, --session-buffer N       sessions that may wait\n" ++
  "      --subscriber-limit N     subscribers of a key\n" ++
  "      --exit-after-jobs        stop when the jobs are done\n" ++
  "  -V, --version                print the version\n" ++
  "  -h, --help                   print this text"

/-- A service of this machine. -/
def ownAddress (service : Nat) : String := s!"127.0.0.1:{service}"

/-- The channels of the shell. -/
def channels : ConnectRequest := ⟨ownAddress 7001, ownAddress 7002, ownAddress 7003⟩

/-- A machine on which the server and the shell listen. -/
def machine (address : String) : Host :=
  .loopback ([address, channels.request, channels.response, channels.notification].filterMap
    SocketAddress.parse?)

/-- The store with the pairs of a list. -/
def storeOf (list : String) : Except LineFault Hub :=
  (Job.parsePairs list.toList).map fun pairs =>
    ((Hub.empty Settings.standard.subscriberLimit).write pairs).hub

/-- What the shell prints for a list of pairs and its input. -/
def runShell (hub : Hub) (input : Bytes) :
    Except Session.ListenFailure Shell.Transcript :=
  let host := machine Settings.standard.listenAddr
  (Rendezvous.listen host Settings.standard hub).map fun rendezvous =>
    (Shell.run host rendezvous Settings.standard.listenAddr channels input).1

/-- A directory with one script. -/
def treeOf (directory : String) (script : Bytes) : FileTree :=
  let path := Path.ofText directory
  let made := (FileTree.empty.createDirectories path).toOption.getD .empty
  (made.write (path.join (.ofText "stdin.job")) script).toOption.getD made

/-- The files that a run leaves beside the script, each with its path. -/
def resultsOf (directory : String) (files : FileTree) : List (String × Bytes) :=
  (files.filesBelow (Path.ofText directory)).filterMap fun (path, content) =>
    if path.extension? = some JobFile.inputExtension then none
    else path.text?.map fun name => (name, content)

/-- Reads a stream to its end. -/
partial def readAll (stream : IO.FS.Stream) (sofar : ByteArray) : IO Bytes := do
  let block ← stream.read 65536
  if block.isEmpty then return sofar.data.toList
  readAll stream (sofar ++ block)

/-- Writes bytes to standard output. -/
def printBytes (bytes : Bytes) : IO Unit := do
  (← IO.getStdout).write ⟨bytes.toArray⟩

/-- Reports wrong arguments. -/
def complain (text : String) : IO UInt32 := do
  IO.eprintln text
  IO.eprintln usage
  return UInt32.ofNat Daemon.usageFailed

/-- The client shell. -/
def shell (list : String) : IO UInt32 := do
  match storeOf list with
  | .error fault => complain fault.text
  | .ok hub =>
    let input ← readAll (← IO.getStdin) .empty
    match runShell hub input with
    | .error failure =>
      IO.eprintln failure.message
      return UInt32.ofNat Daemon.startFailed
    | .ok transcript =>
      transcript.output.forM IO.println
      transcript.complaints.forM IO.eprintln
      return UInt32.ofNat (transcript.exitCode.getD 0)

/-- The daemon. -/
def daemon (order : Daemon.Order) : IO UInt32 := do
  let script ← readAll (← IO.getStdin) .empty
  let directory := order.settings.jobsDir
  let outcome := Daemon.run (machine order.settings.listenAddr) order (treeOf directory script)
  if let some error := outcome.complaint then
    IO.eprintln error.message
  for (job, result) in outcome.reports do
    match result with
    | .ok summary =>
      IO.eprintln s!"{job.name}: {summary.executed} operations, {summary.failed} failed"
    | .error error => IO.eprintln (job.name ++ ": " ++ error.message)
  for (name, content) in resultsOf directory outcome.files do
    IO.println (name ++ ":")
    printBytes content
  return UInt32.ofNat outcome.exitCode

end WatchedStore.CommandLine

/-- Runs the shell or the daemon. -/
def main (arguments : List String) : IO UInt32 := do
  match arguments with
  | ["shell", list] => WatchedStore.CommandLine.shell list
  | "shell" :: _ => WatchedStore.CommandLine.complain "the shell takes one list"
  | _ =>
    match WatchedStore.Daemon.readArguments arguments with
    | .error fault => WatchedStore.CommandLine.complain fault.text
    | .ok .showVersion =>
      IO.println WatchedStore.CommandLine.version
      return 0
    | .ok .showHelp =>
      IO.println WatchedStore.CommandLine.usage
      return 0
    | .ok (.run order) => WatchedStore.CommandLine.daemon order
