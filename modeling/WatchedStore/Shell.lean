import WatchedStore.Job.Line
import WatchedStore.Session.Caller
import WatchedStore.Text.Line

/-! # The client shell

The shell holds one session and carries out the commands of its input, one per line. The argument of
a command is written like that of a job command, except that a list names exactly one key. A line
that is no command is reported and the shell goes on; a line that is not text ends the input. At the
end the session is ended.
-/

namespace WatchedStore

open WatchedStore.Text WatchedStore.Wire WatchedStore.Session

namespace Shell

/-- A command of the shell. -/
inductive Command
  | subscribe (key : String)
  | unsubscribe (key : String)
  | delay (milliseconds : Nat)
  | disconnect
deriving DecidableEq, Repr

/-- The one key of a bracketed list. -/
def parseKey? (rest : List Char) : Option String :=
  (between? '[' ']' rest).bind fun inner =>
    let key := trim inner
    if key = [] ∨ ',' ∈ key then none else some (String.ofList key)

/-- The command of a line. -/
def parseCommand? (line : String) : Option Command :=
  let (verb, rest) := Job.splitCommand (trim line.toList)
  let verb := String.ofList verb
  if verb = "SUBSCRIBE" then (parseKey? rest).map .subscribe
  else if verb = "UNSUBSCRIBE" then (parseKey? rest).map .unsubscribe
  else if verb = "DELAY" then (parseUnsigned? wordBound rest).map .delay
  else if verb = "DISCONNECT" ∧ rest = [] then some .disconnect
  else none

/-- What a shell has printed, line by line, and how it left. -/
structure Transcript where
  output : List String
  complaints : List String
  /-- The exit code; none while the shell waits for an answer. -/
  exitCode : Option Nat
deriving DecidableEq, Repr

namespace Transcript

/-- Prints a line first. -/
def say (line : String) (transcript : Transcript) : Transcript :=
  { transcript with output := line :: transcript.output }

/-- Complains first. -/
def complain (line : String) (transcript : Transcript) : Transcript :=
  { transcript with complaints := line :: transcript.complaints }

/-- The end of a shell. -/
def exit (code : Nat) : Transcript := ⟨[], [], some code⟩

/-- A shell that goes on only when the server answers. -/
def stuck : Transcript := ⟨[], [], none⟩

end Transcript

/-- The line that reports a status. -/
def statusLine (operation : String) (status : Status) : String :=
  "Server returned " ++ String.ofList [Char.ofNat status.byte.toNat] ++ " for operation: " ++
    operation

/-- Prints the result of a call before what follows. -/
def reportCall (operation : String) (result : Except Error Status) (later : Transcript) :
    Transcript :=
  match result with
  | .ok status => later.say (statusLine operation status)
  | .error error => later.complain ("Command " ++ operation ++ " failed: " ++ error.message)

/-- The last line of a shell that ended its session. -/
def farewell : String := "Disconnected from server"

/-- Ends the session. -/
def leave (rendezvous : Rendezvous) (handle : Handle) : Transcript × Rendezvous :=
  match rendezvous.leave? handle with
  | none => (.stuck, rendezvous)
  | some (.ok (), rendezvous) => ((Transcript.exit 0).say farewell, rendezvous)
  | some (.error error, rendezvous) =>
    ((Transcript.exit 1).complain ("Failed to disconnect from the server: " ++ error.message),
      rendezvous)

/-- Carries out the commands of lines. -/
def runLines (rendezvous : Rendezvous) (handle : Handle) : List Bytes → Transcript × Rendezvous
  | [] => leave rendezvous handle
  | bytes :: rest =>
    let calling (operation : String) (request : Request) : Transcript × Rendezvous :=
      match rendezvous.call? handle request with
      | none => (.stuck, rendezvous)
      | some (result, rendezvous) =>
        let (later, rendezvous) := runLines rendezvous handle rest
        (reportCall operation result later, rendezvous)
    match decode? bytes with
    | none =>
      let (later, rendezvous) := leave rendezvous handle
      (later.complain ("Failed to read stdin: " ++ IoFailure.notText.text), rendezvous)
    | some line =>
      if trim line.toList = [] then runLines rendezvous handle rest
      else
        match parseCommand? line with
        | some (.subscribe key) => calling "subscribe" (.subscribe key)
        | some (.unsubscribe key) => calling "unsubscribe" (.unsubscribe key)
        | some (.delay milliseconds) =>
          let (later, rendezvous) := runLines rendezvous handle rest
          (if milliseconds = 0 then later else later.say "Waiting...", rendezvous)
        | some .disconnect => leave rendezvous handle
        | none =>
          let (later, rendezvous) := runLines rendezvous handle rest
          (later.complain ("Invalid command: " ++ String.ofList (trim line.toList)), rendezvous)

/-- Runs a shell whose session is running. -/
def runSession (rendezvous : Rendezvous) (handle : Handle) (input : Bytes) :
    Transcript × Rendezvous :=
  let (transcript, rendezvous) := runLines rendezvous handle (lines input)
  (transcript.say "Connected to server.", rendezvous)

/-- The end of a shell that got no session. -/
def refuse (address : String) (error : Error) : Transcript :=
  (Transcript.exit 1).complain ("Failed to connect to " ++ address ++ ": " ++ error.message)

/-- Runs a shell against the server at an address. -/
def run (host : Host) (rendezvous : Rendezvous) (address : String) (channels : ConnectRequest)
    (input : Bytes) : Transcript × Rendezvous :=
  match rendezvous.dial host address channels with
  | (.error error, rendezvous) => (refuse address error, rendezvous)
  | (.ok handle, rendezvous) =>
    match rendezvous.acknowledged? handle with
    | none => (.stuck, rendezvous)
    | some (.error error, rendezvous) => (refuse address error, rendezvous)
    | some (.ok (), rendezvous) => runSession rendezvous handle input

end Shell

end WatchedStore
