import WatchedStore.Settings
import WatchedStore.Text.Number
import WatchedStore.Text.Quoted
import WatchedStore.Text.Split

/-! # The arguments of the daemon

Up to three operands, which are the directory of the jobs, the number of job threads and the number
of concurrent backups, and options between them in any order. A value stands behind its option or,
for a long name, behind an equals sign; short names may be joined. A value that begins with a dash
is taken for an option, unless it is the dash alone; a double dash ends the options. The arguments
are read from left to right and the first fault decides, except that a missing directory is noticed
last; asking for the version or for help ends the reading.
-/

namespace WatchedStore.Daemon

open WatchedStore.Text

/-- What is wrong with the arguments. -/
inductive UsageFault
  | unknownOption (name : String)
  | missingValue (name : String)
  | unwantedValue (name : String)
  | repeated (name : String)
  | badNumber (name value : String)
  | surplus (operand : String)
  | noDirectory
deriving DecidableEq, Repr

/-- The words for wrong arguments. -/
def UsageFault.text : UsageFault → String
  | unknownOption name => "unknown option " ++ quote name
  | missingValue name => "option " ++ name ++ " needs a value"
  | unwantedValue name => "option " ++ name ++ " takes no value"
  | repeated name => "option " ++ name ++ " is given twice"
  | badNumber name value => name ++ " is no number: " ++ quote value
  | surplus operand => "unexpected operand " ++ quote operand
  | noDirectory => "the directory of the jobs is missing"

/-- The options. -/
inductive Flag
  | listen
  | sessionWorkers
  | sessionBuffer
  | subscriberLimit
  | exitAfterJobs
  | version
  | help
deriving DecidableEq, Repr

namespace Flag

/-- The long name of an option. -/
def name : Flag → String
  | listen => "listen"
  | sessionWorkers => "session-workers"
  | sessionBuffer => "session-buffer"
  | subscriberLimit => "subscriber-limit"
  | exitAfterJobs => "exit-after-jobs"
  | version => "version"
  | help => "help"

/-- All options. -/
def all : List Flag :=
  [listen, sessionWorkers, sessionBuffer, subscriberLimit, exitAfterJobs, version, help]

/-- The option with a long name. -/
def ofName? (name : String) : Option Flag := all.find? fun flag => flag.name = name

/-- The option with a short name. -/
def ofLetter? (letter : Char) : Option Flag :=
  if letter = 'l' then some listen
  else if letter = 'w' then some sessionWorkers
  else if letter = 'b' then some sessionBuffer
  else if letter = 'V' then some version
  else if letter = 'h' then some help
  else none

/-- Whether an option has a value. -/
def takesValue : Flag → Bool
  | listen | sessionWorkers | sessionBuffer | subscriberLimit => true
  | exitAfterJobs | version | help => false

end Flag

/-- What the arguments ask for. -/
structure Order where
  settings : Settings
  /-- Whether to stop when the jobs are done. -/
  exitAfterJobs : Bool
deriving DecidableEq, Repr

/-- What to do. -/
inductive Request
  | run (order : Order)
  | showVersion
  | showHelp
deriving DecidableEq, Repr

/-- How far the arguments are read. -/
structure Reading where
  order : Order
  /-- The options that were given. -/
  given : List Flag
  /-- How many operands were given. -/
  operands : Nat
deriving DecidableEq, Repr

namespace Reading

/-- Before the first argument. -/
def start : Reading := ⟨⟨Settings.standard, false⟩, [], 0⟩

/-- A value that has to be a count. -/
def count (name value : String) : Except UsageFault Nat :=
  match parseUnsigned? wordBound value.toList with
  | some n => .ok n
  | none => .error (.badNumber name value)

/-- Notes that an option is given, once. -/
def mark (reading : Reading) (flag : Flag) : Except UsageFault Reading :=
  if flag ∈ reading.given then .error (.repeated flag.name)
  else .ok { reading with given := flag :: reading.given }

/-- Edits the settings. -/
def configure (reading : Reading) (change : Settings → Settings) : Reading :=
  { reading with order := { reading.order with settings := change reading.order.settings } }

/-- Takes up an option with its value. -/
def setOption (reading : Reading) (flag : Flag) (value : String) : Except UsageFault Reading := do
  let reading ← reading.mark flag
  match flag with
  | .listen => return reading.configure fun c => { c with listenAddr := value }
  | .sessionWorkers =>
    let n ← count flag.name value
    return reading.configure fun c => { c with sessionWorkers := n }
  | .sessionBuffer =>
    let n ← count flag.name value
    return reading.configure fun c => { c with sessionBuffer := n }
  | .subscriberLimit =>
    let n ← count flag.name value
    return reading.configure fun c => { c with subscriberLimit := n }
  | .exitAfterJobs | .version | .help => throw (.unwantedValue flag.name)

/-- Takes up an operand. -/
def addOperand (reading : Reading) (value : String) : Except UsageFault Reading := do
  let next := { reading with operands := reading.operands + 1 }
  match reading.operands with
  | 0 => return next.configure fun c => { c with jobsDir := value, backupDir := value }
  | 1 =>
    let n ← count "max_threads" value
    return next.configure fun c => { c with maxJobThreads := n }
  | 2 =>
    let n ← count "max_backups" value
    return next.configure fun c => { c with maxBackups := n }
  | _ => throw (.surplus value)

/-- All arguments are read. -/
def finish (reading : Reading) : Except UsageFault Request :=
  if reading.operands = 0 then .error .noDirectory else .ok (.run reading.order)

end Reading

/-- What the options of one argument come to. -/
inductive Step
  | next (reading : Reading)
  /-- The value is in the argument that follows. -/
  | wants (flag : Flag) (reading : Reading)
  | stop (request : Request)

/-- An option without a value in the same argument. -/
def bareFlag (reading : Reading) (flag : Flag) : Except UsageFault Step :=
  match flag with
  | .version => .ok (.stop .showVersion)
  | .help => .ok (.stop .showHelp)
  | .exitAfterJobs =>
    (reading.mark flag).map fun reading =>
      .next { reading with order := { reading.order with exitAfterJobs := true } }
  | .listen | .sessionWorkers | .sessionBuffer | .subscriberLimit => .ok (.wants flag reading)

/-- Reads an argument behind a double dash. -/
def readLong (reading : Reading) (text : List Char) : Except UsageFault Step :=
  let (name, value?) :=
    match splitFirst? (· = '=') text with
    | some (name, value) => (String.ofList name, some (String.ofList value))
    | none => (String.ofList text, none)
  match Flag.ofName? name, value? with
  | none, _ => .error (.unknownOption name)
  | some flag, none => bareFlag reading flag
  | some flag, some value =>
    if flag.takesValue then (reading.setOption flag value).map .next
    else .error (.unwantedValue name)

/-- Reads the short names of one argument. The rest of the argument is the value of the first one
that has a value, with or without an equals sign in front. -/
def readShort (reading : Reading) : List Char → Except UsageFault Step
  | [] => .ok (.next reading)
  | letter :: rest =>
    match Flag.ofLetter? letter with
    | none => .error (.unknownOption (String.singleton letter))
    | some flag =>
      match bareFlag reading flag, rest with
      | .ok (.wants flag reading), '=' :: value =>
        (reading.setOption flag (String.ofList value)).map .next
      | .ok (.wants flag reading), c :: value =>
        (reading.setOption flag (String.ofList (c :: value))).map .next
      | .ok (.next reading), rest => readShort reading rest
      | step, _ => step

/-- What an argument is, by its dashes. -/
inductive Shape
  | long (text : List Char)
  | short (letters : List Char)
  | endOfOptions
  | plain (text : String)

/-- The shape of an argument. -/
def shape (argument : String) : Shape :=
  match argument.toList with
  | ['-', '-'] => .endOfOptions
  | '-' :: '-' :: text => .long text
  | '-' :: c :: letters => .short (c :: letters)
  | _ => .plain argument

/-- Reads operands only. -/
def readOperands (reading : Reading) (arguments : List String) : Except UsageFault Request :=
  (arguments.foldlM Reading.addOperand reading).bind Reading.finish

/-- Reads the arguments, of which the first may be the value that an option wants. -/
def readFrom (reading : Reading) (wanted : Option Flag) (arguments : List String) :
    Except UsageFault Request :=
  match wanted, arguments with
  | none, [] => reading.finish
  | some flag, [] => .error (.missingValue flag.name)
  | some flag, argument :: rest =>
    match shape argument with
    | .plain value => (reading.setOption flag value).bind fun reading => readFrom reading none rest
    | _ => .error (.missingValue flag.name)
  | none, argument :: rest =>
    let goOn (step : Except UsageFault Step) : Except UsageFault Request :=
      step.bind fun
        | .stop request => .ok request
        | .next reading => readFrom reading none rest
        | .wants flag reading => readFrom reading (some flag) rest
    match shape argument with
    | .plain operand => (reading.addOperand operand).bind fun reading => readFrom reading none rest
    | .endOfOptions => readOperands reading rest
    | .long text => goOn (readLong reading text)
    | .short letters => goOn (readShort reading letters)

/-- What the arguments of the command line ask for. -/
def readArguments (arguments : List String) : Except UsageFault Request :=
  readFrom Reading.start none arguments

end WatchedStore.Daemon
