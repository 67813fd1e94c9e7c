/-! # Operations of a job

The commands of the job language, after parsing. Keys and values are texts that the store has not
judged yet.
-/

namespace WatchedStore

/-- One command of a job. -/
inductive Operation
  /-- Store every pair. -/
  | write (pairs : List (String × String))
  /-- Print the values of the keys, sorted by key. -/
  | read (keys : List String)
  /-- Remove the keys and print the missing ones. -/
  | delete (keys : List String)
  /-- Print every pair of the store. -/
  | print
  /-- Pause for a number of milliseconds. -/
  | wait (milliseconds : Nat)
  /-- Write a snapshot of the store to a backup file. -/
  | backup
  /-- Print the summary of the commands. -/
  | help
deriving DecidableEq, Repr

/-- The keyword of a command. -/
def Operation.keyword : Operation → String
  | write _ => "WRITE"
  | read _ => "READ"
  | delete _ => "DELETE"
  | print => "SHOW"
  | wait _ => "WAIT"
  | backup => "BACKUP"
  | help => "HELP"

end WatchedStore
