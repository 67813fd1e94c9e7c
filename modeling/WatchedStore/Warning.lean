import WatchedStore.Error
import WatchedStore.Notice

/-! # Warnings

Events that are logged and change no result: a subscriber given up, a notification dropped, and the
faults of a script that the script survives.
-/

namespace WatchedStore

open WatchedStore.Text

/-- A logged event. -/
inductive Warning
  | subscriberDropped (id : Nat) (key : String) (error : Error)
  | queueFull (id : Nat) (note : Notice)
  | writeRefused (job key : String) (error : Error)
  | lineRefused (job : String) (error : Error)
  | lineFailed (job : String) (line : Nat) (error : Error)
deriving DecidableEq, Repr

/-- The wording of a logged event. -/
def Warning.message : Warning → String
  | subscriberDropped id key error =>
    s!"Dropping subscriber {id} of key " ++ quote key ++ ": " ++ error.message
  | queueFull id note => s!"Notification queue of sink {id} is full, dropping " ++ note.text
  | writeRefused job key error =>
    "Job " ++ job ++ ": failed to write " ++ quote key ++ ": " ++ error.message
  | lineRefused job error => "Job " ++ job ++ ": " ++ error.message
  | lineFailed job line error => "Job " ++ job ++ s!" line {line} failed: " ++ error.message

end WatchedStore
