import WatchedStore.Error
import WatchedStore.Job.Operation
import WatchedStore.Text.Blank
import WatchedStore.Text.Number
import WatchedStore.Text.Split

/-! # Lines of a job script

A line is blank, a comment, or one command: a keyword, and behind the first blank its argument. A
list of keys is bracketed and separated by commas; a list of pairs is bracketed and each pair stands
in parentheses, so a value may hold a comma and a key an opening parenthesis. Parsing only splits:
whether a key or a value is acceptable is for the store to say.
-/

namespace WatchedStore.Job

open WatchedStore.Text

/-- The keyword of a line and its argument, both without blanks around them. -/
def splitCommand (line : List Char) : List Char × List Char :=
  match splitFirst? isBlank line with
  | some (command, rest) => (command, trim rest)
  | none => (line, [])

/-- The inside of a bracketed list, without blanks at its ends. -/
def bracketed (rest : List Char) : Except LineFault (List Char) :=
  match between? '[' ']' rest with
  | some inner => .ok (trim inner)
  | none => .error (.notAList (String.ofList rest))

/-- The keys that the pieces of a list name. -/
def keysOfPieces : List (List Char) → Except LineFault (List String)
  | [] => .ok []
  | piece :: rest =>
    if trim piece = [] then .error .emptyKey
    else (keysOfPieces rest).map (String.ofList (trim piece) :: ·)

/-- A list of keys. -/
def parseKeys (rest : List Char) : Except LineFault (List String) :=
  match bracketed rest with
  | .error fault => .error fault
  | .ok [] => .error .emptyKeyList
  | .ok inner => keysOfPieces (pieces ',' inner)

/-- The pair that stands between two parentheses. -/
def parsePair (body : List Char) : Except LineFault (String × String) :=
  match splitFirst? (· = ',') body with
  | none => .error (.missingValue (String.ofList body))
  | some (key, value) =>
    let key := trim key
    let value := trim value
    if key = [] ∨ value = [] then .error (.emptySide (String.ofList key) (String.ofList value))
    else .ok (String.ofList key, String.ofList value)

private theorem length_after_lt {text before after : List Char} {p : Char → Bool}
    (cut : splitFirst? p text = some (before, after)) :
    (trimStart after).length < text.length := by
  obtain ⟨_, c, _, rfl⟩ := splitFirst?_eq_some_iff.1 cut
  have := trimStart_length_le after
  simp only [List.length_append, List.length_cons]
  omega

/-- The pairs that stand one behind the other, with any blanks between them. -/
def parseItems (inner : List Char) : Except LineFault (List (String × String)) :=
  match inner with
  | [] => .ok []
  | c :: body =>
    if c ≠ '(' then .error (.noPairAt (String.ofList (c :: body)))
    else
      match _cut : splitFirst? (· = ')') body with
      | none => .error .unterminatedPair
      | some (text, after) =>
        match parsePair text with
        | .error fault => .error fault
        | .ok pair => (parseItems (trimStart after)).map (pair :: ·)
termination_by inner.length
decreasing_by
  have := length_after_lt _cut
  simp only [List.length_cons]
  omega

/-- A list of pairs. -/
def parsePairs (rest : List Char) : Except LineFault (List (String × String)) :=
  match bracketed rest with
  | .error fault => .error fault
  | .ok inner =>
    match parseItems inner with
    | .ok [] => .error .emptyPairList
    | result => result

/-- The delay that a pause asks for. -/
def parseDelay (rest : List Char) : Except LineFault Nat :=
  match parseUnsigned? wordBound rest with
  | some milliseconds => .ok milliseconds
  | none => .error (.notADelay (String.ofList rest))

/-- A command that stands alone. -/
def withoutArguments (operation : Operation) (rest : List Char) : Except LineFault Operation :=
  if rest = [] then .ok operation else .error (.takesNoArguments operation.keyword)

/-- The operation of a keyword with its argument. -/
def parseCommand (command : String) (rest : List Char) : Except LineFault Operation :=
  if command = "WRITE" then (parsePairs rest).map .write
  else if command = "READ" then (parseKeys rest).map .read
  else if command = "DELETE" then (parseKeys rest).map .delete
  else if command = "WAIT" then (parseDelay rest).map .wait
  else if command = "SHOW" then withoutArguments .print rest
  else if command = "BACKUP" then withoutArguments .backup rest
  else if command = "HELP" then withoutArguments .help rest
  else .error (.unknownCommand command)

/-- The operation of a line; none for a blank line and for a comment. -/
def parseText (line : List Char) : Except LineFault (Option Operation) :=
  match trim line with
  | [] => .ok none
  | '#' :: _ => .ok none
  | text =>
    let (command, rest) := splitCommand text
    (parseCommand (String.ofList command) rest).map some

/-- The operation of the line with the given number. -/
def parseLine (number : Nat) (line : String) : Except Error (Option Operation) :=
  (parseText line.toList).mapError (.parse number)

end WatchedStore.Job
