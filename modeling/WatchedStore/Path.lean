import WatchedStore.Text.Utf8

/-! # File paths

A path is a sequence of bytes in which slashes separate segments. The file name is the last segment
that is neither empty nor a single dot, unless it is the double dot; its extension is what stands
behind its last dot, except that a name has none when its only dot leads it. Replacing the extension
first cuts the old one off the end of the path and then looks for the file name again, so the answer
for a name made of dots is what that order gives.
-/

namespace WatchedStore

open WatchedStore.Text

/-- The byte that separates segments. -/
def slash : UInt8 := 0x2F

/-- The byte in front of an extension. -/
def dot : UInt8 := 0x2E

/-- A path of the file system. -/
structure Path where
  bytes : Bytes
deriving DecidableEq, Repr

/-- The pieces between the occurrences of a byte; there is always at least one. -/
def splitBytes (separator : UInt8) : Bytes → List Bytes
  | [] => [[]]
  | byte :: rest =>
    if byte = separator then [] :: splitBytes separator rest
    else
      match splitBytes separator rest with
      | [] => [[byte]]
      | piece :: others => (byte :: piece) :: others

/-- What stands before and after the last occurrence of a byte. -/
def splitBytesLast? (separator : UInt8) : Bytes → Option (Bytes × Bytes)
  | [] => none
  | byte :: rest =>
    match splitBytesLast? separator rest with
    | some (before, after) => some (byte :: before, after)
    | none => if byte = separator then some ([], rest) else none

namespace Path

/-- The path that a text spells. -/
def ofText (text : String) : Path := ⟨encode text⟩

/-- The path as text, if it is one. -/
def text? (path : Path) : Option String := decode? path.bytes

/-- Whether a path starts at the root of the file system. -/
def isAbsolute (path : Path) : Bool := path.bytes.head? = some slash

/-- The steps that a path asks for, one for each segment that is not empty. -/
def steps (path : Path) : List Bytes :=
  (splitBytes slash path.bytes).filter fun segment => segment ≠ []

/-- The segments of a path that are neither empty nor a single dot. -/
def segments (path : Path) : List Bytes := path.steps.filter fun segment => segment ≠ [dot]

/-- Whether a path ends in a slash. -/
def endsInSlash (path : Path) : Bool := path.bytes.getLast? = some slash

/-- A path that is read in a directory; an absolute path stays as it is. -/
def join (directory path : Path) : Path :=
  if path.isAbsolute then path
  else if directory.bytes = [] ∨ directory.endsInSlash then ⟨directory.bytes ++ path.bytes⟩
  else ⟨directory.bytes ++ slash :: path.bytes⟩

/-- Drops the idle start of a path, or the idle end of a reversed one: slashes, and segments that
are a single dot. -/
def dropIdle : Bytes → Bytes
  | [] => []
  | byte :: rest =>
    if byte = slash then dropIdle rest
    else if byte = dot ∧ (rest = [] ∨ rest.head? = some slash) then dropIdle rest
    else byte :: rest

/-- The file name, and what stands in front of it. -/
def splitName? (path : Path) : Option (Bytes × Bytes) :=
  let tail := dropIdle path.bytes.reverse
  let name := (tail.takeWhile (· ≠ slash)).reverse
  let directory := (tail.dropWhile (· ≠ slash)).reverse
  if name = [] ∨ name = [dot, dot] then none else some (directory, name)

/-- The file name of a path. -/
def fileName? (path : Path) : Option Bytes := path.splitName?.map Prod.snd

/-- A file name cut into its stem and its extension. -/
def splitExtension (name : Bytes) : Bytes × Option Bytes :=
  match splitBytesLast? dot name with
  | none => (name, none)
  | some ([], _) => (name, none)
  | some (stem, extension) => (stem, some extension)

/-- The file name without its extension. -/
def stem? (path : Path) : Option Bytes := path.fileName?.map fun name => (splitExtension name).1

/-- The extension of the file name. -/
def extension? (path : Path) : Option Bytes :=
  path.fileName?.bind fun name => (splitExtension name).2

/-- The path up to the stem of its file name, with an extension behind it. -/
def setExtension (path : Path) (extension : Bytes) : Path :=
  match path.splitName? with
  | none => path
  | some (directory, name) => ⟨directory ++ (splitExtension name).1 ++ dot :: extension⟩

/-- The path with another extension. -/
def withExtension (path : Path) (extension : Bytes) : Path :=
  match path.extension? with
  | none => path.setExtension extension
  | some old =>
    setExtension ⟨path.bytes.take (path.bytes.length - old.length)⟩ extension

/-- What a path holds behind the given segments, if it starts with them. -/
def behind? : List Bytes → Bytes → Option Bytes
  | [], bytes => some (dropIdle bytes)
  | segment :: rest, bytes =>
    let bytes := dropIdle bytes
    if bytes.takeWhile (· ≠ slash) = segment then behind? rest (bytes.dropWhile (· ≠ slash))
    else none

/-- A path as seen from a directory that leads to it, without its idle start and end; any other
path as it is. -/
def relativeTo (path directory : Path) : Path :=
  if path.isAbsolute = directory.isAbsolute then
    match behind? directory.segments path.bytes with
    | some rest => ⟨(dropIdle rest.reverse).reverse⟩
    | none => path
  else path

end Path

end WatchedStore
