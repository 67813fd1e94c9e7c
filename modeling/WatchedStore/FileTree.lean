import WatchedStore.Error
import WatchedStore.Path

/-! # File trees

Directories and files as a value: a list of places, each a sequence of names from the root, with
what stands there. The root is always a directory. A path is followed step by step, and every step,
one to a single dot too, starts from a directory; only the last one may lead to a place where
nothing stands. The failures carry the numbers that the operating system uses for them.
-/

namespace WatchedStore

/-- What stands at a place. -/
inductive Entry
  | file (content : Bytes)
  | directory
deriving DecidableEq, Repr

/-- A place of the tree: the names that lead to it from the root. -/
abbrev Place := List Bytes

/-- A tree of directories and files. -/
structure FileTree where
  entries : List (Place × Entry)
deriving DecidableEq, Repr

namespace FileTree

/-- There is no such file or directory. -/
def noEntry : IoFailure := .os 2

/-- The place is taken. -/
def alreadyExists : IoFailure := .os 17

/-- A name on the way leads to a file. -/
def notDirectory : IoFailure := .os 20

/-- A directory stands where a file is wanted. -/
def isDirectory : IoFailure := .os 21

/-- A name or a path is too long. -/
def nameTooLong : IoFailure := .os 36

/-- The most bytes that a name may have. -/
def maxNameSize : Nat := 255

/-- The most bytes that a path may have. -/
def maxPathSize : Nat := 4095

/-- Only the root. -/
def empty : FileTree := ⟨[]⟩

/-- What stands at a place. -/
def entry? (tree : FileTree) (place : Place) : Option Entry :=
  if place = [] then some .directory else tree.entries.lookup place

/-- Puts an entry at a place. -/
def setEntry (tree : FileTree) (place : Place) (entry : Entry) : FileTree :=
  ⟨(place, entry) :: tree.entries.filter fun (other, _) => other ≠ place⟩

/-- Follows steps from a place to the one that they lead to. -/
def follow (tree : FileTree) (here : Place) : List Bytes → Except IoFailure Place
  | [] => .ok here
  | name :: rest =>
    match tree.entry? here with
    | none => .error noEntry
    | some (.file _) => .error notDirectory
    | some .directory =>
      if maxNameSize < name.length then .error nameTooLong
      else if name = [dot] then follow tree here rest
      else if name = [dot, dot] then follow tree here.dropLast rest
      else follow tree (here ++ [name]) rest

/-- Why a path is refused before anybody follows it. -/
def refusal? (path : Path) : Option IoFailure :=
  if path.bytes.contains 0 then some .nulInName
  else if path.bytes = [] then some noEntry
  else if maxPathSize < path.bytes.length then some nameTooLong
  else none

/-- The place that a path leads to. -/
def resolve (tree : FileTree) (path : Path) : Except IoFailure Place :=
  match refusal? path with
  | some failure => .error failure
  | none => tree.follow [] path.steps

/-- The content of a file. -/
def read (tree : FileTree) (path : Path) : Except IoFailure Bytes :=
  match tree.resolve path with
  | .error failure => .error failure
  | .ok place =>
    match tree.entry? place with
    | none => .error noEntry
    | some .directory => .error isDirectory
    | some (.file content) => if path.endsInSlash then .error notDirectory else .ok content

/-- The place of a file to be written. A path that ends in a slash never leads to one, and its last
name is not looked up, only the directory that would hold it. -/
def resolveFile (tree : FileTree) (path : Path) : Except IoFailure Place :=
  match refusal? path with
  | some failure => .error failure
  | none =>
    if path.endsInSlash then
      match tree.follow [] (path.steps.dropLast ++ [[dot]]) with
      | .error failure => .error failure
      | .ok _ => .error isDirectory
    else
      match tree.follow [] path.steps with
      | .error failure => .error failure
      | .ok place => if tree.entry? place = some .directory then .error isDirectory else .ok place

/-- Writes a file, over an old one if there is one. -/
def write (tree : FileTree) (path : Path) (content : Bytes) : Except IoFailure FileTree :=
  (tree.resolveFile path).map fun place => tree.setEntry place (.file content)

/-- Creates one directory where the steps lead, unless it is there already. -/
def ensureDirectory (tree : FileTree) (steps : List Bytes) : Except IoFailure FileTree :=
  match tree.follow [] steps with
  | .error failure => .error failure
  | .ok place =>
    match tree.entry? place with
    | some .directory => .ok tree
    | some (.file _) => .error alreadyExists
    | none => .ok (tree.setEntry place .directory)

/-- Creates the first of several directories, each inside the next one; the later ones are created
first where the way to it is missing. -/
def createNested (tree : FileTree) : List (List Bytes) → Except IoFailure FileTree
  | [] => .ok tree
  | steps :: outer =>
    match tree.ensureDirectory steps with
    | .ok tree => .ok tree
    | .error failure =>
      if failure = noEntry then
        match createNested tree outer with
        | .error failure => .error failure
        | .ok tree => tree.ensureDirectory steps
      else .error failure

/-- The steps to the directory that a path names, and to those above it, from the inside out. The
path itself is taken as it is written, so a dot behind its last name wants that directory to be
there. -/
def nesting (path : Path) : List (List Bytes) :=
  path.steps ::
    ((List.range path.segments.length).drop 1).reverse.map fun count => path.segments.take count

/-- Creates a directory and those above it, as far as they are missing. -/
def createDirectories (tree : FileTree) (path : Path) : Except IoFailure FileTree :=
  if path.bytes = [] then .ok tree
  else
    match refusal? path with
    | some failure => .error failure
    | none => tree.createNested (nesting path)

/-- The names in a directory with what stands there. -/
def list (tree : FileTree) (path : Path) : Except IoFailure (List (Bytes × Entry)) :=
  match tree.resolve path with
  | .error failure => .error failure
  | .ok place =>
    match tree.entry? place with
    | none => .error noEntry
    | some (.file _) => .error notDirectory
    | some .directory =>
      .ok (tree.entries.filterMap fun (other, entry) =>
        match other.getLast? with
        | some name => if other.dropLast = place then some (name, entry) else none
        | none => none)

/-- The files below a directory, each with the path that leads to it from there. -/
def filesBelow (tree : FileTree) (path : Path) : List (Path × Bytes) :=
  match tree.resolve path with
  | .error _ => []
  | .ok place =>
    tree.entries.filterMap fun (other, entry) =>
      match entry with
      | .directory => none
      | .file content =>
        if place.isPrefixOf other then
          some (⟨[slash].intercalate (other.drop place.length)⟩, content)
        else none

end FileTree

end WatchedStore
