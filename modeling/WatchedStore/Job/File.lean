import WatchedStore.FileTree
import WatchedStore.Text.Utf8

/-! # Job files

A job is a script whose file name has the extension `job`. The stem of the name, which has to be
text, names the job and its backups; the output goes to the path with the extension `out`.
-/

namespace WatchedStore

open WatchedStore.Text

/-- A script, the name of its job, and where the output goes. -/
structure JobFile where
  name : String
  input : Path
  output : Path
deriving DecidableEq, Repr

namespace JobFile

/-- The extension of scripts. -/
def inputExtension : Bytes := encode "job"

/-- The extension of outputs. -/
def outputExtension : Bytes := encode "out"

/-- The job at a path, if the path names a script. -/
def ofPath? (path : Path) : Option JobFile :=
  if path.extension? = some inputExtension then
    (path.stem?.bind decode?).map fun name => ⟨name, path, path.withExtension outputExtension⟩
  else none

/-- Whether one sequence of bytes comes before another or equals it. -/
def bytesLe : Bytes → Bytes → Bool
  | [], _ => true
  | _ :: _, [] => false
  | a :: as, b :: bs => a < b || (a = b && bytesLe as bs)

/-- The scripts in a directory, by file name. -/
def discover (tree : FileTree) (directory : Path) : Except IoFailure (List JobFile) :=
  match tree.list directory with
  | .error failure => .error failure
  | .ok entries =>
    let names := entries.filterMap fun (name, entry) =>
      match entry with
      | .file _ => some name
      | .directory => none
    let names := names.mergeSort bytesLe
    .ok (names.filterMap fun name => ofPath? (directory.join ⟨name⟩))

end JobFile

end WatchedStore
