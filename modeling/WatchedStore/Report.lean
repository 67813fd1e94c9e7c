/-! # Output texts

What jobs and backups print. Reading lists every requested key with its value, or with a marker when
there is none, on one line in brackets; deleting lists the keys that were missing the same way and
prints nothing when all were found; showing prints one pair per line.
-/

namespace WatchedStore.Report

/-- Stands for the value of a key that a read did not find. -/
def readMarker : String := "KVSERROR"

/-- Stands for the value of a key that a deletion did not find. -/
def missingMarker : String := "KVSMISSING"

/-- A pair inside a bracketed list. -/
def item (key value : String) : String := "(" ++ key ++ "," ++ value ++ ")"

/-- The result of reading, in the order given. -/
def reading (results : List (String × Option String)) : String :=
  "[" ++ String.join (results.map fun (key, value) => item key (value.getD readMarker)) ++ "]\n"

/-- The keys that a deletion did not find. -/
def missing (keys : List String) : String :=
  if keys = [] then ""
  else "[" ++ String.join (keys.map fun key => item key missingMarker) ++ "]\n"

/-- A line with one pair. -/
def line (key value : String) : String := "(" ++ key ++ ", " ++ value ++ ")\n"

/-- A snapshot, one pair per line. -/
def listing (pairs : List (String × String)) : String :=
  String.join (pairs.map fun (key, value) => line key value)

end WatchedStore.Report
