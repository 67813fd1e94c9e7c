/-! # Notifications

What the subscribers of a key are told when the key changes, and the text of it. A deletion is
written with a marker in the place of the value.
-/

namespace WatchedStore

/-- The marker that stands for the value of a deleted key. -/
def deletedMarker : String := "DELETED"

/-- A change of a key. -/
inductive Notice
  /-- The key has a new value. -/
  | updated (key value : String)
  /-- The key and all its subscriptions are gone. -/
  | deleted (key : String)
deriving DecidableEq, Repr

namespace Notice

/-- The key that changed. -/
def key : Notice → String
  | updated key _ => key
  | deleted key => key

/-- The text of a notification: the key and the value in parentheses. -/
def text : Notice → String
  | updated key value => "(" ++ key ++ ", " ++ value ++ ")"
  | deleted key => "(" ++ key ++ ", " ++ deletedMarker ++ ")"

end Notice

end WatchedStore
