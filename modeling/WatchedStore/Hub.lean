import WatchedStore.Store.Basic
import WatchedStore.Store.LockOrder

/-! # The store with its mailboxes

A hub is the store together with the mailboxes through which subscribers are reached. Writing over
a key and deleting it hand a notification to every subscriber of that key at that moment; creating a
key notifies nobody. A batch handles its items in order. A pair that fails validation is returned
and the others are applied.
-/

namespace WatchedStore

/-- The store and the mailboxes of its subscribers. -/
structure Hub where
  store : Store
  boxes : Mailboxes
deriving DecidableEq, Repr

/-- A hub after a change, and what was logged on the way. -/
structure Change where
  hub : Hub
  warnings : List Warning
deriving DecidableEq, Repr

/-- A change with an answer to the caller. -/
structure Reply (α : Type) where
  answer : α
  hub : Hub
  warnings : List Warning
deriving DecidableEq, Repr

/-- An item of a batch that was refused. -/
structure Rejection where
  key : String
  error : Error
deriving DecidableEq, Repr

/-- The valid pairs of a batch with their buckets, in order. -/
def acceptedPairs (pairs : List (String × String)) : List (BucketIndex × String × String) :=
  pairs.filterMap fun (key, value) =>
    match validatePair key value with
    | .ok index => some (index, key, value)
    | .error _ => none

/-- The invalid pairs of a batch with their faults, in order. -/
def rejectedPairs (pairs : List (String × String)) : List Rejection :=
  pairs.filterMap fun (key, value) =>
    match validatePair key value with
    | .ok _ => none
    | .error error => some ⟨key, error⟩

namespace Hub

/-- An empty store without mailboxes. -/
def empty (limit : Nat) : Hub := ⟨Store.empty limit, []⟩

/-- Stores one valid pair in its bucket: over the value of the key if it exists, else as the newest
key of the bucket. -/
def put (hub : Hub) (index : BucketIndex) (key value : String) : Change :=
  let bucket := hub.store.bucket index
  match bucket.find? key with
  | none =>
    ⟨{ hub with
        store := hub.store.setBucket index
          (bucket ++ [⟨key, value, Subscribers.empty hub.store.limit⟩]) }, []⟩
  | some node =>
    let (subscribers, result) := node.subscribers.broadcast (.updated key value) hub.boxes
    ⟨{ store := hub.store.setBucket index (bucket.replace ⟨key, value, subscribers⟩)
       boxes := result.boxes }, result.warnings⟩

/-- Stores valid pairs one after the other. -/
def putAll (hub : Hub) : List (BucketIndex × String × String) → Change
  | [] => ⟨hub, []⟩
  | (index, key, value) :: rest =>
    let first := hub.put index key value
    let later := putAll first.hub rest
    ⟨later.hub, first.warnings ++ later.warnings⟩

/-- Writes a batch of pairs and answers with the ones refused. -/
def write (hub : Hub) (pairs : List (String × String)) : Reply (List Rejection) :=
  let change := hub.putAll (acceptedPairs pairs)
  ⟨rejectedPairs pairs, change.hub, change.warnings⟩

/-- The guard that a batch of pairs takes: the buckets of its valid pairs. -/
def writeGuard (pairs : List (String × String)) : Guard :=
  Guard.ofBuckets ((acceptedPairs pairs).map Prod.fst) .exclusive

/-- Removes one key after a last notification to its subscribers; none when there is no such key. -/
def remove? (hub : Hub) (key : String) : Option Change :=
  (hub.store.locate? key).map fun (index, node) =>
    let (_, result) := node.subscribers.dismiss (.deleted key) hub.boxes
    ⟨{ store := hub.store.setBucket index ((hub.store.bucket index).erase key)
       boxes := result.boxes }, result.warnings⟩

/-- Deletes a batch of keys and answers with the ones that were absent at their turn. -/
def delete (hub : Hub) : List String → Reply (List String)
  | [] => ⟨[], hub, []⟩
  | key :: rest =>
    match hub.remove? key with
    | none =>
      let later := delete hub rest
      ⟨key :: later.answer, later.hub, later.warnings⟩
    | some change =>
      let later := delete change.hub rest
      ⟨later.answer, later.hub, change.warnings ++ later.warnings⟩

/-- The guard that a batch of deletions takes. -/
def deleteGuard (keys : List String) : Guard := Guard.ofKeys keys .exclusive

/-- The guard that a batch of reads takes. -/
def readGuard (keys : List String) : Guard := Guard.ofKeys keys .shared

/-- Adds a sink to the subscribers of a key. -/
def subscribe (hub : Hub) (key : String) (sink : Sink) : SubscribeOutcome × Hub :=
  let (outcome, store) := hub.store.subscribe key sink
  (outcome, { hub with store := store })

/-- Takes an identity out of the subscribers of a key. -/
def unsubscribe (hub : Hub) (key : String) (id : SinkId) : UnsubscribeOutcome × Hub :=
  let (outcome, store) := hub.store.unsubscribe key id
  (outcome, { hub with store := store })

/-- Takes an identity out of the subscribers of every key. -/
def unsubscribeAll (hub : Hub) (id : SinkId) : Nat × Hub :=
  let (count, store) := hub.store.unsubscribeAll id
  (count, { hub with store := store })

/-- Adds a mailbox and gives its number. -/
def openMailbox (hub : Hub) (capacity : Nat) : Nat × Hub :=
  (hub.boxes.length, { hub with boxes := hub.boxes ++ [Mailbox.ofCapacity capacity] })

/-- Adds a mailbox if memory can hold it. -/
def openMailbox? (hub : Hub) (capacity : Nat) : Option (Nat × Hub) :=
  if Mailbox.isPossible capacity then some (hub.openMailbox capacity) else none

/-- Takes the oldest notifications out of a mailbox. -/
def receive (hub : Hub) (slot most : Nat) : List Notice × Hub :=
  let (notes, boxes) := hub.boxes.receive slot most
  (notes, { hub with boxes := boxes })

/-- Ends the reading of a mailbox. -/
def closeMailbox (hub : Hub) (slot : Nat) : Hub :=
  { hub with boxes := hub.boxes.close slot }

end Hub

end WatchedStore
