import WatchedStore.Key
import WatchedStore.Subscribers

/-! # The store

Keys are filed in buckets by their first character. A bucket is a list of nodes in the order in
which their keys were created; a node carries the value of one key and its subscribers. The
functions here read the store or edit the subscribers of a key. What changes values also notifies,
and stands with the mailboxes in `WatchedStore.Hub`.
-/

namespace WatchedStore

/-- One key with its value and its subscribers. -/
structure Node where
  key : String
  value : String
  subscribers : Subscribers
deriving DecidableEq, Repr

/-- The nodes of one partition of the keys, oldest first. -/
abbrev Bucket := List Node

namespace Bucket

/-- The node of a key. -/
def find? (bucket : Bucket) (key : String) : Option Node :=
  List.find? (fun node => node.key = key) bucket

/-- Puts `node` in the place of the node that has its key. -/
def replace (bucket : Bucket) (node : Node) : Bucket :=
  bucket.map fun old => if old.key = node.key then node else old

/-- Takes the node of a key out. -/
def erase (bucket : Bucket) (key : String) : Bucket :=
  List.eraseP (fun node => node.key = key) bucket

end Bucket

/-- The buckets, and how many subscribers a key may have. -/
structure Store where
  limit : Nat
  buckets : Vector Bucket bucketCount
deriving DecidableEq, Repr

namespace Store

/-- No key yet. -/
def empty (limit : Nat) : Store := ⟨limit, Vector.replicate bucketCount []⟩

/-- The contents of one bucket. -/
def bucket (store : Store) (index : BucketIndex) : Bucket := store.buckets[index]

/-- Puts `bucket` in the place of the bucket `index`. -/
def setBucket (store : Store) (index : BucketIndex) (bucket : Bucket) : Store :=
  { store with buckets := store.buckets.set index bucket }

/-- Where a key is filed, and its node. -/
def locate? (store : Store) (key : String) : Option (BucketIndex × Node) :=
  (bucketOf? key).bind fun index =>
    ((store.bucket index).find? key).map fun node => (index, node)

/-- The node of a key. -/
def node? (store : Store) (key : String) : Option Node := (store.locate? key).map Prod.snd

/-- The value of a key. -/
def value? (store : Store) (key : String) : Option String := (store.node? key).map Node.value

/-- All nodes, bucket after bucket. -/
def nodes (store : Store) : List Node := store.buckets.toList.flatten

/-- The values of the keys, in the order of the request. -/
def read (store : Store) (keys : List String) : List (String × Option String) :=
  keys.map fun key => (key, store.value? key)

/-- All pairs, bucket after bucket and oldest first in each. -/
def snapshot (store : Store) : List (String × String) :=
  store.nodes.map fun node => (node.key, node.value)

/-- The number of keys. -/
def size (store : Store) : Nat := store.nodes.length

/-- The number of subscribers of a key; an absent key has none. -/
def subscriberCount (store : Store) (key : String) : Nat :=
  match store.node? key with
  | some node => node.subscribers.size
  | none => 0

/-- Adds a sink to the subscribers of a key. -/
def subscribe (store : Store) (key : String) (sink : Sink) : SubscribeOutcome × Store :=
  match store.locate? key with
  | none => (.keyNotFound, store)
  | some (index, node) =>
    let (outcome, subscribers) := node.subscribers.insert sink
    (outcome,
      store.setBucket index ((store.bucket index).replace { node with subscribers := subscribers }))

/-- Takes an identity out of the subscribers of a key. -/
def unsubscribe (store : Store) (key : String) (id : SinkId) : UnsubscribeOutcome × Store :=
  match store.locate? key with
  | none => (.keyNotFound, store)
  | some (index, node) =>
    let (found, subscribers) := node.subscribers.remove id
    (if found then .removed else .notSubscribed,
      store.setBucket index ((store.bucket index).replace { node with subscribers := subscribers }))

/-- Takes an identity out of the subscribers of every key, and says of how many. -/
def unsubscribeAll (store : Store) (id : SinkId) : Nat × Store :=
  (store.nodes.countP fun node => node.subscribers.has id,
    { store with
      buckets := store.buckets.map fun bucket =>
        bucket.map fun node => { node with subscribers := (node.subscribers.remove id).2 } })

@[simp] theorem bucket_setBucket_self (store : Store) (index : BucketIndex) (bucket : Bucket) :
    (store.setBucket index bucket).bucket index = bucket := by
  simp [Store.bucket, setBucket]

theorem bucket_setBucket_of_ne {store : Store} {index other : BucketIndex} {bucket : Bucket}
    (apart : index ≠ other) : (store.setBucket index bucket).bucket other = store.bucket other := by
  have apart : index.val ≠ other.val := fun same => apart (Fin.ext same)
  simp [Store.bucket, setBucket, apart]

@[simp] theorem limit_setBucket (store : Store) (index : BucketIndex) (bucket : Bucket) :
    (store.setBucket index bucket).limit = store.limit := rfl

/-- A node that is found has the key that was asked for. -/
theorem key_of_locate? {store : Store} {key : String} {index : BucketIndex} {node : Node}
    (found : store.locate? key = some (index, node)) : node.key = key := by
  simp only [locate?, Option.bind_eq_some_iff, Option.map_eq_some_iff, Prod.mk.injEq] at found
  obtain ⟨_, _, _, hit, _, rfl⟩ := found
  simpa using List.find?_some hit

end Store

end WatchedStore
