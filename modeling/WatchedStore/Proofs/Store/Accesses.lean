import WatchedStore.Proofs.Store.Operations

/-! # Batches as programs over the buckets

A batch gets at the store one bucket at a time: it looks a bucket up, and it may put another one in
its place. An access program is a batch written out in these two steps, so what it touches in a run
can be told from its trace, and a bucket that is not in the trace has no part in the run at all. The
mailboxes are not in any bucket and are handed through. The programs of the batches of pairs, of
reads and of deletions do what the hub does.
-/

namespace WatchedStore

theorem Store.setBucket_comm (store : Store) {index other : BucketIndex} (apart : index ≠ other)
    (bucket filled : Bucket) :
    (store.setBucket index bucket).setBucket other filled =
      (store.setBucket other filled).setBucket index bucket := by
  have apart : index.val ≠ other.val := fun same => apart (Fin.ext same)
  exact congrArg (Store.mk store.limit) (Vector.set_comm bucket filled apart)

/-- A program that gets at the store through its buckets only. -/
inductive Access (α : Type)
  | done (result : α)
  /-- Looks a bucket up and goes on with its contents. -/
  | look (index : BucketIndex) (next : Bucket → Access α)
  /-- Puts a bucket in the place of the one that is there. -/
  | put (index : BucketIndex) (bucket : Bucket) (next : Access α)

/-- What a batch gives beside the store. -/
structure Outcome (α : Type) where
  answer : α
  boxes : Mailboxes
  warnings : List Warning

namespace Access

variable {α β : Type}

/-- Goes on with a second program. -/
def bind : Access α → (α → Access β) → Access β
  | done result, next => next result
  | look index later, next => look index fun bucket => (later bucket).bind next
  | put index bucket later, next => put index bucket (later.bind next)

instance : Monad Access where
  pure := done
  bind := bind

/-- Looks one bucket up. -/
def bucketAt (index : BucketIndex) : Access Bucket := look index done

/-- Puts one bucket in its place. -/
def putAt (index : BucketIndex) (bucket : Bucket) : Access Unit := put index bucket (done ())

/-- Runs a program on a store. -/
def run : Access α → Store → α × Store
  | done result, store => (result, store)
  | look index next, store => (next (store.bucket index)).run store
  | put index bucket next, store => next.run (store.setBucket index bucket)

/-- The buckets that a run looks up or puts, one entry for each step. -/
def trace : Access α → Store → List BucketIndex
  | done _, _ => []
  | look index next, store => index :: (next (store.bucket index)).trace store
  | put index bucket next, store => index :: next.trace (store.setBucket index bucket)

section Steps

variable (store : Store)

@[simp] theorem run_pure (result : α) : run (pure result) store = (result, store) := rfl

@[simp] theorem trace_pure (result : α) : trace (pure result) store = [] := rfl

@[simp] theorem run_bucketAt (index : BucketIndex) :
    run (bucketAt index) store = (store.bucket index, store) := rfl

@[simp] theorem trace_bucketAt (index : BucketIndex) : trace (bucketAt index) store = [index] := rfl

@[simp] theorem trace_putAt (index : BucketIndex) (bucket : Bucket) :
    trace (putAt index bucket) store = [index] := rfl

@[simp] theorem run_bind (program : Access α) (next : α → Access β) :
    run (program >>= next) store = run (next (program.run store).1) (program.run store).2 := by
  induction program generalizing store with
  | done result => rfl
  | look index later ih => exact ih (store.bucket index) store
  | put index bucket later ih => exact ih (store.setBucket index bucket)

@[simp] theorem trace_bind (program : Access α) (next : α → Access β) :
    trace (program >>= next) store =
      program.trace store ++ trace (next (program.run store).1) (program.run store).2 := by
  induction program generalizing store with
  | done result => rfl
  | look index later ih => exact congrArg (index :: ·) (ih (store.bucket index) store)
  | put index bucket later ih => exact congrArg (index :: ·) (ih (store.setBucket index bucket))

end Steps

/-- A bucket that a run does not touch can be replaced before the run or after it: the run neither
depends on it nor changes it. -/
theorem run_setBucket {program : Access α} {store : Store} {index : BucketIndex}
    (untouched : index ∉ program.trace store) (bucket : Bucket) :
    program.run (store.setBucket index bucket) =
      ((program.run store).1, (program.run store).2.setBucket index bucket) := by
  induction program generalizing store with
  | done result => rfl
  | look other next ih =>
    have apart := List.ne_of_not_mem_cons untouched
    have later := List.not_mem_of_not_mem_cons untouched
    simp only [run, Store.bucket_setBucket_of_ne apart]
    exact ih _ later
  | put other filled next ih =>
    have apart := List.ne_of_not_mem_cons untouched
    have later := List.not_mem_of_not_mem_cons untouched
    simp only [run, store.setBucket_comm apart]
    exact ih later

section Programs

variable (limit : Nat)

/-- Stores one valid pair. -/
def putPair (index : BucketIndex) (key value : String) (boxes : Mailboxes) :
    Access (Mailboxes × List Warning) := do
  let bucket ← bucketAt index
  match bucket.find? key with
  | none =>
    putAt index (bucket ++ [⟨key, value, Subscribers.empty limit⟩])
    return (boxes, [])
  | some node =>
    let (subscribers, result) := node.subscribers.broadcast (.updated key value) boxes
    putAt index (bucket.replace ⟨key, value, subscribers⟩)
    return (result.boxes, result.warnings)

/-- Stores valid pairs one after the other. -/
def putPairs : List (BucketIndex × String × String) → Mailboxes →
    Access (Mailboxes × List Warning)
  | [], boxes => return (boxes, [])
  | (index, key, value) :: rest, boxes => do
    let first ← putPair limit index key value boxes
    let later ← putPairs rest first.1
    return (later.1, first.2 ++ later.2)

/-- Reads the value of one key. -/
def readKey (key : String) : Access (Option String) :=
  match bucketOf? key with
  | none => return none
  | some index => do
    let bucket ← bucketAt index
    return (bucket.find? key).map Node.value

/-- Reads the values of keys one after the other. -/
def readKeys : List String → Access (List (String × Option String))
  | [] => return []
  | key :: rest => do
    let value ← readKey key
    let later ← readKeys rest
    return (key, value) :: later

/-- Removes one key after a last notification to its subscribers; none when there is no such key. -/
def removeKey (key : String) (boxes : Mailboxes) : Access (Option (Mailboxes × List Warning)) :=
  match bucketOf? key with
  | none => return none
  | some index => do
    let bucket ← bucketAt index
    match bucket.find? key with
    | none => return none
    | some node =>
      let (_, result) := node.subscribers.dismiss (.deleted key) boxes
      putAt index (bucket.erase key)
      return some (result.boxes, result.warnings)

/-- Removes keys one after the other and answers with the ones that were absent at their turn. -/
def removeKeys : List String → Mailboxes → Access (Outcome (List String))
  | [], boxes => return ⟨[], boxes, []⟩
  | key :: rest, boxes => do
    match ← removeKey key boxes with
    | none =>
      let later ← removeKeys rest boxes
      return { later with answer := key :: later.answer }
    | some (boxes, warnings) =>
      let later ← removeKeys rest boxes
      return { later with warnings := warnings ++ later.warnings }

end Programs

theorem run_putPair (hub : Hub) (index : BucketIndex) (key value : String) :
    (putPair hub.store.limit index key value hub.boxes).run hub.store =
      (((hub.put index key value).hub.boxes, (hub.put index key value).warnings),
        (hub.put index key value).hub.store) := by
  unfold putPair Hub.put
  rw [run_bind, run_bucketAt]
  dsimp only
  cases (hub.store.bucket index).find? key with
  | none => rfl
  | some node => rfl

theorem trace_putPair (limit : Nat) (index : BucketIndex) (key value : String) (boxes : Mailboxes)
    (store : Store) :
    (putPair limit index key value boxes).trace store = [index, index] := by
  unfold putPair
  rw [trace_bind, run_bucketAt, trace_bucketAt]
  dsimp only
  cases (store.bucket index).find? key with
  | none => rfl
  | some node => rfl

theorem run_putPairs (hub : Hub) (items : List (BucketIndex × String × String)) :
    (putPairs hub.store.limit items hub.boxes).run hub.store =
      (((hub.putAll items).hub.boxes, (hub.putAll items).warnings),
        (hub.putAll items).hub.store) := by
  induction items generalizing hub with
  | nil => rfl
  | cons item rest ih =>
    obtain ⟨index, key, value⟩ := item
    have later := ih (hub.put index key value).hub
    rw [Hub.limit_put] at later
    simp only [putPairs, run_bind, run_putPair, run_pure, later, Hub.putAll]

theorem mem_trace_putPairs {limit : Nat} {items : List (BucketIndex × String × String)}
    {boxes : Mailboxes} {store : Store} {index : BucketIndex} :
    index ∈ (putPairs limit items boxes).trace store ↔ index ∈ items.map Prod.fst := by
  induction items generalizing boxes store with
  | nil => exact Iff.rfl
  | cons item rest ih =>
    obtain ⟨other, key, value⟩ := item
    simp [putPairs, trace_putPair, ih]

theorem run_readKey (store : Store) (key : String) :
    (readKey key).run store = (store.value? key, store) := by
  unfold readKey Store.value? Store.node? Store.locate?
  cases bucketOf? key with
  | none => rfl
  | some index => simp [Function.comp_def]

theorem trace_readKey (store : Store) (key : String) :
    (readKey key).trace store = (bucketOf? key).toList := by
  unfold readKey
  cases bucketOf? key with
  | none => rfl
  | some index => rfl

theorem run_readKeys (store : Store) (keys : List String) :
    (readKeys keys).run store = (store.read keys, store) := by
  induction keys with
  | nil => rfl
  | cons key rest ih =>
    simp only [readKeys, run_bind, run_readKey, ih, run_pure, Store.read, List.map_cons]

theorem trace_readKeys (store : Store) (keys : List String) :
    (readKeys keys).trace store = keys.filterMap bucketOf? := by
  induction keys with
  | nil => rfl
  | cons key rest ih =>
    simp only [readKeys, trace_bind, trace_readKey, run_readKey, ih, trace_pure, List.append_nil]
    cases placed : bucketOf? key <;> simp [placed]

theorem run_removeKey (hub : Hub) (key : String) :
    (removeKey key hub.boxes).run hub.store =
      ((hub.remove? key).map fun change => (change.hub.boxes, change.warnings),
        (hub.drop key).store) := by
  unfold removeKey Hub.drop Hub.remove? Store.locate?
  cases bucketOf? key with
  | none => rfl
  | some index =>
    simp only [run_bind, run_bucketAt, Option.bind_some]
    cases (hub.store.bucket index).find? key with
    | none => rfl
    | some node => rfl

theorem run_removeKeys (hub : Hub) (keys : List String) :
    (removeKeys keys hub.boxes).run hub.store =
      (⟨(hub.delete keys).answer, (hub.delete keys).hub.boxes, (hub.delete keys).warnings⟩,
        (hub.delete keys).hub.store) := by
  induction keys generalizing hub with
  | nil => rfl
  | cons key rest ih =>
    simp only [removeKeys, run_bind, run_removeKey, Hub.drop, Hub.delete]
    cases hub.remove? key with
    | none => simp only [Option.map_none, run_bind, ih, run_pure]
    | some change => simp only [Option.map_some, run_bind, ih, run_pure]

/-- An attempt to remove a key looks into its bucket whether the key is there or not. -/
theorem mem_trace_removeKey {key : String} {boxes : Mailboxes} {store : Store}
    {index : BucketIndex} :
    index ∈ (removeKey key boxes).trace store ↔ bucketOf? key = some index := by
  unfold removeKey
  cases bucketOf? key with
  | none => simp
  | some other =>
    simp only [trace_bind, run_bucketAt, trace_bucketAt, Option.some.injEq]
    cases (store.bucket other).find? key with
    | none => simp [eq_comm]
    | some node => simp [eq_comm]

theorem mem_trace_removeKeys {keys : List String} {boxes : Mailboxes} {store : Store}
    {index : BucketIndex} :
    index ∈ (removeKeys keys boxes).trace store ↔ ∃ key ∈ keys, bucketOf? key = some index := by
  induction keys generalizing boxes store with
  | nil => simp [removeKeys]
  | cons key rest ih =>
    simp only [removeKeys, trace_bind, List.mem_append, mem_trace_removeKey, List.mem_cons,
      exists_eq_or_imp]
    refine or_congr_right ?_
    split
    · simp only [trace_bind, trace_pure, List.append_nil, ih]
    · simp only [trace_bind, trace_pure, List.append_nil, ih]

end Access

/-- A batch as a program, for the most subscribers that a key may have and the mailboxes. -/
abbrev BatchProgram (α : Type) := Nat → Mailboxes → Access (Outcome α)

namespace BatchProgram

variable {α : Type}

/-- What the hub gives when a batch is run as a program. -/
def reply (program : BatchProgram α) (hub : Hub) : Reply α :=
  let (outcome, store) := (program hub.store.limit hub.boxes).run hub.store
  ⟨outcome.answer, ⟨store, outcome.boxes⟩, outcome.warnings⟩

/-- The buckets that a batch touches on a hub. -/
def touched (program : BatchProgram α) (hub : Hub) : List BucketIndex :=
  (program hub.store.limit hub.boxes).trace hub.store

/-- The batch that writes pairs. -/
def write (pairs : List (String × String)) : BatchProgram (List Rejection) := fun limit boxes => do
  let stored ← Access.putPairs limit (acceptedPairs pairs) boxes
  return ⟨rejectedPairs pairs, stored.1, stored.2⟩

/-- The batch that reads keys. -/
def read (keys : List String) : BatchProgram (List (String × Option String)) := fun _ boxes => do
  let values ← Access.readKeys keys
  return ⟨values, boxes, []⟩

/-- The batch that deletes keys. -/
def delete (keys : List String) : BatchProgram (List String) :=
  fun _ boxes => Access.removeKeys keys boxes

theorem reply_write (pairs : List (String × String)) (hub : Hub) :
    (write pairs).reply hub = hub.write pairs := by
  simp only [reply, write, Access.run_bind, Access.run_putPairs, Access.run_pure,
    Hub.write]

theorem reply_read (keys : List String) (hub : Hub) :
    (read keys).reply hub = ⟨hub.store.read keys, hub, []⟩ := by
  simp only [reply, read, Access.run_bind, Access.run_readKeys, Access.run_pure]

theorem reply_delete (keys : List String) (hub : Hub) :
    (delete keys).reply hub = hub.delete keys := by
  simp only [reply, delete, Access.run_removeKeys]

end BatchProgram

end WatchedStore
