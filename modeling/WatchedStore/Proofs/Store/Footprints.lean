import Mathlib.Data.List.Sort
import WatchedStore.Proofs.Store.Accesses
import WatchedStore.Proofs.Store.Held

/-! # A batch locks what it touches

The guard of a batch is fixed before the batch has looked at any bucket: from the valid pairs of a
write, and from all keys of a read or a deletion that belong to a bucket, valid or not. Every bucket
of the guard is touched when the batch runs and no other one is, on any hub. That no other bucket
matters, and that each of these does, is also said without the steps of the batch: the buckets outside
the guard are those that can be replaced before the batch or after it without a difference.
-/

namespace WatchedStore

variable {α : Type}

/-- A hub with one bucket replaced. -/
def Hub.setBucket (hub : Hub) (index : BucketIndex) (bucket : Bucket) : Hub :=
  { hub with store := hub.store.setBucket index bucket }

/-- A reply with one bucket of its hub replaced. -/
def Reply.setBucket (reply : Reply α) (index : BucketIndex) (bucket : Bucket) : Reply α :=
  { reply with hub := reply.hub.setBucket index bucket }

/-- The guard holds exactly the buckets that an operation touches when it is carried out by a
program. -/
structure Guard.IsFootprint (guard : Guard) (program : BatchProgram α) (operation : Hub → Reply α) :
    Prop where
  ascends : guard.buckets.Pairwise (· < ·)
  computes : ∀ hub, program.reply hub = operation hub
  touched : ∀ hub index, index ∈ program.touched hub ↔ index ∈ guard.buckets
  /-- Outside the guard the operation neither depends on the store nor changes it. -/
  untouched : ∀ hub, ∀ index ∉ guard.buckets, ∀ bucket,
    operation (hub.setBucket index bucket) = (operation hub).setBucket index bucket
  /-- Every bucket of the guard is needed for what some contents of it do to the operation. -/
  needed : ∀ hub, ∀ index ∈ guard.buckets, ∃ bucket,
    operation (hub.setBucket index bucket) ≠ (operation hub).setBucket index bucket

/-- The buckets of a list of keys, in the order in which they are locked. -/
structure LocksExactly (keys : List String) (order : List BucketIndex) : Prop where
  ascends : order.Pairwise (· < ·)
  mem_iff : ∀ index, index ∈ order ↔ ∃ key ∈ keys, bucketOf? key = some index
  below : ∀ index ∈ order, index.val < 36
  /-- Neither the order of the keys nor keys that are there already or belong to no bucket matter. -/
  unmoved : ∀ added others, (∀ key ∈ added, key ∈ keys ∨ bucketOf? key = none) →
    others.Perm (keys ++ added) → lockOrder others = order

section LockOrder

variable {keys others : List String} {index : BucketIndex}

theorem mem_lockOrder : index ∈ lockOrder keys ↔ ∃ key ∈ keys, bucketOf? key = some index := by
  rw [lockOrder, mem_ascending, List.mem_filterMap]

/-- The lock order depends on which buckets the keys belong to, and on nothing else. -/
theorem lockOrder_congr
    (same : ∀ index, (∃ key ∈ keys, bucketOf? key = some index) ↔
      ∃ key ∈ others, bucketOf? key = some index) :
    lockOrder keys = lockOrder others := by
  refine List.Pairwise.eq_of_mem_iff (pairwise_ascending _) (pairwise_ascending _) fun index => ?_
  exact mem_lockOrder.trans ((same index).trans mem_lockOrder.symm)

theorem locksExactly_lockOrder (keys : List String) : LocksExactly keys (lockOrder keys) where
  ascends := pairwise_ascending _
  mem_iff _ := mem_lockOrder
  below index _ := index.isLt
  unmoved added others idle shuffled := by
    refine lockOrder_congr fun index => ⟨?_, ?_⟩
    · rintro ⟨key, member, placed⟩
      rcases List.mem_append.mp (shuffled.mem_iff.mp member) with listed | extra
      · exact ⟨key, listed, placed⟩
      · rcases idle key extra with listed | unplaced
        · exact ⟨key, listed, placed⟩
        · rw [unplaced] at placed
          cases placed
    · rintro ⟨key, member, placed⟩
      exact ⟨key, shuffled.mem_iff.mpr (List.mem_append_left _ member), placed⟩

end LockOrder

/-- A batch run as a program takes no notice of a bucket that it does not touch. -/
theorem BatchProgram.reply_setBucket {program : BatchProgram α} {hub : Hub} {index : BucketIndex}
    (untouched : index ∉ program.touched hub) (bucket : Bucket) :
    program.reply (hub.setBucket index bucket) = (program.reply hub).setBucket index bucket := by
  have ran := Access.run_setBucket untouched bucket
  simp only [reply, Hub.setBucket, Store.limit_setBucket, ran, Reply.setBucket]

/-- The steps of a program tell what lies outside its guard; only what its guard is needed for is
left to show. -/
theorem Guard.IsFootprint.of_touched {guard : Guard} {program : BatchProgram α}
    {operation : Hub → Reply α} (ascends : guard.buckets.Pairwise (· < ·))
    (computes : ∀ hub, program.reply hub = operation hub)
    (touched : ∀ hub index, index ∈ program.touched hub ↔ index ∈ guard.buckets)
    (needed : ∀ hub, ∀ index ∈ guard.buckets, ∃ bucket,
      operation (hub.setBucket index bucket) ≠ (operation hub).setBucket index bucket) :
    guard.IsFootprint program operation where
  ascends := ascends
  computes := computes
  touched := touched
  untouched hub index outside bucket := by
    have idle : index ∉ program.touched hub := fun member => outside ((touched hub index).mp member)
    rw [← computes, ← computes, BatchProgram.reply_setBucket idle]
  needed := needed

section Write

variable {pairs : List (String × String)} {index : BucketIndex}

theorem mem_writeGuard :
    index ∈ (Hub.writeGuard pairs).buckets ↔
      ∃ key value, (key, value) ∈ pairs ∧ validatePair key value = .ok index := by
  rw [Hub.writeGuard, Guard.ofBuckets, mem_ascending, List.mem_map]
  constructor
  · rintro ⟨⟨index, key, value⟩, accepted, rfl⟩
    exact ⟨key, value, mem_acceptedPairs_iff.mp accepted⟩
  · rintro ⟨key, value, accepted⟩
    exact ⟨(index, key, value), mem_acceptedPairs_iff.mpr accepted, rfl⟩

theorem foldl_fill_ne_nil {values : List (String × String)} (given : values ≠ [])
    (held : List String) : values.foldl (fun held pair => fill pair.2 held) held ≠ [] := by
  induction values generalizing held with
  | nil => exact absurd rfl given
  | cons pair rest ih =>
    rw [List.foldl_cons]
    cases rest with
    | nil => cases held <;> exact List.cons_ne_nil _ _
    | cons next later => exact ih (List.cons_ne_nil _ _) _

/-- A key that a batch of pairs writes holds something afterwards, even in a bucket that was empty. -/
theorem Hub.exists_write_setBucket_ne (hub : Hub) (member : index ∈ (writeGuard pairs).buckets) :
    ∃ bucket, (hub.setBucket index bucket).write pairs ≠ (hub.write pairs).setBucket index bucket := by
  obtain ⟨key, value, listed, valid⟩ := mem_writeGuard.mp member
  have accepted : (index, key, value) ∈ acceptedPairs pairs := mem_acceptedPairs_iff.mpr ⟨listed, valid⟩
  have placed : bucketOf? key = some index := bucketOf?_of_mem_acceptedPairs accepted
  have good : (key, value) ∈ goodPairs pairs :=
    map_snd_acceptedPairs pairs ▸ List.mem_map_of_mem accepted
  have given : (goodPairs pairs).filter (fun pair => pair.1 = key) ≠ [] :=
    List.ne_nil_of_mem (List.mem_filter.mpr ⟨good, decide_eq_true rfl⟩)
  refine ⟨[], fun same => ?_⟩
  have held : ((hub.setBucket index []).write pairs).hub.store.held key = [] := by
    rw [same, Reply.setBucket, setBucket, Store.held_setBucket, if_pos placed]
    rfl
  rw [held_write] at held
  exact foldl_fill_ne_nil given _ held

end Write

/-- A bucket with one key. -/
private def lone (key value : String) : Bucket := [⟨key, value, Subscribers.empty 0⟩]

private theorem held_lone (key value : String) : (lone key value).held key = [value] := by
  simp [lone, Bucket.held]

section Keys

variable {keys : List String} {index : BucketIndex}

/-- A batch of reads gives the value that stands in the bucket. -/
theorem Hub.exists_read_setBucket_ne (hub : Hub) (member : index ∈ (readGuard keys).buckets) :
    ∃ bucket, (⟨(hub.setBucket index bucket).store.read keys, hub.setBucket index bucket, []⟩ :
      Reply (List (String × Option String))) ≠
        Reply.setBucket ⟨hub.store.read keys, hub, []⟩ index bucket := by
  obtain ⟨key, listed, placed⟩ := mem_lockOrder.mp member
  by_contra! never
  have shown (value : String) : some value = hub.store.value? key := by
    have answers := congrArg Reply.answer (never (lone key value))
    have read := (List.map_inj_left.mp answers) key listed
    simp only [Prod.mk.injEq, true_and] at read
    rw [← read, ← Store.head?_held, setBucket, Store.held_setBucket, if_pos placed, held_lone]
    rfl
  exact absurd ((shown "").trans (shown "x").symm) (by decide)

/-- A batch of deletions takes a key out of the bucket that holds nothing else. -/
theorem Hub.exists_delete_setBucket_ne (hub : Hub) (member : index ∈ (deleteGuard keys).buckets) :
    ∃ bucket, (hub.setBucket index bucket).delete keys ≠ (hub.delete keys).setBucket index bucket := by
  obtain ⟨key, listed, placed⟩ := mem_lockOrder.mp member
  refine ⟨lone key "", fun same => ?_⟩
  have kept : ((hub.setBucket index (lone key "")).delete keys).hub.store.held key = [""] := by
    rw [same, Reply.setBucket, setBucket, Store.held_setBucket, if_pos placed, held_lone]
  have named : 0 < keys.count key := List.count_pos_iff.mpr listed
  rw [held_delete, setBucket, Store.held_setBucket, if_pos placed, held_lone,
    List.drop_eq_nil_of_le named] at kept
  cases kept

end Keys

section Batches

theorem isFootprint_writeGuard (pairs : List (String × String)) :
    (Hub.writeGuard pairs).IsFootprint (.write pairs) fun hub => hub.write pairs := by
  refine .of_touched (pairwise_ascending _) (BatchProgram.reply_write pairs) ?_
    fun hub index => hub.exists_write_setBucket_ne
  intro hub index
  rw [BatchProgram.touched, BatchProgram.write, Access.trace_bind, Access.trace_pure,
    List.append_nil, Access.mem_trace_putPairs, Hub.writeGuard, Guard.ofBuckets, mem_ascending]

theorem isFootprint_readGuard (keys : List String) :
    (Hub.readGuard keys).IsFootprint (.read keys) fun hub => ⟨hub.store.read keys, hub, []⟩ := by
  refine .of_touched (pairwise_ascending _) (BatchProgram.reply_read keys) ?_
    fun hub index => hub.exists_read_setBucket_ne
  intro hub index
  rw [BatchProgram.touched, BatchProgram.read, Access.trace_bind, Access.trace_pure,
    List.append_nil, Access.trace_readKeys, Hub.readGuard, Guard.ofKeys, lockOrder, mem_ascending]

theorem isFootprint_deleteGuard (keys : List String) :
    (Hub.deleteGuard keys).IsFootprint (.delete keys) fun hub => hub.delete keys := by
  refine .of_touched (pairwise_ascending _) (BatchProgram.reply_delete keys) ?_
    fun hub index => hub.exists_delete_setBucket_ne
  intro hub index
  rw [BatchProgram.touched, BatchProgram.delete, Access.mem_trace_removeKeys, Hub.deleteGuard,
    Guard.ofKeys, mem_lockOrder]

end Batches

/-- A batch locks what it touches: keys lock their buckets in ascending order, each once, however
they are listed, and a batch of pairs, reads or deletions touches the buckets of its guard and no
others. -/
theorem guards_are_footprints (keys : List String) (pairs : List (String × String)) :
    LocksExactly keys (lockOrder keys) ∧
    ((Hub.writeGuard pairs).IsFootprint (.write pairs) (fun hub => hub.write pairs) ∧
      ∀ index, index ∈ (Hub.writeGuard pairs).buckets ↔
        ∃ key value, (key, value) ∈ pairs ∧ validatePair key value = .ok index) ∧
    ((Hub.readGuard keys).IsFootprint (.read keys) (fun hub => ⟨hub.store.read keys, hub, []⟩) ∧
      (Hub.readGuard keys).buckets = lockOrder keys) ∧
    ((Hub.deleteGuard keys).IsFootprint (.delete keys) (fun hub => hub.delete keys) ∧
      (Hub.deleteGuard keys).buckets = lockOrder keys) :=
  ⟨locksExactly_lockOrder keys, ⟨isFootprint_writeGuard pairs, fun _ => mem_writeGuard⟩,
    ⟨isFootprint_readGuard keys, rfl⟩, ⟨isFootprint_deleteGuard keys, rfl⟩⟩

/-- A key locks its bucket even where it could never be stored, a pair only where it can be. -/
example :
    (lockOrder ["zoo", "a(", "_", "5", "Ant", "a("]).map Fin.val = [0, 25, 31] ∧
      (Hub.writeGuard [("a(", "1"), ("b", "2"), ("c", "")]).buckets.map Fin.val = [1] := by decide

end WatchedStore
