import WatchedStore.Key

/-! # Lock order

A batch holds the buckets it touches while it runs and takes them in ascending order, each once,
whatever the order of its keys. Batches that share buckets therefore meet in one global order, and
no cycle of batches can wait for each other.
-/

namespace WatchedStore

/-- How a batch holds its buckets. -/
inductive LockMode
  /-- Together with other batches that only read. -/
  | shared
  /-- Alone. -/
  | exclusive
deriving DecidableEq, Repr

/-- Puts a bucket in its place in an ascending list, unless it is there. -/
def insertOnce (index : BucketIndex) : List BucketIndex → List BucketIndex
  | [] => [index]
  | first :: rest =>
    if index < first then index :: first :: rest
    else if index = first then first :: rest
    else first :: insertOnce index rest

/-- The buckets of a list in ascending order, each once. -/
def ascending (indices : List BucketIndex) : List BucketIndex := indices.foldr insertOnce []

/-- The buckets that a batch of keys locks; a key that belongs to no bucket locks none. -/
def lockOrder (keys : List String) : List BucketIndex := ascending (keys.filterMap bucketOf?)

/-- The buckets that a batch holds, in the order in which it took them, and how. -/
structure Guard where
  buckets : List BucketIndex
  mode : LockMode
deriving DecidableEq, Repr

namespace Guard

/-- The guard of a batch that touches the given buckets. -/
def ofBuckets (indices : List BucketIndex) (mode : LockMode) : Guard := ⟨ascending indices, mode⟩

/-- The guard of a batch of keys. -/
def ofKeys (keys : List String) (mode : LockMode) : Guard := ⟨lockOrder keys, mode⟩

/-- The guard of a batch that touches every bucket. -/
def whole (mode : LockMode) : Guard := ⟨List.finRange bucketCount, mode⟩

end Guard

theorem mem_insertOnce {index other : BucketIndex} {indices : List BucketIndex} :
    other ∈ insertOnce index indices ↔ other = index ∨ other ∈ indices := by
  induction indices with
  | nil => simp [insertOnce]
  | cons first rest ih =>
    unfold insertOnce
    split
    · simp
    · split
      · next same => simp [same]
      · simp only [List.mem_cons, ih, or_left_comm]

@[simp] theorem mem_ascending {index : BucketIndex} {indices : List BucketIndex} :
    index ∈ ascending indices ↔ index ∈ indices := by
  induction indices with
  | nil => simp [ascending]
  | cons first rest ih =>
    rw [ascending, List.foldr_cons, mem_insertOnce, ← ascending, ih, List.mem_cons]

theorem pairwise_insertOnce {index : BucketIndex} {indices : List BucketIndex}
    (sorted : indices.Pairwise (· < ·)) : (insertOnce index indices).Pairwise (· < ·) := by
  induction indices with
  | nil => exact List.pairwise_singleton _ _
  | cons first rest ih =>
    obtain ⟨least, later⟩ := List.pairwise_cons.mp sorted
    unfold insertOnce
    split
    · next below =>
      refine List.pairwise_cons.mpr ⟨fun other member => ?_, sorted⟩
      rcases List.mem_cons.mp member with rfl | member
      · exact below
      · exact Fin.lt_trans below (least other member)
    · next notBelow =>
      split
      · exact sorted
      · next apart =>
        refine List.pairwise_cons.mpr ⟨fun other member => ?_, ih later⟩
        rcases mem_insertOnce.mp member with rfl | member
        · exact Nat.lt_of_le_of_ne (Fin.not_lt.mp notBelow) fun same => apart (Fin.ext same.symm)
        · exact least other member

/-- The buckets of a batch strictly ascend, so none is taken twice. -/
theorem pairwise_ascending (indices : List BucketIndex) :
    (ascending indices).Pairwise (· < ·) := by
  induction indices with
  | nil => exact List.Pairwise.nil
  | cons first rest ih => exact pairwise_insertOnce ih

end WatchedStore
