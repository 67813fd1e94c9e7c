import WatchedStore.Proofs.Store.Held

/-! # Stores without a subscriber

Taking an identity out of the subscribers of every key moves no node and changes no value. Every edit
of a store therefore gives the same whether the identity is taken out before it or after it: an edit
that concerns the identity is undone by taking it out, and any other has its effect on those that
stay. Only the limit of a set could tell the difference, when the identity takes the last place.
-/

namespace WatchedStore

namespace Subscribers

/-- The set without an identity. -/
def without (subs : Subscribers) (id : SinkId) : Subscribers := (subs.remove id).2

variable {id other : SinkId}

theorem members_without (subs : Subscribers) (id : SinkId) :
    (subs.without id).members = subs.members.filter fun member => member.id ≠ id := rfl

theorem without_without (subs : Subscribers) (id : SinkId) :
    (subs.without id).without id = subs.without id := by
  simp [without, remove, List.filter_filter]

theorem without_comm (subs : Subscribers) (id other : SinkId) :
    (subs.without id).without other = (subs.without other).without id := by
  simp [without, remove, List.filter_filter, Bool.and_comm]

theorem has_without (subs : Subscribers) (apart : other ≠ id) :
    (subs.without id).has other = subs.has other := by
  rw [Bool.eq_iff_iff, has_iff, has_iff]
  constructor
  · rintro ⟨member, present, same⟩
    exact ⟨member, List.mem_of_mem_filter present, same⟩
  · rintro ⟨member, present, same⟩
    exact ⟨member, List.mem_filter.mpr ⟨present, decide_eq_true (same ▸ apart)⟩, same⟩

/-- A sink that is taken out has left no trace in the order of the others. -/
theorem filter_file_self (sink : Sink) (members : List Sink) :
    (file sink members).filter (fun member => member.id ≠ sink.id) =
      members.filter fun member => member.id ≠ sink.id := by
  induction members with
  | nil => simp [file]
  | cons first rest ih =>
    unfold file
    split
    · simp
    · rw [List.filter_cons, List.filter_cons, ih]

/-- Among ascending identities a sink finds its place whoever else is missing. -/
theorem filter_file_of_ne {sink : Sink} {members : List Sink}
    (ascending : members.Pairwise fun a b => a.id < b.id) (apart : sink.id ≠ id) :
    (file sink members).filter (fun member => member.id ≠ id) =
      file sink (members.filter fun member => member.id ≠ id) := by
  induction members with
  | nil => simp [file, apart]
  | cons first rest ih =>
    obtain ⟨least, later⟩ := List.pairwise_cons.mp ascending
    by_cases gone : first.id = id
    · -- The one that is missing may have been the one before which the sink stands.
      by_cases before : sink.id < first.id
      · have first_of_rest : file sink (rest.filter fun member => member.id ≠ id) =
            sink :: rest.filter fun member => member.id ≠ id := by
          cases kept : rest.filter fun member => member.id ≠ id with
          | nil => rfl
          | cons next others =>
            have member : next ∈ rest :=
              List.mem_of_mem_filter (kept ▸ List.mem_cons_self)
            rw [file, if_pos (Nat.lt_trans before (least next member))]
        rw [file, if_pos before, List.filter_cons_of_pos (by simpa using apart),
          List.filter_cons_of_neg (by simpa using gone), first_of_rest]
      · rw [file, if_neg before, List.filter_cons_of_neg (by simpa using gone),
          List.filter_cons_of_neg (by simpa using gone), ih later]
    · rw [List.filter_cons_of_pos (by simpa using gone)]
      unfold file
      split
      · rw [List.filter_cons_of_pos (by simpa using apart),
          List.filter_cons_of_pos (by simpa using gone)]
      · rw [List.filter_cons_of_pos (by simpa using gone), ih later]

theorem without_insert_self (subs : Subscribers) (sink : Sink) :
    (subs.insert sink).2.without sink.id = subs.without sink.id := by
  unfold insert without remove
  split
  · rfl
  · split
    · rfl
    · simp only [filter_file_self]

/-- A sink that is not turned away by the limit is answered and filed as if the identity were not
there. -/
theorem insert_without {limit : Nat} {subs : Subscribers} (sound : subs.Sound limit) {sink : Sink}
    (apart : sink.id ≠ id) (room : (subs.insert sink).1 ≠ .limitReached) :
    (subs.without id).insert sink = ((subs.insert sink).1, (subs.insert sink).2.without id) := by
  have fewer : (subs.without id).size ≤ subs.size := List.length_filter_le _ _
  unfold insert at room ⊢
  rw [has_without subs apart]
  split
  · rfl
  · next absent =>
    rw [if_neg absent] at room
    by_cases full : subs.limit ≤ subs.size
    · rw [if_pos full] at room
      exact absurd rfl room
    · have free : ¬ (subs.without id).limit ≤ (subs.without id).size := fun tight =>
        full (Nat.le_trans tight fewer)
      rw [if_neg full, if_neg free, members_without,
        ← filter_file_of_ne sound.ascending apart]
      rfl

end Subscribers

/-- The node without an identity among its subscribers. -/
def Node.without (node : Node) (id : SinkId) : Node :=
  { node with subscribers := node.subscribers.without id }

namespace Bucket

/-- The bucket without an identity among the subscribers of its nodes. -/
def without (bucket : Bucket) (id : SinkId) : Bucket := bucket.map fun node => node.without id

variable {id : SinkId}

theorem without_without (bucket : Bucket) (id : SinkId) :
    (bucket.without id).without id = bucket.without id := by
  unfold without
  rw [List.map_map]
  refine List.map_congr_left fun node _ => ?_
  rw [Function.comp_apply, Node.without, Node.without, Subscribers.without_without]

theorem without_comm (bucket : Bucket) (id other : SinkId) :
    (bucket.without id).without other = (bucket.without other).without id := by
  unfold without
  rw [List.map_map, List.map_map]
  refine List.map_congr_left fun node _ => ?_
  rw [Function.comp_apply, Function.comp_apply, Node.without, Node.without, Node.without,
    Node.without, Subscribers.without_comm]

theorem without_push (bucket : Bucket) (node : Node) (id : SinkId) :
    without (bucket ++ [node]) id = bucket.without id ++ [node.without id] :=
  List.map_append

theorem without_replace (bucket : Bucket) (node : Node) (id : SinkId) :
    (bucket.replace node).without id = (bucket.without id).replace (node.without id) := by
  unfold replace without
  rw [List.map_map, List.map_map]
  refine List.map_congr_left fun old _ => ?_
  by_cases hit : old.key = node.key <;> simp [Node.without, hit]

theorem without_erase (bucket : Bucket) (key : String) (id : SinkId) :
    (bucket.erase key).without id = (bucket.without id).erase key := by
  unfold erase without
  rw [List.eraseP_map]
  rfl

/-- What is in its place already is not changed by putting it there. -/
theorem Sound.replace_self {limit : Nat} {index : BucketIndex} {bucket : Bucket}
    (sound : bucket.Sound limit index) {key : String} {node : Node}
    (found : bucket.find? key = some node) : bucket.replace node = bucket := by
  refine (List.map_congr_left fun old member => ?_).trans (List.map_id _)
  split
  · next same =>
    have hit : node.key = key := by simpa using List.find?_some found
    exact (sound.eq_of_find? found member (same.trans hit)).symm
  · rfl

end Bucket

namespace Store

/-- The store without an identity among the subscribers of its keys. -/
def without (store : Store) (id : SinkId) : Store := (store.unsubscribeAll id).2

variable {store : Store} {id : SinkId} {key : String}

theorem bucket_without (store : Store) (id : SinkId) (index : BucketIndex) :
    (store.without id).bucket index = (store.bucket index).without id :=
  bucket_unsubscribeAll store id index

theorem limit_without (store : Store) (id : SinkId) : (store.without id).limit = store.limit := rfl

theorem ext_bucket {one two : Store} (limit : one.limit = two.limit)
    (buckets : ∀ index, one.bucket index = two.bucket index) : one = two := by
  obtain ⟨limitOne, bucketsOne⟩ := one
  obtain ⟨limitTwo, bucketsTwo⟩ := two
  obtain rfl : limitOne = limitTwo := limit
  congr 1
  exact Vector.ext fun place bound => buckets ⟨place, bound⟩

theorem without_setBucket (store : Store) (index : BucketIndex) (bucket : Bucket) (id : SinkId) :
    (store.setBucket index bucket).without id =
      (store.without id).setBucket index (bucket.without id) := by
  refine ext_bucket rfl fun other => ?_
  rw [bucket_without]
  by_cases same : index = other
  · subst same
    rw [bucket_setBucket_self, bucket_setBucket_self]
  · rw [bucket_setBucket_of_ne same, bucket_setBucket_of_ne same, bucket_without]

theorem node?_without (store : Store) (id : SinkId) (key : String) :
    (store.without id).node? key = (store.node? key).map fun node => node.without id :=
  node?_unsubscribeAll store id key

theorem members_without (store : Store) (id : SinkId) (key : String) :
    (store.without id).members key = (store.members key).filter fun sink => sink.id ≠ id :=
  members_unsubscribeAll store id key

/-- No two subscribers of a key have one identity. -/
theorem Sound.nodup_ids_members (sound : store.Sound) (key : String) :
    ((store.members key).map Sink.id).Nodup := by
  cases found : store.node? key with
  | none =>
    rw [members_of_absent found]
    exact List.nodup_nil
  | some node =>
    rw [members_of_node? found]
    exact (sound.of_node? found).2.nodup_ids

theorem nodes_without (store : Store) (id : SinkId) :
    (store.without id).nodes = store.nodes.map fun node => node.without id := by
  simp only [nodes, without, unsubscribeAll, Vector.toList_map, List.map_flatten]
  rfl

theorem snapshot_without (store : Store) (id : SinkId) :
    (store.without id).snapshot = store.snapshot := snapshot_unsubscribeAll store id

theorem size_without (store : Store) (id : SinkId) : (store.without id).size = store.size := by
  have pairs := congrArg List.length (snapshot_without store id)
  rwa [snapshot, snapshot, List.length_map, List.length_map] at pairs

theorem value?_without (store : Store) (id : SinkId) (key : String) :
    (store.without id).value? key = store.value? key := by
  rw [value?, value?, node?_without, Option.map_map]
  rfl

theorem held_without (store : Store) (id : SinkId) (key : String) :
    (store.without id).held key = store.held key := by
  unfold held
  cases bucketOf? key with
  | none => rfl
  | some index =>
    dsimp only
    rw [bucket_without, Bucket.held, Bucket.held, Bucket.without, List.filter_map, List.map_map]
    rfl

theorem without_without (store : Store) (id : SinkId) :
    (store.without id).without id = store.without id := by
  refine ext_bucket (limit_without _ id) fun index => ?_
  rw [bucket_without, bucket_without, Bucket.without_without]

theorem without_comm (store : Store) (id other : SinkId) :
    (store.without id).without other = (store.without other).without id := by
  refine ext_bucket ?_ fun index => ?_
  · rw [limit_without, limit_without, limit_without, limit_without]
  · rw [bucket_without, bucket_without, bucket_without, bucket_without, Bucket.without_comm]

/-- An edit of the subscribers of one key and taking an identity out may change places if they may do
so on the set of that key. -/
theorem without_editSubscribers {edit later : Subscribers → Subscribers}
    (commutes : ∀ node, store.node? key = some node →
      (edit node.subscribers).without id = later (node.subscribers.without id)) :
    (store.editSubscribers key edit).without id =
      (store.without id).editSubscribers key later := by
  cases found : store.locate? key with
  | none =>
    have absent := locate?_eq_none_iff.mp found
    have gone : (store.without id).locate? key = none := by
      rw [locate?_eq_none_iff, node?_without, absent]
      rfl
    simp only [editSubscribers, found, gone]
  | some place =>
    obtain ⟨index, node⟩ := place
    obtain ⟨placed, present⟩ := locate?_eq_some_iff.mp found
    have still : (store.without id).locate? key = some (index, node.without id) := by
      rw [locate?_eq_some_iff, node?_without, present]
      exact ⟨placed, rfl⟩
    simp only [editSubscribers, found, still]
    rw [without_setBucket, Bucket.without_replace, bucket_without]
    unfold Node.without
    dsimp only
    rw [commutes node present]

theorem setBucket_bucket (store : Store) (index : BucketIndex) :
    store.setBucket index (store.bucket index) = store := by
  refine ext_bucket rfl fun other => ?_
  by_cases same : index = other
  · subst same
    rw [bucket_setBucket_self]
  · rw [bucket_setBucket_of_ne same]

/-- An edit of the subscribers of one key that taking the identity out undoes. -/
theorem Sound.without_editSubscribers_self (sound : store.Sound) (key : String)
    {edit : Subscribers → Subscribers}
    (undone : ∀ subs : Subscribers, (edit subs).without id = subs.without id) :
    (store.editSubscribers key edit).without id = store.without id := by
  have unedited : store.editSubscribers key (fun subs => subs) = store := by
    unfold Store.editSubscribers
    cases found : store.locate? key with
    | none => rfl
    | some place =>
      obtain ⟨index, node⟩ := place
      obtain ⟨placed, present⟩ := locate?_eq_some_iff.mp found
      dsimp only
      rw [node?_of_placed placed] at present
      rw [(sound index).replace_self present, setBucket_bucket]
  calc (store.editSubscribers key edit).without id
      = (store.without id).editSubscribers key (fun subs => subs) :=
        without_editSubscribers fun node _ => undone node.subscribers
    _ = (store.editSubscribers key fun subs => subs).without id :=
        (without_editSubscribers fun _ _ => rfl).symm
    _ = store.without id := by rw [unedited]

end Store

end WatchedStore
