import Mathlib.Data.List.Nodup
import WatchedStore.Hub
import WatchedStore.Proofs.Store.BucketOrder
import WatchedStore.Proofs.Store.Delivery

/-! # Where nodes are filed

A store is sound when every node stands in the bucket of its key, no bucket holds a key twice, and
every set of subscribers is ascending and within the limit. Each edit of a store replaces one
bucket: by a node more at its end, by a node in the place of the one with its key, or by a node
less. The three edits are described once, through the node that a key leads to; the operations of
the hub follow from that and are never unfolded again.
-/

namespace WatchedStore

namespace Subscribers

/-- The members are in ascending order of identity and within the limit of the store. -/
structure Sound (limit : Nat) (subs : Subscribers) : Prop where
  limited : subs.limit = limit
  ascending : subs.members.Pairwise fun a b => a.id < b.id
  within : subs.members.length ≤ limit

theorem sound_empty (limit : Nat) : (empty limit).Sound limit where
  limited := rfl
  ascending := List.Pairwise.nil
  within := Nat.zero_le limit

theorem file_perm (sink : Sink) (members : List Sink) :
    (file sink members).Perm (sink :: members) := by
  induction members with
  | nil => exact List.Perm.refl _
  | cons member rest ih =>
    unfold file
    split
    · exact List.Perm.refl _
    · exact (ih.cons member).trans (List.Perm.swap sink member rest)

theorem pairwise_file {sink : Sink} {members : List Sink}
    (ascending : members.Pairwise fun a b => a.id < b.id)
    (fresh : ∀ member ∈ members, member.id ≠ sink.id) :
    (file sink members).Pairwise fun a b => a.id < b.id := by
  induction members with
  | nil => exact List.pairwise_singleton _ _
  | cons member rest ih =>
    obtain ⟨least, later⟩ := List.pairwise_cons.mp ascending
    unfold file
    split
    · next below =>
      refine List.pairwise_cons.mpr ⟨?_, ascending⟩
      intro other present
      rcases List.mem_cons.mp present with rfl | present
      · exact below
      · exact Nat.lt_trans below (least other present)
    · next notBelow =>
      have apart := fresh member List.mem_cons_self
      refine List.pairwise_cons.mpr
        ⟨?_, ih later fun other present => fresh other (List.mem_cons_of_mem _ present)⟩
      intro other present
      rcases List.mem_cons.mp ((file_perm sink rest).mem_iff.mp present) with rfl | present
      · exact Nat.lt_of_le_of_ne (Nat.le_of_not_lt notBelow) apart
      · exact least other present

theorem has_iff {subs : Subscribers} {id : SinkId} :
    subs.has id = true ↔ ∃ member ∈ subs.members, member.id = id := by
  simp [has]

theorem Sound.insert {limit : Nat} {subs : Subscribers} (sound : subs.Sound limit) (sink : Sink) :
    (subs.insert sink).2.Sound limit := by
  unfold Subscribers.insert
  split
  · exact sound
  · next absent =>
    split
    · exact sound
    · next room =>
      have fresh : ∀ member ∈ subs.members, member.id ≠ sink.id :=
        fun member present same => absent (has_iff.mpr ⟨member, present, same⟩)
      refine ⟨sound.limited, pairwise_file sound.ascending fresh, ?_⟩
      rw [(file_perm sink subs.members).length_eq, List.length_cons]
      simp only [size, sound.limited] at room
      omega

theorem members_insert (subs : Subscribers) (sink : Sink) :
    (subs.insert sink).2.members =
      if (subs.insert sink).1 = .subscribed then file sink subs.members else subs.members := by
  unfold Subscribers.insert
  split
  · rfl
  · split <;> rfl

/-- A set that loses members stays sound. -/
theorem Sound.filter {limit : Nat} {subs : Subscribers} (sound : subs.Sound limit)
    (keep : Sink → Bool) : Sound limit ⟨subs.limit, subs.members.filter keep⟩ where
  limited := sound.limited
  ascending := sound.ascending.sublist List.filter_sublist
  within := Nat.le_trans (List.length_filter_le _ _) sound.within

theorem Sound.remove {limit : Nat} {subs : Subscribers} (sound : subs.Sound limit) (id : SinkId) :
    (subs.remove id).2.Sound limit := sound.filter _

theorem broadcast_fst (subs : Subscribers) (note : Notice) (boxes : Mailboxes) :
    (subs.broadcast note boxes).1 = ⟨subs.limit, subs.members.filter boxes.accepts⟩ := by
  simp only [broadcast, members_broadcastTo]

theorem Sound.nodup_ids {limit : Nat} {subs : Subscribers} (sound : subs.Sound limit) :
    (subs.members.map Sink.id).Nodup :=
  List.pairwise_map.mpr (sound.ascending.imp fun below => Nat.ne_of_lt below)

theorem Sound.nodup {limit : Nat} {subs : Subscribers} (sound : subs.Sound limit) :
    subs.members.Nodup := sound.nodup_ids.of_map

end Subscribers

namespace Bucket

theorem find?_push {bucket : Bucket} {node : Node} (absent : bucket.find? node.key = none)
    (key : String) :
    Bucket.find? (bucket ++ [node]) key =
      if key = node.key then some node else bucket.find? key := by
  unfold find? at absent ⊢
  rw [List.find?_append]
  by_cases same : key = node.key
  · subst same
    simp [absent]
  · simp [same, Ne.symm same]

theorem find?_replace {bucket : Bucket} {node old : Node}
    (present : bucket.find? node.key = some old) (key : String) :
    (bucket.replace node).find? key = if key = node.key then some node else bucket.find? key := by
  unfold find? at present ⊢
  unfold replace
  rw [List.find?_map]
  by_cases same : key = node.key
  · subst same
    have unchanged : ((fun other : Node => decide (other.key = node.key)) ∘
        fun other => if other.key = node.key then node else other) =
        fun other => decide (other.key = node.key) := by
      funext other
      by_cases hit : other.key = node.key <;> simp [hit]
    have hit : old.key = node.key := by simpa using List.find?_some present
    rw [unchanged, present, if_pos rfl, Option.map_some, if_pos hit]
  · have unchanged : ((fun other : Node => decide (other.key = key)) ∘
        fun other => if other.key = node.key then node else other) =
        fun other => decide (other.key = key) := by
      funext other
      by_cases hit : other.key = node.key
      · simp [hit, Ne.symm same]
      · simp [hit]
    rw [unchanged, if_neg same]
    cases found : List.find? (fun other : Node => decide (other.key = key)) bucket with
    | none => rfl
    | some other =>
      have key_eq : other.key = key := by simpa using List.find?_some found
      rw [Option.map_some, if_neg (key_eq ▸ same)]

/-- Without repeated keys, taking one node out is taking every node of the key out. -/
theorem erase_eq_filter {bucket : Bucket} (distinct : (bucket.map Node.key).Nodup) (key : String) :
    bucket.erase key = bucket.filter fun node => node.key ≠ key := by
  unfold erase
  induction bucket with
  | nil => rfl
  | cons node rest ih =>
    obtain ⟨fresh, restDistinct⟩ := List.nodup_cons.mp distinct
    by_cases same : node.key = key
    · have others : rest.filter (fun other => other.key ≠ key) = rest := by
        apply List.filter_eq_self.mpr
        intro other member
        have apart : other.key ≠ key := fun equal =>
          fresh (same ▸ equal ▸ List.mem_map_of_mem member)
        simpa using apart
      simp only [List.eraseP_cons, same, decide_true, ↓reduceIte, cond_true, List.filter_cons,
        ne_eq, not_true_eq_false, decide_false, Bool.false_eq_true, others]
    · simp only [List.eraseP_cons, same, decide_false, cond_false, List.filter_cons, ne_eq,
        not_false_eq_true, decide_true, ↓reduceIte, ih restDistinct]

theorem find?_filter_ne (bucket : Bucket) (key other : String) :
    Bucket.find? (bucket.filter fun node => node.key ≠ key) other =
      if other = key then none else bucket.find? other := by
  unfold find?
  rw [List.find?_filter]
  by_cases same : other = key
  · subst same
    simp
  · rw [if_neg same]
    congr 1
    funext node
    by_cases hit : node.key = other <;> simp [hit, same]

/-- The nodes of one bucket stand there by right, each key once, with sound subscribers. -/
structure Sound (limit : Nat) (index : BucketIndex) (bucket : Bucket) : Prop where
  placed : ∀ node ∈ bucket, bucketOf? node.key = some index
  limited : ∀ node ∈ bucket, node.subscribers.Sound limit
  distinct : (bucket.map Node.key).Nodup

theorem sound_nil (limit : Nat) (index : BucketIndex) : Sound limit index [] where
  placed _ member := absurd member List.not_mem_nil
  limited _ member := absurd member List.not_mem_nil
  distinct := List.nodup_nil

variable {limit : Nat} {index : BucketIndex} {bucket : Bucket}

theorem Sound.push (sound : bucket.Sound limit index) {node : Node}
    (placed : bucketOf? node.key = some index) (limited : node.subscribers.Sound limit)
    (absent : bucket.find? node.key = none) : Sound limit index (bucket ++ [node]) where
  placed := by
    intro other member
    rcases List.mem_append.mp member with member | member
    · exact sound.placed other member
    · rw [List.mem_singleton.mp member, placed]
  limited := by
    intro other member
    rcases List.mem_append.mp member with member | member
    · exact sound.limited other member
    · rw [List.mem_singleton.mp member]
      exact limited
  distinct := by
    rw [List.map_append, List.map_singleton, List.nodup_append]
    refine ⟨sound.distinct, List.nodup_singleton _, ?_⟩
    intro key present other equal same
    obtain ⟨old, member, rfl⟩ := List.mem_map.mp present
    have missing := List.find?_eq_none.mp absent old member
    rw [List.mem_singleton.mp equal] at same
    exact missing (decide_eq_true same)

theorem Sound.replace (sound : bucket.Sound limit index) {node : Node}
    (placed : bucketOf? node.key = some index) (limited : node.subscribers.Sound limit) :
    (bucket.replace node).Sound limit index where
  placed := by
    intro other member
    obtain ⟨old, present, rfl⟩ := List.mem_map.mp member
    split
    · exact placed
    · exact sound.placed old present
  limited := by
    intro other member
    obtain ⟨old, present, rfl⟩ := List.mem_map.mp member
    split
    · exact limited
    · exact sound.limited old present
  distinct := by
    have keys : (bucket.replace node).map Node.key = bucket.map Node.key := by
      unfold Bucket.replace
      rw [List.map_map]
      apply List.map_congr_left
      intro old _
      by_cases hit : old.key = node.key <;> simp [hit]
    rw [keys]
    exact sound.distinct

theorem Sound.filter (sound : bucket.Sound limit index) (keep : Node → Bool) :
    Sound limit index (bucket.filter keep) where
  placed node member := sound.placed node (List.mem_of_mem_filter member)
  limited node member := sound.limited node (List.mem_of_mem_filter member)
  distinct := sound.distinct.sublist (List.filter_sublist.map _)

/-- Editing the subscribers of every node moves nothing. -/
theorem Sound.mapSubscribers (sound : bucket.Sound limit index) {edit : Subscribers → Subscribers}
    (keeps : ∀ subs : Subscribers, subs.Sound limit → (edit subs).Sound limit) :
    Sound limit index
      (bucket.map fun node => { node with subscribers := edit node.subscribers }) where
  placed := by
    intro node member
    obtain ⟨old, present, rfl⟩ := List.mem_map.mp member
    exact sound.placed old present
  limited := by
    intro node member
    obtain ⟨old, present, rfl⟩ := List.mem_map.mp member
    exact keeps _ (sound.limited old present)
  distinct := by
    rw [List.map_map]
    exact sound.distinct

/-- The node that is found is the only one of its key. -/
theorem Sound.eq_of_find? (sound : bucket.Sound limit index) {key : String} {node old : Node}
    (found : bucket.find? key = some node) (member : old ∈ bucket) (same : old.key = key) :
    old = node := by
  have hit : node.key = key := by simpa using List.find?_some found
  exact List.inj_on_of_nodup_map sound.distinct member (List.mem_of_find?_eq_some found)
    (same.trans hit.symm)

end Bucket

namespace Store

/-- Every bucket is sound. -/
def Sound (store : Store) : Prop := ∀ index, (store.bucket index).Sound store.limit index

/-- The sinks subscribed to a key; an absent key has none. -/
def members (store : Store) (key : String) : List Sink :=
  ((store.node? key).map fun node => node.subscribers.members).getD []

theorem bucket_empty (limit : Nat) (index : BucketIndex) : (empty limit).bucket index = [] := by
  simp [Store.bucket, empty]

theorem sound_empty (limit : Nat) : (empty limit).Sound := by
  intro index
  rw [bucket_empty]
  exact Bucket.sound_nil limit index

theorem Sound.setBucket {store : Store} (sound : store.Sound) {index : BucketIndex}
    {bucket : Bucket} (inside : bucket.Sound store.limit index) : (store.setBucket index bucket).Sound := by
  intro other
  by_cases same : index = other
  · subst same
    rw [bucket_setBucket_self]
    exact inside
  · rw [bucket_setBucket_of_ne same]
    exact sound other

theorem node?_eq_bind (store : Store) (key : String) :
    store.node? key = (bucketOf? key).bind fun index => (store.bucket index).find? key := by
  unfold node? locate?
  cases bucketOf? key with
  | none => rfl
  | some index =>
    rw [Option.bind_some, Option.bind_some, Option.map_map]
    exact Option.map_id'

theorem node?_of_placed {store : Store} {key : String} {index : BucketIndex}
    (placed : bucketOf? key = some index) : store.node? key = (store.bucket index).find? key := by
  rw [node?_eq_bind, placed, Option.bind_some]

theorem locate?_eq_some_iff {store : Store} {key : String} {index : BucketIndex} {node : Node} :
    store.locate? key = some (index, node) ↔
      bucketOf? key = some index ∧ store.node? key = some node := by
  unfold node? locate?
  cases bucketOf? key with
  | none => simp
  | some other => simp [and_comm]

theorem locate?_eq_none_iff {store : Store} {key : String} :
    store.locate? key = none ↔ store.node? key = none := by
  unfold node?
  exact Option.map_eq_none_iff.symm

theorem node?_empty (limit : Nat) (key : String) : (empty limit).node? key = none := by
  rw [node?_eq_bind]
  cases bucketOf? key with
  | none => rfl
  | some index =>
    rw [Option.bind_some, bucket_empty]
    rfl

/-- Only the keys of the bucket that is replaced can lead elsewhere. -/
theorem node?_setBucket (store : Store) (index : BucketIndex) (bucket : Bucket) (key : String) :
    (store.setBucket index bucket).node? key =
      if bucketOf? key = some index then bucket.find? key else store.node? key := by
  rw [node?_eq_bind, node?_eq_bind]
  cases placed : bucketOf? key with
  | none => rfl
  | some other =>
    by_cases same : index = other
    · subst same
      simp only [Option.bind_some, bucket_setBucket_self, ↓reduceIte]
    · rw [if_neg fun equal => same (Option.some.inj equal).symm]
      simp only [Option.bind_some, bucket_setBucket_of_ne same]

theorem node?_push {store : Store} {index : BucketIndex} {node : Node}
    (placed : bucketOf? node.key = some index) (absent : store.node? node.key = none)
    (key : String) :
    (store.setBucket index (store.bucket index ++ [node])).node? key =
      if key = node.key then some node else store.node? key := by
  rw [node?_setBucket]
  rw [node?_of_placed placed] at absent
  by_cases here : bucketOf? key = some index
  · rw [if_pos here, Bucket.find?_push absent, node?_of_placed here]
  · have apart : key ≠ node.key := fun same => here (same ▸ placed)
    rw [if_neg here, if_neg apart]

theorem node?_replace {store : Store} {index : BucketIndex} {node old : Node}
    (placed : bucketOf? node.key = some index) (present : store.node? node.key = some old)
    (key : String) :
    (store.setBucket index ((store.bucket index).replace node)).node? key =
      if key = node.key then some node else store.node? key := by
  rw [node?_setBucket]
  rw [node?_of_placed placed] at present
  by_cases here : bucketOf? key = some index
  · rw [if_pos here, Bucket.find?_replace present, node?_of_placed here]
  · have apart : key ≠ node.key := fun same => here (same ▸ placed)
    rw [if_neg here, if_neg apart]

theorem node?_erase {store : Store} (sound : store.Sound) {index : BucketIndex} {key : String}
    (placed : bucketOf? key = some index) (other : String) :
    (store.setBucket index ((store.bucket index).erase key)).node? other =
      if other = key then none else store.node? other := by
  rw [node?_setBucket, Bucket.erase_eq_filter (sound index).distinct]
  by_cases here : bucketOf? other = some index
  · rw [if_pos here, Bucket.find?_filter_ne, node?_of_placed here]
  · have apart : other ≠ key := fun same => here (same ▸ placed)
    rw [if_neg here, if_neg apart]

/-- A node that a key leads to stands in the bucket of the key. -/
theorem Sound.of_node? {store : Store} (sound : store.Sound) {key : String} {node : Node}
    (found : store.node? key = some node) :
    node.key = key ∧ node.subscribers.Sound store.limit := by
  rw [node?_eq_bind] at found
  obtain ⟨index, _, hit⟩ := Option.bind_eq_some_iff.mp found
  exact ⟨by simpa using List.find?_some hit,
    (sound index).limited node (List.mem_of_find?_eq_some hit)⟩

/-- The nodes of a sound store are those that their keys lead to. -/
theorem Sound.mem_nodes_iff {store : Store} (sound : store.Sound) {node : Node} :
    node ∈ store.nodes ↔ store.node? node.key = some node := by
  rw [nodes_eq_flatMap, List.mem_flatMap]
  constructor
  · rintro ⟨index, -, member⟩
    rw [node?_of_placed ((sound index).placed node member)]
    cases found : (store.bucket index).find? node.key with
    | none => exact absurd (decide_eq_true rfl) (List.find?_eq_none.mp found node member)
    | some other => rw [(sound index).eq_of_find? found member rfl]
  · intro found
    rw [node?_eq_bind] at found
    obtain ⟨index, -, hit⟩ := Option.bind_eq_some_iff.mp found
    exact ⟨index, List.mem_finRange index, List.mem_of_find?_eq_some hit⟩

/-- No two nodes of a sound store have one key, in whichever buckets they stand. -/
theorem Sound.nodup_keys {store : Store} (sound : store.Sound) :
    (store.nodes.map Node.key).Nodup := by
  rw [nodes_eq_flatMap, List.map_flatMap, List.nodup_flatMap]
  refine ⟨fun index _ => (sound index).distinct, (List.nodup_finRange _).imp ?_⟩
  intro first second apart key inFirst inSecond
  obtain ⟨left, leftMember, rfl⟩ := List.mem_map.mp inFirst
  obtain ⟨right, rightMember, same⟩ := List.mem_map.mp inSecond
  have leftPlaced := (sound first).placed left leftMember
  have rightPlaced := (sound second).placed right rightMember
  rw [same, leftPlaced] at rightPlaced
  exact apart (Option.some.inj rightPlaced)

end Store

end WatchedStore
