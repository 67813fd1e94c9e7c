import WatchedStore.Proofs.Store.Filing

/-! # What the operations do

Each operation is described by the node that every key leads to afterwards and by the mailboxes it
leaves. An absent key counts as a key without members: putting its pair is a broadcast to nobody, so
creating and overwriting need no separate statements about notifications. A batch is the run of its
single edits in list order.
-/

namespace WatchedStore

namespace Store

theorem members_of_node? {store : Store} {key : String} {node : Node}
    (found : store.node? key = some node) : store.members key = node.subscribers.members := by
  rw [members, found]
  rfl

theorem members_of_absent {store : Store} {key : String} (absent : store.node? key = none) :
    store.members key = [] := by
  rw [members, absent]
  rfl

theorem members_empty (limit : Nat) (key : String) : (empty limit).members key = [] :=
  members_of_absent (node?_empty limit key)

theorem Sound.nodup_members {store : Store} (sound : store.Sound) (key : String) :
    (store.members key).Nodup := by
  cases found : store.node? key with
  | none =>
    rw [members_of_absent found]
    exact List.nodup_nil
  | some node =>
    rw [members_of_node? found]
    exact (sound.of_node? found).2.nodup

theorem members_length_le {store : Store} (sound : store.Sound) (key : String) :
    (store.members key).length ≤ store.limit := by
  cases found : store.node? key with
  | none =>
    rw [members_of_absent found]
    exact Nat.zero_le _
  | some node =>
    rw [members_of_node? found]
    exact (sound.of_node? found).2.within

theorem subscriberCount_eq (store : Store) (key : String) :
    store.subscriberCount key = (store.members key).length := by
  unfold subscriberCount members
  cases store.node? key <;> rfl

theorem subscribe_fst (store : Store) (key : String) (sink : Sink) :
    (store.subscribe key sink).1 =
      match store.node? key with
      | none => .keyNotFound
      | some node => (node.subscribers.insert sink).1 := by
  unfold subscribe
  cases found : store.locate? key with
  | none => rw [locate?_eq_none_iff.mp found]
  | some place => rw [(locate?_eq_some_iff.mp found).2]

theorem unsubscribe_fst (store : Store) (key : String) (id : SinkId) :
    (store.unsubscribe key id).1 =
      match store.node? key with
      | none => .keyNotFound
      | some node => if node.subscribers.has id then .removed else .notSubscribed := by
  unfold unsubscribe
  cases found : store.locate? key with
  | none => rw [locate?_eq_none_iff.mp found]
  | some place => rw [(locate?_eq_some_iff.mp found).2]; rfl

/-- Edits the subscribers of one key, if there is such a key. -/
def editSubscribers (store : Store) (key : String) (edit : Subscribers → Subscribers) : Store :=
  match store.locate? key with
  | none => store
  | some (index, node) =>
    store.setBucket index
      ((store.bucket index).replace { node with subscribers := edit node.subscribers })

theorem subscribe_snd (store : Store) (key : String) (sink : Sink) :
    (store.subscribe key sink).2 = store.editSubscribers key fun subs => (subs.insert sink).2 := by
  unfold subscribe editSubscribers
  cases store.locate? key <;> rfl

theorem unsubscribe_snd (store : Store) (key : String) (id : SinkId) :
    (store.unsubscribe key id).2 = store.editSubscribers key fun subs => (subs.remove id).2 := by
  unfold unsubscribe editSubscribers
  cases store.locate? key <;> rfl

@[simp] theorem limit_editSubscribers (store : Store) (key : String)
    (edit : Subscribers → Subscribers) :
    (store.editSubscribers key edit).limit = store.limit := by
  unfold editSubscribers
  cases store.locate? key <;> rfl

/-- Editing the subscribers of one key leaves the nodes of the other keys. -/
theorem node?_editSubscribers (store : Store) (key : String) (edit : Subscribers → Subscribers)
    (other : String) :
    (store.editSubscribers key edit).node? other =
      if other = key then
        (store.node? key).map fun node => { node with subscribers := edit node.subscribers }
      else store.node? other := by
  unfold editSubscribers
  cases found : store.locate? key with
  | none =>
    have absent := locate?_eq_none_iff.mp found
    by_cases same : other = key
    · simp [same, absent]
    · simp [same]
  | some place =>
    obtain ⟨index, node⟩ := place
    obtain rfl := key_of_locate? found
    obtain ⟨placed, present⟩ := locate?_eq_some_iff.mp found
    dsimp only
    rw [present, Option.map_some]
    exact @node?_replace store index { node with subscribers := edit node.subscribers } node
      placed present other

theorem Sound.editSubscribers {store : Store} (sound : store.Sound) (key : String)
    {edit : Subscribers → Subscribers}
    (keeps : ∀ subs : Subscribers, subs.Sound store.limit → (edit subs).Sound store.limit) :
    (store.editSubscribers key edit).Sound := by
  unfold Store.editSubscribers
  cases found : store.locate? key with
  | none => exact sound
  | some place =>
    obtain ⟨index, node⟩ := place
    obtain ⟨placed, present⟩ := locate?_eq_some_iff.mp found
    obtain ⟨rfl, limited⟩ := sound.of_node? present
    exact sound.setBucket ((sound index).replace placed (keeps _ limited))

theorem Sound.subscribe {store : Store} (sound : store.Sound) (key : String) (sink : Sink) :
    (store.subscribe key sink).2.Sound := by
  rw [subscribe_snd]
  exact sound.editSubscribers key fun subs limited => limited.insert sink

theorem Sound.unsubscribe {store : Store} (sound : store.Sound) (key : String) (id : SinkId) :
    (store.unsubscribe key id).2.Sound := by
  rw [unsubscribe_snd]
  exact sound.editSubscribers key fun subs limited => limited.remove id

theorem bucket_unsubscribeAll (store : Store) (id : SinkId) (index : BucketIndex) :
    (store.unsubscribeAll id).2.bucket index =
      (store.bucket index).map fun node =>
        { node with subscribers := (node.subscribers.remove id).2 } := by
  simp [unsubscribeAll, Store.bucket]

theorem node?_unsubscribeAll (store : Store) (id : SinkId) (key : String) :
    (store.unsubscribeAll id).2.node? key =
      (store.node? key).map fun node =>
        { node with subscribers := (node.subscribers.remove id).2 } := by
  rw [node?_eq_bind, node?_eq_bind]
  cases bucketOf? key with
  | none => rfl
  | some index =>
    rw [Option.bind_some, Option.bind_some, bucket_unsubscribeAll]
    exact List.find?_map

/-- Releasing subscriptions changes no value. -/
theorem snapshot_unsubscribeAll (store : Store) (id : SinkId) :
    (store.unsubscribeAll id).2.snapshot = store.snapshot := by
  simp only [snapshot, nodes, unsubscribeAll, Vector.toList_map, List.map_flatten, List.map_map]
  congr 1
  exact List.map_congr_left fun bucket _ => List.map_map

theorem Sound.unsubscribeAll {store : Store} (sound : store.Sound) (id : SinkId) :
    (store.unsubscribeAll id).2.Sound := by
  intro index
  rw [bucket_unsubscribeAll]
  exact (sound index).mapSubscribers fun subs limited => limited.remove id

/-- A subscription changes the members of its key, and only if it is granted. -/
theorem members_subscribe (store : Store) (key : String) (sink : Sink) (other : String) :
    (store.subscribe key sink).2.members other =
      if other = key ∧ (store.subscribe key sink).1 = .subscribed then
        Subscribers.file sink (store.members key)
      else store.members other := by
  rw [subscribe_fst, members, subscribe_snd, node?_editSubscribers]
  by_cases same : other = key
  · rw [if_pos same, same]
    cases found : store.node? key with
    | none => simp [members_of_absent found]
    | some node =>
      rw [members_of_node? found]
      simpa using Subscribers.members_insert node.subscribers sink
  · rw [if_neg same, if_neg fun both => same both.1, members]

theorem members_unsubscribe (store : Store) (key : String) (id : SinkId) (other : String) :
    (store.unsubscribe key id).2.members other =
      if other = key then (store.members key).filter fun member => member.id ≠ id
      else store.members other := by
  rw [members, unsubscribe_snd, node?_editSubscribers]
  by_cases same : other = key
  · rw [if_pos same, if_pos same, members]
    cases store.node? key <;> rfl
  · rw [if_neg same, if_neg same, members]

theorem members_unsubscribeAll (store : Store) (id : SinkId) (key : String) :
    (store.unsubscribeAll id).2.members key =
      (store.members key).filter fun member => member.id ≠ id := by
  rw [members, node?_unsubscribeAll, members]
  cases store.node? key <;> rfl

end Store

namespace Hub

theorem store_subscribe (hub : Hub) (key : String) (sink : Sink) :
    (hub.subscribe key sink).2.store =
      hub.store.editSubscribers key fun subs => (subs.insert sink).2 :=
  Store.subscribe_snd hub.store key sink

theorem store_unsubscribe (hub : Hub) (key : String) (id : SinkId) :
    (hub.unsubscribe key id).2.store =
      hub.store.editSubscribers key fun subs => (subs.remove id).2 :=
  Store.unsubscribe_snd hub.store key id

/-- Deletes one key if it is there. -/
def drop (hub : Hub) (key : String) : Hub :=
  match hub.remove? key with
  | none => hub
  | some change => change.hub

theorem remove?_eq_none_iff {hub : Hub} {key : String} :
    hub.remove? key = none ↔ hub.store.node? key = none := by
  unfold remove?
  rw [Option.map_eq_none_iff, Store.locate?_eq_none_iff]

/-- Deleting a batch is deleting its keys one after the other. -/
theorem hub_delete (hub : Hub) (keys : List String) :
    (hub.delete keys).hub = keys.foldl drop hub := by
  induction keys generalizing hub with
  | nil => rfl
  | cons key rest ih =>
    rw [List.foldl_cons, delete, drop]
    cases hub.remove? key with
    | none => exact ih hub
    | some change => exact ih change.hub

/-- Writing a batch is putting its valid pairs one after the other. -/
theorem hub_write (hub : Hub) (pairs : List (String × String)) :
    (hub.write pairs).hub =
      (acceptedPairs pairs).foldl (fun hub item => (hub.put item.1 item.2.1 item.2.2).hub) hub := by
  unfold write
  generalize acceptedPairs pairs = items
  dsimp only
  induction items generalizing hub with
  | nil => rfl
  | cons item rest ih =>
    obtain ⟨index, key, value⟩ := item
    rw [List.foldl_cons, putAll]
    exact ih _

section Put

variable {hub : Hub} {index : BucketIndex} {key : String}

theorem put_of_absent (placed : bucketOf? key = some index) (absent : hub.store.node? key = none)
    (value : String) :
    hub.put index key value =
      ⟨⟨hub.store.setBucket index
        (hub.store.bucket index ++ [⟨key, value, Subscribers.empty hub.store.limit⟩]),
        hub.boxes⟩, []⟩ := by
  rw [Store.node?_of_placed placed] at absent
  simp only [put, absent]

theorem put_of_present (placed : bucketOf? key = some index) {node : Node}
    (present : hub.store.node? key = some node) (value : String) :
    (hub.put index key value).hub =
      ⟨hub.store.setBucket index ((hub.store.bucket index).replace
        ⟨key, value, ⟨node.subscribers.limit, node.subscribers.members.filter hub.boxes.accepts⟩⟩),
        (broadcastTo (.updated key value) node.subscribers.members hub.boxes).boxes⟩ := by
  rw [Store.node?_of_placed placed] at present
  simp only [put, present, Subscribers.broadcast_fst]
  rfl

@[simp] theorem limit_put (hub : Hub) (index : BucketIndex) (key value : String) :
    (hub.put index key value).hub.store.limit = hub.store.limit := by
  unfold put
  dsimp only
  split <;> rfl

/-- After a put the key leads to the new value and to the members that accept. -/
theorem node?_put (sound : hub.store.Sound) (placed : bucketOf? key = some index)
    (value other : String) :
    (hub.put index key value).hub.store.node? other =
      if other = key then
        some ⟨key, value, ⟨hub.store.limit, (hub.store.members key).filter hub.boxes.accepts⟩⟩
      else hub.store.node? other := by
  cases found : hub.store.node? key with
  | none =>
    rw [put_of_absent placed found, Store.members_of_absent found]
    exact @Store.node?_push hub.store index ⟨key, value, Subscribers.empty hub.store.limit⟩
      placed found other
  | some node =>
    rw [put_of_present placed found, Store.members_of_node? found,
      (sound.of_node? found).2.limited]
    exact @Store.node?_replace hub.store index ⟨key, value, ⟨hub.store.limit,
      node.subscribers.members.filter hub.boxes.accepts⟩⟩ node placed found other

/-- A put keeps the members of its key that accept, and all those of the other keys. -/
theorem members_put (sound : hub.store.Sound) (placed : bucketOf? key = some index)
    (value other : String) :
    (hub.put index key value).hub.store.members other =
      if other = key then (hub.store.members key).filter hub.boxes.accepts
      else hub.store.members other := by
  rw [Store.members, node?_put sound placed]
  by_cases same : other = key
  · rw [if_pos same, if_pos same]
    rfl
  · rw [if_neg same, if_neg same, Store.members]

/-- A put notifies the members of the key, of which a new key has none. -/
theorem boxes_put (placed : bucketOf? key = some index) (value : String) :
    (hub.put index key value).hub.boxes =
      (broadcastTo (.updated key value) (hub.store.members key) hub.boxes).boxes := by
  cases found : hub.store.node? key with
  | none =>
    rw [put_of_absent placed found, Store.members_of_absent found]
    rfl
  | some node => rw [put_of_present placed found, Store.members_of_node? found]

theorem sound_put (sound : hub.store.Sound) (placed : bucketOf? key = some index) (value : String) :
    (hub.put index key value).hub.store.Sound := by
  cases found : hub.store.node? key with
  | none =>
    rw [put_of_absent placed found]
    rw [Store.node?_of_placed placed] at found
    exact sound.setBucket
      ((sound index).push placed (Subscribers.sound_empty hub.store.limit) found)
  | some node =>
    rw [put_of_present placed found]
    exact sound.setBucket
      ((sound index).replace placed ((sound.of_node? found).2.filter hub.boxes.accepts))

end Put

section Drop

variable {hub : Hub}

theorem drop_of_absent {key : String} (absent : hub.store.node? key = none) :
    hub.drop key = hub := by
  rw [drop, remove?_eq_none_iff.mpr absent]

theorem drop_of_located {key : String} {index : BucketIndex} {node : Node}
    (found : hub.store.locate? key = some (index, node)) :
    hub.drop key =
      ⟨hub.store.setBucket index ((hub.store.bucket index).erase key),
        (broadcastTo (.deleted key) node.subscribers.members hub.boxes).boxes⟩ := by
  rw [drop, remove?, found]
  rfl

@[simp] theorem limit_drop (hub : Hub) (key : String) :
    (hub.drop key).store.limit = hub.store.limit := by
  cases found : hub.store.locate? key with
  | none => rw [drop_of_absent (Store.locate?_eq_none_iff.mp found)]
  | some place =>
    rw [drop_of_located found]
    rfl

/-- After a deletion the key leads nowhere. -/
theorem node?_drop (sound : hub.store.Sound) (key other : String) :
    (hub.drop key).store.node? other = if other = key then none else hub.store.node? other := by
  cases found : hub.store.locate? key with
  | none =>
    have absent := Store.locate?_eq_none_iff.mp found
    rw [drop_of_absent absent]
    by_cases same : other = key
    · rw [if_pos same, same, absent]
    · rw [if_neg same]
  | some place =>
    rw [drop_of_located found]
    exact Store.node?_erase sound (Store.locate?_eq_some_iff.mp found).1 other

/-- A deletion ends every subscription to its key and none to another. -/
theorem members_drop (sound : hub.store.Sound) (key other : String) :
    (hub.drop key).store.members other =
      if other = key then [] else hub.store.members other := by
  rw [Store.members, node?_drop sound]
  by_cases same : other = key
  · rw [if_pos same, if_pos same]
    rfl
  · rw [if_neg same, if_neg same, Store.members]

/-- A deletion notifies the members of the key, of which an absent key has none. -/
theorem boxes_drop (hub : Hub) (key : String) :
    (hub.drop key).boxes =
      (broadcastTo (.deleted key) (hub.store.members key) hub.boxes).boxes := by
  cases found : hub.store.locate? key with
  | none =>
    have absent := Store.locate?_eq_none_iff.mp found
    rw [drop_of_absent absent, Store.members_of_absent absent]
    rfl
  | some place =>
    rw [drop_of_located found, Store.members_of_node? (Store.locate?_eq_some_iff.mp found).2]

theorem sound_drop (sound : hub.store.Sound) (key : String) : (hub.drop key).store.Sound := by
  cases found : hub.store.locate? key with
  | none =>
    rw [drop_of_absent (Store.locate?_eq_none_iff.mp found)]
    exact sound
  | some place =>
    rw [drop_of_located found, Bucket.erase_eq_filter (sound place.1).distinct]
    exact sound.setBucket ((sound place.1).filter _)

end Drop

end Hub

end WatchedStore
