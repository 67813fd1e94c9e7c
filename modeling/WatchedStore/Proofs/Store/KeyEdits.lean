import WatchedStore.Proofs.Store.Isolation

/-! # Calls about keys as runs of edits

What a call about named keys does to a store is a run of edits, each about one key. An edit changes
nothing but the node of its key, so nothing outside the bucket in which that key is filed, and how it
changes it depends on that node alone and on which mailboxes have a reader. No edit opens or closes a
mailbox. Two runs about different keys can therefore change places as far as any part of the store
goes that not both of them touch: one node, or one bucket with the order of its nodes.
-/

namespace WatchedStore

/-- A change of what a store holds about one key. -/
inductive KeyEdit
  | put (key value : String)
  | drop (key : String)
  | subscribe (key : String) (sink : Sink)
  | unsubscribe (key : String) (id : SinkId)
deriving DecidableEq, Repr

/-- The key that is edited. -/
def KeyEdit.key : KeyEdit → String
  | put key _ | drop key | subscribe key _ | unsubscribe key _ => key

/-- The keys that a call names, for the calls that are about keys. -/
def Call.keys? : Call → Option (List String)
  | write pairs => some (pairs.map Prod.fst)
  | read keys | delete keys => some keys
  | subscribe key _ | unsubscribe key _ | subscriberCount key => some [key]
  | snapshot | size | unsubscribeAll _ | openMailbox _ | receive _ _ | closeMailbox _ => none

/-- The edits that a call about keys consists of. -/
def Call.keyEdits : Call → List KeyEdit
  | write pairs => (goodPairs pairs).map fun pair => .put pair.1 pair.2
  | delete keys => keys.map .drop
  | subscribe key sink => [.subscribe key sink]
  | unsubscribe key id => [.unsubscribe key id]
  | _ => []

namespace Store

variable {store later : Store} {key : String} {index : BucketIndex}

theorem members_congr (same : later.node? key = store.node? key) :
    later.members key = store.members key := by
  rw [members, members, same]

theorem node?_congr (placed : bucketOf? key = some index)
    (same : later.bucket index = store.bucket index) : later.node? key = store.node? key := by
  rw [node?_of_placed placed, node?_of_placed placed, same]

theorem node?_editSubscribers_congr (same : later.node? key = store.node? key)
    (edit : Subscribers → Subscribers) :
    (later.editSubscribers key edit).node? key = (store.editSubscribers key edit).node? key := by
  rw [node?_editSubscribers, node?_editSubscribers, if_pos rfl, if_pos rfl, same]

theorem bucket_editSubscribers_of_ne (apart : bucketOf? key ≠ some index)
    (edit : Subscribers → Subscribers) :
    (store.editSubscribers key edit).bucket index = store.bucket index := by
  unfold editSubscribers
  cases found : store.locate? key with
  | none => rfl
  | some place =>
    refine bucket_setBucket_of_ne fun same => apart ?_
    rw [← same]
    exact (locate?_eq_some_iff.mp found).1

theorem bucket_editSubscribers_congr (placed : bucketOf? key = some index)
    (same : later.bucket index = store.bucket index) (edit : Subscribers → Subscribers) :
    (later.editSubscribers key edit).bucket index = (store.editSubscribers key edit).bucket index := by
  have nodes := node?_congr placed same
  unfold editSubscribers
  cases found : store.node? key with
  | none =>
    rw [locate?_eq_none_iff.mpr found, locate?_eq_none_iff.mpr (nodes.trans found)]
    exact same
  | some node =>
    rw [locate?_eq_some_iff.mpr ⟨placed, found⟩,
      locate?_eq_some_iff.mpr ⟨placed, nodes.trans found⟩]
    dsimp only
    rw [bucket_setBucket_self, bucket_setBucket_self, same]

end Store

namespace Hub

/-- Makes an edit. A key without a bucket cannot be put. -/
def edit (hub : Hub) : KeyEdit → Hub
  | .put key value =>
    match bucketOf? key with
    | none => hub
    | some index => (hub.put index key value).hub
  | .drop key => hub.drop key
  | .subscribe key sink => (hub.subscribe key sink).2
  | .unsubscribe key id => (hub.unsubscribe key id).2

/-- Makes edits one after the other. -/
def editAll (hub : Hub) (edits : List KeyEdit) : Hub := edits.foldl edit hub

section Calls

variable {call : Call} {keys : List String}

theorem edit_put {key : String} {index : BucketIndex} (placed : bucketOf? key = some index)
    (hub : Hub) (value : String) : hub.edit (.put key value) = (hub.put index key value).hub := by
  simp only [edit, placed]

theorem edit_put_of_unplaced {key : String} (unplaced : bucketOf? key = none) (hub : Hub)
    (value : String) : hub.edit (.put key value) = hub := by
  simp only [edit, unplaced]

/-- Writing a batch is putting its good pairs. -/
theorem hub_write_eq_editAll (hub : Hub) (pairs : List (String × String)) :
    (hub.write pairs).hub = hub.editAll (Call.write pairs).keyEdits := by
  rw [hub_write, editAll, Call.keyEdits, ← map_snd_acceptedPairs, List.map_map, List.foldl_map]
  refine List.foldl_ext _ _ _ fun current item member => ?_
  exact (edit_put (bucketOf?_of_mem_acceptedPairs member) current item.2.2).symm

/-- A call about keys does what its edits do. -/
theorem hub_call_eq_editAll (hub : Hub) (named : call.keys? = some keys) :
    (hub.call call).2 = hub.editAll call.keyEdits := by
  cases call with
  | write pairs => exact hub.hub_write_eq_editAll pairs
  | delete keys =>
    rw [Hub.call, hub_delete, Call.keyEdits, editAll, List.foldl_map]
    rfl
  | read | subscribe | unsubscribe | subscriberCount => rfl
  | snapshot | size | unsubscribeAll | openMailbox | receive | closeMailbox => cases named

/-- The edits of a call are about keys that it names. -/
theorem key_mem_of_mem_keyEdits (named : call.keys? = some keys) {edit : KeyEdit}
    (member : edit ∈ call.keyEdits) : edit.key ∈ keys := by
  cases call with
  | write pairs =>
    obtain ⟨pair, good, rfl⟩ := List.mem_map.mp member
    cases named
    exact List.mem_map_of_mem (List.mem_of_mem_filter good)
  | delete names =>
    obtain ⟨key, asked, rfl⟩ := List.mem_map.mp member
    cases named
    exact asked
  | subscribe | unsubscribe =>
    cases named
    rw [List.mem_singleton.mp member]
    exact List.mem_singleton_self _
  | read | subscriberCount => exact absurd member List.not_mem_nil
  | snapshot | size | unsubscribeAll | openMailbox | receive | closeMailbox => cases named

end Calls

section Steps

variable {hub other : Hub}

theorem sound_edit (sound : hub.store.Sound) (edit : KeyEdit) : (hub.edit edit).store.Sound := by
  cases edit with
  | put key value =>
    cases placed : bucketOf? key with
    | none => rwa [edit_put_of_unplaced placed]
    | some index =>
      rw [edit_put placed]
      exact sound_put sound placed value
  | drop key => exact sound_drop sound key
  | subscribe key sink => exact sound.subscribe key sink
  | unsubscribe key id => exact sound.unsubscribe key id

@[simp] theorem limit_edit (hub : Hub) (edit : KeyEdit) :
    (hub.edit edit).store.limit = hub.store.limit := by
  cases edit with
  | put key value =>
    cases placed : bucketOf? key with
    | none => rw [edit_put_of_unplaced placed]
    | some index => rw [edit_put placed, limit_put]
  | drop key => exact limit_drop hub key
  | subscribe key sink => rw [Hub.edit, store_subscribe, Store.limit_editSubscribers]
  | unsubscribe key id => rw [Hub.edit, store_unsubscribe, Store.limit_editSubscribers]

/-- An edit opens and closes no mailbox. -/
@[simp] theorem map_isOpen_edit (hub : Hub) (edit : KeyEdit) :
    (hub.edit edit).boxes.map Mailbox.isOpen = hub.boxes.map Mailbox.isOpen := by
  cases edit with
  | put key value =>
    cases placed : bucketOf? key with
    | none => rw [edit_put_of_unplaced placed]
    | some index => rw [edit_put placed, boxes_put placed, map_isOpen_broadcastTo]
  | drop key => rw [Hub.edit, boxes_drop, map_isOpen_broadcastTo]
  | subscribe | unsubscribe => rfl

end Steps

/-- Two hubs in which an edit has the same effect on equal nodes: they have the same limit, and the same
mailboxes have a reader. -/
structure Alike (hub other : Hub) : Prop where
  sound : hub.store.Sound
  soundOther : other.store.Sound
  limit : other.store.limit = hub.store.limit
  reading : other.boxes.map Mailbox.isOpen = hub.boxes.map Mailbox.isOpen

namespace Alike

variable {hub other : Hub}

theorem refl (sound : hub.store.Sound) : hub.Alike hub := ⟨sound, sound, rfl, rfl⟩

theorem symm (alike : hub.Alike other) : other.Alike hub :=
  ⟨alike.soundOther, alike.sound, alike.limit.symm, alike.reading.symm⟩

theorem edit (alike : hub.Alike other) (edit : KeyEdit) : hub.Alike (other.edit edit) where
  sound := alike.sound
  soundOther := sound_edit alike.soundOther edit
  limit := (limit_edit ..).trans alike.limit
  reading := (map_isOpen_edit ..).trans alike.reading

theorem editAll (alike : hub.Alike other) (edits : List KeyEdit) :
    hub.Alike (other.editAll edits) :=
  List.foldlRecOn edits _ alike fun _ current edit _ => current.edit edit

/-- The same edit on both sides. -/
theorem edit_both (alike : hub.Alike other) (edit : KeyEdit) :
    (hub.edit edit).Alike (other.edit edit) :=
  ((alike.edit edit).symm.edit edit).symm

theorem accepts_eq (alike : hub.Alike other) : other.boxes.accepts = hub.boxes.accepts :=
  funext (accepts_congr alike.reading)

end Alike

/-! ## Parts of a store -/

/-- A look at parts of a store, and which of them the edits of a key touch. An edit changes no other
part, and what becomes of a part that it touches depends on nothing else in the store. -/
structure IsLocal {ι β : Type} (look : Store → ι → β) (touches : String → ι → Prop) : Prop where
  frame : ∀ {hub : Hub} {edit : KeyEdit} {part : ι}, hub.store.Sound → ¬ touches edit.key part →
    look (hub.edit edit).store part = look hub.store part
  congr : ∀ {hub other : Hub} {edit : KeyEdit} {part : ι}, hub.Alike other → touches edit.key part →
    look other.store part = look hub.store part →
    look (other.edit edit).store part = look (hub.edit edit).store part

namespace IsLocal

variable {ι β : Type} {look : Store → ι → β} {touches : String → ι → Prop} {part : ι}
  {hub other : Hub} {edits first second : List KeyEdit}

theorem frame_all (isLocal : IsLocal look touches) (sound : hub.store.Sound)
    (apart : ∀ edit ∈ edits, ¬ touches edit.key part) :
    look (hub.editAll edits).store part = look hub.store part := by
  induction edits generalizing hub with
  | nil => rfl
  | cons edit rest ih =>
    have later := ih (sound_edit sound edit) fun next member => apart next (List.mem_cons_of_mem _ member)
    exact later.trans (isLocal.frame sound (apart edit List.mem_cons_self))

theorem congr_edit (isLocal : IsLocal look touches) (alike : hub.Alike other) (edit : KeyEdit)
    (same : look other.store part = look hub.store part) :
    look (other.edit edit).store part = look (hub.edit edit).store part := by
  by_cases touched : touches edit.key part
  · exact isLocal.congr alike touched same
  · rw [isLocal.frame alike.soundOther touched, isLocal.frame alike.sound touched, same]

theorem congr_all (isLocal : IsLocal look touches) (alike : hub.Alike other) (edits : List KeyEdit)
    (same : look other.store part = look hub.store part) :
    look (other.editAll edits).store part = look (hub.editAll edits).store part := by
  induction edits generalizing hub other with
  | nil => exact same
  | cons edit rest ih => exact ih (alike.edit_both edit) (isLocal.congr_edit alike edit same)

/-- Where one of two runs touches nothing, it may come before or after the other. -/
theorem skip (isLocal : IsLocal look touches) (sound : hub.store.Sound)
    (apart : ∀ edit ∈ first, ¬ touches edit.key part) :
    look ((hub.editAll first).editAll second).store part = look (hub.editAll second).store part ∧
      look ((hub.editAll second).editAll first).store part = look (hub.editAll second).store part :=
  ⟨isLocal.congr_all ((Alike.refl sound).editAll first) second (isLocal.frame_all sound apart),
    isLocal.frame_all ((Alike.refl sound).editAll second).soundOther apart⟩

/-- Two runs change places as far as a part goes that not both of them touch. -/
theorem comm (isLocal : IsLocal look touches) (sound : hub.store.Sound)
    (apart : ∀ one ∈ first, ∀ other ∈ second, touches one.key part → ¬ touches other.key part) :
    look ((hub.editAll first).editAll second).store part =
      look ((hub.editAll second).editAll first).store part := by
  by_cases touched : ∃ one ∈ first, touches one.key part
  · obtain ⟨one, member, touched⟩ := touched
    obtain ⟨before, after⟩ := @skip _ _ _ _ part hub second first isLocal sound
      fun other also => apart one member other also touched
    exact after.trans before.symm
  · obtain ⟨before, after⟩ := @skip _ _ _ _ part hub first second isLocal sound
      fun one member touches => touched ⟨one, member, touches⟩
    exact before.trans after.symm

end IsLocal

section Nodes

/-- The node of a key is changed by the edits of this key. -/
theorem isLocal_node? : IsLocal Store.node? (· = ·) where
  frame := by
    intro hub edit key sound elsewhere
    have apart : key ≠ edit.key := Ne.symm elsewhere
    cases edit with
    | put name value =>
      cases placed : bucketOf? name with
      | none => rw [edit_put_of_unplaced placed]
      | some index =>
        rw [edit_put placed, node?_put sound placed]
        exact if_neg apart
    | drop name =>
      rw [Hub.edit, node?_drop sound]
      exact if_neg apart
    | subscribe name sink =>
      rw [Hub.edit, store_subscribe, Store.node?_editSubscribers]
      exact if_neg apart
    | unsubscribe name id =>
      rw [Hub.edit, store_unsubscribe, Store.node?_editSubscribers]
      exact if_neg apart
  congr := by
    intro hub other edit key alike touched same
    cases edit with
    | put name value =>
      obtain rfl : name = key := touched
      cases placed : bucketOf? name with
      | none => rwa [edit_put_of_unplaced placed, edit_put_of_unplaced placed]
      | some index =>
        rw [edit_put placed, edit_put placed, node?_put alike.soundOther placed,
          node?_put alike.sound placed, Store.members_congr same, alike.limit, alike.accepts_eq, same]
    | drop name => rw [Hub.edit, Hub.edit, node?_drop alike.soundOther, node?_drop alike.sound, same]
    | subscribe name sink =>
      obtain rfl : name = key := touched
      rw [Hub.edit, Hub.edit, store_subscribe, store_subscribe]
      exact Store.node?_editSubscribers_congr same _
    | unsubscribe name id =>
      obtain rfl : name = key := touched
      rw [Hub.edit, Hub.edit, store_unsubscribe, store_unsubscribe]
      exact Store.node?_editSubscribers_congr same _

end Nodes

section Buckets

variable {hub other : Hub} {key : String} {index : BucketIndex}

theorem bucket_put_of_ne (apart : bucketOf? key ≠ some index) (value : String) :
    (hub.edit (.put key value)).store.bucket index = hub.store.bucket index := by
  cases placed : bucketOf? key with
  | none => rw [edit_put_of_unplaced placed]
  | some home =>
    have apart : home ≠ index := fun same => apart (placed.trans (congrArg some same))
    rw [edit_put placed]
    cases found : hub.store.node? key with
    | none =>
      rw [put_of_absent placed found]
      exact Store.bucket_setBucket_of_ne apart
    | some node =>
      rw [put_of_present placed found]
      exact Store.bucket_setBucket_of_ne apart

theorem bucket_put_congr (alike : hub.Alike other) (placed : bucketOf? key = some index)
    (same : other.store.bucket index = hub.store.bucket index) (value : String) :
    (other.edit (.put key value)).store.bucket index =
      (hub.edit (.put key value)).store.bucket index := by
  have nodes := Store.node?_congr placed same
  rw [edit_put placed, edit_put placed]
  cases found : hub.store.node? key with
  | none =>
    rw [put_of_absent placed found, put_of_absent placed (nodes.trans found)]
    dsimp only
    rw [Store.bucket_setBucket_self, Store.bucket_setBucket_self, same, alike.limit]
  | some node =>
    rw [put_of_present placed found, put_of_present placed (nodes.trans found)]
    dsimp only
    rw [Store.bucket_setBucket_self, Store.bucket_setBucket_self, same, alike.accepts_eq]

theorem bucket_drop_of_ne (apart : bucketOf? key ≠ some index) :
    (hub.drop key).store.bucket index = hub.store.bucket index := by
  cases found : hub.store.locate? key with
  | none => rw [drop_of_absent (Store.locate?_eq_none_iff.mp found)]
  | some place =>
    rw [drop_of_located found]
    refine Store.bucket_setBucket_of_ne fun same => apart ?_
    rw [← same]
    exact (Store.locate?_eq_some_iff.mp found).1

theorem bucket_drop_congr (placed : bucketOf? key = some index)
    (same : other.store.bucket index = hub.store.bucket index) :
    (other.drop key).store.bucket index = (hub.drop key).store.bucket index := by
  have nodes := Store.node?_congr placed same
  cases found : hub.store.node? key with
  | none => rw [drop_of_absent found, drop_of_absent (nodes.trans found), same]
  | some node =>
    rw [drop_of_located (Store.locate?_eq_some_iff.mpr ⟨placed, found⟩),
      drop_of_located (Store.locate?_eq_some_iff.mpr ⟨placed, nodes.trans found⟩)]
    dsimp only
    rw [Store.bucket_setBucket_self, Store.bucket_setBucket_self, same]

/-- A bucket, with the order of its nodes, is changed by the edits of the keys filed there. -/
theorem isLocal_bucket : IsLocal Store.bucket fun key index => bucketOf? key = some index where
  frame := by
    intro hub edit index sound apart
    cases edit with
    | put name value => exact bucket_put_of_ne apart value
    | drop name => exact bucket_drop_of_ne apart
    | subscribe name sink =>
      rw [Hub.edit, store_subscribe]
      exact Store.bucket_editSubscribers_of_ne apart _
    | unsubscribe name id =>
      rw [Hub.edit, store_unsubscribe]
      exact Store.bucket_editSubscribers_of_ne apart _
  congr := by
    intro hub other edit index alike placed same
    cases edit with
    | put name value => exact bucket_put_congr alike placed same value
    | drop name => exact bucket_drop_congr placed same
    | subscribe name sink =>
      rw [Hub.edit, Hub.edit, store_subscribe, store_subscribe]
      exact Store.bucket_editSubscribers_congr placed same _
    | unsubscribe name id =>
      rw [Hub.edit, Hub.edit, store_unsubscribe, store_unsubscribe]
      exact Store.bucket_editSubscribers_congr placed same _

end Buckets

end Hub

end WatchedStore
