import WatchedStore.Proofs.Store.Without

/-! # Subscribers do not disturb each other

A run of calls and the same run without the calls that were made for one identity go side by side. At
every moment the one store is the other without the identity, and every mailbox to which no sink of
the identity leads holds the same. So nobody else can tell whether the identity was there, be its
sinks read, full, given up or broken: a write succeeds all the same, and no other queue gets more or
less. The number of subscribers of a key counts the identity where it is one of them, and a full set
of subscribers turns others away; runs in which the latter happens are not compared.
-/

namespace WatchedStore

/-- Whether a call is made for an identity: it subscribes a sink of the identity or ends
subscriptions of it. -/
def Call.isFor (id : SinkId) : Call → Bool
  | .subscribe _ sink => sink.id = id
  | .unsubscribe _ other => other = id
  | .unsubscribeAll other => other = id
  | _ => false

/-- A run without the calls that are made for an identity. -/
def Call.othersThan (id : SinkId) (calls : List Call) : List Call :=
  calls.filter fun call => !call.isFor id

section Deliveries

variable {owned : Nat → Prop} {boxes other : Mailboxes}

/-- A delivery to mailboxes that agree in some places keeps them in agreement there. -/
theorem getElem?_deliver_congr (same : ∀ slot, ¬ owned slot → other[slot]? = boxes[slot]?)
    (sink : Sink) (note : Notice) {slot : Nat} (free : ¬ owned slot) :
    (other.deliver sink note).2[slot]? = (boxes.deliver sink note).2[slot]? := by
  by_cases target : sink.outlet = .mailbox slot
  · have there := same slot free
    unfold Mailboxes.deliver
    rw [target]
    dsimp only
    rw [there]
    cases present : boxes[slot]? with
    | none => rw [there, present]
    | some box =>
      have mirrored : other[slot]? = some box := there.trans present
      dsimp only
      rw [List.getElem?_set_self (List.getElem?_eq_some_iff.mp mirrored).1,
        List.getElem?_set_self (List.getElem?_eq_some_iff.mp present).1]
  · rw [Mailboxes.deliver_getElem?_of_ne target, Mailboxes.deliver_getElem?_of_ne target,
      same slot free]

/-- What a broadcast puts in a mailbox that no sink of an identity leads to does not depend on whether
the identity takes part. -/
theorem getElem?_broadcastTo_filter {id : SinkId} {note : Notice} {sinks : List Sink}
    (owns : ∀ sink ∈ sinks, sink.id = id → ∀ slot, sink.outlet = .mailbox slot → owned slot)
    (same : ∀ slot, ¬ owned slot → other[slot]? = boxes[slot]?) {slot : Nat}
    (free : ¬ owned slot) :
    (broadcastTo note (sinks.filter fun sink => sink.id ≠ id) other).boxes[slot]? =
      (broadcastTo note sinks boxes).boxes[slot]? := by
  induction sinks generalizing boxes other with
  | nil => exact same slot free
  | cons sink rest ih =>
    have restOwns := fun next member => owns next (List.mem_cons_of_mem _ member)
    rw [boxes_broadcastTo_cons]
    by_cases gone : sink.id = id
    · rw [List.filter_cons_of_neg (by simpa using gone)]
      refine ih restOwns fun place unowned => ?_
      have elsewhere : sink.outlet ≠ .mailbox place := fun leads =>
        unowned (owns sink List.mem_cons_self gone place leads)
      rw [Mailboxes.deliver_getElem?_of_ne elsewhere, same place unowned]
    · rw [List.filter_cons_of_pos (by simpa using gone), boxes_broadcastTo_cons]
      exact ih restOwns fun place unowned => getElem?_deliver_congr same sink note unowned

theorem map_isOpen_broadcastTo (note : Notice) (sinks : List Sink) (boxes : Mailboxes) :
    (broadcastTo note sinks boxes).boxes.map Mailbox.isOpen = boxes.map Mailbox.isOpen := by
  refine List.ext_getElem? fun slot => ?_
  rw [List.getElem?_map, isOpen_broadcastTo, List.getElem?_map]

theorem Mailboxes.isOpen_close (boxes : Mailboxes) (slot place : Nat) :
    (boxes.close slot)[place]?.map Mailbox.isOpen =
      (boxes[place]?.map Mailbox.isOpen).map fun reading => if slot = place then false else reading := by
  simp only [close, List.getElem?_modify, Option.map_eq_map, Option.map_map]
  congr 1
  funext box
  by_cases here : slot = place <;> simp [here]

theorem accepts_congr (reading : other.map Mailbox.isOpen = boxes.map Mailbox.isOpen)
    (sink : Sink) : other.accepts sink = boxes.accepts sink := by
  unfold Mailboxes.accepts
  cases sink.outlet with
  | broken => rfl
  | mailbox slot =>
    dsimp only
    rw [← List.getElem?_map, reading, List.getElem?_map]

end Deliveries

namespace Hub

/-- The other hub is the hub as it is without an identity. Mailboxes that a sink of the identity leads
to are `owned`; they have a reader in both or in neither and may hold whatever. -/
structure Lacks (id : SinkId) (owned : Nat → Prop) (hub other : Hub) : Prop where
  sound : hub.store.Sound
  store : other.store = hub.store.without id
  owns : ∀ key, ∀ sink ∈ hub.store.members key, sink.id = id →
    ∀ slot, sink.outlet = .mailbox slot → owned slot
  reading : other.boxes.map Mailbox.isOpen = hub.boxes.map Mailbox.isOpen
  boxes : ∀ slot, ¬ owned slot → other.boxes[slot]? = hub.boxes[slot]?

namespace Lacks

variable {id : SinkId} {owned : Nat → Prop} {hub other : Hub} {key : String}

theorem ofEmpty (id : SinkId) (owned : Nat → Prop) (limit : Nat) :
    Lacks id owned (empty limit) (empty limit) where
  sound := Store.sound_empty limit
  store := by
    refine Store.ext_bucket rfl fun index => ?_
    rw [Store.bucket_without, empty, Store.bucket_empty]
    rfl
  owns key sink member := by
    rw [empty, Store.members_empty] at member
    cases member
  reading := rfl
  boxes _ _ := rfl

theorem node?_eq (same : Lacks id owned hub other) (key : String) :
    other.store.node? key = (hub.store.node? key).map fun node => node.without id := by
  rw [same.store, Store.node?_without]

theorem members_eq (same : Lacks id owned hub other) (key : String) :
    other.store.members key = (hub.store.members key).filter fun sink => sink.id ≠ id := by
  rw [same.store, Store.members_without]

theorem length_boxes (same : Lacks id owned hub other) :
    other.boxes.length = hub.boxes.length := by
  have lengths := congrArg List.length same.reading
  rwa [List.length_map, List.length_map] at lengths

/-- A broadcast to the subscribers of a key reaches the mailboxes of the others alike. -/
theorem broadcast (same : Lacks id owned hub other) (note : Notice) :
    let here := (broadcastTo note (hub.store.members note.key) hub.boxes).boxes
    let there := (broadcastTo note (other.store.members note.key) other.boxes).boxes
    there.map Mailbox.isOpen = here.map Mailbox.isOpen ∧
      ∀ slot, ¬ owned slot → there[slot]? = here[slot]? := by
  refine ⟨?_, fun slot free => ?_⟩
  · rw [map_isOpen_broadcastTo, map_isOpen_broadcastTo, same.reading]
  · rw [same.members_eq]
    exact getElem?_broadcastTo_filter (same.owns note.key) same.boxes free

theorem put (same : Lacks id owned hub other) {index : BucketIndex}
    (placed : bucketOf? key = some index) (value : String) :
    Lacks id owned (hub.put index key value).hub (other.put index key value).hub := by
  obtain ⟨reading, boxes⟩ := same.broadcast (.updated key value)
  constructor
  case sound => exact sound_put same.sound placed value
  case store =>
    have there := same.node?_eq key
    cases found : hub.store.node? key with
    | none =>
      rw [found, Option.map_none] at there
      rw [put_of_absent placed found, put_of_absent placed there]
      dsimp only
      rw [same.store, Store.without_setBucket, Bucket.without_push, Store.bucket_without]
      rfl
    | some node =>
      have survivors : (node.without id).subscribers.members.filter other.boxes.accepts =
          (node.subscribers.members.filter hub.boxes.accepts).filter fun sink => sink.id ≠ id := by
        change (node.subscribers.members.filter _).filter _ = _
        rw [List.filter_filter, List.filter_filter]
        refine List.filter_congr fun sink _ => ?_
        rw [accepts_congr same.reading, Bool.and_comm]
      rw [found, Option.map_some] at there
      rw [put_of_present placed found, put_of_present placed there, survivors]
      dsimp only
      rw [same.store, Store.without_setBucket, Bucket.without_replace, Store.bucket_without]
      rfl
  case owns =>
    intro name sink member
    rw [members_put same.sound placed] at member
    split at member
    · exact same.owns key sink (List.mem_of_mem_filter member)
    · exact same.owns name sink member
  case reading =>
    rw [boxes_put placed, boxes_put placed]
    exact reading
  case boxes =>
    rw [boxes_put placed, boxes_put placed]
    exact boxes

theorem drop (same : Lacks id owned hub other) (key : String) :
    Lacks id owned (hub.drop key) (other.drop key) := by
  obtain ⟨reading, boxes⟩ := same.broadcast (.deleted key)
  constructor
  case sound => exact sound_drop same.sound key
  case store =>
    cases found : hub.store.locate? key with
    | none =>
      have absent := Store.locate?_eq_none_iff.mp found
      have gone := same.node?_eq key
      rw [absent, Option.map_none] at gone
      rw [drop_of_absent absent, drop_of_absent gone, same.store]
    | some place =>
      obtain ⟨index, node⟩ := place
      obtain ⟨placed, present⟩ := Store.locate?_eq_some_iff.mp found
      have still : other.store.locate? key = some (index, node.without id) := by
        rw [Store.locate?_eq_some_iff, same.node?_eq, present]
        exact ⟨placed, rfl⟩
      rw [drop_of_located found, drop_of_located still]
      dsimp only
      rw [same.store, Store.without_setBucket, Bucket.without_erase, Store.bucket_without]
  case owns =>
    intro name sink member
    rw [members_drop same.sound] at member
    split at member
    · cases member
    · exact same.owns name sink member
  case reading =>
    rw [boxes_drop, boxes_drop]
    exact reading
  case boxes =>
    rw [boxes_drop, boxes_drop]
    exact boxes

theorem write (same : Lacks id owned hub other) (pairs : List (String × String)) :
    Lacks id owned (hub.write pairs).hub (other.write pairs).hub := by
  rw [hub_write, hub_write]
  apply List.foldl_rel same
  intro item member first second related
  exact related.put (bucketOf?_of_mem_acceptedPairs member) item.2.2

theorem delete (same : Lacks id owned hub other) (keys : List String) :
    Lacks id owned (hub.delete keys).hub (other.delete keys).hub := by
  rw [hub_delete, hub_delete]
  apply List.foldl_rel same
  intro key _ first second related
  exact related.drop key

/-- A change of subscriptions alone, which brings in no sink of the identity that leads elsewhere. -/
theorem edit (same : Lacks id owned hub other) {later rest : Hub} (boxes : later.boxes = hub.boxes)
    (mirrored : rest.boxes = other.boxes) (sound : later.store.Sound)
    (store : rest.store = later.store.without id)
    (owns : ∀ key, ∀ sink ∈ later.store.members key, sink.id = id →
      ∀ slot, sink.outlet = .mailbox slot → owned slot) : Lacks id owned later rest where
  sound := sound
  store := store
  owns := owns
  reading := by rw [boxes, mirrored, same.reading]
  boxes := by rw [boxes, mirrored]; exact same.boxes

/-- Another sink subscribes and is not turned away by the limit. -/
theorem subscribe (same : Lacks id owned hub other) (key : String) {sink : Sink}
    (apart : sink.id ≠ id) (room : (hub.subscribe key sink).1 ≠ .limitReached) :
    (other.subscribe key sink).1 = (hub.subscribe key sink).1 ∧
      Lacks id owned (hub.subscribe key sink).2 (other.subscribe key sink).2 := by
  change (hub.store.subscribe key sink).1 ≠ .limitReached at room
  have filed : ∀ node, hub.store.node? key = some node →
      (node.without id).subscribers.insert sink =
        ((node.subscribers.insert sink).1, (node.subscribers.insert sink).2.without id) := by
    intro node found
    rw [Store.subscribe_fst, found] at room
    exact Subscribers.insert_without (same.sound.of_node? found).2 apart room
  constructor
  · change (other.store.subscribe key sink).1 = (hub.store.subscribe key sink).1
    rw [Store.subscribe_fst, Store.subscribe_fst, same.node?_eq]
    cases found : hub.store.node? key with
    | none => rfl
    | some node =>
      change ((node.without id).subscribers.insert sink).1 = (node.subscribers.insert sink).1
      rw [filed node found]
  · refine same.edit rfl rfl (same.sound.subscribe key sink) ?_ ?_
    · rw [store_subscribe, store_subscribe, same.store]
      refine (Store.without_editSubscribers fun node found => ?_).symm
      exact (congrArg Prod.snd (filed node found)).symm
    · intro name member present
      change member ∈ (hub.store.subscribe key sink).2.members name at present
      rw [Store.members_subscribe] at present
      split at present
      · rcases List.mem_cons.mp ((Subscribers.file_perm _ _).mem_iff.mp present) with rfl | old
        · exact fun own => absurd own apart
        · exact same.owns key member old
      · exact same.owns name member present

/-- The identity itself subscribes in the first hub. -/
theorem subscribe_own (same : Lacks id owned hub other) (key : String) {sink : Sink}
    (own : sink.id = id) (leads : ∀ slot, sink.outlet = .mailbox slot → owned slot) :
    Lacks id owned (hub.subscribe key sink).2 other := by
  subst own
  refine same.edit rfl rfl (same.sound.subscribe key sink) ?_ ?_
  · rw [store_subscribe, same.store]
    refine (same.sound.without_editSubscribers_self key fun subs => ?_).symm
    exact subs.without_insert_self sink
  · intro name member present
    change member ∈ (hub.store.subscribe key sink).2.members name at present
    rw [Store.members_subscribe] at present
    split at present
    · rcases List.mem_cons.mp ((Subscribers.file_perm _ _).mem_iff.mp present) with rfl | old
      · exact fun _ => leads
      · exact same.owns key member old
    · exact same.owns name member present

theorem owns_unsubscribe (same : Lacks id owned hub other) (key : String) (gone : SinkId) :
    ∀ name, ∀ sink ∈ (hub.store.unsubscribe key gone).2.members name, sink.id = id →
      ∀ slot, sink.outlet = .mailbox slot → owned slot := by
  intro name sink member
  rw [Store.members_unsubscribe] at member
  split at member
  · exact same.owns key sink (List.mem_of_mem_filter member)
  · exact same.owns name sink member

theorem owns_unsubscribeAll (same : Lacks id owned hub other) (gone : SinkId) :
    ∀ name, ∀ sink ∈ (hub.store.unsubscribeAll gone).2.members name, sink.id = id →
      ∀ slot, sink.outlet = .mailbox slot → owned slot := by
  intro name sink member
  rw [Store.members_unsubscribeAll] at member
  exact same.owns name sink (List.mem_of_mem_filter member)

theorem unsubscribe (same : Lacks id owned hub other) (key : String) {gone : SinkId}
    (apart : gone ≠ id) :
    (other.unsubscribe key gone).1 = (hub.unsubscribe key gone).1 ∧
      Lacks id owned (hub.unsubscribe key gone).2 (other.unsubscribe key gone).2 := by
  constructor
  · change (other.store.unsubscribe key gone).1 = (hub.store.unsubscribe key gone).1
    rw [Store.unsubscribe_fst, Store.unsubscribe_fst, same.node?_eq]
    cases hub.store.node? key with
    | none => rfl
    | some node =>
      change (if (node.subscribers.without id).has gone then _ else _) = _
      rw [Subscribers.has_without _ apart]
  · refine same.edit rfl rfl (same.sound.unsubscribe key gone) ?_ (same.owns_unsubscribe key gone)
    rw [store_unsubscribe, store_unsubscribe, same.store]
    refine (Store.without_editSubscribers fun node _ => ?_).symm
    exact (node.subscribers.without_comm id gone).symm

theorem unsubscribe_own (same : Lacks id owned hub other) (key : String) :
    Lacks id owned (hub.unsubscribe key id).2 other := by
  refine same.edit rfl rfl (same.sound.unsubscribe key id) ?_ (same.owns_unsubscribe key id)
  rw [store_unsubscribe, same.store]
  exact (same.sound.without_editSubscribers_self key fun subs => subs.without_without id).symm

theorem unsubscribeAll (same : Lacks id owned hub other) {gone : SinkId} (apart : gone ≠ id) :
    (other.unsubscribeAll gone).1 = (hub.unsubscribeAll gone).1 ∧
      Lacks id owned (hub.unsubscribeAll gone).2 (other.unsubscribeAll gone).2 := by
  constructor
  · change other.store.nodes.countP _ = hub.store.nodes.countP _
    rw [same.store, Store.nodes_without, List.countP_map]
    refine List.countP_congr fun node _ => ?_
    change (node.subscribers.without id).has gone = true ↔ _
    rw [Subscribers.has_without _ apart]
  · refine same.edit rfl rfl (same.sound.unsubscribeAll gone) ?_ (same.owns_unsubscribeAll gone)
    change other.store.without gone = (hub.store.without gone).without id
    rw [same.store]
    exact hub.store.without_comm id gone

theorem unsubscribeAll_own (same : Lacks id owned hub other) :
    Lacks id owned (hub.unsubscribeAll id).2 other := by
  refine same.edit rfl rfl (same.sound.unsubscribeAll id) ?_ (same.owns_unsubscribeAll id)
  rw [same.store]
  exact (hub.store.without_without id).symm

theorem openMailbox (same : Lacks id owned hub other) (capacity : Nat) :
    Lacks id owned (hub.openMailbox capacity).2 (other.openMailbox capacity).2 :=
  { same with
    reading := by
      simp only [Hub.openMailbox, List.map_append, same.reading]
    boxes := by
      intro slot free
      simp only [Hub.openMailbox, List.getElem?_append, same.length_boxes, same.boxes slot free] }

theorem receive (same : Lacks id owned hub other) (slot most : Nat) :
    Lacks id owned (hub.receive slot most).2 (other.receive slot most).2 :=
  { same with
    reading := by
      refine List.ext_getElem? fun place => ?_
      simp only [Hub.receive, List.getElem?_map, Mailboxes.isOpen_receive]
      rw [← List.getElem?_map, same.reading, List.getElem?_map]
    boxes := by
      intro place free
      by_cases here : slot = place
      · subst here
        simp only [Hub.receive, Mailboxes.receive, same.boxes slot free]
        cases present : hub.boxes[slot]? with
        | none => rw [same.boxes slot free, present]
        | some box =>
          have mirrored := (same.boxes slot free).trans present
          simp only [List.getElem?_set_self (List.getElem?_eq_some_iff.mp mirrored).1,
            List.getElem?_set_self (List.getElem?_eq_some_iff.mp present).1]
      · simp only [Hub.receive, Mailboxes.getElem?_receive_of_ne here, same.boxes place free] }

theorem closeMailbox (same : Lacks id owned hub other) (slot : Nat) :
    Lacks id owned (hub.closeMailbox slot) (other.closeMailbox slot) :=
  { same with
    reading := by
      refine List.ext_getElem? fun place => ?_
      simp only [Hub.closeMailbox, List.getElem?_map, Mailboxes.isOpen_close]
      rw [← List.getElem?_map, same.reading, List.getElem?_map]
    boxes := by
      intro place free
      simp only [Hub.closeMailbox, Mailboxes.close, List.getElem?_modify, same.boxes place free] }

/-- A call of somebody else is answered the same with and without the identity, but for how many
subscribers a key has and for what is read from a mailbox of the identity. -/
theorem call (same : Lacks id owned hub other) {call : Call} (others : call.isFor id = false)
    (room : (hub.call call).1 ≠ .subscribing .limitReached) :
    Lacks id owned (hub.call call).2 (other.call call).2 ∧
      ((∀ key, call ≠ .subscriberCount key) →
        (∀ slot most, call = .receive slot most → ¬ owned slot) →
        (other.call call).1 = (hub.call call).1) := by
  cases call with
  | write pairs => exact ⟨same.write pairs, fun _ _ => rfl⟩
  | read keys =>
    refine ⟨same, fun _ _ => congrArg Answer.values (List.map_congr_left fun key _ => ?_)⟩
    rw [same.store, Store.value?_without]
  | delete keys =>
    refine ⟨same.delete keys, fun _ _ => congrArg Answer.missing (answer_delete_congr fun key _ => ?_)⟩
    rw [same.store, Store.held_without]
  | snapshot =>
    refine ⟨same, fun _ _ => congrArg Answer.pairs ?_⟩
    rw [same.store, Store.snapshot_without]
  | size =>
    refine ⟨same, fun _ _ => congrArg Answer.number ?_⟩
    rw [same.store, Store.size_without]
  | subscriberCount key => exact ⟨same, fun count => absurd rfl (count key)⟩
  | subscribe key sink =>
    have apart : sink.id ≠ id := of_decide_eq_false others
    obtain ⟨answer, later⟩ := same.subscribe key apart fun full =>
      room (congrArg Answer.subscribing full)
    exact ⟨later, fun _ _ => congrArg Answer.subscribing answer⟩
  | unsubscribe key gone =>
    have apart : gone ≠ id := of_decide_eq_false others
    obtain ⟨answer, later⟩ := same.unsubscribe key apart
    exact ⟨later, fun _ _ => congrArg Answer.unsubscribing answer⟩
  | unsubscribeAll gone =>
    have apart : gone ≠ id := of_decide_eq_false others
    obtain ⟨answer, later⟩ := same.unsubscribeAll apart
    exact ⟨later, fun _ _ => congrArg Answer.number answer⟩
  | openMailbox capacity =>
    exact ⟨same.openMailbox capacity, fun _ _ => congrArg Answer.number same.length_boxes⟩
  | receive slot most =>
    refine ⟨same.receive slot most, fun _ mine => congrArg Answer.notices ?_⟩
    have there := same.boxes slot (mine slot most rfl)
    simp only [Hub.receive, Mailboxes.receive, there]
    cases hub.boxes[slot]? <;> rfl
  | closeMailbox slot => exact ⟨same.closeMailbox slot, fun _ _ => rfl⟩

/-- A call for the identity in the first hub is nothing to the other. -/
theorem call_own (same : Lacks id owned hub other) {call : Call} (own : call.isFor id = true)
    (leads : ∀ key slot, call = .subscribe key ⟨id, .mailbox slot⟩ → owned slot) :
    Lacks id owned (hub.call call).2 other := by
  cases call with
  | subscribe key sink =>
    obtain ⟨name, outlet⟩ := sink
    obtain rfl : name = id := of_decide_eq_true own
    exact same.subscribe_own key rfl fun slot there => leads key slot (there ▸ rfl)
  | unsubscribe key gone =>
    obtain rfl : gone = id := of_decide_eq_true own
    exact same.unsubscribe_own key
  | unsubscribeAll gone =>
    obtain rfl : gone = id := of_decide_eq_true own
    exact same.unsubscribeAll_own
  | write | read | delete | snapshot | size | subscriberCount | openMailbox | receive
  | closeMailbox => cases own

/-- The hubs stay side by side through a whole run. -/
theorem after (same : Lacks id owned hub other) {calls : List Call}
    (leads : ∀ key slot, .subscribe key ⟨id, .mailbox slot⟩ ∈ calls → owned slot)
    (room : ∀ call, call.isFor id = false →
      (call, .subscribing .limitReached) ∉ hub.transcript calls) :
    Lacks id owned (hub.after calls) (other.after (Call.othersThan id calls)) := by
  induction calls generalizing hub other with
  | nil => exact same
  | cons call rest ih =>
    have later := fun key slot member => leads key slot (List.mem_cons_of_mem _ member)
    have roomLater := fun next others member =>
      room next others (List.mem_cons_of_mem (call, (hub.call call).1) member)
    cases whose : call.isFor id with
    | true =>
      have stays := same.call_own whose fun key slot here =>
        leads key slot (here ▸ List.mem_cons_self)
      have skipped : Call.othersThan id (call :: rest) = Call.othersThan id rest := by
        simp [Call.othersThan, whose]
      rw [skipped]
      exact ih stays later roomLater
    | false =>
      have both := same.call whose fun full =>
        room call whose (full ▸ List.mem_cons_self)
      have kept : Call.othersThan id (call :: rest) = call :: Call.othersThan id rest := by
        simp [Call.othersThan, whose]
      rw [kept]
      exact ih both.1 later roomLater

/-- The subscribers of a key without the identity are one less if the identity is one of them. -/
theorem subscriberCount_eq (same : Lacks id owned hub other) (key : String) :
    hub.store.subscriberCount key = other.store.subscriberCount key +
      if id ∈ (hub.store.members key).map Sink.id then 1 else 0 := by
  have once := @List.Nodup.count _ _ _ id _ (same.sound.nodup_ids_members key)
  rw [List.count_eq_countP, List.countP_map] at once
  rw [Store.subscriberCount_eq, Store.subscriberCount_eq, same.members_eq,
    List.length_eq_countP_add_countP ((· == id) ∘ Sink.id), once, Nat.add_comm,
    List.countP_eq_length_filter]
  simp

end Lacks

/-- Every run of calls from the empty store, set against the run without the calls that were made for
one identity, whatever its sinks are: read, full, given up or broken. As long as nobody else is turned
away because a key has too many subscribers, and at every moment:

* the snapshots are equal; the subscribers of every key are those of the whole run without the
  identity, so that their number differs by the identity itself; and every mailbox to which no sink
  of the identity leads holds the same notifications in the same order;
* every other call is answered the same, if it does not ask for a number of subscribers and does not
  read from a mailbox of the identity. -/
theorem isolated_after_run {limit : Nat} {id : SinkId} {calls : List Call}
    (room : ∀ call, call.isFor id = false →
      (call, .subscribing .limitReached) ∉ (empty limit).transcript calls) :
    let owned slot := ∃ key, .subscribe key ⟨id, .mailbox slot⟩ ∈ calls
    let whole before := (empty limit).after before
    let apart before := (empty limit).after (Call.othersThan id before)
    (∀ before, before <+: calls →
      (apart before).store.snapshot = (whole before).store.snapshot ∧
      (∀ key, (apart before).store.members key =
        ((whole before).store.members key).filter fun sink => sink.id ≠ id) ∧
      (∀ key, (whole before).store.subscriberCount key =
        (apart before).store.subscriberCount key +
          if id ∈ ((whole before).store.members key).map Sink.id then 1 else 0) ∧
      ∀ slot, ¬ owned slot → (apart before).boxes[slot]? = (whole before).boxes[slot]?) ∧
    ∀ before call rest, calls = before ++ call :: rest → call.isFor id = false →
      (∀ key, call ≠ .subscriberCount key) →
      (∀ slot most, call = .receive slot most → ¬ owned slot) →
      ((apart before).call call).1 = ((whole before).call call).1 := by
  intro owned whole apart
  have beside : ∀ before, before <+: calls → Lacks id owned (whole before) (apart before) := by
    rintro before ⟨rest, rfl⟩
    refine (Lacks.ofEmpty id owned limit).after ?_ fun call others member => room call others ?_
    · exact fun key slot member => ⟨key, List.mem_append_left rest member⟩
    · rw [transcript_append]
      exact List.mem_append_left _ member
  refine ⟨fun before early => ?_, fun before call rest split others count mine => ?_⟩
  · have same := beside before early
    refine ⟨?_, same.members_eq, same.subscriberCount_eq, same.boxes⟩
    rw [same.store, Store.snapshot_without]
  · have same := beside before ⟨call :: rest, split.symm⟩
    refine (same.call others fun full => room call others ?_).2 count mine
    rw [split, transcript_append, transcript]
    exact List.mem_append_right _ (full ▸ List.mem_cons_self)

/-- A queue of one place that is full, then given up and pruned, and a broken sink of the same identity
after it: the other subscriber of the key gets every value. -/
theorem isolated_after_run_of_full_then_broken :
    let first : List Call :=
      [.write [("apple", "red")], .openMailbox 1, .openMailbox 9,
        .subscribe "apple" ⟨3, .mailbox 0⟩, .subscribe "apple" ⟨7, .mailbox 1⟩,
        .write [("apple", "green"), ("apple", "blue")], .closeMailbox 0,
        .write [("apple", "grey")], .subscribe "apple" ⟨3, .broken⟩]
    let calls := first ++ [.write [("apple", "black")]]
    let whole := (empty 2).after calls
    let apart := (empty 2).after (Call.othersThan 3 calls)
    whole.boxes[0]? = some ⟨1, [], false⟩ ∧
    whole.boxes[1]? = some ⟨9, [.updated "apple" "green", .updated "apple" "blue",
      .updated "apple" "grey", .updated "apple" "black"], true⟩ ∧
    apart.boxes[1]? = whole.boxes[1]? ∧
    apart.store.members "apple" =
      (whole.store.members "apple").filter (fun sink => sink.id ≠ 3) ∧
    (((empty 2).after (Call.othersThan 3 first)).call (.write [("apple", "black")])).1 =
      (((empty 2).after first).call (.write [("apple", "black")])).1 := by
  intro first calls whole apart
  have free : ∀ entry ∈ (empty 2).transcript calls, entry.2 ≠ .subscribing .limitReached := by
    decide +kernel
  have room : ∀ call : Call, call.isFor 3 = false →
      (call, .subscribing .limitReached) ∉ (empty 2).transcript calls :=
    fun call _ member => free _ member rfl
  have isolated := isolated_after_run room
  have elsewhere : ¬ ∃ key, Call.subscribe key ⟨3, .mailbox 1⟩ ∈ calls := by
    simp [calls, first]
  obtain ⟨-, members, -, boxes⟩ := isolated.1 calls List.prefix_rfl
  refine ⟨by decide +kernel, by decide +kernel, boxes 1 elsewhere, members "apple", ?_⟩
  exact isolated.2 first (.write [("apple", "black")]) [] rfl rfl nofun nofun

end Hub

end WatchedStore
