import WatchedStore.Proofs.Store.Run
import WatchedStore.Proofs.Wire.Frames

/-! # What a batch posts

A batch is a run of puts or deletions, each of which broadcasts one notification and leaves the log
longer by what it ran into. A queue that is not found full gets every notification that its reader
is subscribed to, and while every subscriber has a reader the mailboxes have no part in what becomes
of the store.
-/

namespace WatchedStore

open WatchedStore.Text

/-- A log has no entry about a full queue of an identity. -/
def NeverFull (log : List Warning) (id : SinkId) : Prop := ∀ note, .queueFull id note ∉ log

theorem NeverFull.of_append {log later : List Warning} {id : SinkId}
    (never : NeverFull (log ++ later) id) : NeverFull log id ∧ NeverFull later id :=
  ⟨fun note member => never note (List.mem_append_left _ member),
    fun note member => never note (List.mem_append_right _ member)⟩

section Broadcasts

variable {note : Notice} {sinks : List Sink} {boxes : Mailboxes}

theorem warnings_broadcastTo_cons (note : Notice) (sink : Sink) (rest : List Sink)
    (boxes : Mailboxes) :
    (broadcastTo note (sink :: rest) boxes).warnings =
      (match (boxes.deliver sink note).1 with
        | .queued => []
        | .dropped => [.queueFull sink.id note]
        | .refused error => [.subscriberDropped sink.id note.key error]) ++
      (broadcastTo note rest (boxes.deliver sink note).2).warnings := by
  rw [broadcastTo]
  rcases boxes.deliver sink note with ⟨_ | _ | _, _⟩ <;> rfl

/-- A member whose queue is full when its turn comes is logged. -/
theorem queueFull_mem_broadcastTo {id : SinkId} {slot : Nat} {box : Mailbox} (once : sinks.Nodup)
    (member : ⟨id, .mailbox slot⟩ ∈ sinks)
    (sole : ∀ sink ∈ sinks, sink.outlet = .mailbox slot → sink = ⟨id, .mailbox slot⟩)
    (present : boxes[slot]? = some box) (dropped : (box.offer id note).1 = .dropped) :
    .queueFull id note ∈ (broadcastTo note sinks boxes).warnings := by
  induction sinks generalizing boxes with
  | nil => exact absurd member List.not_mem_nil
  | cons sink rest ih =>
    obtain ⟨fresh, restOnce⟩ := List.nodup_cons.mp once
    rw [warnings_broadcastTo_cons]
    rcases List.mem_cons.mp member with rfl | inRest
    · have outcome : (boxes.deliver ⟨id, .mailbox slot⟩ note).1 = .dropped := by
        simp only [Mailboxes.deliver, present]
        exact dropped
      rw [outcome]
      exact List.mem_append_left _ List.mem_cons_self
    · have apart : sink.outlet ≠ .mailbox slot := by
        intro leads
        exact fresh (sole sink List.mem_cons_self leads ▸ inRest)
      refine List.mem_append_right _ (ih restOnce inRest ?_ ?_)
      · exact fun other later => sole other (List.mem_cons_of_mem _ later)
      · rw [Mailboxes.deliver_getElem?_of_ne apart]
        exact present

/-- A mailbox holds nothing after a broadcast that it did not hold before, the notification
apart. -/
theorem mem_queued_broadcastTo {slot : Nat} {later : Mailbox} {old : Notice}
    (after : (broadcastTo note sinks boxes).boxes[slot]? = some later)
    (member : old ∈ later.queued) :
    old = note ∨ ∃ box, boxes[slot]? = some box ∧ old ∈ box.queued := by
  induction sinks generalizing boxes with
  | nil => exact .inr ⟨later, after, member⟩
  | cons sink rest ih =>
    rw [boxes_broadcastTo_cons] at after
    rcases ih after with same | ⟨between, present, member⟩
    · exact .inl same
    · by_cases target : sink.outlet = .mailbox slot
      · simp only [Mailboxes.deliver, target] at present
        cases before : boxes[slot]? with
        | none =>
          rw [before] at present
          cases before.symm.trans present
        | some box =>
          have bound : slot < boxes.length := (List.getElem?_eq_some_iff.mp before).1
          simp only [before, List.getElem?_set_self bound, Option.some.injEq] at present
          rw [← present, Mailbox.offer] at member
          split at member
          · exact .inr ⟨box, rfl, member⟩
          · split at member
            · rcases List.mem_append.mp member with held | new
              · exact .inr ⟨box, rfl, held⟩
              · exact .inl (List.mem_singleton.mp new)
            · exact .inr ⟨box, rfl, member⟩
      · rw [Mailboxes.deliver_getElem?_of_ne target] at present
        exact .inr ⟨between, present, member⟩

@[simp] theorem length_boxes_broadcastTo (note : Notice) (sinks : List Sink) (boxes : Mailboxes) :
    (broadcastTo note sinks boxes).boxes.length = boxes.length := by
  induction sinks generalizing boxes with
  | nil => rfl
  | cons sink rest ih => rw [boxes_broadcastTo_cons, ih, Mailboxes.deliver_length]

end Broadcasts

/-- Who reads which mailbox. -/
abbrev Seats := Nat → Option SinkId

/-- A sink is that of a reader. -/
def Sink.IsSeated (seats : Seats) (sink : Sink) : Prop :=
  ∃ slot, seats slot = some sink.id ∧ sink.outlet = .mailbox slot

variable {seats : Seats}

theorem Sink.IsSeated.eq_of_outlet {sink : Sink} (seated : sink.IsSeated seats) {slot : Nat}
    {id : SinkId} (seat : seats slot = some id) (leads : sink.outlet = .mailbox slot) :
    sink = ⟨id, .mailbox slot⟩ := by
  obtain ⟨own, taken, outlet⟩ := seated
  obtain rfl : own = slot := by
    rw [outlet] at leads
    exact Outlet.mailbox.inj leads
  cases seat.symm.trans taken
  rw [← leads]

/-- A queue that is not found full gets what its reader is subscribed to. -/
theorem getElem?_broadcastTo_of_seat {note : Notice} {sinks : List Sink} {boxes : Mailboxes}
    (once : sinks.Nodup) (seated : ∀ sink ∈ sinks, sink.IsSeated seats) {slot : Nat} {id : SinkId}
    (seat : seats slot = some id) {box : Mailbox} (present : boxes[slot]? = some box)
    (reading : box.isOpen = true)
    (never : .queueFull id note ∉ (broadcastTo note sinks boxes).warnings) :
    (broadcastTo note sinks boxes).boxes[slot]? = some
      (if ⟨id, .mailbox slot⟩ ∈ sinks then { box with queued := box.queued ++ [note] }
        else box) := by
  have sole : ∀ sink ∈ sinks, sink.outlet = .mailbox slot → sink = ⟨id, .mailbox slot⟩ :=
    fun sink member => (seated sink member).eq_of_outlet seat
  split
  · next member =>
    rw [getElem?_broadcastTo_of_mem once member sole present]
    have kept : (box.offer id note).1 ≠ .dropped := fun dropped =>
      never (queueFull_mem_broadcastTo once member sole present dropped)
    simp only [Mailbox.offer, reading, Bool.not_true, Bool.false_eq_true, ↓reduceIte] at kept ⊢
    split
    · rfl
    · next full =>
      rw [if_neg full] at kept
      exact absurd rfl kept
  · next absent =>
    rw [getElem?_broadcastTo_of_forall_ne]
    · exact present
    · exact fun sink member leads => absent (sole sink member leads ▸ member)

namespace Store

/-- A store with a pair more, or with the value of its key replaced. -/
def enter (store : Store) (index : BucketIndex) (key value : String) : Store :=
  store.setBucket index
    (match (store.bucket index).find? key with
      | none => store.bucket index ++ [⟨key, value, Subscribers.empty store.limit⟩]
      | some node => (store.bucket index).replace ⟨key, value, node.subscribers⟩)

/-- Editing subscribers makes no keys. -/
theorem exists_node?_of_editSubscribers {store : Store} {key other : String}
    {edit : Subscribers → Subscribers} {node : Node}
    (found : (store.editSubscribers key edit).node? other = some node) :
    ∃ before, store.node? other = some before := by
  rw [node?_editSubscribers] at found
  split at found
  · next same =>
    obtain ⟨before, present, -⟩ := Option.map_eq_some_iff.mp found
    exact ⟨before, same ▸ present⟩
  · exact ⟨node, found⟩

end Store

namespace Hub

variable {hub : Hub}

/-- While every subscriber has a reader, the mailboxes have no part in what a put does to the
store. -/
theorem store_put {index : BucketIndex} {key : String} (placed : bucketOf? key = some index)
    (value : String) (read : ∀ sink ∈ hub.store.members key, hub.boxes.accepts sink = true) :
    (hub.put index key value).hub.store = hub.store.enter index key value := by
  have place := @Store.node?_of_placed hub.store key index placed
  cases found : hub.store.node? key with
  | none =>
    rw [put_of_absent placed found, Store.enter, ← place, found]
  | some node =>
    rw [Store.members_of_node? found] at read
    rw [put_of_present placed found, Store.enter, ← place, found, List.filter_eq_self.mpr read]

/-- Nor have they in what a deletion does to it. -/
theorem store_drop {other : Hub} (same : other.store = hub.store) (key : String) :
    (other.drop key).store = (hub.drop key).store := by
  cases found : hub.store.locate? key with
  | none =>
    have absent := Store.locate?_eq_none_iff.mp found
    rw [drop_of_absent absent, drop_of_absent (same ▸ absent), same]
  | some place =>
    rw [drop_of_located found, drop_of_located (same ▸ found), same]

theorem warnings_put {index : BucketIndex} {key : String} (placed : bucketOf? key = some index)
    (value : String) :
    (hub.put index key value).warnings =
      (broadcastTo (.updated key value) (hub.store.members key) hub.boxes).warnings := by
  have place := @Store.node?_of_placed hub.store key index placed
  cases found : hub.store.node? key with
  | none =>
    rw [put_of_absent placed found, Store.members_of_absent found]
    rfl
  | some node =>
    rw [Store.members_of_node? found]
    simp only [put, ← place, found]
    rfl

theorem length_boxes_write (hub : Hub) (pairs : List (String × String)) :
    (hub.write pairs).hub.boxes.length = hub.boxes.length :=
  @relates_write Unit (fun later _ => later.boxes.length = hub.boxes.length) (fun _ _ _ => ())
    (fun _ _ _ _ value placed same => by
      rw [boxes_put placed value, length_boxes_broadcastTo]
      exact same) hub () rfl pairs

theorem length_boxes_delete (hub : Hub) (keys : List String) :
    (hub.delete keys).hub.boxes.length = hub.boxes.length :=
  @relates_delete Unit (fun later _ => later.boxes.length = hub.boxes.length) (fun _ _ => ())
    (fun _ _ key same => by
      rw [boxes_drop, length_boxes_broadcastTo]
      exact same) hub () rfl keys

end Hub

namespace Change

/-- A change goes on with a put. -/
def put (change : Change) (item : BucketIndex × String × String) : Change :=
  let next := change.hub.put item.1 item.2.1 item.2.2
  ⟨next.hub, change.warnings ++ next.warnings⟩

/-- A change goes on with a deletion. -/
def drop (change : Change) (key : String) : Change :=
  match change.hub.remove? key with
  | none => change
  | some next => ⟨next.hub, change.warnings ++ next.warnings⟩

/-- A change goes on with a batch of pairs. -/
def write (change : Change) (pairs : List (String × String)) : Change :=
  let reply := change.hub.write pairs
  ⟨reply.hub, change.warnings ++ reply.warnings⟩

/-- A change goes on with a batch of deletions. -/
def delete (change : Change) (keys : List String) : Change :=
  let reply := change.hub.delete keys
  ⟨reply.hub, change.warnings ++ reply.warnings⟩

/-- A change goes on with a broadcast to the subscribers of a key. -/
def post (change : Change) (note : Notice) : Change :=
  let result := broadcastTo note (change.hub.store.members note.key) change.hub.boxes
  ⟨{ change.hub with boxes := result.boxes }, change.warnings ++ result.warnings⟩

theorem write_eq_foldl (change : Change) (pairs : List (String × String)) :
    change.write pairs = (acceptedPairs pairs).foldl put change := by
  unfold write Hub.write
  generalize acceptedPairs pairs = items
  dsimp only
  induction items generalizing change with
  | nil => simp [Hub.putAll]
  | cons item rest ih =>
    obtain ⟨index, key, value⟩ := item
    rw [List.foldl_cons, ← ih, Hub.putAll]
    simp only [put, List.append_assoc]

theorem delete_eq_foldl (change : Change) (keys : List String) :
    change.delete keys = keys.foldl drop change := by
  unfold delete
  dsimp only
  induction keys generalizing change with
  | nil => simp [Hub.delete]
  | cons key rest ih =>
    rw [List.foldl_cons, ← ih, Hub.delete, drop]
    cases change.hub.remove? key with
    | none => rfl
    | some next => simp only [List.append_assoc]

theorem put_eq_post {change : Change} {index : BucketIndex} {key : String}
    (placed : bucketOf? key = some index) (value : String) :
    (change.put (index, key, value)).hub.boxes = (change.post (.updated key value)).hub.boxes ∧
      (change.put (index, key, value)).warnings = (change.post (.updated key value)).warnings := by
  refine ⟨Hub.boxes_put placed value, ?_⟩
  rw [put, Hub.warnings_put placed value]
  rfl

theorem drop_eq_post (change : Change) (key : String) :
    (change.drop key).hub = change.hub.drop key ∧
      (change.drop key).hub.boxes = (change.post (.deleted key)).hub.boxes ∧
      (change.drop key).warnings = (change.post (.deleted key)).warnings := by
  have boxes := Hub.boxes_drop change.hub key
  have same : (change.drop key).hub = change.hub.drop key := by
    unfold drop Hub.drop
    cases change.hub.remove? key <;> rfl
  refine ⟨same, same ▸ boxes, ?_⟩
  unfold drop Hub.remove? post
  cases found : change.hub.store.locate? key with
  | none =>
    have absent := Store.locate?_eq_none_iff.mp found
    simp [Notice.key, Store.members_of_absent absent, broadcastTo]
  | some place =>
    have present := (Store.locate?_eq_some_iff.mp found).2
    simp [Notice.key, Store.members_of_node? present, Subscribers.dismiss]

end Change

end WatchedStore
